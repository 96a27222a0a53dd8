import OffHours.Calendar.Date
import OffHours.Calendar.Instant
import OffHours.Calendar.Weekday
import OffHours.CommandLine.Arguments
import OffHours.CommandLine.Messages
import OffHours.CommandLine.Similar
import OffHours.Data.Decimal
import OffHours.Data.Reader
import OffHours.Data.Value
import OffHours.Fleet.ApiError
import OffHours.Fleet.ControlPlane
import OffHours.Fleet.EffectiveSchedule
import OffHours.Fleet.Listing
import OffHours.Fleet.Machine
import OffHours.Fleet.Manager.Address
import OffHours.Fleet.Manager.Document
import OffHours.Fleet.Manager.Plane
import OffHours.Fleet.Memory
import OffHours.Fleet.Outcome
import OffHours.Fleet.PowerState
import OffHours.Fleet.Reconciler
import OffHours.Fleet.Roster
import OffHours.Fleet.Run
import OffHours.Fleet.Sweep
import OffHours.Fleet.Visit
import OffHours.Http.Exchange
import OffHours.Http.Redirect
import OffHours.Http.Script
import OffHours.Http.Status
import OffHours.Json.Reader
import OffHours.Log
import OffHours.Main
import OffHours.Notice.Channels
import OffHours.Notice.Mail
import OffHours.Notice.Mailbox
import OffHours.Notice.Notifier
import OffHours.Notice.Webhook
import OffHours.Program
import OffHours.Proofs.Fleet.Completion
import OffHours.Proofs.Fleet.Concurrency
import OffHours.Proofs.Fleet.Convergence
import OffHours.Proofs.Fleet.Course
import OffHours.Proofs.Fleet.Deadline
import OffHours.Proofs.Fleet.Duplicates
import OffHours.Proofs.Fleet.Forecast
import OffHours.Proofs.Fleet.Isolation
import OffHours.Proofs.Fleet.Listings
import OffHours.Proofs.Fleet.PowerCalls
import OffHours.Proofs.Fleet.PowerStates
import OffHours.Proofs.Fleet.Refinement
import OffHours.Proofs.Fleet.Roster
import OffHours.Proofs.Fleet.Schedules
import OffHours.Proofs.Fleet.Separation
import OffHours.Proofs.Fleet.Simulation
import OffHours.Proofs.Fleet.SingleAction
import OffHours.Proofs.Schedule.Conservation
import OffHours.Proofs.Schedule.Reading
import OffHours.Proofs.Schedule.RoundTrip
import OffHours.Proofs.Schedule.Scanning
import OffHours.Proofs.Schedule.Siblings
import OffHours.Proofs.Schedule.Spellings
import OffHours.Schedule.Fault
import OffHours.Schedule.Hour
import OffHours.Schedule.Lexer
import OffHours.Schedule.Printer
import OffHours.Schedule.Rule
import OffHours.Schedule.Segment
import OffHours.Schedule.Tag
import OffHours.Schedule.Token
import OffHours.Schedule.Verdict
import OffHours.Settings.Basic
import OffHours.Settings.Directory
import OffHours.Settings.Fault
import OffHours.Settings.Override
import OffHours.Settings.Secret
import OffHours.Text.Alphanumeric
import OffHours.Text.Blank
import OffHours.Text.CodePoints
import OffHours.Text.Hexadecimal
import OffHours.Text.Letters
import OffHours.Text.Numeral
import OffHours.Text.Pieces
import OffHours.Text.Printable
import OffHours.Text.Quoted
import OffHours.Toml.Document
import OffHours.Toml.Quoted
import OffHours.Toml.Reader
import OffHours.Toml.Scalar
import OffHours.Toml.Token
import OffHours.Url.Basic
import OffHours.Url.Encoding
import OffHours.Url.Host
import OffHours.Url.Parser
import OffHours.Url.Punycode
import OffHours.Proofs.Schedule.Consistency
import OffHours.Proofs.Schedule.Chunks
import OffHours.Proofs.Schedule.Spacing
import OffHours.Proofs.Schedule.DateWords
import OffHours.Proofs.Schedule.WrittenDates
import OffHours.Proofs.Fleet.Rearrangement
import OffHours.Proofs.Fleet.Truncation
import OffHours.Proofs.Fleet.Reporting
import OffHours.Proofs.Fleet.Paging
import OffHours.Proofs.Fleet.FailedListings
import OffHours.Proofs.Fleet.Counterparts
import OffHours.Proofs.Fleet.LetterCase
import OffHours.Proofs.Schedule.Grammar
import OffHours.Proofs.Fleet.Matching
import OffHours.Proofs.Fleet.MatchedRuns
import OffHours.Proofs.Http.Redirects
import OffHours.Proofs.Program.Readiness
import OffHours.Proofs.Program.Safety
import OffHours.Proofs.Program.Secrecy
import OffHours.Proofs.Program.Confinement
import OffHours.Proofs.Schedule.Verdicts
import OffHours.Proofs.Fleet.Reconciling
import OffHours.Proofs.Fleet.LinkedPages
import OffHours.Proofs.Fleet.ReturningPages
import OffHours.Proofs.Notice.Fanout
import OffHours.Proofs.Schedule.Drafts
import OffHours.Proofs.Settings.Effective
import OffHours.Proofs.Fleet.ClassifiedCalls
