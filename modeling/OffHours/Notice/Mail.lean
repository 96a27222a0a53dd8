import OffHours.Notice.Mailbox
import OffHours.Notice.Notifier
import OffHours.Settings.Basic

/-!
# Messages by mail

A message goes by mail to all recipients at once. Addresses are read when the channel is set
up; the server is only asked when a message is sent.
-/

namespace OffHours

/-- A mail. -/
structure Mail where
  /-- The host of the mail server. -/
  host : String
  /-- The port of the mail server. -/
  port : Nat
  /-- The name and the password that the server asks for. -/
  login : Option (String × String)
  /-- Who it comes from. -/
  sender : Mailbox
  /-- Whom it goes to. -/
  recipients : List Mailbox
  /-- What it is about. -/
  subject : String
  /-- What it says. -/
  body : String
  deriving DecidableEq, Repr

/-- A way to send mail: why it failed, if it did, and the outside after it. -/
abbrev MailRelay (σ : Type) := Mail → σ → Except String Unit × σ

/-- The relay of a machine without a network. -/
def MailRelay.offline {σ : Type} : MailRelay σ := fun _ world =>
  (.error "Connection error: Network is unreachable (os error 101)", world)

/-- Where mail comes from and goes to. -/
structure MailRoute where
  /-- Who it comes from. -/
  sender : Mailbox
  /-- Whom it goes to. -/
  recipients : List Mailbox
  /-- There is a recipient. -/
  reaches : recipients ≠ []

namespace MailRoute

/-- The mail address that a text denotes. -/
def mailbox (text : String) : Except NotifyError Mailbox :=
  (Mailbox.parse text).mapError fun fault => .config fault.message

/-- The route in settings; the sender is read before the recipients. -/
def ofSettings (settings : MailSettings) : Except NotifyError MailRoute := do
  let sender ← mailbox settings.sender
  let recipients ← settings.recipients.mapM mailbox
  if reaches : recipients ≠ [] then return ⟨sender, recipients, reaches⟩
  else throw (.config "at least one recipient is required")

/-- What every mail is about. -/
def subject : String := "[autoshutdown] VM schedule run reported failures"

/-- The mail with a message. -/
def mail (route : MailRoute) (settings : MailSettings) (login : Option (String × String))
    (message : String) : Mail :=
  { host := settings.host, port := settings.port, login, sender := route.sender
    recipients := route.recipients, subject, body := message }

/-- The channel over a relay. -/
def notifier {σ : Type} (relay : MailRelay σ) (settings : MailSettings)
    (login : Option (String × String)) (route : MailRoute) : Notifier σ where
  name := "email"
  deliver message world :=
    match relay (route.mail settings login message) world with
    | (.error reason, world) => ⟨.error (.smtp reason), [], world⟩
    | (.ok (), world) =>
      ⟨.ok (), Log.info ("Failure notification emailed to " ++ toString route.recipients.length ++
        " recipient(s)"), world⟩

end MailRoute

end OffHours
