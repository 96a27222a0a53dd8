import OffHours.Data.Reader

/-!
# Settings

What an operator can set, with the values of settings that are left out, and how settings are
read from a table of data. Names that are no setting are passed over.
-/

namespace OffHours

/-- How mail about failures is sent. -/
structure MailSettings where
  /-- The host of the mail server. -/
  host : String
  /-- The port of the mail server. -/
  port : Nat := 587
  /-- The address that mail comes from. -/
  sender : String
  /-- The addresses that mail goes to. -/
  recipients : List String
  deriving DecidableEq, Repr

/-- Where messages about failures go. -/
structure NoticeSettings where
  /-- The address of a web service. -/
  webhook : Option String := none
  /-- The mail to send. -/
  mail : Option MailSettings := none
  deriving DecidableEq, Repr

/-- The settings of the program. -/
structure Settings where
  /-- The subscription whose machines are swept. -/
  subscription : String
  /-- The address of the management interface. -/
  endpoint : String := "https://management.azure.com"
  /-- The key of the schedule tag. -/
  tagName : String := "AutoShutdownSchedule"
  /-- Whether actions are only reported. -/
  simulate : Bool := false
  /-- Seconds until a request is given up. -/
  requestSeconds : Nat := 60
  /-- Seconds until a run is cut. -/
  runSeconds : Nat := 3000
  /-- How many machines are in progress at once. -/
  width : Nat := 1
  /-- Where messages about failures go. -/
  notices : NoticeSettings := {}
  deriving DecidableEq, Repr

namespace MailSettings

/-- The fields of the mail settings. -/
def fields : FieldReader MailSettings := do
  let host ← .required "smtp_host" Value.text?
  let port ← .withDefault "smtp_port" Value.word16? 587
  let sender ← .required "from" Value.text?
  let recipients ← .required "to" (Value.list? Value.text?)
  return { host, port, sender, recipients }

/-- The mail settings in a value. -/
def ofValue? (value : Value) : Option MailSettings := value.record? fields

end MailSettings

namespace NoticeSettings

/-- The fields of the notice settings. -/
def fields : FieldReader NoticeSettings := do
  let webhook ← .nullable "webhook_url" Value.text?
  let mail ← .nullable "email" MailSettings.ofValue?
  return { webhook, mail }

/-- The notice settings in a value. -/
def ofValue? (value : Value) : Option NoticeSettings := value.record? fields

end NoticeSettings

namespace Settings

/-- The settings of a subscription with everything else left out. -/
def ofSubscription (subscription : String) : Settings := { subscription }

/-- The fields of the settings. -/
def fields : FieldReader Settings := do
  let subscription ← .required "subscription_id" Value.text?
  let absent := ofSubscription subscription
  let endpoint ← .withDefault "management_endpoint" Value.text? absent.endpoint
  let tagName ← .withDefault "tag_name" Value.text? absent.tagName
  let simulate ← .withDefault "simulate" Value.boolean? absent.simulate
  let requestSeconds ← .withDefault "request_timeout_seconds" Value.word64? absent.requestSeconds
  let runSeconds ← .withDefault "run_timeout_seconds" Value.word64? absent.runSeconds
  let width ← .withDefault "max_concurrent_machines" Value.word64? absent.width
  let notices ← .withDefault "notifications" NoticeSettings.ofValue? absent.notices
  return { subscription, endpoint, tagName, simulate, requestSeconds, runSeconds, width, notices }

/-- The settings in a value. -/
def ofValue? (value : Value) : Option Settings := value.record? fields

end Settings

end OffHours
