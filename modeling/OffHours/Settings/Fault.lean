import OffHours.Settings.Basic
import OffHours.Text.Blank

/-!
# Faults of settings

Why settings cannot be used. `Settings.check` finds the first fault of settings that were read.
-/

namespace OffHours

/-- Why settings cannot be used. -/
inductive SettingsFault where
  /-- The file at a path could not be loaded. -/
  | unloadable (path reason : String)
  /-- The file does not hold settings. -/
  | unreadable
  /-- A setting that has to be there is missing or blank. -/
  | missing (field : String)
  /-- A setting has a value that cannot be used. -/
  | invalid (field reason : String)
  deriving DecidableEq, Repr

/-- The text of a fault. -/
def SettingsFault.message : SettingsFault → String
  | unloadable path reason => "Failed to load config from '" ++ path ++ "': " ++ reason
  | unreadable => "Failed to parse config"
  | missing field => "Missing required field: " ++ field
  | invalid field reason => "Invalid value for '" ++ field ++ "': " ++ reason

namespace Settings

/-- Whether an address begins like one of the web. -/
def isWebAddress (address : String) : Bool :=
  "http://".toList.isPrefixOf address.toList || "https://".toList.isPrefixOf address.toList

/-- The numbers that must not be zero, by the names of their settings. -/
def positives (settings : Settings) : List (String × Nat) :=
  [("request_timeout_seconds", settings.requestSeconds),
    ("run_timeout_seconds", settings.runSeconds), ("max_concurrent_machines", settings.width)]

/-- Whether mail is asked for and goes to nobody. -/
def mailLacksRecipients (settings : Settings) : Bool :=
  settings.notices.mail.any fun mail => mail.recipients.isEmpty

/-- The first fault of the settings. -/
def fault? (settings : Settings) : Option SettingsFault :=
  if Text.allBlank settings.subscription then some (.missing "subscription_id")
  else if Text.allBlank settings.tagName then some (.invalid "tag_name" "must not be empty")
  else if !isWebAddress settings.endpoint then
    some (.invalid "management_endpoint" ("'" ++ settings.endpoint ++ "' is not an http(s) URL"))
  else
    match settings.positives.find? fun entry => entry.2 = 0 with
    | some (field, _) => some (.invalid field "must be greater than zero")
    | none =>
      if settings.mailLacksRecipients then
        some (.invalid "notifications.email.to" "at least one recipient is required")
      else none

/-- Refuse settings with a fault. -/
def check (settings : Settings) : Except SettingsFault Unit :=
  match settings.fault? with
  | some fault => .error fault
  | none => .ok ()

end Settings

end OffHours
