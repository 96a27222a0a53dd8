import OffHours.Log
import OffHours.Settings.Fault
import OffHours.Text.Letters

/-!
# Overrides by the environment

Two settings can be overridden by variables of the environment: the subscription by a text that
is not blank, and whether actions are only reported by a word for a truth value.
-/

namespace OffHours

/-- The variables of the environment. -/
abbrev Environment := String → Option String

namespace Environment

/-- The variable with the subscription. -/
def subscription : String := "AUTOSHUTDOWN_SUBSCRIPTION_ID"

/-- The variable that tells whether actions are only reported. -/
def simulate : String := "AUTOSHUTDOWN_SIMULATE"

/-- The variable with the access token. -/
def accessToken : String := "AUTOSHUTDOWN_ACCESS_TOKEN"

/-- The variable with the directory of the settings. -/
def directory : String := "AUTOSHUTDOWN_CONFIG_DIR"

/-- The variable with the name of the host. -/
def host : String := "HOSTNAME"

/-- A variable that is set to a text that is not blank. -/
def filled? (environment : Environment) (name : String) : Option String :=
  (environment name).filter fun text => !Text.allBlank text

end Environment

/-- The truth value of a word in any case with blanks around it; no word is false. -/
def truthOf? (text : String) : Option Bool :=
  let word := Text.fold (Text.trim text)
  if ["1", "true", "yes", "on"].contains word then some true
  else if ["0", "false", "no", "off", ""].contains word then some false
  else none

/-- Settings after the overrides, the fault of one that cannot be used, and the reports. -/
structure Overridden where
  /-- The settings; overrides before a fault are in them. -/
  settings : Settings
  /-- The fault, if there is one. -/
  fault : Option SettingsFault := none
  /-- What was reported. -/
  log : Log := []

namespace Settings

/-- Override the subscription. -/
def overrideSubscription (environment : Environment) (settings : Settings) : Settings × Log :=
  match environment.filled? Environment.subscription with
  | some text =>
    ({ settings with subscription := Text.trim text },
      Log.debug ("Subscription id overridden from " ++ Environment.subscription))
  | none => (settings, [])

/-- Override whether actions are only reported. -/
def overrideSimulate (environment : Environment) (settings : Settings) : Overridden :=
  match environment Environment.simulate with
  | none => { settings }
  | some text =>
    match truthOf? text with
    | some simulate =>
      { settings := { settings with simulate }
        log := Log.debug ("Simulate overridden from " ++ Environment.simulate ++ ": " ++
          toString simulate) }
    | none =>
      { settings
        fault := some (.invalid Environment.simulate ("'" ++ text ++ "' is not a boolean")) }

/-- Settings after both overrides. -/
def override (environment : Environment) (settings : Settings) : Overridden :=
  let (settings, log) := settings.overrideSubscription environment
  let result := settings.overrideSimulate environment
  { result with log := log ++ result.log }

end Settings

end OffHours
