import OffHours.Settings.Secret
import OffHours.Text.Quoted
import OffHours.Toml.Reader

/-!
# The directory of the settings

The settings stand in `main.toml`, the secrets in `secrets.toml`. The settings are loaded
first; a file with secrets may be missing, the other one may not.
-/

namespace OffHours

/-- What is found at a path. -/
inductive FileState where
  /-- Nothing. -/
  | absent
  /-- Something that cannot be read as a text, and why. -/
  | unreadable (reason : String)
  /-- A text. -/
  | content (text : String)
  deriving DecidableEq, Repr

/-- What is found at each path. -/
abbrev Files := String → FileState

/-- Why a file cannot be read when nothing is there. -/
def absentReason : String := "No such file or directory (os error 2)"

/-- Why loading ends without settings and secrets. -/
inductive LoadFault where
  /-- The settings cannot be used. -/
  | settings (fault : SettingsFault)
  /-- The file with secrets could not be read, and why. -/
  | unreadSecrets (path reason : String)
  /-- The file does not hold secrets. -/
  | malformedSecrets (path : String)
  deriving DecidableEq, Repr

/-- The text of a failed loading. -/
def LoadFault.message : LoadFault → String
  | settings fault => fault.message
  | unreadSecrets path _ => "Failed to read secrets file: " ++ Text.quote path
  | malformedSecrets path => "Failed to parse secrets file: " ++ Text.quote path

namespace Settings

/-- The path of the settings in a directory. -/
def path (directory : String) : String := directory ++ "/main.toml"

/-- The report of loaded settings. -/
def loadedLog (settings : Settings) : Log :=
  Log.info ("Configuration loaded: subscription " ++ settings.subscription ++ ", tag '" ++
    settings.tagName ++ "', simulate " ++ toString settings.simulate ++ ", concurrency " ++
    toString settings.width)

/-- Settings that were read, after the overrides and without a fault. -/
def adopt (environment : Environment) (settings : Settings) : Except SettingsFault Settings × Log :=
  let overridden := settings.override environment
  match overridden.fault, overridden.settings.fault? with
  | some fault, _ => (.error fault, overridden.log)
  | none, some fault => (.error fault, overridden.log)
  | none, none =>
    (.ok overridden.settings, overridden.log ++ overridden.settings.loadedLog)

/-- The settings in a file that was found at a path. -/
def ofFile (environment : Environment) (path : String) :
    FileState → Except SettingsFault Settings × Log
  | .absent => (.error (.unloadable path absentReason), [])
  | .unreadable reason => (.error (.unloadable path reason), [])
  | .content text =>
    match (Toml.read? text).bind ofValue? with
    | none => (.error .unreadable, [])
    | some settings => settings.adopt environment

end Settings

namespace Secrets

/-- The path of the secrets in a directory. -/
def path (directory : String) : String :=
  if directory.isEmpty || directory.toList.getLast? = some '/' then directory ++ "secrets.toml"
  else directory ++ "/secrets.toml"

/-- The secrets in a file that was found at a path. -/
def ofFile (path : String) : FileState → Except LoadFault Secrets × Log
  | .absent =>
    (.ok {}, Log.warn ("Secrets file not found at " ++ Text.quote path ++
      ", access token must come from " ++ Environment.accessToken))
  | .unreadable reason => (.error (.unreadSecrets path reason), [])
  | .content text =>
    match (Toml.read? text).bind ofValue? with
    | none => (.error (.malformedSecrets path), [])
    | some secrets => (.ok secrets, Log.info ("Loaded secrets from " ++ Text.quote path))

end Secrets

/-- The settings and secrets of a directory, and the reports of loading them. -/
def loadDirectory (environment : Environment) (files : Files) (directory : String) :
    Except LoadFault (Settings × Secrets) × Log :=
  let main := Settings.path directory
  match Settings.ofFile environment main (files main) with
  | (.error fault, log) => (.error (.settings fault), log)
  | (.ok settings, log) =>
    let path := Secrets.path directory
    match Secrets.ofFile path (files path) with
    | (.error fault, later) => (.error fault, log ++ later)
    | (.ok secrets, later) => (.ok (settings, secrets), log ++ later)

end OffHours
