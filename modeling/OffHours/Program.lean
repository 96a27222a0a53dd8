import OffHours.CommandLine.Messages
import OffHours.Fleet.Manager.Plane
import OffHours.Fleet.Run
import OffHours.Notice.Channels
import OffHours.Settings.Directory

/-!
# The program

From arguments, environment and files to one run against a server. Nothing is sent before
settings, secrets and token are known to be there.
-/

namespace OffHours

open CommandLine Http

/-- What surrounds the program. -/
structure Surroundings (σ : Type) where
  /-- The variables of the environment. -/
  environment : Environment
  /-- The files. -/
  files : Files
  /-- The servers, behind the library that sends requests to them. -/
  server : Server σ
  /-- The way of mail. -/
  relay : MailRelay (Wire σ)
  /-- What identifies the run. -/
  runId : String
  /-- The time. -/
  now : Instant

/-- What the program leaves behind. -/
structure Ending (σ : Type) where
  /-- The exit code. -/
  code : Nat
  /-- What is shown as output. -/
  output : String := ""
  /-- What is shown as an error. -/
  errors : String := ""
  /-- What was reported. -/
  log : Log := []
  /-- The servers and the requests that reached them. -/
  wire : Wire σ

namespace Program

variable {σ : Type}

/-- What is needed for a run. -/
structure Plan where
  /-- The settings. -/
  settings : Settings
  /-- The token. -/
  token : AccessToken

/-- Why there is no run. -/
inductive Refusal where
  /-- The settings or the secrets cannot be used. -/
  | unloaded (fault : LoadFault)
  /-- There is no token. -/
  | noToken
  deriving DecidableEq, Repr

/-- Why the fault happened, in a paragraph of its own. -/
def causeText : LoadFault → String
  | .unreadSecrets _ reason => "\n\nCaused by:\n    " ++ reason
  | _ => ""

/-- The text of a refusal. -/
def Refusal.message : Refusal → String
  | unloaded fault => "Error: " ++ fault.message ++ causeText fault ++ "\n"
  | noToken =>
    "Error: No access token configured (set " ++ Environment.accessToken ++
      " or [azure] access_token in secrets.toml)\n"

/-- The directory of the settings: as written, as in the environment, or the usual one. -/
def directory (environment : Environment) (options : Options) : String :=
  (options.directory.or (environment Environment.directory)).getD defaultDirectory

/-- What is needed for a run, and the reports of finding it. -/
def prepare (environment : Environment) (files : Files) (options : Options) :
    Except Refusal Plan × Log :=
  let directory := directory environment options
  let opening := Log.info ("Starting VM auto-shutdown run (config dir: " ++ directory ++ ")")
  match loadDirectory environment files directory with
  | (.error fault, log) => (.error (.unloaded fault), opening ++ log)
  | (.ok (settings, secrets), log) =>
    match secrets.accessToken? environment with
    | none => (.error .noToken, opening ++ log)
    | some secret => (.ok ⟨settings, ⟨secret⟩⟩, opening ++ log)

/-- The resource manager of a plan. -/
def service (server : Server σ) (plan : Plan) : Manager.Service σ :=
  { client := ⟨server, 1000 * plan.settings.requestSeconds⟩
    account := .of plan.settings.endpoint plan.settings.subscription
    token := plan.token }

/-- The settings of the runs of a plan. -/
def runSettings (settings : Settings) : RunSettings :=
  { tagKey := settings.tagName, width := settings.width, limitSeconds := settings.runSeconds }

/-- The channel for messages; when it cannot be set up, messages are dropped. -/
def notifier (surroundings : Surroundings σ) (settings : NoticeSettings) :
    Notifier (Wire σ) × Log :=
  let outlets : Outlets σ :=
    { server := surroundings.server, relay := surroundings.relay
      environment := surroundings.environment, time := surroundings.now.webText }
  match outlets.channel settings with
  | (.ok notifier, log) => (notifier, log)
  | (.error error, log) =>
    (.noop, log ++ Log.warn ("Notification setup failed, failures will only be logged: " ++
      error.message))

/-- The exit code after a run, and the last report. -/
def verdict (run : Run (Wire σ)) : Nat × Log :=
  match run.result with
  | .error error => (1, Log.error ("Auto-shutdown run aborted: " ++ error.message))
  | .ok () =>
    if run.stats.errored = 0 then (0, [])
    else
      (1, Log.warn (toString run.stats.errored ++
        " machine(s) could not be reconciled, see errors above"))

/-- Carry out a plan. -/
def execute (surroundings : Surroundings σ) (plan : Plan) (simulate : Bool) (wire : Wire σ) :
    Ending σ :=
  let (notifier, setup) := notifier surroundings plan.settings.notices
  let request : RunRequest := ⟨surroundings.runId, surroundings.now, simulate⟩
  let plane := (service surroundings.server plan).plane
  let run := Run.conduct plane (runSettings plan.settings) request wire
  let elapsed := Run.secondsText run.line.clock
  let (closing, wire) := run.report notifier request elapsed run.line.world
  let (code, last) := verdict run
  { code, log := setup ++ run.line.log ++ closing ++ last, wire }

/-- Sweep the fleet as the options ask for. -/
def sweep (surroundings : Surroundings σ) (options : Options) (wire : Wire σ) : Ending σ :=
  match prepare surroundings.environment surroundings.files options with
  | (.error refusal, log) => { code := 1, errors := refusal.message, log, wire }
  | (.ok plan, log) =>
    let ending := execute surroundings plan (options.simulate || plan.settings.simulate) wire
    { ending with log := log ++ ending.log }

/-- Do what the arguments ask for. -/
def run (surroundings : Surroundings σ) (arguments : List String) (wire : Wire σ) : Ending σ :=
  match Command.ofArguments arguments with
  | .error fault => { code := 2, errors := fault.message, wire }
  | .ok .help => { code := 0, output := helpText surroundings.environment, wire }
  | .ok .version => { code := 0, output := versionText, wire }
  | .ok (.sweep options) => sweep surroundings options wire

end Program

end OffHours
