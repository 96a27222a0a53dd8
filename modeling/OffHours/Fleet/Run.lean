import OffHours.Fleet.Listing
import OffHours.Fleet.Roster
import OffHours.Fleet.Sweep
import OffHours.Notice.Notifier

/-!
# Runs

A run lists the machines and the tagged resource groups, sweeps the fleet and reports. Failures
of single machines are counted; a run fails only when the inventory cannot be listed or the
limit is passed. `Run.conduct` is the run up to its reports: `Run.list` and then, when all is
listed, `Run.sweepFleet`. `Run.report` makes the reports: the notification, if one is due, and
the summary.
-/

namespace OffHours

/-- Why a run fails as a whole. -/
inductive RunError where
  /-- The inventory could not be listed. -/
  | inventory (error : ApiError)
  /-- The limit of so many seconds was passed. -/
  | deadlineExceeded (seconds : Nat)
  deriving DecidableEq, Repr

/-- The text of a failed run. -/
def RunError.message : RunError → String
  | inventory error => "Inventory fetch failed: " ++ error.message
  | deadlineExceeded seconds => "Run exceeded deadline of " ++ toString seconds ++ "s"

/-- What is the same for all runs of a configuration. -/
structure RunSettings where
  /-- The key of the schedule tag. -/
  tagKey : String
  /-- How many machines are in progress at once; none counts as one. -/
  width : Nat := 1
  /-- Seconds after which a run is cut. -/
  limitSeconds : Nat := 3000
  /-- How many pages a listing may have. -/
  pages : Nat := 10000
  deriving DecidableEq, Repr

/-- What is asked of one run. -/
structure RunRequest where
  /-- What identifies the run in reports. -/
  id : String
  /-- The instant that schedules are held against. -/
  now : Instant
  /-- Whether actions are only reported. -/
  simulate : Bool
  deriving DecidableEq, Repr

/-- What a run lists before its sweep. -/
structure Inventory where
  /-- The machines in the order of their listing. -/
  machines : List Machine
  /-- The resource groups in the order of their listing. -/
  groups : List ResourceGroup
  deriving DecidableEq, Repr

/-- What stays the same while a listed fleet is swept. -/
def RunSettings.orders (settings : RunSettings) (request : RunRequest) (inventory : Inventory) :
    SweepOrders where
  tagKey := settings.tagKey
  groups := GroupSchedules.ofGroups inventory.groups settings.tagKey
  now := request.now
  simulate := request.simulate
  width := settings.width
  limit := 1000 * settings.limitSeconds

/-- A run before its reports. -/
structure Run (σ : Type) where
  /-- Whether it failed as a whole. -/
  result : Except RunError Unit
  /-- The machines whose results were taken, in order. -/
  outcomes : List (Machine × Outcome) := []
  /-- The power calls made, oldest first. -/
  calls : List PowerCall := []
  /-- The answers to reads, oldest first. -/
  answers : List PowerAnswer := []
  /-- The outside, the clock and the reports at the end. -/
  line : Timeline σ

namespace Run

variable {σ κ ν : Type}

/-- The first report of a run. -/
def opening (request : RunRequest) : Log :=
  Log.info ("Starting auto-shutdown run " ++ request.id ++ " at " ++ request.now.clockText ++
    " UTC" ++ if request.simulate then " in SIMULATION mode (no power actions will be taken)"
      else "")

/-- A run that fails before any machine is begun. -/
def aborted (error : RunError) (line : Timeline σ) : Run σ :=
  { result := .error error, line := line }

/-- The report of the listed machines and groups. -/
def inventoryLog (listed kept groups : Nat) (tagKey : String) : Log :=
  (if kept < listed then
    Log.warn ("Inventory listed " ++ toString (listed - kept) ++
      " duplicate machine entries, processing each once")
  else []) ++
  Log.info ("Found " ++ toString kept ++ " VMs and " ++ toString groups ++
    " resource groups tagged '" ++ tagKey ++ "'")

/-- The sweep over a listed fleet before its first move. -/
def opened (settings : RunSettings) (inventory : Inventory) (line : Timeline σ) : Sweep σ :=
  let kept := roster inventory.machines
  let schedules := GroupSchedules.ofGroups inventory.groups settings.tagKey
  { world := line.world, clock := line.clock, queue := kept
    log := line.log ++
      inventoryLog inventory.machines.length kept.length schedules.length settings.tagKey }

/-- Sweep the listed fleet. -/
def sweepFleet (plane : ControlPlane σ κ) (settings : RunSettings) (request : RunRequest)
    (inventory : Inventory) (line : Timeline σ) : Run σ :=
  let sweep := (opened settings inventory line).run plane (settings.orders request inventory)
  { result := if sweep.isComplete then .ok () else .error (.deadlineExceeded settings.limitSeconds)
    outcomes := sweep.taken
    calls := sweep.calls
    answers := sweep.answers
    line := ⟨sweep.world, sweep.clock, sweep.log⟩ }

/-- List the machines and then the groups; else why the run fails. -/
def list (plane : ControlPlane σ κ) (settings : RunSettings) (request : RunRequest) (world : σ) :
    Except RunError Inventory × Timeline σ :=
  let limit := some (1000 * settings.limitSeconds)
  let late := RunError.deadlineExceeded settings.limitSeconds
  let line : Timeline σ := { world := world, log := opening request }
  match listAll limit plane.machinePage settings.pages plane.machinesFrom line with
  | (.failed error, line) => (.error (.inventory error), line)
  | (.cut, line) => (.error late, line)
  | (.complete machines, line) =>
    match listAll limit (plane.groupPage settings.tagKey) settings.pages plane.groupsFrom line with
    | (.failed error, line) => (.error (.inventory error), line)
    | (.cut, line) => (.error late, line)
    | (.complete groups, line) => (.ok ⟨machines, groups⟩, line)

/-- A run up to its reports. -/
def conduct (plane : ControlPlane σ κ) (settings : RunSettings) (request : RunRequest)
    (world : σ) : Run σ :=
  match list plane settings request world with
  | (.error error, line) => aborted error line
  | (.ok inventory, line) => sweepFleet plane settings request inventory line

/-- The counters of the run. -/
def stats (run : Run σ) : RunStats := RunStats.ofOutcomes (run.outcomes.map Prod.snd)

/-- The lines about the machines with a failed call. -/
def failures (run : Run σ) : List String := failureLines run.outcomes

/-- The text that a run failed as a whole. -/
def failureText (id : String) (error : RunError) : String :=
  "Auto-shutdown run " ++ id ++ " failed: " ++ error.message

/-- The message to send about the run, if one is due. -/
def message? (id : String) (run : Run σ) : Option String :=
  let lines := "\n".intercalate run.failures
  match run.result with
  | .ok () =>
    if run.failures.isEmpty then none
    else some ("Auto-shutdown run " ++ id ++ " finished with " ++ toString run.failures.length ++
      " machine failure(s):\n" ++ lines)
  | .error error =>
    some (failureText id error ++
      if run.failures.isEmpty then "" else "\nMachine failures before abort:\n" ++ lines)

/-- A time given in milliseconds, in seconds to one place; a half goes to the even neighbour. -/
def secondsText (milliseconds : Nat) : String :=
  let tenths := milliseconds / 100
  let rest := milliseconds % 100
  let rounded := if 50 < rest ∨ (rest = 50 ∧ tenths % 2 = 1) then tenths + 1 else tenths
  toString (rounded / 10) ++ "." ++ toString (rounded % 10)

/-- The report of the end of a run that took a time given in seconds. -/
def summary (request : RunRequest) (elapsed : String) (stats : RunStats) : Log :=
  Log.info ("Run " ++ request.id ++ " finished in " ++ elapsed ++ "s" ++
    (if request.simulate then " (simulated)" else "") ++ ": " ++ stats.text)

/-- Send the message about a run over a channel, if one is due; a failed delivery is only
reported. -/
def notify (notifier : Notifier ν) (message : Option String) (channel : ν) : Log × ν :=
  match message with
  | none => ([], channel)
  | some message =>
    let delivery := notifier.deliver message channel
    let failure :=
      match delivery.result with
      | .ok () => []
      | .error error =>
        Log.warn ("Failed to deliver failure notification via " ++ notifier.name ++ ": " ++
          error.message)
    (delivery.log ++ failure, delivery.world)

/-- The reports after a run, and the channel after them. -/
def report (notifier : Notifier ν) (request : RunRequest) (elapsed : String) (run : Run σ)
    (channel : ν) : Log × ν :=
  let failed :=
    match run.result with
    | .ok () => []
    | .error error => Log.error (failureText request.id error)
  let (sent, channel) := notify notifier (run.message? request.id) channel
  (failed ++ sent ++ summary request elapsed run.stats, channel)

end Run

end OffHours
