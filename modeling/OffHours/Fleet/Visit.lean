import OffHours.Fleet.EffectiveSchedule
import OffHours.Fleet.Outcome
import OffHours.Fleet.Reconciler
import OffHours.Schedule.Tag
import OffHours.Schedule.Verdict

/-!
# Visiting a machine

What a run does about one machine before it calls the control plane: it looks up the schedule,
decides whether the machine should be off now, and finds out how its power is controlled.
-/

namespace OffHours

/-- What is known before a machine's power state is read. -/
inductive Briefing where
  /-- The machine is left alone. -/
  | skip (reason : SkipReason)
  /-- The power state is read, to bring the machine to the desired power. -/
  | read (kind : ResourceKind) (desired : DesiredPower)
  deriving DecidableEq, Repr

/-- What stays the same during a sweep over the fleet. -/
structure SweepOrders where
  /-- The key of the schedule tag. -/
  tagKey : String
  /-- The schedules of the resource groups. -/
  groups : GroupSchedules
  /-- The instant that schedules are held against. -/
  now : Instant
  /-- Whether actions are only reported. -/
  simulate : Bool
  /-- How many machines are in progress at once; none counts as one. -/
  width : Nat
  /-- Milliseconds from the start of the run after which it is cut. -/
  limit : Nat

/-- The report of where a schedule comes from. -/
def EffectiveSchedule.log (schedule : EffectiveSchedule) : Log :=
  match schedule.source with
  | .direct => Log.info ("Found direct schedule tag: '" ++ schedule.tag ++ "'")
  | .group name =>
    Log.info ("Found schedule tag inherited from resource group " ++ name ++ ": '" ++
      schedule.tag ++ "'")

/-- The verdict of a schedule tag at an instant, and the report of finding it. -/
def verdict (tag : String) (now : Instant) : Bool × Log :=
  let reading := Schedule.read tag
  let ignored := reading.errors.flatMap fun error =>
    Log.warn ("Ignoring malformed schedule segment: " ++ error.message)
  let search :=
    if reading.isUnusable then
      Log.warn ("Schedule '" ++ tag ++ "' has no usable rules, treating as no shutdown window")
    else Schedule.searchLog reading.rules now
  let found :=
    match Schedule.firstMatch? reading.rules now with
    | some rule =>
      Log.info ("Current time falls within scheduled shutdown range '" ++ rule.text ++ "'")
    | none => Log.info "Current time is outside all scheduled shutdown ranges"
  (Schedule.shutdownAt reading.rules now, reading.log ++ ignored ++ search ++ found)

/-- How the power of a machine is controlled, and the report when it is not. -/
def controlOf (controls : ResourceKind → Bool) (machine : Machine) : Option ResourceKind × Log :=
  match machine.kind? with
  | none =>
    (none, Log.warn ("Unrecognized resource type '" ++ machine.typeName ++ "', skipping"))
  | some kind =>
    if controls kind then (some kind, [])
    else (none, Log.warn ("No power control registered for " ++ kind.label ++ " VMs, skipping"))

/-- What is known about a machine before its power state is read, and the report of it. -/
def brief (orders : SweepOrders) (controls : ResourceKind → Bool) (machine : Machine) :
    Briefing × Log :=
  match EffectiveSchedule.resolve? machine orders.groups orders.tagKey with
  | none =>
    (.skip .noSchedule,
      Log.info ("No " ++ orders.tagKey ++ " tag on VM or resource group, skipping"))
  | some schedule =>
    let (shutdown, reasons) := verdict schedule.tag orders.now
    let (control, refusal) := controlOf controls machine
    let log := schedule.log ++ reasons ++ refusal
    match control with
    | none => (.skip .unsupportedType, log)
    | some kind => (.read kind (.ofVerdict shutdown), log)

end OffHours
