import OffHours.Fleet.Visit

/-!
# Sweeping the fleet

The concurrent part of a run. Machines are begun in order, a bounded number of them in progress
at once; a result is taken only when all results before it are taken, and a machine that is
done and not taken keeps its place. `Sweep.step` makes the next move: it settles the call that
is answered next, takes a result, or begins a machine. The moves of a moment come in this
order, and among calls answered at the same moment the one made first is settled first. The
clock moves only when nothing else can; at the limit the sweep is cut.
-/

namespace OffHours

/-- What a call in progress waits for. -/
structure Wait where
  /-- When the call is answered. -/
  due : Nat
  /-- How many waits began before this one. -/
  order : Nat
  deriving DecidableEq, Repr

/-- Whether one wait ends before another; of two that end together, the one that began first. -/
def Wait.before (left right : Wait) : Bool :=
  left.due < right.due || (left.due == right.due && left.order < right.order)

variable {σ κ : Type}

/-- How far a machine in progress is. -/
inductive Progress (σ : Type) where
  /-- Its power state is being read. -/
  | reading (wait : Wait) (kind : ResourceKind) (desired : DesiredPower)
      (settle : σ → Except ApiError PowerState × σ)
  /-- A change of its power was asked for. -/
  | acting (wait : Wait) (desired : DesiredPower) (action : PowerAction)
      (settle : σ → Except ApiError Unit × σ)
  /-- It is done. -/
  | done (outcome : Outcome)

/-- What the machine waits for, unless it is done. -/
def Progress.wait? : Progress σ → Option Wait
  | reading wait _ _ _ => some wait
  | acting wait _ _ _ => some wait
  | done _ => none

/-- The moves that a machine in progress can still make. -/
def Progress.weight : Progress σ → Nat
  | .reading _ _ _ _ => 3
  | .acting _ _ _ _ => 2
  | .done _ => 1

/-- A machine in progress. -/
structure Visit (σ : Type) where
  /-- Its place in the roster. -/
  seat : Nat
  /-- The machine. -/
  machine : Machine
  /-- How far it is. -/
  progress : Progress σ

/-- A sweep that is under way. -/
structure Sweep (σ : Type) where
  /-- The outside. -/
  world : σ
  /-- Milliseconds from the start of the run. -/
  clock : Nat
  /-- Machines that are not begun. -/
  queue : List Machine
  /-- Machines in progress or done and not taken, in roster order. -/
  active : List (Visit σ) := []
  /-- Machines whose results were taken, in roster order. -/
  taken : List (Machine × Outcome) := []
  /-- The keys of the machines acted on. -/
  acted : List String := []
  /-- How many waits began. -/
  waits : Nat := 0
  /-- The power calls made, oldest first. -/
  calls : List PowerCall := []
  /-- The answers to reads, oldest first. -/
  answers : List PowerAnswer := []
  /-- What was reported, oldest first. -/
  log : Log := []

namespace Sweep

/-- How many machines were begun. -/
def begun (sweep : Sweep σ) : Nat := sweep.taken.length + sweep.active.length

/-- The sweep with further reports. -/
def report (sweep : Sweep σ) (entries : Log) : Sweep σ :=
  { sweep with log := sweep.log ++ entries }

/-- The wait for a call that was made; a call that is answered at once keeps the place of the
wait it follows. -/
def waitFor (sweep : Sweep σ) (duration place : Nat) : Wait :=
  ⟨sweep.clock + duration, if duration = 0 then place else sweep.waits⟩

/-- The sweep after a power call was made. -/
def called (sweep : Sweep σ) (kind : PowerCallKind) (machine : Machine) (world : σ) (log : Log) :
    Sweep σ :=
  { sweep with
    world := world
    waits := sweep.waits + 1
    calls := sweep.calls ++ [⟨sweep.clock, kind, machine⟩]
    log := sweep.log ++ log }

/-- The sweep after a read was answered. -/
def heard (sweep : Sweep σ) (machine : Machine) (answer : Except ApiError PowerState) : Sweep σ :=
  { sweep with answers := sweep.answers ++ [⟨machine, answer⟩] }

/-- The sweep with a machine's progress replaced. -/
def update (sweep : Sweep σ) (seat : Nat) (progress : Progress σ) : Sweep σ :=
  { sweep with active := sweep.active.map fun visit =>
      if visit.seat = seat then { visit with progress := progress } else visit }

/-- Begin a machine. -/
def start (plane : ControlPlane σ κ) (orders : SweepOrders) (machine : Machine)
    (sweep : Sweep σ) : Sweep σ :=
  let seat := sweep.begun
  let (briefing, log) := brief orders plane.controls machine
  let sweep := sweep.report log
  match briefing with
  | .skip reason => { sweep with active := sweep.active ++ [⟨seat, machine, .done (.skipped reason)⟩] }
  | .read kind desired =>
    let sent := plane.power kind machine sweep.world
    let wait := sweep.waitFor sent.duration sweep.waits
    let sweep := sweep.called .read machine sent.world sent.log
    { sweep with active := sweep.active ++ [⟨seat, machine, .reading wait kind desired sent.settle⟩] }

/-- Go on with a machine whose power state was read. -/
def settleRead (plane : ControlPlane σ κ) (orders : SweepOrders) (visit : Visit σ)
    (wait : Wait) (kind : ResourceKind) (desired : DesiredPower)
    (answer : Except ApiError PowerState) (sweep : Sweep σ) : Sweep σ :=
  match answer with
  | .error error =>
    (sweep.report (Log.error ("Failed to read power state (" ++ error.errorClass.label ++ "): " ++
      error.message))).update visit.seat (.done (.errored error))
  | .ok observed =>
    let machine := visit.machine
    let decision := Reconciliation.decide orders.simulate sweep.acted machine desired observed
    let sweep := { sweep with acted := decision.remember sweep.acted machine }.report
      (decision.log machine desired observed)
    match decision with
    | .compliant | .repeated _ => sweep.update visit.seat (.done (.reconciled none))
    | .simulated action => sweep.update visit.seat (.done (.reconciled (some action)))
    | .perform action =>
      let sent := plane.act action kind machine sweep.world
      let next := sweep.waitFor sent.duration wait.order
      (sweep.called (.action action) machine sent.world sent.log).update visit.seat
        (.acting next desired action sent.settle)

/-- Go on with a machine whose change of power was answered. -/
def settleAction (visit : Visit σ) (desired : DesiredPower) (action : PowerAction)
    (answer : Except ApiError Unit) (sweep : Sweep σ) : Sweep σ :=
  match answer with
  | .ok () => (sweep.report (acceptedLog action visit.machine)).update visit.seat
      (.done (.reconciled (some action)))
  | .error error =>
    (sweep.report (Log.error ("Failed to apply " ++ desired.name ++ " (" ++
      error.errorClass.label ++ "): " ++ error.message))).update visit.seat (.done (.errored error))

/-- Settle the call that a machine waits for. -/
def settle (plane : ControlPlane σ κ) (orders : SweepOrders) (visit : Visit σ)
    (sweep : Sweep σ) : Sweep σ :=
  match visit.progress with
  | .reading wait kind desired settle =>
    let (answer, world) := settle sweep.world
    settleRead plane orders visit wait kind desired answer
      ({ sweep with world := world, clock := wait.due }.heard visit.machine answer)
  | .acting wait desired action settle =>
    let (answer, world) := settle sweep.world
    settleAction visit desired action answer { sweep with world := world, clock := wait.due }
  | .done _ => sweep

/-- The machine in progress whose call is answered next, and its wait. -/
def next? : List (Visit σ) → Option (Wait × Visit σ)
  | [] => none
  | visit :: rest =>
    match visit.progress.wait?, next? rest with
    | none, later => later
    | some wait, none => some (wait, visit)
    | some wait, some (other, later) =>
      if other.before wait then some (other, later) else some (wait, visit)

/-- Take the first result, or begin a machine when there is room. -/
def proceed? (plane : ControlPlane σ κ) (orders : SweepOrders) (sweep : Sweep σ) :
    Option (Sweep σ) :=
  let room := sweep.active.length < max orders.width 1
  match sweep.active, sweep.queue with
  | ⟨_, machine, .done outcome⟩ :: rest, _ =>
    some { sweep with active := rest, taken := sweep.taken ++ [(machine, outcome)] }
  | _, machine :: later =>
    if room then some ({ sweep with queue := later }.start plane orders machine) else none
  | _, [] => none

/-- The next move; none when every machine is taken or nothing happens before the limit. -/
def step (plane : ControlPlane σ κ) (orders : SweepOrders) (sweep : Sweep σ) :
    Option (Sweep σ) :=
  match next? sweep.active with
  | none => sweep.proceed? plane orders
  | some (wait, visit) =>
    if wait.due ≤ sweep.clock then some (sweep.settle plane orders visit)
    else
      match sweep.proceed? plane orders with
      | some moved => some moved
      | none => if wait.due ≤ orders.limit then some (sweep.settle plane orders visit) else none

/-- Make moves until none is left, at most a given number. -/
def steps (plane : ControlPlane σ κ) (orders : SweepOrders) : Nat → Sweep σ → Sweep σ
  | 0, sweep => sweep
  | count + 1, sweep =>
    match sweep.step plane orders with
    | none => sweep
    | some moved => steps plane orders count moved

/-- The moves that a sweep can still make. -/
def weight (sweep : Sweep σ) : Nat :=
  sweep.active.foldl (fun sum visit => sum + visit.progress.weight) (4 * sweep.queue.length)

/-- Make all moves of a sweep. -/
def run (plane : ControlPlane σ κ) (orders : SweepOrders) (sweep : Sweep σ) : Sweep σ :=
  sweep.steps plane orders sweep.weight

/-- Whether every machine is taken. -/
def isComplete (sweep : Sweep σ) : Bool := sweep.queue.isEmpty && sweep.active.isEmpty

end Sweep

end OffHours
