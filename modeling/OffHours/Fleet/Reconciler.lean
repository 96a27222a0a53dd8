import OffHours.Fleet.ControlPlane

/-!
# Reconciling one machine

What is done about a machine once its power state is known. Each machine gets at most one
action in a run: a machine that was acted on is remembered by its key, whether the action was
simulated, succeeded or failed.
-/

namespace OffHours

/-- What is done about a machine. -/
inductive Reconciliation where
  /-- Nothing; it is as desired. -/
  | compliant
  /-- Nothing; the machine was acted on before. -/
  | repeated (action : PowerAction)
  /-- Nothing but the report of what would be done. -/
  | simulated (action : PowerAction)
  /-- The action. -/
  | perform (action : PowerAction)
  deriving DecidableEq, Repr

namespace Reconciliation

/-- What to do about a machine, given the keys of the machines acted on before. -/
def decide (simulate : Bool) (acted : List String) (machine : Machine) (desired : DesiredPower)
    (observed : PowerState) : Reconciliation :=
  match planAction desired observed with
  | none => compliant
  | some action =>
    if acted.contains machine.key then repeated action
    else if simulate then simulated action
    else perform action

/-- The keys of the machines acted on, this one included if it is now. -/
def remember (decision : Reconciliation) (acted : List String) (machine : Machine) :
    List String :=
  match decision with
  | compliant | repeated _ => acted
  | simulated _ | perform _ => machine.key :: acted

/-- The report of the decision. -/
def log (decision : Reconciliation) (machine : Machine) (desired : DesiredPower)
    (observed : PowerState) : Log :=
  let states := " (observed " ++ observed.name ++ ", desired " ++ desired.name ++ ")"
  match decision with
  | compliant =>
    Log.info (machine.name ++ " is already " ++ observed.name ++ " (desired " ++ desired.name ++
      "), no action taken")
  | repeated action =>
    Log.warn (machine.name ++ " already had an action issued this run, not repeating " ++
      action.name)
  | simulated action =>
    Log.info ("[SIMULATE] Would " ++ action.name ++ " " ++ machine.name ++ states)
  | perform action => Log.info ("Requesting " ++ action.name ++ " for " ++ machine.name ++ states)

end Reconciliation

/-- The report that an action was accepted. -/
def acceptedLog (action : PowerAction) (machine : Machine) : Log :=
  Log.info (action.name ++ " request accepted for " ++ machine.name)

/-- The outside of a reconciler, the keys of the machines acted on, and what it did. -/
structure ReconcilerState (σ : Type) where
  /-- The outside. -/
  world : σ
  /-- The keys of the machines acted on. -/
  acted : List String := []
  /-- The power calls made, oldest first. -/
  calls : List PowerCall := []
  /-- What was reported, oldest first. -/
  log : Log := []

namespace ReconcilerState

variable {σ κ : Type}

/-- Read the power state of a machine and wait for the answer. -/
def read (plane : ControlPlane σ κ) (kind : ResourceKind) (machine : Machine)
    (state : ReconcilerState σ) : Except ApiError PowerState × ReconcilerState σ :=
  let sent := plane.power kind machine state.world
  let (answer, world) := sent.settle sent.world
  (answer, { state with
    world := world
    calls := state.calls ++ [⟨0, .read, machine⟩]
    log := state.log ++ sent.log })

/-- Bring a machine to the desired power and wait for the answer; the answer is the action
that was taken or simulated, if any. -/
def reconcile (plane : ControlPlane σ κ) (simulate : Bool) (kind : ResourceKind)
    (machine : Machine) (desired : DesiredPower) (observed : PowerState)
    (state : ReconcilerState σ) :
    Except ApiError (Option PowerAction) × ReconcilerState σ :=
  let decision := Reconciliation.decide simulate state.acted machine desired observed
  let decided : ReconcilerState σ := { state with
    acted := decision.remember state.acted machine
    log := state.log ++ decision.log machine desired observed }
  match decision with
  | .compliant | .repeated _ => (.ok none, decided)
  | .simulated action => (.ok (some action), decided)
  | .perform action =>
    let sent := plane.act action kind machine decided.world
    let (answer, world) := sent.settle sent.world
    let called : ReconcilerState σ := { decided with
      world := world
      calls := decided.calls ++ [⟨0, .action action, machine⟩]
      log := decided.log ++ sent.log }
    match answer with
    | .ok () => (.ok (some action), { called with log := called.log ++ acceptedLog action machine })
    | .error error => (.error error, called)

end ReconcilerState

end OffHours
