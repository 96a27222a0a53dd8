import OffHours.Fleet.Memory
import OffHours.Proofs.Fleet.Refinement

/-!
# What a reconciler remembers

The calls of one reconciler, one after the other: each brings its own control, machine and states,
and finds the outside as it is by then. All that a call takes over from those before it is which
machines were acted on, and that is told from what they planned (`mem_acted_makeAll`): a call with
nothing to do leaves no trace, and one whose action fails leaves the same as one whose action
succeeds. So the calls before it and its own plan settle every call: `settled_by_first_plans`.
-/

namespace OffHours

/-- A call of a reconciler. -/
structure ReconcilerCall (σ κ : Type) where
  /-- Where the power of the machine is controlled. -/
  plane : ControlPlane σ κ
  /-- The outside at the time of the call. -/
  world : σ
  /-- The family of the machine. -/
  kind : ResourceKind
  /-- The machine. -/
  machine : Machine
  /-- The power that its schedule asks for. -/
  desired : DesiredPower
  /-- The power state that was observed. -/
  observed : PowerState

namespace ReconcilerCall

variable {σ κ : Type} {call : ReconcilerCall σ κ} {state : ReconcilerState σ} {action : PowerAction}

/-- The change of power that the call plans, if any. -/
def plan (call : ReconcilerCall σ κ) : Option PowerAction := planAction call.desired call.observed

/-- What the control answers to a change of power, and the outside after it. -/
def control (call : ReconcilerCall σ κ) (action : PowerAction) : Except ApiError Unit × σ :=
  let sent := call.plane.act action call.kind call.machine call.world
  sent.settle sent.world

/-- The answer of a reconciler to the call, and the reconciler after it. -/
def make (simulate : Bool) (call : ReconcilerCall σ κ) (state : ReconcilerState σ) :
    Except ApiError (Option PowerAction) × ReconcilerState σ :=
  ReconcilerState.reconcile call.plane simulate call.kind call.machine call.desired call.observed
    { state with world := call.world }

/-- The reconciler after some calls. -/
def makeAll (simulate : Bool) (calls : List (ReconcilerCall σ κ)) (state : ReconcilerState σ) :
    ReconcilerState σ :=
  calls.foldl (fun state call => (call.make simulate state).2) state

/-- Among earlier calls one planned a change of power of the same machine. -/
def ActedOn (earlier : List (ReconcilerCall σ κ)) (call : ReconcilerCall σ κ) : Prop :=
  ∃ first ∈ earlier, Text.sameName first.machine.id call.machine.id = true ∧ first.plan ≠ none

/-! ## One call -/

/-- A call that plans nothing answers so and changes nothing. -/
theorem make_of_compliant (simulate : Bool) (state : ReconcilerState σ) (idle : call.plan = none) :
    ∃ log, call.make simulate state =
      (.ok none, { state with world := call.world, log := log }) := by
  simp only [make, ReconcilerState.reconcile, Reconciliation.decide_compliant idle]
  exact ⟨_, rfl⟩

/-- A call about a machine that is remembered does nothing, whatever it plans. -/
theorem make_of_known (simulate : Bool) (planned : call.plan = some action)
    (known : call.machine.key ∈ state.acted) :
    ∃ log, call.make simulate state =
      (.ok none, { state with world := call.world, log := log }) := by
  simp only [make, ReconcilerState.reconcile, Reconciliation.decide_repeated planned known]
  exact ⟨_, rfl⟩

/-- In a simulation any other call answers its plan and remembers the machine. -/
theorem make_of_simulated (planned : call.plan = some action)
    (unknown : call.machine.key ∉ state.acted) :
    ∃ log, call.make true state =
      (.ok (some action),
        { state with
          world := call.world
          acted := call.machine.key :: state.acted
          log := log }) := by
  simp only [make, ReconcilerState.reconcile, Reconciliation.decide_simulated planned unknown]
  exact ⟨_, rfl⟩

/-- Otherwise it asks the control once, passes on a failure, and remembers the machine either
way. -/
theorem make_of_live (planned : call.plan = some action)
    (unknown : call.machine.key ∉ state.acted) :
    ∃ log, call.make false state =
      ((call.control action).1.map fun _ => some action,
        { world := (call.control action).2
          acted := call.machine.key :: state.acted
          calls := state.calls ++ [⟨0, .action action, call.machine⟩]
          log := log }) := by
  simp only [make, ReconcilerState.reconcile, Reconciliation.decide_perform planned unknown]
  rw [control]
  split
  · rename_i accepted
    rw [accepted]
    exact ⟨_, rfl⟩
  · rename_i error refused
    rw [refused]
    exact ⟨_, rfl⟩

/-- A call adds its machine to those remembered exactly when it plans a change of power. -/
theorem mem_acted_make {simulate : Bool} {key : String} :
    key ∈ (call.make simulate state).2.acted ↔
      key ∈ state.acted ∨ call.machine.key = key ∧ call.plan ≠ none := by
  cases planned : call.plan with
  | none =>
    obtain ⟨log, made⟩ := make_of_compliant simulate state planned
    simp [made]
  | some action =>
    by_cases known : call.machine.key ∈ state.acted
    · obtain ⟨log, made⟩ := make_of_known simulate planned known
      rw [made]
      constructor
      · exact Or.inl
      · rintro (before | ⟨rfl, -⟩)
        · exact before
        · exact known
    · have remembered : (call.make simulate state).2.acted = call.machine.key :: state.acted := by
        cases simulate with
        | true =>
          obtain ⟨log, made⟩ := make_of_simulated planned known
          rw [made]
        | false =>
          obtain ⟨log, made⟩ := make_of_live planned known
          rw [made]
      simp [remembered, eq_comm, or_comm]

/-! ## Any number of calls -/

/-- The machines remembered after some calls are those remembered before and those for which one of
the calls planned a change of power. -/
theorem mem_acted_makeAll {simulate : Bool} {key : String} {calls : List (ReconcilerCall σ κ)} :
    key ∈ (makeAll simulate calls state).acted ↔
      key ∈ state.acted ∨ ∃ call ∈ calls, call.machine.key = key ∧ call.plan ≠ none := by
  induction calls generalizing state with
  | nil => simp [makeAll]
  | cons call rest hypothesis =>
    have later : makeAll simulate (call :: rest) state =
        makeAll simulate rest (call.make simulate state).2 := rfl
    rw [later, hypothesis, mem_acted_make, or_assoc]
    simp

/-- A new reconciler remembers the machine of a call exactly when an earlier call planned a change
of power for it. -/
theorem actedOn_iff (simulate : Bool) (earlier : List (ReconcilerCall σ κ)) (world : σ) :
    call.ActedOn earlier ↔
      call.machine.key ∈ (makeAll simulate earlier { world := world }).acted := by
  simp [mem_acted_makeAll, ActedOn, Text.sameName_iff, Machine.key]

/-- What a call comes to, given the calls before it, the reconciler before and after it, and its
answer. -/
structure Settled (simulate : Bool) (earlier : List (ReconcilerCall σ κ))
    (call : ReconcilerCall σ κ) (before after : ReconcilerState σ)
    (answer : Except ApiError (Option PowerAction)) : Prop where
  /-- With nothing planned, or with a change of power planned before for the same machine, the
  answer is that nothing was done, and the control is not touched. -/
  untouched : call.plan = none ∨ call.ActedOn earlier →
    answer = .ok none ∧ after.calls = before.calls ∧ after.world = call.world
  /-- Otherwise a simulation answers the planned change without touching the control. -/
  simulated : simulate = true → ∀ action, call.plan = some action → ¬ call.ActedOn earlier →
    answer = .ok (some action) ∧ after.calls = before.calls ∧ after.world = call.world
  /-- Without simulation exactly the planned change is asked for; it is the answer when the control
  accepts it, and else the answer is the error of the control. -/
  performed : simulate = false → ∀ action, call.plan = some action → ¬ call.ActedOn earlier →
    after.calls = before.calls ++ [⟨0, .action action, call.machine⟩] ∧
      after.world = (call.control action).2 ∧
      answer = (call.control action).1.map fun _ => some action

/-- After any calls of a new reconciler the next one is settled by its plan and by the plans of
those before it. -/
theorem settled_by_first_plans (simulate : Bool) (world : σ)
    (earlier : List (ReconcilerCall σ κ)) (call : ReconcilerCall σ κ) :
    Settled simulate earlier call (makeAll simulate earlier { world := world })
      (call.make simulate (makeAll simulate earlier { world := world })).2
      (call.make simulate (makeAll simulate earlier { world := world })).1 where
  untouched := by
    intro idle
    cases planned : call.plan with
    | none =>
      obtain ⟨log, made⟩ := make_of_compliant simulate (makeAll simulate earlier { world := world })
        planned
      rw [made]
      exact ⟨rfl, rfl, rfl⟩
    | some action =>
      have before : call.ActedOn earlier := idle.resolve_left (by simp [planned])
      have known := (actedOn_iff simulate earlier world).mp before
      obtain ⟨log, made⟩ := make_of_known simulate planned known
      rw [made]
      exact ⟨rfl, rfl, rfl⟩
  simulated := by
    rintro rfl action planned first
    have unknown := mt (actedOn_iff true earlier world).mpr first
    obtain ⟨log, made⟩ := make_of_simulated planned unknown
    rw [made]
    exact ⟨rfl, rfl, rfl⟩
  performed := by
    rintro rfl action planned first
    have unknown := mt (actedOn_iff false earlier world).mpr first
    obtain ⟨log, made⟩ := make_of_live planned unknown
    rw [made]
    exact ⟨rfl, rfl, rfl⟩

/-- A stop that fails is the one change of power of its machine, however its id is spelled later. -/
example :
    let error : ApiError := ⟨.transient, "deallocate", "app", "status 503"⟩
    let memory : MemoryPlane :=
      { machines := [], behaviour := fun _ => { actionError := some error } }
    let call (id : String) : ReconcilerCall PowerTable Unit :=
      ⟨memory.plane, [], .compute, ⟨id, "app", "web", "", []⟩, .deallocated, .running⟩
    let first := (call "/vm/app").make false { world := [] }
    let second := (call "/VM/App").make false first.2
    (first.1, second.1, second.2.calls.map PowerCall.text) =
      (.error error, .ok none, ["stop /vm/app"]) := by
  rfl

end ReconcilerCall

end OffHours
