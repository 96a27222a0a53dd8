import OffHours.Proofs.Fleet.PowerStates

/-!
# Forecasts of runs

What a run comes to can be told before it: from the briefings of the machines, the reads that
fail and the power states at the beginning, going through the roster in order and remembering
which keys are acted on. `Run.outcomes_eq_forecast` says that a run that is not cut comes to its
forecast, live or simulated, when no change of power fails and either no two machines have one
key or one machine is in progress at a time. In the second case a later entry of a machine may
find another power state than the one foreseen, and nothing is assumed of what it finds; but then
its key is remembered, and what is found does not matter.
-/

namespace OffHours

variable {σ κ : Type}

/-- Power states change by changes of power only, none of which fails, and a read of a machine
either always fails with one error or never fails. -/
structure ControlPlane.Reliable (plane : ControlPlane σ κ) (state : Machine → σ → PowerState)
    (errors : Machine → Option ApiError) : Prop extends plane.Undisturbed state where
  /-- When a read fails. -/
  fails : ∀ kind machine world later error,
    ((plane.power kind machine world).settle later).1 = .error error ↔ errors machine = some error
  /-- Changes of power succeed. -/
  acts : ∀ action kind machine world later,
    ((plane.act action kind machine world).settle later).1 = .ok ()

/-- A control plane in memory that accepts every change of power, each of which leaves its machine
in some power state: the one that it leads to, or one on the way there. -/
def MemoryPlane.accepting (memory : MemoryPlane) (result : PowerAction → PowerState) :
    ControlPlane PowerTable Unit :=
  { memory.plane with
    act := fun action _ machine table =>
      ⟨table, [], (memory.behaviour machine.id).actionDelay, fun later =>
        (.ok (), later.set machine.id (result action))⟩ }

/-- It is reliable, whatever the power states are that changes leave. -/
theorem MemoryPlane.accepting_reliable (memory : MemoryPlane) (result : PowerAction → PowerState) :
    (memory.accepting result).Reliable (fun machine table => table.state machine.id)
      fun machine => (memory.behaviour machine.id).readError where
  machinePage := memory.undisturbed.machinePage
  groupPage := memory.undisturbed.groupPage
  power := memory.undisturbed.power
  observed := memory.undisturbed.observed
  act := by
    intro action kind target machine apart
    have other := Machine.id_ne_of_key_ne apart
    exact ⟨fun _ => rfl, fun _ later => later.state_set_other (result action) other⟩
  fails := by
    intro kind machine world later error
    cases failure : (memory.behaviour machine.id).readError with
    | none => simp [accepting, plane, readNow, failure]
    | some found => simp [accepting, plane, readNow, failure]
  acts _ _ _ _ _ := rfl

/-- What is known of each machine before its power state is read. -/
def briefings (orders : SweepOrders) (controls : ResourceKind → Bool) (machine : Machine) :
    Briefing :=
  (brief orders controls machine).1

section Forecast

variable (briefing : Machine → Briefing) (errors : Machine → Option ApiError)
  (power : Machine → PowerState)

/-- The outcome foreseen for a machine, given the keys acted on before it, and the keys acted on
after it. -/
def foresee (acted : List String) (machine : Machine) : Outcome × List String :=
  match briefing machine with
  | .skip reason => (.skipped reason, acted)
  | .read _ desired =>
    match errors machine, planAction desired (power machine) with
    | some error, _ => (.errored error, acted)
    | none, none => (.reconciled none, acted)
    | none, some action =>
      if machine.key ∈ acted then (.reconciled none, acted)
      else (.reconciled (some action), machine.key :: acted)

/-- The outcomes foreseen for the machines of a roster, given the keys acted on before them. -/
def forecast (acted : List String) : List Machine → List (Machine × Outcome)
  | [] => []
  | machine :: rest =>
    (machine, (foresee briefing errors power acted machine).1) ::
      forecast (foresee briefing errors power acted machine).2 rest

variable {briefing errors power} {acted : List String} {machine : Machine} {kind : ResourceKind}
  {desired : DesiredPower}

/-- A machine that is left alone is foreseen to be. -/
theorem foresee_skip {reason : SkipReason} (skip : briefing machine = .skip reason) :
    foresee briefing errors power acted machine = (.skipped reason, acted) := by
  rw [foresee, skip]

/-- A machine whose reads fail is foreseen to fail. -/
theorem foresee_error {error : ApiError} (read : briefing machine = .read kind desired)
    (failing : errors machine = some error) :
    foresee briefing errors power acted machine = (.errored error, acted) := by
  simp only [foresee, read, failing]

/-- A machine that is as desired is foreseen to stay. -/
theorem foresee_compliant (read : briefing machine = .read kind desired)
    (readable : errors machine = none) (plan : planAction desired (power machine) = none) :
    foresee briefing errors power acted machine = (.reconciled none, acted) := by
  simp only [foresee, read, readable, plan]

/-- A machine that was acted on is foreseen not to be acted on again. -/
theorem foresee_known (read : briefing machine = .read kind desired)
    (readable : errors machine = none) (known : machine.key ∈ acted) :
    foresee briefing errors power acted machine = (.reconciled none, acted) := by
  cases plan : planAction desired (power machine) with
  | none => exact foresee_compliant read readable plan
  | some action => simp only [foresee, read, readable, plan, if_pos known]

/-- Otherwise the planned change of power is foreseen. -/
theorem foresee_action {action : PowerAction} (read : briefing machine = .read kind desired)
    (readable : errors machine = none) (plan : planAction desired (power machine) = some action)
    (unknown : machine.key ∉ acted) :
    foresee briefing errors power acted machine =
      (.reconciled (some action), machine.key :: acted) := by
  simp only [foresee, read, readable, plan, if_neg unknown]

/-- Foreseeing a machine remembers no key but its own. -/
theorem mem_foresee {key : String} (other : key ≠ machine.key) :
    key ∈ (foresee briefing errors power acted machine).2 ↔ key ∈ acted := by
  cases read : briefing machine with
  | skip reason => rw [foresee_skip read]
  | read kind desired =>
    cases failing : errors machine with
    | some error => rw [foresee_error read failing]
    | none =>
      cases plan : planAction desired (power machine) with
      | none => rw [foresee_compliant read failing plan]
      | some action =>
        by_cases known : machine.key ∈ acted
        · rw [foresee_known read failing known]
        · rw [foresee_action read failing plan known, List.mem_cons]
          simp [other]

/-- Only whether its own key is remembered bears on what is foreseen for a machine. -/
theorem foresee_outcome {other : List String} (unknown : machine.key ∉ acted)
    (fresh : machine.key ∉ other) :
    (foresee briefing errors power acted machine).1 =
      (foresee briefing errors power other machine).1 := by
  cases read : briefing machine with
  | skip reason => rw [foresee_skip read, foresee_skip read]
  | read kind desired =>
    cases failing : errors machine with
    | some error => rw [foresee_error read failing, foresee_error read failing]
    | none =>
      cases plan : planAction desired (power machine) with
      | none => rw [foresee_compliant read failing plan, foresee_compliant read failing plan]
      | some action =>
        rw [foresee_action read failing plan unknown, foresee_action read failing plan fresh]

/-- For machines with different keys each outcome is foreseen by itself. -/
theorem forecast_of_nodup {machines : List Machine}
    (distinct : (machines.map Machine.key).Nodup)
    (unknown : ∀ machine ∈ machines, machine.key ∉ acted) :
    forecast briefing errors power acted machines =
      machines.map fun machine => (machine, (foresee briefing errors power [] machine).1) := by
  induction machines generalizing acted with
  | nil => rfl
  | cons first rest hypothesis =>
    rw [List.map_cons, List.nodup_cons] at distinct
    have later : ∀ machine ∈ rest,
        machine.key ∉ (foresee briefing errors power acted first).2 := by
      intro machine present
      have other : machine.key ≠ first.key := by
        intro same
        exact distinct.1 (List.mem_map.mpr ⟨machine, present, same⟩)
      rw [mem_foresee other]
      exact unknown machine (List.mem_cons_of_mem first present)
    rw [forecast, List.map_cons, hypothesis distinct.2 later,
      foresee_outcome (unknown first List.mem_cons_self) List.not_mem_nil]

end Forecast

/-- The ledger is abreast of a forecast about a key: both remember it or neither does, and until
then the power states under it are as they were. -/
structure Ledger.Abreast (state : Machine → σ → PowerState) (power : Machine → PowerState)
    (acted : List String) (key : String) (ledger : Ledger σ) : Prop where
  /-- The key is remembered in both or in neither. -/
  remembered : key ∈ ledger.acted ↔ key ∈ acted
  /-- Until it is remembered, no power state under it has changed. -/
  unchanged : key ∉ acted → ∀ machine, machine.key = key →
    state machine ledger.world = power machine

/-- A machine at a stage comes to what is foreseen for it, given the keys acted on before it. -/
def Foreseen (orders : SweepOrders) (plane : ControlPlane σ κ) (state : Machine → σ → PowerState)
    (errors : Machine → Option ApiError) (power : Machine → PowerState) (acted : List String)
    (machine : Machine) (ledger : Ledger σ) : Stage σ → Prop
  | .waiting => ledger.Abreast state power acted machine.key
  | .reading kind desired settle => ledger.Abreast state power acted machine.key ∧
      briefings orders plane.controls machine = .read kind desired ∧
      ∃ made, settle = (plane.power kind machine made).settle ∧
        (machine.key ∉ acted → state machine made = power machine)
  | .acting action settle => machine.key ∈ ledger.acted ∧
      foresee (briefings orders plane.controls) errors power acted machine =
        (.reconciled (some action), machine.key :: acted) ∧
      ∃ kind made, settle = (plane.act action kind machine made).settle
  | .finished outcome =>
      (foresee (briefings orders plane.controls) errors power acted machine).1 = outcome ∧
      ledger.Abreast state power
        (foresee (briefings orders plane.controls) errors power acted machine).2 machine.key

section Foreseen

variable {plane : ControlPlane σ κ} {orders : SweepOrders} {state : Machine → σ → PowerState}
  {errors : Machine → Option ApiError} {power : Machine → PowerState} {acted : List String}
  {machine : Machine} {ledger later : Ledger σ} {old new : Stage σ}

/-- Calls in progress on a machine that comes to its forecast were made for it. -/
theorem Foreseen.issued {stage : Stage σ}
    (foreseen : Foreseen orders plane state errors power acted machine ledger stage) :
    stage.Issued plane machine := by
  cases stage with
  | waiting | finished outcome => trivial
  | reading kind desired settle =>
    obtain ⟨-, -, made, asked, -⟩ := foreseen
    exact ⟨made, asked⟩
  | acting action settle => exact foreseen.2.2

/-- A change of the outside that leaves every power state leaves the ledger abreast. -/
theorem Ledger.Abreast.of_states {key : String}
    (abreast : ledger.Abreast state power acted key)
    (states : ∀ target, state target later.world = state target ledger.world)
    (same : later.acted = ledger.acted) : later.Abreast state power acted key where
  remembered := by rw [same]; exact abreast.remembered
  unchanged unknown target keyed :=
    (states target).trans (abreast.unchanged unknown target keyed)

/-- A machine that goes on leaves the ledger abreast about other keys. -/
theorem Ledger.Abreast.of_shift {key : String} (undisturbed : plane.Undisturbed state)
    (moved : Shift plane orders machine ledger old later new) (issued : old.Issued plane machine)
    (apart : machine.key ≠ key) (abreast : ledger.Abreast state power acted key) :
    later.Abreast state power acted key where
  remembered := (moved.frame apart).acted.trans abreast.remembered
  unchanged unknown target keyed := by
    rw [moved.state_eq undisturbed issued (by rw [keyed]; exact apart)]
    exact abreast.unchanged unknown target keyed

/-- A ledger that remembers a key is abreast of a forecast that does. -/
theorem Ledger.Abreast.of_mem {key : String} (remembered : key ∈ ledger.acted)
    (known : key ∈ acted) : ledger.Abreast state power acted key :=
  ⟨iff_of_true remembered known, fun unknown => absurd known unknown⟩

/-- A read that does not fail is of a machine whose reads do not. -/
theorem ControlPlane.Reliable.readable (reliable : plane.Reliable state errors)
    {kind : ResourceKind} {settle : σ → Except ApiError PowerState × σ} {observed : PowerState}
    {world left : σ} (asked : ∃ made, settle = (plane.power kind machine made).settle)
    (answered : settle world = (.ok observed, left)) : errors machine = none := by
  obtain ⟨made, rfl⟩ := asked
  cases failing : errors machine with
  | none => rfl
  | some error =>
    have failed := (reliable.fails kind machine made world error).mpr failing
    rw [answered] at failed
    cases failed

section Answered

variable {kind : ResourceKind} {desired : DesiredPower}
  {settle : σ → Except ApiError PowerState × σ} {observed : PowerState} {world : σ}
  (reliable : plane.Reliable state errors)
  (foreseen : Foreseen orders plane state errors power acted machine ledger
    (.reading kind desired settle))
  (answered : settle ledger.world = (.ok observed, world))
include reliable foreseen answered

/-- A machine whose key is not remembered is found as foreseen. -/
theorem Foreseen.observed_eq (fresh : machine.key ∉ acted) : observed = power machine := by
  obtain ⟨abreast, -, made, asked, before⟩ := foreseen
  have unchanged : state machine ledger.world = power machine :=
    abreast.unchanged fresh machine rfl
  exact reliable.toUndisturbed.observed_eq ⟨made, asked, before fresh⟩ unchanged answered

/-- A machine that is found as desired was foreseen to stay. -/
theorem Foreseen.foresee_of_compliant (plan : planAction desired observed = none) :
    foresee (briefings orders plane.controls) errors power acted machine =
      (.reconciled none, acted) := by
  have found := foreseen.observed_eq reliable answered
  obtain ⟨-, briefing, made, asked, -⟩ := foreseen
  have readable := reliable.readable ⟨made, asked⟩ answered
  by_cases known : machine.key ∈ acted
  · exact foresee_known briefing readable known
  · rw [found known] at plan
    exact foresee_compliant briefing readable plan

/-- A change of power that is planned for a machine not acted on was foreseen. -/
theorem Foreseen.foresee_of_action {action : PowerAction}
    (plan : planAction desired observed = some action) (unknown : machine.key ∉ ledger.acted) :
    foresee (briefings orders plane.controls) errors power acted machine =
      (.reconciled (some action), machine.key :: acted) := by
  have found := foreseen.observed_eq reliable answered
  obtain ⟨abreast, briefing, made, asked, -⟩ := foreseen
  have readable := reliable.readable ⟨made, asked⟩ answered
  have fresh : machine.key ∉ acted := fun known => unknown (abreast.remembered.mpr known)
  rw [found fresh] at plan
  exact foresee_action briefing readable plan fresh

end Answered

/-- A machine stays on the way to what is foreseen for it. -/
theorem Shift.foreseen (reliable : plane.Reliable state errors)
    (moved : Shift plane orders machine ledger old later new)
    (foreseen : Foreseen orders plane state errors power acted machine ledger old) :
    Foreseen orders plane state errors power acted machine later new := by
  have undisturbed := reliable.toUndisturbed
  cases moved with
  | @skip reason briefing =>
    have skip : briefings orders plane.controls machine = .skip reason := briefing
    rw [Foreseen, foresee_skip skip]
    exact ⟨rfl, foreseen⟩
  | @ask kind desired time briefing =>
    have states := fun target => (undisturbed.power kind machine target).made ledger.world
    refine ⟨Ledger.Abreast.of_states foreseen states rfl, briefing, ledger.world, rfl, ?_⟩
    exact fun unknown => foreseen.unchanged unknown machine rfl
  | @unread kind desired settle error world answered =>
    obtain ⟨abreast, briefing, made, rfl, -⟩ := foreseen
    have failing : errors machine = some error := by
      apply (reliable.fails kind machine made ledger.world error).mp
      rw [answered]
    rw [Foreseen, foresee_error briefing failing]
    exact ⟨rfl, abreast.of_states (undisturbed.read_state ⟨made, rfl⟩ answered) rfl⟩
  | compliant answered plan =>
    rw [Foreseen, foreseen.foresee_of_compliant reliable answered plan]
    exact ⟨rfl, foreseen.1.of_states (undisturbed.read_state foreseen.issued answered) rfl⟩
  | repeated answered plan known =>
    -- The power state found may be another than the one foreseen, but the key is remembered.
    obtain ⟨abreast, briefing, made, asked, -⟩ := foreseen
    have readable := reliable.readable ⟨made, asked⟩ answered
    rw [Foreseen, foresee_known briefing readable (abreast.remembered.mp known)]
    exact ⟨rfl, abreast.of_states (undisturbed.read_state ⟨made, asked⟩ answered) rfl⟩
  | simulated answered plan unknown simulation =>
    rw [Foreseen, foreseen.foresee_of_action reliable answered plan unknown]
    exact ⟨rfl, .of_mem List.mem_cons_self List.mem_cons_self⟩
  | perform time answered plan unknown live =>
    have foretold := foreseen.foresee_of_action reliable answered plan unknown
    exact ⟨List.mem_cons_self, foretold, _, _, rfl⟩
  | @settle action settle answer world answered =>
    obtain ⟨remembered, foretold, kind, made, rfl⟩ := foreseen
    have success := reliable.acts action kind machine made ledger.world
    rw [answered] at success
    obtain rfl : answer = .ok () := success
    rw [Foreseen, foretold]
    exact ⟨rfl, .of_mem remembered List.mem_cons_self⟩

/-- In a course of different machines each comes to what is foreseen for it by itself. -/
theorem foreseen_lasting (reliable : plane.Reliable state errors) (orders : SweepOrders)
    (power : Machine → PowerState) :
    Lasting plane orders (Foreseen orders plane state errors power []) where
  own moved foreseen := moved.foreseen reliable foreseen
  others := by
    intro machine other ledger old later new stage moved apart ours foreseen
    have undisturbed := reliable.toUndisturbed
    cases stage with
    | waiting => exact Ledger.Abreast.of_shift undisturbed moved ours.issued apart foreseen
    | reading kind desired settle =>
      exact ⟨foreseen.1.of_shift undisturbed moved ours.issued apart, foreseen.2⟩
    | acting action settle =>
      exact ⟨(moved.frame apart).acted.mpr foreseen.1, foreseen.2⟩
    | finished outcome =>
      exact ⟨foreseen.1, foreseen.2.of_shift undisturbed moved ours.issued apart⟩

end Foreseen

/-! ## One machine at a time -/

/-- A sweep with at most one machine in progress is on the way to some results: those taken are
followed by what is foreseen for the machines that are not. -/
inductive Sweep.InTurn (orders : SweepOrders) (plane : ControlPlane σ κ)
    (state : Machine → σ → PowerState) (errors : Machine → Option ApiError)
    (power : Machine → PowerState) (results : List (Machine × Outcome)) (sweep : Sweep σ) :
    Prop where
  /-- No machine is in progress. -/
  | idle (acted : List String) (active : sweep.active = [])
      (abreast : ∀ key, sweep.ledger.Abreast state power acted key)
      (rest : results = sweep.taken ++
        forecast (briefings orders plane.controls) errors power acted sweep.queue)
  /-- One machine is in progress. -/
  | busy (acted : List String) (visit : Visit σ) (active : sweep.active = [visit])
      (own : Foreseen orders plane state errors power acted visit.machine sweep.ledger
        visit.progress.stage)
      (abreast : ∀ key, visit.machine.key ≠ key → sweep.ledger.Abreast state power acted key)
      (rest : results = sweep.taken ++
        forecast (briefings orders plane.controls) errors power acted
          (visit.machine :: sweep.queue))

section InTurn

variable {plane : ControlPlane σ κ} {orders : SweepOrders} {state : Machine → σ → PowerState}
  {errors : Machine → Option ApiError} {power : Machine → PowerState}
  {results : List (Machine × Outcome)} {sweep moved : Sweep σ}

namespace Sweep.InTurn

/-- Settling the call of the machine in progress stays on the way. -/
theorem settle (reliable : plane.Reliable state errors)
    (inTurn : InTurn orders plane state errors power results sweep) (seated : sweep.Seated)
    {visit : Visit σ} {wait : Wait} (present : visit ∈ sweep.active)
    (waiting : visit.progress.wait? = some wait) :
    InTurn orders plane state errors power results (sweep.settle plane orders visit) := by
  cases inTurn with
  | idle acted active abreast rest =>
    rw [active] at present
    exact absurd present List.not_mem_nil
  | busy acted other active own abreast rest =>
    rw [active, List.mem_singleton] at present
    subst present
    obtain ⟨progress, replaced, taken, queue, shifted⟩ :=
      settle_shift plane orders sweep visit waiting
    have shape : sweep.active = [] ++ visit :: [] := active
    refine .busy acted { visit with progress := progress }
      (replaced.trans (update_active shape seated.nodup progress)) ?_ ?_ ?_
    · exact shifted.foreseen reliable own
    · intro key apart
      exact (abreast key apart).of_shift reliable.toUndisturbed shifted own.issued apart
    · rw [taken, queue]
      exact rest

/-- Taking the result of the machine in progress stays on the way. -/
theorem take {seat : Nat} {machine : Machine} {outcome : Outcome} {others : List (Visit σ)}
    (inTurn : InTurn orders plane state errors power results sweep)
    (shape : sweep.active = ⟨seat, machine, .done outcome⟩ :: others) :
    InTurn orders plane state errors power results
      { sweep with active := others, taken := sweep.taken ++ [(machine, outcome)] } := by
  cases inTurn with
  | idle acted active abreast rest =>
    rw [active] at shape
    cases shape
  | busy acted visit active own abreast rest =>
    rw [active] at shape
    obtain ⟨rfl, rfl⟩ := List.cons.inj shape
    obtain ⟨foreseen, finished⟩ := own
    refine .idle (foresee (briefings orders plane.controls) errors power acted machine).2 rfl
      ?_ ?_
    · intro key
      by_cases same : machine.key = key
      · rw [← same]
        exact finished
      · -- Other keys are remembered after the machine exactly when they were before it.
        have before := abreast key same
        have kept : key ∈ (foresee (briefings orders plane.controls) errors power acted
            machine).2 ↔ key ∈ acted := mem_foresee (Ne.symm same)
        exact ⟨before.remembered.trans kept.symm,
          fun unknown => before.unchanged (fun known => unknown (kept.mpr known))⟩
    · rw [rest, forecast, foreseen, List.append_assoc]
      rfl

/-- Beginning a machine while none is in progress stays on the way. -/
theorem start (reliable : plane.Reliable state errors)
    (inTurn : InTurn orders plane state errors power results sweep) (none : sweep.active = [])
    {machine : Machine} {later : List Machine} (queued : sweep.queue = machine :: later) :
    InTurn orders plane state errors power results
      ({ sweep with queue := later }.start plane orders machine) := by
  cases inTurn with
  | busy acted visit active own abreast rest =>
    rw [none] at active
    cases active
  | idle acted active abreast rest =>
    obtain ⟨progress, begun, taken, queue, shifted⟩ :=
      start_shift plane orders { sweep with queue := later } machine
    have shape : ({ sweep with queue := later }.start plane orders machine).active =
        [⟨({ sweep with queue := later } : Sweep σ).begun, machine, progress⟩] := by
      rw [begun, active]
      rfl
    have waiting : Foreseen orders plane state errors power acted machine
        ({ sweep with queue := later } : Sweep σ).ledger .waiting := abreast machine.key
    refine .busy acted _ shape (shifted.foreseen reliable waiting) ?_ ?_
    · intro key apart
      exact Ledger.Abreast.of_shift reliable.toUndisturbed shifted trivial apart (abreast key)
    · rw [taken, queue, rest, queued]

/-- A move of a sweep with at most one machine at a time stays on the way. -/
theorem step (reliable : plane.Reliable state errors) (narrow : orders.width ≤ 1)
    (inTurn : InTurn orders plane state errors power results sweep) (seated : sweep.Seated)
    (made : sweep.step plane orders = some moved) :
    InTurn orders plane state errors power results moved := by
  rcases step_cases made with ⟨wait, visit, next, rfl⟩ | proceeded
  · obtain ⟨present, waiting⟩ := next?_mem next
    exact inTurn.settle reliable seated present waiting
  · rcases proceed?_cases proceeded with
      ⟨seat, machine, outcome, others, shape, rfl⟩ | ⟨machine, later, queued, rfl⟩
    · exact inTurn.take shape
    · refine inTurn.start reliable ?_ queued
      -- There is room for the machine, so none is in progress.
      have bound : sweep.active.length ≤ max orders.width 1 := by
        cases inTurn with
        | idle acted active => simp [active]
        | busy acted visit active => simp [active]
      have room := proceed?_length_le bound proceeded
      obtain ⟨progress, begun, -⟩ := start_shift plane orders { sweep with queue := later } machine
      rw [begun, List.length_append, List.length_singleton, Nat.max_eq_right narrow] at room
      exact List.length_eq_zero_iff.mp (Nat.le_zero.mp (Nat.le_of_succ_le_succ room))

/-- When every machine is taken, the results are the outcomes. -/
theorem taken_eq (inTurn : InTurn orders plane state errors power results sweep)
    (complete : sweep.isComplete = true) : sweep.taken = results := by
  simp only [isComplete, Bool.and_eq_true, List.isEmpty_iff] at complete
  cases inTurn with
  | idle acted active abreast rest =>
    rw [rest, complete.1, forecast, List.append_nil]
  | busy acted visit active own abreast rest =>
    rw [complete.2] at active
    cases active

end Sweep.InTurn

end InTurn

namespace Run

variable {plane : ControlPlane σ κ} {state : Machine → σ → PowerState}
  {errors : Machine → Option ApiError} {settings : RunSettings} {request : RunRequest} {world : σ}
  {inventory : Inventory} {line : Timeline σ}

/-- A sweep with one machine at a time that is not cut comes to its forecast. -/
theorem sweepFleet_eq_forecast (reliable : plane.Reliable state errors)
    (narrow : settings.width ≤ 1)
    (finished : (sweepFleet plane settings request inventory line).result = .ok ()) :
    (sweepFleet plane settings request inventory line).outcomes =
      forecast (briefings (settings.orders request inventory) plane.controls) errors
        (fun machine => state machine line.world) [] (roster inventory.machines) := by
  have seated : (opened settings inventory line).Seated := rfl
  have begun : Sweep.InTurn (settings.orders request inventory) plane state errors
      (fun machine => state machine line.world)
      (forecast (briefings (settings.orders request inventory) plane.controls) errors
        (fun machine => state machine line.world) [] (roster inventory.machines))
      (opened settings inventory line) :=
    .idle [] rfl (fun key => ⟨Iff.rfl, fun _ _ _ => rfl⟩) rfl
  have ended := Sweep.steps_keep (fun seated inTurn made => inTurn.step reliable narrow seated made)
    (opened settings inventory line).weight seated begun
  exact ended.taken_eq (complete_of_finished finished)

/-- A run that is not cut comes to its forecast, on a reliable control plane, with one machine at
a time or with different machines. -/
theorem outcomes_eq_forecast (reliable : plane.Reliable state errors)
    (alone : settings.width ≤ 1 ∨ (inventory.machines.map Machine.key).Nodup)
    (listed : list plane settings request world = (.ok inventory, line))
    (finished : (conduct plane settings request world).result = .ok ()) :
    (conduct plane settings request world).outcomes =
      forecast (briefings (settings.orders request inventory) plane.controls) errors
        (fun machine => state machine world) [] (roster inventory.machines) := by
  have states : (fun machine => state machine line.world) = fun machine => state machine world := by
    funext machine
    have kept := list_state reliable.toUndisturbed settings request world machine
    rw [listed] at kept
    exact kept
  rw [← states]
  rcases alone with narrow | distinct
  · rw [conduct_of_list listed] at finished ⊢
    exact sweepFleet_eq_forecast reliable narrow finished
  · have lasting := foreseen_lasting reliable (settings.orders request inventory)
      fun machine => state machine line.world
    obtain ⟨kept, ledger, -, -, -, -, holds⟩ := finished_lasting listed finished distinct lasting
      fun machine _ => ⟨Iff.rfl, fun _ _ _ => rfl⟩
    rw [forecast_of_nodup (roster_nodup distinct) fun _ _ => List.not_mem_nil, ← kept,
      List.map_map]
    refine (List.map_id _).symm.trans (List.map_congr_left fun result present => ?_)
    exact Prod.ext rfl (holds result present).1.symm

end Run

end OffHours
