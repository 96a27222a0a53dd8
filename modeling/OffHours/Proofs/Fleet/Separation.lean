import OffHours.Fleet.Memory
import OffHours.Proofs.Fleet.Refinement

/-!
# Machines that are apart

A control plane keeps machines apart when each machine has its own part of the outside: a call
on a machine goes by that part alone and leaves the parts of other machines as they are. Then a
machine of a fleet of different machines goes as if it were alone, whatever the others do
meanwhile: `SoloCalls.visit` says what becomes of it, and `Run.outcomes_eq_visits` that every
run that is not cut agrees.
-/

namespace OffHours

variable {σ κ τ α : Type}

/-- An effect on the outside is one on the part of a machine. -/
structure Confined (part : Machine → σ → τ) (machine : Machine) (effect : σ → α × σ)
    (own : τ → α × τ) : Prop where
  /-- The answer goes by the part of the machine. -/
  answer : ∀ world, (effect world).1 = (own (part machine world)).1
  /-- The part of the machine is changed by itself. -/
  change : ∀ world, part machine (effect world).2 = (own (part machine world)).2
  /-- The parts of other machines stay. -/
  spare : ∀ world other, other.key ≠ machine.key → part other (effect world).2 = part other world

/-- A call, when it is made and when it is answered, is one on the part of a machine. -/
structure Separated (part : Machine → σ → τ) (machine : Machine) (call : σ → Sent σ α)
    (own : τ → Sent τ α) : Prop where
  /-- Making the call changes the part of the machine by itself. -/
  change : ∀ world, part machine (call world).world = (own (part machine world)).world
  /-- Making the call leaves the parts of other machines. -/
  spare : ∀ world other, other.key ≠ machine.key → part other (call world).world = part other world
  /-- The answer is confined to the machine. -/
  settle : ∀ world, Confined part machine (call world).settle (own (part machine world)).settle

/-- How power calls go that see only the part of their machine. -/
structure SoloCalls (τ : Type) where
  /-- Ask for the power state of a machine. -/
  power : ResourceKind → Machine → τ → Sent τ (Except ApiError PowerState)
  /-- Ask for a change of power. -/
  act : PowerAction → ResourceKind → Machine → τ → Sent τ (Except ApiError Unit)

/-- The control plane keeps machines apart. -/
structure ControlPlane.Separates (plane : ControlPlane σ κ) (part : Machine → σ → τ)
    (own : SoloCalls τ) : Prop where
  /-- Reads are calls on the part of their machine. -/
  power : ∀ kind machine,
    Separated part machine (plane.power kind machine) (own.power kind machine)
  /-- Changes of power are calls on the part of their machine. -/
  act : ∀ action kind machine,
    Separated part machine (plane.act action kind machine) (own.act action kind machine)

/-- What becomes of a machine that is alone. -/
structure Solo (τ : Type) where
  /-- Its outcome. -/
  outcome : Outcome
  /-- The power calls on it, oldest first. -/
  calls : List PowerCallKind
  /-- Its part of the outside at the end. -/
  part : τ

namespace SoloCalls

/-- What becomes of a machine after the answer to a change of its power. -/
def acted (action : PowerAction) (answered : Except ApiError Unit × τ) : Solo τ :=
  ⟨action.outcome answered.1, [.read, .action action], answered.2⟩

/-- What becomes of a machine after the answer to its read. -/
def heard (own : SoloCalls τ) (simulate : Bool) (kind : ResourceKind) (desired : DesiredPower)
    (machine : Machine) : Except ApiError PowerState × τ → Solo τ
  | (.error error, part) => ⟨.errored error, [.read], part⟩
  | (.ok observed, part) =>
    match planAction desired observed with
    | none => ⟨.reconciled none, [.read], part⟩
    | some action =>
      if simulate then ⟨.reconciled (some action), [.read], part⟩
      else
        let sent := own.act action kind machine part
        acted action (sent.settle sent.world)

/-- What becomes of a machine that is alone. -/
def visit (own : SoloCalls τ) (orders : SweepOrders) (controls : ResourceKind → Bool)
    (machine : Machine) (part : τ) : Solo τ :=
  match (brief orders controls machine).1 with
  | .skip reason => ⟨.skipped reason, [], part⟩
  | .read kind desired =>
    let sent := own.power kind machine part
    own.heard orders.simulate kind desired machine (sent.settle sent.world)

end SoloCalls

/-- A machine at a stage still becomes what it becomes alone, from its part at the beginning. -/
def Alone (own : SoloCalls τ) (orders : SweepOrders) (controls : ResourceKind → Bool)
    (part : Machine → σ → τ) (initial : Machine → τ) (machine : Machine) (ledger : Ledger σ) :
    Stage σ → Prop
  | .waiting => callsOn machine.key ledger.calls = [] ∧ machine.key ∉ ledger.acted ∧
      part machine ledger.world = initial machine
  | .reading kind desired settle => callsOn machine.key ledger.calls = [.read] ∧
      machine.key ∉ ledger.acted ∧
      ∃ effect, Confined part machine settle effect ∧
        own.visit orders controls machine (initial machine) =
          own.heard orders.simulate kind desired machine (effect (part machine ledger.world))
  | .acting action settle => callsOn machine.key ledger.calls = [.read, .action action] ∧
      ∃ effect, Confined part machine settle effect ∧
        own.visit orders controls machine (initial machine) =
          SoloCalls.acted action (effect (part machine ledger.world))
  | .finished outcome => own.visit orders controls machine (initial machine) =
      ⟨outcome, callsOn machine.key ledger.calls, part machine ledger.world⟩

section Alone

variable {plane : ControlPlane σ κ} {orders : SweepOrders} {part : Machine → σ → τ}
  {own : SoloCalls τ} {initial : Machine → τ} {machine : Machine} {ledger later : Ledger σ}

/-- Being alone is about the machine's own calls, memory and part of the outside. -/
theorem Alone.of_frame {controls : ResourceKind → Bool} {stage : Stage σ}
    (frame : Ledger.Frame machine.key ledger later)
    (same : part machine later.world = part machine ledger.world)
    (alone : Alone own orders controls part initial machine ledger stage) :
    Alone own orders controls part initial machine later stage := by
  cases stage with
  | waiting => simpa [Alone, frame.calls, frame.acted, same] using alone
  | reading kind desired settle => simpa [Alone, frame.calls, frame.acted, same] using alone
  | acting action settle => simpa [Alone, frame.calls, same] using alone
  | finished outcome => simpa [Alone, frame.calls, same] using alone

/-- A machine that goes on leaves the parts of other machines as they are. -/
theorem Alone.spares (separates : plane.Separates part own) {controls : ResourceKind → Bool}
    {other : Machine} {old new : Stage σ}
    (alone : Alone own orders controls part initial other ledger old)
    (moved : Shift plane orders other ledger old later new) (apart : machine.key ≠ other.key) :
    part machine later.world = part machine ledger.world := by
  cases moved with
  | skip briefing => rfl
  | ask time briefing => exact (separates.power _ other).spare ledger.world machine apart
  | unread answered | compliant answered plan | repeated answered plan known
  | simulated answered plan unknown simulation =>
    obtain ⟨-, -, effect, confined, -⟩ := alone
    have spared := confined.spare ledger.world machine apart
    rw [answered] at spared
    exact spared
  | @perform kind _ _ _ action world time answered plan unknown live =>
    -- The answer to the read spares the other machine, and so does the call made after it.
    obtain ⟨-, -, effect, confined, -⟩ := alone
    have spared := confined.spare ledger.world machine apart
    rw [answered] at spared
    exact ((separates.act action kind other).spare world machine apart).trans spared
  | settle answered =>
    obtain ⟨-, effect, confined, -⟩ := alone
    have spared := confined.spare ledger.world machine apart
    rw [answered] at spared
    exact spared

/-- A confined answer and the part it leaves are those of the machine's own effect. -/
theorem Confined.own_eq {effect : σ → α × σ} {solo : τ → α × τ} {world left : σ} {answer : α}
    (confined : Confined part machine effect solo) (answered : effect world = (answer, left)) :
    solo (part machine world) = (answer, part machine left) := by
  have heard := confined.answer world
  have changed := confined.change world
  rw [answered] at heard changed
  exact (Prod.ext heard changed).symm

/-- On a control plane that keeps machines apart, being alone lasts. -/
theorem alone_lasting (separates : plane.Separates part own) (orders : SweepOrders)
    (initial : Machine → τ) :
    Lasting plane orders (Alone own orders plane.controls part initial) where
  own := by
    intro machine ledger old later new moved alone
    cases moved with
    | skip briefing =>
      obtain ⟨calls, -, same⟩ := alone
      rw [Alone, SoloCalls.visit, briefing, calls, same]
    | @ask kind _ time briefing =>
      obtain ⟨calls, unknown, same⟩ := alone
      have separated := separates.power kind machine
      -- What is left of the visit is the answer to the call, from the part as the call left it.
      refine ⟨by simp [calls], unknown, _, separated.settle ledger.world, ?_⟩
      rw [SoloCalls.visit, briefing, Ledger.called_world, separated.change, same]
    | unread answered =>
      obtain ⟨calls, -, effect, confined, visit⟩ := alone
      rw [confined.own_eq answered] at visit
      simpa [Alone, SoloCalls.heard, calls] using visit
    | compliant answered plan =>
      obtain ⟨calls, -, effect, confined, visit⟩ := alone
      rw [confined.own_eq answered] at visit
      simpa [Alone, SoloCalls.heard, calls, plan] using visit
    | repeated answered plan known => exact absurd known alone.2.1
    | simulated answered plan unknown simulation =>
      obtain ⟨calls, -, effect, confined, visit⟩ := alone
      rw [confined.own_eq answered] at visit
      simpa [Alone, SoloCalls.heard, calls, plan, simulation] using visit
    | @perform kind _ _ _ action world time answered plan unknown live =>
      obtain ⟨calls, -, effect, confined, visit⟩ := alone
      have separated := separates.act action kind machine
      rw [confined.own_eq answered] at visit
      refine ⟨by simp [calls], _, separated.settle world, ?_⟩
      rw [Ledger.called_world, separated.change]
      simpa [SoloCalls.heard, plan, live] using visit
    | settle answered =>
      obtain ⟨calls, effect, confined, visit⟩ := alone
      rw [confined.own_eq answered] at visit
      simpa [Alone, SoloCalls.acted, calls] using visit
  others moved apart ours alone :=
    alone.of_frame (moved.frame apart) (ours.spares separates moved (Ne.symm apart))

end Alone

/-- In a run that is not cut each machine of an inventory of different machines becomes what it
becomes alone, and results come in the order of the roster. -/
theorem Run.outcomes_eq_visits {plane : ControlPlane σ κ} {part : Machine → σ → τ}
    {own : SoloCalls τ} {settings : RunSettings} {request : RunRequest} {world : σ}
    {inventory : Inventory} {line : Timeline σ} (separates : plane.Separates part own)
    (listed : Run.list plane settings request world = (.ok inventory, line))
    (distinct : (inventory.machines.map Machine.key).Nodup)
    (finished : (conduct plane settings request world).result = .ok ()) :
    (conduct plane settings request world).outcomes =
        (roster inventory.machines).map (fun machine =>
          (machine, (own.visit (settings.orders request inventory) plane.controls machine
            (part machine line.world)).outcome)) ∧
      ∀ machine ∈ inventory.machines,
        callsOn machine.key (conduct plane settings request world).calls =
            (own.visit (settings.orders request inventory) plane.controls machine
              (part machine line.world)).calls ∧
          part machine (conduct plane settings request world).line.world =
            (own.visit (settings.orders request inventory) plane.controls machine
              (part machine line.world)).part := by
  have lasting := alone_lasting separates (settings.orders request inventory)
    (fun machine => part machine line.world)
  obtain ⟨kept, ledger, calls, -, left, -, alone⟩ := Run.finished_lasting listed finished distinct
    lasting (fun machine _ => ⟨rfl, List.not_mem_nil, rfl⟩)
  have visits : ∀ result ∈ (conduct plane settings request world).outcomes,
      own.visit (settings.orders request inventory) plane.controls result.1
        (part result.1 line.world) =
          ⟨result.2, callsOn result.1.key ledger.calls, part result.1 ledger.world⟩ := alone
  constructor
  · rw [← kept, List.map_map]
    conv_lhs => rw [← List.map_id (conduct plane settings request world).outcomes]
    refine List.map_congr_left ?_
    intro result taken
    rw [Function.comp_apply, visits result taken]
    rfl
  · intro machine present
    obtain ⟨outcome, taken⟩ := Run.exists_outcome kept distinct present
    rw [visits (machine, outcome) taken, calls, left]
    exact ⟨rfl, rfl⟩

namespace PowerTable

/-- The power state that was set is found. -/
theorem state_set (table : PowerTable) (id : String) (power : PowerState) :
    (table.set id power).state id = power := by
  induction table with
  | nil => simp [set, state]
  | cons entry rest hypothesis =>
    obtain ⟨other, old⟩ := entry
    by_cases same : other = id
    · simp [set, state, same]
    · have missed : (id == other) = false := by simpa using Ne.symm same
      simpa [set, state, same, List.lookup_cons, missed] using hypothesis

/-- Other machines keep their power states. -/
theorem state_set_other (table : PowerTable) {id other : String} (power : PowerState)
    (apart : other ≠ id) : (table.set id power).state other = table.state other := by
  have missed : (other == id) = false := by simpa using apart
  induction table with
  | nil => simp [set, state, List.lookup_cons, missed]
  | cons entry rest hypothesis =>
    obtain ⟨name, old⟩ := entry
    by_cases same : name = id
    · simp [set, state, same, List.lookup_cons, missed]
    · cases found : other == name with
      | true => simp [set, state, same, List.lookup_cons, found]
      | false => simpa [set, state, same, List.lookup_cons, found] using hypothesis

end PowerTable

namespace MemoryPlane

/-- The calls of a control plane in memory go by the power state of their machine. -/
def solo (memory : MemoryPlane) : SoloCalls PowerState where
  power _ machine power :=
    ⟨power, [], (memory.behaviour machine.id).readDelay, fun later =>
      (match (memory.behaviour machine.id).readError with
        | some error => .error error
        | none => .ok later, later)⟩
  act action _ machine power :=
    ⟨power, [], (memory.behaviour machine.id).actionDelay, fun later =>
      match (memory.behaviour machine.id).actionError with
      | some error => (.error error, later)
      | none => (.ok (), action.result)⟩

/-- A control plane in memory keeps machines apart, each with its power state. -/
theorem separates (memory : MemoryPlane) :
    memory.plane.Separates (fun machine table => table.state machine.id) memory.solo := by
  have ids : ∀ {other machine : Machine}, other.key ≠ machine.key → other.id ≠ machine.id := by
    intro other machine apart same
    exact apart (by rw [Machine.key, same, Machine.key])
  constructor
  · intro kind machine
    refine ⟨fun _ => rfl, fun _ _ _ => rfl, fun _ => ⟨fun _ => rfl, fun _ => rfl, ?_⟩⟩
    intro table other apart
    rfl
  · intro action kind machine
    refine ⟨fun _ => rfl, fun _ _ _ => rfl, fun _ => ?_⟩
    cases failure : (memory.behaviour machine.id).actionError with
    | some error =>
      constructor <;> simp [plane, solo, actNow, failure]
    | none =>
      constructor
      · simp [plane, solo, actNow, failure]
      · intro table
        simp only [plane, solo, actNow, failure]
        exact table.state_set machine.id action.result
      · intro table other apart
        simp only [plane, actNow, failure]
        exact table.state_set_other action.result (ids apart)

end MemoryPlane

end OffHours
