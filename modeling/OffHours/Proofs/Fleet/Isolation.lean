import Mathlib.Data.List.Forall2
import OffHours.Proofs.Fleet.PowerCalls
import OffHours.Proofs.Fleet.PowerStates

/-!
# One machine does not affect another

Two worlds that differ in one machine: its entry in the inventory but for its id and name, its
power state, and how the calls on it go. On control planes that keep machines apart, two runs over
these worlds that are not cut do the same to every other machine, and in the same order:
`runs_alike_but_one`. The machine itself may be slow, fail or be skipped in one of the worlds
and hold up the machines behind it, so calls are made at other times and in another order among
the machines; none of this shows in what a run does to any one of the others.
-/

namespace OffHours

variable {σ κ τ α : Type}

/-- Two machines have one id and one name, and are the same unless they have a key. -/
structure Machine.SameBut (key : String) (left right : Machine) : Prop where
  /-- The same id. -/
  id : left.id = right.id
  /-- The same name. -/
  name : left.name = right.name
  /-- The same machine, if it has another key. -/
  other : left.key ≠ key → left = right

namespace Machine.SameBut

variable {key : String}

/-- Machines that are the same but for one have the same key. -/
theorem key_eq {left right : Machine} (same : left.SameBut key right) : left.key = right.key := by
  rw [Machine.key, same.id, Machine.key]

/-- Every machine is the same as itself. -/
theorem refl (machine : Machine) : machine.SameBut key machine := ⟨rfl, rfl, fun _ => rfl⟩

end Machine.SameBut

/-! ## Worlds that differ in one machine -/

/-- Two calls differ at most in how long they take and in what is reported when they are made. -/
structure Sent.Alike (left right : Sent σ α) : Prop where
  /-- Making them does the same. -/
  world : left.world = right.world
  /-- They are answered in the same way. -/
  settle : left.settle = right.settle

/-- The world that a run finds, with a part for every machine. -/
structure Estate (κ : Type) (part : Machine → σ → τ) where
  /-- What calls do. -/
  plane : ControlPlane σ κ
  /-- What power calls do to the part of their machine. -/
  own : SoloCalls τ
  /-- The outside before the run. -/
  world : σ
  /-- What is listed. -/
  inventory : Inventory
  /-- Power calls keep machines apart. -/
  separates : plane.Separates part own
  /-- Listing machines leaves the part of every machine. -/
  machinePage : ∀ machine cursor, Leaves (part machine) (plane.machinePage cursor)
  /-- Listing groups leaves the part of every machine. -/
  groupPage : ∀ machine tagKey cursor, Leaves (part machine) (plane.groupPage tagKey cursor)
  /-- No id is listed twice, in whatever case. -/
  distinct : (inventory.machines.map Machine.key).Nodup

variable {part : Machine → σ → τ}

/-- A run over the estate. -/
def Estate.run (estate : Estate κ part) (settings : RunSettings) (request : RunRequest) : Run σ :=
  Run.conduct estate.plane settings request estate.world

/-- Two worlds differ at most in the machine with a key: in its entry but for id and name, in its
part of the outside, and in how the calls on it go. -/
structure Estate.SameBut (key : String) (left right : Estate κ part) : Prop where
  /-- The same machines in the same order. -/
  machines : List.Forall₂ (Machine.SameBut key) left.inventory.machines right.inventory.machines
  /-- The same groups. -/
  groups : left.inventory.groups = right.inventory.groups
  /-- The same families of machines can be controlled. -/
  controls : left.plane.controls = right.plane.controls
  /-- Reads of other machines go alike. -/
  power : ∀ kind (machine : Machine), machine.key ≠ key → ∀ start,
    (left.own.power kind machine start).Alike (right.own.power kind machine start)
  /-- Changes of the power of other machines go alike. -/
  act : ∀ action kind (machine : Machine), machine.key ≠ key → ∀ start,
    (left.own.act action kind machine start).Alike (right.own.act action kind machine start)
  /-- The same parts for other machines. -/
  parts : ∀ machine : Machine, machine.key ≠ key →
    part machine left.world = part machine right.world

/-- Two results are those of one machine, and the same unless it has a key. -/
structure SameResultBut (key : String) (left right : Machine × Outcome) : Prop where
  /-- The same machine. -/
  machine : left.1.SameBut key right.1
  /-- The same outcome, if it has another key. -/
  outcome : left.1.key ≠ key → left.2 = right.2

/-- The results of the machines with other keys, in order. -/
def resultsBut (key : String) (results : List (Machine × Outcome)) : List (Machine × Outcome) :=
  results.filter fun result => result.1.key != key

/-- Two runs did the same to all machines but the one with a key. -/
structure Run.AlikeBut (key : String) (part : Machine → σ → τ) (machines : List Machine)
    (left right : Run σ) : Prop where
  /-- Results come in the same order, and are the same for the other machines. -/
  results : List.Forall₂ (SameResultBut key) left.outcomes right.outcomes
  /-- Every other machine has an outcome, the same in both runs. -/
  outcomes : ∀ machine ∈ machines, machine.key ≠ key →
    ∃ outcome, (machine, outcome) ∈ left.outcomes ∧ (machine, outcome) ∈ right.outcomes
  /-- The failure lines of the other machines are the same in the same order. -/
  failures : failureLines (resultsBut key left.outcomes) =
    failureLines (resultsBut key right.outcomes)
  /-- The same calls on every other machine in the same order. -/
  calls : ∀ machine ∈ machines, machine.key ≠ key →
    callsOn machine.key left.calls = callsOn machine.key right.calls
  /-- The same part of the outside for every other machine at the end. -/
  parts : ∀ machine ∈ machines, machine.key ≠ key →
    part machine left.line.world = part machine right.line.world

/-- Results that are the same but for a machine are the same without it. -/
theorem resultsBut_eq {key : String} {left right : List (Machine × Outcome)}
    (same : List.Forall₂ (SameResultBut key) left right) :
    resultsBut key left = resultsBut key right := by
  induction same with
  | nil => rfl
  | @cons first second _ _ pair _ hypothesis =>
    have keys := pair.machine.key_eq
    by_cases own : second.1.key = key
    · simpa [resultsBut, keys, own] using hypothesis
    · have other : first.1.key ≠ key := keys ▸ own
      have whole : first = second := Prod.ext (pair.machine.other other) (pair.outcome other)
      rw [whole]
      simpa [resultsBut, own] using hypothesis

/-- An item that is paired with nothing but itself is in both lists. -/
theorem mem_of_forall₂ {related : α → α → Prop} {left right : List α} {item : α}
    (paired : List.Forall₂ related left right) (present : item ∈ left)
    (alone : ∀ other, related item other → item = other) : item ∈ right := by
  induction paired with
  | nil => exact absurd present List.not_mem_nil
  | cons pair _ hypothesis =>
    rcases List.mem_cons.mp present with rfl | later
    · rw [alone _ pair]
      exact List.mem_cons_self
    · exact List.mem_cons_of_mem _ (hypothesis later)

namespace Estate.SameBut

variable {key : String} {left right : Estate κ part}

/-- Another machine becomes the same alone. -/
theorem visit_eq (same : left.SameBut key right) (orders : SweepOrders)
    (controls : ResourceKind → Bool) {machine : Machine} (other : machine.key ≠ key) (start : τ) :
    left.own.visit orders controls machine start =
      right.own.visit orders controls machine start := by
  have heard : ∀ kind desired answered,
      left.own.heard orders.simulate kind desired machine answered =
        right.own.heard orders.simulate kind desired machine answered := by
    intro kind desired answered
    obtain ⟨answer, after⟩ := answered
    cases answer with
    | error error => rfl
    | ok observed =>
      simp only [SoloCalls.heard]
      cases planAction desired observed with
      | none => rfl
      | some action =>
        have asked := same.act action kind machine other after
        simp only [asked.world, asked.settle]
  rw [SoloCalls.visit, SoloCalls.visit]
  cases (brief orders controls machine).1 with
  | skip reason => rfl
  | read kind desired =>
    have asked := same.power kind machine other start
    simp only [asked.world, asked.settle, heard]

/-- The listings leave what other machines have in common. -/
theorem parts_listed (same : left.SameBut key right) (settings : RunSettings)
    (request : RunRequest) {machine : Machine} (other : machine.key ≠ key) :
    part machine (Run.list left.plane settings request left.world).2.world =
      part machine (Run.list right.plane settings request right.world).2.world := by
  rw [Run.list_view (left.machinePage machine) (left.groupPage machine),
    Run.list_view (right.machinePage machine) (right.groupPage machine), same.parts machine other]

/-- A run looks at the groups in the same way. -/
theorem orders_eq (same : left.SameBut key right) (settings : RunSettings) (request : RunRequest) :
    settings.orders request left.inventory = settings.orders request right.inventory := by
  rw [RunSettings.orders, RunSettings.orders, same.groups]

end Estate.SameBut

/-- Two runs over worlds that differ in one machine, neither of them cut, do the same to every
other machine in the same order, whatever becomes of the one. -/
theorem runs_alike_but_one (key : String) (left right : Estate κ part)
    (same : left.SameBut key right) (settings : RunSettings) (request : RunRequest)
    (leftListed :
      (Run.list left.plane settings request left.world).1 = .ok left.inventory)
    (rightListed :
      (Run.list right.plane settings request right.world).1 = .ok right.inventory)
    (leftFinished : (left.run settings request).result = .ok ())
    (rightFinished : (right.run settings request).result = .ok ()) :
    Run.AlikeBut key part left.inventory.machines (left.run settings request)
      (right.run settings request) := by
  obtain ⟨leftOutcomes, leftEnds⟩ := Run.outcomes_eq_visits left.separates
    (Prod.ext leftListed rfl) left.distinct leftFinished
  obtain ⟨rightOutcomes, rightEnds⟩ := Run.outcomes_eq_visits right.separates
    (Prod.ext rightListed rfl) right.distinct rightFinished
  have visits : ∀ machine : Machine, machine.key ≠ key →
      left.own.visit (settings.orders request left.inventory) left.plane.controls machine
          (part machine (Run.list left.plane settings request left.world).2.world) =
        right.own.visit (settings.orders request right.inventory) right.plane.controls machine
          (part machine (Run.list right.plane settings request right.world).2.world) := by
    intro machine other
    rw [same.parts_listed settings request other, same.orders_eq, same.controls,
      same.visit_eq _ _ other]
  have results : List.Forall₂ (SameResultBut key) (left.run settings request).outcomes
      (right.run settings request).outcomes := by
    rw [Estate.run, Estate.run, leftOutcomes, rightOutcomes, List.forall₂_map_left_iff,
      List.forall₂_map_right_iff]
    have ranks : ∀ first second : Machine, first.SameBut key second →
        first.id = second.id ∧ first.name = second.name := fun _ _ pair => ⟨pair.id, pair.name⟩
    refine (roster_forall₂ ranks same.machines).imp fun first second pair => ⟨pair, ?_⟩
    intro other
    obtain rfl := pair.other other
    rw [visits first other]
  have listed : ∀ machine ∈ left.inventory.machines, machine.key ≠ key →
      machine ∈ right.inventory.machines := fun machine present other =>
    mem_of_forall₂ same.machines present fun _ pair => pair.other other
  constructor
  · exact results
  · intro machine present other
    have kept := Run.outcomes_machines (Prod.ext leftListed rfl) leftFinished
    obtain ⟨outcome, taken⟩ := Run.exists_outcome kept left.distinct present
    refine ⟨outcome, taken, mem_of_forall₂ results taken fun result pair => ?_⟩
    exact Prod.ext (pair.machine.other other) (pair.outcome other)
  · rw [resultsBut_eq results]
  · intro machine present other
    have ends := rightEnds machine (listed machine present other)
    rw [Estate.run, Estate.run, (leftEnds machine present).1, ends.1, visits machine other]
  · intro machine present other
    have ends := rightEnds machine (listed machine present other)
    rw [Estate.run, Estate.run, (leftEnds machine present).2, ends.2, visits machine other]

/-! ## Worlds in memory -/

namespace MemoryPlane

/-- The world of a control plane in memory, as a run that looks for a tag finds it. -/
def estate (memory : MemoryPlane) (tagKey : String) (powers : PowerTable)
    (distinct : (memory.machines.map Machine.key).Nodup) :
    Estate Unit (fun machine (table : PowerTable) => table.state machine.id) where
  plane := memory.plane
  own := memory.solo
  world := powers
  inventory := ⟨memory.machines, memory.listedGroups tagKey⟩
  separates := memory.separates
  machinePage machine cursor := memory.undisturbed.machinePage cursor machine
  groupPage machine tagKey cursor := memory.undisturbed.groupPage tagKey cursor machine
  distinct := distinct

/-- Worlds in memory differ in one machine when its entry, its behaviour and its power state are
all that differs between them. -/
theorem estate_sameBut {key tagKey : String} {left right : MemoryPlane}
    {leftPowers rightPowers : PowerTable}
    (leftDistinct : (left.machines.map Machine.key).Nodup)
    (rightDistinct : (right.machines.map Machine.key).Nodup)
    (machines : List.Forall₂ (Machine.SameBut key) left.machines right.machines)
    (groups : left.listedGroups tagKey = right.listedGroups tagKey)
    (controls : left.controls = right.controls)
    (behaviour : ∀ id, Text.fold id ≠ key → left.behaviour id = right.behaviour id)
    (powers : ∀ id, Text.fold id ≠ key → leftPowers.state id = rightPowers.state id) :
    (left.estate tagKey leftPowers leftDistinct).SameBut key
      (right.estate tagKey rightPowers rightDistinct) where
  machines := machines
  groups := groups
  controls := controls
  power kind machine other start := by
    constructor <;> simp only [estate, solo, behaviour machine.id other]
  act action kind machine other start := by
    constructor <;> simp only [estate, solo, behaviour machine.id other]
  parts machine other := powers machine.id other

end MemoryPlane

/-- The Monday fleet, with one machine that takes long to fail. -/
def troubledPlane : MemoryPlane :=
  { mondayPlane with
    machines :=
      ⟨"/vm/app", "app", "web", "Microsoft.Compute/virtualMachines", [("off", "Saturday")]⟩ ::
        mondayInventory.machines.tail
    behaviour := fun id =>
      if id = "/vm/app" then
        { readDelay := 90, readError := some ⟨.permanent, "read", id, "gone"⟩ }
      else mondayPlane.behaviour id }

/-- The power states before the run over the troubled fleet. -/
def troubledPowers : PowerTable := [("/vm/app", .unknown), ("/vm/db", .deallocated)]

/-- One machine is stopped in one run, and in the other run it fails and holds up the last ones;
the others do the same. -/
theorem runs_alike_but_app :
    (Run.conduct mondayPlane.plane mondaySettings mondayRequest mondayPowers).calls.map
        (fun call => (call.time, call.text)) =
      [(0, "read /vm/app"), (7, "stop /vm/app"), (10, "read /vm/cache"), (10, "read /vm/db"),
        (17, "start /vm/db")] ∧
    (Run.conduct troubledPlane.plane mondaySettings mondayRequest troubledPowers).calls.map
        (fun call => (call.time, call.text)) =
      [(0, "read /vm/app"), (90, "read /vm/cache"), (90, "read /vm/db"), (97, "start /vm/db")] ∧
    Run.AlikeBut "/vm/app" (fun machine table => table.state machine.id) mondayInventory.machines
      (Run.conduct mondayPlane.plane mondaySettings mondayRequest mondayPowers)
      (Run.conduct troubledPlane.plane mondaySettings mondayRequest troubledPowers) := by
  have leftListed : Run.list mondayPlane.plane mondaySettings mondayRequest mondayPowers =
      (.ok mondayInventory, ⟨mondayPowers, 0, Run.opening mondayRequest⟩) := rfl
  have rightListed : Run.list troubledPlane.plane mondaySettings mondayRequest troubledPowers =
      (.ok { mondayInventory with machines := troubledPlane.machines },
        ⟨troubledPowers, 0, Run.opening mondayRequest⟩) := rfl
  have leftKept : roster mondayInventory.machines = mondayInventory.machines :=
    (roster_of_sorted (by decide +kernel)).trans (by decide +kernel)
  have rightKept : roster troubledPlane.machines = troubledPlane.machines :=
    (roster_of_sorted (by decide +kernel)).trans (by decide +kernel)
  -- Each run is evaluated once, for its result and its calls together.
  have leftEnded : ((Run.conduct mondayPlane.plane mondaySettings mondayRequest
        mondayPowers).result,
      (Run.conduct mondayPlane.plane mondaySettings mondayRequest mondayPowers).calls.map
        fun call => (call.time, call.text)) =
      (.ok (), [(0, "read /vm/app"), (7, "stop /vm/app"), (10, "read /vm/cache"),
        (10, "read /vm/db"), (17, "start /vm/db")]) := by
    rw [Run.conduct_of_list leftListed, Run.sweepFleet, Run.opened]
    simp only [leftKept]
    decide +kernel
  have rightEnded : ((Run.conduct troubledPlane.plane mondaySettings mondayRequest
        troubledPowers).result,
      (Run.conduct troubledPlane.plane mondaySettings mondayRequest troubledPowers).calls.map
        fun call => (call.time, call.text)) =
      (.ok (), [(0, "read /vm/app"), (90, "read /vm/cache"), (90, "read /vm/db"),
        (97, "start /vm/db")]) := by
    rw [Run.conduct_of_list rightListed, Run.sweepFleet, Run.opened]
    simp only [rightKept]
    decide +kernel
  obtain ⟨leftFinished, leftCalls⟩ := Prod.mk.inj leftEnded
  obtain ⟨rightFinished, rightCalls⟩ := Prod.mk.inj rightEnded
  have leftDistinct : (mondayPlane.machines.map Machine.key).Nodup := by decide +kernel
  have rightDistinct : (troubledPlane.machines.map Machine.key).Nodup := by decide +kernel
  have app : Text.fold "/vm/app" = "/vm/app" := by decide +kernel
  have same : (mondayPlane.estate mondaySettings.tagKey mondayPowers leftDistinct).SameBut
      "/vm/app" (troubledPlane.estate mondaySettings.tagKey troubledPowers rightDistinct) := by
    refine MemoryPlane.estate_sameBut leftDistinct rightDistinct ?_ rfl rfl ?_ ?_
    · refine .cons ⟨rfl, rfl, fun other => absurd app other⟩ ?_
      exact List.forall₂_same.mpr fun machine _ => Machine.SameBut.refl machine
    · intro id other
      have apart : id ≠ "/vm/app" := fun same => other (same ▸ app)
      rw [troubledPlane]
      simp only [if_neg apart]
    · intro id other
      have apart : (id == "/vm/app") = false := by
        rw [beq_eq_false_iff_ne]
        exact fun same => other (same ▸ app)
      simp [mondayPowers, troubledPowers, PowerTable.state, List.lookup_cons, apart]
  exact ⟨leftCalls, rightCalls, runs_alike_but_one "/vm/app" _ _ same mondaySettings mondayRequest
    rfl rfl leftFinished rightFinished⟩

end OffHours
