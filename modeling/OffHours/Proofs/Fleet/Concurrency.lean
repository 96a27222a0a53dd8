import OffHours.Proofs.Fleet.PowerCalls
import OffHours.Proofs.Fleet.Separation

/-!
# Concurrency makes no difference

How many machines are in progress at once and how long their calls take decide in which order
calls are made and answered, and nothing else: on a control plane that keeps machines apart, two
runs over one inventory of different machines that are not cut do the same.
-/

namespace OffHours

variable {σ κ τ : Type}

/-- How long power calls take, from the outside as it is when they are made. -/
structure Delays (σ : Type) where
  /-- Milliseconds until a read is answered. -/
  power : ResourceKind → Machine → σ → Nat
  /-- Milliseconds until a change of power is answered. -/
  act : PowerAction → ResourceKind → Machine → σ → Nat

/-- The control plane with other delays of its power calls. -/
def ControlPlane.delayed (plane : ControlPlane σ κ) (delays : Delays σ) : ControlPlane σ κ :=
  { plane with
    power := fun kind machine world =>
      { plane.power kind machine world with duration := delays.power kind machine world }
    act := fun action kind machine world =>
      { plane.act action kind machine world with
        duration := delays.act action kind machine world } }

/-- Delays do not bring machines together. -/
theorem ControlPlane.Separates.delayed {plane : ControlPlane σ κ} {part : Machine → σ → τ}
    {own : SoloCalls τ} (separates : plane.Separates part own) (delays : Delays σ) :
    (plane.delayed delays).Separates part own where
  power kind machine :=
    let separated := separates.power kind machine
    ⟨separated.change, separated.spare, separated.settle⟩
  act action kind machine :=
    let separated := separates.act action kind machine
    ⟨separated.change, separated.spare, separated.settle⟩

/-- Two runs did the same to some machines: counters, outcomes, failure lines, the message about
the run, the machines' parts of the outside, and the calls on each machine. -/
structure Run.Alike (part : Machine → σ → τ) (machines : List Machine) (left right : Run σ) :
    Prop where
  /-- The same counters. -/
  stats : left.stats = right.stats
  /-- The same outcomes in the same order. -/
  outcomes : left.outcomes = right.outcomes
  /-- The same failure lines in the same order. -/
  failures : left.failures = right.failures
  /-- The same message, if any. -/
  messages : ∀ id, left.message? id = right.message? id
  /-- The same part of the outside for each machine. -/
  parts : ∀ machine ∈ machines, part machine left.line.world = part machine right.line.world
  /-- The same calls on each machine in the same order. -/
  calls : ∀ machine ∈ machines, callsOn machine.key left.calls = callsOn machine.key right.calls

/-- Runs that end in the same way with the same outcomes report the same. -/
theorem Run.Alike.of_outcomes {part : Machine → σ → τ} {machines : List Machine}
    {left right : Run σ} (result : left.result = right.result)
    (outcomes : left.outcomes = right.outcomes)
    (parts : ∀ machine ∈ machines, part machine left.line.world = part machine right.line.world)
    (calls : ∀ machine ∈ machines,
      callsOn machine.key left.calls = callsOn machine.key right.calls) :
    Run.Alike part machines left right := by
  have failures : left.failures = right.failures := by rw [Run.failures, outcomes, Run.failures]
  constructor
  · rw [Run.stats, outcomes, Run.stats]
  · exact outcomes
  · exact failures
  · intro id
    rw [Run.message?, Run.message?, result, failures]
  · exact parts
  · exact calls

/-- Two runs over one inventory of different machines that are not cut do the same, whatever the
numbers of machines in progress and the delays of their calls, on a control plane that keeps
machines apart. -/
theorem runs_alike (plane : ControlPlane σ κ) (part : Machine → σ → τ) (own : SoloCalls τ)
    (separates : plane.Separates part own) (settings : RunSettings) (request : RunRequest)
    (world : σ) (inventory : Inventory) (line : Timeline σ)
    (listed : Run.list plane settings request world = (.ok inventory, line))
    (distinct : (inventory.machines.map Machine.key).Nodup) (left right : Delays σ) (n m : Nat)
    (leftFinished :
      (Run.conduct (plane.delayed left) { settings with width := n } request world).result =
        .ok ())
    (rightFinished :
      (Run.conduct (plane.delayed right) { settings with width := m } request world).result =
        .ok ()) :
    Run.Alike part inventory.machines
      (Run.conduct (plane.delayed left) { settings with width := n } request world)
      (Run.conduct (plane.delayed right) { settings with width := m } request world) := by
  -- The listing looks at neither the width nor the delays, and neither does a lone machine.
  have leftListed : Run.list (plane.delayed left) { settings with width := n } request world =
      (.ok inventory, line) := listed
  have rightListed : Run.list (plane.delayed right) { settings with width := m } request world =
      (.ok inventory, line) := listed
  have visits : ∀ machine start,
      own.visit ({ settings with width := n }.orders request inventory)
          (plane.delayed left).controls machine start =
        own.visit ({ settings with width := m }.orders request inventory)
          (plane.delayed right).controls machine start :=
    fun _ _ => rfl
  obtain ⟨leftOutcomes, leftEnds⟩ :=
    Run.outcomes_eq_visits (separates.delayed left) leftListed distinct leftFinished
  obtain ⟨rightOutcomes, rightEnds⟩ :=
    Run.outcomes_eq_visits (separates.delayed right) rightListed distinct rightFinished
  refine Run.Alike.of_outcomes ?_ ?_ ?_ ?_
  · rw [leftFinished, rightFinished]
  · rw [leftOutcomes, rightOutcomes]
    exact List.map_congr_left fun machine _ => by rw [visits]
  · intro machine present
    rw [(leftEnds machine present).2, (rightEnds machine present).2, visits]
  · intro machine present
    rw [(leftEnds machine present).1, (rightEnds machine present).1, visits]

/-- Delays that hold up the reads of one machine and the changes of another. -/
def lateDelays : Delays PowerTable where
  power _ machine _ := if machine.id = "/vm/app" then 40 else 2
  act _ _ machine _ := if machine.id = "/vm/db" then 25 else 1

/-- No delays. -/
def noDelays : Delays PowerTable := ⟨fun _ _ _ => 0, fun _ _ _ _ => 0⟩

/-- Four machines at once with delays, and one after the other without. -/
theorem runs_alike_on_monday :
    (Run.conduct (mondayPlane.plane.delayed lateDelays) { mondaySettings with width := 4 }
        mondayRequest mondayPowers).calls.map (fun call => (call.time, call.text)) =
      [(0, "read /vm/app"), (0, "read /vm/cache"), (0, "read /vm/db"), (2, "start /vm/db"),
        (40, "stop /vm/app")] ∧
    (Run.conduct (mondayPlane.plane.delayed noDelays) { mondaySettings with width := 1 }
        mondayRequest mondayPowers).calls.map (fun call => (call.time, call.text)) =
      [(0, "read /vm/app"), (0, "stop /vm/app"), (0, "read /vm/cache"), (0, "read /vm/db"),
        (0, "start /vm/db")] ∧
    Run.Alike (fun machine table => table.state machine.id) mondayInventory.machines
      (Run.conduct (mondayPlane.plane.delayed lateDelays) { mondaySettings with width := 4 }
        mondayRequest mondayPowers)
      (Run.conduct (mondayPlane.plane.delayed noDelays) { mondaySettings with width := 1 }
        mondayRequest mondayPowers) := by
  have listed : ∀ delays width, Run.list (mondayPlane.plane.delayed delays)
      { mondaySettings with width := width } mondayRequest mondayPowers =
        (.ok mondayInventory, ⟨mondayPowers, 0, Run.opening mondayRequest⟩) :=
    fun _ _ => rfl
  have kept : roster mondayInventory.machines = mondayInventory.machines :=
    (roster_of_sorted (by decide +kernel)).trans (by decide +kernel)
  -- Each run is evaluated once, for its result and its calls together.
  have late : ((Run.conduct (mondayPlane.plane.delayed lateDelays)
        { mondaySettings with width := 4 } mondayRequest mondayPowers).result,
      (Run.conduct (mondayPlane.plane.delayed lateDelays)
        { mondaySettings with width := 4 } mondayRequest mondayPowers).calls.map fun call =>
          (call.time, call.text)) =
      (.ok (), [(0, "read /vm/app"), (0, "read /vm/cache"), (0, "read /vm/db"),
        (2, "start /vm/db"), (40, "stop /vm/app")]) := by
    rw [Run.conduct_of_list (listed _ _), Run.sweepFleet, Run.opened]
    simp only [kept]
    decide +kernel
  have prompt : ((Run.conduct (mondayPlane.plane.delayed noDelays)
        { mondaySettings with width := 1 } mondayRequest mondayPowers).result,
      (Run.conduct (mondayPlane.plane.delayed noDelays)
        { mondaySettings with width := 1 } mondayRequest mondayPowers).calls.map fun call =>
          (call.time, call.text)) =
      (.ok (), [(0, "read /vm/app"), (0, "stop /vm/app"), (0, "read /vm/cache"),
        (0, "read /vm/db"), (0, "start /vm/db")]) := by
    rw [Run.conduct_of_list (listed _ _), Run.sweepFleet, Run.opened]
    simp only [kept]
    decide +kernel
  obtain ⟨lateFinished, lateCalls⟩ := Prod.mk.inj late
  obtain ⟨promptFinished, promptCalls⟩ := Prod.mk.inj prompt
  have alike := runs_alike mondayPlane.plane _ mondayPlane.solo mondayPlane.separates
    mondaySettings mondayRequest mondayPowers mondayInventory _ (listed noDelays 2)
    (by decide +kernel) lateDelays noDelays 4 1 lateFinished promptFinished
  exact ⟨lateCalls, promptCalls, alike⟩

end OffHours
