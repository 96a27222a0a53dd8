import OffHours.Fleet.Memory
import OffHours.Proofs.Fleet.Refinement
import OffHours.Proofs.Fleet.Roster

/-!
# One change of power

At most one change of power is asked of the machines with one key, whatever the inventory lists
and however the calls are ordered and answered. The machines share the keys of those acted on;
`Ledger.Single` says what a key has to do with the calls made on it, and every shift keeps it.
-/

namespace OffHours

variable {σ κ : Type} {plane : ControlPlane σ κ} {orders : SweepOrders}

/-- The changes of power in two lists of calls one after the other. -/
@[simp] theorem actionsOn_append (key : String) (front back : List PowerCall) :
    actionsOn key (front ++ back) = actionsOn key front ++ actionsOn key back := by
  simp [actionsOn]

/-- One call asks for a change of power of its machine, if it is not a read. -/
@[simp] theorem actionsOn_singleton (key : String) (call : PowerCall) :
    actionsOn key [call] = if call.machine.key = key then call.kind.action?.toList else [] := by
  by_cases own : call.machine.key = key
  · cases action : call.kind.action? <;> simp [actionsOn, own, action]
  · simp [actionsOn, own]

/-- No change of power was asked of the machines with a key, or one was and the key is
remembered. -/
def Ledger.Single (key : String) (ledger : Ledger σ) : Prop :=
  actionsOn key ledger.calls = [] ∨
    key ∈ ledger.acted ∧ ∃ action, actionsOn key ledger.calls = [action]

/-- A key with at most one change of power has no more. -/
theorem Ledger.Single.length_le {key : String} {ledger : Ledger σ} (single : ledger.Single key) :
    (actionsOn key ledger.calls).length ≤ 1 := by
  rcases single with none | ⟨-, action, one⟩
  · simp [none]
  · simp [one]

namespace Shift

variable {machine : Machine} {ledger later : Ledger σ} {old new : Stage σ}

/-- No shift asks for a second change of power: before the first the key is not remembered, and
with it the key is. -/
theorem single (moved : Shift plane orders machine ledger old later new) {key : String}
    (single : ledger.Single key) : later.Single key := by
  by_cases own : machine.key = key
  · subst own
    cases moved with
    | skip | unread | compliant | repeated | settle => exact single
    | ask time briefing => simpa [Ledger.Single, PowerCallKind.action?] using single
    | simulated answered plan unknown simulation =>
      rcases single with none | ⟨known, -⟩
      · exact Or.inl none
      · exact absurd known unknown
    | @perform _ _ _ _ action _ time answered plan unknown live =>
      rcases single with none | ⟨known, -⟩
      · exact Or.inr ⟨List.mem_cons_self, action, by simp [none, PowerCallKind.action?]⟩
      · exact absurd known unknown
  · have frame := moved.frame own
    have calls : actionsOn key later.calls = actionsOn key ledger.calls := by
      rw [actionsOn, frame.calls, actionsOn]
    rw [Ledger.Single, calls, frame.acted]
    exact single

/-- A shift takes no call back. -/
theorem calls_prefix (moved : Shift plane orders machine ledger old later new) :
    ledger.calls <+: later.calls := by
  cases moved <;> simp

end Shift

namespace Course

variable {first last : Course σ}

/-- A course keeps what was asked of a key to one change of power. -/
theorem Reaches.single (reached : Reaches plane orders first last) {key : String}
    (single : first.ledger.Single key) : last.ledger.Single key :=
  Reaches.ledger (Ledger.Single key) (fun moved => moved.single) reached single

/-- A course takes no call back. -/
theorem Reaches.calls_prefix (reached : Reaches plane orders first last) :
    first.ledger.calls <+: last.ledger.calls :=
  Reaches.ledger (fun ledger => first.ledger.calls <+: ledger.calls)
    (fun moved earlier => earlier.trans moved.calls_prefix) reached List.prefix_rfl

/-- After one change of power was asked of the machines with a key, no course asks for another,
whether that one failed or not. -/
theorem Reaches.actionsOn_eq (reached : Reaches plane orders first last) {key : String}
    (single : first.ledger.Single key) (asked : actionsOn key first.ledger.calls ≠ []) :
    actionsOn key last.ledger.calls = actionsOn key first.ledger.calls := by
  obtain ⟨further, calls⟩ := reached.calls_prefix
  have bound := (reached.single single).length_le
  have some : 0 < (actionsOn key first.ledger.calls).length := List.length_pos_iff.mpr asked
  rw [← calls, actionsOn_append, List.length_append] at bound
  have none : actionsOn key further = [] := List.length_eq_zero_iff.mp (by omega)
  rw [← calls, actionsOn_append, none, List.append_nil]

end Course

/-- At most one change of power is asked of the machines with one key: in every run, and along
every course of every list of machines; and once one was asked, no course asks for another. -/
theorem one_action_per_key (plane : ControlPlane σ κ) (key : String) :
    (∀ settings request world,
      (actionsOn key (Run.conduct plane settings request world).calls).length ≤ 1) ∧
    ∀ orders world machines middle last,
      Course.Reaches plane orders (Course.start world machines) middle →
      Course.Reaches plane orders middle last →
      (actionsOn key last.ledger.calls).length ≤ 1 ∧
        (actionsOn key middle.ledger.calls ≠ [] →
          actionsOn key last.ledger.calls = actionsOn key middle.ledger.calls) := by
  have fresh : ∀ world machines, (Course.start (σ := σ) world machines).ledger.Single key :=
    fun world machines => Or.inl rfl
  constructor
  · intro settings request world
    cases listed : Run.list plane settings request world with
    | mk listing line =>
      cases listing with
      | error error =>
        rw [Run.conduct_of_unlisted listed]
        exact Nat.zero_le 1
      | ok inventory =>
        obtain ⟨last, reached, calls, -⟩ :=
          Run.sweepFleet_reaches plane settings request inventory line
        rw [Run.conduct_of_list listed, calls]
        exact (reached.single (fresh _ _)).length_le
  · intro orders world machines middle last begun continued
    have single := Course.Reaches.single begun (fresh world machines)
    exact ⟨(Course.Reaches.single continued single).length_le,
      fun asked => Course.Reaches.actionsOn_eq continued single asked⟩

/-- Two entries of one machine, which the sort by name does not bring together. -/
def twinEntries : Inventory where
  machines := [("/vm/A", "first"), ("/vm/B", "other"), ("/vm/a", "second")].map fun (id, name) =>
    ⟨id, name, "web", "Microsoft.Compute/virtualMachines", [("Off", "Monday")]⟩
  groups := []

/-- A control plane that lists the two entries and refuses every change of power. -/
def twinPlane : MemoryPlane where
  machines := twinEntries.machines
  behaviour _ := { actionError := some ⟨.permanent, "stop", "machine", "refused"⟩, readDelay := 5 }

/-- All three entries may be in progress at once. -/
def twinSettings : RunSettings := { tagKey := "off", width := 3 }

/-- A run on a Monday. -/
def twinRequest : RunRequest where
  id := "twins"
  now := { date := ⟨2026, 10, 19, rfl⟩, hour := 7, minute := 30, second := 15 }
  simulate := false

/-- Every entry is running. -/
def twinPowers : PowerTable := [("/vm/A", .running), ("/vm/B", .running), ("/vm/a", .running)]

/-- Both entries of one machine stay in the roster and are read while it runs; the stop is
refused, and neither the run nor any course from there asks for another. -/
theorem one_action_for_twins :
    callsOn "/vm/a" (Run.conduct twinPlane.plane twinSettings twinRequest twinPowers).calls =
        [.read, .read, .action .stop] ∧
      (actionsOn "/vm/a"
        (Run.conduct twinPlane.plane twinSettings twinRequest twinPowers).calls).length ≤ 1 ∧
      ∃ middle, Course.Reaches twinPlane.plane (twinSettings.orders twinRequest twinEntries)
          (Course.start twinPowers (roster twinEntries.machines)) middle ∧
        actionsOn "/vm/a" middle.ledger.calls = [.stop] ∧
        ∀ last, Course.Reaches twinPlane.plane (twinSettings.orders twinRequest twinEntries)
          middle last → actionsOn "/vm/a" last.ledger.calls = [.stop] := by
  have listed : Run.list twinPlane.plane twinSettings twinRequest twinPowers =
      (.ok twinEntries, ⟨twinPowers, 0, Run.opening twinRequest⟩) := rfl
  have kept : roster twinEntries.machines = twinEntries.machines :=
    (roster_of_sorted (by decide +kernel)).trans (by decide +kernel)
  have calls : callsOn "/vm/a"
      (Run.conduct twinPlane.plane twinSettings twinRequest twinPowers).calls =
        [.read, .read, .action .stop] := by
    rw [Run.conduct_of_list listed, Run.sweepFleet, Run.opened]
    simp only [kept]
    decide +kernel
  obtain ⟨middle, reached, same, -⟩ := Run.sweepFleet_reaches twinPlane.plane twinSettings
    twinRequest twinEntries ⟨twinPowers, 0, Run.opening twinRequest⟩
  have stopped : actionsOn "/vm/a" middle.ledger.calls = [.stop] := by
    rw [← same, ← Run.conduct_of_list listed, actionsOn, calls]
    rfl
  refine ⟨calls, (one_action_per_key twinPlane.plane "/vm/a").1 _ _ _, middle, reached, stopped, ?_⟩
  intro last continued
  have once := (one_action_per_key twinPlane.plane "/vm/a").2 _ _ _ _ _ reached continued
  rw [once.2 (by simp [stopped]), stopped]

end OffHours
