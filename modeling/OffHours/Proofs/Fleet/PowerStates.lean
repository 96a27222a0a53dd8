import OffHours.Fleet.Memory
import OffHours.Proofs.Fleet.Listings
import OffHours.Proofs.Fleet.Separation

/-!
# Power states during a run

A control plane is undisturbed when power states change by its own changes of power and by nothing
else: listing and reading leave them, and a change leaves those of the machines with other keys. It
says nothing of the state that a change leads to: one that was accepted may just have begun. On a
faithful control plane, moreover, a change that succeeds leaves its machine as it says.
`Shift.state_eq` and `Shift.passive` say what one move of a machine does to the power states, and
`Run.simulated_reads_only` what a simulated run does: it reads, and every power state stays.
-/

namespace OffHours

variable {σ κ α τ : Type}

/-- A call leaves a view of the outside as it is, when it is made and when it is answered. -/
structure Leaves (view : σ → τ) (call : σ → Sent σ α) : Prop where
  /-- Making the call changes nothing. -/
  made : ∀ world, view (call world).world = view world
  /-- Answering it changes nothing, whatever the outside is by then. -/
  answered : ∀ world later, view ((call world).settle later).2 = view later

/-- Machines with different keys have different ids. -/
theorem Machine.id_ne_of_key_ne {target machine : Machine} (apart : target.key ≠ machine.key) :
    machine.id ≠ target.id := by
  intro same
  apply apart
  rw [Machine.key, Machine.key, same]

/-- Power states change by changes of power and by nothing else. -/
structure ControlPlane.Undisturbed (plane : ControlPlane σ κ) (state : Machine → σ → PowerState) :
    Prop where
  /-- Listing machines leaves every power state. -/
  machinePage : ∀ cursor machine, Leaves (state machine) (plane.machinePage cursor)
  /-- Listing groups leaves every power state. -/
  groupPage : ∀ tagKey cursor machine, Leaves (state machine) (plane.groupPage tagKey cursor)
  /-- Reading leaves every power state. -/
  power : ∀ kind target machine, Leaves (state machine) (plane.power kind target)
  /-- A read that does not fail is answered with the power state as it was when it was asked for
  or as it is when it is answered. -/
  observed : ∀ kind machine world later power,
    ((plane.power kind machine world).settle later).1 = .ok power →
      power = state machine world ∨ power = state machine later
  /-- A change of power leaves the power states of the machines with other keys. -/
  act : ∀ action kind target machine, target.key ≠ machine.key →
    Leaves (state machine) (plane.act action kind target)

/-- Power states change by changes of power only, and as these say. -/
structure ControlPlane.Faithful (plane : ControlPlane σ κ) (state : Machine → σ → PowerState) :
    Prop extends plane.Undisturbed state where
  /-- A change of power that succeeds leaves the machine in the power state it leads to. -/
  result : ∀ action kind machine world later,
    ((plane.act action kind machine world).settle later).1 = .ok () →
      state machine ((plane.act action kind machine world).settle later).2 = action.result

/-- Nobody else changes the power states of a control plane in memory. -/
theorem MemoryPlane.undisturbed (memory : MemoryPlane) :
    memory.plane.Undisturbed fun machine table => table.state machine.id where
  machinePage _ _ := ⟨fun _ => rfl, fun _ _ => rfl⟩
  groupPage _ _ _ := ⟨fun _ => rfl, fun _ _ => rfl⟩
  power _ _ _ := ⟨fun _ => rfl, fun _ _ => rfl⟩
  observed := by
    intro kind machine world later power answered
    right
    cases failure : (memory.behaviour machine.id).readError with
    | some error => simp [plane, readNow, failure] at answered
    | none =>
      simp only [plane, readNow, failure, Except.ok.injEq] at answered
      exact answered.symm
  act := by
    intro action kind target machine apart
    refine ⟨fun _ => rfl, ?_⟩
    intro world later
    cases failure : (memory.behaviour target.id).actionError with
    | some error => simp [plane, actNow, failure]
    | none =>
      simp only [plane, actNow, failure]
      exact later.state_set_other action.result (Machine.id_ne_of_key_ne apart)

/-- A control plane in memory is faithful about the power states of its table. -/
theorem MemoryPlane.faithful (memory : MemoryPlane) :
    memory.plane.Faithful fun machine table => table.state machine.id where
  toUndisturbed := memory.undisturbed
  result := by
    intro action kind machine world later answered
    cases failure : (memory.behaviour machine.id).actionError with
    | some error => simp [plane, actNow, failure] at answered
    | none =>
      simp only [plane, actNow, failure]
      exact later.state_set machine.id action.result

/-! ## Calls in progress -/

/-- A call in progress is one that the control plane made for its machine. -/
def Stage.Issued (plane : ControlPlane σ κ) (machine : Machine) : Stage σ → Prop
  | .reading kind _ settle => ∃ made, settle = (plane.power kind machine made).settle
  | .acting action settle => ∃ kind made, settle = (plane.act action kind machine made).settle
  | .waiting | .finished _ => True

/-- No change of power is in progress, and a read in progress was made for the machine. -/
def Stage.Passive (plane : ControlPlane σ κ) (machine : Machine) : Stage σ → Prop
  | .reading kind _ settle => ∃ made, settle = (plane.power kind machine made).settle
  | .acting _ _ => False
  | .waiting | .finished _ => True

/-- A machine that is not being changed has only issued calls in progress. -/
theorem Stage.Passive.issued {plane : ControlPlane σ κ} {machine : Machine} {stage : Stage σ}
    (passive : stage.Passive plane machine) : stage.Issued plane machine := by
  cases stage with
  | acting action settle => exact absurd passive id
  | waiting | reading kind desired settle | finished outcome => exact passive

variable {plane : ControlPlane σ κ} {orders : SweepOrders} {state : Machine → σ → PowerState}

/-- The answer to a read leaves every power state. -/
theorem ControlPlane.Undisturbed.read_state (undisturbed : plane.Undisturbed state)
    {kind : ResourceKind} {machine : Machine} {settle : σ → Except ApiError PowerState × σ}
    {answer : Except ApiError PowerState} {world left : σ}
    (asked : ∃ made, settle = (plane.power kind machine made).settle)
    (answered : settle world = (answer, left)) (target : Machine) :
    state target left = state target world := by
  obtain ⟨made, rfl⟩ := asked
  have left := (undisturbed.power kind machine target).answered made world
  rw [answered] at left
  exact left

/-- The answer to a change of power leaves the power states under other keys. -/
theorem ControlPlane.Undisturbed.act_state (undisturbed : plane.Undisturbed state)
    {action : PowerAction} {machine target : Machine} {settle : σ → Except ApiError Unit × σ}
    {answer : Except ApiError Unit} {world left : σ}
    (asked : ∃ kind made, settle = (plane.act action kind machine made).settle)
    (answered : settle world = (answer, left)) (apart : machine.key ≠ target.key) :
    state target left = state target world := by
  obtain ⟨kind, made, rfl⟩ := asked
  have left := (undisturbed.act action kind machine target apart).answered made world
  rw [answered] at left
  exact left

/-- A change of power that is answered with success leads to its power state. -/
theorem ControlPlane.Faithful.act_result (faithful : plane.Faithful state) {action : PowerAction}
    {machine : Machine} {settle : σ → Except ApiError Unit × σ} {world left : σ}
    (asked : ∃ kind made, settle = (plane.act action kind machine made).settle)
    (answered : settle world = (.ok (), left)) : state machine left = action.result := by
  obtain ⟨kind, made, rfl⟩ := asked
  have done := faithful.result action kind machine made world
  rw [answered] at done
  exact done rfl

/-- A read that was asked for in a power state, which is the one at its answer, finds it. -/
theorem ControlPlane.Undisturbed.observed_eq (undisturbed : plane.Undisturbed state)
    {kind : ResourceKind} {machine : Machine} {settle : σ → Except ApiError PowerState × σ}
    {observed power : PowerState} {world left : σ}
    (asked : ∃ made, settle = (plane.power kind machine made).settle ∧ state machine made = power)
    (same : state machine world = power) (answered : settle world = (.ok observed, left)) :
    observed = power := by
  obtain ⟨made, rfl, before⟩ := asked
  have found := undisturbed.observed kind machine made world observed
  rw [answered] at found
  rcases found rfl with early | late
  · exact early.trans before
  · exact late.trans same

namespace Shift

variable {machine : Machine} {ledger later : Ledger σ} {old new : Stage σ}

/-- The call in progress after a move is again one that was made for the machine. -/
theorem issued (moved : Shift plane orders machine ledger old later new) :
    new.Issued plane machine := by
  cases moved with
  | skip | unread | compliant | repeated | simulated | settle => trivial
  | ask => exact ⟨_, rfl⟩
  | perform => exact ⟨_, _, rfl⟩

/-- A machine that goes on leaves the power states of the machines with other keys. -/
theorem state_eq (undisturbed : plane.Undisturbed state)
    (moved : Shift plane orders machine ledger old later new) (issued : old.Issued plane machine)
    {target : Machine} (apart : machine.key ≠ target.key) :
    state target later.world = state target ledger.world := by
  cases moved with
  | skip briefing => rfl
  | ask time briefing => exact (undisturbed.power _ machine target).made ledger.world
  | unread answered | compliant answered plan | repeated answered plan known
  | simulated answered plan unknown simulation =>
    exact undisturbed.read_state issued answered target
  | @perform kind _ _ _ action world time answered plan unknown live =>
    -- The answer to the read leaves the other machine, and so does the call made after it.
    calc state target (plane.act action kind machine world).world
      _ = state target world := (undisturbed.act action kind machine target apart).made world
      _ = state target ledger.world := undisturbed.read_state issued answered target
  | settle answered => exact undisturbed.act_state issued answered apart

/-- A machine that is not being changed, before a move and after it, leaves every power state,
its own too, and makes no other call than a read. -/
theorem passive (undisturbed : plane.Undisturbed state)
    (moved : Shift plane orders machine ledger old later new) (before : old.Passive plane machine)
    (after : ∀ action settle, new ≠ .acting action settle) :
    new.Passive plane machine ∧
      (∀ target, state target later.world = state target ledger.world) ∧
      (later.calls = ledger.calls ∨
        ∃ time, later.calls = ledger.calls ++ [⟨time, .read, machine⟩]) := by
  cases moved with
  | skip briefing => exact ⟨trivial, fun _ => rfl, Or.inl rfl⟩
  | ask time briefing =>
    exact ⟨⟨_, rfl⟩, fun target => (undisturbed.power _ machine target).made ledger.world,
      Or.inr ⟨time, rfl⟩⟩
  | unread answered | compliant answered plan | repeated answered plan known
  | simulated answered plan unknown simulation =>
    exact ⟨trivial, fun target => undisturbed.read_state before answered target, Or.inl rfl⟩
  | perform => exact absurd rfl (after _ _)
  | settle => exact absurd before id

/-- In a simulation no change of power is asked for. -/
theorem not_acting (moved : Shift plane orders machine ledger old later new)
    (simulation : orders.simulate = true) (action : PowerAction)
    (settle : σ → Except ApiError Unit × σ) : new ≠ .acting action settle := by
  cases moved with
  | perform time answered plan unknown live => simp [simulation] at live
  | _ => simp

end Shift

/-- What holds of the ledger and of every stage at the start, and is kept by every shift, holds
at the end, whatever keys the machines have. -/
theorem Course.Reaches.invariant {first last : Course σ} (good : Ledger σ → Prop)
    (fits : Machine → Stage σ → Prop)
    (kept : ∀ {machine ledger old later new}, Shift plane orders machine ledger old later new →
      fits machine old → good ledger → good later ∧ fits machine new)
    (reached : Course.Reaches plane orders first last) (holds : good first.ledger)
    (fitting : ∀ entry ∈ first.stages, fits entry.1 entry.2) :
    good last.ledger ∧ ∀ entry ∈ last.stages, fits entry.1 entry.2 := by
  induction reached with
  | refl => exact ⟨holds, fitting⟩
  | tail _ step hypothesis =>
    obtain ⟨holds, fitting⟩ := hypothesis
    cases step with
    | @shift ledger later old new machine front back moved =>
      obtain ⟨goodLater, fitsNew⟩ := kept moved (fitting (machine, old) (by simp)) holds
      refine ⟨goodLater, ?_⟩
      intro entry present
      simp only [List.mem_append, List.mem_cons] at present
      rcases present with before | rfl | behind
      · exact fitting entry (by simp [before])
      · exact fitsNew
      · exact fitting entry (by simp [behind])

/-! ## Listings -/

/-- Waiting for a call that leaves a view leaves it. -/
theorem Timeline.await?_view {view : σ → τ} {call : σ → Sent σ α} (line : Timeline σ)
    (leaves : Leaves view call) (limit : Option Nat) :
    view (line.await? limit (call line.world)).2.world = view line.world := by
  have answered : view ((call line.world).settle (call line.world).world).2 = view line.world := by
    rw [leaves.answered, leaves.made]
  unfold Timeline.await?
  cases limit with
  | none => exact answered
  | some limit =>
    simp only
    split
    · exact leaves.made line.world
    · exact answered

namespace Run

/-- Listing the inventory leaves a view that the pages of both listings leave. -/
theorem list_view {view : σ → τ} (machinePage : ∀ cursor, Leaves view (plane.machinePage cursor))
    (groupPage : ∀ tagKey cursor, Leaves view (plane.groupPage tagKey cursor))
    (settings : RunSettings) (request : RunRequest) (world : σ) :
    view (list plane settings request world).2.world = view world := by
  let same (line : Timeline σ) : Prop := view line.world = view world
  have begun : same { world := world, log := opening request } := rfl
  exact list_keep settings request world
    (fun cursor line kept => (line.await?_view (machinePage cursor) _).trans kept)
    (fun cursor line kept => (line.await?_view (groupPage settings.tagKey cursor) _).trans kept)
    begun

/-- Listing the inventory leaves every power state. -/
theorem list_state (undisturbed : plane.Undisturbed state) (settings : RunSettings)
    (request : RunRequest) (world : σ) (machine : Machine) :
    state machine (list plane settings request world).2.world = state machine world :=
  list_view (fun cursor => undisturbed.machinePage cursor machine)
    (fun tagKey cursor => undisturbed.groupPage tagKey cursor machine) settings request world

/-- A simulated run makes no other power calls than reads, and leaves every power state. -/
theorem simulated_reads_only (undisturbed : plane.Undisturbed state) (settings : RunSettings)
    (request : RunRequest) (world : σ) (simulation : request.simulate = true) :
    (∀ call ∈ (conduct plane settings request world).calls, call.kind = .read) ∧
      ∀ machine, state machine (conduct plane settings request world).line.world =
        state machine world := by
  have kept := list_state undisturbed settings request world
  cases listed : list plane settings request world with
  | mk listing line =>
    rw [listed] at kept
    cases listing with
    | error error =>
      rw [conduct_of_unlisted listed]
      exact ⟨fun call none => absurd none List.not_mem_nil, kept⟩
    | ok inventory =>
      obtain ⟨last, reached, calls, -, left, -⟩ :=
        sweepFleet_reaches plane settings request inventory line
      rw [conduct_of_list listed, calls, left]
      refine (reached.invariant (fun ledger => (∀ call ∈ ledger.calls, call.kind = .read) ∧
        ∀ machine, state machine ledger.world = state machine world)
        (fun machine stage => stage.Passive plane machine) ?_ ⟨?_, kept⟩ ?_).1
      · intro machine ledger old later new moved passive ⟨reads, same⟩
        obtain ⟨passive, states, made⟩ :=
          moved.passive undisturbed passive (moved.not_acting simulation)
        refine ⟨⟨?_, fun target => (states target).trans (same target)⟩, passive⟩
        rcases made with none | ⟨time, more⟩
        · rw [none]
          exact reads
        · rw [more]
          intro call present
          rcases List.mem_append.mp present with earlier | own
          · exact reads call earlier
          · rw [List.mem_singleton.mp own]
      · exact fun call none => absurd none List.not_mem_nil
      · intro entry present
        obtain ⟨machine, -, rfl⟩ := List.mem_map.mp present
        trivial

end Run

end OffHours
