import OffHours.Fleet.Run
import OffHours.Proofs.Fleet.Matching
import OffHours.Proofs.Fleet.Roster

/-!
# Runs side by side

Two runs over related outsides. When two control planes answer alike from related outsides and
leave them related, one inventory is listed (`Run.list_matched`), one fleet is swept
(`Run.sweepFleet_matched`), and the runs end alike with the same reports (`Run.conduct_matched`).
With one control plane on both sides this tells what a run keeps: `Run.conduct_keeps`.
-/

namespace OffHours

variable {σ τ κ ν α : Type}

/-! ## Listings -/

/-- Two timelines over related outsides, at one time and with the same reports. -/
structure Timeline.Matched (outsides : σ → τ → Prop) (left : Timeline σ) (right : Timeline τ) :
    Prop where
  /-- Related outsides. -/
  world : outsides left.world right.world
  /-- One time. -/
  clock : left.clock = right.clock
  /-- The same reports. -/
  log : left.log = right.log

/-- Two control planes answer alike from related outsides; about changes of power nothing is asked
when actions are only reported. -/
structure ControlPlane.Matched (outsides : σ → τ → Prop) (simulate : Bool)
    (left : ControlPlane σ κ) (right : ControlPlane τ κ) : Prop where
  /-- The listing of machines begins at one place. -/
  machinesFrom : left.machinesFrom = right.machinesFrom
  /-- The listing of groups begins at one place. -/
  groupsFrom : left.groupsFrom = right.groupsFrom
  /-- Pages of machines are listed alike. -/
  machinePage : ∀ {world again} (cursor : κ), outsides world again →
    (left.machinePage cursor world).Matched outsides True (right.machinePage cursor again)
  /-- Pages of groups are listed alike. -/
  groupPage : ∀ {world again} (tagKey : String) (cursor : κ), outsides world again →
    (left.groupPage tagKey cursor world).Matched outsides True (right.groupPage tagKey cursor again)
  /-- Reads go alike. -/
  power : ∀ {world again} (kind : ResourceKind) (machine : Machine), outsides world again →
    (left.power kind machine world).Matched outsides True (right.power kind machine again)
  /-- Changes of power go alike. -/
  act : simulate = false → ∀ {world again} (action : PowerAction) (kind : ResourceKind)
    (machine : Machine), outsides world again →
      (left.act action kind machine world).Matched outsides True
        (right.act action kind machine again)
  /-- The same families of machines can be controlled. -/
  controls : left.controls = right.controls

section Listings

variable {outsides : σ → τ → Prop} {left : Timeline σ} {right : Timeline τ}

/-- Calls that go alike are awaited alike. -/
theorem Timeline.Matched.await? (matched : left.Matched outsides right) {sent : Sent σ α}
    {other : Sent τ α} (calls : sent.Matched outsides True other) (limit : Option Nat) :
    (left.await? limit sent).1 = (right.await? limit other).1 ∧
      (left.await? limit sent).2.Matched outsides (right.await? limit other).2 := by
  have due : right.clock + other.duration = left.clock + sent.duration := by
    rw [matched.clock, calls.duration]
  have log : left.log ++ sent.log = right.log ++ other.log := by
    rw [matched.log, calls.log trivial]
  obtain ⟨answer, outside⟩ := calls.settle calls.world
  cases limit with
  | none =>
    simp only [Timeline.await?, due]
    exact ⟨congrArg some answer, outside, rfl, log⟩
  | some limit =>
    by_cases late : limit < left.clock + sent.duration
    · simp only [Timeline.await?, due, if_pos late]
      exact ⟨trivial, calls.world, rfl, log⟩
    · simp only [Timeline.await?, due, if_neg late]
      exact ⟨congrArg some answer, outside, rfl, log⟩

variable {ask : κ → σ → Sent σ (Except ApiError (Page κ α))}
  {again : κ → τ → Sent τ (Except ApiError (Page κ α))}

/-- Pages that are asked for alike are listed alike. -/
theorem listPages_matched
    (asked : ∀ {world other} cursor, outsides world other →
      (ask cursor world).Matched outsides True (again cursor other))
    (limit : Option Nat) (pages : Nat) (cursor : κ) (found : List α)
    (matched : left.Matched outsides right) :
    (listPages limit ask pages cursor found left).1 =
        (listPages limit again pages cursor found right).1 ∧
      (listPages limit ask pages cursor found left).2.Matched outsides
        (listPages limit again pages cursor found right).2 := by
  induction pages generalizing cursor found left right with
  | zero => exact ⟨rfl, matched⟩
  | succ pages hypothesis =>
    have awaited := matched.await? (asked cursor matched.world) limit
    rw [listPages, listPages]
    generalize left.await? limit (ask cursor left.world) = first at awaited ⊢
    generalize right.await? limit (again cursor right.world) = second at awaited ⊢
    obtain ⟨answer, line⟩ := first
    obtain ⟨_, other⟩ := second
    obtain ⟨rfl, lines⟩ := awaited
    cases answer with
    | none => exact ⟨rfl, lines⟩
    | some answer =>
      cases answer with
      | error error => exact ⟨rfl, lines⟩
      | ok page =>
        simp only
        cases page.next with
        | none => exact ⟨rfl, lines⟩
        | some next => exact hypothesis next (found ++ page.items) lines

/-- Listings whose pages are asked for alike end alike. -/
theorem listAll_matched
    (asked : ∀ {world other} cursor, outsides world other →
      (ask cursor world).Matched outsides True (again cursor other))
    (limit : Option Nat) (pages : Nat) (first : Except ApiError κ)
    (matched : left.Matched outsides right) :
    (listAll limit ask pages first left).1 = (listAll limit again pages first right).1 ∧
      (listAll limit ask pages first left).2.Matched outsides
        (listAll limit again pages first right).2 := by
  cases first with
  | error error => exact ⟨rfl, matched⟩
  | ok cursor => exact listPages_matched asked limit pages cursor [] matched

end Listings

/-! ## Runs -/

/-- Two runs that went alike and left related outsides. -/
structure Run.Matched (outsides : σ → τ → Prop) (left : Run σ) (right : Run τ) : Prop where
  /-- They end in the same way. -/
  result : left.result = right.result
  /-- The same outcomes. -/
  outcomes : left.outcomes = right.outcomes
  /-- The same power calls at the same times. -/
  calls : left.calls = right.calls
  /-- The same answers to reads. -/
  answers : left.answers = right.answers
  /-- They end at one time, with the same reports. -/
  line : left.line.Matched outsides right.line

namespace Run

variable {outsides : σ → τ → Prop} (settings : RunSettings) (request : RunRequest)

/-- The inventory is listed alike. -/
theorem list_matched {left : ControlPlane σ κ} {right : ControlPlane τ κ} {simulate : Bool}
    (planes : left.Matched outsides simulate right) {world : σ} {other : τ}
    (outside : outsides world other) :
    (list left settings request world).1 = (list right settings request other).1 ∧
      (list left settings request world).2.Matched outsides
        (list right settings request other).2 := by
  let limit := some (1000 * settings.limitSeconds)
  let line : Timeline σ := { world := world, log := opening request }
  let also : Timeline τ := { world := other, log := opening request }
  have start : line.Matched outsides also := ⟨outside, rfl, rfl⟩
  have machines := listAll_matched planes.machinePage limit settings.pages right.machinesFrom start
  simp only [list, planes.machinesFrom, planes.groupsFrom]
  generalize listAll limit left.machinePage settings.pages right.machinesFrom line = first
    at machines ⊢
  generalize listAll limit right.machinePage settings.pages right.machinesFrom also = second
    at machines ⊢
  obtain ⟨ends, between⟩ := first
  obtain ⟨_, betweenAlso⟩ := second
  obtain ⟨rfl, lines⟩ := machines
  cases ends with
  | failed error => exact ⟨rfl, lines⟩
  | cut => exact ⟨rfl, lines⟩
  | complete found =>
    have groups := listAll_matched (planes.groupPage settings.tagKey) limit settings.pages
      right.groupsFrom lines
    simp only
    generalize listAll limit (left.groupPage settings.tagKey) settings.pages right.groupsFrom
      between = first at groups ⊢
    generalize listAll limit (right.groupPage settings.tagKey) settings.pages right.groupsFrom
      betweenAlso = second at groups ⊢
    obtain ⟨ends, later⟩ := first
    obtain ⟨_, laterAlso⟩ := second
    obtain ⟨rfl, lines⟩ := groups
    cases ends with
    | failed error => exact ⟨rfl, lines⟩
    | cut => exact ⟨rfl, lines⟩
    | complete tagged => exact ⟨rfl, lines⟩

/-- A listed fleet is swept alike. -/
theorem sweepFleet_matched {left : ControlPlane σ κ} {right : ControlPlane τ ν}
    {related : Machine → Machine → Prop} {inventory : Inventory}
    (alike : Matching outsides related True left right (settings.orders request inventory)
      (settings.orders request inventory))
    (fleet : List.Forall₂ related inventory.machines inventory.machines) {line : Timeline σ}
    {also : Timeline τ} (lines : line.Matched outsides also) :
    (sweepFleet left settings request inventory line).Matched outsides
      (sweepFleet right settings request inventory also) := by
  have ranks : ∀ machine other : Machine, related machine other →
      machine.id = other.id ∧ machine.name = other.name := by
    intro machine other pair
    obtain rfl := alike.same trivial pair
    exact ⟨rfl, rfl⟩
  have opening : (opened settings inventory line).Matched outsides related True
      (opened settings inventory also) := {
    world := lines.world
    clock := lines.clock
    queue := roster_forall₂ ranks fleet
    active := .nil
    taken := .nil
    acted := rfl
    waits := rfl
    calls := .nil
    answers := .nil
    log := fun _ => by rw [opened, opened, lines.log] }
  have swept := opening.run alike
  constructor
  · rw [sweepFleet, sweepFleet, swept.isComplete_eq]
  · refine List.forall₂_eq_eq_eq ▸ swept.taken.imp fun _ _ pair => ?_
    exact Prod.ext (alike.same trivial pair.machine) pair.outcome
  · refine List.forall₂_eq_eq_eq ▸ swept.calls.imp fun first second pair => ?_
    obtain ⟨time, kind, machine⟩ := pair
    cases first
    cases second
    cases time
    cases kind
    cases alike.same trivial machine
    rfl
  · refine List.forall₂_eq_eq_eq ▸ swept.answers.imp fun first second pair => ?_
    obtain ⟨machine, answer⟩ := pair
    cases first
    cases second
    cases answer
    cases alike.same trivial machine
    rfl
  · exact ⟨swept.world, swept.clock, swept.log trivial⟩

/-- On control planes that answer alike runs go alike. -/
theorem conduct_matched {left : ControlPlane σ κ} {right : ControlPlane τ κ}
    (planes : left.Matched outsides request.simulate right) {world : σ} {other : τ}
    (outside : outsides world other) :
    (conduct left settings request world).Matched outsides
      (conduct right settings request other) := by
  have listings := list_matched settings request planes outside
  rw [conduct, conduct]
  generalize list left settings request world = first at listings ⊢
  generalize list right settings request other = second at listings ⊢
  obtain ⟨listing, line⟩ := first
  obtain ⟨_, also⟩ := second
  obtain ⟨rfl, lines⟩ := listings
  cases listing with
  | error error => exact ⟨rfl, rfl, rfl, rfl, lines⟩
  | ok inventory =>
    have alike : Matching outsides Eq True left right (settings.orders request inventory)
        (settings.orders request inventory) := {
      key := fun same => congrArg Machine.key same
      brief := fun same => by rw [same, planes.controls]
      power := fun kind same outside => same ▸ planes.power kind _ outside
      act := fun live _ _ _ _ action kind same outside =>
        same ▸ planes.act live action kind _ outside
      simulate := rfl
      width := rfl
      limit := rfl
      same := fun _ => id
      briefLog := fun _ _ _ same => by rw [same, planes.controls] }
    exact sweepFleet_matched settings request alike (List.forall₂_same.mpr fun _ _ => rfl) lines

end Run

/-! ## What a run keeps -/

/-- What holds of the outside goes on to hold when a call is made and when it is answered. -/
structure Keeps (good : σ → Prop) (call : σ → Sent σ α) : Prop where
  /-- Making the call keeps it. -/
  made : ∀ {world}, good world → good (call world).world
  /-- Answering the call keeps it, whatever the outside is by then. -/
  answered : ∀ {world later}, good world → good later → good ((call world).settle later).2

namespace Keeps

variable {good : σ → Prop} {call : σ → Sent σ α}

/-- It does not matter how the answer is read. -/
theorem map {β : Type} (read : α → β) (keeps : Keeps good call) :
    Keeps good fun world => (call world).map read :=
  ⟨keeps.made, keeps.answered⟩

/-- It does not matter what is reported. -/
theorem reported (log : Log) (keeps : Keeps good call) :
    Keeps good fun world => (call world).reported log :=
  ⟨keeps.made, keeps.answered⟩

/-- A call that is refused keeps everything. -/
theorem refused (answer : α) : Keeps good fun world => Sent.refused world answer :=
  ⟨fun holds => holds, fun _ holds => holds⟩

/-- A call that keeps what holds of the outside goes like itself from where it holds. -/
theorem matched (keeps : Keeps good call) {world again : σ} (outside : world = again ∧ good world) :
    (call world).Matched (fun left right => left = right ∧ good left) True (call again) := by
  obtain ⟨rfl, holds⟩ := outside
  refine ⟨⟨rfl, keeps.made holds⟩, fun _ => rfl, rfl, ?_⟩
  rintro later _ ⟨rfl, still⟩
  exact ⟨rfl, rfl, keeps.answered holds still⟩

end Keeps

/-- A run keeps what listing and reading keep; changes of power keep it, or are only reported. -/
theorem Run.conduct_keeps {plane : ControlPlane σ κ} {good : σ → Prop} {settings : RunSettings}
    {request : RunRequest} (machinePage : ∀ cursor, Keeps good (plane.machinePage cursor))
    (groupPage : ∀ tagKey cursor, Keeps good (plane.groupPage tagKey cursor))
    (power : ∀ kind machine, Keeps good (plane.power kind machine))
    (act : request.simulate = false → ∀ action kind machine,
      Keeps good (plane.act action kind machine)) {world : σ} (holds : good world) :
    good (conduct plane settings request world).line.world := by
  have planes : plane.Matched (fun left right => left = right ∧ good left) request.simulate
      plane := {
    machinesFrom := rfl
    groupsFrom := rfl
    machinePage := fun cursor => (machinePage cursor).matched
    groupPage := fun tagKey cursor => (groupPage tagKey cursor).matched
    power := fun kind machine => (power kind machine).matched
    act := fun live _ _ action kind machine => (act live action kind machine).matched
    controls := rfl }
  exact (conduct_matched settings request planes ⟨rfl, holds⟩).line.world.2

end OffHours
