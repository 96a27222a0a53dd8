import Mathlib.Data.List.Nodup
import Mathlib.Logic.Relation
import Mathlib.Tactic.Simps.Basic
import OffHours.Fleet.Sweep

/-!
# Courses of a fleet

What can happen to a list of machines when any of them may go on at any time. A sweep times its
calls and bounds how many machines are in progress; a course does neither, so whatever holds
along every course holds for every order in which calls are made and answered. `Shift` is one
move of one machine: it changes the stage of that machine and the ledger that all machines
share. `Lasting.reaches` is the way to an invariant of a course: a property of each machine that
its own shifts keep and that the shifts of others do not break.
-/

namespace OffHours

variable {σ κ : Type}

/-- How far a machine is, without the times at which its calls are answered. -/
inductive Stage (σ : Type) where
  /-- It is not begun. -/
  | waiting
  /-- Its power state is being read. -/
  | reading (kind : ResourceKind) (desired : DesiredPower)
      (settle : σ → Except ApiError PowerState × σ)
  /-- A change of its power was asked for. -/
  | acting (action : PowerAction) (settle : σ → Except ApiError Unit × σ)
  /-- It is done. -/
  | finished (outcome : Outcome)

/-- What all machines of a fleet share. -/
structure Ledger (σ : Type) where
  /-- The outside. -/
  world : σ
  /-- The keys of the machines acted on. -/
  acted : List String := []
  /-- The power calls made, oldest first. -/
  calls : List PowerCall := []
  /-- The answers to reads, oldest first. -/
  answers : List PowerAnswer := []

namespace Ledger

/-- The ledger after a power call was made. -/
@[simps] def called (ledger : Ledger σ) (time : Nat) (kind : PowerCallKind) (machine : Machine)
    (world : σ) : Ledger σ :=
  { ledger with world := world, calls := ledger.calls ++ [⟨time, kind, machine⟩] }

/-- The ledger after a read was answered. -/
@[simps] def heard (ledger : Ledger σ) (machine : Machine) (answer : Except ApiError PowerState)
    (world : σ) : Ledger σ :=
  { ledger with world := world, answers := ledger.answers ++ [⟨machine, answer⟩] }

/-- The ledger with a machine remembered as acted on. -/
@[simps] def remembered (ledger : Ledger σ) (machine : Machine) : Ledger σ :=
  { ledger with acted := machine.key :: ledger.acted }

/-- The ledger after a change of power was answered. -/
@[simps] def settled (ledger : Ledger σ) (world : σ) : Ledger σ := { ledger with world := world }

end Ledger

/-- The change of power in a call, if it is one. -/
def PowerCallKind.action? : PowerCallKind → Option PowerAction
  | read => none
  | action change => some change

/-- The calls on the machines with a key, oldest first. -/
def callsOn (key : String) (calls : List PowerCall) : List PowerCallKind :=
  (calls.filter (·.machine.key == key)).map PowerCall.kind

/-- The changes of power asked of the machines with a key, oldest first. -/
def actionsOn (key : String) (calls : List PowerCall) : List PowerAction :=
  (callsOn key calls).filterMap PowerCallKind.action?

/-- The answers to reads of the machines with a key, oldest first. -/
def answersOn (key : String) (answers : List PowerAnswer) : List (Except ApiError PowerState) :=
  (answers.filter (·.machine.key == key)).map PowerAnswer.answer

/-- What becomes of a machine when a change of its power is answered. -/
def PowerAction.outcome (action : PowerAction) : Except ApiError Unit → Outcome
  | .ok () => .reconciled (some action)
  | .error error => .errored error

/-- One move of one machine. -/
inductive Shift (plane : ControlPlane σ κ) (orders : SweepOrders) (machine : Machine) :
    Ledger σ → Stage σ → Ledger σ → Stage σ → Prop where
  /-- It is left alone. -/
  | skip {ledger : Ledger σ} {reason : SkipReason}
      (briefing : (brief orders plane.controls machine).1 = .skip reason) :
      Shift plane orders machine ledger .waiting ledger (.finished (.skipped reason))
  /-- Its power state is asked for. -/
  | ask {ledger : Ledger σ} {kind : ResourceKind} {desired : DesiredPower} (time : Nat)
      (briefing : (brief orders plane.controls machine).1 = .read kind desired) :
      Shift plane orders machine ledger .waiting
        (ledger.called time .read machine (plane.power kind machine ledger.world).world)
        (.reading kind desired (plane.power kind machine ledger.world).settle)
  /-- Its power state cannot be read. -/
  | unread {ledger : Ledger σ} {kind : ResourceKind} {desired : DesiredPower}
      {settle : σ → Except ApiError PowerState × σ} {error : ApiError} {world : σ}
      (answered : settle ledger.world = (.error error, world)) :
      Shift plane orders machine ledger (.reading kind desired settle)
        (ledger.heard machine (.error error) world) (.finished (.errored error))
  /-- It is as desired. -/
  | compliant {ledger : Ledger σ} {kind : ResourceKind} {desired : DesiredPower}
      {settle : σ → Except ApiError PowerState × σ} {observed : PowerState} {world : σ}
      (answered : settle ledger.world = (.ok observed, world))
      (plan : planAction desired observed = none) :
      Shift plane orders machine ledger (.reading kind desired settle)
        (ledger.heard machine (.ok observed) world) (.finished (.reconciled none))
  /-- It was acted on before. -/
  | repeated {ledger : Ledger σ} {kind : ResourceKind} {desired : DesiredPower}
      {settle : σ → Except ApiError PowerState × σ} {observed : PowerState}
      {action : PowerAction} {world : σ}
      (answered : settle ledger.world = (.ok observed, world))
      (plan : planAction desired observed = some action)
      (known : machine.key ∈ ledger.acted) :
      Shift plane orders machine ledger (.reading kind desired settle)
        (ledger.heard machine (.ok observed) world) (.finished (.reconciled none))
  /-- The change of its power is only reported. -/
  | simulated {ledger : Ledger σ} {kind : ResourceKind} {desired : DesiredPower}
      {settle : σ → Except ApiError PowerState × σ} {observed : PowerState}
      {action : PowerAction} {world : σ}
      (answered : settle ledger.world = (.ok observed, world))
      (plan : planAction desired observed = some action)
      (unknown : machine.key ∉ ledger.acted) (simulation : orders.simulate = true) :
      Shift plane orders machine ledger (.reading kind desired settle)
        ((ledger.heard machine (.ok observed) world).remembered machine)
        (.finished (.reconciled (some action)))
  /-- The change of its power is asked for. -/
  | perform {ledger : Ledger σ} {kind : ResourceKind} {desired : DesiredPower}
      {settle : σ → Except ApiError PowerState × σ} {observed : PowerState}
      {action : PowerAction} {world : σ} (time : Nat)
      (answered : settle ledger.world = (.ok observed, world))
      (plan : planAction desired observed = some action)
      (unknown : machine.key ∉ ledger.acted) (live : orders.simulate = false) :
      Shift plane orders machine ledger (.reading kind desired settle)
        (((ledger.heard machine (.ok observed) world).remembered machine).called time
          (.action action) machine (plane.act action kind machine world).world)
        (.acting action (plane.act action kind machine world).settle)
  /-- The change of its power is answered. -/
  | settle {ledger : Ledger σ} {action : PowerAction}
      {settle : σ → Except ApiError Unit × σ} {answer : Except ApiError Unit} {world : σ}
      (answered : settle ledger.world = (answer, world)) :
      Shift plane orders machine ledger (.acting action settle)
        (ledger.settled world) (.finished (action.outcome answer))

/-- The machines of a fleet with their stages, and what they share. -/
structure Course (σ : Type) where
  /-- What the machines share. -/
  ledger : Ledger σ
  /-- How far each machine is. -/
  stages : List (Machine × Stage σ)

namespace Course

/-- A fleet before any machine is begun. -/
def start (world : σ) (machines : List Machine) : Course σ :=
  ⟨{ world := world }, machines.map fun machine => (machine, .waiting)⟩

/-- One machine of the fleet goes on. -/
inductive Step (plane : ControlPlane σ κ) (orders : SweepOrders) : Course σ → Course σ → Prop where
  /-- The machine between some before it and some after it goes on. -/
  | shift {ledger later : Ledger σ} {old new : Stage σ} {machine : Machine}
      (front back : List (Machine × Stage σ))
      (moved : Shift plane orders machine ledger old later new) :
      Step plane orders ⟨ledger, front ++ (machine, old) :: back⟩
        ⟨later, front ++ (machine, new) :: back⟩

/-- Some machines of the fleet go on, one after another, in any order. -/
abbrev Reaches (plane : ControlPlane σ κ) (orders : SweepOrders) : Course σ → Course σ → Prop :=
  Relation.ReflTransGen (Step plane orders)

end Course

/-- The calls on a key in two lists one after the other. -/
@[simp] theorem callsOn_append (key : String) (front back : List PowerCall) :
    callsOn key (front ++ back) = callsOn key front ++ callsOn key back := by
  simp [callsOn]

/-- One call is on the key of its machine. -/
@[simp] theorem callsOn_singleton (key : String) (call : PowerCall) :
    callsOn key [call] = if call.machine.key = key then [call.kind] else [] := by
  by_cases own : call.machine.key = key <;> simp [callsOn, own]

/-- The answers about a key in two lists one after the other. -/
@[simp] theorem answersOn_append (key : String) (front back : List PowerAnswer) :
    answersOn key (front ++ back) = answersOn key front ++ answersOn key back := by
  simp [answersOn]

/-- One answer is about the key of its machine. -/
@[simp] theorem answersOn_singleton (key : String) (heard : PowerAnswer) :
    answersOn key [heard] = if heard.machine.key = key then [heard.answer] else [] := by
  by_cases own : heard.machine.key = key <;> simp [answersOn, own]

/-- Two ledgers say the same about the machines with a key. -/
structure Ledger.Frame (key : String) (ledger later : Ledger σ) : Prop where
  /-- The same calls were made on them. -/
  calls : callsOn key later.calls = callsOn key ledger.calls
  /-- The same answers were heard about them. -/
  answers : answersOn key later.answers = answersOn key ledger.answers
  /-- They are remembered in both or in neither. -/
  acted : key ∈ later.acted ↔ key ∈ ledger.acted

variable {plane : ControlPlane σ κ} {orders : SweepOrders}

namespace Shift

variable {machine : Machine} {ledger later : Ledger σ} {old new : Stage σ}

/-- A machine that goes on leaves the ledger of the machines with other keys as it is. -/
theorem frame (moved : Shift plane orders machine ledger old later new) {key : String}
    (other : machine.key ≠ key) : Ledger.Frame key ledger later := by
  have apart : key ≠ machine.key := Ne.symm other
  constructor
  · cases moved <;> simp [other]
  · cases moved <;> simp [other]
  · cases moved <;> simp [apart]

/-- A machine that goes on adds only calls on itself. -/
theorem mem_calls (moved : Shift plane orders machine ledger old later new) {call : PowerCall}
    (made : call ∈ later.calls) : call ∈ ledger.calls ∨ call.machine = machine := by
  cases moved with
  | skip | unread | compliant | repeated | simulated | settle => exact Or.inl made
  | ask | perform =>
    simp only [Ledger.called_calls, Ledger.remembered_calls, Ledger.heard_calls,
      List.mem_append, List.mem_singleton] at made
    rcases made with earlier | rfl
    · exact Or.inl earlier
    · exact Or.inr rfl

end Shift

namespace Course

variable {first last : Course σ}

/-- The machines of a course that is not begun are those it begins with. -/
@[simp] theorem start_machines (world : σ) (machines : List Machine) :
    (start world machines).stages.map Prod.fst = machines := by
  simp [start, Function.comp_def]

/-- The machines of a course stay the same. -/
theorem Reaches.machines (reached : Reaches plane orders first last) :
    last.stages.map Prod.fst = first.stages.map Prod.fst := by
  induction reached with
  | refl => rfl
  | tail _ step hypothesis =>
    rw [← hypothesis]
    cases step with
    | shift front back moved => simp

/-- What holds of the ledger at the start and is kept by every shift holds at the end. -/
theorem Reaches.ledger (good : Ledger σ → Prop)
    (kept : ∀ {machine ledger old later new}, Shift plane orders machine ledger old later new →
      good ledger → good later)
    (reached : Reaches plane orders first last) (holds : good first.ledger) : good last.ledger := by
  induction reached with
  | refl => exact holds
  | tail _ step hypothesis =>
    cases step with
    | shift front back moved => exact kept moved hypothesis

/-- Every call of a course is on one of its machines. -/
theorem Reaches.calls_listed (reached : Reaches plane orders first last)
    (listed : ∀ call ∈ first.ledger.calls, call.machine ∈ first.stages.map Prod.fst) :
    ∀ call ∈ last.ledger.calls, call.machine ∈ first.stages.map Prod.fst := by
  induction reached with
  | refl => exact listed
  | tail before step hypothesis =>
    intro call made
    have same := Reaches.machines before
    cases step with
    | shift front back moved =>
      rcases moved.mem_calls made with earlier | own
      · exact hypothesis call earlier
      · rw [← same, own]
        simp

end Course

/-- A property of a machine that its own shifts keep and that the shifts of machines with other
keys do not break, as long as these have the property themselves. -/
structure Lasting (plane : ControlPlane σ κ) (orders : SweepOrders)
    (good : Machine → Ledger σ → Stage σ → Prop) : Prop where
  /-- The machine keeps the property itself. -/
  own : ∀ {machine ledger old later new}, Shift plane orders machine ledger old later new →
    good machine ledger old → good machine later new
  /-- No other machine breaks it. -/
  others : ∀ {machine other ledger old later new stage},
    Shift plane orders other ledger old later new → other.key ≠ machine.key →
    good other ledger old → good machine ledger stage → good machine later stage

namespace Lasting

variable {good : Machine → Ledger σ → Stage σ → Prop} {first last : Course σ}

/-- One step of a fleet of different machines keeps a lasting property of each of them. -/
theorem step (lasting : Lasting plane orders good) (moved : Course.Step plane orders first last)
    (distinct : ((first.stages.map Prod.fst).map Machine.key).Nodup)
    (holds : ∀ entry ∈ first.stages, good entry.1 first.ledger entry.2) :
    ∀ entry ∈ last.stages, good entry.1 last.ledger entry.2 := by
  cases moved with
  | @shift ledger later old new machine front back moved =>
    have ours : good machine ledger old := holds (machine, old) (by simp)
    -- The key of the machine that goes on is that of none before it and none after it.
    have keys := distinct
    simp only [List.map_append, List.map_cons, List.map_map] at keys
    have apart := (List.nodup_middle.mp keys).notMem
    simp only [List.mem_append, List.mem_map, Function.comp_apply, not_or, not_exists,
      not_and] at apart
    intro entry present
    rcases List.mem_append.mp present with before | present
    · have other : machine.key ≠ entry.1.key := fun same => apart.1 entry before same.symm
      exact lasting.others moved other ours (holds entry (by simp [before]))
    · rcases List.mem_cons.mp present with rfl | after
      · exact lasting.own moved ours
      · have other : machine.key ≠ entry.1.key := fun same => apart.2 entry after same.symm
        exact lasting.others moved other ours (holds entry (by simp [after]))

/-- A lasting property of each of different machines holds along every course. -/
theorem reaches (lasting : Lasting plane orders good)
    (reached : Course.Reaches plane orders first last)
    (distinct : ((first.stages.map Prod.fst).map Machine.key).Nodup)
    (holds : ∀ entry ∈ first.stages, good entry.1 first.ledger entry.2) :
    ∀ entry ∈ last.stages, good entry.1 last.ledger entry.2 := by
  induction reached with
  | refl => exact holds
  | tail before moved hypothesis =>
    have same := Course.Reaches.machines before
    exact lasting.step moved (by rw [same]; exact distinct) hypothesis

end Lasting

end OffHours
