import Mathlib.Data.List.Forall2
import OffHours.Fleet.Sweep

/-!
# Sweeps side by side

Two sweeps, perhaps over outsides of different kinds. What a move looks at is a machine's key, what
is known about it before it is read, and the answers to its power calls; so when two control planes
answer from related outsides alike and leave them related, each sweep makes the moves of the other
one at the same times (`Sweep.Matched.step`), and so do the whole sweeps (`Sweep.Matched.run`). The
machines may be different ones that correspond, and what is reported may differ as long as nobody
is told. In a simulation nothing is asked of changes of power.
-/

namespace OffHours

variable {σ τ κ ν α : Type}

/-- Two calls in progress are answered alike from related outsides, which stay related. -/
def AnsweredAlike (outsides : σ → τ → Prop) (settle : σ → α × σ) (other : τ → α × τ) : Prop :=
  ∀ {world again}, outsides world again →
    (settle world).1 = (other again).1 ∧ outsides (settle world).2 (other again).2

/-- Two calls that were made at related outsides, take as long, and are answered alike. -/
structure Sent.Matched (outsides : σ → τ → Prop) (told : Prop) (left : Sent σ α)
    (right : Sent τ α) : Prop where
  /-- The outsides are related once they are made. -/
  world : outsides left.world right.world
  /-- The same is reported. -/
  log : told → left.log = right.log
  /-- They take as long. -/
  duration : left.duration = right.duration
  /-- They are answered alike. -/
  settle : AnsweredAlike outsides left.settle right.settle

/-- Every call goes like itself. -/
theorem Sent.Matched.refl (told : Prop) (sent : Sent σ α) : sent.Matched Eq told sent :=
  ⟨rfl, fun _ => rfl, rfl, fun same => same ▸ ⟨rfl, rfl⟩⟩

/-- Machines that correspond have one key, are briefed alike, and their power calls go alike. -/
structure Matching (outsides : σ → τ → Prop) (related : Machine → Machine → Prop) (told : Prop)
    (left : ControlPlane σ κ) (right : ControlPlane τ ν) (orders others : SweepOrders) :
    Prop where
  /-- One key. -/
  key : ∀ {machine other : Machine}, related machine other → machine.key = other.key
  /-- The same is known about them before they are read. -/
  brief : ∀ {machine other : Machine}, related machine other →
    (brief orders left.controls machine).1 = (brief others right.controls other).1
  /-- Reads go alike. -/
  power : ∀ {machine other : Machine} {world again} (kind : ResourceKind), related machine other →
    outsides world again →
      (left.power kind machine world).Matched outsides told (right.power kind other again)
  /-- Changes of power go alike, when there are any. -/
  act : orders.simulate = false → ∀ {machine other : Machine} {world again}
    (action : PowerAction) (kind : ResourceKind), related machine other → outsides world again →
      (left.act action kind machine world).Matched outsides told (right.act action kind other again)
  /-- Actions are only reported under both orders or under neither. -/
  simulate : orders.simulate = others.simulate
  /-- The same number of machines may be in progress. -/
  width : orders.width = others.width
  /-- The same limit. -/
  limit : orders.limit = others.limit
  /-- When reports count, the machines are the same. -/
  same : told → ∀ {machine other : Machine}, related machine other → machine = other
  /-- When reports count, the same is reported about what is known before they are read. -/
  briefLog : told → ∀ {machine other : Machine}, related machine other →
    (OffHours.brief orders left.controls machine).2 =
      (OffHours.brief others right.controls other).2

/-- Equally far, with calls in progress that are answered alike. -/
inductive Progress.Matched (outsides : σ → τ → Prop) : Progress σ → Progress τ → Prop where
  /-- Both are read. -/
  | reading (wait : Wait) (kind : ResourceKind) (desired : DesiredPower)
      {settle : σ → Except ApiError PowerState × σ} {other : τ → Except ApiError PowerState × τ}
      (answered : AnsweredAlike outsides settle other) :
      Matched outsides (.reading wait kind desired settle) (.reading wait kind desired other)
  /-- The same change of power was asked for. -/
  | acting (wait : Wait) (desired : DesiredPower) (action : PowerAction)
      {settle : σ → Except ApiError Unit × σ} {other : τ → Except ApiError Unit × τ}
      (answered : AnsweredAlike outsides settle other) :
      Matched outsides (.acting wait desired action settle) (.acting wait desired action other)
  /-- Both are done with one outcome. -/
  | done (outcome : Outcome) : Matched outsides (.done outcome) (.done outcome)

/-- Every machine is as far as itself. -/
theorem Progress.Matched.refl (progress : Progress σ) : progress.Matched Eq progress := by
  cases progress with
  | reading wait kind desired settle =>
    exact .reading wait kind desired fun same => same ▸ ⟨rfl, rfl⟩
  | acting wait desired action settle =>
    exact .acting wait desired action fun same => same ▸ ⟨rfl, rfl⟩
  | done outcome => exact .done outcome

/-- Calls that are answered alike from every outside are the same. -/
theorem AnsweredAlike.eq {settle other : σ → α × σ} (alike : AnsweredAlike Eq settle other) :
    settle = other :=
  funext fun _ => Prod.ext (alike rfl).1 (alike rfl).2

/-- Over one outside, machines that are equally far are in the same place. -/
theorem Progress.Matched.eq {left right : Progress σ} (matched : left.Matched Eq right) :
    left = right := by
  cases matched with
  | reading wait kind desired answered => rw [answered.eq]
  | acting wait desired action answered => rw [answered.eq]
  | done outcome => rfl

/-- Both wait for the same. -/
theorem Progress.Matched.wait?_eq {outsides : σ → τ → Prop} {left : Progress σ}
    {right : Progress τ} (matched : left.Matched outsides right) : left.wait? = right.wait? := by
  cases matched <;> rfl

/-- As many moves can still be made. -/
theorem Progress.Matched.weight_eq {outsides : σ → τ → Prop} {left : Progress σ}
    {right : Progress τ} (matched : left.Matched outsides right) : left.weight = right.weight := by
  cases matched <;> rfl

section Pairs

variable (outsides : σ → τ → Prop) (related : Machine → Machine → Prop) (told : Prop)

/-- Two visits of machines that correspond, at one seat and equally far. -/
structure Visit.Matched (left : Visit σ) (right : Visit τ) : Prop where
  /-- One seat. -/
  seat : left.seat = right.seat
  /-- They correspond. -/
  machine : related left.machine right.machine
  /-- Equally far. -/
  progress : left.progress.Matched outsides right.progress

/-- Counterparts with one outcome. -/
structure PairedResult (left right : Machine × Outcome) : Prop where
  /-- Counterparts. -/
  machine : related left.1 right.1
  /-- One outcome. -/
  outcome : left.2 = right.2

/-- The same call on counterparts at one time. -/
structure PowerCall.Paired (left right : PowerCall) : Prop where
  /-- One time. -/
  time : left.time = right.time
  /-- The same call. -/
  kind : left.kind = right.kind
  /-- Counterparts. -/
  machine : related left.machine right.machine

/-- Counterparts with one answer. -/
structure PowerAnswer.Paired (left right : PowerAnswer) : Prop where
  /-- Counterparts. -/
  machine : related left.machine right.machine
  /-- One answer. -/
  answer : left.answer = right.answer

/-- Two sweeps that are equally far over related outsides. -/
structure Sweep.Matched (left : Sweep σ) (right : Sweep τ) : Prop where
  /-- Related outsides. -/
  world : outsides left.world right.world
  /-- One time. -/
  clock : left.clock = right.clock
  /-- Counterparts wait. -/
  queue : List.Forall₂ related left.queue right.queue
  /-- Counterparts are in progress. -/
  active : List.Forall₂ (Visit.Matched outsides related) left.active right.active
  /-- Counterparts are taken with the same outcomes. -/
  taken : List.Forall₂ (PairedResult related) left.taken right.taken
  /-- The same keys are remembered. -/
  acted : left.acted = right.acted
  /-- As many waits began. -/
  waits : left.waits = right.waits
  /-- The same calls were made on counterparts. -/
  calls : List.Forall₂ (PowerCall.Paired related) left.calls right.calls
  /-- The same answers were heard about counterparts. -/
  answers : List.Forall₂ (PowerAnswer.Paired related) left.answers right.answers
  /-- The same was reported. -/
  log : told → left.log = right.log

end Pairs

/-- An action that is performed is no simulation. -/
theorem Reconciliation.simulate_eq_of_perform {simulate : Bool} {acted : List String}
    {machine : Machine} {desired : DesiredPower} {observed : PowerState} {action : PowerAction}
    (performs : decide simulate acted machine desired observed = perform action) :
    simulate = false := by
  unfold decide at performs
  split at performs
  · cases performs
  · split at performs
    · cases performs
    · split at performs
      · cases performs
      · rename_i live
        exact Bool.eq_false_iff.mpr live

namespace Sweep

/-- Begin the first waiting machine when there is room. -/
def begin? (plane : ControlPlane σ κ) (orders : SweepOrders) (sweep : Sweep σ) :
    Option (Sweep σ) :=
  match sweep.queue with
  | [] => none
  | machine :: later =>
    if sweep.active.length < max orders.width 1 then
      some ({ sweep with queue := later }.start plane orders machine)
    else none

variable {plane : ControlPlane σ κ} {orders : SweepOrders} {sweep : Sweep σ}

/-- The first machine in progress is taken when it is done. -/
theorem proceed?_of_done {seat : Nat} {machine : Machine} {outcome : Outcome}
    {rest : List (Visit σ)} (active : sweep.active = ⟨seat, machine, .done outcome⟩ :: rest) :
    sweep.proceed? plane orders =
      some { sweep with active := rest, taken := sweep.taken ++ [(machine, outcome)] } := by
  simp only [proceed?, active]

/-- Otherwise the first waiting machine is begun when there is room. -/
theorem proceed?_of_waiting (waits : ∀ visit ∈ sweep.active.head?, visit.progress.wait? ≠ none) :
    sweep.proceed? plane orders = sweep.begin? plane orders := by
  rw [proceed?, begin?]
  split
  · rename_i seat machine outcome rest active
    have waiting := waits ⟨seat, machine, .done outcome⟩ (by rw [active]; rfl)
    exact absurd rfl waiting
  · rename_i machine later queue _
    rw [queue]
  · rename_i queue _
    rw [queue]

end Sweep

namespace Sweep.Matched

variable {outsides : σ → τ → Prop} {related : Machine → Machine → Prop} {told : Prop}
  {left : Sweep σ} {right : Sweep τ}

/-- The same is reported. -/
theorem report (matched : Matched outsides related told left right) {entries others : Log}
    (same : told → entries = others) :
    Matched outsides related told (left.report entries) (right.report others) :=
  { matched with
    log := fun counts => by rw [Sweep.report, Sweep.report, matched.log counts, same counts] }

/-- A call on counterparts is made. -/
theorem called (matched : Matched outsides related told left right) (kind : PowerCallKind)
    {machine other : Machine} (pair : related machine other) {world : σ} {again : τ}
    (outside : outsides world again) {entries others : Log} (same : told → entries = others) :
    Matched outsides related told (left.called kind machine world entries)
      (right.called kind other again others) :=
  { matched with
    world := outside
    waits := congrArg (· + 1) matched.waits
    calls := List.rel_append matched.calls (.cons ⟨matched.clock, rfl, pair⟩ .nil)
    log := fun counts => by rw [Sweep.called, Sweep.called, matched.log counts, same counts] }

/-- An answer about counterparts is heard. -/
theorem heard (matched : Matched outsides related told left right) {machine other : Machine}
    (pair : related machine other) (answer : Except ApiError PowerState) :
    Matched outsides related told (left.heard machine answer) (right.heard other answer) :=
  { matched with answers := List.rel_append matched.answers (.cons ⟨pair, rfl⟩ .nil) }

/-- Counterparts make the same progress. -/
theorem update (matched : Matched outsides related told left right) (seat : Nat)
    {progress : Progress σ} {other : Progress τ} (alike : progress.Matched outsides other) :
    Matched outsides related told (left.update seat progress) (right.update seat other) :=
  { matched with
    active := by
      refine List.rel_map ?_ matched.active
      intro first second pair
      by_cases here : second.seat = seat
      · simp only [pair.seat, here, if_true]
        exact ⟨rfl, pair.machine, alike⟩
      · simp only [pair.seat, here, if_false]
        exact pair }

/-- A call waits for the same time and behind as many others. -/
theorem waitFor_eq (matched : Matched outsides related told left right) (duration place : Nat) :
    left.waitFor duration place = right.waitFor duration place := by
  rw [Sweep.waitFor, Sweep.waitFor, matched.clock, matched.waits]

/-- As many machines were begun. -/
theorem begun_eq (matched : Matched outsides related told left right) :
    left.begun = right.begun := by
  rw [begun, begun, matched.taken.length_eq, matched.active.length_eq]

section Moves

variable {plane : ControlPlane σ κ} {other : ControlPlane τ ν} {orders others : SweepOrders}
  (alike : Matching outsides related told plane other orders others)

include alike

/-- Counterparts are begun. -/
theorem start (matched : Matched outsides related told left right) {machine also : Machine}
    (pair : related machine also) :
    Matched outsides related told (left.start plane orders machine)
      (right.start other others also) := by
  have briefed := alike.brief pair
  have reports := fun counts => alike.briefLog counts pair
  rw [Sweep.start, Sweep.start, matched.begun_eq]
  cases known : brief orders plane.controls machine with
  | mk briefing log =>
    cases too : brief others other.controls also with
    | mk same entries =>
      rw [known, too] at briefed
      rw [known, too] at reports
      subst briefed
      have reported := matched.report reports
      cases briefing with
      | skip reason =>
        exact { reported with
          active := List.rel_append matched.active (.cons ⟨rfl, pair, .done _⟩ .nil) }
      | read kind desired =>
        have sent := alike.power kind pair reported.world
        have asked := reported.called .read pair sent.world sent.log
        simp only [reported.waitFor_eq, reported.waits, sent.duration]
        exact { asked with
          active := List.rel_append matched.active
            (.cons ⟨rfl, pair, .reading _ kind desired sent.settle⟩ .nil) }

/-- Counterparts are asked for the same change of power. -/
theorem asked (matched : Matched outsides related told left right) (live : orders.simulate = false)
    {machine also : Machine} (pair : related machine also) (seat place : Nat)
    (kind : ResourceKind) (desired : DesiredPower) (action : PowerAction) :
    let sent := plane.act action kind machine left.world
    let again := other.act action kind also right.world
    Matched outsides related told
      ((left.called (.action action) machine sent.world sent.log).update seat
        (.acting (left.waitFor sent.duration place) desired action sent.settle))
      ((right.called (.action action) also again.world again.log).update seat
        (.acting (right.waitFor again.duration place) desired action again.settle)) := by
  have sent := alike.act live action kind pair matched.world
  simp only [matched.waitFor_eq, sent.duration]
  exact (matched.called _ pair sent.world sent.log).update _ (.acting _ _ _ sent.settle)

/-- Counterparts go on after the same answer to their reads. -/
theorem settleRead (matched : Matched outsides related told left right) {visit : Visit σ}
    {also : Visit τ} (pair : visit.Matched outsides related also) (wait : Wait)
    (kind : ResourceKind) (desired : DesiredPower) (answer : Except ApiError PowerState) :
    Matched outsides related told (left.settleRead plane orders visit wait kind desired answer)
      (right.settleRead other others also wait kind desired answer) := by
  cases answer with
  | error error =>
    rw [Sweep.settleRead, Sweep.settleRead, pair.seat]
    exact (matched.report fun _ => rfl).update _ (.done _)
  | ok observed =>
    have key := alike.key pair.machine
    have decided : Reconciliation.decide others.simulate right.acted also.machine desired observed =
        Reconciliation.decide orders.simulate left.acted visit.machine desired observed := by
      rw [Reconciliation.decide, Reconciliation.decide, key, alike.simulate, matched.acted]
    have remembered : ∀ decision : Reconciliation,
        decision.remember right.acted also.machine =
          decision.remember left.acted visit.machine := by
      intro decision
      rw [Reconciliation.remember.eq_def, Reconciliation.remember.eq_def, key, matched.acted]
    have reported : ∀ decision : Reconciliation, told →
        decision.log visit.machine desired observed =
          decision.log also.machine desired observed := by
      intro decision counts
      rw [alike.same counts pair.machine]
    simp only [Sweep.settleRead, decided, remembered, pair.seat]
    have known : ∀ decision : Reconciliation, Matched outsides related told
        ({ left with acted := decision.remember left.acted visit.machine } : Sweep σ)
        { right with acted := decision.remember left.acted visit.machine } :=
      fun _ => { matched with acted := rfl }
    cases decision : Reconciliation.decide orders.simulate left.acted visit.machine desired
        observed with
    | compliant | repeated action | simulated action =>
      exact ((known _).report (reported _)).update _ (.done _)
    | perform action =>
      have live := Reconciliation.simulate_eq_of_perform decision
      exact asked alike ((known _).report (reported _)) live pair.machine also.seat wait.order kind
        desired action

/-- Counterparts are done after the same answer to their changes of power. -/
theorem settleAction (matched : Matched outsides related told left right) {visit : Visit σ}
    {also : Visit τ} (pair : visit.Matched outsides related also) (desired : DesiredPower)
    (action : PowerAction) (answer : Except ApiError Unit) :
    Matched outsides related told (left.settleAction visit desired action answer)
      (right.settleAction also desired action answer) := by
  cases answer with
  | ok accepted =>
    rw [Sweep.settleAction, Sweep.settleAction, pair.seat]
    refine (matched.report fun counts => ?_).update _ (.done _)
    rw [alike.same counts pair.machine]
  | error error =>
    rw [Sweep.settleAction, Sweep.settleAction, pair.seat]
    exact (matched.report fun _ => rfl).update _ (.done _)

/-- The call that counterparts wait for is settled. -/
theorem settle (matched : Matched outsides related told left right) {visit : Visit σ}
    {also : Visit τ} (pair : visit.Matched outsides related also) :
    Matched outsides related told (left.settle plane orders visit)
      (right.settle other others also) := by
  obtain ⟨seat, machine, progress⟩ := visit
  obtain ⟨place, twin, stage⟩ := also
  have stages : progress.Matched outsides stage := pair.progress
  rw [Sweep.settle, Sweep.settle]
  cases stages with
  | @reading wait kind desired settle again answered =>
    obtain ⟨answer, outside⟩ := answered matched.world
    have later : Matched outsides related told
        ({ left with world := (settle left.world).2, clock := wait.due } : Sweep σ)
        { right with world := (again right.world).2, clock := wait.due } :=
      { matched with world := outside, clock := rfl }
    simp only [answer]
    exact settleRead alike (later.heard pair.machine _) pair _ _ _ _
  | @acting wait desired action settle again answered =>
    obtain ⟨answer, outside⟩ := answered matched.world
    have later : Matched outsides related told
        ({ left with world := (settle left.world).2, clock := wait.due } : Sweep σ)
        { right with world := (again right.world).2, clock := wait.due } :=
      { matched with world := outside, clock := rfl }
    simp only [answer]
    exact settleAction alike later pair _ _ _
  | done outcome => exact matched

/-- The first counterparts that wait are begun when there is room. -/
theorem begin? (matched : Matched outsides related told left right) :
    Option.Rel (Matched outsides related told) (left.begin? plane orders)
      (right.begin? other others) := by
  have queue := matched.queue
  rw [Sweep.begin?, Sweep.begin?, ← matched.active.length_eq, ← alike.width]
  cases waiting : left.queue with
  | nil =>
    rw [waiting, List.forall₂_nil_left_iff] at queue
    rw [queue]
    exact .none
  | cons machine later =>
    rw [waiting] at queue
    obtain ⟨also, rest, pair, more, twin⟩ := List.forall₂_cons_left_iff.mp queue
    rw [twin]
    by_cases room : left.active.length < max orders.width 1
    · have remaining : Matched outsides related told ({ left with queue := later } : Sweep σ)
          { right with queue := rest } := { matched with queue := more }
      simp only [if_pos room]
      exact .some (start alike remaining pair)
    · simp only [if_neg room]
      exact .none

/-- A result of counterparts is taken, or they are begun. -/
theorem proceed? (matched : Matched outsides related told left right) :
    Option.Rel (Matched outsides related told) (left.proceed? plane orders)
      (right.proceed? other others) := by
  have active := matched.active
  cases first : left.active with
  | nil =>
    rw [first, List.forall₂_nil_left_iff] at active
    rw [proceed?_of_waiting (by simp [first]), proceed?_of_waiting (by simp [active])]
    exact begin? alike matched
  | cons visit rest =>
    rw [first] at active
    obtain ⟨also, more, pair, behind, second⟩ := List.forall₂_cons_left_iff.mp active
    obtain ⟨seat, machine, progress⟩ := visit
    obtain ⟨place, twin, stage⟩ := also
    have stages : progress.Matched outsides stage := pair.progress
    cases stages with
    | done outcome =>
      rw [proceed?_of_done first, proceed?_of_done second]
      exact .some { matched with
        active := behind
        taken := List.rel_append matched.taken (.cons ⟨pair.machine, rfl⟩ .nil) }
    | reading wait kind desired answered | acting wait desired action answered =>
      rw [proceed?_of_waiting (by simp [first, Progress.wait?]),
        proceed?_of_waiting (by simp [second, Progress.wait?])]
      exact begin? alike matched

omit alike in
/-- The call that is answered next is one of counterparts, if there is one. -/
theorem next? {active : List (Visit σ)} {again : List (Visit τ)}
    (matched : List.Forall₂ (Visit.Matched outsides related) active again) :
    Option.Rel (fun first second => first.1 = second.1 ∧
        first.2.Matched outsides related second.2) (Sweep.next? active) (Sweep.next? again) := by
  induction matched with
  | nil => exact .none
  | @cons visit also rest more pair _ hypothesis =>
    rw [Sweep.next?, Sweep.next?, ← pair.progress.wait?_eq]
    cases waiting : visit.progress.wait? with
    | none => exact hypothesis
    | some wait =>
      generalize Sweep.next? rest = found at hypothesis ⊢
      generalize Sweep.next? more = twin at hypothesis ⊢
      cases hypothesis with
      | none => exact .some ⟨rfl, pair⟩
      | @some found twin same =>
        obtain ⟨due, later⟩ := found
        obtain ⟨_, also⟩ := twin
        obtain ⟨rfl, same⟩ := same
        by_cases sooner : due.before wait = true
        · simp only [if_pos sooner]
          exact .some ⟨rfl, same⟩
        · simp only [if_neg sooner]
          exact .some ⟨rfl, pair⟩

/-- The next move is made on counterparts, if there is one. -/
theorem step (matched : Matched outsides related told left right) :
    Option.Rel (Matched outsides related told) (left.step plane orders)
      (right.step other others) := by
  have next := next? matched.active
  have proceeded := proceed? alike matched
  rw [Sweep.step, Sweep.step, ← matched.clock, ← alike.limit]
  generalize Sweep.next? left.active = first at next ⊢
  generalize Sweep.next? right.active = second at next ⊢
  cases next with
  | none => exact proceeded
  | @some call again same =>
    obtain ⟨wait, visit⟩ := call
    obtain ⟨_, also⟩ := again
    obtain ⟨rfl, pair⟩ := same
    have settled := settle alike matched pair
    by_cases now : wait.due ≤ left.clock
    · simp only [if_pos now]
      exact .some settled
    · simp only [if_neg now]
      generalize left.proceed? plane orders = moved at proceeded ⊢
      generalize right.proceed? other others = twin at proceeded ⊢
      cases proceeded with
      | some pair => exact .some pair
      | none =>
        by_cases due : wait.due ≤ orders.limit
        · simp only [if_pos due]
          exact .some settled
        · simp only [if_neg due]
          exact .none

/-- The same number of moves is made on counterparts. -/
theorem steps (matched : Matched outsides related told left right) (count : Nat) :
    Matched outsides related told (left.steps plane orders count)
      (right.steps other others count) := by
  induction count generalizing left right with
  | zero => exact matched
  | succ count hypothesis =>
    have made := step alike matched
    rw [Sweep.steps, Sweep.steps]
    generalize left.step plane orders = moved at made ⊢
    generalize right.step other others = twin at made ⊢
    cases made with
    | none => exact matched
    | some pair => exact hypothesis pair

omit alike in
/-- As many moves can still be made. -/
theorem weight_eq (matched : Matched outsides related told left right) :
    left.weight = right.weight := by
  have gathered : ∀ (visits : List (Visit σ)) (others : List (Visit τ)),
      List.Forall₂ (Visit.Matched outsides related) visits others → ∀ sum : Nat,
        visits.foldl (fun sum visit => sum + visit.progress.weight) sum =
          others.foldl (fun sum visit => sum + visit.progress.weight) sum := by
    intro visits others pairs
    induction pairs with
    | nil => exact fun sum => rfl
    | cons pair _ hypothesis =>
      intro sum
      rw [List.foldl_cons, List.foldl_cons, pair.progress.weight_eq, hypothesis]
  rw [weight, weight, matched.queue.length_eq, gathered _ _ matched.active]

/-- All moves are made on counterparts. -/
theorem run (matched : Matched outsides related told left right) :
    Matched outsides related told (left.run plane orders) (right.run other others) := by
  rw [Sweep.run, Sweep.run, matched.weight_eq]
  exact steps alike matched _

omit alike in
/-- Both sweeps have taken every machine or neither has. -/
theorem isComplete_eq (matched : Matched outsides related told left right) :
    left.isComplete = right.isComplete := by
  have empty : ∀ {α β : Type} {pairs : α → β → Prop} {items : List α} {others : List β},
      List.Forall₂ pairs items others → items.isEmpty = others.isEmpty := by
    intro α β pairs items others paired
    cases paired with
    | nil => rfl
    | cons pair rest => rfl
  rw [isComplete, isComplete, empty matched.queue, empty matched.active]

end Moves

end Sweep.Matched

end OffHours
