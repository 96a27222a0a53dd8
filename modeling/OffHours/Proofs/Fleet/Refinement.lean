import OffHours.Fleet.Run
import OffHours.Proofs.Fleet.Course
import OffHours.Proofs.Fleet.Roster

/-!
# Sweeps are courses

A sweep that forgets its clock, its waits and its reports is a course: each of its moves is one
shift of one machine, or takes a result and shifts none. So what holds along courses holds of
sweeps, and `Run.finished_lasting` says what a run that is not cut owes to a property that no
shift breaks.
-/

namespace OffHours

variable {σ κ : Type}

namespace Reconciliation

variable {simulate : Bool} {acted : List String} {machine : Machine} {desired : DesiredPower}
  {observed : PowerState} {action : PowerAction}

/-- Without a planned change there is nothing to do. -/
theorem decide_compliant (plan : planAction desired observed = none) :
    decide simulate acted machine desired observed = .compliant := by
  rw [decide, plan]

/-- A machine that was acted on is not acted on again. -/
theorem decide_repeated (plan : planAction desired observed = some action)
    (known : machine.key ∈ acted) :
    decide simulate acted machine desired observed = .repeated action := by
  simp [decide, plan, known]

/-- A simulation only reports the planned change. -/
theorem decide_simulated (plan : planAction desired observed = some action)
    (unknown : machine.key ∉ acted) :
    decide true acted machine desired observed = .simulated action := by
  simp [decide, plan, unknown]

/-- Otherwise the planned change is asked for. -/
theorem decide_perform (plan : planAction desired observed = some action)
    (unknown : machine.key ∉ acted) :
    decide false acted machine desired observed = .perform action := by
  simp [decide, plan, unknown]

end Reconciliation

/-- How far a machine in progress is, without its times. -/
def Progress.stage : Progress σ → Stage σ
  | reading _ kind desired settle => .reading kind desired settle
  | acting _ _ action settle => .acting action settle
  | done outcome => .finished outcome

/-- A machine in progress with its stage. -/
def Visit.entry (visit : Visit σ) : Machine × Stage σ := (visit.machine, visit.progress.stage)

/-- A machine whose result was taken, with its stage. -/
def finishedEntry (result : Machine × Outcome) : Machine × Stage σ :=
  (result.1, .finished result.2)

/-- A machine that is not begun, with its stage. -/
def waitingEntry (machine : Machine) : Machine × Stage σ := (machine, .waiting)

namespace Sweep

/-- What the machines of a sweep share. -/
def ledger (sweep : Sweep σ) : Ledger σ :=
  ⟨sweep.world, sweep.acted, sweep.calls, sweep.answers⟩

/-- The course that a sweep is at. -/
def course (sweep : Sweep σ) : Course σ :=
  ⟨sweep.ledger, sweep.taken.map finishedEntry ++
    (sweep.active.map Visit.entry ++ sweep.queue.map waitingEntry)⟩

/-- Every machine in progress knows its place in the roster. -/
def Seated (sweep : Sweep σ) : Prop :=
  sweep.active.map Visit.seat = List.range' sweep.taken.length sweep.active.length

/-- No two machines in progress have one place. -/
theorem Seated.nodup {sweep : Sweep σ} (seated : sweep.Seated) :
    (sweep.active.map Visit.seat).Nodup := by
  rw [seated]
  exact List.nodup_range'

/-- A machine whose read is answered goes on by one shift, and the rest of the sweep stays. -/
theorem settleRead_shift (plane : ControlPlane σ κ) (orders : SweepOrders) {sweep : Sweep σ}
    (visit : Visit σ) (wait : Wait) (kind : ResourceKind) (desired : DesiredPower)
    {settle : σ → Except ApiError PowerState × σ} {answer : Except ApiError PowerState} {world : σ}
    (answered : settle sweep.world = (answer, world)) :
    let heard := { sweep with world := world, clock := wait.due }.heard visit.machine answer
    let settled := settleRead plane orders visit wait kind desired answer heard
    ∃ progress, settled.active = (sweep.update visit.seat progress).active ∧
      settled.taken = sweep.taken ∧ settled.queue = sweep.queue ∧
      Shift plane orders visit.machine sweep.ledger (.reading kind desired settle)
        settled.ledger progress.stage := by
  intro heard settled
  cases answer with
  | error error => exact ⟨.done (.errored error), rfl, rfl, rfl, .unread answered⟩
  | ok observed =>
    have shape : settled = settleRead plane orders visit wait kind desired (.ok observed) heard :=
      rfl
    rw [settleRead] at shape
    cases plan : planAction desired observed with
    | none =>
      rw [Reconciliation.decide_compliant plan] at shape
      rw [shape]
      exact ⟨.done (.reconciled none), rfl, rfl, rfl, .compliant answered plan⟩
    | some action =>
      by_cases known : visit.machine.key ∈ heard.acted
      · rw [Reconciliation.decide_repeated plan known] at shape
        rw [shape]
        exact ⟨.done (.reconciled none), rfl, rfl, rfl, .repeated answered plan known⟩
      · cases simulation : orders.simulate with
        | true =>
          rw [simulation, Reconciliation.decide_simulated plan known] at shape
          rw [shape]
          exact ⟨.done (.reconciled (some action)), rfl, rfl, rfl,
            .simulated answered plan known simulation⟩
        | false =>
          rw [simulation, Reconciliation.decide_perform plan known] at shape
          rw [shape]
          exact ⟨.acting _ desired action _, rfl, rfl, rfl,
            .perform wait.due answered plan known simulation⟩

/-- The machine of a call in progress goes on by one shift, and the rest of the sweep stays. -/
theorem settle_shift (plane : ControlPlane σ κ) (orders : SweepOrders) (sweep : Sweep σ)
    (visit : Visit σ) {wait : Wait} (busy : visit.progress.wait? = some wait) :
    ∃ progress, (sweep.settle plane orders visit).active =
        (sweep.update visit.seat progress).active ∧
      (sweep.settle plane orders visit).taken = sweep.taken ∧
      (sweep.settle plane orders visit).queue = sweep.queue ∧
      Shift plane orders visit.machine sweep.ledger visit.progress.stage
        (sweep.settle plane orders visit).ledger progress.stage := by
  obtain ⟨seat, machine, progress⟩ := visit
  cases progress with
  | done outcome => simp [Progress.wait?] at busy
  | reading wait kind desired settle =>
    cases answered : settle sweep.world with
    | mk answer world =>
      simp only [Sweep.settle, answered]
      exact settleRead_shift plane orders _ wait kind desired answered
  | acting wait desired action settle =>
    cases answered : settle sweep.world with
    | mk answer world =>
      have shifted : Shift plane orders machine sweep.ledger (.acting action settle)
          (sweep.ledger.settled world) (.finished (action.outcome answer)) := .settle answered
      simp only [Sweep.settle, answered]
      cases answer with
      | ok done => exact ⟨.done (.reconciled (some action)), rfl, rfl, rfl, shifted⟩
      | error error => exact ⟨.done (.errored error), rfl, rfl, rfl, shifted⟩

/-- A machine that is begun goes on by one shift, and the rest of the sweep stays. -/
theorem start_shift (plane : ControlPlane σ κ) (orders : SweepOrders) (sweep : Sweep σ)
    (machine : Machine) :
    ∃ progress, (sweep.start plane orders machine).active =
        sweep.active ++ [⟨sweep.begun, machine, progress⟩] ∧
      (sweep.start plane orders machine).taken = sweep.taken ∧
      (sweep.start plane orders machine).queue = sweep.queue ∧
      Shift plane orders machine sweep.ledger .waiting
        (sweep.start plane orders machine).ledger progress.stage := by
  cases known : (brief orders plane.controls machine).1 with
  | skip reason =>
    simp only [Sweep.start, known]
    exact ⟨.done (.skipped reason), rfl, rfl, rfl, .skip known⟩
  | read kind desired =>
    simp only [Sweep.start, known]
    exact ⟨.reading _ kind desired _, rfl, rfl, rfl, .ask sweep.clock known⟩

/-- Replacing the progress of one seated machine leaves the others as they are. -/
theorem update_active {sweep : Sweep σ} {front back : List (Visit σ)} {visit : Visit σ}
    (shape : sweep.active = front ++ visit :: back)
    (distinct : (sweep.active.map Visit.seat).Nodup) (progress : Progress σ) :
    (sweep.update visit.seat progress).active =
      front ++ { visit with progress := progress } :: back := by
  rw [shape, List.map_append, List.map_cons] at distinct
  have apart := (List.nodup_middle.mp distinct).notMem
  simp only [List.mem_append, List.mem_map, not_or, not_exists, not_and] at apart
  have unchanged : ∀ visits : List (Visit σ), (∀ other ∈ visits, ¬ other.seat = visit.seat) →
      visits.map (fun other =>
        if other.seat = visit.seat then { other with progress := progress } else other) =
        visits := by
    intro visits elsewhere
    calc
      _ = visits.map id := List.map_congr_left fun other present =>
        if_neg (elsewhere other present)
      _ = visits := List.map_id visits
  simp only [Sweep.update, shape, List.map_append, List.map_cons, ↓reduceIte]
  rw [unchanged front apart.1, unchanged back apart.2]

/-- Settling a call in progress is one step of the course. -/
theorem settle_step (plane : ControlPlane σ κ) (orders : SweepOrders) {sweep : Sweep σ}
    {visit : Visit σ} {wait : Wait} (seated : sweep.Seated) (present : visit ∈ sweep.active)
    (busy : visit.progress.wait? = some wait) :
    Course.Step plane orders sweep.course (sweep.settle plane orders visit).course ∧
      (sweep.settle plane orders visit).Seated := by
  obtain ⟨progress, active, taken, queue, shifted⟩ := settle_shift plane orders sweep visit busy
  obtain ⟨front, back, shape⟩ := List.append_of_mem present
  have replaced := active.trans (update_active shape seated.nodup progress)
  constructor
  · have step := Course.Step.shift (sweep.taken.map finishedEntry ++ front.map Visit.entry)
      (back.map Visit.entry ++ sweep.queue.map waitingEntry) shifted
    simpa [Sweep.course, shape, replaced, taken, queue, Visit.entry] using step
  · rw [Seated, shape] at seated
    rw [Seated, replaced, taken]
    simpa using seated

/-- The call that is answered next is one in progress. -/
theorem next?_mem {visits : List (Visit σ)} {wait : Wait} {visit : Visit σ}
    (next : next? visits = some (wait, visit)) :
    visit ∈ visits ∧ visit.progress.wait? = some wait := by
  induction visits generalizing wait visit with
  | nil => simp [next?] at next
  | cons first rest hypothesis =>
    cases own : first.progress.wait? with
    | none =>
      simp only [next?, own] at next
      obtain ⟨present, busy⟩ := hypothesis next
      exact ⟨List.mem_cons_of_mem _ present, busy⟩
    | some first =>
      cases found : next? rest with
      | none =>
        simp only [next?, own, found, Option.some.injEq, Prod.mk.injEq] at next
        obtain ⟨rfl, rfl⟩ := next
        exact ⟨List.mem_cons_self, own⟩
      | some later =>
        obtain ⟨present, busy⟩ := hypothesis found
        simp only [next?, own, found] at next
        split at next
        · obtain ⟨rfl, rfl⟩ := Prod.mk.inj (Option.some.inj next)
          exact ⟨List.mem_cons_of_mem _ present, busy⟩
        · obtain ⟨rfl, rfl⟩ := Prod.mk.inj (Option.some.inj next)
          exact ⟨List.mem_cons_self, own⟩

/-- Beginning a machine is one step of the course. -/
theorem start_step (plane : ControlPlane σ κ) (orders : SweepOrders) {sweep : Sweep σ}
    {machine : Machine} {later : List Machine} (seated : sweep.Seated)
    (queue : sweep.queue = machine :: later) :
    Course.Step plane orders sweep.course
        ({ sweep with queue := later }.start plane orders machine).course ∧
      ({ sweep with queue := later }.start plane orders machine).Seated := by
  obtain ⟨progress, active, taken, rest, shifted⟩ :=
    start_shift plane orders { sweep with queue := later } machine
  have shared : Shift plane orders machine sweep.ledger .waiting _ _ := shifted
  have extended : sweep.active.map Visit.seat ++ [sweep.taken.length + sweep.active.length] =
      List.range' sweep.taken.length (sweep.active.length + 1) := by
    rw [seated, List.range'_concat, Nat.one_mul]
  constructor
  · have step := Course.Step.shift (sweep.taken.map finishedEntry ++ sweep.active.map Visit.entry)
      (later.map waitingEntry) shared
    simpa [Sweep.course, active, taken, rest, queue, Visit.entry, waitingEntry] using step
  · rw [Seated, active, taken]
    simpa [begun] using extended

/-- Beyond settling calls, a sweep takes the result of the first machine in progress or begins
the first machine of its queue. -/
theorem proceed?_cases {plane : ControlPlane σ κ} {orders : SweepOrders} {sweep moved : Sweep σ}
    (proceeded : sweep.proceed? plane orders = some moved) :
    (∃ seat machine outcome rest, sweep.active = ⟨seat, machine, .done outcome⟩ :: rest ∧
        { sweep with active := rest, taken := sweep.taken ++ [(machine, outcome)] } = moved) ∨
      ∃ machine later, sweep.queue = machine :: later ∧
        { sweep with queue := later }.start plane orders machine = moved := by
  rw [proceed?] at proceeded
  split at proceeded
  · rename_i seat machine outcome rest active
    exact Or.inl ⟨seat, machine, outcome, rest, active, Option.some.inj proceeded⟩
  · rename_i machine later queue _
    split at proceeded
    · exact Or.inr ⟨machine, later, queue, Option.some.inj proceeded⟩
    · simp at proceeded
  · simp at proceeded

/-- No more machines are in progress than there is room for. -/
theorem proceed?_length_le {plane : ControlPlane σ κ} {orders : SweepOrders}
    {sweep moved : Sweep σ} (bound : sweep.active.length ≤ max orders.width 1)
    (proceeded : sweep.proceed? plane orders = some moved) :
    moved.active.length ≤ max orders.width 1 := by
  rw [proceed?] at proceeded
  split at proceeded
  · rename_i seat machine outcome rest active
    obtain rfl := Option.some.inj proceeded
    rw [active, List.length_cons] at bound
    exact Nat.le_of_succ_le bound
  · rename_i machine later queue _
    split at proceeded
    · rename_i room
      obtain rfl := Option.some.inj proceeded
      obtain ⟨progress, begun, -⟩ :=
        start_shift plane orders { sweep with queue := later } machine
      rw [begun, List.length_append, List.length_singleton]
      exact room
    · simp at proceeded
  · simp at proceeded

/-- Taking a result or beginning a machine follows the course. -/
theorem proceed?_reaches {plane : ControlPlane σ κ} {orders : SweepOrders}
    {sweep moved : Sweep σ} (seated : sweep.Seated)
    (proceeded : sweep.proceed? plane orders = some moved) :
    Course.Reaches plane orders sweep.course moved.course ∧ moved.Seated := by
  rcases proceed?_cases proceeded with
    ⟨seat, machine, outcome, rest, active, rfl⟩ | ⟨machine, later, queue, rfl⟩
  · constructor
    · -- No machine goes on: the taken result leaves the progress and joins the results.
      have same : (Sweep.course { sweep with
          active := rest, taken := sweep.taken ++ [(machine, outcome)] }) = sweep.course := by
        simp [Sweep.course, Sweep.ledger, active, Visit.entry, finishedEntry, Progress.stage]
      rw [same]
    · rw [Seated, active] at seated
      simp only [Seated, List.map_cons, List.length_cons, List.range'_succ, List.cons.injEq,
        List.length_append, List.length_nil, Nat.zero_add] at seated ⊢
      exact seated.2
  · have started := start_step plane orders seated queue
    exact ⟨Relation.ReflTransGen.single started.1, started.2⟩

/-- A move of a sweep settles the call that is answered next, if that is by now or by the limit,
or takes a result or begins a machine. -/
theorem step_due {plane : ControlPlane σ κ} {orders : SweepOrders} {sweep moved : Sweep σ}
    (made : sweep.step plane orders = some moved) :
    (∃ wait visit, next? sweep.active = some (wait, visit) ∧
        wait.due ≤ max sweep.clock orders.limit ∧ sweep.settle plane orders visit = moved) ∨
      sweep.proceed? plane orders = some moved := by
  cases next : next? sweep.active with
  | none =>
    simp only [Sweep.step, next] at made
    exact Or.inr made
  | some first =>
    obtain ⟨wait, visit⟩ := first
    simp only [Sweep.step, next] at made
    split at made
    · rename_i due
      exact Or.inl ⟨wait, visit, rfl, le_max_of_le_left due, Option.some.inj made⟩
    · cases proceeded : sweep.proceed? plane orders with
      | some other =>
        simp only [proceeded] at made
        exact Or.inr made
      | none =>
        simp only [proceeded] at made
        split at made
        · rename_i due
          exact Or.inl ⟨wait, visit, rfl, le_max_of_le_right due, Option.some.inj made⟩
        · simp at made

/-- A move of a sweep settles the call that is answered next, or takes a result or begins a
machine. -/
theorem step_cases {plane : ControlPlane σ κ} {orders : SweepOrders} {sweep moved : Sweep σ}
    (made : sweep.step plane orders = some moved) :
    (∃ wait visit, next? sweep.active = some (wait, visit) ∧
        sweep.settle plane orders visit = moved) ∨
      sweep.proceed? plane orders = some moved := by
  rcases step_due made with ⟨wait, visit, next, -, settled⟩ | proceeded
  · exact Or.inl ⟨wait, visit, next, settled⟩
  · exact Or.inr proceeded

/-- A move of a sweep follows its course. -/
theorem step_reaches {plane : ControlPlane σ κ} {orders : SweepOrders} {sweep moved : Sweep σ}
    (seated : sweep.Seated) (made : sweep.step plane orders = some moved) :
    Course.Reaches plane orders sweep.course moved.course ∧ moved.Seated := by
  rcases step_cases made with ⟨wait, visit, next, rfl⟩ | proceeded
  · obtain ⟨present, busy⟩ := next?_mem next
    have step := settle_step plane orders seated present busy
    exact ⟨Relation.ReflTransGen.single step.1, step.2⟩
  · exact proceed?_reaches seated proceeded

/-- What every move of a seated sweep keeps, its moves keep. -/
theorem steps_keep {plane : ControlPlane σ κ} {orders : SweepOrders} {good : Sweep σ → Prop}
    (kept : ∀ {sweep moved : Sweep σ}, sweep.Seated → good sweep →
      sweep.step plane orders = some moved → good moved)
    (count : Nat) {sweep : Sweep σ} (seated : sweep.Seated) (holds : good sweep) :
    good (sweep.steps plane orders count) := by
  induction count generalizing sweep with
  | zero => exact holds
  | succ count hypothesis =>
    rw [steps]
    cases made : sweep.step plane orders with
    | none => exact holds
    | some moved => exact hypothesis (step_reaches seated made).2 (kept seated holds made)

/-- The moves of a sweep follow its course. -/
theorem steps_reaches (plane : ControlPlane σ κ) (orders : SweepOrders) (count : Nat)
    {sweep : Sweep σ} (seated : sweep.Seated) :
    Course.Reaches plane orders sweep.course (sweep.steps plane orders count).course :=
  steps_keep (fun seated reached made => Relation.ReflTransGen.trans reached
    (step_reaches seated made).1) count seated .refl

/-- Where a sweep ends, its course has led. -/
theorem reaches (plane : ControlPlane σ κ) (orders : SweepOrders) {sweep : Sweep σ}
    (seated : sweep.Seated) :
    Course.Reaches plane orders sweep.course (sweep.run plane orders).course :=
  steps_reaches plane orders sweep.weight seated

/-- When every machine is taken, every machine is finished. -/
theorem course_stages {sweep : Sweep σ} (complete : sweep.isComplete = true) :
    sweep.course.stages = sweep.taken.map finishedEntry := by
  simp only [isComplete, Bool.and_eq_true, List.isEmpty_iff] at complete
  simp [course, complete.1, complete.2]

end Sweep

namespace Run

variable {plane : ControlPlane σ κ} {settings : RunSettings} {request : RunRequest} {world : σ}

/-- A run of a listed inventory is its sweep. -/
theorem conduct_of_list {inventory : Inventory} {line : Timeline σ}
    (listed : Run.list plane settings request world = (.ok inventory, line)) :
    conduct plane settings request world =
      sweepFleet plane settings request inventory line := by
  rw [conduct, listed]

/-- A run whose inventory cannot be listed ends there. -/
theorem conduct_of_unlisted {error : RunError} {line : Timeline σ}
    (unlisted : Run.list plane settings request world = (.error error, line)) :
    conduct plane settings request world = aborted error line := by
  rw [conduct, unlisted]

/-- A sweep that is not cut takes every machine. -/
theorem complete_of_finished {settings : RunSettings} {request : RunRequest}
    {inventory : Inventory} {line : Timeline σ}
    (finished : (sweepFleet plane settings request inventory line).result = .ok ()) :
    ((opened settings inventory line).run plane
      (settings.orders request inventory)).isComplete = true := by
  by_contra incomplete
  simp [sweepFleet, incomplete] at finished

/-- The sweep of a run is a course of its roster; a sweep that is not cut finishes every
machine. -/
theorem sweepFleet_reaches (plane : ControlPlane σ κ) (settings : RunSettings)
    (request : RunRequest) (inventory : Inventory) (line : Timeline σ) :
    ∃ last, Course.Reaches plane (settings.orders request inventory)
        (Course.start line.world (roster inventory.machines)) last ∧
      (sweepFleet plane settings request inventory line).calls = last.ledger.calls ∧
      (sweepFleet plane settings request inventory line).answers = last.ledger.answers ∧
      (sweepFleet plane settings request inventory line).line.world = last.ledger.world ∧
      ((sweepFleet plane settings request inventory line).result = .ok () →
        last.stages =
          (sweepFleet plane settings request inventory line).outcomes.map finishedEntry) := by
  have seated : (opened settings inventory line).Seated := rfl
  have begun : (opened settings inventory line).course =
      Course.start line.world (roster inventory.machines) := rfl
  have reached := Sweep.reaches plane (settings.orders request inventory) seated
  rw [begun] at reached
  exact ⟨_, reached, rfl, rfl, rfl,
    fun finished => Sweep.course_stages (complete_of_finished finished)⟩

/-- A run that is not cut finishes the machines of its roster in order. -/
theorem outcomes_machines {inventory : Inventory} {line : Timeline σ}
    (listed : Run.list plane settings request world = (.ok inventory, line))
    (finished : (conduct plane settings request world).result = .ok ()) :
    (conduct plane settings request world).outcomes.map Prod.fst =
      roster inventory.machines := by
  rw [conduct_of_list listed] at finished ⊢
  obtain ⟨last, reached, -, -, -, ended⟩ :=
    sweepFleet_reaches plane settings request inventory line
  have machines := Course.Reaches.machines reached
  rw [ended finished, Course.start_machines, List.map_map] at machines
  exact machines

/-- What holds of each of different machines before it is begun and lasts, holds of each of the
roster wherever a course of the roster leads. -/
theorem roster_lasting {good : Machine → Ledger σ → Stage σ → Prop} {orders : SweepOrders}
    {listed : List Machine} {world : σ} {last : Course σ}
    (reached : Course.Reaches plane orders (Course.start world (roster listed)) last)
    (distinct : (listed.map Machine.key).Nodup) (lasting : Lasting plane orders good)
    (waiting : ∀ machine ∈ listed, good machine { world := world } .waiting) :
    ∀ entry ∈ last.stages, good entry.1 last.ledger entry.2 := by
  refine lasting.reaches reached ?_ ?_
  · rw [Course.start_machines]
    exact roster_nodup distinct
  · intro entry present
    obtain ⟨machine, onRoster, rfl⟩ := List.mem_map.mp present
    exact waiting machine ((roster_perm distinct).mem_iff.mp onRoster)

/-- When a run that is not cut finishes different machines, what holds of each before it is begun
and lasts, holds of each at the end. -/
theorem finished_lasting {good : Machine → Ledger σ → Stage σ → Prop} {inventory : Inventory}
    {line : Timeline σ}
    (listed : Run.list plane settings request world = (.ok inventory, line))
    (finished : (conduct plane settings request world).result = .ok ())
    (distinct : (inventory.machines.map Machine.key).Nodup)
    (lasting : Lasting plane (settings.orders request inventory) good)
    (waiting : ∀ machine ∈ inventory.machines, good machine { world := line.world } .waiting) :
    (conduct plane settings request world).outcomes.map Prod.fst = roster inventory.machines ∧
      ∃ ledger : Ledger σ, (conduct plane settings request world).calls = ledger.calls ∧
        (conduct plane settings request world).answers = ledger.answers ∧
        (conduct plane settings request world).line.world = ledger.world ∧
        (∀ call ∈ ledger.calls, call.machine ∈ inventory.machines) ∧
        ∀ result ∈ (conduct plane settings request world).outcomes,
          good result.1 ledger (.finished result.2) := by
  refine ⟨outcomes_machines listed finished, ?_⟩
  rw [conduct_of_list listed] at finished ⊢
  obtain ⟨last, reached, calls, answers, left, ended⟩ :=
    sweepFleet_reaches plane settings request inventory line
  refine ⟨last.ledger, calls, answers, left, ?_, ?_⟩
  · intro call made
    have onRoster := Course.Reaches.calls_listed reached
      (fun _ none => absurd none List.not_mem_nil) call made
    rw [Course.start_machines] at onRoster
    exact (roster_perm distinct).mem_iff.mp onRoster
  · intro result present
    have holds := roster_lasting reached distinct lasting waiting
    rw [ended finished] at holds
    exact holds (finishedEntry result) (List.mem_map_of_mem present)

/-- When the outcomes are those of the roster, every one of different listed machines has one. -/
theorem exists_outcome {run : Run σ} {listed : List Machine} {machine : Machine}
    (kept : run.outcomes.map Prod.fst = roster listed)
    (distinct : (listed.map Machine.key).Nodup) (present : machine ∈ listed) :
    ∃ outcome, (machine, outcome) ∈ run.outcomes := by
  have onRoster := (roster_perm distinct).mem_iff.mpr present
  rw [← kept] at onRoster
  obtain ⟨⟨_, outcome⟩, taken, rfl⟩ := List.mem_map.mp onRoster
  exact ⟨outcome, taken⟩

end Run

end OffHours
