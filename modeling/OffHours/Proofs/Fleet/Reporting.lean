import OffHours.Program
import OffHours.Proofs.Fleet.Deadline

/-!
# Reports of failures

A run hands at most one message to its notifier: one when it failed as a whole or when a call on
one of its machines failed, and else none. `Notifier.recorded` keeps what a notifier is handed
beside what it does with it, so the number of messages can be told for every notifier. The message
about a run that did not fail has one entry for each machine with a failed call, and the counters
say the same: `failures_reported_once`. The message is sent when all is decided, so no notifier
changes what a run did; `Run.closed` is a run with its reports over the outside that the message
goes out to.
-/

namespace OffHours

variable {σ κ ν τ : Type}

/-! ## Counting -/

/-- Why a call on the machine failed, if one did. -/
def Outcome.error? : Outcome → Option ApiError
  | errored error => some error
  | skipped _ | reconciled _ => none

/-- Whether no change of power was asked of a machine whose power state was read. -/
def Outcome.isCompliant : Outcome → Bool
  | reconciled none => true
  | reconciled (some _) | skipped _ | errored _ => false

/-- The machines with a failed call and why it failed, in order. -/
def failedMachines (results : List (Machine × Outcome)) : List (Machine × ApiError) :=
  results.filterMap fun result => result.2.error?.map fun error => (result.1, error)

/-- There is a failure line for each machine with a failed call. -/
theorem failureLines_eq_map (results : List (Machine × Outcome)) :
    failureLines results =
      (failedMachines results).map fun failed => failureLine failed.1 failed.2 := by
  rw [failureLines, failedMachines, List.map_filterMap]
  congr 1
  funext result
  obtain ⟨machine, outcome⟩ := result
  cases outcome with
  | skipped reason | reconciled action | errored error => rfl

namespace RunStats

/-- The machines that are counted under a heading of their own. -/
def headed (stats : RunStats) : Nat :=
  stats.started + stats.stopped + stats.skipped + stats.errored

/-- A recorded outcome counts under one heading, or the machine is compliant. -/
theorem record_headed (stats : RunStats) (outcome : Outcome) :
    (stats.record outcome).headed + (if outcome.isCompliant then 1 else 0) = stats.headed + 1 := by
  cases outcome with
  | skipped reason =>
    simp only [record, headed, Outcome.isCompliant, Bool.false_eq_true, ↓reduceIte]
    omega
  | errored error =>
    simp only [record, headed, Outcome.isCompliant, Bool.false_eq_true, ↓reduceIte]
    omega
  | reconciled action =>
    cases action with
    | none => rfl
    | some action =>
      cases action with
      | start | stop =>
        simp only [record, headed, Outcome.isCompliant, Bool.false_eq_true, ↓reduceIte]
        omega

/-- A recorded outcome counts as an error exactly when a call failed. -/
theorem record_errored (stats : RunStats) (outcome : Outcome) :
    (stats.record outcome).errored = stats.errored + outcome.error?.toList.length := by
  cases outcome with
  | skipped reason | errored error => rfl
  | reconciled action =>
    cases action with
    | none => rfl
    | some action => cases action <;> rfl

/-- The counters of some outcomes: every machine is counted under a heading of its own or is
compliant. -/
theorem processed_eq_headed (outcomes : List Outcome) :
    (ofOutcomes outcomes).processed =
      (ofOutcomes outcomes).headed + outcomes.countP Outcome.isCompliant := by
  have balanced : ∀ stats : RunStats,
      (outcomes.foldl record stats).headed + outcomes.countP Outcome.isCompliant =
        stats.headed + outcomes.length := by
    induction outcomes with
    | nil => exact fun stats => rfl
    | cons outcome rest hypothesis =>
      intro stats
      have first := record_headed stats outcome
      have later := hypothesis (stats.record outcome)
      rw [List.foldl_cons, List.countP_cons, List.length_cons]
      omega
  have fresh : ({} : RunStats).headed = 0 := rfl
  rw [processed_ofOutcomes, ofOutcomes, balanced, fresh, Nat.zero_add]

/-- As many machines are counted as errors as there are machines with a failed call. -/
theorem errored_ofOutcomes (results : List (Machine × Outcome)) :
    (ofOutcomes (results.map Prod.snd)).errored = (failedMachines results).length := by
  have counted : ∀ stats : RunStats,
      ((results.map Prod.snd).foldl record stats).errored =
        stats.errored + (failedMachines results).length := by
    induction results with
    | nil => exact fun stats => rfl
    | cons result rest hypothesis =>
      intro stats
      have more : (failedMachines (result :: rest)).length =
          result.2.error?.toList.length + (failedMachines rest).length := by
        cases failure : result.2.error? with
        | none => simp [failedMachines, failure]
        | some error => simp [failedMachines, failure, Nat.add_comm]
      rw [List.map_cons, List.foldl_cons, hypothesis, record_errored, more]
      omega
  have fresh : ({} : RunStats).errored = 0 := rfl
  rw [ofOutcomes, counted, fresh, Nat.zero_add]

end RunStats

/-! ## What a notifier is handed -/

/-- The notifier that keeps the messages that it is handed, oldest first, beside what another one
does with them. -/
def Notifier.recorded (notifier : Notifier ν) : Notifier (ν × Mailbag) where
  name := notifier.name
  deliver message channel :=
    let delivery := notifier.deliver message channel.1
    ⟨delivery.result, delivery.log, (delivery.world, channel.2 ++ [message])⟩

namespace Run

/-- The messages that a run hands to its notifier. -/
def handed (notifier : Notifier ν) (request : RunRequest) (elapsed : String) (run : Run σ)
    (channel : ν) : Mailbag :=
  (run.report notifier.recorded request elapsed (channel, [])).2.2

/-- Recording what a notifier is handed changes nothing else, and what it is handed is the message
about the run, if one is due. -/
theorem report_recorded (notifier : Notifier ν) (request : RunRequest) (elapsed : String)
    (run : Run σ) (channel : ν) (received : Mailbag) :
    run.report notifier.recorded request elapsed (channel, received) =
      ((run.report notifier request elapsed channel).1,
        ((run.report notifier request elapsed channel).2,
          received ++ (run.message? request.id).toList)) := by
  rw [report, report]
  cases run.message? request.id with
  | none => simp [notify]
  | some message => rfl

/-- A run is handed its message, if one is due. -/
theorem handed_eq (notifier : Notifier ν) (request : RunRequest) (elapsed : String)
    (run : Run σ) (channel : ν) :
    run.handed notifier request elapsed channel = (run.message? request.id).toList := by
  rw [handed, report_recorded, List.nil_append]

/-- The run failed as a whole, or a call on one of its machines failed. -/
def Troubled (run : Run σ) : Prop :=
  (∃ error, run.result = .error error) ∨
    ∃ machine error, (machine, .errored error) ∈ run.outcomes

/-- A message is due exactly when there was trouble. -/
theorem message?_isSome_iff (id : String) (run : Run σ) :
    (run.message? id).isSome = true ↔ run.Troubled := by
  cases result : run.result with
  | error error =>
    have due : (run.message? id).isSome = true := by simp [message?, result]
    exact iff_of_true due (Or.inl ⟨error, result⟩)
  | ok done =>
    have lines : run.failures = [] ↔
        ¬ ∃ machine error, (machine, .errored error) ∈ run.outcomes := by
      rw [failures, failureLines_eq_nil_iff]
      constructor
      · rintro none ⟨machine, error, present⟩
        exact none _ present error rfl
      · rintro none ⟨machine, outcome⟩ present error rfl
        exact none ⟨machine, error, present⟩
    have trouble : run.Troubled ↔ run.failures ≠ [] := by
      rw [ne_eq, lines, not_not, Troubled, result]
      simp
    rw [trouble]
    cases empty : run.failures with
    | nil => simp [message?, result, empty]
    | cons line rest => simp [message?, result, empty]

end Run

/-! ## Compliant machines -/

/-- A machine was read and found in a power state for which this change of power is planned, or
none. -/
def Found (orders : SweepOrders) (controls : ResourceKind → Bool) (answers : List PowerAnswer)
    (plan : Option PowerAction) (machine : Machine) : Prop :=
  ∃ kind desired observed, (brief orders controls machine).1 = .read kind desired ∧
    (⟨machine, .ok observed⟩ : PowerAnswer) ∈ answers ∧ planAction desired observed = plan

/-- A machine was found as desired, or an entry with its key called for a change of power, which is
asked for once. -/
def LeftAsIs (orders : SweepOrders) (controls : ResourceKind → Bool) (answers : List PowerAnswer)
    (machine : Machine) : Prop :=
  Found orders controls answers none machine ∨
    ∃ other action, other.key = machine.key ∧ Found orders controls answers (some action) other

/-- A key that is remembered is that of a machine that called for a change of power. -/
def Ledger.Recalls (orders : SweepOrders) (controls : ResourceKind → Bool) (ledger : Ledger σ) :
    Prop :=
  ∀ key ∈ ledger.acted, ∃ other action, other.key = key ∧
    Found orders controls ledger.answers (some action) other

/-- A read in progress has the machine's own desired power, and a machine that ends without a
change of power was left as it is for a reason. -/
def Stage.Explained (orders : SweepOrders) (controls : ResourceKind → Bool)
    (answers : List PowerAnswer) (machine : Machine) : Stage σ → Prop
  | .reading kind desired _ => (brief orders controls machine).1 = .read kind desired
  | .finished (.reconciled none) => LeftAsIs orders controls answers machine
  | .waiting | .acting _ _ | .finished _ => True

section Explained

variable {plane : ControlPlane σ κ} {orders : SweepOrders} {controls : ResourceKind → Bool}
  {machine : Machine}

/-- What was heard stays heard. -/
theorem Found.mono {answers more : List PowerAnswer} {plan : Option PowerAction}
    (kept : answers ⊆ more) (found : Found orders controls answers plan machine) :
    Found orders controls more plan machine := by
  obtain ⟨kind, desired, observed, briefing, heard, planned⟩ := found
  exact ⟨kind, desired, observed, briefing, kept heard, planned⟩

/-- What explains a stage goes on explaining it. -/
theorem Stage.Explained.mono {answers more : List PowerAnswer} {stage : Stage σ}
    (kept : answers ⊆ more) (explained : stage.Explained orders controls answers machine) :
    stage.Explained orders controls more machine := by
  cases stage with
  | waiting | acting action settle => trivial
  | reading kind desired settle => exact explained
  | finished outcome =>
    cases outcome with
    | skipped reason | errored error => trivial
    | reconciled action =>
      cases action with
      | some action => trivial
      | none =>
        rcases explained with own | ⟨other, action, same, called⟩
        · exact Or.inl (own.mono kept)
        · exact Or.inr ⟨other, action, same, called.mono kept⟩

/-- A machine that goes on is explained again, and so is what is remembered. -/
theorem Shift.explained {ledger later : Ledger σ} {old new : Stage σ}
    (moved : Shift plane orders machine ledger old later new)
    (recalls : ledger.Recalls orders plane.controls)
    (explained : old.Explained orders plane.controls ledger.answers machine) :
    ledger.answers ⊆ later.answers ∧ later.Recalls orders plane.controls ∧
      new.Explained orders plane.controls later.answers machine := by
  have more : ∀ answer : PowerAnswer, ledger.answers ⊆ ledger.answers ++ [answer] :=
    fun _ => List.subset_append_left _ _
  have recalled : ∀ answer : PowerAnswer, ∀ key ∈ ledger.acted, ∃ other action, other.key = key ∧
      Found orders plane.controls (ledger.answers ++ [answer]) (some action) other := by
    intro answer key known
    obtain ⟨other, action, same, called⟩ := recalls key known
    exact ⟨other, action, same, called.mono (more answer)⟩
  -- What a machine calls for is found in the answer that it has just heard.
  have found : ∀ {kind desired observed},
      (brief orders plane.controls machine).1 = .read kind desired →
        Found orders plane.controls (ledger.answers ++ [⟨machine, .ok observed⟩])
          (planAction desired observed) machine := by
    intro kind desired observed briefing
    exact ⟨kind, desired, observed, briefing, by simp, rfl⟩
  cases moved with
  | skip briefing => exact ⟨List.Subset.refl _, recalls, trivial⟩
  | ask time briefing => exact ⟨List.Subset.refl _, recalls, briefing⟩
  | unread answered => exact ⟨more _, recalled _, trivial⟩
  | compliant answered plan =>
    exact ⟨more _, recalled _, Or.inl (plan ▸ found explained)⟩
  | repeated answered plan known =>
    obtain ⟨other, action, same, called⟩ := recalls machine.key known
    exact ⟨more _, recalled _, Or.inr ⟨other, action, same, called.mono (more _)⟩⟩
  | @simulated kind desired _ observed action _ answered plan unknown simulation
  | @perform kind desired _ observed action _ time answered plan unknown live =>
    refine ⟨more _, ?_, trivial⟩
    intro key known
    rcases List.mem_cons.mp known with rfl | before
    · exact ⟨machine, action, rfl, plan ▸ found explained⟩
    · exact recalled _ key before
  | @settle action _ answer _ answered =>
    refine ⟨List.Subset.refl _, recalls, ?_⟩
    cases answer with
    | ok accepted => trivial
    | error error => trivial

/-- Along a course every machine that ends without a change of power was left as it is for a
reason. -/
theorem Course.Reaches.explained {first last : Course σ}
    (reached : Course.Reaches plane orders first last)
    (recalls : first.ledger.Recalls orders plane.controls)
    (explained : ∀ entry ∈ first.stages,
      entry.2.Explained orders plane.controls first.ledger.answers entry.1) :
    last.ledger.Recalls orders plane.controls ∧ ∀ entry ∈ last.stages,
      entry.2.Explained orders plane.controls last.ledger.answers entry.1 := by
  induction reached with
  | refl => exact ⟨recalls, explained⟩
  | tail _ step hypothesis =>
    obtain ⟨recalls, explained⟩ := hypothesis
    cases step with
    | @shift ledger later old new machine front back moved =>
      obtain ⟨kept, recallsLater, explainedNew⟩ :=
        moved.explained recalls (explained (machine, old) (by simp))
      refine ⟨recallsLater, ?_⟩
      intro entry present
      simp only [List.mem_append, List.mem_cons] at present
      rcases present with before | rfl | behind
      · exact (explained entry (by simp [before])).mono kept
      · exact explainedNew
      · exact (explained entry (by simp [behind])).mono kept

end Explained

/-- A machine that a run counts as compliant was found as desired, or an entry with its key called
for a change of power. -/
theorem Run.leftAsIs_of_compliant {plane : ControlPlane σ κ} {settings : RunSettings}
    {request : RunRequest} {world : σ} {inventory : Inventory} {line : Timeline σ}
    (listed : Run.list plane settings request world = (.ok inventory, line)) {machine : Machine}
    (compliant : (machine, .reconciled none) ∈ (conduct plane settings request world).outcomes) :
    LeftAsIs (settings.orders request inventory) plane.controls
      (conduct plane settings request world).answers machine := by
  rw [conduct_of_list listed] at compliant ⊢
  have seated : (opened settings inventory line).Seated := rfl
  have begun : (opened settings inventory line).course =
      Course.start line.world (roster inventory.machines) := rfl
  have reached := Sweep.reaches plane (settings.orders request inventory) seated
  rw [begun] at reached
  have ends := (reached.explained (fun _ none => absurd none List.not_mem_nil) ?_).2
  · have taken : finishedEntry (machine, .reconciled none) ∈ ((opened settings inventory line).run
        plane (settings.orders request inventory)).course.stages :=
      List.mem_append_left _ (List.mem_map_of_mem compliant)
    exact ends _ taken
  · intro entry present
    obtain ⟨waiting, -, rfl⟩ := List.mem_map.mp present
    trivial

/-! ## Runs with their reports -/

/-- A notifier leaves a view of the outside as it is. -/
def Notifier.Leaves (notifier : Notifier σ) (view : σ → τ) : Prop :=
  ∀ message world, view (notifier.deliver message world).world = view world

namespace Run

/-- A run with its reports, when its message goes out to the outside that it worked on. -/
@[simps result outcomes calls] def closed (notifier : Notifier σ) (request : RunRequest)
    (run : Run σ) : Run σ :=
  let closing := run.report notifier request (secondsText run.line.clock) run.line.world
  { run with line := { run.line with world := closing.2, log := run.line.log ++ closing.1 } }

/-- The counters do not look at reports. -/
@[simp] theorem stats_closed (notifier : Notifier σ) (request : RunRequest) (run : Run σ) :
    (run.closed notifier request).stats = run.stats := rfl

/-- Reports leave what the notifier leaves. -/
theorem report_leaves {notifier : Notifier σ} {view : σ → τ} (leaves : notifier.Leaves view)
    (request : RunRequest) (elapsed : String) (run : Run σ) (world : σ) :
    view (run.report notifier request elapsed world).2 = view world := by
  rw [report]
  cases run.message? request.id with
  | none => rfl
  | some message => exact leaves message world

/-- The message about a run that did not fail as a whole has a head and an entry for each machine
with a failed call. -/
theorem message?_of_finished {run : Run σ} (finished : run.result = .ok ())
    (troubled : run.Troubled) (id : String) :
    run.message? id = some ("Auto-shutdown run " ++ id ++ " finished with " ++
      toString run.stats.errored ++ " machine failure(s):\n" ++
        "\n".intercalate ((failedMachines run.outcomes).map fun failed =>
          failed.1.name ++ " (" ++ failed.1.group ++ "): " ++ failed.2.message ++ " [" ++
            failed.2.errorClass.label ++ "]")) := by
  have lines : run.failures = (failedMachines run.outcomes).map fun failed =>
      failureLine failed.1 failed.2 := failureLines_eq_map run.outcomes
  have count : run.failures.length = run.stats.errored := by
    rw [lines, List.length_map, stats, RunStats.errored_ofOutcomes]
  have due := (message?_isSome_iff id run).mpr troubled
  have some : run.failures.isEmpty = false := by
    cases empty : run.failures with
    | nil => simp [message?, finished, empty] at due
    | cons line rest => rfl
  simp only [message?, finished, some, Bool.false_eq_true, ↓reduceIte, count]
  rw [lines]
  rfl

/-- What a run reports about failures: to any notifier, in its counters and about any outside. -/
structure FailuresReported (plane : ControlPlane σ κ) (settings : RunSettings)
    (request : RunRequest) (world : σ) (run : Run σ) : Prop where
  /-- When the run failed or a machine did, a notifier is handed one message. -/
  once : ∀ {ν : Type} (notifier : Notifier ν) (elapsed : String) (channel : ν), run.Troubled →
    ∃ message, run.handed notifier request elapsed channel = [message]
  /-- Otherwise it is handed none. -/
  never : ∀ {ν : Type} (notifier : Notifier ν) (elapsed : String) (channel : ν), ¬ run.Troubled →
    run.handed notifier request elapsed channel = []
  /-- The notifier does the same whether or not its messages are recorded. -/
  recorded : ∀ {ν : Type} (notifier : Notifier ν) (elapsed : String) (channel : ν),
    run.report notifier.recorded request elapsed (channel, []) =
      ((run.report notifier request elapsed channel).1,
        ((run.report notifier request elapsed channel).2,
          run.handed notifier request elapsed channel))
  /-- About a run that did not fail as a whole it is handed a head and an entry for each machine
  with a failed call. -/
  message : ∀ {ν : Type} (notifier : Notifier ν) (elapsed : String) (channel : ν),
    run.result = .ok () → run.Troubled →
      run.handed notifier request elapsed channel = ["Auto-shutdown run " ++ request.id ++
        " finished with " ++ toString run.stats.errored ++ " machine failure(s):\n" ++
          "\n".intercalate ((failedMachines run.outcomes).map fun failed =>
            failed.1.name ++ " (" ++ failed.1.group ++ "): " ++ failed.2.message ++ " [" ++
              failed.2.errorClass.label ++ "]")]
  /-- There are as many entries as machines are counted as errors. -/
  entries : (failedMachines run.outcomes).length = run.stats.errored
  /-- The machines of a run that did not fail as a whole are those of its roster, in order. -/
  order : ∀ inventory line, list plane settings request world = (.ok inventory, line) →
    run.result = .ok () → run.outcomes.map Prod.fst = roster inventory.machines
  /-- Every machine is counted under one heading or is compliant. -/
  processed : run.stats.processed = run.stats.started + run.stats.stopped + run.stats.skipped +
    run.stats.errored + (run.outcomes.map Prod.snd).countP Outcome.isCompliant
  /-- A compliant machine was found as desired, or an entry with its key called for a change of
  power. -/
  compliant : ∀ inventory line, list plane settings request world = (.ok inventory, line) →
    ∀ machine, (machine, .reconciled none) ∈ run.outcomes →
      LeftAsIs (settings.orders request inventory) plane.controls run.answers machine
  /-- With another notifier the result, the outcomes, the counters and the calls are the same. -/
  replaced : ∀ notifier other : Notifier σ,
    (run.closed notifier request).result = (run.closed other request).result ∧
      (run.closed notifier request).outcomes = (run.closed other request).outcomes ∧
      (run.closed notifier request).stats = (run.closed other request).stats ∧
      (run.closed notifier request).calls = (run.closed other request).calls
  /-- What neither notifier changes itself, such as the power states, is the same at the end. -/
  states : ∀ {τ : Type} (view : σ → τ) (notifier other : Notifier σ), notifier.Leaves view →
    other.Leaves view →
      view (run.closed notifier request).line.world = view (run.closed other request).line.world

end Run

/-- The exit code does not depend on what was reported. -/
theorem Program.verdict_closed (notifier : Notifier (Http.Wire σ)) (request : RunRequest)
    (run : Run (Http.Wire σ)) : verdict (run.closed notifier request) = verdict run := rfl

/-- What the program leaves behind is a run with its reports. -/
theorem Program.execute_eq_closed (surroundings : Surroundings σ) (plan : Plan) (simulate : Bool)
    (wire : Http.Wire σ) :
    execute surroundings plan simulate wire =
      let channel := notifier surroundings plan.settings.notices
      let request : RunRequest := ⟨surroundings.runId, surroundings.now, simulate⟩
      let run := (Run.conduct (service surroundings.server plan).plane
        (runSettings plan.settings) request wire).closed channel.1 request
      { code := (verdict run).1, log := channel.2 ++ run.line.log ++ (verdict run).2,
        wire := run.line.world } := by
  rw [execute]
  cases notifier surroundings plan.settings.notices with
  | mk channel setup =>
    simp only
    generalize Run.conduct (service surroundings.server plan).plane (runSettings plan.settings)
      ⟨surroundings.runId, surroundings.now, simulate⟩ wire = run
    rw [verdict_closed, Run.closed]
    simp only [List.append_assoc]

/-- Every run reports its failures once: it hands one message to its notifier when it failed or a
machine did and else none, the message about a run that did not fail names each machine with a
failed call, the counters agree, and no notifier changes what the run did. -/
theorem failures_reported_once (plane : ControlPlane σ κ) (settings : RunSettings)
    (request : RunRequest) (world : σ) :
    Run.FailuresReported plane settings request world
      (Run.conduct plane settings request world) where
  once notifier elapsed channel troubled := by
    have due := (Run.message?_isSome_iff request.id _).mpr troubled
    obtain ⟨message, sent⟩ := Option.isSome_iff_exists.mp due
    exact ⟨message, by rw [Run.handed_eq, sent]; rfl⟩
  never notifier elapsed channel untroubled := by
    have none : (Run.conduct plane settings request world).message? request.id = none := by
      rw [← Option.not_isSome_iff_eq_none, Run.message?_isSome_iff]
      exact untroubled
    rw [Run.handed_eq, none]
    rfl
  recorded notifier elapsed channel := by
    rw [Run.report_recorded, Run.handed_eq, List.nil_append]
  message notifier elapsed channel finished troubled := by
    rw [Run.handed_eq, Run.message?_of_finished finished troubled]
    rfl
  entries := (RunStats.errored_ofOutcomes _).symm
  order _ _ listed finished := Run.outcomes_machines listed finished
  processed := RunStats.processed_eq_headed _
  compliant _ _ listed _ compliant := Run.leftAsIs_of_compliant listed compliant
  replaced _ _ := by simp
  states view notifier other leaves also := by
    rw [Run.closed, Run.closed, Run.report_leaves leaves, Run.report_leaves also]

end OffHours
