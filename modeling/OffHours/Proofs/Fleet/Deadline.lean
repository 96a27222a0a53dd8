import OffHours.Proofs.Fleet.Completion
import OffHours.Proofs.Fleet.Duplicates
import OffHours.Proofs.Fleet.Listings

/-!
# Runs that are cut

A run that is cut reports the results that were taken, and a result is taken only after those of
all machines before it. So a result that stands behind a machine in progress is lost: it is in
neither the counters nor the message. `cut_run_reports` says what exactly is lost, that it is
less than one result for every machine that may be in progress, and that the cut is on time:
whatever was answered by the limit is settled, and every call in progress is answered later.
-/

namespace OffHours

variable {σ κ : Type}

/-- The outcome of a machine that is finished. -/
def Stage.outcome? : Stage σ → Option Outcome
  | waiting | reading _ _ _ | acting _ _ => none
  | finished outcome => some outcome

/-- The results of the machines that are finished, in order. -/
def finishedResults (stages : List (Machine × Stage σ)) : List (Machine × Outcome) :=
  stages.filterMap fun entry => entry.2.outcome?.map fun outcome => (entry.1, outcome)

/-- The results that stand behind a machine that is not finished. -/
def stranded (stages : List (Machine × Stage σ)) : List (Machine × Outcome) :=
  finishedResults (stages.dropWhile fun entry => entry.2.outcome?.isSome)

/-- The results of two parts are those of both. -/
theorem finishedResults_append (front back : List (Machine × Stage σ)) :
    finishedResults (front ++ back) = finishedResults front ++ finishedResults back :=
  List.filterMap_append

/-- Results that were taken are results. -/
theorem finishedResults_taken (taken : List (Machine × Outcome)) :
    finishedResults (taken.map finishedEntry : List (Machine × Stage σ)) = taken := by
  rw [finishedResults, List.filterMap_map]
  exact List.filterMap_some

/-- Machines that are not begun have no results. -/
theorem finishedResults_waiting (queue : List Machine) :
    finishedResults (queue.map waitingEntry : List (Machine × Stage σ)) = [] := by
  rw [finishedResults, List.filterMap_map]
  exact List.filterMap_eq_nil_iff.mpr fun _ _ => rfl

/-- There are no more results than machines. -/
theorem length_finishedResults_le (stages : List (Machine × Stage σ)) :
    (finishedResults stages).length ≤ stages.length :=
  List.length_filterMap_le _ stages

variable {plane : ControlPlane σ κ} {orders : SweepOrders}

namespace Sweep

variable {sweep moved : Sweep σ}

/-! ## Where a sweep is cut -/

/-- When no call is waited for, no machine in progress has one. -/
theorem wait?_of_next? {visits : List (Visit σ)} {visit : Visit σ} (idle : next? visits = none)
    (present : visit ∈ visits) : visit.progress.wait? = none := by
  induction visits with
  | nil => exact absurd present List.not_mem_nil
  | cons first rest hypothesis =>
    cases own : first.progress.wait? with
    | some wait => exact absurd idle (next?_ne_none own)
    | none =>
      simp only [next?, own] at idle
      rcases List.mem_cons.mp present with rfl | behind
      · exact own
      · exact hypothesis idle behind

/-- Of all calls in progress, none is answered before the next one. -/
theorem next?_least {visits : List (Visit σ)} {wait other : Wait} {visit later : Visit σ}
    (next : next? visits = some (wait, visit)) (present : later ∈ visits)
    (busy : later.progress.wait? = some other) : wait.due ≤ other.due := by
  induction visits generalizing wait visit with
  | nil => exact absurd present List.not_mem_nil
  | cons first rest hypothesis =>
    cases own : first.progress.wait? with
    | none =>
      simp only [next?, own] at next
      rcases List.mem_cons.mp present with rfl | behind
      · simp [own] at busy
      · exact hypothesis next behind
    | some due =>
      cases found : next? rest with
      | none =>
        simp only [next?, own, found, Option.some.injEq, Prod.mk.injEq] at next
        obtain ⟨rfl, rfl⟩ := next
        rcases List.mem_cons.mp present with rfl | behind
        · rw [own] at busy
          exact Nat.le_of_eq (congrArg Wait.due (Option.some.inj busy))
        · simp [wait?_of_next? found behind] at busy
      | some least =>
        have behind : later ∈ rest → least.1.due ≤ other.due := hypothesis found
        have ahead : later = first → due = other := by
          rintro rfl
          exact Option.some.inj (own.symm.trans busy)
        simp only [next?, own, found] at next
        split at next
        · rename_i earlier
          have order : least.1.due ≤ due.due := by
            simp only [Wait.before, Bool.or_eq_true, Bool.and_eq_true, decide_eq_true_eq,
              beq_iff_eq] at earlier
            omega
          obtain ⟨rfl, rfl⟩ := Prod.mk.inj (Option.some.inj next)
          rcases List.mem_cons.mp present with first | further
          · rw [← ahead first]
            exact order
          · exact behind further
        · rename_i notEarlier
          have order : due.due ≤ least.1.due := by
            simp only [Wait.before, Bool.or_eq_true, Bool.and_eq_true, decide_eq_true_eq,
              beq_iff_eq] at notEarlier
            omega
          obtain ⟨rfl, rfl⟩ := Prod.mk.inj (Option.some.inj next)
          rcases List.mem_cons.mp present with first | further
          · rw [← ahead first]
          · exact order.trans (behind further)

/-- A sweep without a move left neither takes a result nor begins a machine. -/
theorem proceed?_eq_none (stuck : sweep.step plane orders = none) :
    sweep.proceed? plane orders = none := by
  cases next : next? sweep.active with
  | none => simpa only [Sweep.step, next] using stuck
  | some first =>
    obtain ⟨wait, visit⟩ := first
    simp only [Sweep.step, next] at stuck
    split at stuck
    · simp at stuck
    · cases proceeded : sweep.proceed? plane orders with
      | none => rfl
      | some other => simp [proceeded] at stuck

/-- A machine whose result could be taken is done. -/
theorem busy_of_proceed? {visit : Visit σ} {rest : List (Visit σ)}
    (stuck : sweep.proceed? plane orders = none) (active : sweep.active = visit :: rest) :
    ∃ wait, visit.progress.wait? = some wait := by
  obtain ⟨seat, machine, progress⟩ := visit
  cases progress with
  | reading wait kind desired settle => exact ⟨wait, rfl⟩
  | acting wait desired action settle => exact ⟨wait, rfl⟩
  | done outcome => simp [proceed?, active] at stuck

/-- Settling a call brings the clock to its answer. -/
theorem settle_clock (plane : ControlPlane σ κ) (orders : SweepOrders) {visit : Visit σ}
    {wait : Wait} (busy : visit.progress.wait? = some wait) :
    (sweep.settle plane orders visit).clock = wait.due := by
  obtain ⟨seat, machine, progress⟩ := visit
  cases progress with
  | done outcome => simp [Progress.wait?] at busy
  | reading due kind desired settle =>
    obtain rfl : due = wait := Option.some.inj busy
    simp only [Sweep.settle, settleRead]
    split
    · rfl
    · split <;> rfl
  | acting due desired action settle =>
    obtain rfl : due = wait := Option.some.inj busy
    simp only [Sweep.settle, settleAction]
    split <;> rfl

/-- Taking a result or beginning a machine takes no time. -/
theorem proceed?_clock (proceeded : sweep.proceed? plane orders = some moved) :
    moved.clock = sweep.clock := by
  rcases proceed?_cases proceeded with
    ⟨seat, machine, outcome, rest, -, rfl⟩ | ⟨machine, later, -, rfl⟩
  · rfl
  · simp only [Sweep.start]
    split <;> rfl

/-- No move goes beyond the limit. -/
theorem step_clock_le (within : sweep.clock ≤ orders.limit)
    (made : sweep.step plane orders = some moved) : moved.clock ≤ orders.limit := by
  rcases step_due made with ⟨wait, visit, next, due, rfl⟩ | proceeded
  · rw [settle_clock plane orders (next?_mem next).2]
    exact due.trans (max_le within (Nat.le_refl _))
  · rw [proceed?_clock proceeded]
    exact within

/-- No more machines are in progress than there is room for. -/
theorem step_length_le (bound : sweep.active.length ≤ max orders.width 1)
    (made : sweep.step plane orders = some moved) :
    moved.active.length ≤ max orders.width 1 := by
  rcases step_cases made with ⟨wait, visit, next, rfl⟩ | proceeded
  · obtain ⟨progress, active, -⟩ := settle_shift plane orders sweep visit (next?_mem next).2
    rw [active, update, List.length_map]
    exact bound
  · exact proceed?_length_le bound proceeded

/-- A sweep of a number of machines at once that was cut at a limit. -/
structure Cut (limit width : Nat) (sweep : Sweep σ) : Prop where
  /-- The limit is not passed. -/
  clock : sweep.clock ≤ limit
  /-- Every call in progress is answered after the limit. -/
  late : ∀ visit ∈ sweep.active, ∀ wait, visit.progress.wait? = some wait → limit < wait.due
  /-- There is room for the machines in progress. -/
  room : sweep.active.length ≤ max width 1
  /-- The first machine in progress is not done. -/
  first : ∃ visit rest wait, sweep.active = visit :: rest ∧ visit.progress.wait? = some wait

/-- A sweep that ends before every machine is taken was cut at the limit. -/
theorem cut_of_incomplete (seated : sweep.Seated) (within : sweep.clock ≤ orders.limit)
    (room : sweep.active.length ≤ max orders.width 1)
    (incomplete : (sweep.run plane orders).isComplete = false) :
    (sweep.run plane orders).Cut orders.limit orders.width := by
  have stuck := run_step plane orders seated
  obtain ⟨wait, visit, next, late⟩ :=
    (complete_or_late stuck).resolve_left (by rw [incomplete]; exact Bool.false_ne_true)
  constructor
  · exact steps_keep (fun _ => step_clock_le) _ seated within
  · intro other present due busy
    exact Nat.lt_of_lt_of_le late (next?_least next present busy)
  · exact steps_keep (fun _ => step_length_le) _ seated room
  · cases active : (sweep.run plane orders).active with
    | nil => simp [active, next?] at next
    | cons visit rest =>
      obtain ⟨wait, busy⟩ := busy_of_proceed? (proceed?_eq_none stuck) active
      exact ⟨visit, rest, wait, rfl, busy⟩

/-- A machine that is waited for is not finished. -/
theorem outcome?_of_wait? {visit : Visit σ} {wait : Wait}
    (busy : visit.progress.wait? = some wait) : visit.entry.2.outcome? = none := by
  obtain ⟨seat, machine, progress⟩ := visit
  cases progress with
  | done outcome => simp [Progress.wait?] at busy
  | reading wait kind desired settle => rfl
  | acting wait desired action settle => rfl

/-- Where a sweep is cut, the results are those that were taken and the stranded ones, and these
are fewer than the machines that may be in progress. -/
theorem Cut.results {limit width : Nat} (cut : sweep.Cut limit width) :
    finishedResults sweep.course.stages = sweep.taken ++ stranded sweep.course.stages ∧
      (stranded sweep.course.stages).length < max width 1 := by
  obtain ⟨visit, rest, wait, active, busy⟩ := cut.first
  have unfinished : ¬ visit.entry.2.outcome?.isSome = true := by
    rw [outcome?_of_wait? busy]
    exact Bool.false_ne_true
  have finished : ∀ entry ∈ sweep.taken.map (finishedEntry : _ → Machine × Stage σ),
      entry.2.outcome?.isSome = true := by
    intro entry present
    obtain ⟨result, -, rfl⟩ := List.mem_map.mp present
    rfl
  have behind : stranded sweep.course.stages =
      finishedResults (sweep.active.map Visit.entry ++ sweep.queue.map waitingEntry) := by
    rw [stranded, course, List.dropWhile_append_of_pos finished, active, List.map_cons,
      List.cons_append, List.dropWhile_cons, if_neg unfinished]
  constructor
  · rw [behind, course, finishedResults_append, finishedResults_taken]
  · -- The first machine in progress has no result.
    have fewer : (finishedResults (sweep.active.map Visit.entry)).length ≤ rest.length := by
      have none : finishedResults (sweep.active.map Visit.entry) =
          finishedResults (rest.map Visit.entry) := by
        rw [active, List.map_cons, finishedResults, List.filterMap_cons, outcome?_of_wait? busy]
        rfl
      rw [none, ← List.length_map Visit.entry]
      exact length_finishedResults_le _
    have room := cut.room
    rw [active, List.length_cons] at room
    rw [behind, finishedResults_append, finishedResults_waiting, List.append_nil]
    omega

end Sweep

/-! ## What is reported -/

/-- A text about some lines that is empty when there are none says whether lines are missing. -/
theorem linesText_eq_iff (head : String) (shown : head ≠ "") (front back : List String) :
    (if front.isEmpty then "" else head ++ "\n".intercalate front) =
        (if (front ++ back).isEmpty then "" else head ++ "\n".intercalate (front ++ back)) ↔
      back = [] := by
  constructor
  · intro same
    by_contra missing
    have some : (front ++ back).isEmpty = false := by simp [missing]
    have long : 0 < head.length := by
      rw [Nat.pos_iff_ne_zero]
      simpa using shown
    have lengths := congrArg String.length same
    rw [some] at lengths
    cases front with
    | nil =>
      simp at lengths
      omega
    | cons first rest =>
      rw [String.intercalate_append_of_ne_nil (List.cons_ne_nil first rest) missing] at lengths
      have line : "\n".length = 1 := rfl
      simp only [List.isEmpty_cons, Bool.false_eq_true, ↓reduceIte, String.length_append,
        line] at lengths
      omega
  · rintro rfl
    rw [List.append_nil]

/-- The failure lines of two parts are those of both. -/
theorem failureLines_append (front back : List (Machine × Outcome)) :
    failureLines (front ++ back) = failureLines front ++ failureLines back :=
  List.filterMap_append

/-- There is no failure line exactly when no machine failed. -/
theorem failureLines_eq_nil_iff (results : List (Machine × Outcome)) :
    failureLines results = [] ↔ ∀ result ∈ results, ∀ error, result.2 ≠ .errored error := by
  rw [failureLines, List.filterMap_eq_nil_iff]
  constructor
  · rintro none ⟨machine, outcome⟩ present error rfl
    exact Option.some_ne_none _ (none _ present)
  · rintro none ⟨machine, outcome⟩ present
    cases outcome with
    | skipped reason => rfl
    | reconciled action => rfl
    | errored error => exact absurd rfl (none _ present error)

namespace Run

/-- The sweep of a run where it ends, unless the inventory was not listed. -/
def lastSweep? (plane : ControlPlane σ κ) (settings : RunSettings) (request : RunRequest)
    (world : σ) : Option (Sweep σ) :=
  match list plane settings request world with
  | (.error _, _) => none
  | (.ok inventory, line) =>
    some ((opened settings inventory line).run plane (settings.orders request inventory))

/-- How far each machine of the roster is where a run ends. -/
def stages (plane : ControlPlane σ κ) (settings : RunSettings) (request : RunRequest)
    (world : σ) : List (Machine × Stage σ) :=
  match lastSweep? plane settings request world with
  | none => []
  | some sweep => sweep.course.stages

section LastSweep

variable {settings : RunSettings} {request : RunRequest} {world : σ}

/-- The last sweep of a run of a listed inventory. -/
theorem lastSweep?_of_list {inventory : Inventory} {line : Timeline σ}
    (listed : list plane settings request world = (.ok inventory, line)) :
    lastSweep? plane settings request world =
      some ((opened settings inventory line).run plane (settings.orders request inventory)) := by
  rw [lastSweep?, listed]

/-- A run without a sweep has no outcomes. -/
theorem outcomes_of_lastSweep?_none (unlisted : lastSweep? plane settings request world = none) :
    (conduct plane settings request world).outcomes = [] := by
  cases listed : list plane settings request world with
  | mk listing line =>
    cases listing with
    | error error =>
      rw [conduct_of_unlisted listed]
      rfl
    | ok inventory =>
      rw [lastSweep?_of_list listed] at unlisted
      cases unlisted

/-- The last sweep of a run that fails was cut at the limit, and its results are the outcomes. -/
theorem lastSweep?_cut {error : RunError} {sweep : Sweep σ}
    (failed : (conduct plane settings request world).result = .error error)
    (ended : lastSweep? plane settings request world = some sweep) :
    (conduct plane settings request world).outcomes = sweep.taken ∧
      sweep.Cut (1000 * settings.limitSeconds) settings.width := by
  have early := list_clock_le plane settings request world
  cases listed : list plane settings request world with
  | mk listing line =>
    rw [listed] at early
    cases listing with
    | error error =>
      rw [lastSweep?, listed] at ended
      cases ended
    | ok inventory =>
      rw [lastSweep?_of_list listed] at ended
      rw [conduct_of_list listed] at failed ⊢
      obtain rfl := Option.some.inj ended
      have seated : (opened settings inventory line).Seated := rfl
      have incomplete : ((opened settings inventory line).run plane
          (settings.orders request inventory)).isComplete = false := by
        rw [Bool.eq_false_iff]
        intro complete
        rw [sweepFleet, if_pos complete] at failed
        cases failed
      have facts : ((opened settings inventory line).run plane
          (settings.orders request inventory)).Cut (settings.orders request inventory).limit
          (settings.orders request inventory).width :=
        Sweep.cut_of_incomplete seated early (Nat.zero_le _) incomplete
      exact ⟨rfl, facts⟩

end LastSweep

/-- A run with other results. -/
def withResults (run : Run σ) (results : List (Machine × Outcome)) : Run σ :=
  { run with outcomes := results }

/-- What a run reports, of all results that there are where it ends. -/
structure CutReport (plane : ControlPlane σ κ) (settings : RunSettings) (request : RunRequest)
    (world : σ) (run : Run σ) (stages : List (Machine × Stage σ)) : Prop where
  /-- The results are the reported and the stranded ones. -/
  results : finishedResults stages = run.outcomes ++ stranded stages
  /-- Fewer results are stranded than machines may be in progress. -/
  few : (stranded stages).length < max settings.width 1
  /-- The counters count every result exactly when none is stranded. -/
  counted : run.stats = (run.withResults (finishedResults stages)).stats ↔ stranded stages = []
  /-- The message lists every failed machine exactly when none of them is stranded. -/
  listed : ∀ id, run.message? id = (run.withResults (finishedResults stages)).message? id ↔
    ∀ result ∈ stranded stages, ∀ error, result.2 ≠ .errored error
  /-- The cut is at the limit: calls that are answered by then are settled, and no others. -/
  timely : ∀ sweep, lastSweep? plane settings request world = some sweep →
    sweep.clock ≤ 1000 * settings.limitSeconds ∧
      ∀ visit ∈ sweep.active, ∀ wait, visit.progress.wait? = some wait →
        1000 * settings.limitSeconds < wait.due

/-- Counters count all results exactly when all are there. -/
theorem stats_eq_iff (run : Run σ) (lost : List (Machine × Outcome)) :
    run.stats = (run.withResults (run.outcomes ++ lost)).stats ↔ lost = [] := by
  constructor
  · intro same
    have processed := congrArg RunStats.processed same
    rw [stats, stats, RunStats.processed_ofOutcomes, RunStats.processed_ofOutcomes, withResults,
      List.length_map, List.length_map, List.length_append] at processed
    exact List.length_eq_zero_iff.mp (by omega)
  · rintro rfl
    rw [withResults, List.append_nil]

/-- The message about a failed run is that of all results exactly when no failed one is lost. -/
theorem message?_eq_iff {run : Run σ} {error : RunError} (failed : run.result = .error error)
    (lost : List (Machine × Outcome)) (id : String) :
    run.message? id = (run.withResults (run.outcomes ++ lost)).message? id ↔
      ∀ result ∈ lost, ∀ error, result.2 ≠ .errored error := by
  have head : "\nMachine failures before abort:\n" ≠ "" := by decide
  have lines : (run.withResults (run.outcomes ++ lost)).failures =
      run.failures ++ failureLines lost := failureLines_append run.outcomes lost
  have result : (run.withResults (run.outcomes ++ lost)).result = .error error := failed
  rw [← failureLines_eq_nil_iff, ← linesText_eq_iff _ head run.failures]
  simp only [message?, failed, result, lines, Option.some.injEq]
  constructor
  · intro same
    exact String.append_right_inj _ |>.mp same
  · intro same
    rw [same]

end Run

/-- A run that is cut reports the results of the machines before the first that is not finished,
and loses those behind it. -/
theorem cut_run_reports (plane : ControlPlane σ κ) (settings : RunSettings) (request : RunRequest)
    (world : σ) {seconds : Nat}
    (cut : (Run.conduct plane settings request world).result =
      .error (.deadlineExceeded seconds)) :
    Run.CutReport plane settings request world (Run.conduct plane settings request world)
      (Run.stages plane settings request world) := by
  obtain ⟨results, few⟩ : finishedResults (Run.stages plane settings request world) =
        (Run.conduct plane settings request world).outcomes ++
          stranded (Run.stages plane settings request world) ∧
      (stranded (Run.stages plane settings request world)).length < max settings.width 1 := by
    cases ended : Run.lastSweep? plane settings request world with
    | none =>
      have some : 0 < max settings.width 1 := Nat.lt_of_lt_of_le Nat.one_pos (le_max_right _ _)
      rw [Run.stages, ended, Run.outcomes_of_lastSweep?_none ended]
      exact ⟨rfl, some⟩
    | some sweep =>
      obtain ⟨taken, facts⟩ := Run.lastSweep?_cut cut ended
      rw [Run.stages, ended, taken]
      exact facts.results
  constructor
  · exact results
  · exact few
  · rw [results]
    exact Run.stats_eq_iff _ _
  · intro id
    rw [results]
    exact Run.message?_eq_iff cut _ id
  · intro sweep ended
    obtain ⟨-, facts⟩ := Run.lastSweep?_cut cut ended
    exact ⟨facts.clock, facts.late⟩

/-- Two machines that are to be off on Mondays. -/
def pairedMachines : List Machine :=
  [⟨"/vm/app01", "app01", "web", "Microsoft.Compute/virtualMachines", [("off", "Monday")]⟩,
    ⟨"/vm/app02", "app02", "web", "Microsoft.Compute/virtualMachines", [("off", "Monday")]⟩]

/-- Why one of them cannot be read. -/
def unavailable : ApiError := ⟨.transient, "read power state", "the machine", "status 503"⟩

/-- A control plane on which the read of one machine takes long and that of one fails at once. -/
def pairedPlane (slow broken : String) : MemoryPlane where
  machines := pairedMachines
  behaviour id :=
    { readDelay := if id = slow then 5000 else 0
      readError := if id = broken then some unavailable else none }

/-- Both machines at once, for a second. -/
def hurriedSettings : RunSettings := { tagKey := "off", width := 2, limitSeconds := 1 }

/-- Both machines are listed. -/
theorem paired_listed (slow broken : String) :
    Run.list (pairedPlane slow broken).plane hurriedSettings mondayRequest [] =
      (.ok ⟨pairedMachines, []⟩, ⟨[], 0, Run.opening mondayRequest⟩) := rfl

/-- The machines are listed in order. -/
theorem paired_roster : roster pairedMachines = pairedMachines :=
  (roster_of_sorted (by decide +kernel)).trans (by decide +kernel)

/-- When the second machine is too slow, the failure of the first is reported. -/
theorem cut_run_reports_first_failure :
    (Run.conduct (pairedPlane "/vm/app02" "/vm/app01").plane hurriedSettings mondayRequest
        []).result = .error (.deadlineExceeded 1) ∧
    (Run.conduct (pairedPlane "/vm/app02" "/vm/app01").plane hurriedSettings mondayRequest
        []).message? "monday" =
      some ("Auto-shutdown run monday failed: Run exceeded deadline of 1s\n" ++
        "Machine failures before abort:\n" ++
        "app01 (web): transient failure during read power state on the machine: status 503 " ++
        "[transient]") ∧
    Run.CutReport (pairedPlane "/vm/app02" "/vm/app01").plane hurriedSettings mondayRequest []
      (Run.conduct (pairedPlane "/vm/app02" "/vm/app01").plane hurriedSettings mondayRequest [])
      (Run.stages (pairedPlane "/vm/app02" "/vm/app01").plane hurriedSettings mondayRequest
        []) := by
  have ended : ((Run.conduct (pairedPlane "/vm/app02" "/vm/app01").plane hurriedSettings
        mondayRequest []).result,
      (Run.conduct (pairedPlane "/vm/app02" "/vm/app01").plane hurriedSettings
        mondayRequest []).message? "monday") =
      (.error (.deadlineExceeded 1),
        some ("Auto-shutdown run monday failed: Run exceeded deadline of 1s\n" ++
          "Machine failures before abort:\n" ++
          "app01 (web): transient failure during read power state on the machine: status 503 " ++
          "[transient]")) := by
    rw [Run.conduct_of_list (paired_listed _ _), Run.sweepFleet, Run.opened]
    simp only [paired_roster]
    decide +kernel
  obtain ⟨cut, message⟩ := Prod.mk.inj ended
  exact ⟨cut, message, cut_run_reports _ _ _ _ cut⟩

/-- When the first machine is too slow, the failure of the second is in neither the message nor
the counters. -/
theorem cut_run_loses_second_failure :
    (∃ machine, (machine, .errored unavailable) ∈ finishedResults
      (Run.stages (pairedPlane "/vm/app01" "/vm/app02").plane hurriedSettings mondayRequest
        [])) ∧
    (Run.conduct (pairedPlane "/vm/app01" "/vm/app02").plane hurriedSettings mondayRequest
        []).result = .error (.deadlineExceeded 1) ∧
    (Run.conduct (pairedPlane "/vm/app01" "/vm/app02").plane hurriedSettings mondayRequest
        []).message? "monday" =
      some "Auto-shutdown run monday failed: Run exceeded deadline of 1s" ∧
    (Run.conduct (pairedPlane "/vm/app01" "/vm/app02").plane hurriedSettings mondayRequest
        []).stats = {} := by
  have ended : (finishedResults (Run.stages (pairedPlane "/vm/app01" "/vm/app02").plane
        hurriedSettings mondayRequest []),
      (Run.conduct (pairedPlane "/vm/app01" "/vm/app02").plane hurriedSettings
        mondayRequest []).result,
      (Run.conduct (pairedPlane "/vm/app01" "/vm/app02").plane hurriedSettings
        mondayRequest []).message? "monday",
      (Run.conduct (pairedPlane "/vm/app01" "/vm/app02").plane hurriedSettings
        mondayRequest []).stats) =
      (pairedMachines.tail.map fun machine => (machine, .errored unavailable),
        .error (.deadlineExceeded 1),
        some "Auto-shutdown run monday failed: Run exceeded deadline of 1s", {}) := by
    rw [Run.stages, Run.lastSweep?_of_list (paired_listed _ _),
      Run.conduct_of_list (paired_listed _ _), Run.sweepFleet, Run.opened]
    simp only [paired_roster]
    decide +kernel
  obtain ⟨finished, rest⟩ := Prod.mk.inj ended
  obtain ⟨result, rest⟩ := Prod.mk.inj rest
  obtain ⟨message, stats⟩ := Prod.mk.inj rest
  refine ⟨?_, result, message, stats⟩
  rw [finished]
  exact ⟨_, List.mem_map_of_mem (List.mem_singleton_self _)⟩

end OffHours
