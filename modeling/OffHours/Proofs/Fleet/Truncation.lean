import OffHours.Proofs.Fleet.Deadline

/-!
# Runs with a later limit

Moves do not look at the limit but to see whether a wait ends by it. So whatever a run does under
one limit it does under every later one, in the same way and at the same time, and goes on from
there: `later_limit_continues`. A run that is not cut under the earlier limit is the same run under
the later one. A call that is answered exactly at the earlier limit makes no difference: it is
settled under both.
-/

namespace OffHours

variable {σ κ α : Type}

/-! ## Listings -/

/-- A call that is answered by a limit is answered alike under every later limit. -/
theorem Timeline.await?_of_le {limit longer : Nat} (le : limit ≤ longer) {sent : Sent σ α}
    {line later : Timeline σ} {answer : α}
    (awaited : line.await? (some limit) sent = (some answer, later)) :
    line.await? (some longer) sent = (some answer, later) := by
  by_cases late : limit < line.clock + sent.duration
  · simp [Timeline.await?, late] at awaited
  · have early : ¬ longer < line.clock + sent.duration := by omega
    simp only [Timeline.await?, if_neg late] at awaited
    simp only [Timeline.await?, if_neg early]
    exact awaited

/-- A listing that is not cut at a limit ends alike under every later limit. -/
theorem listPages_of_le {limit longer : Nat} (le : limit ≤ longer)
    {ask : κ → σ → Sent σ (Except ApiError (Page κ α))} {pages : Nat} {cursor : κ}
    {found : List α} {line later : Timeline σ} {ending : ListingEnd α} (whole : ending ≠ .cut)
    (listed : listPages (some limit) ask pages cursor found line = (ending, later)) :
    listPages (some longer) ask pages cursor found line = (ending, later) := by
  induction pages generalizing cursor found line with
  | zero =>
    obtain ⟨rfl, -⟩ := Prod.mk.inj listed
    exact absurd rfl whole
  | succ pages hypothesis =>
    cases awaited : line.await? (some limit) (ask cursor line.world) with
    | mk answer between =>
      rw [listPages, awaited] at listed
      cases answer with
      | none =>
        obtain ⟨rfl, -⟩ := Prod.mk.inj listed
        exact absurd rfl whole
      | some answer =>
        rw [listPages, Timeline.await?_of_le le awaited]
        cases answer with
        | error error => exact listed
        | ok page =>
          simp only at listed ⊢
          cases next : page.next with
          | none =>
            rw [next] at listed
            exact listed
          | some following =>
            rw [next] at listed
            exact hypothesis listed

/-- A listing from its first page on that is not cut at a limit ends alike under every later
limit. -/
theorem listAll_of_le {limit longer : Nat} (le : limit ≤ longer)
    {ask : κ → σ → Sent σ (Except ApiError (Page κ α))} {pages : Nat} {first : Except ApiError κ}
    {line later : Timeline σ} {ending : ListingEnd α} (whole : ending ≠ .cut)
    (listed : listAll (some limit) ask pages first line = (ending, later)) :
    listAll (some longer) ask pages first line = (ending, later) := by
  cases first with
  | error error => exact listed
  | ok cursor => exact listPages_of_le le whole listed

/-- The settings with another limit. -/
def RunSettings.until (settings : RunSettings) (seconds : Nat) : RunSettings :=
  { settings with limitSeconds := seconds }

variable {plane : ControlPlane σ κ}

/-- An inventory that is listed by a limit, or fails to be, is so under every later limit. -/
theorem Run.list_of_le {settings : RunSettings} {request : RunRequest} {world : σ}
    {seconds more : Nat} (le : seconds ≤ more) {listing : Except RunError Inventory}
    {line : Timeline σ} (whole : ∀ limit, listing ≠ .error (.deadlineExceeded limit))
    (listed : Run.list plane (settings.until seconds) request world = (listing, line)) :
    Run.list plane (settings.until more) request world = (listing, line) := by
  have limits : 1000 * seconds ≤ 1000 * more := Nat.mul_le_mul_left 1000 le
  simp only [Run.list, RunSettings.until] at listed ⊢
  cases machines : listAll (some (1000 * seconds)) plane.machinePage settings.pages
      plane.machinesFrom { world := world, log := opening request } with
  | mk ending between =>
    rw [machines] at listed
    cases ending with
    | cut =>
      obtain ⟨rfl, -⟩ := Prod.mk.inj listed
      exact absurd rfl (whole seconds)
    | failed error =>
      rw [listAll_of_le limits (by simp) machines]
      exact listed
    | complete found =>
      rw [listAll_of_le limits (by simp) machines]
      simp only at listed ⊢
      cases groups : listAll (some (1000 * seconds)) (plane.groupPage settings.tagKey)
          settings.pages plane.groupsFrom between with
      | mk ending last =>
        rw [groups] at listed
        cases ending with
        | cut =>
          obtain ⟨rfl, -⟩ := Prod.mk.inj listed
          exact absurd rfl (whole seconds)
        | failed error =>
          rw [listAll_of_le limits (by simp) groups]
          exact listed
        | complete items =>
          rw [listAll_of_le limits (by simp) groups]
          exact listed

/-! ## Sweeps -/

/-- The orders with another limit. -/
def SweepOrders.until (orders : SweepOrders) (limit : Nat) : SweepOrders :=
  { orders with limit := limit }

namespace Sweep

variable {orders : SweepOrders} {sweep moved : Sweep σ}

/-- A move that is made under a limit is made under every later limit. -/
theorem step_of_le {limit longer : Nat} (le : limit ≤ longer)
    (made : sweep.step plane (orders.until limit) = some moved) :
    sweep.step plane (orders.until longer) = some moved := by
  have settled : ∀ visit, sweep.settle plane (orders.until longer) visit =
      sweep.settle plane (orders.until limit) visit := fun _ => rfl
  have proceeds : sweep.proceed? plane (orders.until longer) =
      sweep.proceed? plane (orders.until limit) := rfl
  rw [step] at made ⊢
  rw [proceeds]
  simp only [settled]
  cases next : next? sweep.active with
  | none =>
    rw [next] at made
    exact made
  | some call =>
    obtain ⟨wait, visit⟩ := call
    simp only [next] at made ⊢
    by_cases now : wait.due ≤ sweep.clock
    · rw [if_pos now] at made ⊢
      exact made
    · rw [if_neg now] at made ⊢
      cases proceeded : sweep.proceed? plane (orders.until limit) with
      | some other =>
        rw [proceeded] at made
        exact made
      | none =>
        rw [proceeded] at made
        simp only at made ⊢
        have due : wait.due ≤ (orders.until limit).limit := by
          by_contra late
          rw [if_neg late] at made
          cases made
        have dueLater : wait.due ≤ (orders.until longer).limit := Nat.le_trans due le
        rw [if_pos due] at made
        rw [if_pos dueLater]
        exact made

/-- The moves under a limit are the first ones under every later limit. -/
theorem steps_of_le (plane : ControlPlane σ κ) (orders : SweepOrders) {limit longer : Nat}
    (le : limit ≤ longer) (count : Nat) (sweep : Sweep σ) :
    ∃ rest, sweep.steps plane (orders.until longer) count =
      (sweep.steps plane (orders.until limit) count).steps plane (orders.until longer) rest := by
  induction count generalizing sweep with
  | zero => exact ⟨0, rfl⟩
  | succ count hypothesis =>
    cases made : sweep.step plane (orders.until limit) with
    | none =>
      -- The earlier limit allows no move, so all of them are made after it.
      have stuck : sweep.steps plane (orders.until limit) (count + 1) = sweep := by
        rw [steps, made]
      exact ⟨count + 1, by rw [stuck]⟩
    | some moved =>
      obtain ⟨rest, same⟩ := hypothesis moved
      refine ⟨rest, ?_⟩
      rw [steps, steps, made, step_of_le le made]
      exact same

/-- A sweep that has taken every machine makes no move. -/
theorem steps_of_complete (complete : sweep.isComplete = true) (count : Nat) :
    sweep.steps plane orders count = sweep := by
  simp only [isComplete, Bool.and_eq_true, List.isEmpty_iff] at complete
  obtain ⟨queue, active⟩ := complete
  have stuck : sweep.step plane orders = none := by
    simp [step, active, next?, proceed?, queue]
  cases count with
  | zero => rfl
  | succ count => rw [steps, stuck]

/-- The calls of a sweep begin with those of another one, and what it adds to them is made at the
time that it has come to. -/
def Prolongs (sweep moved : Sweep σ) : Prop :=
  ∃ added, moved.calls = sweep.calls ++ added ∧ ∀ call ∈ added, call.time = moved.clock

/-- A sweep with the same calls adds none. -/
theorem prolongs_of_eq (same : moved.calls = sweep.calls) : sweep.Prolongs moved :=
  ⟨[], by rw [same, List.append_nil], fun _ none => absurd none List.not_mem_nil⟩

/-- A machine whose read is answered is asked at that time for a change of power, or not at all. -/
theorem settleRead_prolongs (plane : ControlPlane σ κ) (orders : SweepOrders) (visit : Visit σ)
    (wait : Wait) (kind : ResourceKind) (desired : DesiredPower)
    (answer : Except ApiError PowerState) (sweep : Sweep σ) :
    sweep.Prolongs (sweep.settleRead plane orders visit wait kind desired answer) := by
  cases answer with
  | error error => exact prolongs_of_eq rfl
  | ok observed =>
    rw [settleRead]
    cases Reconciliation.decide orders.simulate sweep.acted visit.machine desired observed with
    | compliant | repeated action | simulated action => exact prolongs_of_eq rfl
    | perform action =>
      refine ⟨[⟨sweep.clock, .action action, visit.machine⟩], rfl, ?_⟩
      intro call present
      rw [List.mem_singleton.mp present]
      rfl

/-- Settling a call makes at most one more, at the time of the answer. -/
theorem settle_prolongs (plane : ControlPlane σ κ) (orders : SweepOrders) (visit : Visit σ)
    (sweep : Sweep σ) : sweep.Prolongs (sweep.settle plane orders visit) := by
  obtain ⟨seat, machine, progress⟩ := visit
  cases progress with
  | reading wait kind desired settle =>
    exact settleRead_prolongs plane orders _ wait kind desired (settle sweep.world).1
      ({ sweep with world := (settle sweep.world).2, clock := wait.due }.heard machine
        (settle sweep.world).1)
  | acting wait desired action settle =>
    have settled : ∀ answer world, sweep.Prolongs (settleAction ⟨seat, machine, .acting wait desired
        action settle⟩ desired action answer { sweep with world := world, clock := wait.due }) := by
      intro answer world
      cases answer with
      | ok accepted => exact prolongs_of_eq rfl
      | error error => exact prolongs_of_eq rfl
    exact settled (settle sweep.world).1 (settle sweep.world).2
  | done outcome => exact prolongs_of_eq rfl

/-- A machine that is begun is read now, or not at all. -/
theorem start_prolongs (plane : ControlPlane σ κ) (orders : SweepOrders) (machine : Machine)
    (sweep : Sweep σ) : sweep.Prolongs (sweep.start plane orders machine) := by
  cases known : brief orders plane.controls machine with
  | mk briefing log =>
    rw [Sweep.start, known]
    cases briefing with
    | skip reason => exact prolongs_of_eq rfl
    | read kind desired =>
      refine ⟨[⟨sweep.clock, .read, machine⟩], rfl, ?_⟩
      intro call present
      rw [List.mem_singleton.mp present]
      rfl

/-- A move makes calls only at the time that it comes to. -/
theorem step_prolongs (made : sweep.step plane orders = some moved) : sweep.Prolongs moved := by
  rcases step_cases made with ⟨wait, visit, -, rfl⟩ | proceeded
  · exact settle_prolongs plane orders visit sweep
  · rcases proceed?_cases proceeded with
      ⟨seat, machine, outcome, rest, -, rfl⟩ | ⟨machine, later, -, rfl⟩
    · exact prolongs_of_eq rfl
    · exact start_prolongs plane orders machine { sweep with queue := later }

/-- A move takes back no result. -/
theorem step_taken (made : sweep.step plane orders = some moved) :
    sweep.taken <+: moved.taken := by
  rcases step_cases made with ⟨wait, visit, next, rfl⟩ | proceeded
  · obtain ⟨progress, -, taken, -⟩ := settle_shift plane orders sweep visit (next?_mem next).2
    exact ⟨[], by rw [List.append_nil, taken]⟩
  · rcases proceed?_cases proceeded with
      ⟨seat, machine, outcome, rest, -, rfl⟩ | ⟨machine, later, -, rfl⟩
    · exact List.prefix_append _ _
    · obtain ⟨progress, -, taken, -⟩ :=
        start_shift plane orders { sweep with queue := later } machine
      exact ⟨[], by rw [List.append_nil, taken]⟩

/-- The moves of a sweep take back neither a call nor a result. -/
theorem steps_prefix (plane : ControlPlane σ κ) (orders : SweepOrders) (count : Nat)
    (seated : sweep.Seated) :
    sweep.calls <+: (sweep.steps plane orders count).calls ∧
      sweep.taken <+: (sweep.steps plane orders count).taken := by
  let further (moved : Sweep σ) : Prop := sweep.calls <+: moved.calls ∧ sweep.taken <+: moved.taken
  have begun : further sweep := ⟨List.prefix_rfl, List.prefix_rfl⟩
  have kept : ∀ {earlier later : Sweep σ}, earlier.Seated → further earlier →
      earlier.step plane orders = some later → further later := by
    intro earlier later _ holds made
    obtain ⟨added, calls, -⟩ := step_prolongs made
    have more : earlier.calls <+: later.calls := ⟨added, calls.symm⟩
    exact ⟨holds.1.trans more, holds.2.trans (step_taken made)⟩
  exact steps_keep kept count seated begun

/-- No call is made after the limit. -/
theorem steps_timely (plane : ControlPlane σ κ) (orders : SweepOrders) (count : Nat)
    (seated : sweep.Seated) (within : sweep.clock ≤ orders.limit)
    (timely : ∀ call ∈ sweep.calls, call.time ≤ orders.limit) :
    ∀ call ∈ (sweep.steps plane orders count).calls, call.time ≤ orders.limit := by
  let punctual (moved : Sweep σ) : Prop :=
    moved.clock ≤ orders.limit ∧ ∀ call ∈ moved.calls, call.time ≤ orders.limit
  have kept : ∀ {earlier later : Sweep σ}, earlier.Seated → punctual earlier →
      earlier.step plane orders = some later → punctual later := by
    intro earlier later _ holds made
    obtain ⟨added, calls, now⟩ := step_prolongs made
    have clock := step_clock_le holds.1 made
    refine ⟨clock, ?_⟩
    intro call present
    rw [calls, List.mem_append] at present
    rcases present with before | new
    · exact holds.2 call before
    · rw [now call new]
      exact clock
  have ends : punctual (sweep.steps plane orders count) :=
    steps_keep kept count seated ⟨within, timely⟩
  exact ends.2

/-- A sweep under a later limit goes on from where it ends under an earlier one; when it has taken
every machine there, it ends there as well. -/
theorem run_of_le (plane : ControlPlane σ κ) (orders : SweepOrders) {limit longer : Nat}
    (le : limit ≤ longer) (seated : sweep.Seated) :
    (sweep.run plane (orders.until limit)).calls <+: (sweep.run plane (orders.until longer)).calls ∧
      (sweep.run plane (orders.until limit)).taken <+:
        (sweep.run plane (orders.until longer)).taken ∧
      ((sweep.run plane (orders.until limit)).isComplete = true →
        sweep.run plane (orders.until longer) = sweep.run plane (orders.until limit)) := by
  obtain ⟨rest, onward⟩ := steps_of_le plane orders le sweep.weight sweep
  have cut : (sweep.run plane (orders.until limit)).Seated :=
    steps_keep (fun seated _ made => (step_reaches seated made).2) sweep.weight seated seated
  have kept := steps_prefix plane (orders.until longer) rest cut
  have same : sweep.run plane (orders.until longer) =
      (sweep.run plane (orders.until limit)).steps plane (orders.until longer) rest := onward
  rw [same]
  exact ⟨kept.1, kept.2, fun complete => steps_of_complete complete rest⟩

end Sweep

/-! ## Runs -/

/-- A run does what another one does, up to a limit. -/
structure Run.Truncates (limit : Nat) (short long : Run σ) : Prop where
  /-- Its power calls are the first ones of the other. -/
  calls : short.calls <+: long.calls
  /-- It makes no power call after the limit. -/
  timely : ∀ call ∈ short.calls, call.time ≤ limit
  /-- The results that it counts are the first ones of the other. -/
  outcomes : short.outcomes <+: long.outcomes
  /-- Its failure lines are the first ones of the other. -/
  failures : short.failures <+: long.failures
  /-- Unless it is cut it is the other. -/
  whole : (∀ seconds, short.result ≠ .error (.deadlineExceeded seconds)) → long = short

/-- The failure lines of the first results are the first failure lines. -/
theorem failureLines_prefix {front whole : List (Machine × Outcome)} (first : front <+: whole) :
    failureLines front <+: failureLines whole := by
  obtain ⟨back, rfl⟩ := first
  rw [failureLines_append]
  exact List.prefix_append _ _

/-- A run that fails before any machine is begun has nothing to go before another. -/
theorem Run.truncates_aborted {limit : Nat} {error : RunError} {line : Timeline σ} {long : Run σ}
    (whole : (∀ seconds, error ≠ .deadlineExceeded seconds) → long = aborted error line) :
    Run.Truncates limit (aborted error line) long where
  calls := List.nil_prefix
  timely _ none := absurd none List.not_mem_nil
  outcomes := List.nil_prefix
  failures := List.nil_prefix
  whole uncut := whole fun seconds same => uncut seconds (congrArg Except.error same)

/-- A sweep that begins by its limit does what it does under a later one, up to its limit. -/
theorem Run.truncates_sweepFleet (plane : ControlPlane σ κ) (settings : RunSettings)
    (request : RunRequest) (inventory : Inventory) {line : Timeline σ} {seconds more : Nat}
    (le : seconds ≤ more) (within : line.clock ≤ 1000 * seconds) :
    Run.Truncates (1000 * seconds)
      (sweepFleet plane (settings.until seconds) request inventory line)
      (sweepFleet plane (settings.until more) request inventory line) := by
  have limits : 1000 * seconds ≤ 1000 * more := Nat.mul_le_mul_left 1000 le
  have seated : (opened settings inventory line).Seated := rfl
  obtain ⟨calls, taken, complete⟩ :=
    Sweep.run_of_le plane (settings.orders request inventory) limits seated
  have timely := Sweep.steps_timely plane
    ((settings.orders request inventory).until (1000 * seconds))
    (opened settings inventory line).weight seated within
    fun _ none => absurd none List.not_mem_nil
  exact {
    calls := calls
    timely := timely
    outcomes := taken
    failures := failureLines_prefix taken
    whole := by
      intro uncut
      have ended : ((opened settings inventory line).run plane
          ((settings.orders request inventory).until (1000 * seconds))).isComplete = true := by
        by_contra incomplete
        exact uncut seconds (if_neg incomplete)
      have longer : (opened (settings.until more) inventory line).run plane
            ((settings.until more).orders request inventory) =
          (opened (settings.until seconds) inventory line).run plane
            ((settings.until seconds).orders request inventory) := complete ended
      have shorter : ((opened (settings.until seconds) inventory line).run plane
          ((settings.until seconds).orders request inventory)).isComplete = true := ended
      rw [sweepFleet, sweepFleet, longer]
      simp only [shorter, ↓reduceIte] }

/-- A run does under a limit what it does under every later one, up to that limit: its power calls,
results and failure lines are the first ones of the longer run, no call is made after the limit, and
a run that is not cut is the longer run. -/
theorem later_limit_continues (plane : ControlPlane σ κ) (settings : RunSettings)
    (request : RunRequest) (world : σ) {seconds more : Nat} (le : seconds ≤ more) :
    Run.Truncates (1000 * seconds) (Run.conduct plane (settings.until seconds) request world)
      (Run.conduct plane (settings.until more) request world) := by
  have within := Run.list_clock_le plane (settings.until seconds) request world
  cases listed : Run.list plane (settings.until seconds) request world with
  | mk listing line =>
    rw [listed] at within
    cases listing with
    | error error =>
      rw [Run.conduct_of_unlisted listed]
      refine Run.truncates_aborted fun uncut => ?_
      have relisted :=
        Run.list_of_le le (fun limit same => uncut limit (Except.error.inj same)) listed
      exact Run.conduct_of_unlisted relisted
    | ok inventory =>
      have relisted := Run.list_of_le le (fun limit same => by cases same) listed
      rw [Run.conduct_of_list listed, Run.conduct_of_list relisted]
      exact Run.truncates_sweepFleet plane settings request inventory le within

/-- Under a limit of one second the run is cut after two reads, with the failure of the first
machine; under one of ten seconds it goes on to stop the second machine. -/
theorem later_limit_continues_paired :
    (Run.conduct (pairedPlane "/vm/app02" "/vm/app01").plane (hurriedSettings.until 1)
        mondayRequest []).calls.map (fun call => (call.time, call.text)) =
      [(0, "read /vm/app01"), (0, "read /vm/app02")] ∧
    (Run.conduct (pairedPlane "/vm/app02" "/vm/app01").plane (hurriedSettings.until 1)
        mondayRequest []).stats = { processed := 1, errored := 1 } ∧
    (Run.conduct (pairedPlane "/vm/app02" "/vm/app01").plane (hurriedSettings.until 10)
        mondayRequest []).calls.map (fun call => (call.time, call.text)) =
      [(0, "read /vm/app01"), (0, "read /vm/app02"), (5000, "stop /vm/app02")] ∧
    (Run.conduct (pairedPlane "/vm/app02" "/vm/app01").plane (hurriedSettings.until 10)
        mondayRequest []).stats = { processed := 2, stopped := 1, errored := 1 } ∧
    Run.Truncates 1000
      (Run.conduct (pairedPlane "/vm/app02" "/vm/app01").plane (hurriedSettings.until 1)
        mondayRequest [])
      (Run.conduct (pairedPlane "/vm/app02" "/vm/app01").plane (hurriedSettings.until 10)
        mondayRequest []) := by
  have listed : ∀ seconds, Run.list (pairedPlane "/vm/app02" "/vm/app01").plane
      (hurriedSettings.until seconds) mondayRequest [] =
        (.ok ⟨pairedMachines, []⟩, ⟨[], 0, Run.opening mondayRequest⟩) := fun _ => rfl
  -- Each run is evaluated once, for its calls and its counters together.
  have short : ((Run.conduct (pairedPlane "/vm/app02" "/vm/app01").plane (hurriedSettings.until 1)
        mondayRequest []).calls.map fun call => (call.time, call.text),
      (Run.conduct (pairedPlane "/vm/app02" "/vm/app01").plane (hurriedSettings.until 1)
        mondayRequest []).stats) =
      ([(0, "read /vm/app01"), (0, "read /vm/app02")], { processed := 1, errored := 1 }) := by
    rw [Run.conduct_of_list (listed 1), Run.sweepFleet, Run.opened]
    simp only [paired_roster]
    decide +kernel
  have long : ((Run.conduct (pairedPlane "/vm/app02" "/vm/app01").plane (hurriedSettings.until 10)
        mondayRequest []).calls.map fun call => (call.time, call.text),
      (Run.conduct (pairedPlane "/vm/app02" "/vm/app01").plane (hurriedSettings.until 10)
        mondayRequest []).stats) =
      ([(0, "read /vm/app01"), (0, "read /vm/app02"), (5000, "stop /vm/app02")],
        { processed := 2, stopped := 1, errored := 1 }) := by
    rw [Run.conduct_of_list (listed 10), Run.sweepFleet, Run.opened]
    simp only [paired_roster]
    decide +kernel
  obtain ⟨shortCalls, shortStats⟩ := Prod.mk.inj short
  obtain ⟨longCalls, longStats⟩ := Prod.mk.inj long
  exact ⟨shortCalls, shortStats, longCalls, longStats,
    later_limit_continues (pairedPlane "/vm/app02" "/vm/app01").plane hurriedSettings
      mondayRequest [] (by decide : 1 ≤ 10)⟩

end OffHours
