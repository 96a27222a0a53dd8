import OffHours.Fleet.Memory
import OffHours.Proofs.Fleet.Refinement
import OffHours.Proofs.Fleet.Roster
import OffHours.Proofs.Fleet.Schedules

/-!
# The power calls of a run

What a live run asks of each machine of an inventory of different machines, in terms of the
listed resources, the rules of the tag that counts and the state that was read. `Accounted` ties
the stage of a machine to the calls made on it; no shift of any machine breaks it.
-/

namespace OffHours

variable {σ κ : Type}

/-- The changes of power that the answer to a read calls for. -/
def dueActions (desired : DesiredPower) : Except ApiError PowerState → List PowerAction
  | .error _ => []
  | .ok observed => (planAction desired observed).toList

/-- A machine was read once, and the change of power that the answer calls for was asked for. -/
def Served (orders : SweepOrders) (controls : ResourceKind → Bool) (machine : Machine)
    (ledger : Ledger σ) : Prop :=
  ∃ kind desired answer, (brief orders controls machine).1 = .read kind desired ∧
    answersOn machine.key ledger.answers = [answer] ∧
    callsOn machine.key ledger.calls = .read :: (dueActions desired answer).map .action

/-- What was asked of a machine and heard about it fits its stage. -/
def Accounted (orders : SweepOrders) (controls : ResourceKind → Bool) (machine : Machine)
    (ledger : Ledger σ) : Stage σ → Prop
  | .waiting => callsOn machine.key ledger.calls = [] ∧
      answersOn machine.key ledger.answers = [] ∧ machine.key ∉ ledger.acted
  | .reading kind desired _ => (brief orders controls machine).1 = .read kind desired ∧
      callsOn machine.key ledger.calls = [.read] ∧
      answersOn machine.key ledger.answers = [] ∧ machine.key ∉ ledger.acted
  | .acting _ _ => Served orders controls machine ledger
  | .finished _ => Served orders controls machine ledger ∨
      (∃ reason, (brief orders controls machine).1 = .skip reason) ∧
        callsOn machine.key ledger.calls = []

variable {orders : SweepOrders} {controls : ResourceKind → Bool} {machine : Machine}

/-- What fits a stage is about the machine's own calls, answers and memory. -/
theorem Accounted.of_frame {ledger later : Ledger σ} {stage : Stage σ}
    (frame : Ledger.Frame machine.key ledger later)
    (accounted : Accounted orders controls machine ledger stage) :
    Accounted orders controls machine later stage := by
  cases stage with
  | waiting => simpa [Accounted, frame.calls, frame.answers, frame.acted] using accounted
  | reading kind desired settle =>
    simpa [Accounted, frame.calls, frame.answers, frame.acted] using accounted
  | acting action settle => simpa [Accounted, Served, frame.calls, frame.answers] using accounted
  | finished outcome => simpa [Accounted, Served, frame.calls, frame.answers] using accounted

/-- In a live run the stage of a machine stays accounted for. -/
theorem accounted_lasting (plane : ControlPlane σ κ) (live : orders.simulate = false) :
    Lasting plane orders (Accounted orders plane.controls) where
  own := by
    intro machine ledger old later new moved accounted
    cases moved with
    | skip briefing => exact Or.inr ⟨⟨_, briefing⟩, accounted.1⟩
    | ask time briefing =>
      obtain ⟨calls, answers, unknown⟩ := accounted
      exact ⟨briefing, by simp [calls], answers, unknown⟩
    | @unread kind desired _ error _ answered =>
      obtain ⟨briefing, calls, answers, -⟩ := accounted
      exact Or.inl ⟨kind, desired, .error error, briefing, by simp [answers],
        by simp [calls, dueActions]⟩
    | @compliant kind desired _ observed _ answered plan =>
      obtain ⟨briefing, calls, answers, -⟩ := accounted
      exact Or.inl ⟨kind, desired, .ok observed, briefing, by simp [answers],
        by simp [calls, dueActions, plan]⟩
    | repeated answered plan known =>
      -- With different keys only the machine itself could have been remembered under its key.
      exact absurd known accounted.2.2.2
    | simulated answered plan unknown simulation => simp [live] at simulation
    | @perform kind desired _ observed _ _ time answered plan unknown live =>
      obtain ⟨briefing, calls, answers, -⟩ := accounted
      exact ⟨kind, desired, .ok observed, briefing, by simp [answers],
        by simp [calls, dueActions, plan]⟩
    | settle answered => exact Or.inl accounted
  others moved apart _ accounted := accounted.of_frame (moved.frame apart)

/-- The changes of power that are asked of a machine after its read was answered: a stop when
shutdown is due and the machine is not deallocated, a start when none is due and the machine is
neither running nor about to, and nothing else. -/
structure ActionsDue (shutdown : Prop) (answer : Except ApiError PowerState)
    (actions : List PowerAction) : Prop where
  /-- When a stop is asked for. -/
  stop : actions = [.stop] ↔ ∃ state, answer = .ok state ∧ shutdown ∧ state ≠ .deallocated
  /-- When a start is asked for. -/
  start : actions = [.start] ↔
    ∃ state, answer = .ok state ∧ ¬ shutdown ∧ state ≠ .running ∧ state ≠ .starting
  /-- Nothing else is asked for. -/
  only : actions = [] ∨ actions = [.stop] ∨ actions = [.start]

/-- The power calls on a machine, given the answers to its reads: none when no schedule counts
for it or its power cannot be controlled; else one read and what is due after its answer. -/
structure CallsDue (tagKey : String) (groups : List ResourceGroup) (now : Instant)
    (controls : ResourceKind → Bool) (machine : Machine)
    (answers : List (Except ApiError PowerState)) (calls : List PowerCallKind) : Prop where
  /-- Without a schedule there are no calls. -/
  unscheduled : (∀ tag, ¬ Scheduled tagKey groups machine tag) → calls = []
  /-- Without a control there are no calls. -/
  uncontrolled : ¬ machine.Controlled controls → calls = []
  /-- With both there is one read, and after its answer the changes of power that are due. -/
  scheduled : ∀ tag, Scheduled tagKey groups machine tag → machine.Controlled controls →
    ∃ answer actions, answers = [answer] ∧ calls = .read :: actions.map .action ∧
      ActionsDue (ShutdownDue tag now) answer actions

/-- The planned changes of power are those that are due under the verdict of the tag. -/
theorem actionsDue_of_verdict (tag : String) (now : Instant)
    (answer : Except ApiError PowerState) :
    ActionsDue (ShutdownDue tag now) answer
      (dueActions (.ofVerdict (verdict tag now).1) answer) := by
  obtain ⟨off, on⟩ := desired_of_verdict tag now
  by_cases due : ShutdownDue tag now
  · rw [off due]
    cases answer with
    | error error => constructor <;> simp [dueActions]
    | ok state => constructor <;> cases state <;> simp [dueActions, planAction, due]
  · rw [on due]
    cases answer with
    | error error => constructor <;> simp [dueActions]
    | ok state =>
      constructor <;> cases state <;> simp [dueActions, planAction, PowerState.isUp, due]

/-- When a machine is done, the calls on it are those due. -/
theorem Accounted.callsDue {groups : List ResourceGroup} {ledger : Ledger σ} {outcome : Outcome}
    (table : orders.groups = GroupSchedules.ofGroups groups orders.tagKey)
    (distinct : (groups.map fun group => Text.fold group.name).Nodup)
    (accounted : Accounted orders controls machine ledger (.finished outcome)) :
    CallsDue orders.tagKey groups orders.now controls machine
      (answersOn machine.key ledger.answers) (callsOn machine.key ledger.calls) := by
  have skipped : (∃ reason, (brief orders controls machine).1 = .skip reason) →
      callsOn machine.key ledger.calls = [] := by
    rintro ⟨reason, skip⟩
    rcases accounted with ⟨kind, desired, answer, read, -⟩ | ⟨-, none⟩
    · simp [skip] at read
    · exact none
  constructor
  · intro unscheduled
    exact skipped ⟨_, brief_of_unscheduled table distinct unscheduled⟩
  · intro uncontrolled
    exact skipped (brief_of_uncontrolled uncontrolled)
  · intro tag scheduled controlled
    obtain ⟨kind, due⟩ := brief_of_scheduled table distinct scheduled controlled
    rcases accounted with ⟨family, desired, answer, read, heard, calls⟩ | ⟨⟨reason, skip⟩, -⟩
    · rw [due] at read
      simp only [Briefing.read.injEq] at read
      obtain ⟨rfl, rfl⟩ := read
      exact ⟨answer, _, heard, calls, actionsDue_of_verdict tag orders.now answer⟩
    · simp [due] at skip

/-- A live run that is not cut calls only listed machines, and makes on each of them exactly the
power calls that are due, when no two machines have one key and no two groups one name. -/
theorem live_run_calls_due (plane : ControlPlane σ κ) (settings : RunSettings)
    (request : RunRequest) (world : σ) (inventory : Inventory) (line : Timeline σ)
    (listed : Run.list plane settings request world = (.ok inventory, line))
    (machines : (inventory.machines.map Machine.key).Nodup)
    (groups : (inventory.groups.map fun group => Text.fold group.name).Nodup)
    (live : request.simulate = false)
    (finished : (Run.conduct plane settings request world).result = .ok ()) :
    (∀ call ∈ (Run.conduct plane settings request world).calls,
      call.machine ∈ inventory.machines) ∧
    ∀ machine ∈ inventory.machines,
      CallsDue settings.tagKey inventory.groups request.now plane.controls machine
        (answersOn machine.key (Run.conduct plane settings request world).answers)
        (callsOn machine.key (Run.conduct plane settings request world).calls) := by
  have lasting : Lasting plane (settings.orders request inventory)
      (Accounted (settings.orders request inventory) plane.controls) :=
    accounted_lasting plane live
  have waiting : ∀ machine ∈ inventory.machines,
      Accounted (settings.orders request inventory) plane.controls machine
        { world := line.world } .waiting :=
    fun machine _ => ⟨rfl, rfl, List.not_mem_nil⟩
  obtain ⟨kept, ledger, calls, answers, -, onListed, accounted⟩ :=
    Run.finished_lasting listed finished machines lasting waiting
  rw [calls, answers]
  refine ⟨onListed, ?_⟩
  intro machine present
  obtain ⟨outcome, taken⟩ := Run.exists_outcome kept machines present
  exact (accounted (machine, outcome) taken).callsDue rfl groups

/-- Machines with a tag of their own, with that of their group, with none and without a
registered control. -/
def mondayInventory : Inventory where
  machines :=
    [⟨"/vm/app", "app", "web", "Microsoft.Compute/virtualMachines",
        [("OFF", "Monday 6PM -> 11PM")]⟩,
      ⟨"/vm/bare", "bare", "misc", "Microsoft.Compute/virtualMachines", []⟩,
      ⟨"/vm/cache", "cache", "web", "Microsoft.Compute/virtualMachines", [("off", "Monday")]⟩,
      ⟨"/vm/db", "db", "DATA", "microsoft.compute/virtualmachines", []⟩,
      ⟨"/vm/old", "old", "web", "Microsoft.ClassicCompute/virtualMachines", [("off", "Monday")]⟩]
  groups := [⟨"Data", [("Off", "Saturday, no rule")]⟩, ⟨"web", []⟩]

/-- A control plane for these machines, with one machine that cannot be read. -/
def mondayPlane : MemoryPlane where
  machines := mondayInventory.machines
  groups := mondayInventory.groups
  unfilteredGroups := true
  behaviour id :=
    if id = "/vm/cache" then { readError := some ⟨.transient, "read", id, "throttled"⟩ }
    else { readDelay := 7, actionDelay := 3 }
  controls kind := kind == .compute

/-- Up to two machines are in progress at once. -/
def mondaySettings : RunSettings := { tagKey := "off", width := 2 }

/-- A live run on a Monday evening. -/
def mondayRequest : RunRequest where
  id := "monday"
  now := { date := ⟨2026, 10, 12, rfl⟩, hour := 20, minute := 0, second := 0 }
  simulate := false

/-- The power states before the run. -/
def mondayPowers : PowerTable := [("/vm/app", .running), ("/vm/db", .deallocated)]

/-- On a Monday evening one machine is stopped, one is started, one cannot be read, and two are
left alone. -/
theorem monday_calls_due :
    mondayInventory.machines.map (fun machine => callsOn machine.key
        (Run.conduct mondayPlane.plane mondaySettings mondayRequest mondayPowers).calls) =
      [[.read, .action .stop], [], [.read], [.read, .action .start], []] ∧
    ∀ machine ∈ mondayInventory.machines,
      CallsDue mondaySettings.tagKey mondayInventory.groups mondayRequest.now
        mondayPlane.plane.controls machine
        (answersOn machine.key
          (Run.conduct mondayPlane.plane mondaySettings mondayRequest mondayPowers).answers)
        (callsOn machine.key
          (Run.conduct mondayPlane.plane mondaySettings mondayRequest mondayPowers).calls) := by
  have listed : Run.list mondayPlane.plane mondaySettings mondayRequest mondayPowers =
      (.ok mondayInventory, ⟨mondayPowers, 0, Run.opening mondayRequest⟩) := rfl
  have kept : roster mondayInventory.machines = mondayInventory.machines :=
    (roster_of_sorted (by decide +kernel)).trans (by decide +kernel)
  -- The run is evaluated once, for its result and its calls together.
  have ended : ((Run.conduct mondayPlane.plane mondaySettings mondayRequest mondayPowers).result,
      mondayInventory.machines.map fun machine => callsOn machine.key
        (Run.conduct mondayPlane.plane mondaySettings mondayRequest mondayPowers).calls) =
      (.ok (), [[.read, .action .stop], [], [.read], [.read, .action .start], []]) := by
    rw [Run.conduct_of_list listed, Run.sweepFleet, Run.opened]
    simp only [kept]
    decide +kernel
  obtain ⟨finished, calls⟩ := Prod.mk.inj ended
  have due := live_run_calls_due mondayPlane.plane mondaySettings mondayRequest mondayPowers
    mondayInventory _ listed (by decide +kernel) (by decide +kernel) rfl finished
  exact ⟨calls, due.2⟩

end OffHours
