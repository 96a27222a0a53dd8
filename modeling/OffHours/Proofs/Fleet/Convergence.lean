import OffHours.Proofs.Fleet.PowerCalls
import OffHours.Proofs.Fleet.PowerStates
import OffHours.Proofs.Fleet.SingleAction

/-!
# Runs converge

After a live run on a faithful control plane every machine with a schedule and a control whose
calls did not fail is in a power state that suits it: its schedule calls for no change. In
further runs that find the same verdict such a machine is left alone. `Converging` carries the
first along a course, `Resting` the second, and `Run.rests` needs no run to end before its
limit.
-/

namespace OffHours

variable {σ κ : Type}

/-- The power state that a change leads to calls for no further change. -/
theorem planAction_result {desired : DesiredPower} {observed : PowerState} {action : PowerAction}
    (plan : planAction desired observed = some action) :
    planAction desired action.result = none := by
  cases desired with
  | started =>
    simp only [planAction] at plan
    split at plan
    · simp at plan
    · cases plan
      rfl
  | deallocated =>
    simp only [planAction] at plan
    split at plan
    · simp at plan
    · cases plan
      rfl

/-- A power state suits a machine: its schedule, if it has one and a control, calls for no
change. -/
def Suits (orders : SweepOrders) (controls : ResourceKind → Bool) (machine : Machine)
    (power : PowerState) : Prop :=
  ∀ kind desired, (brief orders controls machine).1 = .read kind desired →
    planAction desired power = none

/-- A read in progress is the one that the machine is briefed for, and was asked for in a power
state; no change of power is in progress. -/
def Stage.ReadIn (orders : SweepOrders) (plane : ControlPlane σ κ)
    (state : Machine → σ → PowerState) (machine : Machine) (power : PowerState) : Stage σ → Prop
  | .reading kind desired settle => (brief orders plane.controls machine).1 = .read kind desired ∧
      ∃ made, settle = (plane.power kind machine made).settle ∧ state machine made = power
  | .acting _ _ => False
  | .waiting | .finished _ => True

/-- A machine with only such a read in progress is not being changed. -/
theorem Stage.ReadIn.passive {orders : SweepOrders} {plane : ControlPlane σ κ}
    {state : Machine → σ → PowerState} {machine : Machine} {power : PowerState} {stage : Stage σ}
    (read : stage.ReadIn orders plane state machine power) : stage.Passive plane machine := by
  cases stage with
  | acting action settle => exact absurd read id
  | reading kind desired settle =>
    obtain ⟨-, made, asked, -⟩ := read
    exact ⟨made, asked⟩
  | waiting | finished outcome => trivial

/-- On the way of a live course a machine comes into a power state that suits it, unless a call
on it fails. -/
def Converging (orders : SweepOrders) (plane : ControlPlane σ κ)
    (state : Machine → σ → PowerState) (machine : Machine) (ledger : Ledger σ) : Stage σ → Prop
  | .waiting => machine.key ∉ ledger.acted
  | .reading kind desired settle => machine.key ∉ ledger.acted ∧
      (Stage.reading kind desired settle).ReadIn orders plane state machine
        (state machine ledger.world)
  | .acting action settle => Suits orders plane.controls machine action.result ∧
      (Stage.acting action settle).Issued plane machine
  | .finished outcome => (∃ error, outcome = .errored error) ∨
      Suits orders plane.controls machine (state machine ledger.world)

/-- A machine whose power state suits it is only read, and keeps its power state. -/
structure Resting (orders : SweepOrders) (plane : ControlPlane σ κ)
    (state : Machine → σ → PowerState) (power : PowerState) (machine : Machine)
    (ledger : Ledger σ) (stage : Stage σ) : Prop where
  /-- A read in progress was asked for in that power state. -/
  read : stage.ReadIn orders plane state machine power
  /-- The power state is the same as ever. -/
  same : state machine ledger.world = power
  /-- No change of power was asked for. -/
  idle : actionsOn machine.key ledger.calls = []

variable {plane : ControlPlane σ κ} {orders : SweepOrders} {state : Machine → σ → PowerState}
  {machine : Machine}

/-- A machine that is read for a desired power state is suited by exactly the power states that
call for no change to it. -/
theorem suits_iff {controls : ResourceKind → Bool} {kind : ResourceKind} {desired : DesiredPower}
    {power : PowerState} (briefing : (brief orders controls machine).1 = .read kind desired) :
    Suits orders controls machine power ↔ planAction desired power = none := by
  constructor
  · intro suits
    exact suits kind desired briefing
  · intro plan other wanted same
    rw [briefing] at same
    obtain ⟨rfl, rfl⟩ := Briefing.read.inj same
    exact plan

/-- In a run a machine with a schedule and a control is suited by exactly the power states that
call for no change under the verdict of its tag. -/
theorem Run.suits_iff {settings : RunSettings} {request : RunRequest} {inventory : Inventory}
    {controls : ResourceKind → Bool} {schedule : EffectiveSchedule} {power : PowerState}
    (scheduled : EffectiveSchedule.resolve? machine
      (GroupSchedules.ofGroups inventory.groups settings.tagKey) settings.tagKey = some schedule)
    (controlled : machine.Controlled controls) :
    Suits (settings.orders request inventory) controls machine power ↔
      planAction (.ofVerdict (verdict schedule.tag request.now).1) power = none := by
  have resolved : EffectiveSchedule.resolve? machine
      (settings.orders request inventory).groups (settings.orders request inventory).tagKey =
        some schedule := scheduled
  obtain ⟨kind, briefing⟩ := brief_of_resolved resolved controlled
  rw [OffHours.suits_iff briefing, RunSettings.orders]

/-- Calls in progress on a converging machine were made for it. -/
theorem Converging.issued {ledger : Ledger σ} {stage : Stage σ}
    (converging : Converging orders plane state machine ledger stage) :
    stage.Issued plane machine := by
  cases stage with
  | waiting | finished outcome => trivial
  | reading kind desired settle => exact converging.2.passive.issued
  | acting action settle => exact converging.2

/-- In a live course of different machines each of them converges. -/
theorem converging_lasting (faithful : plane.Faithful state) (live : orders.simulate = false) :
    Lasting plane orders (Converging orders plane state) where
  own := by
    have undisturbed := faithful.toUndisturbed
    intro machine ledger old later new moved converging
    cases moved with
    | skip briefing =>
      right
      intro kind desired read
      rw [briefing] at read
      cases read
    | @ask kind desired time briefing =>
      refine ⟨converging, briefing, ledger.world, rfl, ?_⟩
      exact ((faithful.power kind machine machine).made ledger.world).symm
    | unread answered => exact Or.inl ⟨_, rfl⟩
    | @compliant kind desired settle observed world answered plan =>
      obtain ⟨-, briefing, made, asked, before⟩ := converging
      have found := undisturbed.observed_eq ⟨made, asked, before⟩ rfl answered
      have left := undisturbed.read_state ⟨made, asked⟩ answered machine
      right
      rw [Ledger.heard_world, left, suits_iff briefing, ← found]
      exact plan
    | repeated answered plan known => exact absurd known converging.1
    | simulated answered plan unknown simulation => simp [live] at simulation
    | @perform kind desired settle observed action world time answered plan unknown live =>
      obtain ⟨-, briefing, -⟩ := converging
      exact ⟨(suits_iff briefing).mpr (planAction_result plan), _, _, rfl⟩
    | @settle action settle answer world answered =>
      obtain ⟨suits, issued⟩ := converging
      cases answer with
      | error error => exact Or.inl ⟨error, rfl⟩
      | ok done =>
        right
        rw [Ledger.settled_world, faithful.act_result issued answered]
        exact suits
  others := by
    intro machine other ledger old later new stage moved apart ours converging
    have same := moved.state_eq faithful.toUndisturbed ours.issued apart
    have acted := (moved.frame apart).acted
    cases stage with
    | waiting => simpa [Converging, acted] using converging
    | reading kind desired settle => simpa [Converging, acted, same] using converging
    | acting action settle => exact converging
    | finished outcome => simpa [Converging, same] using converging

/-- A machine at rest stays at rest through its own moves. -/
theorem Resting.own {power : PowerState} {ledger later : Ledger σ} {old new : Stage σ}
    (undisturbed : plane.Undisturbed state) (suits : Suits orders plane.controls machine power)
    (moved : Shift plane orders machine ledger old later new)
    (resting : Resting orders plane state power machine ledger old) :
    Resting orders plane state power machine later new := by
  obtain ⟨read, same, idle⟩ := resting
  have calm : ∀ action settle, new ≠ .acting action settle := by
    intro action settle
    cases moved with
    | @perform kind desired _ observed _ _ _ answered plan _ _ =>
      -- What is observed is the power state that suits the machine, so no change is planned.
      obtain ⟨briefing, asked⟩ := read
      have found := undisturbed.observed_eq asked same answered
      rw [found, suits kind desired briefing] at plan
      cases plan
    | _ => simp
  obtain ⟨-, states, calls⟩ := moved.passive undisturbed read.passive calm
  refine ⟨?_, (states machine).trans same, ?_⟩
  · cases moved with
    | skip | unread | compliant | repeated | simulated | settle => trivial
    | @ask kind desired time briefing =>
      exact ⟨briefing, ledger.world, rfl, same⟩
    | perform => exact absurd rfl (calm _ _)
  · rcases calls with none | ⟨time, asked⟩
    · rw [none, idle]
    · rw [asked, actionsOn_append, idle, actionsOn_singleton]
      simp [PowerCallKind.action?]

/-- In a course of different machines each one whose power state suits it stays at rest. -/
theorem resting_lasting (undisturbed : plane.Undisturbed state) (orders : SweepOrders)
    (power : Machine → PowerState) :
    Lasting plane orders fun machine ledger stage => stage.Issued plane machine ∧
      (Suits orders plane.controls machine (power machine) →
        Resting orders plane state (power machine) machine ledger stage) where
  own moved resting :=
    ⟨moved.issued, fun suits => (resting.2 suits).own undisturbed suits moved⟩
  others := by
    intro machine other ledger old later new stage moved apart ours resting
    refine ⟨resting.1, ?_⟩
    intro suits
    obtain ⟨read, same, idle⟩ := resting.2 suits
    have kept := moved.state_eq undisturbed ours.1 apart
    have calls := (moved.frame apart).calls
    refine ⟨read, kept.trans same, ?_⟩
    rw [actionsOn, calls]
    exact idle

namespace Run

variable {settings : RunSettings} {request : RunRequest} {world : σ} {inventory : Inventory}

/-- A run over an inventory of different machines, cut or not, asks for no change of power of a
machine whose power state suits it, and leaves that power state. -/
theorem rests (undisturbed : plane.Undisturbed state)
    (listing : ∀ found, (list plane settings request world).1 = .ok found → found = inventory)
    (distinct : (inventory.machines.map Machine.key).Nodup)
    (present : machine ∈ inventory.machines)
    (suits : Suits (settings.orders request inventory) plane.controls machine
      (state machine world)) :
    actionsOn machine.key (conduct plane settings request world).calls = [] ∧
      state machine (conduct plane settings request world).line.world = state machine world := by
  have kept := list_state undisturbed settings request world
  cases listed : list plane settings request world with
  | mk listing' line =>
    rw [listed] at kept listing
    cases listing' with
    | error error =>
      rw [conduct_of_unlisted listed]
      exact ⟨rfl, kept machine⟩
    | ok found =>
      obtain rfl := listing found rfl
      obtain ⟨last, reached, calls, -, left, -⟩ :=
        sweepFleet_reaches plane settings request found line
      rw [conduct_of_list listed, calls, left]
      have lasting := resting_lasting undisturbed (settings.orders request found)
        fun target => state target world
      have resting := roster_lasting reached distinct lasting
        fun target _ => ⟨trivial, fun _ => ⟨trivial, kept target, rfl⟩⟩
      -- The machine is on the roster, so some stage of the course is its own.
      have onRoster : machine ∈ last.stages.map Prod.fst := by
        rw [reached.machines, Course.start_machines]
        exact (roster_perm distinct).mem_iff.mpr present
      obtain ⟨entry, inStages, rfl⟩ := List.mem_map.mp onRoster
      obtain ⟨-, same, idle⟩ := (resting entry inStages).2 suits
      exact ⟨idle, same⟩

/-- A machine of the inventory has a schedule and a control, and no call on it failed in a run. -/
structure Managed (plane : ControlPlane σ κ) (settings : RunSettings) (inventory : Inventory)
    (run : Run σ) (machine : Machine) (schedule : EffectiveSchedule) : Prop where
  /-- The machine is listed. -/
  listed : machine ∈ inventory.machines
  /-- The schedule is the one that counts for it. -/
  scheduled : EffectiveSchedule.resolve? machine
    (GroupSchedules.ofGroups inventory.groups settings.tagKey) settings.tagKey = some schedule
  /-- Its power can be controlled. -/
  controlled : machine.Controlled plane.controls
  /-- It is not among the machines with a failed call. -/
  unfailed : ∀ error, (machine, .errored error) ∉ run.outcomes

end Run

/-- Runs one after another over one inventory and for one schedule tag, each with a request and
settings of its own. A run begins with the power states that the one before it left: nobody else
changes them. -/
inductive RunSeries (plane : ControlPlane σ κ) (state : Machine → σ → PowerState)
    (tagKey : String) (inventory : Inventory) : σ → List (RunRequest × Run σ) → Prop where
  /-- No further run. -/
  | done {world : σ} : RunSeries plane state tagKey inventory world []
  /-- A run, and the runs after it. -/
  | next {world later : σ} {rest : List (RunRequest × Run σ)} (settings : RunSettings)
      (request : RunRequest) (key : settings.tagKey = tagKey)
      (untouched : ∀ machine, state machine later = state machine world)
      (listing : ∀ found, (Run.list plane settings request later).1 = .ok found →
        found = inventory)
      (further : RunSeries plane state tagKey inventory
        (Run.conduct plane settings request later).line.world rest) :
      RunSeries plane state tagKey inventory world
        ((request, Run.conduct plane settings request later) :: rest)

/-- Through a series of runs that find one verdict for a machine, and no change due under it, the
machine is left alone. -/
theorem RunSeries.rests {tagKey : String} {inventory : Inventory} {world : σ}
    {series : List (RunRequest × Run σ)} {schedule : EffectiveSchedule} {shutdown : Bool}
    (undisturbed : plane.Undisturbed state)
    (distinct : (inventory.machines.map Machine.key).Nodup) (present : machine ∈ inventory.machines)
    (scheduled : EffectiveSchedule.resolve? machine
      (GroupSchedules.ofGroups inventory.groups tagKey) tagKey = some schedule)
    (controlled : machine.Controlled plane.controls)
    (runs : RunSeries plane state tagKey inventory world series)
    (verdicts : ∀ entry ∈ series, (verdict schedule.tag entry.1.now).1 = shutdown)
    (plan : planAction (.ofVerdict shutdown) (state machine world) = none) :
    ∀ entry ∈ series, actionsOn machine.key entry.2.calls = [] ∧
      state machine entry.2.line.world = state machine world := by
  induction runs with
  | done => simp
  | @next world later rest settings request key untouched listing further hypothesis =>
    subst key
    have found := verdicts (request, Run.conduct plane settings request later) List.mem_cons_self
    dsimp only at found
    have suits : Suits (settings.orders request inventory) plane.controls machine
        (state machine later) := by
      rw [Run.suits_iff scheduled controlled, untouched machine, found]
      exact plan
    obtain ⟨idle, same⟩ := Run.rests undisturbed listing distinct present suits
    have kept := same.trans (untouched machine)
    intro entry member
    rcases List.mem_cons.mp member with rfl | after
    · exact ⟨idle, kept⟩
    · have settled := hypothesis
        (fun entry inRest => verdicts entry (List.mem_cons_of_mem _ inRest))
        (by rw [kept]; exact plan) entry after
      exact ⟨settled.1, settled.2.trans kept⟩

/-- A live run on a faithful control plane that is not cut brings every machine of an inventory
of different machines that has a schedule and a control, and no failed call, into a power state
that calls for no change; and no series of further runs that find the same verdict for it asks
for a change of its power or alters it. -/
theorem runs_converge (plane : ControlPlane σ κ) (state : Machine → σ → PowerState)
    (faithful : plane.Faithful state) (settings : RunSettings) (request : RunRequest) (world : σ)
    (inventory : Inventory) (line : Timeline σ)
    (listed : Run.list plane settings request world = (.ok inventory, line))
    (distinct : (inventory.machines.map Machine.key).Nodup) (live : request.simulate = false)
    (finished : (Run.conduct plane settings request world).result = .ok ()) :
    ∀ machine schedule,
      Run.Managed plane settings inventory (Run.conduct plane settings request world) machine
        schedule →
      planAction (.ofVerdict (verdict schedule.tag request.now).1)
        (state machine (Run.conduct plane settings request world).line.world) = none ∧
      ∀ series, RunSeries plane state settings.tagKey inventory
          (Run.conduct plane settings request world).line.world series →
        (∀ entry ∈ series,
          (verdict schedule.tag entry.1.now).1 = (verdict schedule.tag request.now).1) →
        ∀ entry ∈ series, actionsOn machine.key entry.2.calls = [] ∧
          state machine entry.2.line.world =
            state machine (Run.conduct plane settings request world).line.world := by
  intro machine schedule managed
  have lasting : Lasting plane (settings.orders request inventory)
      (Converging (settings.orders request inventory) plane state) :=
    converging_lasting faithful live
  obtain ⟨kept, ledger, -, -, left, -, converged⟩ := Run.finished_lasting listed finished distinct
    lasting (fun _ _ => List.not_mem_nil)
  obtain ⟨outcome, taken⟩ := Run.exists_outcome kept distinct managed.listed
  have suits : Suits (settings.orders request inventory) plane.controls machine
      (state machine (Run.conduct plane settings request world).line.world) := by
    rw [left]
    rcases converged (machine, outcome) taken with ⟨error, rfl⟩ | suits
    · exact absurd taken (managed.unfailed error)
    · exact suits
  have plan : planAction (.ofVerdict (verdict schedule.tag request.now).1)
      (state machine (Run.conduct plane settings request world).line.world) = none :=
    (Run.suits_iff managed.scheduled managed.controlled).mp suits
  refine ⟨plan, ?_⟩
  intro series runs verdicts
  exact runs.rests faithful.toUndisturbed distinct managed.listed managed.scheduled
    managed.controlled verdicts plan

/-- The machine of the Monday inventory that is to be shut down in the evening. -/
def eveningMachine : Machine :=
  ⟨"/vm/app", "app", "web", "Microsoft.Compute/virtualMachines", [("OFF", "Monday 6PM -> 11PM")]⟩

/-- A live run later that evening. -/
def secondRequest : RunRequest where
  id := "again"
  now := (Instant.ofNumbers? 2026 10 12 21 30 0).getD mondayRequest.now
  simulate := false

/-- A simulated run a week later. -/
def thirdRequest : RunRequest where
  id := "later"
  now := (Instant.ofNumbers? 2026 10 19 18 0 59).getD mondayRequest.now
  simulate := true

/-- The run on Monday evening. -/
def firstRun : Run PowerTable :=
  Run.conduct mondayPlane.plane mondaySettings mondayRequest mondayPowers

/-- The run after it, with five machines at once. -/
def secondRun : Run PowerTable :=
  Run.conduct mondayPlane.plane { mondaySettings with width := 5 } secondRequest
    firstRun.line.world

/-- The run a week later. -/
def thirdRun : Run PowerTable :=
  Run.conduct mondayPlane.plane mondaySettings thirdRequest secondRun.line.world

/-- The run on Monday evening brings the machine, which was running, into a power state that
suits its tag, and the two runs after it do not touch it. -/
theorem monday_runs_converge :
    Run.Managed mondayPlane.plane mondaySettings mondayInventory firstRun eveningMachine
        ⟨"Monday 6PM -> 11PM", .direct⟩ ∧
      planAction (.ofVerdict (verdict "Monday 6PM -> 11PM" mondayRequest.now).1)
        (mondayPowers.state "/vm/app") = some .stop ∧
      planAction (.ofVerdict (verdict "Monday 6PM -> 11PM" mondayRequest.now).1)
        (firstRun.line.world.state "/vm/app") = none ∧
      ∀ entry ∈ [(secondRequest, secondRun), (thirdRequest, thirdRun)],
        actionsOn eveningMachine.key entry.2.calls = [] ∧
          entry.2.line.world.state "/vm/app" = firstRun.line.world.state "/vm/app" := by
  have listed : Run.list mondayPlane.plane mondaySettings mondayRequest mondayPowers =
      (.ok mondayInventory, ⟨mondayPowers, 0, Run.opening mondayRequest⟩) := rfl
  have kept : roster mondayInventory.machines = mondayInventory.machines :=
    (roster_of_sorted (by decide +kernel)).trans (by decide +kernel)
  -- The run is evaluated once, for its result and its failures together.
  have ended : (firstRun.result, decide (∀ result ∈ firstRun.outcomes,
      result.1 = eveningMachine → result.2 = .reconciled (some .stop))) = (.ok (), true) := by
    rw [firstRun, Run.conduct_of_list listed, Run.sweepFleet, Run.opened]
    simp only [kept]
    decide +kernel
  obtain ⟨finished, stopped⟩ := Prod.mk.inj ended
  have managed : Run.Managed mondayPlane.plane mondaySettings mondayInventory firstRun
      eveningMachine ⟨"Monday 6PM -> 11PM", .direct⟩ := by
    refine ⟨by decide +kernel, by decide +kernel, ⟨.compute, by decide +kernel, rfl⟩, ?_⟩
    intro error failed
    have outcome := of_decide_eq_true stopped _ failed rfl
    cases outcome
  have series : RunSeries mondayPlane.plane (fun machine table => table.state machine.id) "off"
      mondayInventory firstRun.line.world
      [(secondRequest, secondRun), (thirdRequest, thirdRun)] := by
    refine .next _ _ rfl (fun _ => rfl) ?_ (.next _ _ rfl (fun _ => rfl) ?_ .done)
    · intro found same
      exact (Except.ok.inj same).symm
    · intro found same
      exact (Except.ok.inj same).symm
  have converged := runs_converge mondayPlane.plane _ mondayPlane.faithful mondaySettings
    mondayRequest mondayPowers mondayInventory _ listed (by decide +kernel) rfl finished
    eveningMachine _ managed
  refine ⟨managed, by decide +kernel, converged.1, ?_⟩
  exact converged.2 _ series (by decide +kernel)

end OffHours
