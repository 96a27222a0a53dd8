import Mathlib.Data.List.Nodup
import Mathlib.Data.List.Perm.Basic
import OffHours.Fleet.Memory
import OffHours.Proofs.Fleet.Roster
import OffHours.Proofs.Fleet.Schedules
import OffHours.Proofs.Fleet.Simulation

/-!
# The order of the inventory

An inventory may come in any order, and with groups that do not carry the tag. Machines of which
no two have one name and one id are sorted in one way only; a table of groups with different names
finds the same tags however it was filled; and nothing else of an inventory is looked at. So two
runs over one inventory in two orders are the same but for what identifies them, cut or not:
`rearranged_run_unchanged`.
-/

namespace OffHours

variable {σ κ α : Type}

/-! ## Machines in another order -/

/-- Machines of which no two have one name and one id are sorted in one way only. -/
theorem mergeSort_eq_of_perm {left right : List Machine} (same : left.Perm right)
    (distinct : (left.map fun machine => (machine.name, machine.id)).Nodup) :
    left.mergeSort Machine.precedes = right.mergeSort Machine.precedes := by
  have sorted : (left.mergeSort Machine.precedes).Perm (right.mergeSort Machine.precedes) :=
    ((List.mergeSort_perm _ _).trans same).trans (List.mergeSort_perm _ _).symm
  refine List.Perm.eq_of_pairwise ?_ (sorted_rank left) (sorted_rank right) sorted
  intro first second begins ends before after
  have level : (first.name, first.id) = (second.name, second.id) :=
    toLex_inj.mp (le_antisymm before after)
  have listed : second ∈ left := same.mem_iff.mpr (List.mem_mergeSort.mp ends)
  exact List.inj_on_of_nodup_map distinct (List.mem_mergeSort.mp begins) listed level

/-- Their roster is the same in whatever order they are listed. -/
theorem roster_eq_of_perm {left right : List Machine} (same : left.Perm right)
    (distinct : (left.map fun machine => (machine.name, machine.id)).Nodup) :
    roster left = roster right := by
  rw [roster, mergeSort_eq_of_perm same distinct, roster]

/-! ## Groups in another order -/

/-- Whether a group carries a tag. -/
def ResourceGroup.carries (tagKey : String) (group : ResourceGroup) : Bool :=
  (group.tags.value? tagKey).isSome

namespace GroupSchedules

/-- The entry of a group in a table, if it carries the tag. -/
def ofGroup? (tagKey : String) (group : ResourceGroup) : Option (String × String) :=
  (group.tags.value? tagKey).map fun tag => (Text.fold group.name, tag)

/-- A tag under a new name comes last. -/
theorem insert_of_fresh {table : GroupSchedules} {name : String} (tag : String)
    (fresh : name ∉ table.map Prod.fst) : table.insert name tag = table ++ [(name, tag)] := by
  rw [insert, List.filter_eq_self.mpr]
  intro entry present
  have other : entry.1 ≠ name := fun same => fresh (List.mem_map.mpr ⟨entry, present, same⟩)
  simpa using other

/-- Groups whose names are new and different are put in one after the other. -/
theorem foldl_add_eq {tagKey : String} {groups : List ResourceGroup} {table : GroupSchedules}
    (distinct : ((table ++ groups.filterMap (ofGroup? tagKey)).map Prod.fst).Nodup) :
    groups.foldl (add tagKey) table = table ++ groups.filterMap (ofGroup? tagKey) := by
  -- The names in the table and those to come stay different, so no tag replaces an earlier one.
  induction groups generalizing table with
  | nil => simp
  | cons group rest hypothesis =>
    rw [List.foldl_cons]
    cases tagged : group.tags.value? tagKey with
    | none =>
      have skipped : (group :: rest).filterMap (ofGroup? tagKey) =
          rest.filterMap (ofGroup? tagKey) := List.filterMap_cons_none (by simp [ofGroup?, tagged])
      rw [skipped] at distinct ⊢
      rw [add, tagged]
      exact hypothesis distinct
    | some tag =>
      have taken : (group :: rest).filterMap (ofGroup? tagKey) =
          (Text.fold group.name, tag) :: rest.filterMap (ofGroup? tagKey) :=
        List.filterMap_cons_some (by simp [ofGroup?, tagged])
      rw [taken] at distinct ⊢
      have fresh : Text.fold group.name ∉ table.map Prod.fst := by
        rw [List.map_append, List.nodup_append] at distinct
        intro present
        exact distinct.2.2 _ present _ (by simp) rfl
      have added : add tagKey table group = table ++ [(Text.fold group.name, tag)] := by
        rw [add, tagged]
        exact insert_of_fresh tag fresh
      rw [List.append_cons _ _ (rest.filterMap _)] at distinct ⊢
      rw [added]
      exact hypothesis distinct

/-- The table of groups with different names has their entries in order. -/
theorem ofGroups_eq_filterMap {tagKey : String} {groups : List ResourceGroup}
    (distinct : ((groups.filterMap (ofGroup? tagKey)).map Prod.fst).Nodup) :
    ofGroups groups tagKey = groups.filterMap (ofGroup? tagKey) :=
  foldl_add_eq distinct

/-- The entries of groups are under the names of those that carry the tag. -/
theorem entries_names (tagKey : String) (groups : List ResourceGroup) :
    (groups.filterMap (ofGroup? tagKey)).map Prod.fst =
      (groups.filter (ResourceGroup.carries tagKey)).map fun group => Text.fold group.name := by
  induction groups with
  | nil => rfl
  | cons group rest hypothesis =>
    cases tagged : group.tags.value? tagKey with
    | none => simp [ofGroup?, ResourceGroup.carries, tagged, ← hypothesis]
    | some tag => simp [ofGroup?, ResourceGroup.carries, tagged, ← hypothesis]

/-- Groups without the tag have no entry. -/
theorem entries_filter (tagKey : String) (groups : List ResourceGroup) :
    (groups.filter (ResourceGroup.carries tagKey)).filterMap (ofGroup? tagKey) =
      groups.filterMap (ofGroup? tagKey) := by
  rw [List.filterMap_filter]
  congr 1
  funext group
  cases tagged : group.tags.value? tagKey with
  | none => simp [ofGroup?, ResourceGroup.carries, tagged]
  | some tag => simp [ofGroup?, ResourceGroup.carries, tagged]

/-- Tables with the same entries under different names find the same. -/
theorem lookup_eq_of_perm {left right : GroupSchedules} (same : left.Perm right)
    (distinct : (left.map Prod.fst).Nodup) (name : String) :
    left.lookup name = right.lookup name := by
  induction same with
  | nil => rfl
  | cons entry _ hypothesis =>
    rw [List.lookup_cons, List.lookup_cons, hypothesis (List.nodup_cons.mp distinct).2]
  | swap first second rest =>
    rw [List.lookup_cons, List.lookup_cons, List.lookup_cons, List.lookup_cons]
    by_cases found : name = second.1
    · -- The other of the two has another name.
      have missed : (name == first.1) = false := by
        rw [beq_eq_false_iff_ne, found]
        intro same
        simp [same] at distinct
      simp only [missed]
    · have missed : (name == second.1) = false := by simpa using found
      simp only [missed]
  | trans before _ first second =>
    exact (first distinct).trans (second ((before.map Prod.fst).nodup_iff.mp distinct))

end GroupSchedules

/-! ## Sweeps that make the same moves -/

/-- Two control planes with the same power calls. -/
structure ControlPlane.SameCalls (left right : ControlPlane σ κ) : Prop where
  /-- Reads go alike. -/
  power : left.power = right.power
  /-- Changes of power go alike. -/
  act : left.act = right.act
  /-- The same families of machines can be controlled. -/
  controls : left.controls = right.controls

/-- Two orders under which the same is done about every machine. -/
structure SweepOrders.Alike (left right : SweepOrders) : Prop where
  /-- The same is known about every machine before it is read. -/
  brief : brief left = brief right
  /-- Actions are only reported under both or under neither. -/
  simulate : left.simulate = right.simulate
  /-- The same number of machines may be in progress. -/
  width : left.width = right.width
  /-- The same limit. -/
  limit : left.limit = right.limit

namespace Sweep

/-- The sweep with earlier reports put before its own. -/
def after (earlier : Log) (sweep : Sweep σ) : Sweep σ := { sweep with log := earlier ++ sweep.log }

/-- Further reports come behind the earlier ones. -/
@[simp] theorem report_after (earlier entries : Log) (sweep : Sweep σ) :
    (sweep.after earlier).report entries = (sweep.report entries).after earlier := by
  simp [after, report]

/-- The report of a call comes behind the earlier ones. -/
@[simp] theorem called_after (earlier : Log) (sweep : Sweep σ) (kind : PowerCallKind)
    (machine : Machine) (world : σ) (entries : Log) :
    (sweep.after earlier).called kind machine world entries =
      (sweep.called kind machine world entries).after earlier := by
  simp [after, called]

/-- An answer is heard whatever was reported. -/
@[simp] theorem heard_after (earlier : Log) (sweep : Sweep σ) (machine : Machine)
    (answer : Except ApiError PowerState) :
    (sweep.after earlier).heard machine answer = (sweep.heard machine answer).after earlier := rfl

/-- Progress is made whatever was reported. -/
@[simp] theorem update_after (earlier : Log) (sweep : Sweep σ) (seat : Nat)
    (progress : Progress σ) :
    (sweep.after earlier).update seat progress = (sweep.update seat progress).after earlier := rfl

section SameMoves

variable {left right : ControlPlane σ κ} {orders others : SweepOrders}
  (calls : left.SameCalls right) (alike : orders.Alike others) (earlier : Log)

include calls alike

/-- A machine is begun alike. -/
theorem start_after (machine : Machine) (sweep : Sweep σ) :
    (sweep.after earlier).start right others machine =
      (sweep.start left orders machine).after earlier := by
  rw [start, start, ← alike.brief, ← calls.controls, ← calls.power]
  cases brief orders left.controls machine with
  | mk briefing log =>
    cases briefing with
    | skip reason =>
      simp only [report_after]
      rfl
    | read kind desired =>
      simp only [report_after, called_after]
      rfl

/-- A read is settled alike. -/
theorem settleRead_after (visit : Visit σ) (wait : Wait) (kind : ResourceKind)
    (desired : DesiredPower) (answer : Except ApiError PowerState) (sweep : Sweep σ) :
    (sweep.after earlier).settleRead right others visit wait kind desired answer =
      (sweep.settleRead left orders visit wait kind desired answer).after earlier := by
  cases answer with
  | error error => simp only [settleRead, report_after, update_after]
  | ok observed =>
    have remembered : ∀ acted, ({ sweep.after earlier with acted := acted } : Sweep σ) =
        ({ sweep with acted := acted } : Sweep σ).after earlier := fun _ => rfl
    have known : (sweep.after earlier).acted = sweep.acted := rfl
    simp only [settleRead, ← alike.simulate, ← calls.act, known, remembered, report_after]
    cases Reconciliation.decide orders.simulate sweep.acted visit.machine desired observed with
    | compliant | repeated action | simulated action => rfl
    | perform action =>
      simp only [called_after]
      rfl

omit calls alike in
/-- A change of power is settled alike. -/
theorem settleAction_after (visit : Visit σ) (desired : DesiredPower) (action : PowerAction)
    (answer : Except ApiError Unit) (sweep : Sweep σ) :
    (sweep.after earlier).settleAction visit desired action answer =
      (sweep.settleAction visit desired action answer).after earlier := by
  cases answer with
  | ok accepted => simp only [settleAction, report_after, update_after]
  | error error => simp only [settleAction, report_after, update_after]

/-- The call that a machine waits for is settled alike. -/
theorem settle_after (visit : Visit σ) (sweep : Sweep σ) :
    (sweep.after earlier).settle right others visit =
      (sweep.settle left orders visit).after earlier := by
  have timed : ∀ world clock,
      ({ sweep.after earlier with world := world, clock := clock } : Sweep σ) =
        ({ sweep with world := world, clock := clock } : Sweep σ).after earlier := fun _ _ => rfl
  have outside : (sweep.after earlier).world = sweep.world := rfl
  rw [settle, settle]
  cases visit.progress with
  | reading wait kind desired answered =>
    simp only [outside, timed, heard_after]
    exact settleRead_after calls alike earlier visit wait kind desired _ _
  | acting wait desired action answered =>
    simp only [outside, timed]
    exact settleAction_after earlier visit desired action _ _
  | done outcome => rfl

/-- A result is taken or a machine begun alike. -/
theorem proceed?_after (sweep : Sweep σ) :
    (sweep.after earlier).proceed? right others =
      (sweep.proceed? left orders).map (Sweep.after earlier) := by
  have active : (sweep.after earlier).active = sweep.active := rfl
  have queue : (sweep.after earlier).queue = sweep.queue := rfl
  have started : ∀ machine later,
      ({ sweep.after earlier with queue := later } : Sweep σ).start right others machine =
        (({ sweep with queue := later } : Sweep σ).start left orders machine).after earlier :=
    fun machine later => start_after calls alike earlier machine { sweep with queue := later }
  simp only [proceed?, active, queue, ← alike.width]
  split
  · rfl
  · split
    · exact congrArg some (started _ _)
    · rfl
  · rfl

/-- The next move is the same. -/
theorem step_after (sweep : Sweep σ) :
    (sweep.after earlier).step right others =
      (sweep.step left orders).map (Sweep.after earlier) := by
  have proceeded := proceed?_after calls alike earlier sweep
  have settled := settle_after calls alike earlier
  have active : (sweep.after earlier).active = sweep.active := rfl
  have clock : (sweep.after earlier).clock = sweep.clock := rfl
  rw [step, step, active, clock, ← alike.limit]
  cases next? sweep.active with
  | none => exact proceeded
  | some call =>
    obtain ⟨wait, visit⟩ := call
    by_cases now : wait.due ≤ sweep.clock
    · simp only [if_pos now, settled, Option.map_some]
    · simp only [if_neg now, proceeded]
      cases sweep.proceed? left orders with
      | some moved => rfl
      | none =>
        by_cases due : wait.due ≤ orders.limit
        · simp only [Option.map_none, if_pos due, settled, Option.map_some]
        · simp only [Option.map_none, if_neg due]

/-- The same moves are made. -/
theorem steps_after (count : Nat) (sweep : Sweep σ) :
    (sweep.after earlier).steps right others count =
      (sweep.steps left orders count).after earlier := by
  induction count generalizing sweep with
  | zero => rfl
  | succ count hypothesis =>
    rw [steps, steps, step_after calls alike earlier]
    cases sweep.step left orders with
    | none => rfl
    | some moved => exact hypothesis moved

/-- The whole sweep is the same behind the earlier reports. -/
theorem run_after (sweep : Sweep σ) :
    (sweep.after earlier).run right others = (sweep.run left orders).after earlier :=
  steps_after calls alike earlier sweep.weight sweep

end SameMoves

end Sweep

/-! ## Inventories in another order -/

/-- Two inventories list the same machines, and the same groups that carry a tag, each in any
order. No two machines have both one name and one id, and no two of these groups have one name in
whatever case. -/
structure Inventory.Rearranges (tagKey : String) (left right : Inventory) : Prop where
  /-- The same machines. -/
  machines : left.machines.Perm right.machines
  /-- No two machines have both one name and one id. -/
  distinct : (left.machines.map fun machine => (machine.name, machine.id)).Nodup
  /-- The same groups that carry the tag. -/
  groups : (left.groups.filter (ResourceGroup.carries tagKey)).Perm
    (right.groups.filter (ResourceGroup.carries tagKey))
  /-- No two of them have one name. -/
  named : ((left.groups.filter (ResourceGroup.carries tagKey)).map
    fun group => Text.fold group.name).Nodup

namespace Inventory.Rearranges

variable {left right : Inventory}

/-- An inventory without repeats is listed in its own order. -/
theorem itself {tagKey : String} (same : left.Rearranges tagKey right) :
    left.Rearranges tagKey left :=
  ⟨.refl _, same.distinct, .refl _, same.named⟩

/-- Their groups make tables with the same entries, each name once. -/
theorem tables {tagKey : String} (same : left.Rearranges tagKey right) :
    (GroupSchedules.ofGroups left.groups tagKey).Perm
        (GroupSchedules.ofGroups right.groups tagKey) ∧
      ((GroupSchedules.ofGroups left.groups tagKey).map Prod.fst).Nodup := by
  have names : ((left.groups.filterMap (GroupSchedules.ofGroup? tagKey)).map Prod.fst).Nodup := by
    rw [GroupSchedules.entries_names]
    exact same.named
  have entries : (left.groups.filterMap (GroupSchedules.ofGroup? tagKey)).Perm
      (right.groups.filterMap (GroupSchedules.ofGroup? tagKey)) := by
    rw [← GroupSchedules.entries_filter, ← GroupSchedules.entries_filter tagKey right.groups]
    exact same.groups.filterMap _
  rw [GroupSchedules.ofGroups_eq_filterMap names,
    GroupSchedules.ofGroups_eq_filterMap ((entries.map Prod.fst).nodup_iff.mp names)]
  exact ⟨entries, names⟩

/-- The same is done about every machine, whatever identifies the run. -/
theorem orders_alike {settings : RunSettings} (same : left.Rearranges settings.tagKey right)
    (request : RunRequest) (id : String) :
    (settings.orders request left).Alike (settings.orders { request with id := id } right) where
  brief := by
    obtain ⟨entries, names⟩ := same.tables
    funext controls machine
    have found := GroupSchedules.lookup_eq_of_perm entries names (Text.fold machine.group)
    simp only [OffHours.brief, EffectiveSchedule.resolve?, RunSettings.orders, found]
  simulate := rfl
  width := rfl
  limit := rfl

/-- A sweep begins with the same roster and the same reports. -/
theorem opened_eq {settings : RunSettings} (same : left.Rearranges settings.tagKey right)
    (line : Timeline σ) : Run.opened settings left line = Run.opened settings right line := by
  rw [Run.opened, Run.opened, roster_eq_of_perm same.machines same.distinct,
    same.machines.length_eq, same.tables.1.length_eq]

end Inventory.Rearranges

/-- Timelines that are the same behind some reports are the same. -/
theorem Timeline.after_injective (earlier : Log) :
    Function.Injective (Timeline.after (σ := σ) earlier) := by
  rintro ⟨world, clock, log⟩ ⟨other, time, entries⟩ same
  simpa [Timeline.after] using same

namespace Run

/-- The run with earlier reports put before its own. -/
@[simps] def after (earlier : Log) (run : Run σ) : Run σ :=
  { run with line := run.line.after earlier }

/-- The counters do not look at reports. -/
@[simp] theorem stats_after (earlier : Log) (run : Run σ) :
    (run.after earlier).stats = run.stats := rfl

/-- The message does not look at reports. -/
@[simp] theorem message?_after (earlier : Log) (run : Run σ) (id : String) :
    (run.after earlier).message? id = run.message? id := by
  have failures : (run.after earlier).failures = run.failures := rfl
  simp only [message?, failures, after_result]

/-- A sweep begins behind the earlier reports. -/
theorem opened_after (settings : RunSettings) (inventory : Inventory) (line : Timeline σ)
    (earlier : Log) :
    opened settings inventory (line.after earlier) =
      (opened settings inventory line).after earlier := by
  simp [opened, Timeline.after, Sweep.after]

/-- A fleet that is listed in another order is swept alike, behind whatever was reported. -/
theorem sweepFleet_after {left right : ControlPlane σ κ} (calls : left.SameCalls right)
    {settings : RunSettings} {inventory other : Inventory}
    (same : inventory.Rearranges settings.tagKey other) (request : RunRequest) (id : String)
    (line : Timeline σ) (earlier : Log) :
    sweepFleet right settings { request with id := id } other (line.after earlier) =
      (sweepFleet left settings request inventory line).after earlier := by
  rw [sweepFleet, opened_after, ← same.opened_eq,
    Sweep.run_after calls (same.orders_alike request id)]
  rfl

end Run

/-- Two listings end without an inventory for one reason, or with one inventory in two orders. -/
inductive SameListing (tagKey : String) :
    Except RunError Inventory → Except RunError Inventory → Prop where
  /-- Nothing is listed. -/
  | unlisted (error : RunError) : SameListing tagKey (.error error) (.error error)
  /-- One inventory is listed in two orders. -/
  | listed {left right : Inventory} (same : left.Rearranges tagKey right) :
      SameListing tagKey (.ok left) (.ok right)

/-- Two runs are the same but for what identifies them. -/
structure Run.Unchanged (request other : RunRequest) (left right : Run σ) : Prop where
  /-- They end in the same way. -/
  result : left.result = right.result
  /-- The same results were taken in the same order. -/
  outcomes : left.outcomes = right.outcomes
  /-- The same counters. -/
  stats : left.stats = right.stats
  /-- The same power calls were made, at the same times. -/
  calls : left.calls = right.calls
  /-- The same answers were heard. -/
  answers : left.answers = right.answers
  /-- Under one id they send the same message, or none. -/
  message : ∀ id, left.message? id = right.message? id
  /-- The same outside at the end, and so the same power states. -/
  world : left.line.world = right.line.world
  /-- They end at the same time. -/
  clock : left.line.clock = right.line.clock
  /-- The same was reported behind the first report. -/
  log : ∃ entries, left.line.log = opening request ++ entries ∧
    right.line.log = opening other ++ entries

/-- Runs that are one run behind their first reports are the same but for these. -/
theorem Run.unchanged_after (request other : RunRequest) (run : Run σ) :
    Run.Unchanged request other (run.after (opening request)) (run.after (opening other)) where
  result := by simp
  outcomes := by simp
  stats := by simp
  calls := by simp
  answers := by simp
  message := by simp
  world := by simp [Timeline.after]
  clock := by simp [Timeline.after]
  log := ⟨run.line.log, by simp [Timeline.after], by simp [Timeline.after]⟩

/-- Runs with the same calls and listings are one run behind their first reports. -/
theorem Run.conduct_after {left right : ControlPlane σ κ} (calls : left.SameCalls right)
    {settings : RunSettings} {request : RunRequest} {world : σ} (id : String)
    (listings : SameListing settings.tagKey (Run.list left settings request world).1
      (Run.list right settings request world).1)
    (ends : (Run.list left settings request world).2 =
      (Run.list right settings request world).2) :
    ∃ run : Run σ,
      Run.conduct left settings request world = run.after (opening request) ∧
      Run.conduct right settings { request with id := id } world =
        run.after (opening { request with id := id }) := by
  obtain ⟨listing, line, begun⟩ := Run.list_after left settings world
  obtain ⟨relisting, later, rebegun⟩ := Run.list_after right settings world
  rw [begun, rebegun] at listings ends
  obtain rfl := Timeline.after_injective _ ends
  rw [conduct, conduct, begun, rebegun]
  cases listings with
  | unlisted error => exact ⟨aborted error line, rfl, rfl⟩
  | @listed inventory other same =>
    refine ⟨sweepFleet left settings request inventory line, ?_, ?_⟩
    · exact sweepFleet_after ⟨rfl, rfl, rfl⟩ same.itself request request.id line _
    · exact sweepFleet_after calls same request id line _

/-! ## Control planes in memory -/

namespace MemoryPlane

/-- Two control planes in memory know the same machines and groups in any order, answer alike, and
may or may not list the groups without the tag. -/
structure Rearranges (left right : MemoryPlane) : Prop where
  /-- The same machines. -/
  machines : left.machines.Perm right.machines
  /-- No two machines have both one name and one id. -/
  distinct : (left.machines.map fun machine => (machine.name, machine.id)).Nodup
  /-- The same groups. -/
  groups : left.groups.Perm right.groups
  /-- No two groups have one name in whatever case. -/
  named : (left.groups.map fun group => Text.fold group.name).Nodup
  /-- Machines are listed or not for the same reason. -/
  machinesError : left.machinesError = right.machinesError
  /-- Groups are listed or not for the same reason. -/
  groupsError : left.groupsError = right.groupsError
  /-- Machines are listed in the same time. -/
  inventoryDelay : left.inventoryDelay = right.inventoryDelay
  /-- Calls on every machine go alike. -/
  behaviour : left.behaviour = right.behaviour
  /-- The same families of machines can be controlled. -/
  controls : left.controls = right.controls

/-- Of the listed groups those that carry the tag are those that are known to. -/
theorem listedGroups_filter (memory : MemoryPlane) (tagKey : String) :
    (memory.listedGroups tagKey).filter (ResourceGroup.carries tagKey) =
      memory.groups.filter (ResourceGroup.carries tagKey) := by
  rw [listedGroups, List.filter_filter]
  congr 1
  funext group
  cases carried : group.carries tagKey with
  | false => rfl
  | true =>
    rw [ResourceGroup.carries] at carried
    simp [carried]

/-- The call for the one page of a listing. -/
def onePage (delay : Nat) (error : Option ApiError) (items : List α) (_ : Unit)
    (table : PowerTable) : Sent PowerTable (Except ApiError (Page Unit α)) :=
  ⟨table, [], delay, fun later => (page error items, later)⟩

/-- A listing of one page ends in the same way and at the same time whatever is on the page. -/
theorem listPages_onePage (limit delay : Nat) (error : Option ApiError) (pages : Nat)
    (line : Timeline PowerTable) :
    ∃ later,
      (∀ items : List α,
        listPages (some limit) (onePage delay error items) pages () [] line =
          (.complete items, later)) ∨
      (∃ failure, ∀ items : List α,
        listPages (some limit) (onePage delay error items) pages () [] line =
          (.failed failure, later)) ∨
      ∀ items : List α,
        listPages (some limit) (onePage delay error items) pages () [] line = (.cut, later) := by
  cases pages with
  | zero => exact ⟨line, Or.inr (Or.inr fun _ => rfl)⟩
  | succ pages =>
    by_cases late : limit < line.clock + delay
    · refine ⟨⟨line.world, limit, line.log⟩, Or.inr (Or.inr fun items => ?_)⟩
      simp [listPages, Timeline.await?, onePage, late]
    · refine ⟨⟨line.world, line.clock + delay, line.log⟩, ?_⟩
      cases error with
      | some failure =>
        refine Or.inr (Or.inl ⟨failure, fun items => ?_⟩)
        simp [listPages, Timeline.await?, onePage, page, late]
      | none =>
        refine Or.inl fun items => ?_
        simp [listPages, Timeline.await?, onePage, page, late]

namespace Rearranges

variable {left right : MemoryPlane}

/-- Their power calls are the same. -/
theorem sameCalls (same : left.Rearranges right) : left.plane.SameCalls right.plane where
  power := by
    funext kind machine table
    simp only [plane, readNow, same.behaviour]
  act := by
    funext action kind machine table
    simp only [plane, actNow, same.behaviour]
  controls := same.controls

/-- What they list is one inventory in two orders. -/
theorem inventories (same : left.Rearranges right) (tagKey : String) :
    Inventory.Rearranges tagKey ⟨left.machines, left.listedGroups tagKey⟩
      ⟨right.machines, right.listedGroups tagKey⟩ where
  machines := same.machines
  distinct := same.distinct
  groups := by
    rw [listedGroups_filter, listedGroups_filter]
    exact same.groups.filter _
  named := by
    rw [listedGroups_filter]
    exact same.named.sublist (List.filter_sublist.map _)

/-- They list it in the same time. -/
theorem sameListing (same : left.Rearranges right) (settings : RunSettings)
    (request : RunRequest) (powers : PowerTable) :
    SameListing settings.tagKey (Run.list left.plane settings request powers).1
        (Run.list right.plane settings request powers).1 ∧
      (Run.list left.plane settings request powers).2 =
        (Run.list right.plane settings request powers).2 := by
  have machines : ∀ memory : MemoryPlane, memory.plane.machinePage =
      onePage memory.inventoryDelay memory.machinesError memory.machines := fun _ => rfl
  have groups : ∀ memory : MemoryPlane, memory.plane.groupPage settings.tagKey =
      onePage 0 memory.groupsError (memory.listedGroups settings.tagKey) := fun _ => rfl
  have first : ∀ memory : MemoryPlane, memory.plane.machinesFrom = .ok () ∧
      memory.plane.groupsFrom = .ok () := fun _ => ⟨rfl, rfl⟩
  simp only [Run.list, machines, groups, first, listAll, same.inventoryDelay, same.machinesError,
    same.groupsError]
  obtain ⟨line, listed | ⟨error, failed⟩ | cut⟩ := listPages_onePage (α := Machine)
    (1000 * settings.limitSeconds) right.inventoryDelay right.machinesError settings.pages
    { world := powers, log := Run.opening request }
  · simp only [listed]
    obtain ⟨later, listed | ⟨error, failed⟩ | cut⟩ := listPages_onePage (α := ResourceGroup)
      (1000 * settings.limitSeconds) 0 right.groupsError settings.pages line
    · simp only [listed]
      exact ⟨.listed (same.inventories settings.tagKey), trivial⟩
    · simp only [failed]
      exact ⟨.unlisted _, trivial⟩
    · simp only [cut]
      exact ⟨.unlisted _, trivial⟩
  · simp only [failed]
    exact ⟨.unlisted _, trivial⟩
  · simp only [cut]
    exact ⟨.unlisted _, trivial⟩

end Rearranges

end MemoryPlane

/-- A run over an inventory that is listed in another order, and with other groups that do not
carry the tag, is the same but for what identifies it; however many machines may be in progress at
once, and whether or not the run is cut. -/
theorem rearranged_run_unchanged (left right : ControlPlane σ κ) (calls : left.SameCalls right)
    (settings : RunSettings) (request : RunRequest) (id : String) (world : σ)
    (listings : SameListing settings.tagKey (Run.list left settings request world).1
      (Run.list right settings request world).1)
    (ends : (Run.list left settings request world).2 =
      (Run.list right settings request world).2) :
    Run.Unchanged request { request with id := id } (Run.conduct left settings request world)
      (Run.conduct right settings { request with id := id } world) := by
  obtain ⟨run, original, rearranged⟩ := Run.conduct_after calls id listings ends
  rw [original, rearranged]
  exact Run.unchanged_after request { request with id := id } run

/-- The Monday fleet with slow calls. -/
def slowPlane : MemoryPlane :=
  { mondayPlane with behaviour := fun _ => { readDelay := 700, actionDelay := 300 } }

/-- The same fleet from its end, without the group that has no tag. -/
def reversedPlane : MemoryPlane :=
  { slowPlane with
    machines := slowPlane.machines.reverse
    groups := slowPlane.groups.reverse
    unfilteredGroups := false }

/-- At most two machines are in progress, for one second. -/
def hastySettings : RunSettings := { mondaySettings with limitSeconds := 1 }

/-- Both runs are cut after one stop and two more reads. -/
theorem reversed_run_unchanged :
    (Run.conduct slowPlane.plane hastySettings mondayRequest mondayPowers).result =
      .error (.deadlineExceeded 1) ∧
    (Run.conduct slowPlane.plane hastySettings mondayRequest mondayPowers).calls.map
        (fun call => (call.time, call.kind, call.machine.name)) =
      [(0, .read, "app"), (700, .action .stop, "app"), (1000, .read, "cache"),
        (1000, .read, "db")] ∧
    Run.Unchanged mondayRequest { mondayRequest with id := "again" }
      (Run.conduct slowPlane.plane hastySettings mondayRequest mondayPowers)
      (Run.conduct reversedPlane.plane hastySettings { mondayRequest with id := "again" }
        mondayPowers) := by
  have listed : Run.list slowPlane.plane hastySettings mondayRequest mondayPowers =
      (.ok mondayInventory, ⟨mondayPowers, 0, Run.opening mondayRequest⟩) := rfl
  have kept : roster mondayInventory.machines = mondayInventory.machines :=
    (roster_of_sorted (by decide +kernel)).trans (by decide +kernel)
  have ended : ((Run.conduct slowPlane.plane hastySettings mondayRequest mondayPowers).result,
      (Run.conduct slowPlane.plane hastySettings mondayRequest mondayPowers).calls.map
        fun call => (call.time, call.kind, call.machine.name)) =
      (.error (.deadlineExceeded 1), [(0, .read, "app"), (700, .action .stop, "app"),
        (1000, .read, "cache"), (1000, .read, "db")]) := by
    rw [Run.conduct_of_list listed, Run.sweepFleet, Run.opened]
    simp only [kept]
    decide +kernel
  obtain ⟨cut, calls⟩ := Prod.mk.inj ended
  have same : slowPlane.Rearranges reversedPlane :=
    { machines := (List.reverse_perm _).symm
      distinct := by decide +kernel
      groups := (List.reverse_perm _).symm
      named := by decide +kernel
      machinesError := rfl
      groupsError := rfl
      inventoryDelay := rfl
      behaviour := rfl
      controls := rfl }
  obtain ⟨listings, ends⟩ := same.sameListing hastySettings mondayRequest mondayPowers
  exact ⟨cut, calls, rearranged_run_unchanged _ _ same.sameCalls hastySettings mondayRequest
    "again" mondayPowers listings ends⟩

end OffHours
