import Mathlib.Data.List.Nodup
import OffHours.Fleet.Visit

/-!
# What is known about a machine before it is read

`Scheduled` says which schedule tag counts for a machine in terms of the listed resources, and
`ShutdownDue` when a tag asks for shutdown, neither going through the tables and searches of a
run. The briefing of a machine is the one that these two and its control ask for.
-/

namespace OffHours

/-- A schedule tag counts for a machine: it is its own, or it has none and its resource group,
named in any case, carries the tag. -/
inductive Scheduled (tagKey : String) (groups : List ResourceGroup) (machine : Machine) :
    String → Prop where
  /-- The machine carries the tag. -/
  | own {tag : String} (tagged : machine.tags.value? tagKey = some tag) :
      Scheduled tagKey groups machine tag
  /-- The machine does not carry the tag, and its group does. -/
  | inherited {tag : String} {group : ResourceGroup}
      (untagged : machine.tags.value? tagKey = none) (listed : group ∈ groups)
      (same : Text.sameName group.name machine.group = true)
      (tagged : group.tags.value? tagKey = some tag) : Scheduled tagKey groups machine tag

/-- Some rule of a schedule tag covers an instant. -/
def ShutdownDue (tag : String) (now : Instant) : Prop :=
  ∃ rule ∈ (Schedule.read tag).rules, rule.check now = .ok true

/-- The power of a machine can be controlled. -/
def Machine.Controlled (machine : Machine) (controls : ResourceKind → Bool) : Prop :=
  ∃ kind, machine.kind? = some kind ∧ controls kind = true

namespace GroupSchedules

/-- The tag that was put in last is found. -/
theorem lookup_insert (table : GroupSchedules) (name tag : String) :
    (table.insert name tag).lookup name = some tag := by
  have absent : (table.filter fun entry => entry.1 != name).lookup name = none := by
    rw [List.lookup_eq_none_iff]
    intro entry present
    have other := (List.mem_filter.mp present).2
    simpa [bne, BEq.comm] using other
  rw [insert, List.lookup_append, absent]
  simp

/-- Other names keep their tags. -/
theorem lookup_insert_other (table : GroupSchedules) {name other : String} (tag : String)
    (apart : other ≠ name) : (table.insert name tag).lookup other = table.lookup other := by
  have kept : (table.filter fun entry => entry.1 != name).lookup other = table.lookup other := by
    induction table with
    | nil => rfl
    | cons entry rest hypothesis =>
      obtain ⟨key, value⟩ := entry
      by_cases removed : key = name
      · have missed : (other == key) = false := by simpa [removed] using apart
        rw [List.filter_cons_of_neg (by simp [removed]), List.lookup_cons, missed, hypothesis]
      · rw [List.filter_cons_of_pos (by simpa using removed), List.lookup_cons, List.lookup_cons,
          hypothesis]
  rw [insert, List.lookup_append, kept]
  simp [apart]

/-- A tag is found under a name when a group of that name carries it, or when no such group
carries any and it was there before. -/
theorem lookup_foldl_add {tagKey name tag : String} {groups : List ResourceGroup}
    (table : GroupSchedules) (distinct : (groups.map fun group => Text.fold group.name).Nodup) :
    (groups.foldl (add tagKey) table).lookup name = some tag ↔
      (∃ group ∈ groups, Text.fold group.name = name ∧ group.tags.value? tagKey = some tag) ∨
      (∀ group ∈ groups, Text.fold group.name = name → group.tags.value? tagKey = none) ∧
        table.lookup name = some tag := by
  induction groups generalizing table with
  | nil => simp
  | cons first rest hypothesis =>
    rw [List.map_cons, List.nodup_cons] at distinct
    rw [List.foldl_cons, hypothesis _ distinct.2]
    by_cases named : Text.fold first.name = name
    · have others : ∀ group ∈ rest, Text.fold group.name ≠ name := by
        intro group present same
        exact distinct.1 (List.mem_map.mpr ⟨group, present, same.trans named.symm⟩)
      have absent : ¬ ∃ group ∈ rest, Text.fold group.name = name ∧
          group.tags.value? tagKey = some tag := by
        rintro ⟨group, present, same, -⟩
        exact others group present same
      have vacuous : (∀ group ∈ rest, Text.fold group.name = name →
          group.tags.value? tagKey = none) ↔ True :=
        iff_true_intro fun group present same => absurd same (others group present)
      cases tagged : first.tags.value? tagKey with
      | none => simp [add, tagged, named, absent]
      | some value =>
        have found : (add tagKey table first).lookup name = some value := by
          rw [add, tagged, named]
          exact lookup_insert table name value
        simp [found, tagged, named, absent, vacuous]
    · have kept : (add tagKey table first).lookup name = table.lookup name := by
        cases tagged : first.tags.value? tagKey with
        | none => simp [add, tagged]
        | some value =>
          rw [add, tagged]
          exact lookup_insert_other table value (Ne.symm named)
      simp [kept, named]

/-- The table of groups with different names finds exactly their tags. -/
theorem lookup_ofGroups {tagKey name tag : String} {groups : List ResourceGroup}
    (distinct : (groups.map fun group => Text.fold group.name).Nodup) :
    (ofGroups groups tagKey).lookup name = some tag ↔
      ∃ group ∈ groups, Text.fold group.name = name ∧ group.tags.value? tagKey = some tag := by
  rw [ofGroups, lookup_foldl_add [] distinct]
  simp

end GroupSchedules

/-- The schedule that is resolved for a machine is the one that counts for it. -/
theorem resolve?_tag {tagKey tag : String} {groups : List ResourceGroup} {machine : Machine}
    (distinct : (groups.map fun group => Text.fold group.name).Nodup) :
    (EffectiveSchedule.resolve? machine (GroupSchedules.ofGroups groups tagKey) tagKey).map
        EffectiveSchedule.tag = some tag ↔ Scheduled tagKey groups machine tag := by
  cases tagged : machine.tags.value? tagKey with
  | some value =>
    constructor
    · intro resolved
      simp only [EffectiveSchedule.resolve?, tagged, Option.map_some, Option.some.injEq] at resolved
      exact .own (resolved ▸ tagged)
    · intro scheduled
      cases scheduled with
      | own own =>
        rw [tagged] at own
        simp [EffectiveSchedule.resolve?, tagged, Option.some.inj own]
      | inherited untagged => simp [tagged] at untagged
  | none =>
    have table : (EffectiveSchedule.resolve? machine (GroupSchedules.ofGroups groups tagKey)
          tagKey).map EffectiveSchedule.tag =
        (GroupSchedules.ofGroups groups tagKey).lookup (Text.fold machine.group) := by
      simp [EffectiveSchedule.resolve?, tagged, Function.comp_def]
    rw [table, GroupSchedules.lookup_ofGroups distinct]
    constructor
    · rintro ⟨group, listed, same, carried⟩
      exact .inherited tagged listed (Text.sameName_iff.mpr same) carried
    · intro scheduled
      cases scheduled with
      | own own => simp [tagged] at own
      | inherited untagged listed same carried =>
        exact ⟨_, listed, Text.sameName_iff.mp same, carried⟩

/-- The verdict of a tag asks for shutdown exactly when some rule covers the instant. -/
theorem verdict_iff (tag : String) (now : Instant) :
    (verdict tag now).1 = true ↔ ShutdownDue tag now := by
  have covers : ∀ rule : Rule, rule.active now = true ↔ rule.check now = .ok true := by
    intro rule
    rw [Rule.active]
    cases rule.check now with
    | ok covered => simp
    | error defect => simp
  simp [verdict, Schedule.shutdownAt, Schedule.firstMatch?, List.find?_isSome, covers, ShutdownDue]

/-- The desired power under a tag: deallocated exactly when shutdown is due. -/
theorem desired_of_verdict (tag : String) (now : Instant) :
    (ShutdownDue tag now → DesiredPower.ofVerdict (verdict tag now).1 = .deallocated) ∧
      (¬ ShutdownDue tag now → DesiredPower.ofVerdict (verdict tag now).1 = .started) := by
  rw [← verdict_iff]
  constructor
  · intro due
    simp [DesiredPower.ofVerdict, due]
  · intro idle
    simp [DesiredPower.ofVerdict, idle]

section Brief

variable {orders : SweepOrders} {groups : List ResourceGroup} {controls : ResourceKind → Bool}
  {machine : Machine}

/-- A machine without a schedule is skipped. -/
theorem brief_of_unscheduled
    (table : orders.groups = GroupSchedules.ofGroups groups orders.tagKey)
    (distinct : (groups.map fun group => Text.fold group.name).Nodup)
    (unscheduled : ∀ tag, ¬ Scheduled orders.tagKey groups machine tag) :
    (brief orders controls machine).1 = .skip .noSchedule := by
  cases resolved : EffectiveSchedule.resolve? machine orders.groups orders.tagKey with
  | none => simp [brief, resolved]
  | some schedule =>
    rw [table] at resolved
    exact absurd ((resolve?_tag distinct).mp (by rw [resolved]; rfl)) (unscheduled schedule.tag)

/-- The power of a machine is controlled by its family's control, if that is registered. -/
theorem controlOf_iff {kind : ResourceKind} :
    (controlOf controls machine).1 = some kind ↔
      machine.kind? = some kind ∧ controls kind = true := by
  rw [controlOf]
  cases machine.kind? with
  | none => simp
  | some family =>
    by_cases registered : controls family = true
    · simp only [registered, ↓reduceIte, Option.some.injEq]
      constructor
      · rintro rfl
        exact ⟨rfl, registered⟩
      · exact fun both => both.1
    · simp only [registered, Option.some.injEq]
      constructor
      · simp
      · rintro ⟨rfl, control⟩
        exact absurd control registered

/-- A machine that cannot be controlled is skipped. -/
theorem brief_of_uncontrolled (uncontrolled : ¬ machine.Controlled controls) :
    ∃ reason, (brief orders controls machine).1 = .skip reason := by
  have none : (controlOf controls machine).1 = none := by
    by_contra some
    obtain ⟨kind, control⟩ := Option.ne_none_iff_exists'.mp some
    exact uncontrolled ⟨kind, controlOf_iff.mp control⟩
  cases resolved : EffectiveSchedule.resolve? machine orders.groups orders.tagKey with
  | none => exact ⟨.noSchedule, by simp [brief, resolved]⟩
  | some schedule => exact ⟨.unsupportedType, by simp [brief, resolved, none]⟩

/-- A machine for which a schedule is resolved and that has a control is read, to bring it to
what its tag asks for. -/
theorem brief_of_resolved {schedule : EffectiveSchedule}
    (resolved : EffectiveSchedule.resolve? machine orders.groups orders.tagKey = some schedule)
    (controlled : machine.Controlled controls) :
    ∃ kind, (brief orders controls machine).1 =
      .read kind (.ofVerdict (verdict schedule.tag orders.now).1) := by
  obtain ⟨kind, control⟩ := controlled
  have registered : (controlOf controls machine).1 = some kind := controlOf_iff.mpr control
  exact ⟨kind, by simp [brief, resolved, registered]⟩

/-- A machine with a schedule and a control is read, to bring it to what its tag asks for. -/
theorem brief_of_scheduled {tag : String}
    (table : orders.groups = GroupSchedules.ofGroups groups orders.tagKey)
    (distinct : (groups.map fun group => Text.fold group.name).Nodup)
    (scheduled : Scheduled orders.tagKey groups machine tag)
    (controlled : machine.Controlled controls) :
    ∃ kind, (brief orders controls machine).1 =
      .read kind (.ofVerdict (verdict tag orders.now).1) := by
  have resolved := (resolve?_tag distinct).mpr scheduled
  rw [← table, Option.map_eq_some_iff] at resolved
  obtain ⟨schedule, found, rfl⟩ := resolved
  exact brief_of_resolved found controlled

end Brief

end OffHours
