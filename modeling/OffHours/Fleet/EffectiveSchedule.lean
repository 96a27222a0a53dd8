import OffHours.Fleet.Machine

/-!
# Effective schedules

The schedule tag that counts for a machine: its own, else that of its resource group.
-/

namespace OffHours

/-- Where a schedule comes from. -/
inductive ScheduleSource where
  /-- The machine's own tag. -/
  | direct
  /-- The tag of the resource group with this name. -/
  | group (name : String)
  deriving DecidableEq, Repr

/-- The schedule tag that counts for a machine. -/
structure EffectiveSchedule where
  /-- The tag. -/
  tag : String
  /-- Where it comes from. -/
  source : ScheduleSource
  deriving DecidableEq, Repr

/-- The schedule tags of groups under the folded names of the groups, each name once. -/
abbrev GroupSchedules := List (String × String)

namespace GroupSchedules

/-- The table with the tag of one more group, which replaces an earlier one of the same name. -/
def insert (table : GroupSchedules) (name tag : String) : GroupSchedules :=
  table.filter (fun entry => entry.1 != name) ++ [(name, tag)]

/-- The table with the tag of one more group, if it carries one. -/
def add (tagKey : String) (table : GroupSchedules) (group : ResourceGroup) : GroupSchedules :=
  match group.tags.value? tagKey with
  | some tag => table.insert (Text.fold group.name) tag
  | none => table

/-- The schedule tags of the groups that carry one. -/
def ofGroups (groups : List ResourceGroup) (tagKey : String) : GroupSchedules :=
  groups.foldl (add tagKey) []

end GroupSchedules

/-- The schedule that counts for a machine. -/
def EffectiveSchedule.resolve? (machine : Machine) (groups : GroupSchedules) (tagKey : String) :
    Option EffectiveSchedule :=
  match machine.tags.value? tagKey with
  | some tag => some ⟨tag, .direct⟩
  | none => (groups.lookup (Text.fold machine.group)).map fun tag => ⟨tag, .group machine.group⟩

end OffHours
