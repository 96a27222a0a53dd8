import OffHours.Text.Letters
import OffHours.Text.Pieces

/-!
# Machines and their groups

What the inventory lists: machines with a resource id, a group and tags, and groups with tags.
The keys of tags, the names of groups and the types of resources are names without case.
-/

namespace OffHours

/-- Tags as pairs of key and value; no two keys of one resource are the same name. -/
abbrev Tags := List (String × String)

/-- The value of the tag with this key in any case. -/
def Tags.value? (tags : Tags) (key : String) : Option String :=
  (tags.find? fun tag => Text.sameName tag.1 key).map Prod.snd

/-- The family of a machine, which decides how its power is controlled. -/
inductive ResourceKind where
  /-- Machines of the current generation. -/
  | compute
  /-- Machines of the classic generation. -/
  | classic
  deriving DecidableEq, Repr

namespace ResourceKind

/-- The resource type of the family. -/
def typeName : ResourceKind → String
  | compute => "Microsoft.Compute/virtualMachines"
  | classic => "Microsoft.ClassicCompute/virtualMachines"

/-- The family of a resource type. -/
def ofType? (typeName : String) : Option ResourceKind :=
  [compute, classic].find? fun kind => Text.sameName typeName kind.typeName

/-- The label of the family in reports. -/
def label : ResourceKind → String
  | compute => "compute"
  | classic => "classic"

end ResourceKind

/-- A machine of the inventory. -/
structure Machine where
  /-- The resource id. -/
  id : String
  /-- The name. -/
  name : String
  /-- The name of the resource group. -/
  group : String
  /-- The resource type. -/
  typeName : String
  /-- The tags. -/
  tags : Tags
  deriving DecidableEq, Repr

namespace Machine

/-- The family of the machine, when it is a known one. -/
def kind? (machine : Machine) : Option ResourceKind := ResourceKind.ofType? machine.typeName

/-- What identifies the machine: its id without case. -/
def key (machine : Machine) : String := Text.fold machine.id

end Machine

/-- A resource group of the inventory. -/
structure ResourceGroup where
  /-- The name. -/
  name : String
  /-- The tags. -/
  tags : Tags
  deriving DecidableEq, Repr

/-- The segment after the one that announces a resource group. -/
def groupSegment? : List String → Option String
  | [] => none
  | segment :: rest =>
    if Text.sameName segment "resourceGroups" then rest.head? else groupSegment? rest

/-- The name of the resource group in a resource id. -/
def groupOfId? (id : String) : Option String :=
  groupSegment? ((Text.pieces '/' id.toList).map String.ofList)

end OffHours
