import OffHours.Data.Reader
import OffHours.Fleet.Machine
import OffHours.Fleet.PowerState

/-!
# Documents of the resource manager

The pages, machines, groups and power states in the answers of the resource manager. Fields
that are not needed are passed over.
-/

namespace OffHours.Manager

/-- A page as answered: its items and where the listing goes on. -/
structure ListedPage (α : Type) where
  /-- The items. -/
  items : List α
  /-- The address of the next page, as written. -/
  next : Option String
  deriving Repr

/-- The page in a value. -/
def page? {α : Type} (item : Value → Option α) (value : Value) : Option (ListedPage α) :=
  value.record? do
    let items ← .withDefault "value" (Value.list? item) []
    let next ← .nullable "nextLink" Value.text?
    return { items, next }

/-- The tags of a resource; null stands for none. -/
def tags : FieldReader Tags := do
  let found ← .withDefault "tags" (Value.nullable? Value.texts?) none
  return found.getD []

/-- The machine in a value; its group is read from its id. -/
def machine? (value : Value) : Option Machine :=
  value.record? do
    let id ← .required "id" Value.text?
    let name ← .required "name" Value.text?
    let typeName ← .required "type" Value.text?
    return { id, name, group := (groupOfId? id).getD "", typeName, tags := ← tags }

/-- The resource group in a value. -/
def group? (value : Value) : Option ResourceGroup :=
  value.record? do
    let name ← .required "name" Value.text?
    return { name, tags := ← tags }

/-- The power state among status codes: the first code of the power family. -/
def powerOfCodes (codes : List String) : PowerState :=
  ((codes.find? PowerState.isPowerCode).map PowerState.ofComputeCode).getD .unknown

/-- The power state in the view of a compute machine. -/
def computePower? (value : Value) : Option PowerState := do
  let code (value : Value) := value.record? (.required "code" Value.text?)
  let codes ← value.record? (.withDefault "statuses" (Value.list? code) [])
  return powerOfCodes codes

/-- The power state in a classic machine. -/
def classicPower? (value : Value) : Option PowerState := do
  let view (value : Value) := value.record? (.nullable "status" Value.text?)
  let properties (value : Value) :=
    value.record? (.withDefault "instanceView" (Value.nullable? view) none)
  let status ← value.record? (.withDefault "properties" properties none)
  return (status.join.map PowerState.ofClassicStatus).getD .unknown

/-- The power state in the answer about a machine of a family. -/
def power? : ResourceKind → Value → Option PowerState
  | .compute => computePower?
  | .classic => classicPower?

end OffHours.Manager
