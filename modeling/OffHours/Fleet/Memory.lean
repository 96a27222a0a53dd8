import OffHours.Fleet.ControlPlane

/-!
# A control plane in memory

Machines with known behaviour: their power states change only by the actions made on them, and
each call takes a fixed time and fails or succeeds by a fixed rule.
-/

namespace OffHours

/-- How the calls on a machine go. -/
structure MachineBehaviour where
  /-- Why a read fails, if it does. -/
  readError : Option ApiError := none
  /-- Why an action fails, if it does. -/
  actionError : Option ApiError := none
  /-- Milliseconds until a read is answered. -/
  readDelay : Nat := 0
  /-- Milliseconds until an action is answered. -/
  actionDelay : Nat := 0
  deriving DecidableEq, Repr

/-- Known power states under the ids of the machines. -/
abbrev PowerTable := List (String × PowerState)

namespace PowerTable

/-- The power state of a machine; unknown when none is in the table. -/
def state (table : PowerTable) (id : String) : PowerState := (table.lookup id).getD .unknown

/-- The table with a new power state. -/
def set : PowerTable → String → PowerState → PowerTable
  | [], id, power => [(id, power)]
  | (other, old) :: rest, id, power =>
    if other == id then (id, power) :: rest else (other, old) :: set rest id power

end PowerTable

/-- The power state that an action leads to. -/
def PowerAction.result : PowerAction → PowerState
  | start => .running
  | stop => .deallocated

/-- A control plane with known behaviour. -/
structure MemoryPlane where
  /-- The machines as listed. -/
  machines : List Machine
  /-- The resource groups as known. -/
  groups : List ResourceGroup := []
  /-- Whether groups without the tag are listed as well. -/
  unfilteredGroups : Bool := false
  /-- Why the listing of machines fails, if it does. -/
  machinesError : Option ApiError := none
  /-- Why the listing of groups fails, if it does. -/
  groupsError : Option ApiError := none
  /-- Milliseconds until the listing of machines is answered. -/
  inventoryDelay : Nat := 0
  /-- How the calls on a machine with an id go. -/
  behaviour : String → MachineBehaviour := fun _ => {}
  /-- The families of machines whose power can be controlled. -/
  controls : ResourceKind → Bool := fun _ => true

namespace MemoryPlane

/-- A whole list as one page, unless listing fails. -/
def page {α : Type} (error : Option ApiError) (items : List α) : Except ApiError (Page Unit α) :=
  match error with
  | some error => .error error
  | none => .ok ⟨items, none⟩

/-- The groups as listed for a tag. -/
def listedGroups (memory : MemoryPlane) (tagKey : String) : List ResourceGroup :=
  memory.groups.filter fun group =>
    memory.unfilteredGroups || (group.tags.value? tagKey).isSome

/-- The answer to a read that is answered now. -/
def readNow (memory : MemoryPlane) (machine : Machine) (table : PowerTable) :
    Except ApiError PowerState :=
  match (memory.behaviour machine.id).readError with
  | some error => .error error
  | none => .ok (table.state machine.id)

/-- The answer to an action that is answered now, and the power states after it. -/
def actNow (memory : MemoryPlane) (action : PowerAction) (machine : Machine)
    (table : PowerTable) : Except ApiError Unit × PowerTable :=
  match (memory.behaviour machine.id).actionError with
  | some error => (.error error, table)
  | none => (.ok (), table.set machine.id action.result)

/-- The control plane. -/
def plane (memory : MemoryPlane) : ControlPlane PowerTable Unit where
  machinesFrom := .ok ()
  groupsFrom := .ok ()
  machinePage _ table :=
    ⟨table, [], memory.inventoryDelay, fun later =>
      (page memory.machinesError memory.machines, later)⟩
  groupPage tagKey _ table :=
    ⟨table, [], 0, fun later => (page memory.groupsError (memory.listedGroups tagKey), later)⟩
  power _ machine table :=
    ⟨table, [], (memory.behaviour machine.id).readDelay, fun later =>
      (memory.readNow machine later, later)⟩
  act action _ machine table :=
    ⟨table, [], (memory.behaviour machine.id).actionDelay, fun later =>
      memory.actNow action machine later⟩
  controls := memory.controls

end MemoryPlane

end OffHours
