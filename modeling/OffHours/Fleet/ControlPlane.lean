import OffHours.Fleet.ApiError
import OffHours.Fleet.Machine
import OffHours.Fleet.PowerState
import OffHours.Log

/-!
# The control plane

What a run needs from the outside: an inventory that is listed page by page, and power calls on
machines. A call is made at one time and answered at a later one; `Sent` is a call in between.
A control plane is given by what its calls do to the state `σ` of the outside, so runs against
a table in memory and against a server are runs of the same kind. `κ` says where a listing
stands.
-/

namespace OffHours

/-- A call that was made and is not answered yet. -/
structure Sent (σ α : Type) where
  /-- The outside after the call was made. -/
  world : σ
  /-- What was reported when the call was made. -/
  log : Log
  /-- Milliseconds until the answer. -/
  duration : Nat
  /-- The answer, and the outside after it, from the outside as it is by then. -/
  settle : σ → α × σ

/-- A call that is refused before it is made. -/
def Sent.refused {σ α : Type} (world : σ) (answer : α) : Sent σ α :=
  ⟨world, [], 0, fun later => (answer, later)⟩

/-- A call whose answer is read in another way. -/
def Sent.map {σ α β : Type} (read : α → β) (sent : Sent σ α) : Sent σ β :=
  ⟨sent.world, sent.log, sent.duration, fun later =>
    let (answer, world) := sent.settle later
    (read answer, world)⟩

/-- A call with a report before its own ones. -/
def Sent.reported {σ α : Type} (log : Log) (sent : Sent σ α) : Sent σ α :=
  { sent with log := log ++ sent.log }

/-- One page of a listing. -/
structure Page (κ α : Type) where
  /-- The items of the page. -/
  items : List α
  /-- Where the listing goes on, if it does. -/
  next : Option κ

/-- The outside of a run. -/
structure ControlPlane (σ κ : Type) where
  /-- Where the listing of machines begins. -/
  machinesFrom : Except ApiError κ
  /-- Where the listing of resource groups begins. -/
  groupsFrom : Except ApiError κ
  /-- Ask for a page of machines. -/
  machinePage : κ → σ → Sent σ (Except ApiError (Page κ Machine))
  /-- Ask for a page of the groups that carry a tag. -/
  groupPage : (tagKey : String) → κ → σ → Sent σ (Except ApiError (Page κ ResourceGroup))
  /-- Ask for the power state of a machine. -/
  power : ResourceKind → Machine → σ → Sent σ (Except ApiError PowerState)
  /-- Ask for a change of power. -/
  act : PowerAction → ResourceKind → Machine → σ → Sent σ (Except ApiError Unit)
  /-- The families of machines whose power can be controlled. -/
  controls : ResourceKind → Bool

/-- Which power call was made. -/
inductive PowerCallKind where
  /-- The state was read. -/
  | read
  /-- A change was asked for. -/
  | action (action : PowerAction)
  deriving DecidableEq, Repr

/-- The name of the call. -/
def PowerCallKind.name : PowerCallKind → String
  | read => "read"
  | action change => change.name

/-- A power call that was made. -/
structure PowerCall where
  /-- Milliseconds from the start of the run. -/
  time : Nat
  /-- Which call it was. -/
  kind : PowerCallKind
  /-- The machine it was about. -/
  machine : Machine
  deriving DecidableEq, Repr

/-- A read that was answered. -/
structure PowerAnswer where
  /-- The machine it was about. -/
  machine : Machine
  /-- The power state, or why it could not be read. -/
  answer : Except ApiError PowerState

/-- The call with the id of its machine. -/
def PowerCall.text (call : PowerCall) : String := call.kind.name ++ " " ++ call.machine.id

end OffHours
