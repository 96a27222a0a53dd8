import OffHours.Text.Letters

/-!
# Power states

The power state of a machine as it is read right before acting, the codes that the two families
of machines report, and the action that a state calls for.
-/

namespace OffHours

/-- A power state as read. -/
inductive PowerState where
  | running
  | starting
  | stopped
  | stopping
  /-- Stopped, and its hardware released. -/
  | deallocated
  | unknown
  deriving DecidableEq, Repr

namespace PowerState

/-- All power states. -/
def all : List PowerState := [running, starting, stopped, stopping, deallocated, unknown]

/-- The name of the state. -/
def name : PowerState → String
  | running => "Running"
  | starting => "Starting"
  | stopped => "Stopped"
  | stopping => "Stopping"
  | deallocated => "Deallocated"
  | unknown => "Unknown"

/-- The state with this name. -/
def ofName? (text : String) : Option PowerState := all.find? (·.name == text)

/-- Running, or about to. -/
def isUp : PowerState → Bool
  | running | starting => true
  | _ => false

/-- What a status code of the power family begins with. -/
def codePrefix : String := "PowerState/"

/-- Whether a status code is about power. -/
def isPowerCode (code : String) : Bool := codePrefix.toList.isPrefixOf code.toList

/-- The state that a status code of a compute machine reports, with or without its family. -/
def ofComputeCode (code : String) : PowerState :=
  let letters := if isPowerCode code then code.toList.drop codePrefix.length else code.toList
  match Text.fold (String.ofList letters) with
  | "running" => running
  | "starting" => starting
  | "stopped" => stopped
  | "stopping" | "deallocating" => stopping
  | "deallocated" => deallocated
  | _ => unknown

/-- The state that a role status of a classic machine reports. -/
def ofClassicStatus : String → PowerState
  | "ReadyRole" | "Started" => running
  | "StartingVM" | "StartingRole" | "CreatingVM" | "CreatingRole" | "RestartingRole" => starting
  | "StoppingVM" | "StoppingRole" => stopping
  | "StoppedVM" | "Stopped" => stopped
  | "StoppedDeallocated" => deallocated
  | _ => unknown

end PowerState

/-- The power state that a schedule asks for. -/
inductive DesiredPower where
  /-- Running. -/
  | started
  /-- Stopped, and its hardware released. -/
  | deallocated
  deriving DecidableEq, Repr

namespace DesiredPower

/-- What a verdict asks for: deallocation during shutdown. -/
def ofVerdict (shutdown : Bool) : DesiredPower := if shutdown then deallocated else started

/-- The name of the desired state in reports. -/
def name : DesiredPower → String
  | started => "Started"
  | deallocated => "StoppedDeallocated"

end DesiredPower

/-- A change of power. -/
inductive PowerAction where
  /-- Start the machine. -/
  | start
  /-- Stop the machine and release its hardware. -/
  | stop
  deriving DecidableEq, Repr

/-- The name of the action. -/
def PowerAction.name : PowerAction → String
  | start => "start"
  | stop => "stop"

/-- The action that takes an observed state to the desired one; none when it is there already. -/
def planAction (desired : DesiredPower) (observed : PowerState) : Option PowerAction :=
  match desired with
  | .started => if observed.isUp then none else some .start
  | .deallocated => if observed = .deallocated then none else some .stop

end OffHours
