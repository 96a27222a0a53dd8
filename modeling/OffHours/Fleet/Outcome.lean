import OffHours.Fleet.ApiError
import OffHours.Fleet.Machine
import OffHours.Fleet.PowerState

/-!
# Outcomes

What became of each machine of a run, the counters of a run, and its failure lines.
-/

namespace OffHours

/-- Why a machine is skipped. -/
inductive SkipReason where
  /-- Neither the machine nor its group carries the schedule tag. -/
  | noSchedule
  /-- The power of such machines cannot be controlled. -/
  | unsupportedType
  deriving DecidableEq, Repr

/-- What became of a machine. -/
inductive Outcome where
  /-- It was left alone. -/
  | skipped (reason : SkipReason)
  /-- It was brought to the desired power by an action, if one was due. -/
  | reconciled (action : Option PowerAction)
  /-- A call failed. -/
  | errored (error : ApiError)
  deriving DecidableEq, Repr

/-- The counters of a run. -/
structure RunStats where
  /-- Machines processed. -/
  processed : Nat := 0
  /-- Machines started. -/
  started : Nat := 0
  /-- Machines stopped. -/
  stopped : Nat := 0
  /-- Machines left alone. -/
  skipped : Nat := 0
  /-- Machines with a failed call. -/
  errored : Nat := 0
  deriving DecidableEq, Repr

namespace RunStats

/-- The counters with one more outcome. -/
def record (stats : RunStats) (outcome : Outcome) : RunStats :=
  let stats := { stats with processed := stats.processed + 1 }
  match outcome with
  | .skipped _ => { stats with skipped := stats.skipped + 1 }
  | .reconciled none => stats
  | .reconciled (some .start) => { stats with started := stats.started + 1 }
  | .reconciled (some .stop) => { stats with stopped := stats.stopped + 1 }
  | .errored _ => { stats with errored := stats.errored + 1 }

/-- The counters of a list of outcomes. -/
def ofOutcomes (outcomes : List Outcome) : RunStats := outcomes.foldl record {}

/-- The counters as reported. -/
def text (stats : RunStats) : String :=
  "processed=" ++ toString stats.processed ++ " started=" ++ toString stats.started ++
    " stopped=" ++ toString stats.stopped ++ " skipped=" ++ toString stats.skipped ++
    " errored=" ++ toString stats.errored

end RunStats

/-- The line about a machine with a failed call. -/
def failureLine (machine : Machine) (error : ApiError) : String :=
  machine.name ++ " (" ++ machine.group ++ "): " ++ error.message ++ " [" ++
    error.errorClass.label ++ "]"

/-- The lines about the machines with a failed call. -/
def failureLines (results : List (Machine × Outcome)) : List String :=
  results.filterMap fun (machine, outcome) =>
    match outcome with
    | .errored error => some (failureLine machine error)
    | _ => none

end OffHours
