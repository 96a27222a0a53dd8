import OffHours.Log
import OffHours.Schedule.Rule

/-!
# Verdicts

Whether a list of rules asks for shutdown at an instant. The first rule that covers the instant
decides; a defective rule is reported and passed over.
-/

namespace OffHours.Schedule

/-- The position of the first rule that covers the instant. -/
def firstIndex? (rules : List Rule) (now : Instant) : Option Nat :=
  rules.findIdx? (·.active now)

/-- The first rule that covers the instant. -/
def firstMatch? (rules : List Rule) (now : Instant) : Option Rule :=
  rules.find? (·.active now)

/-- Whether some rule asks for shutdown at the instant. -/
def shutdownAt (rules : List Rule) (now : Instant) : Bool := (firstMatch? rules now).isSome

/-- The report about a rule that is passed over as defective. -/
def defectLog (rule : Rule) (now : Instant) : Log :=
  match rule.check now with
  | .ok _ => []
  | .error defect =>
    Log.warn ("Skipping schedule rule '" ++ rule.text ++ "': " ++ defect.message)

/-- The reports of a search: those about the rules before the first that covers the instant. -/
def searchLog (rules : List Rule) (now : Instant) : Log :=
  (rules.takeWhile fun rule => !rule.active now).flatMap (defectLog · now)

end OffHours.Schedule
