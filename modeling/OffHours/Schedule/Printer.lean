import OffHours.Schedule.Rule

/-!
# Writing schedules

The written form of rules as a schedule tag: one segment per rule, with a comma and a space
between them.
-/

namespace OffHours

/-- The segment that writes a rule. -/
def Rule.segment : Rule → String
  | window days hours => " ".intercalate (days.toList.map Weekday.name ++ [hours.text])
  | weekday day => day.name
  | date (.annual month day) => toString month ++ "/" ++ toString day
  | date (.exact chosen) => chosen.text

/-- The tag that writes a list of rules. -/
def Schedule.write (rules : List Rule) : String := ", ".intercalate (rules.map Rule.segment)

end OffHours
