import OffHours.Calendar.Instant
import OffHours.Schedule.Hour

/-!
# Shutdown rules

A rule says at which instants a machine should be off: during a window of hours on some days of
the week, all day on a day of the week, or all day on a date. `Rule.check` decides a rule at an
instant and refuses a defective one; `Rule.Holds` says when a rule covers an instant without
going through the decision.
-/

namespace OffHours

/-- A date that may come back every year. -/
inductive DateRule where
  /-- The same month and day every year. -/
  | annual (month day : Nat)
  /-- One date. -/
  | exact (date : Date)
  deriving DecidableEq, Repr

namespace DateRule

/-- Whether the instant lies on the date. -/
def check (rule : DateRule) (now : Instant) : Except RuleDefect Bool :=
  match rule with
  | annual month day =>
    if month < 1 ∨ 12 < month ∨ day < 1 ∨ 31 < day then .error (.notADay month day)
    else .ok (now.date.month == month && now.date.day == day)
  | exact date => .ok (now.date == date)

/-- The date as shown in messages. -/
def text : DateRule → String
  | annual month day => "every " ++ Text.padded 2 month ++ "-" ++ Text.padded 2 day
  | exact date => date.text

end DateRule

/-- When a machine should be off. -/
inductive Rule where
  /-- During a window of hours on each of some days of the week. -/
  | window (days : WeekdaySet) (hours : HourWindow)
  /-- All day on a day of the week. -/
  | weekday (day : Weekday)
  /-- All day on a date. -/
  | date (date : DateRule)
  deriving DecidableEq, Repr

namespace Rule

/-- Whether the rule covers the instant. -/
def check (rule : Rule) (now : Instant) : Except RuleDefect Bool :=
  match rule with
  | window days hours =>
    if days.isEmpty then .error .noWeekday
    else do
      let inside ← hours.contains now.hour
      return inside && days.contains now.weekday
  | weekday day => .ok (now.weekday == day)
  | date rule => rule.check now

/-- Whether the rule covers the instant; a defective rule covers none. -/
def active (rule : Rule) (now : Instant) : Bool :=
  match rule.check now with
  | .ok covered => covered
  | .error _ => false

/-- The instants that a rule covers. -/
def Holds (rule : Rule) (now : Instant) : Prop :=
  match rule with
  | window days hours =>
    days.contains now.weekday = true ∧ hours.first ≤ 23 ∧ hours.last ≤ 23 ∧ hours.Spans now.hour
  | weekday day => now.weekday = day
  | date (.annual month day) =>
    (1 ≤ month ∧ month ≤ 12 ∧ 1 ≤ day ∧ day ≤ 31) ∧ now.date.month = month ∧ now.date.day = day
  | date (.exact chosen) => now.date = chosen

/-- The rule as shown in messages. -/
def text : Rule → String
  | window days hours => days.text ++ " " ++ hours.text
  | weekday day => day.name ++ " (all day)"
  | date rule => rule.text ++ " (all day)"

end Rule

end OffHours
