import OffHours.Text.Numeral

/-!
# Hours of the day

Hours on the 24-hour clock, their 12-hour literals, and windows of hours. A window includes
both ends and wraps past midnight when its first hour is after its last. Windows may be built
with hours that no clock shows; such a window is refused when it is asked about an hour.
-/

namespace OffHours

/-- Half of the day. -/
inductive Meridiem where
  /-- Before noon. -/
  | am
  /-- After noon. -/
  | pm
  deriving DecidableEq, Repr

namespace Meridiem

/-- The two letters of the half. -/
def text : Meridiem → String
  | am => "AM"
  | pm => "PM"

/-- The half with these two letters in any case. -/
def ofLetters? (letters : List Char) : Option Meridiem :=
  match letters.map Char.toLower with
  | ['a', 'm'] => some am
  | ['p', 'm'] => some pm
  | _ => none

end Meridiem

/-- An hour of the day. -/
structure ClockHour where
  /-- Hours since midnight. -/
  hour : Nat
  /-- A day has 24 hours. -/
  hour_lt : hour < 24 := by omega
  deriving Repr

/-- Hours are the same when their numbers are. -/
instance : DecidableEq ClockHour := fun first second =>
  decidable_of_iff (first.hour = second.hour) (by cases first; cases second; simp)

namespace ClockHour

/-- The hour at a number of hours since midnight, when there is one. -/
def ofHour? (hour : Nat) : Option ClockHour :=
  if inside : hour < 24 then some ⟨hour, inside⟩ else none

/-- The hour of a 12-hour literal; midnight is 12 AM and noon 12 PM. -/
def ofTwelve? (hour : Nat) (half : Meridiem) : Option ClockHour :=
  if inside : 1 ≤ hour ∧ hour ≤ 12 then
    match half with
    | .am => some ⟨hour % 12, by omega⟩
    | .pm => some ⟨hour % 12 + 12, by omega⟩
  else none

/-- The number of the 12-hour literal. -/
def twelve (clock : ClockHour) : Nat := if clock.hour % 12 = 0 then 12 else clock.hour % 12

/-- The half of the day. -/
def half (clock : ClockHour) : Meridiem := if clock.hour < 12 then .am else .pm

/-- The 12-hour literal. -/
def text (clock : ClockHour) : String := toString clock.twelve ++ clock.half.text

/-- The literal of an hour denotes it. -/
theorem ofTwelve?_twelve (clock : ClockHour) : ofTwelve? clock.twelve clock.half = some clock := by
  obtain ⟨hour, below⟩ := clock
  by_cases morning : hour < 12
  · by_cases midnight : hour % 12 = 0 <;> simp [ofTwelve?, twelve, half, morning, midnight] <;> omega
  · by_cases noon : hour % 12 = 0 <;> simp [ofTwelve?, twelve, half, morning, noon] <;> omega

end ClockHour

/-- Why a rule cannot be decided: its fields contradict each other or the calendar. -/
inductive RuleDefect where
  /-- A window has an hour that no clock shows. -/
  | hourOutOfRange (first last : Nat)
  /-- A window lies on no day of the week. -/
  | noWeekday
  /-- A yearly date has a month or a day that no year has. -/
  | notADay (month day : Nat)
  deriving DecidableEq, Repr

/-- The text of a defect. -/
def RuleDefect.message : RuleDefect → String
  | hourOutOfRange first last =>
    "hour window " ++ toString first ++ ".." ++ toString last ++ " is outside 0-23"
  | noWeekday => "window has no weekdays"
  | notADay month day =>
    "month " ++ toString month ++ " / day " ++ toString day ++ " is not a calendar date"

/-- A window of hours that includes both ends. -/
structure HourWindow where
  /-- The first hour. -/
  first : Nat
  /-- The last hour. -/
  last : Nat
  deriving DecidableEq, Repr

namespace HourWindow

/-- The window between two hours of the clock. -/
def ofClock (first last : ClockHour) : HourWindow := ⟨first.hour, last.hour⟩

/-- Whether the window wraps past midnight. -/
def crossesMidnight (window : HourWindow) : Bool := window.last < window.first

/-- Whether the window includes an hour. -/
def contains (window : HourWindow) (hour : Nat) : Except RuleDefect Bool :=
  if 23 < window.first ∨ 23 < window.last then
    .error (.hourOutOfRange window.first window.last)
  else if window.first ≤ window.last then
    .ok (window.first ≤ hour && hour ≤ window.last)
  else
    .ok (window.first ≤ hour || hour ≤ window.last)

/-- The hours of the day from the first to the last, counted around the clock. -/
def Spans (window : HourWindow) (hour : Nat) : Prop :=
  (hour + 24 - window.first) % 24 ≤ (window.last + 24 - window.first) % 24

/-- Two 12-hour literals with an arrow; bare hours when one is not on the clock. -/
def text (window : HourWindow) : String :=
  match ClockHour.ofHour? window.first, ClockHour.ofHour? window.last with
  | some first, some last => first.text ++ " -> " ++ last.text
  | _, _ => toString window.first ++ "h -> " ++ toString window.last ++ "h"

end HourWindow

end OffHours
