import OffHours.Schedule.Token

/-!
# Faults of segments

Why a segment of a schedule tag is left out. Each cause has one text.
-/

namespace OffHours

/-- What is wrong with a time range. -/
inductive RangeFault where
  /-- An arrow stands where a range should begin. -/
  | noFirstHour
  /-- The first hour is not followed by an arrow. -/
  | noArrow (first : ClockHour)
  /-- The segment ends after the arrow. -/
  | noLastHour (first : ClockHour)
  /-- A number is not followed by a half of the day. -/
  | noMeridiem (hour : UInt32)
  /-- Another token stands in place of an hour. -/
  | notAnHour (found : Token)
  /-- The segment ends in place of an hour. -/
  | hourExpected
  deriving DecidableEq, Repr

/-- The text of a range fault. -/
def RangeFault.message : RangeFault → String
  | noFirstHour => "separator without a start hour"
  | noArrow first => "expected '->' after " ++ first.text
  | noLastHour first => "missing end hour after " ++ first.text ++ " ->"
  | noMeridiem hour => "hour " ++ toString hour.toNat ++ " has no AM/PM"
  | notAnHour found => "expected an hour, found " ++ found.text
  | hourExpected => "expected an hour"

/-- Which date does not exist. -/
inductive DateFault where
  /-- No such day in that year. -/
  | noSuchDate (year month day : Nat)
  /-- No such day in any year. -/
  | noSuchDay (month day : Nat)
  /-- The yearly date before does not exist in this year. -/
  | notInYear (year : Nat)
  deriving DecidableEq, Repr

/-- The text of a date fault. -/
def DateFault.message : DateFault → String
  | noSuchDate year month day =>
    toString year ++ "-" ++ Text.padded 2 month ++ "-" ++ Text.padded 2 day
  | noSuchDay month day => "month " ++ toString month ++ " day " ++ toString day
  | notInYear year => "previous date does not exist in " ++ toString year

/-- Why a segment is left out. -/
inductive SegmentFault where
  /-- Nothing is written between the commas. -/
  | empty
  /-- A time range has no day of the week, its own or held back. -/
  | timeWithoutWeekday
  /-- A segment has two or more time ranges. -/
  | multipleTimeRanges
  /-- A time range is incomplete. -/
  | malformedTimeRange (fault : RangeFault)
  /-- An hour literal is not between 1 and 12. -/
  | invalidHour (literal : String)
  /-- A date does not exist. -/
  | invalidDate (fault : DateFault)
  /-- Nothing in the segment has a meaning. -/
  | unrecognized
  deriving DecidableEq, Repr

/-- The text of a segment fault. -/
def SegmentFault.message : SegmentFault → String
  | empty => "empty segment"
  | timeWithoutWeekday => "time range has no weekday"
  | multipleTimeRanges => "more than one time range in segment"
  | malformedTimeRange fault => "malformed time range: " ++ fault.message
  | invalidHour literal =>
    "invalid hour '" ++ literal ++ "' (expected 1-12 followed by AM or PM)"
  | invalidDate fault => "invalid date: " ++ fault.message
  | unrecognized => "no weekday, time range or date recognized"

end OffHours
