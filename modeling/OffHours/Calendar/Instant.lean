import OffHours.Calendar.Date

/-!
# Instants

A second of universal time: its date and its time of day.
-/

namespace OffHours

/-- A second of universal time. -/
structure Instant where
  /-- The date. -/
  date : Date
  /-- The hour of the day. -/
  hour : Nat
  /-- The minute of the hour. -/
  minute : Nat
  /-- The second of the minute. -/
  second : Nat
  /-- A day has 24 hours. -/
  hour_lt : hour < 24 := by omega
  /-- An hour has 60 minutes. -/
  minute_lt : minute < 60 := by omega
  /-- A minute has 60 seconds. -/
  second_lt : second < 60 := by omega
  deriving DecidableEq, Repr

namespace Instant

/-- The instant at a time of day, when both the date and the time exist. -/
def ofNumbers? (year : Int) (month day hour minute second : Nat) : Option Instant := do
  let date ← Date.ofNumbers? year month day
  if inside : hour < 24 ∧ minute < 60 ∧ second < 60 then
    some ⟨date, hour, minute, second, inside.1, inside.2.1, inside.2.2⟩
  else none

/-- The day of the week. -/
def weekday (instant : Instant) : Weekday := instant.date.weekday

/-- Hour, minute and second with colons. -/
def timeText (instant : Instant) : String :=
  Text.padded 2 instant.hour ++ ":" ++ Text.padded 2 instant.minute ++ ":" ++
    Text.padded 2 instant.second

/-- Date and time with a blank between them. -/
def clockText (instant : Instant) : String := instant.date.text ++ " " ++ instant.timeText

/-- Date, time and zone offset in the form of RFC 3339. -/
def text (instant : Instant) : String :=
  instant.date.text ++ "T" ++ instant.timeText ++ "+00:00"

/-- Date and time in the form of RFC 3339 with a letter for the zone. -/
def webText (instant : Instant) : String :=
  instant.date.text ++ "T" ++ instant.timeText ++ "Z"

end Instant

end OffHours
