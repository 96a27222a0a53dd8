import OffHours.Calendar.Weekday
import OffHours.Text.Numeral

/-!
# Dates

Dates of the Gregorian calendar, extended to the years before its introduction; year 0 is the
year before year 1. The calendar ends at a first and a last year: beyond them there is no date.
-/

namespace OffHours

/-- Whether a year has a February 29. -/
def isLeapYear (year : Int) : Bool :=
  year % 4 == 0 && (year % 100 != 0 || year % 400 == 0)

/-- The number of days of a month; none outside 1 to 12. -/
def daysInMonth (year : Int) : Nat → Nat
  | 1 => 31
  | 2 => if isLeapYear year then 29 else 28
  | 3 => 31
  | 4 => 30
  | 5 => 31
  | 6 => 30
  | 7 => 31
  | 8 => 31
  | 9 => 30
  | 10 => 31
  | 11 => 30
  | 12 => 31
  | _ => 0

/-- No month has more than 31 days. -/
theorem daysInMonth_le (year : Int) (month : Nat) : daysInMonth year month ≤ 31 := by
  unfold daysInMonth
  split
  all_goals first
    | omega
    | split <;> omega

/-- The first year of the calendar. -/
def firstYear : Int := -262143

/-- The last year of the calendar. -/
def lastYear : Int := 262142

/-- Whether year, month and day number a day of the calendar. -/
def isDate (year : Int) (month day : Nat) : Bool :=
  firstYear ≤ year && year ≤ lastYear && 1 ≤ day && day ≤ daysInMonth year month

/-- A day of the calendar. -/
structure Date where
  /-- Year, possibly zero or negative. -/
  year : Int
  /-- Month from 1. -/
  month : Nat
  /-- Day of the month from 1. -/
  day : Nat
  /-- The three numbers are those of a day. -/
  valid : isDate year month day = true
  deriving DecidableEq, Repr

namespace Date

/-- The date with these numbers, when it exists. -/
def ofNumbers? (year : Int) (month day : Nat) : Option Date :=
  if valid : isDate year month day = true then some ⟨year, month, day, valid⟩ else none

/-- Days of the months before a month of a year. -/
def daysBefore (year : Int) : (month : Nat) → Nat
  | 0 | 1 => 0
  | month + 2 => daysBefore year (month + 1) + daysInMonth year (month + 1)

/-- Days since the first of January of year 1. -/
def dayNumber (date : Date) : Int :=
  let past := date.year - 1
  365 * past + past / 4 - past / 100 + past / 400 + daysBefore date.year date.month + (date.day - 1)

/-- The day of the week; the first day of year 1 is a Monday. -/
def weekday (date : Date) : Weekday :=
  Weekday.ofIndex ⟨(date.dayNumber % 7).toNat, by omega⟩

/-- A year in messages: four digits, and a sign in front when it is negative or longer. -/
def yearText (year : Int) : String :=
  if 0 ≤ year ∧ year ≤ 9999 then Text.padded 4 year.toNat
  else if 0 ≤ year then "+" ++ Text.padded 4 year.toNat
  else "-" ++ Text.padded 4 year.natAbs

/-- Year, month and day with dashes. -/
def text (date : Date) : String :=
  yearText date.year ++ "-" ++ Text.padded 2 date.month ++ "-" ++ Text.padded 2 date.day

/-- A date is found exactly under its own numbers. -/
theorem ofNumbers?_eq_some_iff {year : Int} {month day : Nat} {date : Date} :
    ofNumbers? year month day = some date ↔
      date.year = year ∧ date.month = month ∧ date.day = day := by
  unfold ofNumbers?
  split
  · rename_i valid
    constructor
    · intro found
      cases found
      exact ⟨rfl, rfl, rfl⟩
    · rintro ⟨rfl, rfl, rfl⟩
      rfl
  · rename_i invalid
    constructor
    · intro found
      contradiction
    · rintro ⟨rfl, rfl, rfl⟩
      exact absurd date.valid invalid

/-- No date has numbers that are not those of a day. -/
theorem ofNumbers?_eq_none_iff {year : Int} {month day : Nat} :
    ofNumbers? year month day = none ↔ isDate year month day = false := by
  simp [ofNumbers?]

/-- The month of a date is one of twelve. -/
theorem month_bounds (date : Date) : 1 ≤ date.month ∧ date.month ≤ 12 := by
  have valid := date.valid
  simp only [isDate, Bool.and_eq_true, decide_eq_true_eq] at valid
  constructor
  · by_cases zero : date.month = 0
    · rw [zero] at valid
      simp [daysInMonth] at valid
      omega
    · omega
  · by_cases large : date.month ≤ 12
    · exact large
    · have none : daysInMonth date.year date.month = 0 := by
        unfold daysInMonth
        split <;> omega
      omega

end Date

end OffHours
