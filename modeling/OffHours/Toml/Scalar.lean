import OffHours.Calendar.Date
import OffHours.Data.Decimal
import OffHours.Data.Value
import OffHours.Text.Pieces
import OffHours.Toml.Quoted

/-!
# Words as values

What a word without quotes stands for: a truth value, a whole number, a number with a fraction
or an exponent, a date or a time. Digits of numbers may be grouped by single underscores.
-/

namespace OffHours.Toml

/-- Digits in groups, without the underscores between the groups. -/
def grouped? (isDigit : Char → Bool) (chars : List Char) : Option (List Char) :=
  let groups := Text.pieces '_' chars
  if groups.all fun group => !group.isEmpty && group.all isDigit then some groups.flatten
  else none

/-- Digits in groups of a decimal number. -/
def digits? : Decimal.DigitReader := grouped? Char.isDigit

/-! ## Numbers -/

/-- The value of digits to a base of at most sixteen. -/
def valueInBase (base : Nat) (digits : List Char) : Option Nat := do
  let values ← digits.mapM fun c => (Text.hexValue? c).filter (· < base)
  return values.foldl (fun value digit => base * value + digit) 0

/-- The bases other than ten, by the letter that announces them. -/
def bases : List (Char × Nat) := [('x', 16), ('o', 8), ('b', 2)]

/-- A whole number to a base that is announced. -/
def based? : List Char → Option Int
  | '0' :: letter :: rest => do
    let base ← bases.lookup letter
    let digits ← grouped? Text.isHexDigit rest
    return Int.ofNat (← valueInBase base digits)
  | _ => none

/-- A number to the base ten with or without a sign. -/
def decimal? (chars : List Char) : Option Decimal := do
  let (sign, rest) := Decimal.splitSign chars
  return { ← Decimal.unsigned? digits? rest with negative := sign = some '-' }

/-- A whole number that 128 bits can hold. -/
def integer? (chars : List Char) : Option Value := do
  let number ← (based? chars).or ((decimal? chars).bind Decimal.integer?)
  if -Nat.pow 2 127 ≤ number ∧ number < Nat.pow 2 128 then return .integer number else none

/-- A number with a fraction, an exponent or both, or one that is not finite. -/
def real? (chars : List Char) : Option Value :=
  let (_, size) := Decimal.splitSign chars
  let written := Value.real (String.ofList chars)
  if size = ['i', 'n', 'f'] ∨ size = ['n', 'a', 'n'] then some written
  else
    match decimal? chars with
    | some number => if !number.isWhole && number.isFinite then some written else none
    | none => none

/-! ## Dates and times -/

/-- The number that exactly so many digits at the front denote, and what follows. -/
def number? (width : Nat) (chars : List Char) : Option (Nat × List Char) :=
  let digits := chars.take width
  if digits.length = width ∧ digits.all Char.isDigit then
    some (Text.digitsValue digits, chars.drop width)
  else none

/-- What follows a character that has to be there. -/
def after? (c : Char) : List Char → Option (List Char)
  | [] => none
  | first :: rest => if first = c then some rest else none

/-- What follows a date at the front. -/
def afterDate? (chars : List Char) : Option (List Char) := do
  let (year, rest) ← number? 4 chars
  let (month, rest) ← number? 2 (← after? '-' rest)
  let (day, rest) ← number? 2 (← after? '-' rest)
  let _ ← Date.ofNumbers? year month day
  return rest

/-- What follows hour and minute at the front. -/
def afterClock? (hours : Nat) (chars : List Char) : Option (List Char) := do
  let (hour, rest) ← number? 2 chars
  let (minute, rest) ← number? 2 (← after? ':' rest)
  if hour < hours ∧ minute < 60 then return rest else none

/-- What follows a time at the front: hour and minute, and perhaps seconds with a fraction. -/
def afterTime? (chars : List Char) : Option (List Char) := do
  let rest ← afterClock? 24 chars
  match rest with
  | ':' :: later =>
    let (second, rest) ← number? 2 later
    if 60 < second then none
    match rest with
    | '.' :: digits =>
      if digits.head?.any Char.isDigit then return digits.dropWhile Char.isDigit else none
    | rest => return rest
  | rest => return rest

/-- Whether characters are an offset from universal time, or nothing. -/
def isOffset : List Char → Bool
  | [] => true
  | sign :: rest =>
    if sign = 'Z' || sign = 'z' then rest.isEmpty
    else (sign = '+' || sign = '-') && afterClock? 24 rest == some []

/-- Whether a date and nothing else is written. -/
def isDay (chars : List Char) : Bool := afterDate? chars == some []

/-- A date, a time, or both with a letter or a blank between them. -/
def moment? (chars : List Char) : Option Value :=
  let isMoment :=
    match afterDate? chars with
    | some [] => true
    | some (between :: time) =>
      (between = 'T' || between = 't' || between = ' ') && (afterTime? time).any isOffset
    | none => afterTime? chars == some []
  if isMoment then some (.moment (String.ofList chars)) else none

/-! ## All words -/

/-- A truth value. -/
def boolean? (chars : List Char) : Option Value :=
  if chars = ['t', 'r', 'u', 'e'] then some (.boolean true)
  else if chars = ['f', 'a', 'l', 's', 'e'] then some (.boolean false)
  else none

/-- The value that a word stands for. -/
def scalar? (chars : List Char) : Option Value :=
  (boolean? chars).or <| (integer? chars).or <| (real? chars).or (moment? chars)

end OffHours.Toml
