import OffHours.Text.Numeral

/-!
# Decimal numbers

Numbers as they are written in data: digits without a needless zero in front, perhaps a
fraction and an exponent. A number with either has to lie in the range of the binary numbers
of 64 bits.
-/

namespace OffHours

/-- A decimal number as written. -/
structure Decimal where
  /-- Whether it is below zero. -/
  negative : Bool := false
  /-- The digits in front of the point. -/
  whole : List Char
  /-- The digits after the point. -/
  fraction : List Char := []
  /-- The power of ten. -/
  exponent : Int := 0
  /-- Whether neither a fraction nor an exponent is written. -/
  isWhole : Bool := true
  deriving DecidableEq, Repr

namespace Decimal

/-- A sign, if there is one, and what it stands in front of. -/
def splitSign : List Char → Option Char × List Char
  | '+' :: rest => (some '+', rest)
  | '-' :: rest => (some '-', rest)
  | rest => (none, rest)

/-- How the digits of one part of a number are read. -/
abbrev DigitReader := List Char → Option (List Char)

/-- One digit or more. -/
def digits? : DigitReader := fun chars =>
  if chars.isEmpty || !chars.all Char.isDigit then none else some chars

/-- A number with a sign. -/
def signed? (digits? : DigitReader) (chars : List Char) : Option Int := do
  let (sign, rest) := splitSign chars
  let size := Int.ofNat (Text.digitsValue (← digits? rest))
  return if sign = some '-' then -size else size

/-- The exponent after its letter. -/
def exponent? (digits? : DigitReader) : List Char → Option Int
  | [] => some 0
  | letter :: rest => if letter = 'e' ∨ letter = 'E' then signed? digits? rest else none

/-- The digits after the point. -/
def fraction? (digits? : DigitReader) : List Char → Option (List Char)
  | [] => some []
  | point :: rest => if point = '.' then digits? rest else none

/-- The digits in front of the point. -/
def whole? (digits? : DigitReader) (chars : List Char) : Option (List Char) := do
  let digits ← digits? chars
  if digits.head? = some '0' ∧ digits.length > 1 then none else some digits

/-- A number without a sign. -/
def unsigned? (digits? : DigitReader) (chars : List Char) : Option Decimal := do
  let isExponent (c : Char) : Bool := c = 'e' || c = 'E'
  let (number, power) := chars.span fun c => !isExponent c
  let (front, back) := number.span fun c => c ≠ '.'
  return {
    whole := ← whole? digits? front
    fraction := ← fraction? digits? back
    exponent := ← exponent? digits? power
    isWhole := back.isEmpty && power.isEmpty }

/-- The least number that is nearer to infinity than to the greatest finite number of 64 bits. -/
def overflow : Nat := Nat.pow 2 1024 - Nat.pow 2 970

/-- Whether the number is in the range of the binary numbers of 64 bits. -/
def isFinite (number : Decimal) : Bool :=
  let digits := (number.whole ++ number.fraction).dropWhile (· = '0')
  let exponent := number.exponent - number.fraction.length
  let magnitude := exponent + digits.length
  if digits.isEmpty || magnitude < 309 then true
  else if 309 < magnitude then false
  else
    Text.digitsValue digits * Nat.pow 10 exponent.toNat < overflow * Nat.pow 10 (-exponent).toNat

/-- The number when it is whole. -/
def integer? (number : Decimal) : Option Int :=
  let size := Int.ofNat (Text.digitsValue number.whole)
  if number.isWhole then some (if number.negative then -size else size) else none

end Decimal

end OffHours
