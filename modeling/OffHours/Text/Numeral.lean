/-!
# Numerals

Decimal numerals of ASCII digits: their value, their bounded reading, and writing with leading
zeros up to a least width.
-/

namespace OffHours.Text

/-- The value of a decimal digit. -/
def digitValue (c : Char) : Nat := c.toNat - '0'.toNat

/-- The value of a list of decimal digits, the most significant first. -/
def digitsValue (digits : List Char) : Nat :=
  digits.foldl (fun value c => 10 * value + digitValue c) 0

/-- The number that a non-empty list of decimal digits denotes, when it lies below the bound. -/
def readBelow (bound : Nat) (digits : List Char) : Option Nat :=
  if digits.isEmpty || !digits.all Char.isDigit then none
  else if digitsValue digits < bound then some (digitsValue digits) else none

/-- The 32-bit number that a list of decimal digits denotes; none when it does not fit. -/
def readWord (digits : List Char) : Option UInt32 :=
  (readBelow UInt32.size digits).map UInt32.ofNat

/-- A read number lies below the bound. -/
theorem readBelow_lt {bound value : Nat} {digits : List Char}
    (read : readBelow bound digits = some value) : value < bound := by
  unfold readBelow at read
  split at read
  · contradiction
  · split at read
    · rename_i below
      cases read
      exact below
    · contradiction

/-- The decimal numeral of a number with zeros in front up to a width. -/
def padded (width value : Nat) : String :=
  let digits := Nat.toDigits 10 value
  String.ofList (List.replicate (width - digits.length) '0' ++ digits)

end OffHours.Text
