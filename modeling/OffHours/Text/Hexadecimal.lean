import OffHours.Text.Numeral

/-!
# Hexadecimal digits

Their values, how they are written, and the characters with the code points that they denote.
-/

namespace OffHours.Text

/-- The value of a hexadecimal digit. -/
def hexValue? (c : Char) : Option Nat :=
  if c.isDigit then some (digitValue c)
  else if 'a' ≤ c ∧ c ≤ 'f' then some (c.toNat - 'a'.toNat + 10)
  else if 'A' ≤ c ∧ c ≤ 'F' then some (c.toNat - 'A'.toNat + 10)
  else none

/-- Whether a character is a hexadecimal digit. -/
def isHexDigit (c : Char) : Bool := (hexValue? c).isSome

/-- The hexadecimal digit of a value below sixteen, with capitals. -/
def hexDigit (value : Nat) : Char := (Nat.digitChar value).toUpper

/-- The character with a code point, when there is one. -/
def charOf? (code : Nat) : Option Char :=
  if code.isValidChar then some (Char.ofNat code) else none

end OffHours.Text
