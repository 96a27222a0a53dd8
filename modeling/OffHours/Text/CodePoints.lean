/-!
# Sets of code points

A property of characters given by a standard is a list of closed intervals of code points.
Membership is decided by looking for an interval that holds the code point.
-/

namespace OffHours.Text

/-- A closed interval of code points, its two ends. -/
abbrev CodeInterval := Nat × Nat

/-- Whether some interval of the list holds the code point of the character. -/
def inIntervals (intervals : List CodeInterval) (c : Char) : Bool :=
  intervals.any fun (low, high) => low ≤ c.toNat && c.toNat ≤ high

/-- A character is in the set exactly when one of the intervals holds it. -/
theorem inIntervals_iff {intervals : List CodeInterval} {c : Char} :
    inIntervals intervals c = true ↔
      ∃ interval ∈ intervals, interval.1 ≤ c.toNat ∧ c.toNat ≤ interval.2 := by
  simp [inIntervals]

end OffHours.Text
