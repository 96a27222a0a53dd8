/-!
# Labels of domain names in ASCII

A label with letters outside ASCII is written as its ASCII letters followed by a code for the
places of the others: in the order of their code points, the distances between the states of
a walk over all code points and all places, as numbers of varying length to the base 36.
-/

namespace OffHours.Url

/-- The letter or digit for a value below 36. -/
def punyDigit (value : Nat) : Char :=
  if value < 26 then Char.ofNat ('a'.toNat + value) else Char.ofNat ('0'.toNat + (value - 26))

/-- The least digit that does not end a number at a position. -/
def punyThreshold (position bias : Nat) : Nat := max 1 (min 26 (position - bias))

/-- The digits of a number from a position on. A number has at most `size` more digits. -/
def punyDigits (bias : Nat) : (size position number : Nat) → List Char
  | 0, _, _ => []
  | size + 1, position, number =>
    let threshold := punyThreshold position bias
    if number < threshold then [punyDigit number]
    else
      punyDigit (threshold + (number - threshold) % (36 - threshold)) ::
        punyDigits bias size (position + 36) ((number - threshold) / (36 - threshold))

/-- The bias that a distance, divided as often as needed, leads to. -/
def punyBias : (size distance position : Nat) → Nat
  | 0, _, position => position
  | size + 1, distance, position =>
    if 455 < distance then punyBias size (distance / 35) (position + 36)
    else position + 36 * distance / (distance + 38)

/-- The state of a walk over a label. -/
structure PunyWalk where
  /-- The digits so far. -/
  code : List Char := []
  /-- The distance from the last place. -/
  distance : Nat := 0
  /-- The bias of the next number. -/
  bias : Nat := 72
  /-- How many letters have their place. -/
  placed : Nat
  deriving DecidableEq, Repr

namespace PunyWalk

/-- Pass a place of the label on the way through one code point. -/
def pass (plain code : Nat) (walk : PunyWalk) (c : Char) : PunyWalk :=
  if c.toNat < code then { walk with distance := walk.distance + 1 }
  else if c.toNat = code then
    let placed := walk.placed + 1
    let damped := if walk.placed = plain then walk.distance / 700 else walk.distance / 2
    { code := walk.code ++ punyDigits walk.bias (walk.distance + 1) 36 walk.distance
      distance := 0
      bias := punyBias damped (damped + damped / placed) 0
      placed := placed }
  else walk

/-- Walk through the code points of the letters that have no place yet. -/
def walkCodes (label : List Char) (plain : Nat) : (last : Nat) → List Nat → PunyWalk → PunyWalk
  | _, [], walk => walk
  | last, code :: codes, walk =>
    let jump := { walk with distance := walk.distance + (code - last) * (walk.placed + 1) }
    let passed := label.foldl (pass plain code) jump
    walkCodes label plain (code + 1) codes { passed with distance := passed.distance + 1 }

end PunyWalk

/-- A label in ASCII. -/
def asciiLabel (label : List Char) : List Char :=
  if label.all fun c => c.toNat < 128 then label
  else
    let plain := label.filter fun c => c.toNat < 128
    let codes := ((label.filter fun c => 128 ≤ c.toNat).map Char.toNat).mergeSort.eraseDups
    let walk := PunyWalk.walkCodes label plain.length 128 codes { placed := plain.length }
    ['x', 'n', '-', '-'] ++ plain ++ (if plain.isEmpty then [] else ['-']) ++ walk.code

end OffHours.Url
