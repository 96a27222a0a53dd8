/-!
# Similar words

How much two words resemble each other: the share of letters of each that have a partner in the
other one nearby, and the share of partners that stand in the same order. Shares are added up
as fractions, so that no rounding decides what counts as similar.
-/

namespace OffHours.CommandLine

/-- A fraction of whole numbers. -/
structure Share where
  /-- What is counted. -/
  part : Nat
  /-- Of how many. -/
  whole : Nat
  deriving DecidableEq, Repr

namespace Share

/-- Whether a fraction is at most another one. -/
def le (left right : Share) : Bool := left.part * right.whole ≤ right.part * left.whole

end Share

/-- The letters of a word that have a partner in another word, each with the place of the
partner. Partners are at most `reach` places apart and belong to one letter only. -/
def partners (reach : Nat) (other : List Char) : (place : Nat) → (taken : List Nat) →
    List Char → List (Char × Nat)
  | _, _, [] => []
  | place, taken, c :: rest =>
    let isPartner (found : Char × Nat) : Bool :=
      found.1 = c && place ≤ found.2 + reach && found.2 ≤ place + reach &&
        !taken.contains found.2
    match other.zipIdx.find? isPartner with
    | some (_, partner) =>
      (c, partner) :: partners reach other (place + 1) (partner :: taken) rest
    | none => partners reach other (place + 1) taken rest

/-- How many places of two lists differ. -/
def differences (left right : List Char) : Nat :=
  ((left.zip right).filter fun pair => pair.1 ≠ pair.2).length

/-- The sum of the three shares: of either word that has a partner, and of partners in order. -/
def similarity (left right : String) : Share :=
  let first := left.toList
  let second := right.toList
  let found := partners (max first.length second.length / 2 - 1) second 0 [] first
  let inOrder := (found.mergeSort fun one other => one.2 ≤ other.2).map Prod.fst
  let swapped := differences (found.map Prod.fst) inOrder / 2
  let count := found.length
  if count = 0 then ⟨0, 1⟩
  else
    ⟨count * count * (first.length + second.length) +
        (count - swapped) * first.length * second.length,
      first.length * second.length * count⟩

/-- The least sum of shares of words that count as similar: seven tenths of all three. -/
def leastSimilarity : Share := ⟨21, 10⟩

/-- The most similar of some words; of several, the last. -/
def mostSimilar? (word : String) (candidates : List String) : Option String :=
  let similar := candidates.filter fun name => leastSimilarity.le (similarity word name)
  similar.foldl (fun best name =>
    match best with
    | none => some name
    | some other =>
      if (similarity word other).le (similarity word name) then some name else some other) none

end OffHours.CommandLine
