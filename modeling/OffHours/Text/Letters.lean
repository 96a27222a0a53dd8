/-!
# Letters without case

Names of the management interface are compared without regard to the case of ASCII letters.
Two texts are the same name exactly when their folded forms are equal; letters outside ASCII
keep their case.
-/

namespace OffHours.Text

/-- The text with its ASCII capitals made small. -/
def fold (text : String) : String := String.ofList (text.toList.map Char.toLower)

/-- Whether two texts differ at most in the case of ASCII letters. -/
def sameName (left right : String) : Bool := fold left == fold right

/-- Sameness is equality of the folded texts. -/
theorem sameName_iff {left right : String} :
    sameName left right = true ↔ fold left = fold right := by
  simp [sameName]

/-- A text begins with another one exactly when it goes on after it. -/
theorem isPrefixOf_iff {front text : String} :
    front.toList.isPrefixOf text.toList = true ↔ ∃ rest, text = front ++ rest := by
  rw [List.isPrefixOf_iff_prefix]
  constructor
  · rintro ⟨rest, whole⟩
    refine ⟨String.ofList rest, String.toList_injective ?_⟩
    rw [String.toList_append, String.toList_ofList, whole]
  · rintro ⟨rest, rfl⟩
    exact ⟨rest.toList, String.toList_append.symm⟩

end OffHours.Text
