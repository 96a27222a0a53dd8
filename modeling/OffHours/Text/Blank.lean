import OffHours.Text.CodePoints

/-!
# Blank characters

The Unicode property `White_Space` and the trimming of texts by it.
-/

namespace OffHours.Text

/-- The code points with the Unicode property `White_Space`. -/
def blankIntervals : List CodeInterval :=
  [(0x9, 0xD), (0x20, 0x20), (0x85, 0x85), (0xA0, 0xA0), (0x1680, 0x1680), (0x2000, 0x200A),
    (0x2028, 0x2029), (0x202F, 0x202F), (0x205F, 0x205F), (0x3000, 0x3000)]

/-- Whether a character is white space in the sense of Unicode. -/
def isBlank (c : Char) : Bool := inIntervals blankIntervals c

/-- The characters without the blanks at both ends. -/
def trimChars (chars : List Char) : List Char :=
  ((chars.dropWhile isBlank).reverse.dropWhile isBlank).reverse

/-- A text without the blanks at both ends. -/
def trim (text : String) : String := String.ofList (trimChars text.toList)

/-- A text of blanks only; the empty text is one. -/
def allBlank (text : String) : Bool := text.toList.all isBlank

/-- No blank is left at the front. -/
theorem head_trimChars {chars : List Char} {c : Char} {rest : List Char}
    (shape : chars.dropWhile isBlank = c :: rest) : isBlank c = false := by
  have front := List.head?_dropWhile_not isBlank chars
  rw [shape] at front
  simpa using front

/-- Nothing is left of blanks. -/
theorem trimChars_blanks {blanks : List Char} (blank : ∀ c ∈ blanks, isBlank c = true) :
    trimChars blanks = [] := by
  have none : blanks.dropWhile isBlank = [] := by
    rw [← List.append_nil blanks, List.dropWhile_append_of_pos blank, List.dropWhile_nil]
  rw [trimChars, none]
  rfl

/-- Trimming drops the blanks around characters that neither begin nor end with one. -/
theorem trimChars_between {lead chars trail : List Char} (before : ∀ c ∈ lead, isBlank c = true)
    (after : ∀ c ∈ trail, isBlank c = true) (front : ∀ c ∈ chars.head?, isBlank c = false)
    (back : ∀ c ∈ chars.getLast?, isBlank c = false) :
    trimChars (lead ++ chars ++ trail) = chars := by
  have keeps : ∀ others rest : List Char, others ≠ [] → (∀ c ∈ others.head?, isBlank c = false) →
      (others ++ rest).dropWhile isBlank = others ++ rest := by
    intro others rest nonempty inked
    cases others with
    | nil => exact absurd rfl nonempty
    | cons c more => exact List.dropWhile_cons_of_neg (by simp [inked c rfl])
  by_cases nonempty : chars = []
  · subst nonempty
    rw [List.append_nil]
    exact trimChars_blanks fun c present =>
      (List.mem_append.mp present).elim (before c) (after c)
  have last : ∀ c ∈ chars.reverse.head?, isBlank c = false := by
    rw [List.head?_reverse]
    exact back
  have behind : ∀ c ∈ trail.reverse, isBlank c = true := fun c present =>
    after c (List.mem_reverse.mp present)
  have shown := keeps chars.reverse [] (by simpa using nonempty) last
  rw [List.append_nil] at shown
  rw [trimChars, List.append_assoc, List.dropWhile_append_of_pos before,
    keeps chars trail nonempty front, List.reverse_append,
    List.dropWhile_append_of_pos behind, shown, List.reverse_reverse]

/-- Behind what is left by trimming only blanks were dropped. -/
theorem trimChars_append (chars : List Char) :
    trimChars chars ++ ((chars.dropWhile isBlank).reverse.takeWhile isBlank).reverse =
      chars.dropWhile isBlank := by
  rw [trimChars, ← List.reverse_append, List.takeWhile_append_dropWhile, List.reverse_reverse]

/-- Blanks stand around what is left by trimming. -/
theorem exists_around_trimChars (chars : List Char) :
    ∃ lead trail, chars = lead ++ trimChars chars ++ trail ∧ (∀ c ∈ lead, isBlank c = true) ∧
      ∀ c ∈ trail, isBlank c = true := by
  have blanks : ∀ text : List Char, ∀ c ∈ text.takeWhile isBlank, isBlank c = true :=
    fun text => List.all_eq_true.mp List.all_takeWhile
  refine ⟨chars.takeWhile isBlank, ((chars.dropWhile isBlank).reverse.takeWhile isBlank).reverse,
    ?_, blanks chars, fun c present => blanks _ c (List.mem_reverse.mp present)⟩
  rw [List.append_assoc, trimChars_append, List.takeWhile_append_dropWhile]

/-- What is left by trimming does not end with a blank. -/
theorem back_trimChars {chars : List Char} {c : Char} (last : c ∈ (trimChars chars).getLast?) :
    isBlank c = false := by
  rw [trimChars, List.getLast?_reverse] at last
  obtain ⟨rest, shape⟩ := List.head?_eq_some_iff.mp last
  exact head_trimChars shape

/-- What is left by trimming does not begin with a blank. -/
theorem front_trimChars {chars : List Char} {c : Char} (first : c ∈ (trimChars chars).head?) :
    isBlank c = false := by
  have head : (chars.dropWhile isBlank).head? = some c := by
    rw [← trimChars_append, List.head?_append, first]
    rfl
  obtain ⟨others, shape⟩ := List.head?_eq_some_iff.mp head
  exact head_trimChars shape

end OffHours.Text
