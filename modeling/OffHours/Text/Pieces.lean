/-!
# Pieces between separators

A list cut at every occurrence of a separator, which is the library's cut `List.splitOn`. There
is always one piece more than there are separators, and joining the pieces with the separator
gives the list back. No piece holds the separator, and segments that do not hold it are the
pieces of their join.
-/

namespace OffHours.Text

variable {α : Type}

/-- The pieces of a list between its separators. -/
def pieces [DecidableEq α] (separator : α) : List α → List (List α)
  | [] => [[]]
  | item :: rest =>
    if item = separator then [] :: pieces separator rest
    else
      match pieces separator rest with
      | [] => [[item]]
      | piece :: others => (item :: piece) :: others

/-- There is at least one piece. -/
theorem pieces_ne_nil [DecidableEq α] (separator : α) (items : List α) :
    pieces separator items ≠ [] := by
  induction items with
  | nil => simp [pieces]
  | cons item rest hypothesis =>
    simp only [pieces]
    split
    · simp
    · split <;> simp

/-- The pieces are those of the library's cut. -/
theorem pieces_eq_splitOn [DecidableEq α] (separator : α) (items : List α) :
    pieces separator items = items.splitOn separator := by
  induction items with
  | nil => simp [pieces]
  | cons item rest hypothesis =>
    have present := pieces_ne_nil separator rest
    rw [List.splitOn_cons_eq_if_modifyHead, ← hypothesis]
    simp only [pieces, beq_iff_eq]
    split
    · rfl
    · cases shape : pieces separator rest with
      | nil => exact absurd shape present
      | cons piece others => rfl

/-- The pieces, joined with the separator, are the list. -/
theorem intercalate_pieces [DecidableEq α] (separator : α) (items : List α) :
    [separator].intercalate (pieces separator items) = items := by
  rw [pieces_eq_splitOn, List.intercalate_splitOn]

/-- Segments without the separator are the pieces of their join. -/
theorem pieces_intercalate [DecidableEq α] {separator : α} {segments : List (List α)}
    (clean : ∀ segment ∈ segments, separator ∉ segment) (present : segments ≠ []) :
    pieces separator ([separator].intercalate segments) = segments := by
  rw [pieces_eq_splitOn, List.splitOn_intercalate separator clean present]

/-- In two lists one after the other the last piece of the first goes on with the first piece of
the second. -/
theorem pieces_append [DecidableEq α] {separator : α} {items more last first : List α}
    {front back : List (List α)} (cut : pieces separator items = front ++ [last])
    (further : pieces separator more = first :: back) :
    pieces separator (items ++ more) = front ++ (last ++ first) :: back := by
  induction items generalizing front last with
  | nil =>
    obtain ⟨rfl, rfl⟩ : front = [] ∧ last = [] := by
      cases front <;> simp_all [pieces]
    exact further
  | cons item rest hypothesis =>
    simp only [List.cons_append, pieces] at cut ⊢
    split at cut
    · rename_i same
      rw [if_pos same]
      cases front with
      | nil =>
        have shape := (List.cons.inj cut).2
        exact absurd shape (pieces_ne_nil separator rest)
      | cons piece others =>
        obtain ⟨rfl, shape⟩ := List.cons.inj cut
        rw [hypothesis shape, List.cons_append]
    · rename_i other
      rw [if_neg other]
      split at cut
      · rename_i shape
        exact absurd shape (pieces_ne_nil separator rest)
      · rename_i piece others shape
        cases front with
        | nil =>
          obtain ⟨rfl, rfl⟩ := List.cons.inj cut
          rw [@hypothesis piece [] shape]
          rfl
        | cons opening between =>
          obtain ⟨rfl, rfl⟩ := List.cons.inj cut
          rw [@hypothesis last (piece :: between) shape]
          rfl

/-- A list begins with its first piece. -/
theorem prefix_of_pieces [DecidableEq α] {separator : α} {items first : List α}
    {back : List (List α)} (cut : pieces separator items = first :: back) : first <+: items := by
  induction items generalizing first back with
  | nil =>
    obtain ⟨rfl, -⟩ := List.cons.inj cut
    exact List.nil_prefix
  | cons item rest hypothesis =>
    simp only [pieces] at cut
    split at cut
    · obtain ⟨rfl, -⟩ := List.cons.inj cut
      exact List.nil_prefix
    · split at cut
      · rename_i shape
        exact absurd shape (pieces_ne_nil separator rest)
      · rename_i piece others shape
        obtain ⟨rfl, -⟩ := List.cons.inj cut
        exact List.prefix_cons_inj item |>.mpr (hypothesis shape)

/-- A list ends with its last piece. -/
theorem suffix_of_pieces [DecidableEq α] {separator : α} {items last : List α}
    {front : List (List α)} (cut : pieces separator items = front ++ [last]) : last <:+ items := by
  induction items generalizing front last with
  | nil =>
    obtain rfl : last = [] := by
      cases front <;> simp_all [pieces]
    exact List.nil_suffix
  | cons item rest hypothesis =>
    cases front with
    | nil =>
      -- The only piece is the whole list.
      have whole := intercalate_pieces separator (item :: rest)
      rw [cut, List.nil_append, List.intercalate_singleton] at whole
      exact whole ▸ List.suffix_rfl
    | cons opening between =>
      obtain ⟨further, behind⟩ : ∃ further, pieces separator rest = further ++ [last] := by
        simp only [pieces] at cut
        split at cut
        · exact ⟨between, (List.cons.inj cut).2⟩
        · split at cut
          · rename_i shape
            exact absurd shape (pieces_ne_nil separator rest)
          · rename_i piece others shape
            exact ⟨piece :: between, shape.trans (congrArg (piece :: ·) (List.cons.inj cut).2)⟩
      exact (hypothesis behind).trans (List.suffix_cons item rest)

/-- No piece holds the separator. -/
theorem not_mem_of_mem_pieces [DecidableEq α] {separator : α} {items piece : List α}
    (cut : piece ∈ pieces separator items) : separator ∉ piece := by
  induction items generalizing piece with
  | nil =>
    obtain rfl : piece = [] := by simpa [pieces] using cut
    exact List.not_mem_nil
  | cons item rest hypothesis =>
    simp only [pieces] at cut
    split at cut
    · rcases List.mem_cons.mp cut with rfl | later
      · exact List.not_mem_nil
      · exact hypothesis later
    · rename_i other
      split at cut
      · rename_i shape
        exact absurd shape (pieces_ne_nil separator rest)
      · rename_i first others shape
        rw [shape] at hypothesis
        rcases List.mem_cons.mp cut with rfl | later
        · have clean := hypothesis List.mem_cons_self
          simp [clean, Ne.symm other]
        · exact hypothesis (List.mem_cons_of_mem first later)

end OffHours.Text
