import Mathlib.Data.List.Basic
import OffHours.Proofs.Schedule.Scanning
import OffHours.Proofs.Schedule.Siblings

/-!
# Words and marks of a text

`Token.chunks` cuts a text into its words and marks as they are written, and each of them has a
token of its own: `scan_eq_mapM`. Where neither a word nor an arrow runs over the seam of two
texts, the chunks of both together are those of one after those of the other: `chunks_append`. So
blanks at a seam say nothing, and what a text says can be told from the parts of it. There is always
a seam at blanks, so texts with blanks between them are read apart: `blanks_only_separate`.
-/

namespace OffHours

/-- No blank lies among the letters and numbers from 128 on. -/
theorem wideAlphanumeric_apart {wide gap : Text.CodeInterval}
    (listed : wide ∈ Text.wideAlphanumeric) (among : gap ∈ Text.blankIntervals) :
    wide.2 < gap.1 ∨ gap.2 < wide.1 := by
  -- The table has several hundred intervals, so the order is computed on plain numerals.
  have computed : (Text.wideAlphanumeric.all fun wide => Text.blankIntervals.all fun gap =>
      Nat.blt wide.2 gap.1 || Nat.blt gap.2 wide.1) = true := by decide +kernel
  have here := List.all_eq_true.mp (List.all_eq_true.mp computed wide listed) gap among
  rwa [Bool.or_eq_true, Nat.blt_eq, Nat.blt_eq] at here

/-- A blank is neither a letter nor a number. -/
theorem not_isAlphanumeric_of_isBlank {c : Char} (blank : Text.isBlank c = true) :
    Text.isAlphanumeric c = false := by
  rw [Bool.eq_false_iff, Text.isAlphanumeric]
  intro letter
  split at letter
  · rw [not_isBlank_of_isAlphanum letter] at blank
    cases blank
  · obtain ⟨wide, listed, low, high⟩ := Text.inIntervals_iff.mp letter
    obtain ⟨gap, among, first, last⟩ := Text.inIntervals_iff.mp blank
    have apart := wideAlphanumeric_apart listed among
    omega

/-- A blank is none of the marks of a tag. -/
theorem ne_of_isBlank {c mark : Char} (blank : Text.isBlank c = true)
    (inked : Text.isBlank mark = false) : c ≠ mark := by
  rintro rfl
  rw [blank] at inked
  cases inked

namespace Token

/-- The words and marks of a text. A word is a longest run of letters and digits, and a dash with
an angle behind it is one mark. -/
def chunks : List Char → List (List Char)
  | [] => []
  | '-' :: '>' :: rest => ['-', '>'] :: chunks rest
  | c :: rest =>
    if Text.isBlank c then chunks rest
    else if Text.isAlphanumeric c then
      (c :: rest.takeWhile Text.isAlphanumeric) :: chunks (rest.dropWhile Text.isAlphanumeric)
    else [c] :: chunks rest
termination_by chars => chars.length
decreasing_by
  all_goals simp only [List.length_cons]
  all_goals first
    | omega
    | exact Nat.lt_succ_of_le (List.dropWhile_sublist _).length_le

/-- The token of a mark. -/
def ofMark : List Char → Token
  | ['-', '>'] | ['>'] => arrow
  | ['-'] => mark .dash
  | ['/'] => mark .slash
  | other => word (String.ofList other)

/-- The token of a word or a mark. -/
def ofChunk (chunk : List Char) : Except SegmentFault Token :=
  if chunk.any Text.isAlphanumeric then ofWord chunk else .ok (ofMark chunk)

/-- An arrow is a chunk. -/
theorem chunks_arrow (rest : List Char) :
    chunks ('-' :: '>' :: rest) = ['-', '>'] :: chunks rest := by
  rw [chunks]

section Front

variable {c : Char} {rest : List Char}

/-- A blank in front is in no chunk. -/
theorem chunks_blank (blank : Text.isBlank c = true) : chunks (c :: rest) = chunks rest := by
  have noArrow : ∀ later, c = '-' → rest = '>' :: later → False := fun _ dash _ =>
    ne_of_isBlank blank (by decide) dash
  rw [chunks, if_pos blank]
  exact noArrow

/-- A letter or digit in front begins a word. -/
theorem chunks_word (letter : Text.isAlphanumeric c = true) :
    chunks (c :: rest) =
      (c :: rest.takeWhile Text.isAlphanumeric) ::
        chunks (rest.dropWhile Text.isAlphanumeric) := by
  have ink : ¬ Text.isBlank c = true := fun blank => by
    rw [not_isAlphanumeric_of_isBlank blank] at letter
    cases letter
  rw [chunks, if_neg ink, if_pos letter]
  rintro later rfl -
  revert letter
  decide

/-- Another character in front that begins no arrow is a chunk. -/
theorem chunks_mark (ink : Text.isBlank c = false) (other : Text.isAlphanumeric c = false)
    (noArrow : ¬ (c = '-' ∧ rest.head? = some '>')) : chunks (c :: rest) = [c] :: chunks rest := by
  rw [chunks, if_neg (by simp [ink]), if_neg (by simp [other])]
  rintro later rfl rfl
  exact noArrow ⟨rfl, rfl⟩

end Front

/-! ## Tokens of chunks -/

/-- The tokens of chunks go from the first on. -/
theorem mapM_ofChunk_cons {chunk : List Char} {token : Token} (rest : List (List Char))
    (said : ofChunk chunk = .ok token) :
    (chunk :: rest).mapM ofChunk = cons token (rest.mapM ofChunk) := by
  rw [List.mapM_cons, said]
  cases rest.mapM ofChunk with
  | error fault => rfl
  | ok tokens => rfl

/-- The chunk of a word has the token of the word. -/
theorem ofChunk_word {c : Char} {letters : List Char} (letter : Text.isAlphanumeric c = true) :
    ofChunk (c :: letters) = ofWord (c :: letters) := by
  simp [ofChunk, letter]

/-- A mark of one character has its own token, or is a word without meaning. -/
theorem ofChunk_mark {c : Char} (other : Text.isAlphanumeric c = false) :
    ofChunk [c] = .ok (ofMark [c]) := by
  simp [ofChunk, other]

/-- The tokens of a text are those of its chunks. -/
theorem scan_eq_mapM (chars : List Char) : scan chars = (chunks chars).mapM ofChunk := by
  fun_induction scan chars with
  | case1 =>
    rw [chunks]
    rfl
  | case2 rest hypothesis =>
    rw [chunks_arrow, mapM_ofChunk_cons _ rfl, hypothesis]
    rfl
  | case3 rest noArrow hypothesis =>
    have apart : ¬ ('-' = '-' ∧ rest.head? = some '>') := by
      rintro ⟨-, head⟩
      obtain ⟨later, shape⟩ := List.head?_eq_some_iff.mp head
      exact noArrow later shape
    rw [chunks_mark (by decide) (by decide) apart, mapM_ofChunk_cons _ rfl, hypothesis]
    rfl
  | case4 rest hypothesis =>
    rw [chunks_mark (by decide) (by decide) (by simp), mapM_ofChunk_cons _ rfl, hypothesis]
    rfl
  | case5 rest hypothesis =>
    rw [chunks_mark (by decide) (by decide) (by simp), mapM_ofChunk_cons _ rfl, hypothesis]
    rfl
  | case6 c rest _ _ _ _ blank hypothesis => rw [chunks_blank blank, hypothesis]
  | case7 c rest _ _ _ _ _ letter token read hypothesis =>
    rw [chunks_word letter, mapM_ofChunk_cons _ ((ofChunk_word letter).trans read), hypothesis]
  | case8 c rest _ _ _ _ _ letter fault read =>
    rw [chunks_word letter, List.mapM_cons, ofChunk_word letter, read]
    rfl
  | case9 c rest _ notDash notAngle notSlash ink other hypothesis =>
    have ink : Text.isBlank c = false := by simpa using ink
    have other : Text.isAlphanumeric c = false := by simpa using other
    have plain : ofMark [c] = word c.toString := by
      unfold ofMark
      split <;> simp_all [Char.toString]
    rw [chunks_mark ink other fun dash => notDash dash.1, mapM_ofChunk_cons _ (ofChunk_mark other),
      plain, hypothesis]

/-! ## Seams -/

/-- Neither a word nor an arrow runs over the seam of two texts. -/
structure Seam (front back : List Char) : Prop where
  /-- A word at the end of the first stops there. -/
  word : (∀ c ∈ front.getLast?, Text.isAlphanumeric c = false) ∨ Stops back
  /-- A dash at its end begins no arrow. -/
  arrow : front.getLast? = some '-' → back.head? ≠ some '>'

namespace Seam

variable {front back : List Char}

/-- Behind nothing there is a seam. -/
theorem nil_left (back : List Char) : Seam [] back := ⟨Or.inl (by simp), by simp⟩

/-- In front of nothing there is a seam. -/
theorem nil_right (front : List Char) : Seam front [] := ⟨Or.inr stops_nil, by simp⟩

/-- There is a seam in front of a mark that ends no arrow. -/
theorem before_mark {mark : Char} (other : Text.isAlphanumeric mark = false)
    (whole : ¬ (front.getLast? = some '-' ∧ mark = '>')) : Seam front (mark :: back) :=
  ⟨Or.inr (stops_cons other), fun dash angle => whole ⟨dash, Option.some.inj angle⟩⟩

/-- There is a seam behind a mark that begins no arrow. -/
theorem behind_mark {mark : Char} (other : Text.isAlphanumeric mark = false)
    (whole : ¬ (mark = '-' ∧ back.head? = some '>')) : Seam (front ++ [mark]) back := by
  have last : (front ++ [mark]).getLast? = some mark := by simp
  refine ⟨Or.inl fun c ends => ?_, fun dash angle => whole ⟨?_, angle⟩⟩
  · obtain rfl := Option.some.inj (last.symm.trans ends)
    exact other
  · exact Option.some.inj (last.symm.trans dash)

/-- There is a seam in front of a word that goes on with nothing before it. -/
theorem before_word (opens : ∀ c ∈ front.getLast?, Text.isAlphanumeric c = false)
    (letter : ∀ c ∈ back.head?, Text.isAlphanumeric c = true) : Seam front back := by
  refine ⟨Or.inl opens, fun _ angle => ?_⟩
  have plain := letter '>' angle
  revert plain
  decide

/-- There is a seam behind a word that goes on with nothing after it. -/
theorem behind_word (letter : ∀ c ∈ front.getLast?, Text.isAlphanumeric c = true)
    (closes : Stops back) : Seam front back := by
  refine ⟨Or.inr closes, fun dash _ => ?_⟩
  have plain := letter '-' dash
  revert plain
  decide

/-- A seam is one between less of the two texts, too. -/
theorem within {ahead behind : List Char} (seam : Seam (ahead ++ front) (back ++ behind)) :
    Seam front back := by
  have last : ∀ c ∈ front.getLast?, c ∈ (ahead ++ front).getLast? := by
    intro c ends
    rw [List.getLast?_append, ends]
    rfl
  have head : ∀ c ∈ back.head?, c ∈ (back ++ behind).head? := by
    intro c begins
    rw [List.head?_append, begins]
    rfl
  refine ⟨seam.word.imp (fun other c ends => other c (last c ends))
    (fun stops c begins => stops c (head c begins)), fun dash angle => ?_⟩
  exact seam.arrow (last _ dash) (head _ angle)

/-- A seam behind a text is one behind the end of it. -/
theorem suffix {ahead : List Char} (seam : Seam (ahead ++ front) back) : Seam front back := by
  rw [← List.append_nil back] at seam
  exact seam.within

/-- A seam behind a text is one behind the text without its first character. -/
theorem tail {c : Char} (seam : Seam (c :: front) back) : Seam front back := by
  rw [← List.singleton_append] at seam
  exact seam.suffix

/-- A word that reaches a seam ends there. -/
theorem span {c : Char} (seam : Seam (c :: front) back) (letter : Text.isAlphanumeric c = true) :
    (front ++ back).takeWhile Text.isAlphanumeric = front.takeWhile Text.isAlphanumeric ∧
      (front ++ back).dropWhile Text.isAlphanumeric =
        front.dropWhile Text.isAlphanumeric ++ back := by
  by_cases whole : ∀ other ∈ front, Text.isAlphanumeric other = true
  · have stops : Stops back := by
      refine seam.word.resolve_left fun other => ?_
      have ends := other _ (List.getLast?_eq_some_getLast (List.cons_ne_nil c front))
      have letters : ∀ some ∈ c :: front, Text.isAlphanumeric some = true :=
        List.forall_mem_cons.mpr ⟨letter, whole⟩
      rw [letters _ (List.getLast_mem _)] at ends
      cases ends
    have alone := span_word whole stops_nil
    rw [List.append_nil] at alone
    rw [alone.1, alone.2]
    exact span_word whole stops
  · have short : (front.takeWhile Text.isAlphanumeric).length ≠ front.length := fun full =>
      whole fun other present => by
        rw [← (List.takeWhile_sublist _).eq_of_length full] at present
        exact List.all_eq_true.mp List.all_takeWhile other present
    have left : (front.dropWhile Text.isAlphanumeric).isEmpty = false := by
      rw [Bool.eq_false_iff, ne_eq, List.isEmpty_iff]
      intro none
      have parts := List.takeWhile_append_dropWhile (p := Text.isAlphanumeric) (l := front)
      rw [none, List.append_nil] at parts
      exact short (congrArg List.length parts)
    rw [List.takeWhile_append, if_neg short, List.dropWhile_append, left]
    exact ⟨rfl, rfl⟩

end Seam

/-- The chunks of two texts with a seam between them are those of one and then those of the
other. -/
theorem chunks_append {front back : List Char} (seam : Seam front back) :
    chunks (front ++ back) = chunks front ++ chunks back := by
  fun_induction chunks front with
  | case1 => rfl
  | case2 rest hypothesis =>
    rw [List.cons_append, List.cons_append, chunks_arrow, hypothesis seam.tail.tail]
    rfl
  | case3 c rest _ blank hypothesis =>
    rw [List.cons_append, chunks_blank blank, hypothesis seam.tail]
  | case4 c rest _ ink letter hypothesis =>
    obtain ⟨taken, dropped⟩ := seam.span letter
    have later : Seam (rest.dropWhile Text.isAlphanumeric) back := by
      rw [← List.takeWhile_append_dropWhile (p := Text.isAlphanumeric) (l := rest),
        ← List.cons_append] at seam
      exact seam.suffix
    rw [List.cons_append, chunks_word letter, taken, dropped, hypothesis later]
    rfl
  | case5 c rest noArrow ink other hypothesis =>
    have apart : ¬ (c = '-' ∧ (rest ++ back).head? = some '>') := by
      rintro ⟨rfl, angle⟩
      cases rest with
      | nil => exact seam.arrow rfl angle
      | cons next rest =>
        obtain rfl := Option.some.inj angle
        exact noArrow rest rfl rfl
    rw [List.cons_append, chunks_mark (by simpa using ink) (by simpa using other) apart,
      hypothesis seam.tail]
    rfl

/-- The tokens of two readings one after the other, or the fault of the first that has one. -/
def append (first second : Except SegmentFault (List Token)) : Except SegmentFault (List Token) :=
  match first, second with
  | .error fault, _ => .error fault
  | .ok _, .error fault => .error fault
  | .ok front, .ok back => .ok (front ++ back)

/-- Two texts with a seam between them are read one after the other. -/
theorem scan_append {front back : List Char} (seam : Seam front back) :
    scan (front ++ back) = append (scan front) (scan back) := by
  have parts : scan (front ++ back) = (do
      let first ← scan front
      let second ← scan back
      return first ++ second) := by
    simp only [scan_eq_mapM, chunks_append seam, List.mapM_append]
  rw [parts]
  cases scan front with
  | error fault => rfl
  | ok first =>
    cases scan back with
    | error fault => rfl
    | ok second => rfl

end Token

/-! ## Blanks -/

/-- One blank or more. -/
structure IsGap (run : List Char) : Prop where
  /-- There is a character. -/
  nonempty : run ≠ []
  /-- Every character is blank. -/
  blank : ∀ c ∈ run, Text.isBlank c = true

/-- Blanks hold no comma. -/
theorem IsGap.comma_not_mem {run : List Char} (gap : IsGap run) : ',' ∉ run := fun comma =>
  ne_of_isBlank (gap.blank ',' comma) (by decide) rfl

namespace Token

variable {front back run : List Char}

/-- There is a seam in front of blanks. -/
theorem seam_gap (gap : IsGap run) : Seam front (run ++ back) := by
  obtain ⟨nonempty, blank⟩ := gap
  cases run with
  | nil => exact absurd rfl nonempty
  | cons c rest =>
    have first := blank c List.mem_cons_self
    refine ⟨Or.inr (stops_cons (not_isAlphanumeric_of_isBlank first)), fun _ angle => ?_⟩
    exact ne_of_isBlank first (by decide) (Option.some.inj angle)

/-- There is a seam behind blanks. -/
theorem gap_seam (gap : IsGap run) : Seam (front ++ run) back := by
  have last : ∀ c ∈ (front ++ run).getLast?, Text.isBlank c = true := by
    intro c ends
    rw [List.getLast?_append_of_ne_nil _ gap.nonempty] at ends
    exact gap.blank c (List.mem_of_getLast? ends)
  refine ⟨Or.inl fun c ends => not_isAlphanumeric_of_isBlank (last c ends), fun dash => ?_⟩
  exact absurd rfl (ne_of_isBlank (last '-' dash) (by decide))

/-- Blanks in front are in no chunk. -/
theorem chunks_blanks (blank : ∀ c ∈ run, Text.isBlank c = true) :
    chunks (run ++ back) = chunks back := by
  induction run with
  | nil => rfl
  | cons c rest hypothesis =>
    obtain ⟨first, others⟩ := List.forall_mem_cons.mp blank
    rw [List.cons_append, chunks_blank first, hypothesis others]

/-- The chunks around blanks are those before and those behind them. -/
theorem chunks_gap (gap : IsGap run) :
    chunks (front ++ run ++ back) = chunks front ++ chunks back := by
  rw [List.append_assoc, chunks_append (seam_gap gap), chunks_blanks gap.blank]

/-- Blanks behind are in no chunk. -/
theorem chunks_append_blanks (blank : ∀ c ∈ run, Text.isBlank c = true) :
    chunks (front ++ run) = chunks front := by
  by_cases none : run = []
  · rw [none, List.append_nil]
  · have around : chunks (front ++ run ++ []) = chunks front ++ chunks [] :=
      chunks_gap ⟨none, blank⟩
    rwa [List.append_nil, chunks, List.append_nil] at around

/-- Blanks in front do not change how a text is read. -/
theorem scan_blanks_append (blank : ∀ c ∈ run, Text.isBlank c = true) :
    scan (run ++ back) = scan back := by
  rw [scan_eq_mapM, chunks_blanks blank, ← scan_eq_mapM]

/-- Blanks behind do not change how a text is read. -/
theorem scan_append_blanks (blank : ∀ c ∈ run, Text.isBlank c = true) :
    scan (front ++ run) = scan front := by
  rw [scan_eq_mapM, chunks_append_blanks blank, ← scan_eq_mapM]

/-- Blanks have no token. -/
theorem scan_gap (gap : IsGap run) : scan run = .ok [] := by
  rw [← List.nil_append run, scan_append_blanks gap.blank, scan_nil]

/-- Texts with blanks between them are read one after the other. -/
theorem scan_append_gap (gap : IsGap run) :
    scan (front ++ run ++ back) = append (scan front) (scan back) := by
  rw [List.append_assoc, scan_append (seam_gap gap), scan_blanks_append gap.blank]

/-- The blanks at the ends of a text have no token. -/
theorem scan_trimChars (chars : List Char) : scan (Text.trimChars chars) = scan chars := by
  obtain ⟨lead, trail, shape, before, behind⟩ := Text.exists_around_trimChars chars
  have around : scan (lead ++ Text.trimChars chars ++ trail) = scan (Text.trimChars chars) := by
    rw [scan_append_blanks behind, scan_blanks_append before]
  rw [← around, ← shape]

/-- Blanks only separate. Texts with blanks between them are read one after the other, up to the
first fault, and blanks at either end of a text do not change how it is read. -/
theorem blanks_only_separate (front back : String) {run : String} (gap : IsGap run.toList) :
    ofText (front ++ run ++ back) = append (ofText front) (ofText back) ∧
      ofText (run ++ front) = ofText front ∧ ofText (front ++ run) = ofText front := by
  have between : ofText (front ++ run ++ back) = append (ofText front) (ofText back) := by
    rw [ofText, String.toList_append, String.toList_append]
    exact scan_append_gap gap
  have lead : ofText (run ++ front) = ofText front := by
    rw [ofText, String.toList_append]
    exact scan_blanks_append gap.blank
  have trail : ofText (front ++ run) = ofText front := by
    rw [ofText, String.toList_append]
    exact scan_append_blanks gap.blank
  exact ⟨between, lead, trail⟩

/-- A dash and an angle with blanks between them are no arrow, and of two hours that no clock shows
the first is the fault. -/
theorem blanks_only_separate_torn_arrow :
    IsGap "\u3000\t".toList ∧
      ofText ("9AM -" ++ "\u3000\t" ++ "> 5PM") =
        .ok [.hour ⟨9, by decide⟩, .mark .dash, .arrow, .hour ⟨17, by decide⟩] ∧
      ofText ("\u3000\t" ++ "9AM -") = .ok [.hour ⟨9, by decide⟩, .mark .dash] ∧
      ofText ("9AM -" ++ "\u3000\t") = .ok [.hour ⟨9, by decide⟩, .mark .dash] ∧
      ofText ("13PM" ++ "\u3000\t" ++ "0AM") = .error (.invalidHour "13PM") := by
  have gap : IsGap "\u3000\t".toList := ⟨by decide, List.all_eq_true.mp (by decide)⟩
  have opens : ofText "9AM -" = .ok [.hour ⟨9, by decide⟩, .mark .dash] := by decide +kernel
  have closes : ofText "> 5PM" = .ok [.arrow, .hour ⟨17, by decide⟩] := by decide +kernel
  have faulty : ofText "13PM" = .error (.invalidHour "13PM") := by decide +kernel
  obtain ⟨between, lead, trail⟩ := blanks_only_separate "9AM -" "> 5PM" gap
  obtain ⟨broken, -, -⟩ := blanks_only_separate "13PM" "0AM" gap
  rw [opens, closes] at between
  rw [opens] at lead trail
  rw [faulty] at broken
  exact ⟨gap, between, lead, trail, broken⟩

end Token

/-- What a segment says, told from its tokens. -/
theorem Schedule.partFinding_eq_scan (text : List Char) :
    partFinding text = (do Segment.ofTokens (← Token.scan text)).map Prod.fst := by
  rw [partFinding, finding, Segment.ofText, Token.ofText, String.toList_ofList,
    Token.scan_trimChars]

end OffHours
