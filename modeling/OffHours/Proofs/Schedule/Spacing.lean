import Mathlib.Logic.Relation
import OffHours.Proofs.Schedule.Chunks

/-!
# Spacing and spelling of a tag

How a tag is spaced says nothing, and neither does which arrow it has or whether the half of the
day stands beside its hour or apart from it. `Respells` lists the rewrites of a tag, and
`read_respelled` says that no chain of them changes the rules, or where and why a segment is
reported. Blanks at a seam are in no chunk, so most rewrites leave the tokens as they are. An hour
that is cut in two goes other ways through a segment; `Detached` relates the tokens before and
after it, and reading takes both to the same.
-/

namespace OffHours

/-! ## Hours in two tokens -/

/-- Tokens, and the same tokens with some hours cut into a number and a half of the day. -/
inductive Detached : List Token → List Token → Prop where
  /-- There is nothing to cut. -/
  | nil : Detached [] []
  /-- A token is left as it is. -/
  | keep {tokens others : List Token} (token : Token) (later : Detached tokens others) :
      Detached (token :: tokens) (token :: others)
  /-- An hour is cut. -/
  | cut {tokens others : List Token} {number : UInt32} {half : Meridiem} {clock : ClockHour}
      (shown : ClockHour.ofTwelve? number.toNat half = some clock)
      (later : Detached tokens others) :
      Detached (.hour clock :: tokens) (.number number :: .meridiem half :: others)

/-- Two readings take the same from the front, and leave the same behind but for hours that are
cut. -/
inductive ReadAlike {α : Type} :
    Except SegmentFault (α × List Token) → Except SegmentFault (α × List Token) → Prop where
  /-- Both meet the same fault. -/
  | fault (fault : SegmentFault) : ReadAlike (.error fault) (.error fault)
  /-- Both take the same value. -/
  | value {tokens others : List Token} (value : α) (later : Detached tokens others) :
      ReadAlike (.ok (value, tokens)) (.ok (value, others))

/-- Values taken alike are used alike. -/
theorem ReadAlike.map {α β : Type} {left right : Except SegmentFault (α × List Token)} (f : α → β)
    (alike : ReadAlike left right) :
    ReadAlike (left.map (Prod.map f id)) (right.map (Prod.map f id)) := by
  cases alike with
  | fault fault => exact .fault fault
  | value value later => exact .value (f value) later

namespace Detached

variable {tokens others more further : List Token}

/-- Tokens stay the same when nothing is cut. -/
theorem refl (tokens : List Token) : Detached tokens tokens := by
  induction tokens with
  | nil => exact .nil
  | cons token rest hypothesis => exact .keep token hypothesis

/-- Cutting goes on behind tokens that are left as they are. -/
theorem behind (front : List Token) (later : Detached tokens others) :
    Detached (front ++ tokens) (front ++ others) := by
  induction front with
  | nil => exact later
  | cons token rest hypothesis => exact .keep token hypothesis

/-- An hour begins in both or in neither. -/
theorem startsAt_eq (detached : Detached tokens others) :
    ClockHour.startsAt tokens = ClockHour.startsAt others := by
  cases detached with
  | nil => rfl
  | cut shown later => rfl
  | keep token later =>
    cases token with
    | number value =>
      cases later with
      | nil => rfl
      | cut shown later => rfl
      | keep next later => cases next <;> rfl
    | _ => rfl

/-- Both read the same hour. -/
theorem hour (detached : Detached tokens others) :
    ReadAlike (ClockHour.ofTokens tokens) (ClockHour.ofTokens others) := by
  cases detached with
  | nil => exact .fault _
  | @cut tokens others number half clock shown later =>
    have read : ClockHour.ofTokens (.number number :: .meridiem half :: others) =
        .ok (clock, others) := by
      rw [ClockHour.ofTokens, shown]
    rw [read]
    exact .value clock later
  | keep token later =>
    cases token with
    | hour clock => exact .value clock later
    | number value =>
      cases later with
      | nil => exact .fault _
      | cut shown later => exact .fault _
      | keep next later =>
        cases next with
        | meridiem half =>
          rw [ClockHour.ofTokens, ClockHour.ofTokens]
          cases ClockHour.ofTwelve? value.toNat half with
          | none => exact .fault _
          | some clock => exact .value clock later
        | _ => exact .fault _
    | _ => exact .fault _

/-- The end of a time range is the next hour. -/
theorem closing (first : ClockHour) (read : Except SegmentFault (ClockHour × List Token)) :
    (match read with
      | .error fault => .error fault
      | .ok (last, rest) => .ok (.ofClock first last, rest)) =
      read.map (Prod.map (HourWindow.ofClock first) id) := by
  cases read <;> rfl

/-- Both read the same time range. -/
theorem window (detached : Detached tokens others) :
    ReadAlike (HourWindow.ofTokens tokens) (HourWindow.ofTokens others) := by
  have opens := detached.hour
  generalize left : ClockHour.ofTokens tokens = first at opens
  generalize right : ClockHour.ofTokens others = second at opens
  unfold HourWindow.ofTokens
  rw [left, right]
  cases opens with
  | fault fault => exact .fault fault
  | value first later =>
    cases later with
    | nil => exact .fault _
    | cut shown later => exact .fault _
    | keep token later =>
      cases token with
      | arrow =>
        have closes := later.hour.map (HourWindow.ofClock first)
        cases later with
        | nil => exact .fault _
        | cut shown later =>
          rw [← closing, ← closing] at closes
          exact closes
        | keep next later =>
          rw [← closing, ← closing] at closes
          exact closes
      | _ => exact .fault _

/-- Both have the same items. -/
theorem items_eq (detached : Detached tokens others) :
    SegmentItems.ofTokens tokens = SegmentItems.ofTokens others := by
  have begins := detached.startsAt_eq
  have ranges := detached.window
  induction tokens using SegmentItems.ofTokens.induct generalizing others with
  | case1 =>
    cases detached
    rfl
  | case2 token rest starts fault read =>
    rw [starts] at begins
    rw [SegmentItems.ofTokens_of_startsAt starts, SegmentItems.ofTokens_of_startsAt begins.symm]
    rw [read] at ranges ⊢
    generalize HourWindow.ofTokens others = right at ranges
    cases ranges
    rfl
  | case3 token rest starts hours later read hypothesis =>
    rw [starts] at begins
    rw [SegmentItems.ofTokens_of_startsAt starts, SegmentItems.ofTokens_of_startsAt begins.symm]
    rw [read] at ranges ⊢
    generalize HourWindow.ofTokens others = right at ranges
    cases ranges with
    | value _ after =>
      have same := hypothesis after after.startsAt_eq after.window
      exact congrArg (Except.map (SegmentItems.addWindow hours)) same
  | case4 rest day starts hypothesis =>
    cases detached with
    | keep _ after =>
      have same := hypothesis after after.startsAt_eq after.window
      rw [SegmentItems.ofTokens, if_neg starts, SegmentItems.ofTokens, if_neg (begins ▸ starts),
        same]
  | case5 rest starts =>
    cases detached with
    | keep _ after =>
      rw [SegmentItems.ofTokens, if_neg starts, SegmentItems.ofTokens, if_neg (begins ▸ starts)]
  | case6 rest token noDay noArrow starts hypothesis =>
    cases detached with
    | cut _ _ => exact absurd rfl starts
    | keep _ after =>
      have same := hypothesis after after.startsAt_eq after.window
      rw [SegmentItems.ofTokens, if_neg starts, SegmentItems.ofTokens, if_neg (begins ▸ starts),
        same]
      all_goals assumption

/-- Cutting goes on in front of tokens that are left as they are. -/
theorem append (detached : Detached tokens others) (back : List Token) :
    Detached (tokens ++ back) (others ++ back) := by
  induction detached with
  | nil => exact refl back
  | keep token _ hypothesis => exact .keep token hypothesis
  | cut shown _ hypothesis => exact .cut shown hypothesis

/-- Nothing is cut, or neither is a date. -/
theorem eq_or_dateless (detached : Detached tokens others) :
    tokens = others ∨ tokens.all Token.isOfDate = false ∧ others.all Token.isOfDate = false := by
  induction detached with
  | nil => exact Or.inl rfl
  | keep token _ hypothesis =>
    refine hypothesis.imp (congrArg (token :: ·)) fun ⟨first, second⟩ => ?_
    simp [first, second]
  | cut _ _ _ => exact Or.inr ⟨rfl, rfl⟩

/-- Both say the same. -/
theorem ofTokens_eq (detached : Detached tokens others) :
    Segment.ofTokens tokens = Segment.ofTokens others := by
  rcases detached.eq_or_dateless with rfl | ⟨other, further⟩
  · rfl
  · have some : ∀ {list : List Token}, list.all Token.isOfDate = false → list.isEmpty = false := by
      rintro list dateless
      cases list with
      | nil => cases dateless
      | cons => rfl
    simp only [Segment.ofTokens, some other, some further, DateLiteral.ofTokens?_of_other other,
      DateLiteral.ofTokens?_of_other further, Segment.yearOfTokens?_of_other other,
      Segment.yearOfTokens?_of_other further, detached.items_eq]

end Detached

/-! ## Rewriting a part of a text -/

namespace Token

/-- The middle of a text shares no word and no arrow with the texts around it. -/
structure Apart (front middle back : List Char) : Prop where
  /-- There is a seam in front of it. -/
  ahead : Seam front (middle ++ back)
  /-- There is a seam behind it. -/
  behind : Seam middle back

namespace Apart

variable {front middle back run : List Char}

/-- Blanks stand apart. -/
theorem of_gap (gap : IsGap run) : Apart front run back := by
  have behind : Seam ([] ++ run) back := gap_seam gap
  exact ⟨seam_gap gap, behind⟩

/-- There is nothing at a seam. -/
theorem of_seam (seam : Seam front back) : Apart front [] back := ⟨seam, Seam.nil_left back⟩

/-- A middle that stands apart does so in less of the texts around it, too. -/
theorem within {before after : List Char} (apart : Apart (before ++ front) middle (back ++ after)) :
    Apart front middle back := by
  have ahead : Seam (before ++ front) ((middle ++ back) ++ after) := by
    rw [List.append_assoc]
    exact apart.ahead
  have behind : Seam ([] ++ middle) (back ++ after) := apart.behind
  exact ⟨ahead.within, behind.within⟩

/-- A text scans as its parts do. -/
theorem scan_eq (apart : Apart front middle back) :
    scan (front ++ middle ++ back) =
      Token.append (scan front) (Token.append (scan middle) (scan back)) := by
  rw [List.append_assoc, scan_append apart.ahead, scan_append apart.behind]

end Apart

end Token

namespace Schedule

/-- A part of a text is written in another way that has the same tokens, but for hours that are
cut in two. -/
structure Rewrites (front old new back : List Char) : Prop where
  /-- The part stands apart as it was. -/
  leaves : Token.Apart front old back
  /-- It stands apart as it is. -/
  takes : Token.Apart front new back
  /-- It held no comma. -/
  oldClean : ',' ∉ old
  /-- It holds no comma. -/
  newClean : ',' ∉ new
  /-- Both are read alike. -/
  alike : ∃ tokens others, Token.scan old = .ok tokens ∧ Token.scan new = .ok others ∧
    Detached tokens others

namespace Rewrites

variable {front old new back : List Char}

/-- A segment says the same with a part of it rewritten. -/
theorem partFinding_eq (rewrites : Rewrites front old new back) :
    partFinding (front ++ old ++ back) = partFinding (front ++ new ++ back) := by
  obtain ⟨tokens, others, before, after, detached⟩ := rewrites.alike
  rw [partFinding_eq_scan, partFinding_eq_scan, rewrites.leaves.scan_eq, rewrites.takes.scan_eq,
    before, after]
  cases Token.scan front with
  | error fault => rfl
  | ok first =>
    cases Token.scan back with
    | error fault => rfl
    | ok third => exact congrArg _ ((detached.append third).behind first).ofTokens_eq

/-- The segments of a tag say the same with a part of one rewritten. -/
theorem findings_eq (rewrites : Rewrites front old new back) :
    findings (String.ofList (front ++ old ++ back)) =
      findings (String.ofList (front ++ new ++ back)) := by
  obtain ⟨opening, last, cut⟩ : ∃ opening last, Text.pieces ',' front = opening ++ [last] :=
    ⟨_, _, (List.dropLast_append_getLast (Text.pieces_ne_nil ',' front)).symm⟩
  obtain ⟨first, closing, further⟩ := List.exists_cons_of_ne_nil (Text.pieces_ne_nil ',' back)
  obtain ⟨before, rfl⟩ := Text.suffix_of_pieces cut
  obtain ⟨after, rfl⟩ := Text.prefix_of_pieces further
  have inner : Rewrites last old new first :=
    { rewrites with leaves := rewrites.leaves.within, takes := rewrites.takes.within }
  have shape : ∀ {middle : List Char}, ',' ∉ middle →
      findings (String.ofList (before ++ last ++ middle ++ (first ++ after))) =
        opening.map partFinding ++ partFinding (last ++ middle ++ first) ::
          closing.map partFinding := by
    intro middle clean
    have whole : Text.pieces ',' middle = [] ++ [middle] := by
      have single : ∀ piece ∈ [middle], ',' ∉ piece := by simpa using clean
      simpa using Text.pieces_intercalate single (List.cons_ne_nil middle [])
    have joined := Text.pieces_append (Text.pieces_append cut whole) further
    rw [findings_eq_parts, parts, String.toList_ofList, joined]
    simp
  rw [shape rewrites.oldClean, shape rewrites.newClean, inner.partFinding_eq]

end Rewrites

/-- A tag is written with other blanks, with an arrow of another form, or with an hour cut in
two. -/
inductive Respells : List Char → List Char → Prop where
  /-- Other blanks stand where blanks stood. -/
  | gap {run other : List Char} (front back : List Char) (old : IsGap run) (new : IsGap other) :
      Respells (front ++ run ++ back) (front ++ other ++ back)
  /-- There are blanks at the beginning. -/
  | lead {run : List Char} (text : List Char) (new : IsGap run) : Respells text (run ++ text)
  /-- There are blanks at the end. -/
  | trail {run : List Char} (text : List Char) (new : IsGap run) : Respells text (text ++ run)
  /-- There are blanks in front of a mark that does not end an arrow. -/
  | before {run : List Char} {mark : Char} (front back : List Char) (new : IsGap run)
      (other : Text.isAlphanumeric mark = false)
      (whole : ¬ (front.getLast? = some '-' ∧ mark = '>')) :
      Respells (front ++ mark :: back) (front ++ run ++ mark :: back)
  /-- There are blanks behind a mark that does not begin an arrow. -/
  | behind {run : List Char} {mark : Char} (front back : List Char) (new : IsGap run)
      (other : Text.isAlphanumeric mark = false)
      (whole : ¬ (mark = '-' ∧ back.head? = some '>')) :
      Respells (front ++ [mark] ++ back) (front ++ [mark] ++ run ++ back)
  /-- An arrow is an angle between blanks. -/
  | arrow (front back : List Char) :
      Respells (front ++ ['-', '>'] ++ back) (front ++ [' ', '>', ' '] ++ back)
  /-- The half of the day stands apart from its hour. -/
  | hour {digits letters run : List Char} {value : Nat} {half : Meridiem} (front back : List Char)
      (word : IsHourWord digits letters value half)
      (opens : ∀ c ∈ front.getLast?, Text.isAlphanumeric c = false) (closes : Token.Stops back)
      (new : IsGap run) :
      Respells (front ++ (digits ++ letters) ++ back) (front ++ (digits ++ run ++ letters) ++ back)

namespace Rewrites

variable {front back run other digits letters : List Char} {value : Nat} {half : Meridiem}

/-- Other blanks are a rewriting. -/
theorem gap (old : IsGap run) (new : IsGap other) : Rewrites front run other back where
  leaves := .of_gap old
  takes := .of_gap new
  oldClean := old.comma_not_mem
  newClean := new.comma_not_mem
  alike := ⟨[], [], Token.scan_gap old, Token.scan_gap new, .nil⟩

/-- Blanks at a seam are a rewriting. -/
theorem seam (seam : Token.Seam front back) (new : IsGap run) : Rewrites front [] run back where
  leaves := .of_seam seam
  takes := .of_gap new
  oldClean := List.not_mem_nil
  newClean := new.comma_not_mem
  alike := ⟨[], [], Token.scan_nil, Token.scan_gap new, .nil⟩

/-- An arrow of the other form is a rewriting. -/
theorem arrow (front back : List Char) : Rewrites front ['-', '>'] [' ', '>', ' '] back where
  leaves :=
    ⟨.before_mark (by decide) (by simp), @Token.Seam.behind_mark ['-'] _ '>' (by decide) (by simp)⟩
  takes :=
    ⟨.before_mark (by decide) (by simp),
      @Token.Seam.behind_mark [' ', '>'] _ ' ' (by decide) (by simp)⟩
  oldClean := by decide
  newClean := by decide
  alike := ⟨[.arrow], [.arrow], Token.reads_arrow.scan_eq, by cbv, .refl _⟩

/-- A cut hour is a rewriting. -/
theorem hour (word : IsHourWord digits letters value half)
    (opens : ∀ c ∈ front.getLast?, Text.isAlphanumeric c = false) (closes : Token.Stops back)
    (new : IsGap run) : Rewrites front (digits ++ letters) (digits ++ run ++ letters) back := by
  have number := word.numeral.isWord
  have suffix := word.isWord_letters
  have begins : ∀ c ∈ digits.head?, Text.isAlphanumeric c = true := fun c first =>
    isAlphanumeric_of_isAlphanum (number.plain c (List.mem_of_head? first))
  have ends : ∀ c ∈ letters.getLast?, Text.isAlphanumeric c = true := fun c last =>
    isAlphanumeric_of_isAlphanum (suffix.plain c (List.mem_of_getLast? last))
  have apart : ∀ between : List Char,
      Token.Apart front (digits ++ between ++ letters) back := by
    intro between
    refine ⟨.before_word opens ?_, .behind_word ?_ closes⟩
    · rwa [List.append_assoc, List.append_assoc, List.head?_append_of_ne_nil _ number.nonempty]
    · rwa [List.getLast?_append_of_ne_nil _ suffix.nonempty]
  have whole := apart []
  rw [List.append_nil] at whole
  obtain ⟨clock, shown⟩ := word.exists_clock
  have below : value < UInt32.size := Nat.lt_of_le_of_lt word.inside.2 (by decide)
  have written : ClockHour.ofTwelve? (UInt32.ofNat value).toNat half = some clock := by
    rw [UInt32.toNat_ofNat_of_lt' below]
    exact shown
  have one : Token.scan (digits ++ letters) = .ok [.hour clock] :=
    (Token.reads_word (number.append suffix) (word.ofWord shown)).scan_eq
  have two : Token.scan (digits ++ run ++ letters) =
      .ok [.number (UInt32.ofNat value), .meridiem half] := by
    have first := (word.numeral.reads below).scan_eq
    have second := (Token.reads_word suffix word.ofWord_letters).scan_eq
    have between : Token.Apart digits run letters := .of_gap new
    rw [between.scan_eq, first, second, Token.scan_gap new]
    rfl
  exact {
    leaves := whole
    takes := apart run
    oldClean := (number.append suffix).comma_not_mem
    newClean := by simp [number.comma_not_mem, new.comma_not_mem, suffix.comma_not_mem]
    alike := ⟨_, _, one, two, .cut written .nil⟩ }

end Rewrites

/-- The segments of a respelled tag say the same. -/
theorem findings_eq_of_respells {chars others : List Char} (step : Respells chars others) :
    findings (String.ofList chars) = findings (String.ofList others) := by
  cases step with
  | gap front back old new => exact (Rewrites.gap old new).findings_eq
  | lead text new => exact (Rewrites.seam (.nil_left _) new).findings_eq
  | trail text new =>
    simpa using (Rewrites.seam (.nil_right chars) new).findings_eq
  | before front back new other whole =>
    simpa using (Rewrites.seam (.before_mark other whole) new).findings_eq
  | behind front back new other whole =>
    simpa using (Rewrites.seam (.behind_mark other whole) new).findings_eq
  | arrow front back => exact (Rewrites.arrow front back).findings_eq
  | hour front back word opens closes new => exact (Rewrites.hour word opens closes new).findings_eq

/-- However a tag is spaced and spelled, it has the same rules, and the same segments of it are
left out for the same reasons. -/
theorem read_respelled {tag other : String}
    (same : Relation.EqvGen Respells tag.toList other.toList) :
    (read tag).rules = (read other).rules ∧ (read tag).faults = (read other).faults := by
  have alike : ∀ {chars others : List Char}, Relation.EqvGen Respells chars others →
      findings (String.ofList chars) = findings (String.ofList others) := by
    intro chars others chain
    induction chain with
    | rel _ _ step => exact findings_eq_of_respells step
    | refl => rfl
    | symm _ _ _ hypothesis => exact hypothesis.symm
    | trans _ _ _ _ _ first second => exact first.trans second
  have found := alike same
  rw [String.ofList_toList, String.ofList_toList] at found
  exact read_eq_of_findings found

/-- A window is read alike with its hour cut in two, its arrow as an angle between blanks, and
blanks on both sides of the comma behind it. -/
theorem read_respelled_monday :
    Relation.EqvGen Respells "Monday 9AM->5PM,Tuesday".toList
        "Monday 9 AM > 5PM , Tuesday".toList ∧
      (read "Monday 9AM->5PM,Tuesday").rules = (read "Monday 9 AM > 5PM , Tuesday").rules ∧
      (read "Monday 9AM->5PM,Tuesday").faults = (read "Monday 9 AM > 5PM , Tuesday").faults := by
  have blank : IsGap [' '] := ⟨by decide, List.all_eq_true.mp (by decide)⟩
  have nine : IsHourWord ['9'] ['A', 'M'] 9 .am :=
    ⟨⟨by decide, List.all_eq_true.mp (by decide), rfl⟩, by decide, by decide, by decide⟩
  have opens : ∀ c ∈ "Monday ".toList.getLast?, Text.isAlphanumeric c = false := by
    intro c last
    obtain rfl : ' ' = c := Option.some.inj last
    rfl
  have hour : Respells "Monday 9AM->5PM,Tuesday".toList "Monday 9 AM->5PM,Tuesday".toList :=
    .hour "Monday ".toList "->5PM,Tuesday".toList nine opens
      (Token.stops_cons (by decide)) blank
  have arrow : Respells "Monday 9 AM->5PM,Tuesday".toList "Monday 9 AM > 5PM,Tuesday".toList :=
    .arrow "Monday 9 AM".toList "5PM,Tuesday".toList
  have before : Respells "Monday 9 AM > 5PM,Tuesday".toList "Monday 9 AM > 5PM ,Tuesday".toList :=
    @Respells.before [' '] ',' "Monday 9 AM > 5PM".toList "Tuesday".toList blank (by decide)
      (by decide)
  have behind :
      Respells "Monday 9 AM > 5PM ,Tuesday".toList "Monday 9 AM > 5PM , Tuesday".toList :=
    @Respells.behind [' '] ',' "Monday 9 AM > 5PM ".toList "Tuesday".toList blank (by decide)
      (by decide)
  have chain : Relation.EqvGen Respells "Monday 9AM->5PM,Tuesday".toList
      "Monday 9 AM > 5PM , Tuesday".toList :=
    .trans _ _ _ (.rel _ _ hour) (.trans _ _ _ (.rel _ _ arrow)
      (.trans _ _ _ (.rel _ _ before) (.rel _ _ behind)))
  exact ⟨chain, read_respelled chain⟩

end Schedule

end OffHours
