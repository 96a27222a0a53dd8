import OffHours.Proofs.Schedule.RoundTrip

/-!
# Spellings of a date

A date with its year can be written as one segment in four ways, and with a comma before the
year as two. In the place of a segment all ways of writing one segment yield the same rules: the
date when it exists and nothing when it does not. The comma goes another way, by a yearly date
that the year after it completes, and comes to the same with one exception. February 29 is a
yearly date, so it stays one when the year after it has no such day: `spellings_agree_iff`.
-/

namespace OffHours

/-! ## Names of months and numbers of days -/

/-- A word of ASCII letters that is no half of the day. -/
def isPlainName (word : List Char) : Bool :=
  !word.isEmpty && word.all Char.isAlpha && word != ['a', 'm'] && word != ['p', 'm']

/-- Letters whose small forms are a plain name are a word without digits, and no half of the
day. -/
theorem isWord_of_small {letters : List Char}
    (plain : isPlainName (letters.map Char.toLower) = true) :
    IsWord letters ∧ (∀ c ∈ letters, c.isDigit = false) ∧ Meridiem.ofLetters? letters = none := by
  simp only [isPlainName, Bool.and_eq_true, Bool.not_eq_true', List.isEmpty_eq_false_iff,
    bne_iff_ne, ne_eq, List.map_eq_nil_iff] at plain
  obtain ⟨⟨⟨nonempty, small⟩, notAm⟩, notPm⟩ := plain
  have alpha : ∀ c ∈ letters, c.isAlpha = true := fun c present =>
    isAlpha_of_toLower (List.all_eq_true.mp small _ (List.mem_map_of_mem present))
  refine ⟨⟨nonempty, fun c present => by simp [Char.isAlphanum, alpha c present]⟩,
    fun c present => not_isDigit_of_isAlpha (alpha c present), ?_⟩
  unfold Meridiem.ofLetters?
  split
  · contradiction
  · contradiction
  · rfl

/-- The small letters that name a month are among a few words. -/
theorem small_of_monthOfName? {letters : List Char} {month : Nat}
    (named : Token.monthOfName? letters = some month) :
    letters.map Char.toLower ∈
      "sept".toList :: Token.monthNames.flatMap fun name => [name.toList, name.toList.take 3] := by
  unfold Token.monthOfName? at named
  dsimp only at named
  split at named
  · rename_i sept
    rw [sept]
    exact List.mem_cons_self
  · obtain ⟨position, found, -⟩ := Option.map_eq_some_iff.mp named
    obtain ⟨inside, fits, -⟩ := List.findIdx?_eq_some_iff_getElem.mp found
    refine List.mem_cons_of_mem _ (List.mem_flatMap.mpr
      ⟨Token.monthNames[position], List.getElem_mem inside, ?_⟩)
    simp only [Bool.or_eq_true, Bool.and_eq_true, beq_iff_eq, List.isPrefixOf_iff_prefix] at fits
    rcases fits with whole | ⟨three, front⟩
    · rw [← whole]
      exact List.mem_cons_self
    · rw [List.prefix_iff_eq_take, three] at front
      rw [← front]
      simp

/-- The token of the name of a month is the month. -/
theorem ofWord_month {letters : List Char} {month : Nat}
    (named : Token.monthOfName? letters = some month) :
    IsWord letters ∧ Token.ofWord letters = .ok (.month month) := by
  have known : ∀ word ∈ "sept".toList ::
      Token.monthNames.flatMap (fun name => [name.toList, name.toList.take 3]),
      isPlainName word = true := by decide +kernel
  obtain ⟨isWord, letter, noHalf⟩ := isWord_of_small (known _ (small_of_monthOfName? named))
  refine ⟨isWord, ?_⟩
  have digits : letters.takeWhile Char.isDigit = [] := by
    cases letters with
    | nil => rfl
    | cons c rest => simp [letter c List.mem_cons_self]
  -- No day of the week has the name of a month.
  have noDay : Weekday.ofName? (String.ofList letters) = none := by
    cases read : Weekday.ofName? (String.ofList letters) with
    | none => rfl
    | some day =>
      have same : letters = day.name.toList := by
        rw [← Weekday.name_of_ofName? read, String.toList_ofList]
      rw [same] at named
      have nameless : Token.monthOfName? day.name.toList = none := by
        cases day <;> decide +kernel
      rw [nameless] at named
      cases named
  simp [Token.ofWord, digits, Token.ofName, noDay, noHalf, named]

/-- The name of a month reads as the month. -/
theorem reads_month {letters : List Char} {month : Nat}
    (named : Token.monthOfName? letters = some month) :
    IsWord letters ∧ Token.Reads letters [.month month] := by
  obtain ⟨isWord, read⟩ := ofWord_month named
  exact ⟨isWord, Token.reads_word isWord read⟩

/-- Digits that denote a number, with or without an ordinal ending. -/
inductive IsOrdinal : List Char → Nat → Prop where
  /-- The digits alone. -/
  | plain {digits : List Char} {value : Nat} (numeral : IsNumeral digits value) :
      IsOrdinal digits value
  /-- The digits with an ending. -/
  | ending {digits ending : List Char} {value : Nat} (numeral : IsNumeral digits value)
      (ordinal : Token.isOrdinalEnding ending = true) : IsOrdinal (digits ++ ending) value

/-- The token of a number; one too large for a word of 32 bits has no meaning. -/
def numberToken (chars : List Char) (value : Nat) : Token :=
  if value < UInt32.size then .number (UInt32.ofNat value) else .word (String.ofList chars)

/-- Digits that denote a number are read as its token. -/
theorem readWord_getD {digits : List Char} {value : Nat} (numeral : IsNumeral digits value)
    (chars : List Char) :
    ((Text.readWord digits).map Token.number).getD (.word (String.ofList chars)) =
      numberToken chars value := by
  have some : digits.isEmpty = false := by simpa using numeral.nonempty
  have all : digits.all Char.isDigit = true := List.all_eq_true.mpr numeral.digit
  by_cases below : value < UInt32.size <;>
    simp [Text.readWord, Text.readBelow, some, all, numeral.value_eq, below, numberToken]

/-- The token of a number with or without an ordinal ending is that of the number. -/
theorem IsOrdinal.ofWord {chars : List Char} {value : Nat} (ordinal : IsOrdinal chars value) :
    IsWord chars ∧ Token.ofWord chars = .ok (numberToken chars value) := by
  cases ordinal with
  | plain numeral =>
    refine ⟨numeral.isWord, ?_⟩
    have alone : ∀ c ∈ ([] : List Char).head?, c.isDigit = false := by simp
    have whole := numeral.span alone
    rw [List.append_nil] at whole
    have some : chars.isEmpty = false := by simpa using numeral.nonempty
    have read := readWord_getD numeral chars
    simp [Token.ofWord, Token.ofDigits, whole.1, whole.2, some, read]
  | @ending digits ending _ numeral ordinal =>
    have known : ∀ word ∈ ["st", "nd", "rd", "th"].map String.toList,
        isPlainName word = true := by decide +kernel
    have small : ending.map Char.toLower ∈ ["st", "nd", "rd", "th"].map String.toList := by
      obtain ⟨word, listed, same⟩ := List.any_eq_true.mp ordinal
      rw [← beq_iff_eq.mp same]
      exact List.mem_map_of_mem listed
    obtain ⟨isWord, letter, noHalf⟩ := isWord_of_small (known _ small)
    have letters : ∀ c ∈ ending.head?, c.isDigit = false := fun c first =>
      letter c (List.mem_of_head? first)
    have whole := numeral.span letters
    refine ⟨numeral.isWord.append isWord, ?_⟩
    have some : digits.isEmpty = false := by simpa using numeral.nonempty
    have more : ending.isEmpty = false := by simpa using isWord.nonempty
    have read := readWord_getD numeral (digits ++ ending)
    simpa [Token.ofWord, Token.ofDigits, whole.1, whole.2, some, more, noHalf, ordinal] using read

/-- A number with or without an ordinal ending reads as its token. -/
theorem IsOrdinal.reads {chars : List Char} {value : Nat} (ordinal : IsOrdinal chars value) :
    IsWord chars ∧ Token.Reads chars [numberToken chars value] := by
  obtain ⟨isWord, read⟩ := ordinal.ofWord
  exact ⟨isWord, Token.reads_word isWord read⟩

/-! ## What a written date says -/

/-- The rule of a date, when it exists. -/
def exactRules (year month day : Nat) : List Rule :=
  ((Date.ofNumbers? year month day).map fun date => Rule.date (.exact date)).toList

/-- One segment that writes a date with its year. -/
inductive WritesDate (year month day : Nat) : List Char → Prop where
  /-- The month by name, the day and the year. -/
  | nameFirst {name number digits : List Char} (named : Token.monthOfName? name = some month)
      (numbered : IsOrdinal number day) (inYear : IsNumeral digits year) :
      WritesDate year month day (name ++ ' ' :: (number ++ ' ' :: digits))
  /-- The day, the month by name and the year. -/
  | dayFirst {name number digits : List Char} (named : Token.monthOfName? name = some month)
      (numbered : IsOrdinal number day) (inYear : IsNumeral digits year) :
      WritesDate year month day (number ++ ' ' :: (name ++ ' ' :: digits))
  /-- The year, the month and the day with dashes. -/
  | dashes {digits inMonth number : List Char} (inYear : IsNumeral digits year)
      (numbered : IsNumeral inMonth month) (onDay : IsNumeral number day) :
      WritesDate year month day (digits ++ '-' :: (inMonth ++ '-' :: number))
  /-- The month, the day and the year with slashes. -/
  | slashes {inMonth number digits : List Char} (numbered : IsNumeral inMonth month)
      (onDay : IsNumeral number day) (inYear : IsNumeral digits year) :
      WritesDate year month day (inMonth ++ '/' :: (number ++ '/' :: digits))

/-- Two segments that write a date with its year: the month by name and the day, and the year. -/
inductive WritesDateApart (year month day : Nat) : List Char → List Char → Prop where
  /-- The month by name and the day, and the year. -/
  | apart {name number digits : List Char} (named : Token.monthOfName? name = some month)
      (numbered : IsOrdinal number day) (inYear : IsNumeral digits year) :
      WritesDateApart year month day (name ++ ' ' :: number) digits

namespace Token

/-- Whether a token says nothing outside a date. -/
def isIdle : Token → Bool
  | number _ | month _ | mark _ | word _ => true
  | weekday _ | hour _ | meridiem _ | arrow => false

/-- A month says nothing outside a date. -/
@[simp] theorem isIdle_month (found : Nat) : (month found).isIdle = true := rfl

/-- A mark says nothing outside a date. -/
@[simp] theorem isIdle_mark (between : DateMark) : (mark between).isIdle = true := rfl

end Token

/-- Tokens that say nothing are ignored one by one. -/
theorem items_idle {tokens : List Token} (idle : ∀ token ∈ tokens, token.isIdle = true) :
    SegmentItems.ofTokens tokens = .ok { ignored := tokens } := by
  induction tokens with
  | nil => rw [SegmentItems.ofTokens]
  | cons token rest hypothesis =>
    have others := hypothesis fun later present => idle later (List.mem_cons_of_mem _ present)
    have own := idle token List.mem_cons_self
    -- No hour begins here: a number has no half of the day behind it.
    have noHour : ClockHour.startsAt (token :: rest) = false := by
      cases token with
      | hour clock => simp [Token.isIdle] at own
      | number value =>
        cases rest with
        | nil => rfl
        | cons next later =>
          have idleNext := idle next (by simp)
          cases next with
          | meridiem half => simp [Token.isIdle] at idleNext
          | _ => rfl
      | _ => rfl
    cases token with
    | weekday | hour | meridiem | arrow => simp [Token.isIdle] at own
    | number | month | mark | word =>
      rw [SegmentItems.ofTokens]
      · simp [noHour, others, Except.map, SegmentItems.addIgnored]
      · exact fun day => Token.noConfusion
      · exact Token.noConfusion

/-- A segment with the tokens of a date, written with any number as its day, says the rule of the
date, unless the day is too large for a word of 32 bits; then it says nothing. -/
theorem finding_dated {chars number : List Char} (literal : DateLiteral)
    (tokens : Token → List Token)
    (reads : Token.Reads chars (tokens (numberToken number literal.day)))
    (dated : literal.day < UInt32.size →
      DateLiteral.ofTokens? (tokens (.number (UInt32.ofNat literal.day))) = some literal)
    (idle : ∀ word, tokens (.word word) ≠ [] ∧ DateLiteral.ofTokens? (tokens (.word word)) = none ∧
      Segment.yearOfTokens? (tokens (.word word)) = none ∧
      ∀ token ∈ tokens (.word word), token.isIdle = true) :
    Schedule.finding (String.ofList chars) =
      if literal.day < UInt32.size then literal.rule.map Segment.date
      else .error .unrecognized := by
  rw [← @String.toList_ofList chars] at reads
  have scanned : Token.ofText (String.ofList chars) =
      .ok (tokens (numberToken number literal.day)) := reads.scan_eq
  by_cases below : literal.day < UInt32.size
  · have given := dated below
    rw [numberToken, if_pos below] at scanned
    have some : tokens (.number (UInt32.ofNat literal.day)) ≠ [] := by
      intro none
      simp [none, DateLiteral.ofTokens?] at given
    obtain ⟨first, rest, shape⟩ := List.exists_cons_of_ne_nil some
    rw [shape] at given scanned
    rw [if_pos below]
    cases gives : literal.rule <;>
      simp [Schedule.finding, Segment.ofText, scanned, Segment.ofTokens, given, gives, bind,
        Except.bind, Except.map]
  · rw [numberToken, if_neg below] at scanned
    obtain ⟨some, dateless, yearless, silent⟩ := idle (String.ofList number)
    obtain ⟨first, rest, shape⟩ := List.exists_cons_of_ne_nil some
    rw [shape] at scanned dateless yearless silent
    simp [Schedule.finding, Segment.ofText, scanned, Segment.ofTokens, dateless, yearless,
      items_idle silent, Segment.ofItems, below, bind, Except.bind, Except.map]

/-- Two segments with a mark or a blank between them are one segment. -/
theorem IsSegment.mark {before after : List Char} {c : Char} (first : IsSegment before)
    (other : c ≠ ',') (last : IsSegment after) : IsSegment (before ++ c :: after) := by
  rw [List.append_cons]
  exact first.join (by simpa using Ne.symm other) last

/-- One segment that writes a date is a segment, and says the date of its numbers. -/
theorem WritesDate.finding {year month day : Nat} {chars : List Char}
    (years : 1000 ≤ year ∧ year ≤ 9999) (months : month ≤ 12)
    (writes : WritesDate year month day chars) :
    IsSegment chars ∧ Schedule.finding (String.ofList chars) =
      if day < UInt32.size then
        (⟨month, day, some (UInt32.ofNat year)⟩ : DateLiteral).rule.map Segment.date
      else .error .unrecognized := by
  have yearSmall : year < UInt32.size := Nat.lt_of_le_of_lt years.2 (by decide)
  have monthSmall : month < UInt32.size := Nat.lt_of_le_of_lt months (by decide)
  have long := le_ofNat_of_four_digits years
  have blank : Text.isAlphanumeric ' ' = false := by decide
  have dash : Text.isAlphanumeric '-' = false := by decide
  have slash : Text.isAlphanumeric '/' = false := by decide
  let literal : DateLiteral := ⟨month, day, some (UInt32.ofNat year)⟩
  let inMonth : Token := .number (UInt32.ofNat month)
  let inYear : Token := .number (UInt32.ofNat year)
  cases writes with
  | nameFirst named numbered digits =>
    obtain ⟨nameWord, readsName⟩ := reads_month named
    obtain ⟨numberWord, readsNumber⟩ := numbered.reads
    have later := readsNumber.append (Token.stops_cons blank) (digits.reads yearSmall).blank
    have reads := readsName.append (Token.stops_cons blank) later.blank
    refine ⟨nameWord.isSegment.mark (by decide) (numberWord.isSegment.mark (by decide)
      digits.isWord.isSegment), finding_dated literal
        (fun onDay => [.month month, onDay, inYear]) reads ?_ ?_⟩
    · intro below
      simp [literal, inYear, DateLiteral.ofTokens?, UInt32.toNat_ofNat_of_lt' below]
    · simp [inYear, DateLiteral.ofTokens?, Segment.yearOfTokens?, Token.isIdle]
  | dayFirst named numbered digits =>
    obtain ⟨nameWord, readsName⟩ := reads_month named
    obtain ⟨numberWord, readsNumber⟩ := numbered.reads
    have later := readsName.append (Token.stops_cons blank) (digits.reads yearSmall).blank
    have reads := readsNumber.append (Token.stops_cons blank) later.blank
    refine ⟨numberWord.isSegment.mark (by decide) (nameWord.isSegment.mark (by decide)
      digits.isWord.isSegment), finding_dated literal
        (fun onDay => [onDay, .month month, inYear]) reads ?_ ?_⟩
    · intro below
      simp [literal, inYear, DateLiteral.ofTokens?, UInt32.toNat_ofNat_of_lt' below]
    · simp [inYear, DateLiteral.ofTokens?, Segment.yearOfTokens?, Token.isIdle]
  | @dashes _ _ number digits numbered onDay =>
    obtain ⟨numberWord, readsNumber⟩ := (IsOrdinal.plain onDay).reads
    rw [← List.append_nil number] at readsNumber
    have later := (numbered.reads monthSmall).append (Token.stops_cons dash)
      (onDay.reads_dash readsNumber)
    have reads := (digits.reads yearSmall).append (Token.stops_cons dash)
      (numbered.reads_dash later)
    rw [List.append_nil] at reads
    refine ⟨digits.isWord.isSegment.mark (by decide) (numbered.isWord.isSegment.mark (by decide)
      numberWord.isSegment), finding_dated literal
        (fun onDay => [inYear, .mark .dash, inMonth, .mark .dash, onDay]) reads ?_ ?_⟩
    · intro below
      simp [literal, inYear, inMonth, DateLiteral.ofTokens?, long,
        UInt32.toNat_ofNat_of_lt' monthSmall, UInt32.toNat_ofNat_of_lt' below]
    · simp [inYear, inMonth, DateLiteral.ofTokens?, Segment.yearOfTokens?, Token.isIdle]
  | slashes numbered onDay digits =>
    obtain ⟨numberWord, readsNumber⟩ := (IsOrdinal.plain onDay).reads
    have later := readsNumber.append (Token.stops_cons slash) (digits.reads yearSmall).slash
    have reads := (numbered.reads monthSmall).append (Token.stops_cons slash) later.slash
    refine ⟨numbered.isWord.isSegment.mark (by decide) (numberWord.isSegment.mark (by decide)
      digits.isWord.isSegment), finding_dated literal
        (fun onDay => [inMonth, .mark .slash, onDay, .mark .slash, inYear]) reads ?_ ?_⟩
    · intro below
      simp [literal, inYear, inMonth, DateLiteral.ofTokens?, long,
        UInt32.toNat_ofNat_of_lt' monthSmall, UInt32.toNat_ofNat_of_lt' below]
    · simp [inYear, inMonth, DateLiteral.ofTokens?, Segment.yearOfTokens?, Token.isIdle]

/-- The first of two segments that write a date says a date without a year, the second says the
year. -/
theorem WritesDateApart.finding {year month day : Nat} {first second : List Char}
    (years : 1000 ≤ year ∧ year ≤ 9999) (writes : WritesDateApart year month day first second) :
    (IsSegment first ∧ Schedule.finding (String.ofList first) =
      if day < UInt32.size then (⟨month, day, none⟩ : DateLiteral).rule.map Segment.date
      else .error .unrecognized) ∧
    IsSegment second ∧ Schedule.finding (String.ofList second) = .ok (.year year) := by
  have yearSmall : year < UInt32.size := Nat.lt_of_le_of_lt years.2 (by decide)
  obtain @⟨_, _, digits, named, numbered, inYear⟩ := writes
  obtain ⟨nameWord, readsName⟩ := reads_month named
  obtain ⟨numberWord, readsNumber⟩ := numbered.reads
  constructor
  · have reads := readsName.append (Token.stops_cons (by decide)) readsNumber.blank
    refine ⟨nameWord.isSegment.mark (by decide) numberWord.isSegment,
      finding_dated ⟨month, day, none⟩ (fun onDay => [.month month, onDay]) reads ?_ ?_⟩
    · intro below
      simp [DateLiteral.ofTokens?, UInt32.toNat_ofNat_of_lt' below]
    · simp [DateLiteral.ofTokens?, Segment.yearOfTokens?, Token.isIdle]
  · have reads := inYear.reads yearSmall
    rw [← @String.toList_ofList second] at reads
    have most : UInt32.ofNat year ≤ 9999 := by
      have bound : (9999 : UInt32).toNat = 9999 := rfl
      rw [UInt32.le_iff_toNat_le, UInt32.toNat_ofNat_of_lt' yearSmall, bound]
      exact years.2
    have gives : Segment.ofTokens [.number (UInt32.ofNat year)] = .ok (.year year, []) := by
      simp [Segment.ofTokens, DateLiteral.ofTokens?, Segment.yearOfTokens?, most,
        le_ofNat_of_four_digits years, UInt32.toNat_ofNat_of_lt' yearSmall]
    exact ⟨inYear.isWord.isSegment, Schedule.finding_of_reads reads gives⟩

/-! ## Days that only some years have -/

/-- Only February has a different number of days in different years. -/
theorem daysInMonth_of_ne_two {month : Nat} (other : month ≠ 2) (year another : Int) :
    daysInMonth year month = daysInMonth another month := by
  unfold daysInMonth
  split <;> first | rfl | contradiction

/-- A date is a day of the sample year, a leap year. -/
theorem isDate_sample {year : Int} {month day : Nat} (valid : isDate year month day = true) :
    isDate DateLiteral.sampleYear month day = true := by
  have most : daysInMonth year month ≤ daysInMonth DateLiteral.sampleYear month := by
    by_cases february : month = 2
    · subst february
      have sample : daysInMonth DateLiteral.sampleYear 2 = 29 := by decide
      rw [sample, daysInMonth]
      split <;> omega
    · exact Nat.le_of_eq (daysInMonth_of_ne_two february _ _)
  have inside : firstYear ≤ DateLiteral.sampleYear ∧ DateLiteral.sampleYear ≤ lastYear := by decide
  simp only [isDate, Bool.and_eq_true, decide_eq_true_eq] at valid ⊢
  exact ⟨⟨inside, valid.1.2⟩, Nat.le_trans valid.2 most⟩

/-- February 29 in a year that has none. -/
def MissedLeapDay (year month day : Nat) : Prop :=
  month = 2 ∧ day = 29 ∧ isLeapYear year = false

/-- It is the only day of the sample year that a year of four digits does not have. -/
theorem missedLeapDay_iff {year month day : Nat} (years : 1000 ≤ year ∧ year ≤ 9999) :
    MissedLeapDay year month day ↔
      isDate DateLiteral.sampleYear month day = true ∧ isDate year month day = false := by
  have inside : firstYear ≤ (year : Int) ∧ (year : Int) ≤ lastYear := by
    have calendar : firstYear ≤ 1000 ∧ 9999 ≤ lastYear := by decide
    omega
  constructor
  · rintro ⟨rfl, rfl, common⟩
    refine ⟨by decide, ?_⟩
    simp [isDate, daysInMonth, common]
  · rintro ⟨sample, missing⟩
    rw [Bool.eq_false_iff] at missing
    simp only [isDate, Bool.and_eq_true, decide_eq_true_eq, ne_eq] at sample missing
    by_cases february : month = 2
    · subst february
      have days : daysInMonth DateLiteral.sampleYear 2 = 29 := by decide
      cases leap : isLeapYear year with
      | true => simp only [daysInMonth, leap, ↓reduceIte] at missing; omega
      | false =>
        simp only [daysInMonth, leap, Bool.false_eq_true, ↓reduceIte] at missing
        exact ⟨rfl, by omega, leap⟩
    · rw [daysInMonth_of_ne_two february _ (year : Int)] at sample
      omega

namespace Schedule

/-! ## The place of a date in a tag -/

/-- Only blanks stand behind the last comma of a text, so a segment can begin after it. -/
def opensSegment (before : String) : Bool :=
  (Text.pieces ',' before.toList).getLast?.all (·.all Text.isBlank)

/-- Only blanks stand in front of the first comma of a text, so a segment can end before it. -/
def closesSegment (after : String) : Bool :=
  (Text.pieces ',' after.toList).head?.all (·.all Text.isBlank)

/-- A segment in its place: the segments before it and after it are those of the texts around it,
but for the empty one that the text before it ends with and the text after it begins with. -/
theorem segments_within {before after : String} {chars : List Char}
    (opens : opensSegment before = true) (closes : closesSegment after = true)
    (segment : IsSegment chars) :
    ∃ front back, segments before = front ++ [""] ∧ segments after = "" :: back ∧
      segments (before ++ String.ofList chars ++ after) = front ++ String.ofList chars :: back := by
  obtain ⟨front, lead, cut⟩ : ∃ front lead, Text.pieces ',' before.toList = front ++ [lead] :=
    ⟨_, _, (List.dropLast_append_getLast (Text.pieces_ne_nil ',' before.toList)).symm⟩
  obtain ⟨trail, back, further⟩ := List.exists_cons_of_ne_nil (Text.pieces_ne_nil ',' after.toList)
  have blankLead : ∀ c ∈ lead, Text.isBlank c = true := by
    simpa [opensSegment, cut] using opens
  have blankTrail : ∀ c ∈ trail, Text.isBlank c = true := by
    simpa [closesSegment, further] using closes
  have whole : Text.pieces ',' chars = [] ++ [chars] := by
    have clean : ∀ piece ∈ [chars], ',' ∉ piece := by simpa using segment.clean
    simpa using Text.pieces_intercalate clean (List.cons_ne_nil chars [])
  have joined := Text.pieces_append (Text.pieces_append cut whole) further
  refine ⟨front.map fun piece => String.ofList (Text.trimChars piece),
    back.map fun piece => String.ofList (Text.trimChars piece), ?_, ?_, ?_⟩
  · simp [segments, cut, Text.trimChars_blanks blankLead]
  · simp [segments, further, Text.trimChars_blanks blankTrail]
  · rw [segments, String.toList_append, String.toList_append, String.toList_ofList, joined]
    simp [-List.append_assoc, segment.trim_between blankLead blankTrail]

/-- Two segments in their place, with a comma and a blank between them. -/
theorem segments_within_two {before after : String} {first second : List Char}
    (opens : opensSegment before = true) (closes : closesSegment after = true)
    (segment : IsSegment first) (next : IsSegment second) :
    ∃ front back, segments before = front ++ [""] ∧ segments after = "" :: back ∧
      segments (before ++ String.ofList first ++ (", " ++ String.ofList second ++ after)) =
        front ++ String.ofList first :: String.ofList second :: back := by
  -- The text between the two is the text before the second one.
  have comma : segments ", " = [""] ++ [""] := by decide +kernel
  have opensNext : opensSegment ", " = true := by decide
  obtain ⟨empty, back, shape, behind, inner⟩ := segments_within opensNext closes next
  obtain rfl : empty = [""] := by
    rw [comma] at shape
    exact (List.append_cancel_right shape).symm
  have closesNext : closesSegment (", " ++ String.ofList second ++ after) = true := by
    simp [closesSegment, String.toList_append, Text.pieces]
  obtain ⟨front, rest, ahead, shape, outer⟩ := segments_within opens closesNext segment
  obtain rfl : rest = String.ofList second :: back := by
    rw [inner] at shape
    exact (List.cons.inj shape).2.symm
  exact ⟨front, back, ahead, behind, outer⟩

/-- An empty segment is a fault. -/
theorem finding_empty : finding "" = .error .empty := by decide +kernel

/-- A text that ends with an empty segment has the rules of the segments before it. -/
theorem rules_of_segments_append_empty {before : String} {front : List String}
    (cut : segments before = front ++ [""]) :
    (read before).rules = Pending.none.rules (front.map finding) := by
  rw [read_rules, findings, cut, List.map_append, List.map_singleton, finding_empty,
    Pending.rules_append, Pending.rules_cons]
  simp [Pending.step, Pending.none, Pending.flush, Pending.rules]

/-- A text that begins with an empty segment has the rules of the segments after it. -/
theorem rules_of_segments_cons_empty {after : String} {back : List String}
    (cut : segments after = "" :: back) :
    (read after).rules = Pending.none.rules (back.map finding) := by
  rw [read_rules, findings, cut, List.map_cons, finding_empty, Pending.rules_cons]
  simp [Pending.step, Pending.none, Pending.flush]

/-! ## What a date yields in its place -/

section Place

variable {year month day : Nat}

/-- The rule of a date whose year has four digits. -/
theorem rule_of_year (years : 1000 ≤ year ∧ year ≤ 9999) :
    (⟨month, day, some (UInt32.ofNat year)⟩ : DateLiteral).rule =
      match Date.ofNumbers? year month day with
      | some date => .ok (.exact date)
      | none => .error (.invalidDate (.noSuchDate year month day)) := by
  have small : year < UInt32.size := Nat.lt_of_le_of_lt years.2 (by decide)
  cases found : Date.ofNumbers? year month day <;>
    simp only [DateLiteral.rule, toInt_ofNat_of_four_digits years,
      UInt32.toNat_ofNat_of_lt' small, found]

/-- The day of a date is a word of 32 bits. -/
theorem small_of_isDate {year : Int} (valid : isDate year month day = true) :
    day < UInt32.size :=
  (⟨year, month, day, valid⟩ : Date).small.2

/-- Whatever is held back, a date in one segment yields its rule after it, if it exists. -/
theorem rules_of_writesDate {chars : List Char} (years : 1000 ≤ year ∧ year ≤ 9999)
    (months : month ≤ 12) (writes : WritesDate year month day chars) (pending : Pending)
    (rest : List Finding) :
    pending.rules (finding (String.ofList chars) :: rest) =
      pending.flush ++ exactRules year month day ++ Pending.none.rules rest := by
  obtain ⟨-, said⟩ := writes.finding years months
  rw [rule_of_year years] at said
  rw [Pending.rules_cons, said, exactRules]
  cases found : Date.ofNumbers? year month day with
  | some date =>
    obtain ⟨-, -, rfl⟩ := Date.ofNumbers?_eq_some_iff.mp found
    rw [if_pos date.small.2]
    simp [Except.map, Pending.step, Pending.take]
  | none =>
    by_cases below : day < UInt32.size
    · simp [below, Except.map, Pending.step]
    · simp [below, Pending.step]

/-- In two segments it does the same, but for February 29 in a year that has none: that yields
the yearly date. -/
theorem rules_of_writesDateApart {first second : List Char}
    (years : 1000 ≤ year ∧ year ≤ 9999) (writes : WritesDateApart year month day first second)
    (pending : Pending) (rest : List Finding) :
    (¬ MissedLeapDay year month day →
      pending.rules (finding (String.ofList first) :: finding (String.ofList second) :: rest) =
        pending.flush ++ exactRules year month day ++ Pending.none.rules rest) ∧
    (MissedLeapDay year month day →
      pending.rules (finding (String.ofList first) :: finding (String.ofList second) :: rest) =
        pending.flush ++ [.date (.annual month day)] ++ Pending.none.rules rest) := by
  obtain ⟨⟨-, opening⟩, -, closing⟩ := writes.finding years
  rw [Pending.rules_cons, Pending.rules_cons, closing, opening, missedLeapDay_iff years]
  cases sample : isDate DateLiteral.sampleYear month day with
  | false =>
    have none : Date.ofNumbers? year month day = .none := by
      refine Date.ofNumbers?_eq_none_iff.mpr (Bool.eq_false_iff.mpr fun valid => ?_)
      rw [isDate_sample valid] at sample
      cases sample
    -- The first segment is a fault, and the year after it completes nothing.
    refine ⟨fun _ => ?_, fun missed => absurd missed.1 (by simp)⟩
    by_cases below : day < UInt32.size
    · simp [below, DateLiteral.rule, sample, Except.map, Pending.step, Pending.take, exactRules,
        none, Pending.none]
    · simp [below, Pending.step, Pending.take, exactRules, none, Pending.none]
  | true =>
    have below := small_of_isDate sample
    cases valid : isDate year month day with
    | true =>
      obtain ⟨date, found⟩ : ∃ date, Date.ofNumbers? year month day = some date :=
        ⟨⟨year, month, day, valid⟩, dif_pos valid⟩
      refine ⟨fun _ => ?_, fun missed => absurd missed.2 (by simp)⟩
      simp [below, DateLiteral.rule, sample, Except.map, Pending.step, Pending.take, exactRules,
        found]
    | false =>
      have none := Date.ofNumbers?_eq_none_iff.mpr valid
      refine ⟨fun exists' => absurd ⟨rfl, rfl⟩ exists', fun _ => ?_⟩
      simp [below, DateLiteral.rule, sample, Except.map, Pending.step, Pending.take, none,
        Pending.flush]

end Place

/-- In the place of a segment every way of writing a date as one segment yields its rule, if it
exists, and nothing else; and the comma before the year makes no difference exactly when the date
is not February 29 in a year that has none. There it leaves the yearly date. -/
theorem spellings_agree_iff (before after : String) (opens : opensSegment before = true)
    (closes : closesSegment after = true) {year month day : Nat}
    (years : 1000 ≤ year ∧ year ≤ 9999) (months : month ≤ 12) {chars first second : List Char}
    (writes : WritesDate year month day chars)
    (apart : WritesDateApart year month day first second) :
    (read (before ++ String.ofList chars ++ after)).rules =
        (read before).rules ++ exactRules year month day ++ (read after).rules ∧
      ((read (before ++ String.ofList first ++ (", " ++ String.ofList second ++ after))).rules =
          (read (before ++ String.ofList chars ++ after)).rules ↔
        ¬ MissedLeapDay year month day) ∧
      (MissedLeapDay year month day →
        (read (before ++ String.ofList first ++ (", " ++ String.ofList second ++ after))).rules =
          (read before).rules ++ [.date (.annual month day)] ++ (read after).rules) := by
  have one : (read (before ++ String.ofList chars ++ after)).rules =
      (read before).rules ++ exactRules year month day ++ (read after).rules := by
    obtain ⟨front, back, ahead, behind, whole⟩ :=
      segments_within opens closes (writes.finding years months).1
    rw [rules_of_segments_append_empty ahead, rules_of_segments_cons_empty behind, read_rules,
      findings, whole, List.map_append, List.map_cons, Pending.rules_append,
      rules_of_writesDate years months writes]
    simp [Pending.rules]
  obtain ⟨⟨opening, -⟩, closing, -⟩ := apart.finding years
  obtain ⟨front, back, ahead, behind, whole⟩ := segments_within_two opens closes opening closing
  obtain ⟨plain, missed⟩ := rules_of_writesDateApart years apart
    (Pending.none.after (front.map finding)) (back.map finding)
  have two : ∀ middle, (Pending.none.after (front.map finding)).rules
      (finding (String.ofList first) :: finding (String.ofList second) :: back.map finding) =
        (Pending.none.after (front.map finding)).flush ++ middle ++
          Pending.none.rules (back.map finding) →
      (read (before ++ String.ofList first ++ (", " ++ String.ofList second ++ after))).rules =
        (read before).rules ++ middle ++ (read after).rules := by
    intro middle yields
    rw [rules_of_segments_append_empty ahead, rules_of_segments_cons_empty behind, read_rules,
      findings, whole, List.map_append, List.map_cons, List.map_cons, Pending.rules_append, yields]
    simp [Pending.rules]
  refine ⟨one, ⟨fun same leap => ?_, fun exists' => ?_⟩, fun leap => two _ (missed leap)⟩
  · -- The yearly date is one rule more than the missing date.
    have none : Date.ofNumbers? year month day = .none :=
      Date.ofNumbers?_eq_none_iff.mpr ((missedLeapDay_iff years).mp leap).2
    rw [one, two _ (missed leap), exactRules, none] at same
    simp at same
  · rw [one]
    exact two _ (plain exists')

/-- Christmas of 2026 between a day of the week and a lone year, in two ways. -/
theorem spellings_agree_christmas :
    WritesDate 2026 12 25 "25th DEC 2026".toList ∧
      WritesDateApart 2026 12 25 "December 25".toList "2026".toList ∧
      (read "Monday, 25th DEC 2026 , 2027").rules =
        [.weekday .monday, .date (.exact ⟨2026, 12, 25, rfl⟩)] ∧
      (read "Monday, December 25, 2026 , 2027").rules =
        (read "Monday, 25th DEC 2026 , 2027").rules := by
  have inYear : IsNumeral ['2', '0', '2', '6'] 2026 :=
    ⟨by decide, List.all_eq_true.mp (by decide), by decide⟩
  have onDay : IsNumeral ['2', '5'] 25 :=
    ⟨by decide, List.all_eq_true.mp (by decide), by decide⟩
  have writes : WritesDate 2026 12 25 "25th DEC 2026".toList := by
    have shape : "25th DEC 2026".toList =
        ['2', '5'] ++ ['t', 'h'] ++ ' ' :: (['D', 'E', 'C'] ++ ' ' :: ['2', '0', '2', '6']) := by
      decide +kernel
    rw [shape]
    exact .dayFirst (by decide +kernel) (.ending onDay (by decide)) inYear
  have apart : WritesDateApart 2026 12 25 "December 25".toList "2026".toList := by
    have shape : "December 25".toList = "December".toList ++ ' ' :: ['2', '5'] := by
      decide +kernel
    have digits : "2026".toList = ['2', '0', '2', '6'] := by decide +kernel
    rw [shape, digits]
    exact .apart (by decide +kernel) (.plain onDay) inYear
  obtain ⟨one, two, -⟩ := spellings_agree_iff "Monday, " " , 2027" (by decide) (by decide)
    ⟨by decide, by decide⟩ (by decide) writes apart
  have other : ¬ MissedLeapDay 2026 12 25 := fun missed => absurd missed.1 (by decide)
  have same := two.mpr other
  simp only [String.ofList_toList] at one same
  exact ⟨writes, apart, one.trans (by decide +kernel), same⟩

/-- February 29 of 2026 does not exist: written as one segment it yields nothing, and with a comma
before the year it yields February 29 of every year. -/
theorem spellings_differ_leap_day :
    WritesDate 2026 2 29 "February 29 2026".toList ∧
      WritesDateApart 2026 2 29 "February 29".toList "2026".toList ∧
      (read "February 29 2026").rules = [] ∧
      (read "February 29, 2026").rules = [.date (.annual 2 29)] := by
  have inYear : IsNumeral ['2', '0', '2', '6'] 2026 :=
    ⟨by decide, List.all_eq_true.mp (by decide), by decide⟩
  have onDay : IsNumeral ['2', '9'] 29 :=
    ⟨by decide, List.all_eq_true.mp (by decide), by decide⟩
  have shape : "February 29 2026".toList =
      "February".toList ++ ' ' :: (['2', '9'] ++ ' ' :: ['2', '0', '2', '6']) := by decide +kernel
  have front : "February 29".toList = "February".toList ++ ' ' :: ['2', '9'] := by decide +kernel
  have digits : "2026".toList = ['2', '0', '2', '6'] := by decide +kernel
  rw [shape, front, digits]
  exact ⟨.nameFirst (by decide +kernel) (.plain onDay) inYear,
    .apart (by decide +kernel) (.plain onDay) inYear, by decide +kernel, by decide +kernel⟩

end Schedule

end OffHours
