import Mathlib.Data.List.Basic
import OffHours.Proofs.Schedule.Reading
import OffHours.Proofs.Schedule.Scanning
import OffHours.Schedule.Printer

/-!
# Written schedules are read back

Writing rules as a tag and reading the tag gives the rules: `Schedule.read_write`. It goes in
three steps. A tag is cut at its commas into the segments that were written; each segment says
its rule; and whatever is held back when a segment is met, the segment adds its own rule to what
is yielded and to nothing else, so no segment is completed by its neighbour.
-/

namespace OffHours

/-! ## Segments of a written tag -/

/-- Characters that a tag keeps as one segment: no comma among them, no blank at their ends. -/
structure IsSegment (chars : List Char) : Prop where
  /-- There is a character. -/
  nonempty : chars ≠ []
  /-- None is a comma. -/
  clean : ',' ∉ chars
  /-- The first is not blank. -/
  front : ∀ c ∈ chars.head?, Text.isBlank c = false
  /-- The last is not blank. -/
  back : ∀ c ∈ chars.getLast?, Text.isBlank c = false

/-- A word is a segment. -/
theorem IsWord.isSegment {word : List Char} (isWord : IsWord word) : IsSegment word where
  nonempty := isWord.nonempty
  clean := isWord.comma_not_mem
  front c first := not_isBlank_of_isAlphanum (isWord.plain c (List.mem_of_head? first))
  back c last := not_isBlank_of_isAlphanum (isWord.plain c (List.mem_of_getLast? last))

namespace IsSegment

variable {chars before between after : List Char}

/-- Segments with anything but commas between them are one segment. -/
theorem join (first : IsSegment before) (none : ',' ∉ between) (last : IsSegment after) :
    IsSegment (before ++ between ++ after) where
  nonempty := by simp [first.nonempty]
  clean := by simp [first.clean, none, last.clean]
  front := by
    rw [List.append_assoc, List.head?_append_of_ne_nil _ first.nonempty]
    exact first.front
  back := by
    rw [List.getLast?_append_of_ne_nil _ last.nonempty]
    exact last.back

/-- Trimming drops the blanks around a segment. -/
theorem trim_between (segment : IsSegment chars) {lead trail : List Char}
    (before : ∀ c ∈ lead, Text.isBlank c = true) (after : ∀ c ∈ trail, Text.isBlank c = true) :
    Text.trimChars (lead ++ chars ++ trail) = chars :=
  Text.trimChars_between before after segment.front segment.back

/-- Trimming leaves a segment. -/
theorem trim (segment : IsSegment chars) : Text.trimChars chars = chars := by
  have none : ∀ c ∈ ([] : List Char), Text.isBlank c = true := by simp
  simpa using segment.trim_between none none

/-- Trimming drops a blank before a segment. -/
theorem trim_blank (segment : IsSegment chars) : Text.trimChars (' ' :: chars) = chars := by
  have blank : ∀ c ∈ [' '], Text.isBlank c = true := List.all_eq_true.mp (by decide)
  have none : ∀ c ∈ ([] : List Char), Text.isBlank c = true := by simp
  simpa using segment.trim_between blank none

end IsSegment

/-- Joining with a comma and a blank is joining with a comma, with a blank before every segment
but the first. -/
theorem intercalate_comma_blank (first : List Char) (rest : List (List Char)) :
    [',', ' '].intercalate (first :: rest) = [','].intercalate (first :: rest.map (' ' :: ·)) := by
  induction rest generalizing first with
  | nil => rfl
  | cons next rest hypothesis =>
    rw [List.intercalate_cons_cons, hypothesis, List.map_cons, List.intercalate_cons_cons]
    cases rest with
    | nil => simp
    | cons later rest => simp [List.intercalate_cons_cons]

/-- A written tag is cut into the segments that were written. -/
theorem Schedule.segments_write {rules : List Rule} (present : rules ≠ [])
    (written : ∀ rule ∈ rules, IsSegment rule.segment.toList) :
    segments (write rules) = rules.map Rule.segment := by
  cases rules with
  | nil => exact absurd rfl present
  | cons first rest =>
    have tag : (write (first :: rest)).toList = [','].intercalate (first.segment.toList ::
        (rest.map fun rule => rule.segment.toList).map (' ' :: ·)) := by
      rw [← intercalate_comma_blank, write, String.toList_intercalate, List.map_map, List.map_cons]
      rfl
    have clean : ∀ segment ∈ first.segment.toList ::
        (rest.map fun rule => rule.segment.toList).map (' ' :: ·), ',' ∉ segment := by
      intro segment listed
      rcases List.mem_cons.mp listed with rfl | later
      · exact (written first List.mem_cons_self).clean
      · simp only [List.map_map, List.mem_map, Function.comp_apply] at later
        obtain ⟨rule, among, rfl⟩ := later
        have own := (written rule (List.mem_cons_of_mem first among)).clean
        simp [own]
    rw [segments, tag, Text.pieces_intercalate clean (List.cons_ne_nil _ _), List.map_cons,
      List.map_cons, (written first List.mem_cons_self).trim, String.ofList_toList, List.map_map,
      List.map_map]
    congr 1
    refine List.map_congr_left fun rule among => ?_
    simp only [Function.comp_apply]
    rw [(written rule (List.mem_cons_of_mem first among)).trim_blank, String.ofList_toList]

/-! ## What a written segment says -/

/-- The rules that a tag can say: windows on some day between hours of the clock, days of the
week, yearly dates of leap years and dates with a year of four digits. -/
def Rule.Writable : Rule → Prop
  | window days hours => days.isEmpty = false ∧ hours.first ≤ 23 ∧ hours.last ≤ 23
  | weekday _ => True
  | date (.annual month day) => ∃ year, isLeapYear year = true ∧ isDate year month day = true
  | date (.exact chosen) => 1000 ≤ chosen.year ∧ chosen.year ≤ 9999

/-- What the segment of a rule says. -/
def Rule.said : Rule → Segment
  | window days hours => .window days.toList hours
  | weekday day => .weekdays [day]
  | date rule => .date rule

/-- A set that is not empty lists a day. -/
theorem WeekdaySet.toList_ne_nil {days : WeekdaySet} (some : days.isEmpty = false) :
    days.toList ≠ [] := by
  intro none
  have empty := days.ofList_toList
  rw [none] at empty
  rw [← empty] at some
  exact absurd some (by decide)

/-- A segment says what its tokens say. -/
theorem Schedule.finding_of_reads {segment : String} {tokens ignored : List Token} {said : Segment}
    (reads : Token.Reads segment.toList tokens)
    (gives : Segment.ofTokens tokens = .ok (said, ignored)) : finding segment = .ok said := by
  have scanned : Token.ofText segment = .ok tokens := reads.scan_eq
  simp [finding, Segment.ofText, scanned, gives, bind, Except.bind, Except.map]

section Days

variable {last : List Char} {tokens : List Token}

/-- Names of days of the week before other characters, with blanks between them, read as the days
before the others' tokens. -/
theorem reads_days (days : List Weekday) (reads : Token.Reads last tokens) :
    Token.Reads ([' '].intercalate (days.map (fun day => day.name.toList) ++ [last]))
      (days.map Token.weekday ++ tokens) := by
  induction days with
  | nil => simpa using reads
  | cons day rest hypothesis =>
    rw [List.map_cons, List.cons_append, List.intercalate_cons_of_ne_nil (by simp),
      List.append_assoc]
    exact day.reads_name.append (Token.stops_cons (by decide)) hypothesis.blank

/-- They are one segment with the other characters. -/
theorem isSegment_days (days : List Weekday) (segment : IsSegment last) :
    IsSegment ([' '].intercalate (days.map (fun day => day.name.toList) ++ [last])) := by
  induction days with
  | nil => simpa using segment
  | cons day rest hypothesis =>
    rw [List.map_cons, List.cons_append, List.intercalate_cons_of_ne_nil (by simp)]
    exact day.isWord_name.isSegment.join (by decide) hypothesis

/-- Days of the week in front join the days of the items after them. -/
theorem items_days (days : List Weekday) {items : SegmentItems}
    (given : SegmentItems.ofTokens tokens = .ok items) :
    SegmentItems.ofTokens (days.map Token.weekday ++ tokens) =
      .ok { items with days := days ++ items.days } := by
  induction days with
  | nil => exact given
  | cons day rest hypothesis =>
    rw [List.map_cons, List.cons_append, SegmentItems.ofTokens]
    simp [ClockHour.startsAt, hypothesis, Except.map, SegmentItems.addDay]

/-- A segment that begins with a day of the week says what its items say. -/
theorem ofTokens_days {day : Weekday} {items : SegmentItems} {said : Segment}
    (given : SegmentItems.ofTokens (.weekday day :: tokens) = .ok items)
    (gives : Segment.ofItems items = .ok said) :
    Segment.ofTokens (.weekday day :: tokens) = .ok (said, items.ignored) := by
  have dated : DateLiteral.ofTokens? (.weekday day :: tokens) = none := rfl
  have numbered : Segment.yearOfTokens? (.weekday day :: tokens) = none := rfl
  simp [Segment.ofTokens, dated, numbered, given, gives, bind, Except.bind, pure, Except.pure]

end Days

/-- The segment of a day of the week says the day. -/
theorem Schedule.finding_weekday (day : Weekday) :
    IsSegment (Rule.weekday day).segment.toList ∧
      finding (Rule.weekday day).segment = .ok (Rule.weekday day).said := by
  have items : SegmentItems.ofTokens [.weekday day] = .ok { days := [day] } := by
    have none : SegmentItems.ofTokens [] = .ok {} := by rw [SegmentItems.ofTokens]
    exact items_days [day] none
  exact ⟨day.isWord_name.isSegment, finding_of_reads day.reads_name (ofTokens_days items rfl)⟩

/-- The characters of a window between hours of the clock. -/
theorem HourWindow.toList_ofClock (first last : ClockHour) :
    (HourWindow.ofClock first last).text.toList =
      first.text.toList ++ [' ', '-', '>', ' '] ++ last.text.toList := by
  have opens : ClockHour.ofHour? first.hour = some first := dif_pos first.hour_lt
  have closes : ClockHour.ofHour? last.hour = some last := dif_pos last.hour_lt
  simp only [text, ofClock, opens, closes, String.toList_append]
  rfl

/-- A written window reads as its hours with an arrow between them. -/
theorem HourWindow.reads_ofClock (first last : ClockHour) :
    Token.Reads (HourWindow.ofClock first last).text.toList
      [.hour first, .arrow, .hour last] := by
  have closing : Token.Reads (' ' :: last.text.toList) [.hour last] := last.reads_text.blank
  have arrow : Token.Reads (['-', '>'] ++ (' ' :: last.text.toList)) [.arrow, .hour last] :=
    Token.reads_arrow.append (Token.stops_cons (by decide)) closing
  rw [toList_ofClock, List.append_assoc]
  exact first.reads_text.append (Token.stops_cons (by decide)) arrow.blank

/-- Two hours with an arrow between them are a window. -/
theorem items_ofClock (first last : ClockHour) :
    SegmentItems.ofTokens [.hour first, .arrow, .hour last] =
      .ok { windows := [.ofClock first last] } := by
  have none : SegmentItems.ofTokens [] = .ok {} := by rw [SegmentItems.ofTokens]
  rw [SegmentItems.ofTokens]
  · simp [ClockHour.startsAt, HourWindow.ofTokens, ClockHour.ofTokens, none, Except.map,
      SegmentItems.addWindow]
  · exact fun day => Token.noConfusion
  · exact Token.noConfusion

/-- The segment of a window says the window on its days. -/
theorem Schedule.finding_window {days : WeekdaySet} {hours : HourWindow}
    (writable : (Rule.window days hours).Writable) :
    IsSegment (Rule.window days hours).segment.toList ∧
      finding (Rule.window days hours).segment = .ok (Rule.window days hours).said := by
  obtain ⟨some, first, last⟩ := writable
  have clock : hours = .ofClock ⟨hours.first, by omega⟩ ⟨hours.last, by omega⟩ := rfl
  generalize (⟨hours.first, by omega⟩ : ClockHour) = opening at clock
  generalize (⟨hours.last, by omega⟩ : ClockHour) = closing at clock
  subst clock
  have chars : (Rule.window days (.ofClock opening closing)).segment.toList =
      [' '].intercalate (days.toList.map (fun day => day.name.toList) ++
        [(HourWindow.ofClock opening closing).text.toList]) := by
    rw [Rule.segment, String.toList_intercalate, List.map_append, List.map_map]
    rfl
  constructor
  · rw [chars]
    apply isSegment_days
    rw [HourWindow.toList_ofClock]
    exact opening.isWord_text.isSegment.join (by decide) closing.isWord_text.isSegment
  · have reads := reads_days days.toList (HourWindow.reads_ofClock opening closing)
    have items := items_days days.toList (items_ofClock opening closing)
    rw [← chars] at reads
    cases listed : days.toList with
    | nil => exact absurd listed (WeekdaySet.toList_ne_nil some)
    | cons day rest =>
      rw [listed] at reads items
      rw [Rule.said, listed]
      have said : Segment.ofItems
          { days := (day :: rest) ++ [], windows := [.ofClock opening closing] } =
            .ok (.window (day :: rest) (.ofClock opening closing)) := by
        rw [Segment.ofItems, List.append_nil]
      exact finding_of_reads reads (ofTokens_days items said)

/-! ## Dates -/

/-- All leap years have the same days. -/
theorem isDate_leap {year other : Int} {month day : Nat} (leap : isLeapYear year = true)
    (alike : isLeapYear other = true) (inside : firstYear ≤ other ∧ other ≤ lastYear)
    (valid : isDate year month day = true) : isDate other month day = true := by
  have months : daysInMonth other month = daysInMonth year month := by
    unfold daysInMonth
    rw [leap, alike]
  simp only [isDate, Bool.and_eq_true, decide_eq_true_eq] at valid ⊢
  rw [months]
  exact ⟨⟨inside, valid.1.2⟩, valid.2⟩

/-- The month and the day of a date are words of 32 bits. -/
theorem Date.small (date : Date) : date.month < UInt32.size ∧ date.day < UInt32.size := by
  have months := date.month_bounds
  have days := daysInMonth_le date.year date.month
  have valid := date.valid
  simp only [isDate, Bool.and_eq_true, decide_eq_true_eq] at valid
  have size : 31 < UInt32.size := by decide
  omega

/-- A segment that writes a date says the rule of the date. -/
theorem ofTokens_date {tokens : List Token} {literal : DateLiteral} {rule : DateRule}
    (dated : DateLiteral.ofTokens? tokens = some literal) (gives : literal.rule = .ok rule) :
    Segment.ofTokens tokens = .ok (.date rule, []) := by
  cases tokens with
  | nil => cases dated
  | cons token rest => simp [Segment.ofTokens, dated, gives, Except.map]

/-- The segment of a yearly date says the date. -/
theorem Schedule.finding_annual {month day : Nat}
    (writable : (Rule.date (.annual month day)).Writable) :
    IsSegment (Rule.date (.annual month day)).segment.toList ∧
      finding (Rule.date (.annual month day)).segment =
        .ok (Rule.date (.annual month day)).said := by
  obtain ⟨year, leap, valid⟩ := writable
  obtain ⟨monthSmall, daySmall⟩ := (⟨year, month, day, valid⟩ : Date).small
  have monthNumeral := isNumeral_toDigits month
  have dayNumeral := isNumeral_toDigits day
  have chars : (Rule.date (.annual month day)).segment.toList =
      Nat.toDigits 10 month ++ '/' :: Nat.toDigits 10 day := by
    rw [List.append_cons]
    simp only [Rule.segment, String.toList_append, Nat.toString_eq_repr, Nat.toList_repr]
    rfl
  constructor
  · rw [chars, List.append_cons]
    exact monthNumeral.isWord.isSegment.join (by decide) dayNumeral.isWord.isSegment
  · have reads := (monthNumeral.reads monthSmall).append (Token.stops_cons (by decide))
      (dayNumeral.reads daySmall).slash
    rw [← chars] at reads
    have sample : isDate DateLiteral.sampleYear month day = true :=
      isDate_leap leap (by decide) (by decide) valid
    have dated : DateLiteral.ofTokens? ([.number (UInt32.ofNat month)] ++
        [.mark .slash, .number (UInt32.ofNat day)]) = some ⟨month, day, none⟩ := by
      simp [DateLiteral.ofTokens?, UInt32.toNat_ofNat_of_lt' monthSmall,
        UInt32.toNat_ofNat_of_lt' daySmall]
    have gives : (⟨month, day, none⟩ : DateLiteral).rule = .ok (.annual month day) := if_pos sample
    exact finding_of_reads reads (ofTokens_date dated gives)

/-- A year of four digits is the same number as a signed word. -/
theorem toInt_ofNat_of_four_digits {year : Nat} (years : 1000 ≤ year ∧ year ≤ 9999) :
    (UInt32.ofNat year).toInt32.toInt = year := by
  have below : year < 2 ^ 31 := by omega
  rw [UInt32.toInt32_ofNat', Int32.toInt_ofNat_of_lt below]

/-- A year of four digits or more is long enough for a date with marks. -/
theorem le_ofNat_of_long {year : Nat} (long : 1000 ≤ year) (small : year < UInt32.size) :
    1000 ≤ UInt32.ofNat year := by
  have thousand : (1000 : UInt32).toNat = 1000 := rfl
  rwa [UInt32.le_iff_toNat_le, UInt32.toNat_ofNat_of_lt' small, thousand]

/-- A year of four digits is long enough for a date with marks. -/
theorem le_ofNat_of_four_digits {year : Nat} (years : 1000 ≤ year ∧ year ≤ 9999) :
    1000 ≤ UInt32.ofNat year :=
  le_ofNat_of_long years.1 (Nat.lt_of_le_of_lt years.2 (by decide))

/-- A dash before a numeral is a token of its own. -/
theorem IsNumeral.reads_dash {digits rest : List Char} {value : Nat} {tokens : List Token}
    (numeral : IsNumeral digits value) (reads : Token.Reads (digits ++ rest) tokens) :
    Token.Reads ('-' :: (digits ++ rest)) (.mark .dash :: tokens) := by
  cases digits with
  | nil => exact absurd rfl numeral.nonempty
  | cons c others =>
    refine Token.Reads.dash reads ?_
    rintro rfl
    have digit := numeral.digit '>' List.mem_cons_self
    revert digit
    decide

/-- The segment of a date with a year of four digits says the date. -/
theorem Schedule.finding_exact {chosen : Date} (writable : (Rule.date (.exact chosen)).Writable) :
    IsSegment (Rule.date (.exact chosen)).segment.toList ∧
      finding (Rule.date (.exact chosen)).segment = .ok (Rule.date (.exact chosen)).said := by
  obtain ⟨least, most⟩ := writable
  obtain ⟨monthSmall, daySmall⟩ := chosen.small
  have yearSmall : chosen.year.toNat < UInt32.size := by
    have size : 9999 < UInt32.size := by decide
    omega
  have yearNumeral := isNumeral_padded 4 chosen.year.toNat
  have monthNumeral := isNumeral_padded 2 chosen.month
  have dayNumeral := isNumeral_padded 2 chosen.day
  have chars : (Rule.date (.exact chosen)).segment.toList =
      (Text.padded 4 chosen.year.toNat).toList ++ '-' :: ((Text.padded 2 chosen.month).toList ++
        '-' :: (Text.padded 2 chosen.day).toList) := by
    have four : Date.yearText chosen.year = Text.padded 4 chosen.year.toNat :=
      if_pos ⟨by omega, most⟩
    simp only [Rule.segment, Date.text, four, String.toList_append, List.append_assoc]
    rfl
  constructor
  · have monthDay : IsSegment ((Text.padded 2 chosen.month).toList ++ ['-'] ++
        (Text.padded 2 chosen.day).toList) :=
      monthNumeral.isWord.isSegment.join (by decide) dayNumeral.isWord.isSegment
    rw [← List.append_cons] at monthDay
    rw [chars, List.append_cons]
    exact yearNumeral.isWord.isSegment.join (by decide) monthDay
  · -- From the back: a dash is read with the numeral after it, so no dash is taken for an arrow.
    have last := dayNumeral.reads daySmall
    rw [← List.append_nil (Text.padded 2 chosen.day).toList] at last
    have later := (monthNumeral.reads monthSmall).append (Token.stops_cons (by decide))
      (dayNumeral.reads_dash last)
    have reads := (yearNumeral.reads yearSmall).append (Token.stops_cons (by decide))
      (monthNumeral.reads_dash later)
    rw [List.append_nil, ← chars] at reads
    have years : 1000 ≤ chosen.year.toNat ∧ chosen.year.toNat ≤ 9999 := by omega
    have signed : (UInt32.ofNat chosen.year.toNat).toInt32.toInt = chosen.year := by
      rw [toInt_ofNat_of_four_digits years]
      omega
    have long := le_ofNat_of_four_digits years
    have dated : DateLiteral.ofTokens? ([.number (UInt32.ofNat chosen.year.toNat)] ++
        .mark .dash :: ([.number (UInt32.ofNat chosen.month)] ++
          .mark .dash :: [.number (UInt32.ofNat chosen.day)])) =
        some ⟨chosen.month, chosen.day, some (UInt32.ofNat chosen.year.toNat)⟩ := by
      simp [DateLiteral.ofTokens?, long, UInt32.toNat_ofNat_of_lt' monthSmall,
        UInt32.toNat_ofNat_of_lt' daySmall]
    have found : Date.ofNumbers? chosen.year chosen.month chosen.day = some chosen :=
      Date.ofNumbers?_eq_some_iff.mpr ⟨rfl, rfl, rfl⟩
    have gives : (⟨chosen.month, chosen.day, some (UInt32.ofNat chosen.year.toNat)⟩ :
        DateLiteral).rule = .ok (.exact chosen) := by
      simp only [DateLiteral.rule, signed, found]
    exact finding_of_reads reads (ofTokens_date dated gives)

/-! ## Reading a written tag -/

namespace Schedule

/-- The segment of a rule that can be written says the rule. -/
theorem finding_segment {rule : Rule} (writable : rule.Writable) :
    IsSegment rule.segment.toList ∧ finding rule.segment = .ok rule.said := by
  cases rule with
  | window days hours => exact finding_window writable
  | weekday day => exact finding_weekday day
  | date date =>
    cases date with
    | annual month day => exact finding_annual writable
    | exact chosen => exact finding_exact writable

/-- A written segment is no fault, and it adds its rule to those of what is held back. -/
theorem Pending.step_said {rule : Rule} (writable : rule.Writable) (pending : Pending) :
    (pending.step (.ok rule.said)).fault = .none ∧
      (pending.step (.ok rule.said)).rules ++ (pending.step (.ok rule.said)).pending.flush =
        pending.flush ++ [rule] := by
  cases rule with
  | window days hours =>
    have own : days.toList.isEmpty = false := by
      rw [List.isEmpty_eq_false_iff]
      exact WeekdaySet.toList_ne_nil writable.1
    have said : pending.step (.ok (Rule.window days hours).said) =
        ⟨pending.flush ++ [.window (.ofList days.toList) hours], .none, none⟩ := by
      cases pending <;> simp [step, take, Rule.said, own]
    rw [said, WeekdaySet.ofList_toList]
    exact ⟨rfl, List.append_nil _⟩
  | weekday day =>
    cases pending with
    | days held => exact ⟨rfl, by simp [step, take, Rule.said, flush]⟩
    | annual month other => exact ⟨rfl, rfl⟩
  | date date =>
    cases date with
    | annual month day => exact ⟨by cases pending <;> rfl, by cases pending <;> rfl⟩
    | exact chosen =>
      have said : pending.step (.ok (Rule.date (.exact chosen)).said) =
          ⟨pending.flush ++ [.date (.exact chosen)], .none, none⟩ := by
        cases pending <;> rfl
      rw [said]
      exact ⟨rfl, List.append_nil _⟩

/-- Written segments yield what is held back before them and then their rules, without errors. -/
theorem readFrom_segments (rules : List Rule) (writable : ∀ rule ∈ rules, rule.Writable)
    (index : Nat) (pending : Pending) :
    (readFrom index pending (rules.map Rule.segment)).rules = pending.flush ++ rules ∧
      (readFrom index pending (rules.map Rule.segment)).errors = [] := by
  induction rules generalizing index pending with
  | nil => exact ⟨(List.append_nil _).symm, rfl⟩
  | cons rule rest hypothesis =>
    have first := writable rule List.mem_cons_self
    have said : (Segment.ofText rule.segment).map Prod.fst = .ok rule.said :=
      (finding_segment first).2
    obtain ⟨faultless, added⟩ := Pending.step_said first pending
    -- The segments after it meet what this one leaves held back.
    obtain ⟨rules, errors⟩ := hypothesis
      (fun later among => writable later (List.mem_cons_of_mem rule among)) (index + 1)
      (pending.step (.ok rule.said)).pending
    simp only [List.map_cons, readFrom, Reading.append, said]
    constructor
    · rw [rules, ← List.append_assoc, added, List.append_assoc, List.singleton_append]
    · rw [errors, faultless]
      rfl

/-- Rules that are written as a tag are read back in order and without errors. -/
theorem read_write (rules : List Rule) (present : rules ≠ [])
    (writable : ∀ rule ∈ rules, rule.Writable) :
    (read (write rules)).rules = rules ∧ (read (write rules)).errors = [] := by
  have cut : segments (write rules) = rules.map Rule.segment :=
    segments_write present fun rule among => (finding_segment (writable rule among)).1
  rw [read, cut]
  exact readFrom_segments rules writable 0 .none

/-- Rules of every kind, each beside one that could complete it. -/
def mixedRules : List Rule :=
  [.weekday .friday, .window (.ofList [.saturday, .monday]) ⟨22, 0⟩, .date (.annual 2 29),
    .date (.exact ⟨2026, 12, 25, rfl⟩), .weekday .sunday]

/-- They are written as one tag, which gives them back. -/
theorem read_write_mixed :
    write mixedRules =
        "Friday, Monday Saturday 10PM -> 12AM, 2/29, 2026-12-25, Sunday" ∧
      (read (write mixedRules)).rules = mixedRules ∧ (read (write mixedRules)).errors = [] := by
  refine ⟨by decide +kernel, read_write mixedRules (by decide) ?_⟩
  intro rule among
  simp only [mixedRules, List.mem_cons, List.not_mem_nil, or_false] at among
  rcases among with rfl | rfl | rfl | rfl | rfl
  · trivial
  · exact ⟨by decide, by decide, by decide⟩
  · exact ⟨2024, by decide, by decide⟩
  · exact ⟨by decide, by decide⟩
  · trivial

end Schedule

end OffHours
