import OffHours.Proofs.Schedule.Consistency
import OffHours.Proofs.Schedule.WrittenDates

/-!
# The grammar of a segment

The tokens of a segment write a date, a year, or a row of pieces: days of the week, time ranges
and tokens that are ignored. The grammar is given here without a word on how it is read: `DateRow`
lists the rows of a date, and `Composes` puts rows of pieces together. A list of tokens is composed
of one row at most (`Composes.unique`), its items are those of the row
(`SegmentItems.ofTokens_eq_ok_iff`), and so a segment is accepted exactly when the grammar has it:
`Segment.segment_follows_grammar`.
-/

namespace OffHours

/-! ## Dates -/

/-- The seven rows of tokens that write a date. -/
inductive DateRow : List Token → DateLiteral → Prop where
  /-- The month by name, and the day. -/
  | nameFirst (month : Nat) (day : UInt32) :
      DateRow [.month month, .number day] ⟨month, day.toNat, none⟩
  /-- The day, and the month by name. -/
  | dayFirst (day : UInt32) (month : Nat) :
      DateRow [.number day, .month month] ⟨month, day.toNat, none⟩
  /-- The month by name, the day and the year. -/
  | nameFirstYear (month : Nat) (day year : UInt32) :
      DateRow [.month month, .number day, .number year] ⟨month, day.toNat, some year⟩
  /-- The day, the month by name and the year. -/
  | dayFirstYear (day : UInt32) (month : Nat) (year : UInt32) :
      DateRow [.number day, .month month, .number year] ⟨month, day.toNat, some year⟩
  /-- Year, month and day with dashes. -/
  | dashes (year month day : UInt32) (long : 1000 ≤ year.toNat) :
      DateRow [.number year, .mark .dash, .number month, .mark .dash, .number day]
        ⟨month.toNat, day.toNat, some year⟩
  /-- Month and day with a slash. -/
  | slash (month day : UInt32) :
      DateRow [.number month, .mark .slash, .number day] ⟨month.toNat, day.toNat, none⟩
  /-- Month, day and year with slashes. -/
  | slashes (month day year : UInt32) (long : 1000 ≤ year.toNat) :
      DateRow [.number month, .mark .slash, .number day, .mark .slash, .number year]
        ⟨month.toNat, day.toNat, some year⟩

namespace DateLiteral

/-- The numbers are those of a day of the calendar; a date without a year is tried in a leap
year. -/
def InCalendar (literal : DateLiteral) : Prop :=
  isDate (literal.year.elim 2000 fun year => wordYear year.toNat) literal.month literal.day = true

/-- The rule is the date itself, every year when no year is written. -/
def Gives (literal : DateLiteral) : DateRule → Prop
  | .exact date => ∃ year, literal.year = some year ∧ date.year = wordYear year.toNat ∧
      date.month = literal.month ∧ date.day = literal.day
  | .annual month day => literal.year = none ∧ month = literal.month ∧ day = literal.day

/-- Tokens write a date exactly when they are one of the rows. -/
theorem ofTokens?_eq_some_iff {tokens : List Token} {literal : DateLiteral} :
    ofTokens? tokens = some literal ↔ DateRow tokens literal := by
  constructor
  · intro written
    unfold ofTokens? at written
    split at written
    · cases written
      exact .nameFirst _ _
    · cases written
      exact .dayFirst _ _
    · cases written
      exact .nameFirstYear _ _ _
    · cases written
      exact .dayFirstYear _ _ _
    · split at written
      · rename_i long
        cases written
        exact .dashes _ _ _ (UInt32.le_iff_toNat_le.mp long)
      · cases written
    · cases written
      exact .slash _ _
    · split at written
      · rename_i long
        cases written
        exact .slashes _ _ _ (UInt32.le_iff_toNat_le.mp long)
      · cases written
    · cases written
  · intro row
    cases row with
    | nameFirst | dayFirst | nameFirstYear | dayFirstYear | slash => rfl
    | dashes year month day long | slashes month day year long =>
      have four : (1000 : UInt32) ≤ year := UInt32.le_iff_toNat_le.mpr long
      simp only [ofTokens?, if_pos four]

variable {literal : DateLiteral}

/-- A written date has a rule exactly when it is in the calendar, and the rule is the date. -/
theorem rule_eq_ok_iff {rule : DateRule} :
    literal.rule = .ok rule ↔ literal.InCalendar ∧ literal.Gives rule := by
  cases rule with
  | exact date =>
    rw [rule_eq_exact_iff, Gives]
    constructor
    · rintro ⟨year, written, inYear, inMonth, onDay⟩
      refine ⟨?_, year, written, inYear, inMonth, onDay⟩
      rw [InCalendar, written, Option.elim, ← inYear, ← inMonth, ← onDay]
      exact date.valid
    · exact And.right
  | annual month day =>
    have sample : sampleYear = 2000 := rfl
    rw [rule_eq_annual_iff, Gives, InCalendar, sample]
    constructor
    · rintro ⟨none, valid, rfl, rfl⟩
      rw [none]
      exact ⟨valid, rfl, rfl, rfl⟩
    · rintro ⟨valid, none, rfl, rfl⟩
      rw [none] at valid
      exact ⟨none, valid, rfl, rfl⟩

/-- A written date that is not in the calendar is refused as one that does not exist. -/
theorem rule_eq_error_iff : (∃ fault, literal.rule = .error (.invalidDate fault)) ↔
    ¬ literal.InCalendar := by
  rcases literal.rule_cases with ⟨rule, given⟩ | refused
  · have valid := (rule_eq_ok_iff.mp given).1
    simp [given, valid]
  · refine iff_of_true refused fun valid => ?_
    obtain ⟨fault, refused⟩ := refused
    have exists_rule : ∃ rule, literal.Gives rule := by
      cases year : literal.year with
      | none => exact ⟨.annual literal.month literal.day, year, rfl, rfl⟩
      | some written =>
        rw [InCalendar, year] at valid
        exact ⟨.exact ⟨_, _, _, valid⟩, written, year, rfl, rfl, rfl⟩
    obtain ⟨rule, gives⟩ := exists_rule
    rw [rule_eq_ok_iff.mpr ⟨valid, gives⟩] at refused
    cases refused

end DateLiteral

/-! ## Pieces -/

/-- An hour as it is written. -/
inductive HourLiteral where
  /-- With its half of the day attached. -/
  | attached (clock : ClockHour)
  /-- A number of a clock face, and the half of the day behind it. -/
  | apart (number : UInt32) (half : Meridiem) (onFace : 1 ≤ number.toNat ∧ number.toNat ≤ 12)

namespace HourLiteral

/-- The tokens of an hour. -/
def tokens : HourLiteral → List Token
  | attached clock => [.hour clock]
  | apart number half _ => [.number number, .meridiem half]

/-- The hour on the clock of 24 hours. -/
def hour : HourLiteral → Nat
  | attached clock => clock.hour
  | apart number .am _ => number.toNat % 12
  | apart number .pm _ => number.toNat % 12 + 12

end HourLiteral

/-- Whether a token says nothing in front of others: a number must not have a half of the day
right behind it. -/
def Token.IgnoredBefore (token : Token) (rest : List Token) : Prop :=
  match token with
  | word _ | month _ | meridiem _ | mark _ => True
  | number _ => ∀ half, rest.head? ≠ some (.meridiem half)
  | weekday _ | hour _ | arrow => False

/-- A piece of a segment. -/
inductive Piece where
  /-- A day of the week. -/
  | weekday (day : Weekday)
  /-- A time range. -/
  | range (first last : HourLiteral)
  /-- A token that is ignored. -/
  | ignored (token : Token)

/-- Tokens are composed of a row of pieces. -/
inductive Composes : List Piece → List Token → Prop where
  /-- There is nothing. -/
  | nil : Composes [] []
  /-- A day of the week stands in front. -/
  | weekday {pieces : List Piece} {tokens : List Token} (day : Weekday)
      (rest : Composes pieces tokens) : Composes (.weekday day :: pieces) (.weekday day :: tokens)
  /-- Two hours with an arrow between them stand in front. -/
  | range {pieces : List Piece} {tokens : List Token} (first last : HourLiteral)
      (rest : Composes pieces tokens) :
      Composes (.range first last :: pieces)
        (first.tokens ++ .arrow :: (last.tokens ++ tokens))
  /-- A token that is ignored stands in front. -/
  | ignored {pieces : List Piece} {tokens : List Token} {token : Token}
      (idle : token.IgnoredBefore tokens) (rest : Composes pieces tokens) :
      Composes (.ignored token :: pieces) (token :: tokens)

namespace Piece

/-- The day of the week, if the piece is one. -/
def day? : Piece → Option Weekday
  | weekday day => some day
  | range _ _ | ignored _ => none

/-- The hours of a time range on the clock of 24 hours, if the piece is one. -/
def hours? : Piece → Option HourWindow
  | range first last => some ⟨first.hour, last.hour⟩
  | weekday _ | ignored _ => none

/-- The token that is ignored, if the piece is one. -/
def idle? : Piece → Option Token
  | ignored token => some token
  | weekday _ | range _ _ => none

/-- The days of the week of a row, in order of writing. -/
def days (pieces : List Piece) : List Weekday := pieces.filterMap day?

/-- The time ranges of a row. -/
def ranges (pieces : List Piece) : List HourWindow := pieces.filterMap hours?

/-- The ignored tokens of a row. -/
def ignoredTokens (pieces : List Piece) : List Token := pieces.filterMap idle?

/-- The items of a row. -/
def items (pieces : List Piece) : SegmentItems := ⟨days pieces, ranges pieces, ignoredTokens pieces⟩

end Piece

/-! ## One row for a list of tokens -/

namespace HourLiteral

/-- An hour begins where one is written. -/
theorem startsAt_tokens (literal : HourLiteral) (rest : List Token) :
    ClockHour.startsAt (literal.tokens ++ rest) = true := by
  cases literal with
  | attached clock | apart number half onFace => rfl

/-- A written hour stands at the front of tokens in one way only. -/
theorem tokens_append_inj {first second : HourLiteral} {rest later : List Token}
    (same : first.tokens ++ rest = second.tokens ++ later) : first = second ∧ rest = later := by
  cases first with
  | attached clock =>
    cases second with
    | attached other =>
      obtain ⟨head, tail⟩ := List.cons.inj same
      exact ⟨congrArg attached (Token.hour.inj head), tail⟩
    | apart number half onFace => simp [tokens] at same
  | apart number half onFace =>
    cases second with
    | attached other => simp [tokens] at same
    | apart other meridiem within =>
      simp only [tokens, List.cons_append, List.nil_append, List.cons.injEq, Token.number.injEq,
        Token.meridiem.injEq] at same
      obtain ⟨rfl, rfl, tail⟩ := same
      exact ⟨rfl, tail⟩

end HourLiteral

/-- No hour begins at a token that is ignored. -/
theorem Token.IgnoredBefore.startsAt_eq {token : Token} {rest : List Token}
    (idle : token.IgnoredBefore rest) : ClockHour.startsAt (token :: rest) = false := by
  cases token with
  | hour clock => exact absurd idle id
  | number value =>
    cases rest with
    | nil => rfl
    | cons next later =>
      cases next with
      | meridiem half => exact absurd rfl (idle half)
      | _ => rfl
  | _ => rfl

namespace Composes

/-- A token that is ignored does not begin a time range. -/
theorem ne_range {token : Token} {rest tokens : List Token} {first : HourLiteral}
    (idle : token.IgnoredBefore rest) : token :: rest ≠ first.tokens ++ tokens := by
  intro same
  have starts := first.startsAt_tokens tokens
  rw [← same, idle.startsAt_eq] at starts
  cases starts

/-- A list of tokens is composed of one row at most. -/
theorem unique {pieces others : List Piece} {tokens : List Token} (left : Composes pieces tokens)
    (right : Composes others tokens) : pieces = others := by
  induction left generalizing others with
  | nil =>
    generalize none : ([] : List Token) = tokens at right
    cases right with
    | nil => rfl
    | range first last rest => cases first <;> simp [HourLiteral.tokens] at none
    | _ => cases none
  | @weekday pieces tokens day rest hypothesis =>
    generalize whole : Token.weekday day :: tokens = row at right
    cases right with
    | nil => cases whole
    | weekday other later =>
      obtain ⟨head, rfl⟩ := List.cons.inj whole
      obtain rfl := Token.weekday.inj head
      rw [hypothesis later]
    | range first last later => cases first <;> simp [HourLiteral.tokens] at whole
    | ignored idle later =>
      obtain ⟨rfl, -⟩ := List.cons.inj whole
      exact absurd idle id
  | @range pieces tokens first last rest hypothesis =>
    generalize whole : first.tokens ++ Token.arrow :: (last.tokens ++ tokens) = row at right
    cases right with
    | nil => cases first <;> simp [HourLiteral.tokens] at whole
    | weekday other later => cases first <;> simp [HourLiteral.tokens] at whole
    | range opening closing later =>
      obtain ⟨rfl, arrow⟩ := HourLiteral.tokens_append_inj whole
      obtain ⟨rfl, rfl⟩ := HourLiteral.tokens_append_inj (List.cons.inj arrow).2
      rw [hypothesis later]
    | ignored idle later => exact absurd whole.symm (ne_range idle)
  | @ignored pieces tokens token idle rest hypothesis =>
    generalize whole : token :: tokens = row at right
    cases right with
    | nil => cases whole
    | weekday other later =>
      obtain ⟨rfl, -⟩ := List.cons.inj whole
      exact absurd idle id
    | range first last later => exact absurd whole (ne_range idle)
    | ignored other later =>
      obtain ⟨rfl, rfl⟩ := List.cons.inj whole
      rw [hypothesis later]

end Composes

/-! ## Reading the pieces -/

/-- An hour is read at the front of tokens exactly when one is written there. -/
theorem ClockHour.ofTokens_eq_ok_iff {tokens rest : List Token} {clock : ClockHour} :
    ClockHour.ofTokens tokens = .ok (clock, rest) ↔
      ∃ literal : HourLiteral, tokens = literal.tokens ++ rest ∧ literal.hour = clock.hour := by
  constructor
  · intro read
    unfold ClockHour.ofTokens at read
    split at read
    · cases read
      exact ⟨.attached clock, rfl, rfl⟩
    · rename_i number half later
      by_cases onFace : 1 ≤ number.toNat ∧ number.toNat ≤ 12
      · simp only [ofTwelve?, dif_pos onFace] at read
        cases half with
        | am =>
          cases read
          exact ⟨.apart number .am onFace, rfl, rfl⟩
        | pm =>
          cases read
          exact ⟨.apart number .pm onFace, rfl, rfl⟩
      · simp only [ofTwelve?, dif_neg onFace] at read
        cases read
    all_goals cases read
  · rintro ⟨literal, rfl, same⟩
    cases literal with
    | attached other =>
      obtain rfl : other = clock := by
        cases other
        cases clock
        cases same
        rfl
      rfl
    | apart number half onFace =>
      have clocked : ofTwelve? number.toNat half = some clock := by
        simp only [ofTwelve?, dif_pos onFace]
        cases half with
        | am | pm =>
          cases clock
          cases same
          rfl
      simp [HourLiteral.tokens, ClockHour.ofTokens, clocked]

/-- A time range is read at the front of tokens exactly when one is written there. -/
theorem HourWindow.ofTokens_eq_ok_iff {tokens rest : List Token} {hours : HourWindow} :
    HourWindow.ofTokens tokens = .ok (hours, rest) ↔
      ∃ first last : HourLiteral, tokens = first.tokens ++ .arrow :: (last.tokens ++ rest) ∧
        hours = ⟨first.hour, last.hour⟩ := by
  constructor
  · intro read
    unfold HourWindow.ofTokens at read
    split at read
    · cases read
    · cases read
    · rename_i opening later _ opened
      split at read
      · cases read
      · rename_i closing remaining closed
        cases read
        obtain ⟨first, rfl, start⟩ := ClockHour.ofTokens_eq_ok_iff.mp opened
        obtain ⟨last, rfl, finish⟩ := ClockHour.ofTokens_eq_ok_iff.mp closed
        exact ⟨first, last, rfl, by rw [ofClock, start, finish]⟩
    · cases read
  · rintro ⟨first, last, rfl, rfl⟩
    -- Every literal is read as the hour of the clock that it denotes.
    have read : ∀ (literal : HourLiteral) (later : List Token), ∃ clock : ClockHour,
        ClockHour.ofTokens (literal.tokens ++ later) = .ok (clock, later) ∧
          literal.hour = clock.hour := by
      intro literal later
      have below : literal.hour < 24 := by
        cases literal with
        | attached clock => exact clock.hour_lt
        | apart number half onFace => cases half <;> simp only [HourLiteral.hour] <;> omega
      exact ⟨⟨literal.hour, below⟩, ClockHour.ofTokens_eq_ok_iff.mpr ⟨literal, rfl, rfl⟩, rfl⟩
    obtain ⟨opening, opened, start⟩ := read first (.arrow :: (last.tokens ++ rest))
    obtain ⟨closing, closed, finish⟩ := read last rest
    have more : last.tokens ++ rest ≠ [] := by cases last <;> simp [HourLiteral.tokens]
    rw [HourWindow.ofTokens, opened]
    cases remaining : last.tokens ++ rest with
    | nil => exact absurd remaining more
    | cons token others =>
      rw [remaining] at closed
      simp only [closed, start, finish]
      rfl

/-- An hour is not refused for a date. -/
theorem ClockHour.ofTokens_ne_invalidDate (tokens : List Token) (date : DateFault) :
    ClockHour.ofTokens tokens ≠ .error (.invalidDate date) := by
  intro refused
  unfold ClockHour.ofTokens at refused
  split at refused
  · cases refused
  · split at refused <;> cases refused
  all_goals cases refused

/-- A time range is not refused for a date. -/
theorem HourWindow.ofTokens_ne_invalidDate (tokens : List Token) (date : DateFault) :
    HourWindow.ofTokens tokens ≠ .error (.invalidDate date) := by
  intro refused
  unfold HourWindow.ofTokens at refused
  split at refused
  · rename_i opened
    cases refused
    exact ClockHour.ofTokens_ne_invalidDate _ date opened
  · cases refused
  · split at refused
    · rename_i closed
      cases refused
      exact ClockHour.ofTokens_ne_invalidDate _ date closed
    · cases refused
  · cases refused

/-- An error that is left after a change was there before. -/
theorem Schedule.eq_error_of_map_eq_error {ε α β : Type} {change : α → β} {result : Except ε α}
    {fault : ε} (refused : result.map change = .error fault) : result = .error fault := by
  cases result with
  | error other => exact congrArg Except.error (Except.error.inj refused)
  | ok value => cases refused

namespace SegmentItems

/-- A day of the week is an item in front of the others. -/
theorem ofTokens_weekday (day : Weekday) (tokens : List Token) :
    ofTokens (.weekday day :: tokens) = (ofTokens tokens).map (addDay day) := by
  rw [ofTokens]
  simp [ClockHour.startsAt]

/-- A token that is ignored is put in front of the others. -/
theorem ofTokens_ignored {token : Token} {tokens : List Token}
    (idle : token.IgnoredBefore tokens) :
    ofTokens (token :: tokens) = (ofTokens tokens).map (addIgnored token) := by
  have starts := idle.startsAt_eq
  cases token with
  | weekday day | hour clock | arrow => exact absurd idle id
  | number | month | mark | meridiem | word =>
    rw [ofTokens]
    · simp [starts]
    · exact fun day => Token.noConfusion
    · exact Token.noConfusion

/-- Tokens have items exactly when they are composed of a row, and these are the items of the
row. -/
theorem ofTokens_eq_ok_iff {tokens : List Token} {items : SegmentItems} :
    ofTokens tokens = .ok items ↔
      ∃ pieces, Composes pieces tokens ∧ items = Piece.items pieces := by
  constructor
  · intro read
    fun_induction ofTokens tokens generalizing items with
    | case1 =>
      cases read
      exact ⟨[], .nil, rfl⟩
    | case2 => cases read
    | case3 token rest starts hours later opened hypothesis =>
      obtain ⟨others, further, rfl⟩ := Schedule.exists_of_map_eq_ok read
      obtain ⟨pieces, composed, rfl⟩ := hypothesis further
      obtain ⟨first, last, same, rfl⟩ := HourWindow.ofTokens_eq_ok_iff.mp opened
      exact ⟨.range first last :: pieces, same ▸ .range first last composed, rfl⟩
    | case4 rest day starts hypothesis =>
      obtain ⟨others, further, rfl⟩ := Schedule.exists_of_map_eq_ok read
      obtain ⟨pieces, composed, rfl⟩ := hypothesis further
      exact ⟨.weekday day :: pieces, .weekday day composed, rfl⟩
    | case5 => cases read
    | case6 rest token notDay notArrow starts hypothesis =>
      obtain ⟨others, further, rfl⟩ := Schedule.exists_of_map_eq_ok read
      obtain ⟨pieces, composed, rfl⟩ := hypothesis further
      have idle : token.IgnoredBefore rest := by
        cases token with
        | weekday day => exact absurd rfl (notDay day)
        | arrow => exact absurd rfl notArrow
        | hour clock => exact absurd rfl starts
        | number value =>
          intro half next
          obtain ⟨more, rfl⟩ := List.head?_eq_some_iff.mp next
          exact absurd rfl starts
        | _ => trivial
      exact ⟨.ignored token :: pieces, .ignored idle composed, rfl⟩
  · rintro ⟨pieces, composed, rfl⟩
    induction composed with
    | nil => rw [ofTokens]; rfl
    | weekday day rest hypothesis =>
      rw [ofTokens_weekday, hypothesis]
      rfl
    | range first last rest hypothesis =>
      rw [ofTokens_of_startsAt (first.startsAt_tokens _),
        HourWindow.ofTokens_eq_ok_iff.mpr ⟨first, last, rfl, rfl⟩]
      dsimp only [Except.bind]
      rw [hypothesis]
      rfl
    | ignored idle rest hypothesis =>
      rw [ofTokens_ignored idle, hypothesis]
      rfl

/-- Items are not refused for a date. -/
theorem ofTokens_ne_invalidDate (tokens : List Token) (date : DateFault) :
    ofTokens tokens ≠ .error (.invalidDate date) := by
  intro refused
  fun_induction ofTokens tokens with
  | case1 => cases refused
  | case2 token rest starts fault opened =>
    cases refused
    exact HourWindow.ofTokens_ne_invalidDate _ date opened
  | case3 token rest starts hours later opened hypothesis =>
    exact hypothesis (Schedule.eq_error_of_map_eq_error refused)
  | case4 rest day starts hypothesis =>
    exact hypothesis (Schedule.eq_error_of_map_eq_error refused)
  | case5 => cases refused
  | case6 rest token notDay notArrow starts hypothesis =>
    exact hypothesis (Schedule.eq_error_of_map_eq_error refused)

end SegmentItems

/-! ## What a segment says -/

namespace Segment

/-- The tokens write neither a date nor a year. -/
structure IsRow (tokens : List Token) : Prop where
  /-- They are no row of a date. -/
  noDate : ∀ literal, ¬ DateRow tokens literal
  /-- They are no number of four digits. -/
  noYear : ∀ value : UInt32, tokens = [.number value] → ¬ (1000 ≤ value.toNat ∧ value.toNat ≤ 9999)

/-- What a segment of these tokens says is what the grammar has for them. -/
structure FollowsGrammar (tokens : List Token) (said : Except SegmentFault (Segment × List Token)) :
    Prop where
  /-- It says a date when the tokens are a row of that date, which is in the calendar. -/
  date : ∀ rule, (∃ ignored, said = .ok (.date rule, ignored)) ↔
    ∃ literal, DateRow tokens literal ∧ literal.InCalendar ∧ literal.Gives rule
  /-- It is refused for its date when the tokens are a row of a date that is not in the
  calendar. -/
  invalidDate : (∃ fault, said = .error (.invalidDate fault)) ↔
    ∃ literal, DateRow tokens literal ∧ ¬ literal.InCalendar
  /-- It says a year when the tokens are one number of four digits. -/
  year : ∀ number, (∃ ignored, said = .ok (.year number, ignored)) ↔
    ∃ value : UInt32, tokens = [.number value] ∧ value.toNat = number ∧
      1000 ≤ number ∧ number ≤ 9999
  /-- Other tokens say something when they are composed of pieces with one time range at most,
  and a day of the week or a time range at least. -/
  row : IsRow tokens → ((∃ result, said = .ok result) ↔
    ∃ pieces, Composes pieces tokens ∧ (Piece.ranges pieces).length ≤ 1 ∧
      (Piece.days pieces ≠ [] ∨ Piece.ranges pieces ≠ []))
  /-- There is one such row of pieces. -/
  unique : ∀ pieces others, Composes pieces tokens → Composes others tokens → pieces = others
  /-- The days of the row are said in order of writing with the hours of its time range, and the
  ignored tokens are kept. -/
  meaning : IsRow tokens → ∀ pieces, Composes pieces tokens → ∀ segment ignored,
    said = .ok (segment, ignored) → ignored = Piece.ignoredTokens pieces ∧
      ((Piece.ranges pieces = [] ∧ segment = .weekdays (Piece.days pieces)) ∨
        ∃ hours, Piece.ranges pieces = [hours] ∧ segment = .window (Piece.days pieces) hours)

/-- Tokens write a date, a year, or something else. -/
theorem kind_cases (tokens : List Token) : (∃ literal, DateRow tokens literal) ∨
    (∃ value : UInt32, tokens = [.number value] ∧ 1000 ≤ value.toNat ∧ value.toNat ≤ 9999) ∨
    IsRow tokens := by
  by_cases dated : ∃ literal, DateRow tokens literal
  · exact Or.inl dated
  · by_cases numbered : ∃ value : UInt32, tokens = [.number value] ∧ 1000 ≤ value.toNat ∧
        value.toNat ≤ 9999
    · exact Or.inr (Or.inl numbered)
    · exact Or.inr (Or.inr ⟨not_exists.mp dated, fun value single four =>
        numbered ⟨value, single, four⟩⟩)

variable {tokens : List Token}

/-- A row of a date says the rule of that date. -/
theorem ofTokens_of_dateRow {literal : DateLiteral} (row : DateRow tokens literal) :
    ofTokens tokens = literal.rule.map fun rule => (.date rule, []) := by
  have nonempty : tokens.isEmpty = false := by cases row <;> rfl
  simp [ofTokens, nonempty, DateLiteral.ofTokens?_eq_some_iff.mpr row]

/-- A number of four digits says a year. -/
theorem ofTokens_of_year {value : UInt32} (four : 1000 ≤ value.toNat ∧ value.toNat ≤ 9999) :
    ofTokens [.number value] = .ok (.year value.toNat, []) := by
  have bounds : 1000 ≤ value ∧ value ≤ 9999 := by
    rw [UInt32.le_iff_toNat_le, UInt32.le_iff_toNat_le]
    exact four
  simp [ofTokens, DateLiteral.ofTokens?, yearOfTokens?, bounds]

/-- Other tokens say what their items say together. -/
theorem ofTokens_of_isRow (kind : IsRow tokens) (nonempty : tokens ≠ []) :
    ofTokens tokens = (SegmentItems.ofTokens tokens).bind fun items =>
      (ofItems items).map fun segment => (segment, items.ignored) := by
  have noDate : DateLiteral.ofTokens? tokens = none :=
    Option.eq_none_iff_forall_ne_some.mpr fun literal dated =>
      kind.noDate literal (DateLiteral.ofTokens?_eq_some_iff.mp dated)
  have noYear : yearOfTokens? tokens = none := by
    unfold yearOfTokens?
    split
    · rename_i value
      refine if_neg fun bounds => kind.noYear value rfl ?_
      exact ⟨UInt32.le_iff_toNat_le.mp bounds.1, UInt32.le_iff_toNat_le.mp bounds.2⟩
    · rfl
  rw [ofTokens, if_neg (by simpa using nonempty), noDate, noYear]
  rfl

/-- Other tokens say something exactly when they are composed of pieces that say it together. -/
theorem ofTokens_eq_ok_iff (kind : IsRow tokens) (nonempty : tokens ≠ []) {segment : Segment}
    {ignored : List Token} :
    ofTokens tokens = .ok (segment, ignored) ↔
      ∃ pieces, Composes pieces tokens ∧ ofItems (Piece.items pieces) = .ok segment ∧
        ignored = Piece.ignoredTokens pieces := by
  rw [ofTokens_of_isRow kind nonempty]
  constructor
  · intro said
    cases read : SegmentItems.ofTokens tokens with
    | error fault => rw [read] at said; cases said
    | ok items =>
      rw [read] at said
      obtain ⟨together, given, same⟩ := Schedule.exists_of_map_eq_ok said
      obtain ⟨rfl, rfl⟩ := Prod.mk.inj same
      obtain ⟨pieces, composed, rfl⟩ := SegmentItems.ofTokens_eq_ok_iff.mp read
      exact ⟨pieces, composed, given, rfl⟩
  · rintro ⟨pieces, composed, given, rfl⟩
    rw [SegmentItems.ofTokens_eq_ok_iff.mpr ⟨pieces, composed, rfl⟩]
    dsimp only [Except.bind]
    rw [given]
    rfl

/-- What pieces say together: their days alone, or their days with the one time range. -/
theorem ofItems_eq_ok_iff {pieces : List Piece} {segment : Segment} :
    ofItems (Piece.items pieces) = .ok segment ↔
      (Piece.ranges pieces = [] ∧ Piece.days pieces ≠ [] ∧
        segment = .weekdays (Piece.days pieces)) ∨
      ∃ hours, Piece.ranges pieces = [hours] ∧ segment = .window (Piece.days pieces) hours := by
  unfold ofItems Piece.items
  dsimp only
  split
  · rename_i empty
    by_cases idle : Piece.days pieces = []
    · simp [empty, idle]
    · simp [empty, idle, eq_comm (a := segment)]
  · rename_i hours one
    simp [one, eq_comm (a := segment)]
  · rename_i more one
    simp only [false_iff, not_or, not_and, not_exists, reduceCtorEq]
    exact ⟨fun empty => (more empty).elim, fun hours single => (one hours single).elim⟩

/-- Tokens that write neither a date nor a year are not refused for a date. -/
theorem ofTokens_ne_invalidDate (kind : IsRow tokens) (nonempty : tokens ≠ []) (fault : DateFault) :
    ofTokens tokens ≠ .error (.invalidDate fault) := by
  rw [ofTokens_of_isRow kind nonempty]
  intro refused
  cases read : SegmentItems.ofTokens tokens with
  | error other =>
    rw [read] at refused
    cases refused
    exact SegmentItems.ofTokens_ne_invalidDate tokens fault read
  | ok items =>
    rw [read] at refused
    have together := Schedule.eq_error_of_map_eq_error refused
    unfold ofItems at together
    split at together
    · split at together <;> cases together
    all_goals cases together

/-- Tokens say a date exactly when they are a row of it and it is in the calendar. -/
theorem date_iff {rule : DateRule} :
    (∃ ignored, ofTokens tokens = .ok (.date rule, ignored)) ↔
      ∃ literal, DateRow tokens literal ∧ literal.InCalendar ∧ literal.Gives rule := by
  constructor
  · rintro ⟨ignored, said⟩
    rcases Schedule.cases_of_ofTokens said with
      ⟨literal, given, dated, gives, same⟩ | ⟨_, _, same⟩ | ⟨items, _, together⟩
    · cases same
      exact ⟨literal, DateLiteral.ofTokens?_eq_some_iff.mp dated,
        DateLiteral.rule_eq_ok_iff.mp gives⟩
    · cases same
    · rcases Schedule.ofItems_cases together with ⟨_, same⟩ | ⟨_, _, same⟩ <;> cases same
  · rintro ⟨literal, row, gives⟩
    rw [ofTokens_of_dateRow row, DateLiteral.rule_eq_ok_iff.mpr gives]
    exact ⟨[], rfl⟩

/-- Tokens are refused for a date exactly when they are a row of one that is not in the
calendar. -/
theorem invalidDate_iff (nonempty : tokens ≠ []) :
    (∃ fault, ofTokens tokens = .error (.invalidDate fault)) ↔
      ∃ literal, DateRow tokens literal ∧ ¬ literal.InCalendar := by
  constructor
  · rintro ⟨fault, refused⟩
    rcases kind_cases tokens with ⟨literal, row⟩ | ⟨value, rfl, four⟩ | kind
    · rw [ofTokens_of_dateRow row] at refused
      exact ⟨literal, row, DateLiteral.rule_eq_error_iff.mp
        ⟨fault, Schedule.eq_error_of_map_eq_error refused⟩⟩
    · rw [ofTokens_of_year four] at refused
      cases refused
    · exact absurd refused (ofTokens_ne_invalidDate kind nonempty fault)
  · rintro ⟨literal, row, missing⟩
    obtain ⟨fault, refused⟩ := DateLiteral.rule_eq_error_iff.mpr missing
    rw [ofTokens_of_dateRow row, refused]
    exact ⟨fault, rfl⟩

/-- Tokens say a year exactly when they are a number of four digits. -/
theorem year_iff {number : Nat} :
    (∃ ignored, ofTokens tokens = .ok (.year number, ignored)) ↔
      ∃ value : UInt32, tokens = [.number value] ∧ value.toNat = number ∧
        1000 ≤ number ∧ number ≤ 9999 := by
  constructor
  · rintro ⟨ignored, said⟩
    rcases Schedule.cases_of_ofTokens said with ⟨_, _, _, _, same⟩ | ⟨written, numbered, same⟩ |
      ⟨items, _, together⟩
    · cases same
    · cases same
      unfold yearOfTokens? at numbered
      split at numbered
      · split at numbered
        · rename_i value four
          obtain rfl := Option.some.inj numbered
          exact ⟨value, rfl, rfl, UInt32.le_iff_toNat_le.mp four.1,
            UInt32.le_iff_toNat_le.mp four.2⟩
        · cases numbered
      · cases numbered
    · rcases Schedule.ofItems_cases together with ⟨_, same⟩ | ⟨_, _, same⟩ <;> cases same
  · rintro ⟨value, rfl, rfl, four⟩
    exact ⟨[], ofTokens_of_year four⟩

/-- Other tokens say something exactly when they are composed of pieces with one time range at
most, and a day of the week or a time range at least. -/
theorem accepted_iff (kind : IsRow tokens) (nonempty : tokens ≠ []) :
    (∃ result, ofTokens tokens = .ok result) ↔
      ∃ pieces, Composes pieces tokens ∧ (Piece.ranges pieces).length ≤ 1 ∧
        (Piece.days pieces ≠ [] ∨ Piece.ranges pieces ≠ []) := by
  constructor
  · rintro ⟨⟨segment, ignored⟩, said⟩
    obtain ⟨pieces, composed, given, -⟩ := (ofTokens_eq_ok_iff kind nonempty).mp said
    refine ⟨pieces, composed, ?_⟩
    rcases ofItems_eq_ok_iff.mp given with ⟨alone, days, -⟩ | ⟨hours, one, -⟩
    · exact ⟨by simp [alone], Or.inl days⟩
    · exact ⟨by simp [one], Or.inr (by simp [one])⟩
  · rintro ⟨pieces, composed, atMost, atLeast⟩
    have together : ∃ segment, ofItems (Piece.items pieces) = .ok segment := by
      cases ranges : Piece.ranges pieces with
      | nil =>
        have days := atLeast.resolve_right (not_not.mpr ranges)
        exact ⟨_, ofItems_eq_ok_iff.mpr (Or.inl ⟨ranges, days, rfl⟩)⟩
      | cons hours more =>
        obtain rfl : more = [] := by simpa [ranges] using atMost
        exact ⟨_, ofItems_eq_ok_iff.mpr (Or.inr ⟨hours, ranges, rfl⟩)⟩
    obtain ⟨segment, given⟩ := together
    exact ⟨_, (ofTokens_eq_ok_iff kind nonempty).mpr ⟨pieces, composed, given, rfl⟩⟩

/-- A segment that is cut into tokens says what the grammar has for them: a date of the calendar
for one of the seven rows of a date, a year for a number of four digits, and otherwise what the one
row of pieces says that the tokens are composed of. -/
theorem segment_follows_grammar {text : String} (scanned : Token.ofText text = .ok tokens)
    (nonempty : tokens ≠ []) : FollowsGrammar tokens (ofText text) := by
  have read : ofText text = ofTokens tokens := by
    rw [ofText, scanned]
    rfl
  rw [read]
  exact {
    date := fun rule => date_iff
    invalidDate := invalidDate_iff nonempty
    year := fun number => year_iff
    row := fun kind => accepted_iff kind nonempty
    unique := fun pieces others => Composes.unique
    meaning := fun kind pieces composed segment ignored said => by
      obtain ⟨others, row, given, rfl⟩ := (ofTokens_eq_ok_iff kind nonempty).mp said
      obtain rfl := composed.unique row
      refine ⟨rfl, (ofItems_eq_ok_iff.mp given).imp ?_ id⟩
      exact fun both => ⟨both.1, both.2.2⟩ }

/-- A day that is written twice is said twice, and a number with the half of the day behind it
begins the time range. -/
theorem repeated_day_follows_grammar :
    let tokens := [.weekday .monday, .weekday .monday, .number 10, .meridiem .pm, .arrow,
      .hour ⟨5, by decide⟩, .number 31, .word "nightly"]
    Token.ofText "Monday Monday 10 PM -> 5AM 31 nightly" = .ok tokens ∧
      ofText "Monday Monday 10 PM -> 5AM 31 nightly" =
        .ok (.window [.monday, .monday] ⟨22, 5⟩, [.number 31, .word "nightly"]) ∧
      FollowsGrammar tokens (ofText "Monday Monday 10 PM -> 5AM 31 nightly") := by
  intro tokens
  have scanned : Token.ofText "Monday Monday 10 PM -> 5AM 31 nightly" = .ok tokens := by
    decide +kernel
  exact ⟨scanned, by decide +kernel, segment_follows_grammar scanned (List.cons_ne_nil _ _)⟩

end Segment

end OffHours
