import Mathlib.Algebra.Group.Int.Defs
import Mathlib.Algebra.Group.Nat.Defs
import Mathlib.Data.List.Induction
import OffHours.Proofs.Schedule.DateWords

/-!
# Dates as they are written

A date is written in one segment, or in two with the year in the second: `Written` finds both in a
tag, with the numbers that stand there. Every exact date among the rules of a tag should have the
numbers that are written, and a written date that does not exist should be reported. Both hold but
for one thing: a number of 32 bits from 2^31 on is taken for a negative year. `WrapsToDate` says
when that year has the date, and `dates_as_written_iff` that nothing else goes wrong.
-/

namespace OffHours

/-! ## Years of 32 bits -/

/-- The signed year that a number of 32 bits stands for. -/
def wordYear (year : Nat) : Int := if year < 2 ^ 31 then year else year - 2 ^ 32

/-- The number is too large for a signed year, and the year that it stands for has the date. -/
def WrapsToDate (year month day : Nat) : Prop :=
  2 ^ 31 ≤ year ∧ isDate (year - 2 ^ 32) month day = true

/-- A word taken for a signed year stands for one. -/
theorem toInt_toInt32 (value : UInt32) : value.toInt32.toInt = wordYear value.toNat := by
  have size : Int32.size = 2 ^ 32 := rfl
  have below := value.toNat_lt
  rw [← @UInt32.ofNat_toNat value, UInt32.toInt32_ofNat', Int32.toInt_ofNat', Int.bmod_def, size,
    UInt32.ofNat_toNat]
  unfold wordYear
  omega

/-- The calendar ends before the numbers that are too large for a signed year. -/
theorem not_isDate_of_high {year : Nat} (high : 2 ^ 31 ≤ year) (month day : Nat) :
    isDate year month day = false := by
  rw [Bool.eq_false_iff]
  intro valid
  simp only [isDate, Bool.and_eq_true, decide_eq_true_eq] at valid
  have last : lastYear = 262142 := rfl
  omega

/-- The year of a word has a date when the number itself does, or when it wraps to one. -/
theorem isDate_wordYear_iff {year month day : Nat} :
    isDate (wordYear year) month day = true ↔
      isDate year month day = true ∨ WrapsToDate year month day := by
  by_cases low : year < 2 ^ 31
  · have kept : wordYear year = year := if_pos low
    have whole : ¬ WrapsToDate year month day := fun wraps => Nat.not_le.mpr low wraps.1
    rw [kept, or_iff_left whole]
  · have high : 2 ^ 31 ≤ year := Nat.le_of_not_lt low
    have wrapped : wordYear year = year - 2 ^ 32 := if_neg low
    rw [wrapped, not_isDate_of_high high]
    constructor
    · exact fun valid => Or.inr ⟨high, valid⟩
    · rintro (never | wraps)
      · cases never
      · exact wraps.2

/-- A year of the calendar is the year that its number stands for. -/
theorem wordYear_of_isDate {year month day : Nat} (valid : isDate year month day = true) :
    wordYear year = year := by
  simp only [isDate, Bool.and_eq_true, decide_eq_true_eq] at valid
  have last : lastYear = 262142 := rfl
  exact if_pos (by omega)

namespace DateLiteral

variable {literal : DateLiteral}

/-- A written date is an exact rule when its year, taken for a signed one, has it. -/
theorem rule_eq_exact_iff {date : Date} :
    literal.rule = .ok (.exact date) ↔ ∃ year, literal.year = some year ∧
      date.year = wordYear year.toNat ∧ date.month = literal.month ∧ date.day = literal.day := by
  unfold rule
  cases literal.year with
  | none =>
    dsimp only
    split <;> simp
  | some year =>
    simp only [toInt_toInt32, Option.some.injEq, exists_eq_left', ← Date.ofNumbers?_eq_some_iff]
    cases Date.ofNumbers? (wordYear year.toNat) literal.month literal.day <;> simp

/-- A written date is a yearly rule when it has no year and some year has it. -/
theorem rule_eq_annual_iff {month day : Nat} :
    literal.rule = .ok (.annual month day) ↔ literal.year = none ∧
      isDate sampleYear literal.month literal.day = true ∧
      literal.month = month ∧ literal.day = day := by
  unfold rule
  cases literal.year with
  | none =>
    by_cases sample : isDate sampleYear literal.month literal.day = true
    · simp [sample]
    · simp [sample]
  | some year =>
    dsimp only
    split <;> simp

/-- A written date without a rule is a date that does not exist. -/
theorem rule_cases (literal : DateLiteral) :
    (∃ rule, literal.rule = .ok rule) ∨ ∃ fault, literal.rule = .error (.invalidDate fault) := by
  unfold rule
  split
  · split
    · exact Or.inl ⟨_, rfl⟩
    · exact Or.inr ⟨_, rfl⟩
  · split
    · exact Or.inl ⟨_, rfl⟩
    · exact Or.inr ⟨_, rfl⟩

end DateLiteral

namespace Schedule

/-! ## Rules of one segment -/

/-- What the segment at a position finishes, reports and leaves behind. -/
def stepAt? (tag : String) (index : Nat) : Option Pending.Step :=
  (findings tag)[index]?.map (Pending.none.after ((findings tag).take index)).step

/-- The step of a segment is met in its place. -/
theorem stepAt?_of_place {tag : String} {index : Nat} {found : Finding}
    (place : (findings tag)[index]? = some found) : stepAt? tag index =
      some ((Pending.none.after ((findings tag).take index)).step found) := by
  rw [stepAt?, place]
  rfl

/-- The segment at a position yields an exact date. -/
def YieldsDate (tag : String) (index : Nat) (date : Date) : Prop :=
  ∃ step ∈ stepAt? tag index, Rule.date (.exact date) ∈ step.rules

/-- A segment is left out for the fault that it meets in its place. -/
theorem mem_faults_iff {tag : String} {index : Nat} {fault : SegmentFault} :
    (index, fault) ∈ (read tag).faults ↔ ∃ step ∈ stepAt? tag index, step.fault = some fault := by
  constructor
  · intro reported
    obtain ⟨error, listed, same⟩ := List.mem_map.mp reported
    obtain ⟨rfl, rfl⟩ := Prod.mk.inj same
    obtain ⟨found, place, met⟩ := fault_of_mem_errors listed
    exact ⟨_, stepAt?_of_place place, met⟩
  · rintro ⟨step, met, faulty⟩
    obtain ⟨found, place, rfl⟩ := Option.map_eq_some_iff.mp met
    obtain ⟨text, listed, rfl⟩ : ∃ text, (segments tag)[index]? = some text ∧
        finding text = found := by
      simpa [findings] using place
    obtain ⟨inside, rfl⟩ := List.getElem?_eq_some_iff.mp listed
    have cut : segments tag = (segments tag).take index ++
        (segments tag)[index] :: (segments tag).drop (index + 1) := by
      rw [List.getElem_cons_drop, List.take_append_drop]
    refine List.mem_map.mpr ⟨⟨index, (segments tag)[index], fault⟩, ?_, rfl⟩
    refine mem_readFrom_errors.mpr ⟨_, _, _, cut, ?_, ?_, rfl⟩
    · rwa [findings, ← List.map_take] at faulty
    · simp [Nat.le_of_lt inside]

/-- The rules that segments finish are those of their steps. -/
theorem mem_finished_iff {pending : Pending} {said : List Finding} {rule : Rule} :
    rule ∈ pending.finished said ↔
      ∃ index found, said[index]? = some found ∧
        rule ∈ ((pending.after (said.take index)).step found).rules := by
  induction said generalizing pending with
  | nil => simp
  | cons first rest hypothesis =>
    rw [Pending.finished_cons, List.mem_append, hypothesis]
    constructor
    · rintro (own | ⟨index, found, place, later⟩)
      · exact ⟨0, first, rfl, own⟩
      · exact ⟨index + 1, found, place, later⟩
    · rintro ⟨index, found, place, later⟩
      cases index with
      | zero =>
        obtain rfl := Option.some.inj place
        exact Or.inl later
      | succ index => exact Or.inr ⟨index, found, place, later⟩

/-- What is held back holds no exact date. -/
theorem exact_not_mem_flush (pending : Pending) (date : Date) :
    Rule.date (.exact date) ∉ pending.flush := by
  cases pending <;> simp [Pending.flush]

/-- The exact dates among the rules of a tag are those that its segments yield. -/
theorem exact_mem_rules_iff {tag : String} {date : Date} :
    Rule.date (.exact date) ∈ (read tag).rules ↔ ∃ index, YieldsDate tag index date := by
  rw [read_rules, Pending.rules, List.mem_append, mem_finished_iff]
  constructor
  · rintro (⟨index, found, place, yields⟩ | held)
    · exact ⟨index, _, stepAt?_of_place place, yields⟩
    · exact absurd held (exact_not_mem_flush _ date)
  · rintro ⟨index, step, met, yields⟩
    obtain ⟨found, place, rfl⟩ := Option.map_eq_some_iff.mp met
    exact Or.inl ⟨index, found, place, yields⟩

/-- A step yields an exact date when the segment is one, or a year that completes the yearly date
held back. -/
theorem exact_mem_step_iff {pending : Pending} {found : Finding} {date : Date} :
    Rule.date (.exact date) ∈ (pending.step found).rules ↔
      found = .ok (.date (.exact date)) ∨ ∃ year, found = .ok (.year year) ∧
        pending = .annual date.month date.day ∧ date.year = year := by
  have held := exact_not_mem_flush pending date
  cases found with
  | error fault => simp [Pending.step, held]
  | ok segment =>
    cases segment with
    | weekdays more => cases pending <;> simp_all [Pending.step, Pending.take]
    | window own hours =>
      simp only [Pending.step, Pending.take]
      split
      · split <;> simp [held]
      · simp [held]
    | date rule => cases rule <;> simp [Pending.step, Pending.take, held, eq_comm]
    | year number =>
      cases pending with
      | days held => simp [Pending.step, Pending.take]
      | annual month day =>
        have listed : Rule.date (.exact date) ∈
            ((Pending.annual month day).step (.ok (.year number))).rules ↔
              Date.ofNumbers? number month day = some date := by
          simp only [Pending.step, Pending.take]
          cases Date.ofNumbers? number month day <;> simp [Pending.flush, eq_comm]
        rw [listed, Date.ofNumbers?_eq_some_iff]
        constructor
        · rintro ⟨inYear, rfl, rfl⟩
          exact Or.inr ⟨number, rfl, rfl, inYear⟩
        · rintro (other | ⟨year, same, numbers, inYear⟩)
          · cases other
          · cases same
            obtain ⟨rfl, rfl⟩ := Pending.annual.inj numbers
            exact ⟨inYear, rfl, rfl⟩

/-- A yearly date is held back directly behind its segment. -/
theorem after_eq_annual_iff {said : List Finding} {month day : Nat} :
    Pending.none.after said = .annual month day ↔
      said.getLast? = some (.ok (.date (.annual month day))) := by
  induction said using List.reverseRecOn with
  | nil => simp [Pending.none]
  | append_singleton front found _ =>
    rw [Pending.after_append, Pending.after_cons, Pending.after_nil, List.getLast?_concat]
    generalize Pending.none.after front = pending
    cases found with
    | error fault => simp [Pending.step, Pending.none]
    | ok segment =>
      cases segment with
      | weekdays more => cases pending <;> simp [Pending.step, Pending.take]
      | window own hours =>
        simp only [Pending.step, Pending.take]
        split
        · split <;> simp [Pending.none]
        · simp [Pending.none]
      | date rule => cases rule <;> simp [Pending.step, Pending.take, Pending.none]
      | year number =>
        cases pending with
        | days held => simp [Pending.step, Pending.take]
        | annual month day =>
          simp only [Pending.step, Pending.take]
          split <;> simp [Pending.none]

/-- The yearly date held back in front of a segment is that of the segment before it. -/
theorem held_eq_annual_iff {tag : String} {first month day : Nat} {found : Finding}
    (place : (findings tag)[first + 1]? = some found) :
    Pending.none.after ((findings tag).take (first + 1)) = .annual month day ↔
      (findings tag)[first]? = some (.ok (.date (.annual month day))) := by
  obtain ⟨inside, -⟩ := List.getElem?_eq_some_iff.mp place
  have last : ((findings tag).take (first + 1)).getLast? = (findings tag)[first]? := by
    rw [List.getLast?_take, if_neg (Nat.succ_ne_zero first), Nat.add_sub_cancel,
      List.getElem?_eq_getElem (Nat.lt_of_succ_lt inside)]
    rfl
  rw [after_eq_annual_iff, last]

/-- An exact date is yielded by a segment that says it, and by a year that completes the yearly
date in the segment before it. -/
theorem yieldsDate_iff {tag : String} {index : Nat} {date : Date} :
    YieldsDate tag index date ↔
      (findings tag)[index]? = some (.ok (.date (.exact date))) ∨
        ∃ first year : Nat, index = first + 1 ∧ date.year = year ∧
          (findings tag)[first]? = some (.ok (.date (.annual date.month date.day))) ∧
          (findings tag)[index]? = some (.ok (.year year)) := by
  constructor
  · rintro ⟨step, met, yields⟩
    obtain ⟨found, place, rfl⟩ := Option.map_eq_some_iff.mp met
    rcases exact_mem_step_iff.mp yields with rfl | ⟨year, rfl, held, inYear⟩
    · exact Or.inl place
    · cases index with
      | zero => cases held
      | succ first =>
        exact Or.inr ⟨first, year, rfl, inYear, (held_eq_annual_iff place).mp held, place⟩
  · rintro (place | ⟨first, year, rfl, inYear, before, place⟩)
    · exact ⟨_, stepAt?_of_place place, exact_mem_step_iff.mpr (Or.inl rfl)⟩
    · have held := (held_eq_annual_iff place).mpr before
      exact ⟨_, stepAt?_of_place place, exact_mem_step_iff.mpr (Or.inr ⟨year, rfl, held, inYear⟩)⟩

/-! ## Written dates -/

/-- The segments from one position to another write the numbers of a date: one segment with the
year, or one without and the year behind it. -/
inductive Written (tag : String) : Nat → Nat → Nat → Nat → Nat → Prop where
  /-- One segment writes the date. -/
  | whole {index year month day : Nat} {text : List Char} (place : (parts tag)[index]? = some text)
      (words : DateWords (some year) month day (Token.chunks text))
      (fits : FitsWords (some year) month day) : Written tag index index year month day
  /-- One segment writes the month and the day, and the next a year of four digits. -/
  | apart {index year month day : Nat} {text next word : List Char}
      (place : (parts tag)[index]? = some text) (behind : (parts tag)[index + 1]? = some next)
      (words : DateWords none month day (Token.chunks text)) (fits : FitsWords none month day)
      (alone : Token.chunks next = [word]) (inYear : IsOrdinal word year)
      (four : 1000 ≤ year ∧ year ≤ 9999) : Written tag index (index + 1) year month day

/-- The exact dates of a tag are the written dates that exist, and the others are reported. -/
structure DatesAsWritten (tag : String) : Prop where
  /-- A segment that yields a date ends the numbers of the date. -/
  denoted : ∀ index date, YieldsDate tag index date → ∃ first year month day,
    Written tag first index year month day ∧
      date.year = (year : Nat) ∧ date.month = month ∧ date.day = day
  /-- A written date that exists is yielded. -/
  kept : ∀ first last (date : Date) (year : Nat), date.year = year →
    Written tag first last year date.month date.day → YieldsDate tag last date
  /-- A written date that does not exist is reported, and none is yielded in its place. -/
  missing : ∀ first last year month day, Written tag first last year month day →
    isDate year month day = false →
    (∃ index fault, first ≤ index ∧ index ≤ last ∧
      (index, SegmentFault.invalidDate fault) ∈ (read tag).faults) ∧
    ∀ index date, first ≤ index → index ≤ last → ¬ YieldsDate tag index date

section Tag

variable {tag : String} {first last index year month day : Nat} {text : List Char}

/-- A segment says what its text says. -/
theorem findings_of_place (place : (parts tag)[index]? = some text) :
    (findings tag)[index]? = some (partFinding text) := by
  rw [findings_eq_parts, List.getElem?_map, place]
  rfl

/-- A segment that says something has its text. -/
theorem exists_part_of_findings {found : Finding} (place : (findings tag)[index]? = some found) :
    ∃ text, (parts tag)[index]? = some text ∧ partFinding text = found := by
  rwa [findings_eq_parts, List.getElem?_map, Option.map_eq_some_iff] at place

/-- A segment that says nothing is reported with its fault and yields no date. -/
theorem faulty_of_findings {fault : SegmentFault}
    (place : (findings tag)[index]? = some (.error fault)) :
    (index, fault) ∈ (read tag).faults ∧ ∀ date, ¬ YieldsDate tag index date := by
  refine ⟨mem_faults_iff.mpr ⟨_, stepAt?_of_place place, rfl⟩, fun date yields => ?_⟩
  rcases yieldsDate_iff.mp yields with other | ⟨_, _, _, _, _, other⟩ <;>
    simp [place] at other

/-- A segment with the words of a date says the rule of its numbers. -/
theorem findings_of_dateWords {year : Option Nat} (place : (parts tag)[index]? = some text)
    (words : DateWords year month day (Token.chunks text)) (fits : FitsWords year month day) :
    (findings tag)[index]? =
      some ((⟨month, day, year.map UInt32.ofNat⟩ : DateLiteral).rule.map Segment.date) := by
  rw [findings_of_place place, (partFinding_of_dateWords words).1 fits]

/-- A segment of one word with a year of four digits says the year. -/
theorem findings_of_year {word : List Char} (place : (parts tag)[index]? = some text)
    (alone : Token.chunks text = [word]) (inYear : IsOrdinal word year)
    (four : 1000 ≤ year ∧ year ≤ 9999) : (findings tag)[index]? = some (.ok (.year year)) := by
  rw [findings_of_place place, partFinding_eq_year_iff.mpr ⟨⟨word, alone, inYear⟩, four⟩]

/-- The number of a year of 32 bits is that of its word. -/
theorem toNat_word (fits : FitsWords (some year) month day) :
    (UInt32.ofNat year).toNat = year :=
  UInt32.toNat_ofNat_of_lt' (fits.1 year rfl)

/-- A segment with the words of a date yields it when its year, taken for a signed one, has it. -/
theorem yields_of_dateWords {date : Date} (place : (parts tag)[index]? = some text)
    (words : DateWords (some year) date.month date.day (Token.chunks text))
    (fits : FitsWords (some year) date.month date.day) (inYear : date.year = wordYear year) :
    YieldsDate tag index date := by
  have gives : (⟨date.month, date.day, some (UInt32.ofNat year)⟩ : DateLiteral).rule =
      .ok (.exact date) :=
    DateLiteral.rule_eq_exact_iff.mpr ⟨_, rfl, by rw [toNat_word fits, inYear], rfl, rfl⟩
  have found := findings_of_dateWords place words fits
  rw [Option.map_some, gives] at found
  exact yieldsDate_iff.mpr (Or.inl found)

/-- A yielded date is written, and its year is the one that the written number stands for. -/
theorem written_of_yields {date : Date} (yields : YieldsDate tag index date) :
    ∃ first year, Written tag first index year date.month date.day ∧
      date.year = wordYear year := by
  obtain ⟨months, days⟩ := date.small
  rcases yieldsDate_iff.mp yields with place | ⟨first, year, rfl, inYear, before, place⟩
  · obtain ⟨text, listed, said⟩ := exists_part_of_findings place
    obtain ⟨literal, gives, words⟩ := dateWords_of_partFinding said
    obtain ⟨year, dated, inYear, inMonth, onDay⟩ := DateLiteral.rule_eq_exact_iff.mp gives
    rw [dated, ← inMonth, ← onDay] at words
    have fits : FitsWords (some year.toNat) date.month date.day :=
      ⟨by simpa using year.toNat_lt, months, days⟩
    exact ⟨index, year.toNat, .whole listed words fits, inYear⟩
  · obtain ⟨text, listed, said⟩ := exists_part_of_findings before
    obtain ⟨next, behind, named⟩ := exists_part_of_findings place
    obtain ⟨literal, gives, words⟩ := dateWords_of_partFinding said
    obtain ⟨dateless, -, inMonth, onDay⟩ := DateLiteral.rule_eq_annual_iff.mp gives
    rw [dateless, inMonth, onDay] at words
    obtain ⟨⟨word, alone, written⟩, four⟩ := partFinding_eq_year_iff.mp named
    refine ⟨first, year, .apart listed behind words ⟨by simp, months, days⟩ alone written four, ?_⟩
    rw [inYear, wordYear, if_pos (Nat.lt_of_le_of_lt four.2 (by decide))]

/-- A written date that exists is yielded. -/
theorem yields_of_written {date : Date} (inYear : date.year = (year : Nat))
    (written : Written tag first last year date.month date.day) : YieldsDate tag last date := by
  have valid := date.valid
  rw [inYear] at valid
  cases written with
  | whole place words fits =>
    exact yields_of_dateWords place words fits (inYear.trans (wordYear_of_isDate valid).symm)
  | apart place behind words fits alone written four =>
    have gives : (⟨date.month, date.day, none⟩ : DateLiteral).rule =
        .ok (.annual date.month date.day) :=
      DateLiteral.rule_eq_annual_iff.mpr ⟨rfl, isDate_sample valid, rfl, rfl⟩
    have said := findings_of_dateWords place words fits
    rw [Option.map_none, gives] at said
    have named := findings_of_year behind alone written four
    exact yieldsDate_iff.mpr (Or.inr ⟨_, year, rfl, inYear, said, named⟩)

/-- A written date whose year wraps to one that has it yields the date of that year. -/
theorem yields_of_wraps (written : Written tag first last year month day)
    (wrap : WrapsToDate year month day) : ∃ date, YieldsDate tag last date ∧
      date.year = (year : Int) - 2 ^ 32 ∧ date.month = month ∧ date.day = day := by
  obtain ⟨high, valid⟩ := wrap
  cases written with
  | whole place words fits =>
    let date : Date := ⟨year - 2 ^ 32, month, day, valid⟩
    have inYear : date.year = wordYear year := (if_neg (Nat.not_lt.mpr high)).symm
    exact ⟨date, yields_of_dateWords place words fits inYear, rfl, rfl, rfl⟩
  | apart _ _ _ _ _ _ four => omega

/-- A date of one segment that does not exist is reported, unless its year wraps to one that has
it. -/
theorem missing_of_whole (fits : FitsWords (some year) month day)
    (said : (findings tag)[index]? =
      some ((⟨month, day, some (UInt32.ofNat year)⟩ : DateLiteral).rule.map Segment.date))
    (missing : isDate year month day = false) (straight : ¬ WrapsToDate year month day) :
    ∃ fault, (findings tag)[index]? = some (.error (.invalidDate fault)) := by
  rcases DateLiteral.rule_cases ⟨month, day, some (UInt32.ofNat year)⟩ with
    ⟨rule, gives⟩ | ⟨fault, gives⟩
  · cases rule with
    | annual inMonth onDay => cases (DateLiteral.rule_eq_annual_iff.mp gives).1
    | exact date =>
      obtain ⟨word, same, inYear, rfl, rfl⟩ := DateLiteral.rule_eq_exact_iff.mp gives
      obtain rfl := Option.some.inj same
      rw [toNat_word fits] at inYear
      have valid := date.valid
      rw [inYear, isDate_wordYear_iff, missing] at valid
      exact absurd (valid.resolve_left Bool.noConfusion) straight
  · rw [gives] at said
    exact ⟨fault, said⟩

section Apart

variable (said : (findings tag)[index]? =
    some ((⟨month, day, none⟩ : DateLiteral).rule.map Segment.date))
  (named : (findings tag)[index + 1]? = some (.ok (.year year)))
  (missing : isDate year month day = false)
include said named missing

/-- A yearly date with a year behind it that does not have it is reported in one of the two
segments. -/
theorem missing_of_apart :
    (∃ fault, (index, SegmentFault.invalidDate fault) ∈ (read tag).faults) ∨
      ∃ fault, (index + 1, SegmentFault.invalidDate fault) ∈ (read tag).faults := by
  rcases DateLiteral.rule_cases ⟨month, day, none⟩ with ⟨rule, gives⟩ | ⟨fault, gives⟩
  · cases rule with
    | annual inMonth onDay =>
      obtain ⟨-, -, rfl, rfl⟩ := DateLiteral.rule_eq_annual_iff.mp gives
      rw [gives] at said
      have held := (held_eq_annual_iff named).mpr said
      have none : Date.ofNumbers? year month day = Option.none :=
        Date.ofNumbers?_eq_none_iff.mpr missing
      refine Or.inr ⟨.notInYear year, mem_faults_iff.mpr ⟨_, stepAt?_of_place named, ?_⟩⟩
      simp [held, Pending.step, Pending.take, none]
    | exact date =>
      obtain ⟨_, other, -⟩ := DateLiteral.rule_eq_exact_iff.mp gives
      cases other
  · rw [gives] at said
    exact Or.inl ⟨fault, (faulty_of_findings said).1⟩

/-- A yearly date with a year behind it that does not have it yields no date. -/
theorem unyielded_of_apart (date : Date) :
    ¬ YieldsDate tag index date ∧ ¬ YieldsDate tag (index + 1) date := by
  have rule_of_said : ∀ {found : Segment}, (findings tag)[index]? = some (.ok found) →
      ∃ rule, (⟨month, day, none⟩ : DateLiteral).rule = .ok rule ∧ .date rule = found :=
    fun place => exists_of_map_eq_ok (Option.some.inj (said.symm.trans place))
  constructor
  · intro yields
    rcases yieldsDate_iff.mp yields with place | ⟨_, _, _, _, _, place⟩
    · obtain ⟨rule, gives, same⟩ := rule_of_said place
      cases same
      obtain ⟨_, other, -⟩ := DateLiteral.rule_eq_exact_iff.mp gives
      cases other
    · obtain ⟨rule, -, same⟩ := rule_of_said place
      cases same
  · intro yields
    rcases yieldsDate_iff.mp yields with place | ⟨first, number, shape, dated, before, place⟩
    · cases named.symm.trans place
    · obtain rfl := Nat.succ.inj shape
      obtain ⟨rule, gives, same⟩ := rule_of_said before
      cases same
      cases named.symm.trans place
      obtain ⟨-, -, rfl, rfl⟩ := DateLiteral.rule_eq_annual_iff.mp gives
      have valid := date.valid
      rw [dated, missing] at valid
      cases valid

end Apart

/-- A written date that does not exist is reported and yields none, unless its year wraps to one
that has it. -/
theorem missing_of_written (written : Written tag first last year month day)
    (missing : isDate year month day = false) (straight : ¬ WrapsToDate year month day) :
    (∃ index fault, first ≤ index ∧ index ≤ last ∧
      (index, SegmentFault.invalidDate fault) ∈ (read tag).faults) ∧
    ∀ index date, first ≤ index → index ≤ last → ¬ YieldsDate tag index date := by
  cases written with
  | whole place words fits =>
    have said := findings_of_dateWords place words fits
    obtain ⟨fault, found⟩ := missing_of_whole fits said missing straight
    obtain ⟨reported, none⟩ := faulty_of_findings found
    refine ⟨⟨first, fault, Nat.le_refl _, Nat.le_refl _, reported⟩, fun index date low high => ?_⟩
    obtain rfl := Nat.le_antisymm low high
    exact none date
  | apart place behind words fits alone inYear four =>
    have said := findings_of_dateWords place words fits
    have named := findings_of_year behind alone inYear four
    constructor
    · rcases missing_of_apart said named missing with ⟨fault, reported⟩ | ⟨fault, reported⟩
      · exact ⟨first, fault, Nat.le_refl _, Nat.le_succ _, reported⟩
      · exact ⟨first + 1, fault, Nat.le_succ _, Nat.le_refl _, reported⟩
    · intro index date low high
      have none := unyielded_of_apart said named missing date
      rcases Nat.lt_or_eq_of_le high with before | rfl
      · obtain rfl := Nat.le_antisymm low (Nat.le_of_lt_succ before)
        exact none.1
      · exact none.2

end Tag

/-- The exact dates of a tag are as written exactly when no written year wraps to a year that has
the date. The rules have no other exact dates than those that segments yield; a year that wraps
yields a date of the year it wraps to; and a date with a number that is too large for 32 bits is
reported as unreadable and yields none. -/
theorem dates_as_written_iff (tag : String) :
    (∀ date, Rule.date (.exact date) ∈ (read tag).rules ↔ ∃ index, YieldsDate tag index date) ∧
    (DatesAsWritten tag ↔ ∀ first last year month day, Written tag first last year month day →
      ¬ WrapsToDate year month day) ∧
    (∀ first last year month day, Written tag first last year month day →
      WrapsToDate year month day → ∃ date, YieldsDate tag last date ∧
        date.year = (year : Int) - 2 ^ 32 ∧ date.month = month ∧ date.day = day) ∧
    (∀ index text year month day, (parts tag)[index]? = some text →
      DateWords year month day (Token.chunks text) → ¬ FitsWords year month day →
      (index, .unrecognized) ∈ (read tag).faults ∧ ∀ date, ¬ YieldsDate tag index date) := by
  refine ⟨fun date => exact_mem_rules_iff, ⟨fun all first last year month day written wrap => ?_,
    fun straight => ⟨?_, ?_, ?_⟩⟩, fun _ _ _ _ _ => yields_of_wraps, ?_⟩
  · obtain ⟨date, yields, -⟩ := yields_of_wraps written wrap
    have ordered : first ≤ last := by cases written <;> omega
    have far := not_isDate_of_high wrap.1 month day
    exact (all.missing _ _ _ _ _ written far).2 last date ordered (Nat.le_refl last) yields
  · intro index date yields
    obtain ⟨first, year, written, inYear⟩ := written_of_yields yields
    have valid := date.valid
    rw [inYear, isDate_wordYear_iff] at valid
    have shown := valid.resolve_right (straight _ _ _ _ _ written)
    exact ⟨first, year, _, _, written, inYear.trans (wordYear_of_isDate shown), rfl, rfl⟩
  · intro first last date year inYear written
    exact yields_of_written inYear written
  · intro first last year month day written missing
    exact missing_of_written written missing (straight _ _ _ _ _ written)
  · intro index text year month day place words wide
    have found := findings_of_place place
    rw [(partFinding_of_dateWords words).2 wide] at found
    exact faulty_of_findings found

/-- The largest number of 32 bits is taken for the year before year 0: a year that no calendar has
yields a date, and nothing is reported. -/
theorem dates_wrapped_largest_year :
    (read "4294967295-1-1").rules = [.date (.exact ⟨-1, 1, 1, by decide⟩)] ∧
      (read "4294967295-1-1").faults = [] ∧ ¬ DatesAsWritten "4294967295-1-1" := by
  have silent : (read "4294967295-1-1").faults = [] := by decide +kernel
  refine ⟨by decide +kernel, silent, fun all => ?_⟩
  have place : (parts "4294967295-1-1")[0]? = some "4294967295-1-1".toList := by decide +kernel
  have numeral : IsNumeral "4294967295".toList 4294967295 :=
    ⟨by decide, List.all_eq_true.mp (by decide), rfl⟩
  have one : IsNumeral "1".toList 1 := ⟨by decide, List.all_eq_true.mp (by decide), rfl⟩
  have cut : Token.chunks "4294967295-1-1".toList =
      ["4294967295".toList, ['-'], "1".toList, ['-'], "1".toList] := by decide +kernel
  have words : DateWords (some 4294967295) 1 1 (Token.chunks "4294967295-1-1".toList) :=
    cut ▸ .dashes (.plain numeral) (.plain one) (.plain one) (by decide)
  have fits : FitsWords (some 4294967295) 1 1 := ⟨by simp, by decide, by decide⟩
  obtain ⟨⟨index, fault, -, -, reported⟩, -⟩ :=
    all.missing 0 0 4294967295 1 1 (.whole place words fits) (by decide)
  rw [silent] at reported
  cases reported

end Schedule

end OffHours
