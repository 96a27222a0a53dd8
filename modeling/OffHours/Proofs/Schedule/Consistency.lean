import OffHours.Proofs.Schedule.Reading
import OffHours.Schedule.Verdict

/-!
# Rules that are read can be decided

A rule is refused when its fields contradict each other or the calendar. No tag gives such a rule:
every hour of a range is one of the clock, every window lies on some day, and every yearly date is
a day of the leap years. `Segment.Sound` says this of one segment and `Pending.Sound` of what is
held back between two; each segment keeps it, so all rules of a tag are consistent. A search for
the first rule that covers an instant then passes no rule over as defective: `read_decides`.
-/

namespace OffHours

/-- Both ends of a window are hours of the clock. -/
def HourWindow.OnClock (hours : HourWindow) : Prop := hours.first ≤ 23 ∧ hours.last ≤ 23

/-- Some leap year has the day. -/
def IsLeapDay (month day : Nat) : Prop :=
  ∃ year, isLeapYear year = true ∧ isDate year month day = true

/-- The fields of a rule agree with each other and with the calendar. -/
def Rule.Consistent : Rule → Prop
  | window days hours => days.isEmpty = false ∧ hours.OnClock
  | weekday _ => True
  | date (.annual month day) => IsLeapDay month day
  | date (.exact _) => True

/-- The month and the day of a date are in the ranges that are asked of a yearly date. -/
theorem bounds_of_isDate {year : Int} {month day : Nat} (valid : isDate year month day = true) :
    (1 ≤ month ∧ month ≤ 12) ∧ 1 ≤ day ∧ day ≤ 31 := by
  have months := (⟨year, month, day, valid⟩ : Date).month_bounds
  have most := daysInMonth_le year month
  simp only [isDate, Bool.and_eq_true, decide_eq_true_eq] at valid
  exact ⟨months, valid.1.2, by omega⟩

/-- A window on the clock answers for every hour. -/
theorem HourWindow.OnClock.contains {hours : HourWindow} (onClock : hours.OnClock) (hour : Nat) :
    ∃ inside, hours.contains hour = .ok inside := by
  have within : ¬ (23 < hours.first ∨ 23 < hours.last) := by
    unfold OnClock at onClock
    omega
  rw [HourWindow.contains, if_neg within]
  split
  · exact ⟨_, rfl⟩
  · exact ⟨_, rfl⟩

/-- A consistent rule is decided at every instant. -/
theorem Rule.Consistent.check {rule : Rule} (consistent : rule.Consistent) (now : Instant) :
    ∃ covered, rule.check now = .ok covered := by
  cases rule with
  | weekday day => exact ⟨_, rfl⟩
  | window days hours =>
    obtain ⟨some, onClock⟩ := consistent
    obtain ⟨inside, answered⟩ := onClock.contains now.hour
    refine ⟨inside && days.contains now.weekday, ?_⟩
    simp [Rule.check, some, answered, bind, Except.bind, pure, Except.pure]
  | date rule =>
    cases rule with
    | exact date => exact ⟨_, rfl⟩
    | annual month day =>
      obtain ⟨year, -, valid⟩ := consistent
      have bounds := bounds_of_isDate valid
      have within : ¬ (month < 1 ∨ 12 < month ∨ day < 1 ∨ 31 < day) := by omega
      exact ⟨_, if_neg within⟩

/-! ## What a segment says -/

/-- What a segment says is fit for a rule: its range is on the clock, its date is consistent. -/
def Segment.Sound : Segment → Prop
  | weekdays _ => True
  | window _ hours => hours.OnClock
  | date rule => (Rule.date rule).Consistent
  | year _ => True

/-- A time range that is read from tokens is on the clock. -/
theorem HourWindow.onClock_ofTokens {tokens rest : List Token} {hours : HourWindow}
    (read : HourWindow.ofTokens tokens = .ok (hours, rest)) : hours.OnClock := by
  unfold HourWindow.ofTokens at read
  split at read
  · contradiction
  · contradiction
  · rename_i first later _ opened
    split at read
    · contradiction
    · rename_i last remaining closed
      cases read
      exact ⟨Nat.le_of_lt_succ first.hour_lt, Nat.le_of_lt_succ last.hour_lt⟩
  · contradiction

/-- The time ranges among the items of a segment are on the clock. -/
theorem SegmentItems.onClock_ofTokens {tokens : List Token} {items : SegmentItems}
    (read : SegmentItems.ofTokens tokens = .ok items) :
    ∀ hours ∈ items.windows, hours.OnClock := by
  fun_induction SegmentItems.ofTokens tokens generalizing items with
  | case1 =>
    cases read
    exact fun hours none => absurd none List.not_mem_nil
  | case2 => contradiction
  | case3 token rest starts hours later opened hypothesis =>
    obtain ⟨others, further, rfl⟩ := Schedule.exists_of_map_eq_ok read
    intro window listed
    rcases List.mem_cons.mp listed with rfl | among
    · exact HourWindow.onClock_ofTokens opened
    · exact hypothesis further window among
  | case4 rest day starts hypothesis =>
    obtain ⟨others, further, rfl⟩ := Schedule.exists_of_map_eq_ok read
    have kept := hypothesis further
    exact kept
  | case5 => contradiction
  | case6 rest token notDay notArrow starts hypothesis =>
    obtain ⟨others, further, rfl⟩ := Schedule.exists_of_map_eq_ok read
    have kept := hypothesis further
    exact kept

/-- What the items of a segment say together is sound when their time ranges are on the clock. -/
theorem Segment.sound_ofItems {items : SegmentItems} {said : Segment}
    (onClock : ∀ hours ∈ items.windows, hours.OnClock)
    (together : Segment.ofItems items = .ok said) : said.Sound := by
  unfold Segment.ofItems at together
  split at together
  · split at together
    · contradiction
    · cases together
      trivial
  · rename_i hours only
    cases together
    exact onClock hours (by simp [only])
  · contradiction

/-- The rule of a written date is consistent. -/
theorem DateLiteral.consistent_rule {literal : DateLiteral} {rule : DateRule}
    (gives : literal.rule = .ok rule) : (Rule.date rule).Consistent := by
  unfold DateLiteral.rule at gives
  split at gives
  · split at gives
    · cases gives
      trivial
    · contradiction
  · split at gives
    · rename_i sample
      cases gives
      exact ⟨sampleYear, by decide, sample⟩
    · contradiction

namespace Schedule

/-- What a segment of a tag says is sound. -/
theorem sound_of_finding {text : String} {said : Segment} (found : finding text = .ok said) :
    said.Sound := by
  obtain ⟨tokens, ignored, -, read⟩ := exists_tokens_of_finding found
  rcases cases_of_ofTokens read with ⟨literal, rule, -, gives, rfl⟩ | ⟨written, -, rfl⟩ |
    ⟨items, listed, together⟩
  · exact DateLiteral.consistent_rule gives
  · trivial
  · exact Segment.sound_ofItems (SegmentItems.onClock_ofTokens listed) together

/-! ## Segment by segment -/

/-- The set of some days has a member. -/
theorem isEmpty_ofList {days : List Weekday} (some : days.isEmpty = false) :
    (WeekdaySet.ofList days).isEmpty = false := by
  cases days with
  | nil => contradiction
  | cons day rest =>
    rw [Bool.eq_false_iff]
    intro none
    have absent := WeekdaySet.isEmpty_iff.mp none day
    simp at absent

/-- What is held back is fit for a rule: a yearly date is a day of the leap years. -/
def Pending.Sound : Pending → Prop
  | days _ => True
  | annual month day => IsLeapDay month day

/-- What is held back makes consistent rules when nothing completes it. -/
theorem Pending.Sound.flush {pending : Pending} (sound : pending.Sound) :
    ∀ rule ∈ pending.flush, rule.Consistent := by
  intro rule flushed
  cases pending with
  | days held =>
    obtain ⟨day, -, rfl⟩ := List.mem_map.mp flushed
    trivial
  | annual month day =>
    obtain rfl := List.mem_singleton.mp flushed
    exact sound

/-- What a segment finishes is consistent, and what is held back after it is sound. -/
structure Pending.Step.Sound (step : Pending.Step) : Prop where
  /-- The finished rules are consistent. -/
  rules : ∀ rule ∈ step.rules, rule.Consistent
  /-- What is held back is sound. -/
  pending : step.pending.Sound

/-- A step that finishes what is held back, and one more consistent rule, is sound. -/
theorem Pending.Sound.step_rule {pending : Pending} {rule : Rule} (sound : pending.Sound)
    (consistent : rule.Consistent) (fault : Option SegmentFault) :
    (⟨pending.flush ++ [rule], fault, .none⟩ : Pending.Step).Sound where
  rules := by
    intro other among
    rcases List.mem_append.mp among with flushed | own
    · exact sound.flush other flushed
    · exact List.mem_singleton.mp own ▸ consistent
  pending := trivial

/-- Every segment keeps what is held back sound and finishes consistent rules. -/
theorem Pending.Sound.step {pending : Pending} (sound : pending.Sound) (text : String) :
    (pending.step (finding text)).Sound := by
  cases found : finding text with
  | error fault => exact ⟨sound.flush, trivial⟩
  | ok said =>
    have fit := sound_of_finding found
    cases said with
    | weekdays more =>
      cases pending with
      | days held => exact ⟨fun rule none => absurd none List.not_mem_nil, trivial⟩
      | annual month day => exact ⟨sound.flush, trivial⟩
    | window own hours =>
      simp only [Pending.step, Pending.take]
      split
      · split
        · exact ⟨sound.flush, trivial⟩
        · -- The range takes the days that are held back.
          rename_i some
          refine ⟨fun rule only => ?_, trivial⟩
          obtain rfl := List.mem_singleton.mp only
          have present : (Rule.window (.ofList pending.heldDays) hours).Consistent :=
            ⟨isEmpty_ofList (by simpa using some), fit⟩
          exact present
      · rename_i named
        have present : (Rule.window (.ofList own) hours).Consistent :=
          ⟨isEmpty_ofList (by simpa using named), fit⟩
        exact sound.step_rule present .none
    | date rule =>
      cases rule with
      | annual month day => exact ⟨sound.flush, fit⟩
      | exact date =>
        have present : (Rule.date (.exact date)).Consistent := trivial
        exact sound.step_rule present .none
    | year year =>
      cases pending with
      | days held => exact ⟨fun rule none => absurd none List.not_mem_nil, trivial⟩
      | annual month day =>
        simp only [Pending.step, Pending.take]
        split
        · refine ⟨fun rule only => ?_, trivial⟩
          obtain rfl := List.mem_singleton.mp only
          trivial
        · exact ⟨sound.flush, trivial⟩

/-- All segments from what is held back on yield consistent rules. -/
theorem Pending.Sound.rules {pending : Pending} (sound : pending.Sound) (texts : List String) :
    ∀ rule ∈ pending.rules (texts.map finding), rule.Consistent := by
  induction texts generalizing pending with
  | nil => exact sound.flush
  | cons text rest hypothesis =>
    obtain ⟨finished, later⟩ := sound.step text
    intro rule among
    rw [List.map_cons, Pending.rules_cons] at among
    rcases List.mem_append.mp among with own | further
    · exact finished rule own
    · exact hypothesis later rule further

/-- The rules of a tag are consistent. -/
theorem consistent_of_mem_read {tag : String} {rule : Rule} (listed : rule ∈ (read tag).rules) :
    rule.Consistent := by
  have begun : Pending.none.Sound := trivial
  rw [read_rules] at listed
  exact begun.rules (segments tag) rule listed

/-- Every rule of a tag is consistent and decided at every instant, so a search for the first rule
that covers an instant reports no rule as defective, and each rule that it passes over was decided
not to cover it. -/
theorem read_decides (tag : String) (now : Instant) :
    (∀ rule ∈ (read tag).rules,
      rule.Consistent ∧ ∃ covered, rule.check now = .ok covered) ∧
    searchLog (read tag).rules now = [] ∧
    ∀ rule ∈ (read tag).rules.takeWhile (fun rule => !rule.active now),
      rule.check now = .ok false := by
  have decided : ∀ rule ∈ (read tag).rules, ∃ covered, rule.check now = .ok covered :=
    fun rule listed => (consistent_of_mem_read listed).check now
  refine ⟨fun rule listed => ⟨consistent_of_mem_read listed, decided rule listed⟩, ?_, ?_⟩
  · refine List.flatMap_eq_nil_iff.mpr fun rule passed => ?_
    obtain ⟨covered, answer⟩ := decided rule ((List.takeWhile_sublist _).mem passed)
    rw [defectLog, answer]
  · intro rule passed
    obtain ⟨covered, answer⟩ := decided rule ((List.takeWhile_sublist _).mem passed)
    have idle : rule.active now = false := by
      simpa using List.all_eq_true.mp List.all_takeWhile rule passed
    rw [Rule.active, answer] at idle
    rw [answer, show covered = false from idle]

end Schedule

end OffHours
