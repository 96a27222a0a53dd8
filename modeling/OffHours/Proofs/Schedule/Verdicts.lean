import OffHours.Proofs.Schedule.Consistency

/-!
# The first rule that holds

What a list of rules says at an instant, for rules built in any way: also for those whose fields
contradict each other or the calendar, which no tag yields. `Rule.Defective` tells these by their
fields alone; such a rule never holds. Every other rule is decided by what it says, and the two
cases of a window, before and past midnight, are one stretch of the clock
(`HourWindow.spans_iff`). A search finds the first rule that holds, whatever stands before it:
`decided_as_written`.
-/

namespace OffHours

/-- The fields of a rule contradict each other or the calendar, and in which way. -/
inductive Rule.Defective : Rule → RuleDefect → Prop where
  /-- A window lies on no day of the week. -/
  | noWeekday {days : WeekdaySet} {hours : HourWindow}
    (none : ∀ day, days.contains day = false) : Defective (.window days hours) .noWeekday
  /-- A window on some day has an hour that no clock shows. -/
  | hourOutOfRange {days : WeekdaySet} {hours : HourWindow} {day : Weekday}
    (some : days.contains day = true) (off : ¬ hours.OnClock) :
    Defective (.window days hours) (.hourOutOfRange hours.first hours.last)
  /-- A yearly date has a month or a day that no year has. -/
  | notADay {month day : Nat} (outside : ¬ (1 ≤ month ∧ month ≤ 12 ∧ 1 ≤ day ∧ day ≤ 31)) :
    Defective (.date (.annual month day)) (.notADay month day)

/-! ## Windows -/

namespace HourWindow

variable {window : HourWindow} {hour : Nat}

/-- Around the clock from the first hour to the last: without midnight between them the hours that
lie between, else those from the first on and those up to the last. -/
theorem spans_iff (onClock : window.OnClock) (below : hour < 24) :
    window.Spans hour ↔
      if window.first ≤ window.last then window.first ≤ hour ∧ hour ≤ window.last
      else window.first ≤ hour ∨ hour ≤ window.last := by
  obtain ⟨first, last⟩ := onClock
  unfold Spans
  split
  · omega
  · omega

/-- The stretch of a window as the distances from its first hour around the clock. -/
theorem spans_iff_emod (onClock : window.OnClock) :
    window.Spans hour ↔
      ((hour : Int) - window.first) % 24 ≤ ((window.last : Int) - window.first) % 24 := by
  obtain ⟨first, last⟩ := onClock
  unfold Spans
  omega

/-- A window refuses to answer exactly when one of its hours is not on the clock. -/
theorem contains_eq_error_iff {defect : RuleDefect} :
    window.contains hour = .error defect ↔
      ¬ window.OnClock ∧ defect = .hourOutOfRange window.first window.last := by
  rw [OnClock, contains]
  by_cases off : 23 < window.first ∨ 23 < window.last
  · have outside : ¬ (window.first ≤ 23 ∧ window.last ≤ 23) := by omega
    simp [off, outside, eq_comm]
  · have within : window.first ≤ 23 ∧ window.last ≤ 23 := by omega
    rw [if_neg off]
    split
    · simp [within]
    · simp [within]

/-- A window on the clock includes exactly the hours of its stretch. -/
theorem contains_eq_ok_true_iff (window : HourWindow) (below : hour < 24) :
    window.contains hour = .ok true ↔ window.OnClock ∧ window.Spans hour := by
  by_cases onClock : window.OnClock
  · have within : ¬ (23 < window.first ∨ 23 < window.last) := by
      unfold OnClock at onClock
      omega
    rw [contains, if_neg within, spans_iff onClock below]
    split
    · simp [onClock]
    · simp [onClock]
  · have refused : window.contains hour = .error (.hourOutOfRange window.first window.last) :=
      contains_eq_error_iff.mpr ⟨onClock, rfl⟩
    simp [refused, onClock]

end HourWindow

/-! ## Rules -/

namespace Rule

variable {rule : Rule} {now : Instant}

/-- A window of no days is refused; any other answers for its days what its hours answer. -/
theorem check_window (days : WeekdaySet) (hours : HourWindow) (now : Instant) :
    (window days hours).check now =
      if days.isEmpty then .error .noWeekday
      else (hours.contains now.hour).map (· && days.contains now.weekday) := by
  rw [check]
  split
  · rfl
  · cases hours.contains now.hour <;> rfl

/-- A rule cannot be decided exactly when it is defective, at whatever instant it is asked. -/
theorem check_eq_error_iff {defect : RuleDefect} :
    rule.check now = .error defect ↔ rule.Defective defect := by
  cases rule with
  | weekday day =>
    constructor
    · intro refused
      cases refused
    · intro defective
      cases defective
  | date rule =>
    cases rule with
    | exact date =>
      constructor
      · intro refused
        cases refused
      · intro defective
        cases defective
    | annual month day =>
      simp only [check, DateRule.check]
      constructor
      · intro refused
        split at refused
        · rename_i outside
          cases refused
          exact .notADay (by omega)
        · cases refused
      · rintro ⟨⟩
        rename_i outside
        exact if_pos (by omega)
  | window days hours =>
    rw [check_window]
    by_cases none : days.isEmpty = true
    · rw [if_pos none]
      have absent := WeekdaySet.isEmpty_iff.mp none
      constructor
      · intro refused
        cases refused
        exact .noWeekday absent
      · intro defective
        cases defective with
        | noWeekday => rfl
        | @hourOutOfRange _ _ day some off => simp [absent day] at some
    · rw [if_neg none]
      obtain ⟨day, some⟩ := Classical.not_forall.mp (mt WeekdaySet.isEmpty_iff.mpr none)
      rw [Bool.not_eq_false] at some
      have passed : (hours.contains now.hour).map (· && days.contains now.weekday) =
          .error defect ↔ hours.contains now.hour = .error defect := by
        cases hours.contains now.hour <;> simp [Except.map]
      rw [passed, HourWindow.contains_eq_error_iff]
      constructor
      · rintro ⟨off, rfl⟩
        exact .hourOutOfRange some off
      · intro defective
        cases defective with
        | noWeekday absent => simp [absent day] at some
        | hourOutOfRange _ off => exact ⟨off, rfl⟩

/-- A rule is decided to cover exactly the instants at which it holds. -/
theorem check_eq_ok_true_iff : rule.check now = .ok true ↔ rule.Holds now := by
  cases rule with
  | weekday day => simp [check, Holds]
  | date rule =>
    cases rule with
    | exact date => simp [check, DateRule.check, Holds]
    | annual month day =>
      simp only [check, DateRule.check, Holds]
      split
      · rename_i outside
        have absent : ¬ (1 ≤ month ∧ month ≤ 12 ∧ 1 ≤ day ∧ day ≤ 31) := by omega
        simp [absent]
      · rename_i within
        have present : 1 ≤ month ∧ month ≤ 12 ∧ 1 ≤ day ∧ day ≤ 31 := by omega
        simp [present]
  | window days hours =>
    rw [check_window, Holds]
    by_cases none : days.isEmpty = true
    · simp [none, WeekdaySet.isEmpty_iff.mp none now.weekday]
    · rw [if_neg none]
      have answered := hours.contains_eq_ok_true_iff now.hour_lt
      rw [HourWindow.OnClock] at answered
      cases inside : hours.contains now.hour with
      | error defect =>
        rw [inside] at answered
        simp only [reduceCtorEq, false_iff] at answered
        simp only [Except.map, reduceCtorEq, false_iff]
        rintro ⟨-, first, last, spans⟩
        exact answered ⟨⟨first, last⟩, spans⟩
      | ok covered =>
        rw [inside, and_assoc] at answered
        rw [← answered]
        simp [Except.map, and_comm]

/-- A rule is active exactly at the instants at which it holds. -/
theorem active_iff : rule.active now = true ↔ rule.Holds now := by
  rw [← check_eq_ok_true_iff, active]
  cases rule.check now with
  | ok covered => simp
  | error defect => simp

/-- A defective rule holds at no instant. -/
theorem Defective.not_holds {defect : RuleDefect} (defective : rule.Defective defect)
    (now : Instant) : ¬ rule.Holds now := by
  have refused : rule.check now = .error defect := check_eq_error_iff.mpr defective
  rw [← check_eq_ok_true_iff, refused]
  simp

/-- Whether a rule holds depends on no more of the instant than its date and its hour. -/
theorem Holds.of_same_hour {later : Instant} (date : later.date = now.date)
    (hour : later.hour = now.hour) : rule.Holds later ↔ rule.Holds now := by
  unfold Holds Instant.weekday
  rw [date, hour]

end Rule

/-! ## Lists of rules -/

namespace Schedule

variable {rules : List Rule} {now : Instant}

/-- The search finds the position of the first rule that holds. -/
theorem firstIndex?_eq_some_iff {index : Nat} :
    firstIndex? rules now = some index ↔
      (∃ rule, rules[index]? = some rule ∧ rule.Holds now) ∧
        ∀ earlier < index, ∀ rule, rules[earlier]? = some rule → ¬ rule.Holds now := by
  rw [firstIndex?, List.findIdx?_eq_some_iff_getElem]
  constructor
  · rintro ⟨inside, active, idle⟩
    refine ⟨⟨rules[index], List.getElem?_eq_getElem inside, Rule.active_iff.mp active⟩, ?_⟩
    intro earlier before rule place
    obtain ⟨_, rfl⟩ := List.getElem?_eq_some_iff.mp place
    exact fun holds => idle earlier before (Rule.active_iff.mpr holds)
  · rintro ⟨⟨rule, place, holds⟩, none⟩
    obtain ⟨inside, rfl⟩ := List.getElem?_eq_some_iff.mp place
    refine ⟨inside, Rule.active_iff.mpr holds, ?_⟩
    intro earlier before active
    exact none earlier before _ (List.getElem?_eq_getElem (by omega)) (Rule.active_iff.mp active)

/-- Shutdown is asked for exactly when some rule holds. -/
theorem shutdownAt_iff : shutdownAt rules now = true ↔ ∃ rule ∈ rules, rule.Holds now := by
  simp only [shutdownAt, firstMatch?, List.find?_isSome, Rule.active_iff]

/-- A search passes over a rule that does not hold, whichever rules stand around it. -/
theorem firstMatch?_without {rule : Rule} (idle : ¬ rule.Holds now) (front back : List Rule) :
    firstMatch? (front ++ rule :: back) now = firstMatch? (front ++ back) now := by
  have inactive : rule.active now = false := by
    rw [← Bool.not_eq_true, Rule.active_iff]
    exact idle
  rw [firstMatch?, firstMatch?, List.find?_append, List.find?_append,
    List.find?_cons_of_neg (by simp [inactive])]

/-- What a list of rules says at an instant. -/
structure DecidedAsWritten (rules : List Rule) (now : Instant) : Prop where
  /-- A window holds on its days, at the hours from its first to its last around the clock, both of
  them hours of the day. -/
  window : ∀ days hours, (Rule.window days hours).Holds now ↔
    days.contains now.weekday = true ∧ hours.first ≤ 23 ∧ hours.last ≤ 23 ∧
      ((now.hour : Int) - hours.first) % 24 ≤ ((hours.last : Int) - hours.first) % 24
  /-- The position that is found is the least one of a rule that holds. -/
  position : ∀ index, firstIndex? rules now = some index ↔
    (∃ rule, rules[index]? = some rule ∧ rule.Holds now) ∧
      ∀ earlier < index, ∀ rule, rules[earlier]? = some rule → ¬ rule.Holds now
  /-- The rule that is found is the one at this position. -/
  rule : firstMatch? rules now = (firstIndex? rules now).bind (rules[·]?)
  /-- The rules that cannot be decided are the defective ones. -/
  undecided : ∀ (rule : Rule) defect, rule.check now = .error defect ↔ rule.Defective defect
  /-- A rule that cannot be decided does not hold, and without it the same rule is found. -/
  passed : ∀ front rule back defect, rules = front ++ rule :: back →
    rule.check now = .error defect →
      ¬ rule.Holds now ∧ firstMatch? rules now = firstMatch? (front ++ back) now
  /-- Shutdown is asked for exactly when some rule holds. -/
  shutdown : shutdownAt rules now = true ↔ ∃ rule ∈ rules, rule.Holds now
  /-- It does not depend on the order of the rules. -/
  unordered : ∀ others, others.Perm rules → shutdownAt others now = shutdownAt rules now
  /-- It is the same throughout the hour of a date. -/
  hourly : ∀ later : Instant, later.date = now.date → later.hour = now.hour →
    shutdownAt rules later = shutdownAt rules now

/-- Every list of rules, with defective ones among them or not, is decided by the first of its rules
that holds. -/
theorem decided_as_written (rules : List Rule) (now : Instant) : DecidedAsWritten rules now where
  window := by
    intro days hours
    rw [Rule.Holds]
    constructor
    · rintro ⟨listed, first, last, spans⟩
      exact ⟨listed, first, last, (HourWindow.spans_iff_emod ⟨first, last⟩).mp spans⟩
    · rintro ⟨listed, first, last, distance⟩
      exact ⟨listed, first, last, (HourWindow.spans_iff_emod ⟨first, last⟩).mpr distance⟩
  position _ := firstIndex?_eq_some_iff
  rule := List.find?_eq_bind_findIdx?_getElem?
  undecided _ _ := Rule.check_eq_error_iff
  passed := by
    rintro front rule back defect rfl refused
    have idle := (Rule.check_eq_error_iff.mp refused).not_holds now
    exact ⟨idle, firstMatch?_without idle front back⟩
  shutdown := shutdownAt_iff
  unordered := by
    intro others rearranged
    rw [Bool.eq_iff_iff, shutdownAt_iff, shutdownAt_iff]
    simp only [rearranged.mem_iff]
  hourly := by
    intro later date hour
    rw [Bool.eq_iff_iff, shutdownAt_iff, shutdownAt_iff]
    simp only [Rule.Holds.of_same_hour date hour]

/-- Three rules that cannot be decided stand before one that holds. -/
example : firstIndex? [.window (.ofList [.monday]) ⟨30, 2⟩, .window .empty ⟨0, 23⟩,
    .date (.annual 13 1), .date (.exact ⟨2026, 10, 12, rfl⟩)]
      { date := ⟨2026, 10, 12, rfl⟩, hour := 1, minute := 0, second := 0 } = some 3 := by
  decide

end Schedule

end OffHours
