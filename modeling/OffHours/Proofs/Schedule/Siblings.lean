import Mathlib.Data.List.Induction
import OffHours.Proofs.Schedule.Reading

/-!
# Faulty segments and their neighbours

A segment with a fault should yield no rule and leave the rules of the other segments as they
are: the rules of the tag are then those of the segments before it followed by those of the
segments after it. Every fault but one keeps to this. A lone year is reported, and the days held
back before it stay held: a time range after it that has no day of its own takes them, past the
report. `DaysBridged` is that situation, told from the segments alone, and
`rules_eq_siblings_iff` says that it is the only one in which a reported segment changes what
the others yield.
-/

namespace OffHours.Schedule

/-- The segments of a tag with the blanks at their ends. -/
def parts (tag : String) : List (List Char) := Text.pieces ',' tag.toList

/-- Segments written with commas between them. -/
def joined (texts : List (List Char)) : String := String.ofList ([','].intercalate texts)

/-- What a segment with blanks at its ends says. -/
def partFinding (text : List Char) : Finding := finding (String.ofList (Text.trimChars text))

/-- Whether a segment is a lone year. -/
def isYear : Finding → Bool
  | .ok (.year _) => true
  | _ => false

/-- Whether a segment gives days of the week and no time range. -/
def isDays : Finding → Bool
  | .ok (.weekdays _) => true
  | _ => false

/-- Whether a segment is a time range that has no day of its own. -/
def isBareRange : Finding → Bool
  | .ok (.window own _) => own.isEmpty
  | _ => false

/-- A lone year is a readable segment. -/
theorem isYear_iff {found : Finding} : isYear found = true ↔ ∃ year, found = .ok (.year year) := by
  unfold isYear
  split <;> simp_all

/-- Days of the week are a readable segment. -/
theorem isDays_iff {found : Finding} :
    isDays found = true ↔ ∃ days, found = .ok (.weekdays days) := by
  unfold isDays
  split <;> simp_all

/-- A time range without days is a readable segment. -/
theorem isBareRange_iff {found : Finding} :
    isBareRange found = true ↔ ∃ hours, found = .ok (.window [] hours) := by
  unfold isBareRange
  split <;> simp_all

/-- Whether the segments end with days of the week, lone years after them left out. -/
def endsWithDays (said : List Finding) : Bool :=
  (said.reverse.dropWhile isYear).head?.any isDays

/-- Whether the segments begin with a time range that has no day of its own, lone years and
days of the week before it left out. -/
def beginsWithBareRange (said : List Finding) : Bool :=
  (said.dropWhile fun found => isYear found || isDays found).head?.any isBareRange

/-- Days of the week are held back across a lone year and taken by a time range after it. -/
structure DaysBridged (said : List Finding) (index : Nat) : Prop where
  /-- The segment is a lone year. -/
  year : said[index]?.any isYear = true
  /-- Days of the week are held back when it is met. -/
  held : endsWithDays (said.take index) = true
  /-- A time range takes them after it. -/
  taken : beginsWithBareRange (said.drop (index + 1)) = true

/-- Bridged days are decided from the segments. -/
instance (said : List Finding) (index : Nat) : Decidable (DaysBridged said index) :=
  decidable_of_iff (said[index]?.any isYear = true ∧ endsWithDays (said.take index) = true ∧
      beginsWithBareRange (said.drop (index + 1)) = true)
    ⟨fun ⟨year, held, taken⟩ => ⟨year, held, taken⟩,
      fun bridged => ⟨bridged.year, bridged.held, bridged.taken⟩⟩

/-! ## Segments of a tag -/

/-- What the segments of a tag say, told from the segments with their blanks. -/
theorem findings_eq_parts (tag : String) : findings tag = (parts tag).map partFinding := by
  simp [findings, segments, parts, partFinding]

/-- No segment holds a comma. -/
theorem comma_not_mem_parts {tag : String} {text : List Char} (member : text ∈ parts tag) :
    ',' ∉ text :=
  Text.not_mem_of_mem_pieces member

/-- The rules of joined segments are those of the segments; joining none of them gives the empty
tag, which has no rule either. -/
theorem read_joined_rules {texts : List (List Char)} (clean : ∀ text ∈ texts, ',' ∉ text) :
    (read (joined texts)).rules = Pending.none.rules (texts.map partFinding) := by
  rw [read_rules, findings_eq_parts]
  cases texts with
  | nil => cbv
  | cons text rest =>
    have cut : parts (joined (text :: rest)) = text :: rest := by
      simp only [parts, joined, String.toList_ofList]
      exact Text.pieces_intercalate clean (List.cons_ne_nil text rest)
    rw [cut]

/-- Items that give only days of the week give at least one. -/
theorem days_ne_nil_of_ofItems {items : SegmentItems} {days : List Weekday}
    (gives : Segment.ofItems items = .ok (.weekdays days)) : days ≠ [] := by
  unfold Segment.ofItems at gives
  split at gives
  · split at gives
    · contradiction
    · rename_i present
      cases gives
      simpa using present
  · cases gives
  · cases gives

/-- A segment of days of the week names at least one. -/
theorem days_ne_nil_of_finding {text : String} {days : List Weekday}
    (gives : finding text = .ok (.weekdays days)) : days ≠ [] := by
  obtain ⟨tokens, ignored, -, read⟩ := exists_tokens_of_finding gives
  rcases cases_of_ofTokens read with ⟨_, _, _, _, other⟩ | ⟨_, _, other⟩ | ⟨items, _, together⟩
  · cases other
  · cases other
  · exact days_ne_nil_of_ofItems together

/-! ## Days held back -/

/-- Segments whose days of the week are at least one day each, as those of a tag are. -/
def NamesDays (said : List Finding) : Prop :=
  ∀ days, .ok (.weekdays days) ∈ said → days ≠ []

/-- The segments of a tag name days where they give any. -/
theorem namesDays_findings (tag : String) : NamesDays (findings tag) := by
  intro days member
  obtain ⟨text, -, gives⟩ := List.mem_map.mp member
  exact days_ne_nil_of_finding gives

/-- A last segment that is a lone year does not change whether the segments end with days. -/
theorem endsWithDays_append_year {said : List Finding} {found : Finding}
    (year : isYear found = true) : endsWithDays (said ++ [found]) = endsWithDays said := by
  simp [endsWithDays, year]

/-- A last segment that is no year decides whether the segments end with days. -/
theorem endsWithDays_append_of_not_year {said : List Finding} {found : Finding}
    (other : isYear found = false) : endsWithDays (said ++ [found]) = isDays found := by
  simp [endsWithDays, other]

/-- Further days are held back behind the days that are. -/
theorem heldDays_step_weekdays (pending : Pending) (more : List Weekday) :
    (pending.step (.ok (.weekdays more))).pending.heldDays = pending.heldDays ++ more := by
  cases pending <;> simp [Pending.step, Pending.take, Pending.heldDays]

/-- A year leaves the days held back as they are. -/
theorem heldDays_step_of_isYear (pending : Pending) {found : Finding} (year : isYear found = true) :
    (pending.step found).pending.heldDays = pending.heldDays := by
  obtain ⟨number, rfl⟩ := isYear_iff.mp year
  cases pending with
  | days held => rfl
  | annual month day =>
    simp only [Pending.step, Pending.take]
    split <;> rfl

/-- Any other segment leaves no days held back. -/
theorem heldDays_step_of_other (pending : Pending) {found : Finding}
    (year : isYear found = false) (days : isDays found = false) :
    (pending.step found).pending.heldDays = [] := by
  cases found with
  | error fault => rfl
  | ok segment =>
    cases segment with
    | weekdays more => simp [isDays] at days
    | year number => simp [isYear] at year
    | window own hours =>
      simp only [Pending.step, Pending.take]
      split
      · split <;> rfl
      · rfl
    | date rule => cases rule <;> rfl

/-- Days of the week are held back exactly after segments that end with days. -/
theorem heldDays_after_ne_nil_iff {said : List Finding} (named : NamesDays said) :
    (Pending.none.after said).heldDays ≠ [] ↔ endsWithDays said = true := by
  induction said using List.reverseRecOn with
  | nil => simp [Pending.none, Pending.heldDays, endsWithDays]
  | append_singleton front found hypothesis =>
    have before := hypothesis fun days member => named days (List.mem_append_left _ member)
    rw [Pending.after_append, Pending.after_cons, Pending.after_nil]
    by_cases year : isYear found = true
    · rw [heldDays_step_of_isYear _ year, endsWithDays_append_year year]
      exact before
    · have other := Bool.eq_false_iff.mpr year
      rw [endsWithDays_append_of_not_year other]
      by_cases days : isDays found = true
      · obtain ⟨more, rfl⟩ := isDays_iff.mp days
        have present : more ≠ [] := named more (by simp)
        simp [heldDays_step_weekdays, present, isDays]
      · simp [heldDays_step_of_other _ other (Bool.eq_false_iff.mpr days), days]

/-! ## Days taken past a report -/

/-- Days held back in front of segments that begin with a bare time range go into its window. -/
theorem rules_days_of_bareRange {held : List Weekday} (present : held ≠ []) {said : List Finding}
    (bare : beginsWithBareRange said = true) :
    ∃ days hours rest, (Pending.days held).rules said = .window days hours :: rest := by
  induction said generalizing held with
  | nil => simp [beginsWithBareRange] at bare
  | cons found rest hypothesis =>
    by_cases year : isYear found = true
    · have later : beginsWithBareRange rest = true := by
        simpa [beginsWithBareRange, year] using bare
      obtain ⟨number, rfl⟩ := isYear_iff.mp year
      simpa [Pending.step, Pending.take] using hypothesis present later
    · by_cases days : isDays found = true
      · have later : beginsWithBareRange rest = true := by
          simpa [beginsWithBareRange, days] using bare
        obtain ⟨more, rfl⟩ := isDays_iff.mp days
        have longer : held ++ more ≠ [] := by simp [present]
        simpa [Pending.step, Pending.take] using hypothesis longer later
      · have range : isBareRange found = true := by
          simpa [beginsWithBareRange, year, days] using bare
        obtain ⟨hours, rfl⟩ := isBareRange_iff.mp range
        simp [Pending.step, Pending.take, Pending.heldDays, present]

/-- Days held back yield rules of their own in front of the other rules, unless there are any
and a bare time range takes them. -/
theorem rules_days_eq_iff (held : List Weekday) {said : List Finding} (named : NamesDays said) :
    (Pending.days held).rules said = held.map Rule.weekday ++ Pending.none.rules said ↔
      held = [] ∨ beginsWithBareRange said = false := by
  induction said generalizing held with
  | nil => simp [Pending.flush, Pending.none, beginsWithBareRange]
  | cons found rest hypothesis =>
    have others : NamesDays rest := fun days member => named days (List.mem_cons_of_mem _ member)
    cases found with
    | error fault => simp [Pending.step, Pending.flush, Pending.none, beginsWithBareRange, isYear,
        isDays, isBareRange]
    | ok segment =>
      cases segment with
      | year number =>
        have skip : beginsWithBareRange (.ok (.year number) :: rest) =
            beginsWithBareRange rest := by
          simp [beginsWithBareRange, isYear]
        rw [skip, ← hypothesis held others]
        simp [Pending.step, Pending.take, Pending.none]
      | date rule =>
        cases rule <;> simp [Pending.step, Pending.take, Pending.flush, Pending.none,
          beginsWithBareRange, isYear, isDays, isBareRange]
      | window own hours =>
        have first : beginsWithBareRange (.ok (.window own hours) :: rest) = own.isEmpty := by
          simp [beginsWithBareRange, isYear, isDays, isBareRange]
        rw [first]
        cases own with
        | cons day more => simp [Pending.step, Pending.take, Pending.flush, Pending.none]
        | nil =>
          cases held with
          | nil => simp [Pending.none]
          | cons day more => simp [Pending.step, Pending.take, Pending.heldDays]
      | weekdays more =>
        have skip : beginsWithBareRange (.ok (.weekdays more) :: rest) =
            beginsWithBareRange rest := by
          simp [beginsWithBareRange, isYear, isDays]
        have left : (Pending.days held).rules (.ok (.weekdays more) :: rest) =
            (Pending.days (held ++ more)).rules rest := by
          simp [Pending.step, Pending.take]
        have right : Pending.none.rules (.ok (.weekdays more) :: rest) =
            (Pending.days more).rules rest := by
          simp [Pending.step, Pending.take, Pending.none]
        rw [skip, left, right]
        cases bare : beginsWithBareRange rest with
        | false =>
          have both := (hypothesis (held ++ more) others).mpr (Or.inr bare)
          have later := (hypothesis more others).mpr (Or.inr bare)
          simp [both, later]
        | true =>
          cases held with
          | nil => simp
          | cons day days =>
            -- The window comes first on the left and a day of the week on the right.
            obtain ⟨set, hours, tail, window⟩ :=
              rules_days_of_bareRange (List.cons_ne_nil day (days ++ more)) bare
            simp only [List.cons_append] at window ⊢
            simp [window]

/-- A fault other than at a lone year with days held back finishes what is held back. -/
theorem step_of_fault {pending : Pending} {found : Finding} {fault : SegmentFault}
    (met : (pending.step found).fault = some fault)
    (kept : isYear found = true → pending.heldDays = []) :
    (pending.step found).rules = pending.flush ∧ (pending.step found).pending = Pending.none := by
  cases found with
  | error cause => exact ⟨rfl, rfl⟩
  | ok segment =>
    cases segment with
    | weekdays more => cases pending <;> simp [Pending.step, Pending.take] at met
    | date rule => cases rule <;> simp [Pending.step, Pending.take] at met
    | window own hours =>
      simp only [Pending.step, Pending.take] at met ⊢
      split at met
      · split at met
        · rename_i bare free
          simp [bare, free]
        · simp at met
      · simp at met
    | year number =>
      cases pending with
      | days held =>
        obtain rfl : held = [] := kept rfl
        exact ⟨rfl, rfl⟩
      | annual month day =>
        simp only [Pending.step, Pending.take] at met ⊢
        split at met
        · simp at met
        · simp

/-- The rules of segments around a reported one are those of the segments before it and those
of the segments after it exactly when the report does not bridge days of the week. -/
theorem rules_eq_append_iff {front back : List Finding} {found : Finding} {fault : SegmentFault}
    (named : NamesDays (front ++ found :: back))
    (met : ((Pending.none.after front).step found).fault = some fault) :
    Pending.none.rules (front ++ found :: back) =
        Pending.none.rules front ++ Pending.none.rules back ↔
      ¬ (isYear found = true ∧ endsWithDays front = true ∧ beginsWithBareRange back = true) := by
  have ahead : NamesDays front := fun days member => named days (List.mem_append_left _ member)
  have behind : NamesDays back := fun days member => named days (by simp [member])
  have alone : Pending.none.rules front =
      Pending.none.finished front ++ (Pending.none.after front).flush := rfl
  rw [Pending.rules_append, Pending.rules_cons, alone, List.append_assoc,
    List.append_cancel_left_eq, ← heldDays_after_ne_nil_iff ahead]
  by_cases lone : isYear found = true ∧ (Pending.none.after front).heldDays ≠ []
  · obtain ⟨year, present⟩ := lone
    obtain ⟨number, rfl⟩ := isYear_iff.mp year
    cases shape : Pending.none.after front with
    | annual month day => simp [shape, Pending.heldDays] at present
    | days held =>
      have same := rules_days_eq_iff held behind
      simp only [shape, Pending.heldDays] at present
      simp [Pending.step, Pending.take, Pending.flush, Pending.heldDays, same, present, isYear]
  · have kept : isYear found = true → (Pending.none.after front).heldDays = [] := fun year =>
      not_not.mp (not_and.mp lone year)
    obtain ⟨flushed, free⟩ := step_of_fault met kept
    have plain : ¬ (isYear found = true ∧ (Pending.none.after front).heldDays ≠ [] ∧
        beginsWithBareRange back = true) := fun ⟨year, present, _⟩ => lone ⟨year, present⟩
    simp [flushed, free, plain]

/-- A reported segment leaves the rules of the segments before it and after it as they are
exactly when it is not a lone year between days of the week and a time range that takes them. -/
theorem rules_eq_siblings_iff (tag : String) {error : SegmentError}
    (reported : error ∈ (read tag).errors) :
    (read tag).rules =
        (read (joined ((parts tag).take error.index))).rules ++
          (read (joined ((parts tag).drop (error.index + 1)))).rules ↔
      ¬ DaysBridged (findings tag) error.index := by
  obtain ⟨found, place, met⟩ := fault_of_mem_errors reported
  have cut : findings tag =
      (findings tag).take error.index ++ found :: (findings tag).drop (error.index + 1) := by
    obtain ⟨inside, rfl⟩ := List.getElem?_eq_some_iff.mp place
    rw [List.getElem_cons_drop, List.take_append_drop]
  have before : (read (joined ((parts tag).take error.index))).rules =
      Pending.none.rules ((findings tag).take error.index) := by
    rw [read_joined_rules fun text member => comma_not_mem_parts (List.mem_of_mem_take member),
      findings_eq_parts, List.map_take]
  have later : (read (joined ((parts tag).drop (error.index + 1)))).rules =
      Pending.none.rules ((findings tag).drop (error.index + 1)) := by
    rw [read_joined_rules fun text member => comma_not_mem_parts (List.mem_of_mem_drop member),
      findings_eq_parts, List.map_drop]
  have bridged : DaysBridged (findings tag) error.index ↔
      isYear found = true ∧ endsWithDays ((findings tag).take error.index) = true ∧
        beginsWithBareRange ((findings tag).drop (error.index + 1)) = true := by
    constructor
    · intro bridge
      exact ⟨by simpa [place] using bridge.year, bridge.held, bridge.taken⟩
    · rintro ⟨year, held, taken⟩
      exact ⟨by simpa [place] using year, held, taken⟩
  have named : NamesDays ((findings tag).take error.index ++
      found :: (findings tag).drop (error.index + 1)) := cut ▸ namesDays_findings tag
  rw [before, later, bridged, read_rules, ← rules_eq_append_iff named met, ← cut]

/-- The days in front of a range with a wrong hour become rules of their own, as they are when
nothing follows them, and the day after it is read as it is alone. -/
theorem rules_eq_siblings_wrong_hour :
    (⟨2, "25PM -> 5AM", .invalidHour "25PM"⟩ : SegmentError) ∈
        (read "Saturday, Sunday, 25PM -> 5AM, Monday").errors ∧
      ¬ DaysBridged (findings "Saturday, Sunday, 25PM -> 5AM, Monday") 2 ∧
      (read "Saturday, Sunday, 25PM -> 5AM, Monday").rules =
        (read (joined ((parts "Saturday, Sunday, 25PM -> 5AM, Monday").take 2))).rules ++
          (read (joined ((parts "Saturday, Sunday, 25PM -> 5AM, Monday").drop 3))).rules := by
  have reported : (⟨2, "25PM -> 5AM", .invalidHour "25PM"⟩ : SegmentError) ∈
      (read "Saturday, Sunday, 25PM -> 5AM, Monday").errors := by decide +kernel
  have free : ¬ DaysBridged (findings "Saturday, Sunday, 25PM -> 5AM, Monday") 2 := by
    decide +kernel
  exact ⟨reported, free, (rules_eq_siblings_iff _ reported).mpr free⟩

/-- A lone year does change what its neighbours yield: Monday, held back across the year, goes
into the window after it, and is no rule of its own as it is without the year's neighbours. -/
theorem rules_ne_siblings_lone_year :
    (⟨1, "2026", .unrecognized⟩ : SegmentError) ∈ (read "Monday, 2026, 9AM -> 5PM").errors ∧
      (read "Monday, 2026, 9AM -> 5PM").rules ≠
        (read (joined ((parts "Monday, 2026, 9AM -> 5PM").take 1))).rules ++
          (read (joined ((parts "Monday, 2026, 9AM -> 5PM").drop 2))).rules := by
  decide +kernel

end OffHours.Schedule
