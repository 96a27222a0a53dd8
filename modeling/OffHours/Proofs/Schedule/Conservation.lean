import Mathlib.Data.List.Forall2
import OffHours.Proofs.Schedule.Reading

/-!
# Nothing is lost and nothing is invented

A tag is a list of items, each in its segment: days of the week, time ranges, dates and years.
The items of the segments that are not reported, in order of writing, are cut into groups that
stand side by side, and each group makes up one rule: `MakeUp`. So every item goes into exactly
one rule, every rule comes from items that were written, and the order stays. `Held` carries this
along the reading: what is held back between two segments are the last items, which no rule has
taken yet. `Conserved` says it of a whole tag together with what is reported, and
`read_conserves` proves it.
-/

namespace OffHours

/-- What an operator writes in a segment. -/
inductive Item where
  /-- A day of the week in a segment without a time range. -/
  | day (day : Weekday)
  /-- A time range with the days of the week beside it. -/
  | range (own : List Weekday) (hours : HourWindow)
  /-- A date. -/
  | date (rule : DateRule)
  /-- A year. -/
  | year (year : Nat)
  deriving DecidableEq, Repr

/-- The items of a segment in order of writing. -/
def Segment.items : Segment → List Item
  | .weekdays days => days.map .day
  | .window own hours => [.range own hours]
  | .date rule => [.date rule]
  | .year number => [.year number]

namespace Schedule

/-- An item with the position of its segment. -/
abbrev PlacedItem := Nat × Item

/-- The items of the segment at a position; none when it cannot be read. -/
def itemsAt (index : Nat) : Finding → List PlacedItem
  | .ok segment => segment.items.map (index, ·)
  | .error _ => []

/-- A day of the week, with the position of its segment, as an item. -/
def dayItem (held : Nat × Weekday) : PlacedItem := (held.1, .day held.2)

/-- The items that make up a rule. -/
inductive MakesUp : List PlacedItem → Rule → Prop where
  /-- A day of the week is a rule of its own. -/
  | weekday (held : Nat × Weekday) : MakesUp [dayItem held] (.weekday held.2)
  /-- A time range that names days is the window on these days. -/
  | ownDays {index : Nat} {own : List Weekday} {hours : HourWindow} (named : own ≠ []) :
      MakesUp [(index, .range own hours)] (.window (.ofList own) hours)
  /-- A time range that names none is the window on the days written before it. -/
  | heldDays {index : Nat} {held : List (Nat × Weekday)} {hours : HourWindow} (some : held ≠ [])
      (before : ∀ entry ∈ held, entry.1 < index) :
      MakesUp (held.map dayItem ++ [(index, .range [] hours)])
        (.window (.ofList (held.map Prod.snd)) hours)
  /-- A date is its rule. -/
  | date {index : Nat} {rule : DateRule} : MakesUp [(index, .date rule)] (.date rule)
  /-- A yearly date with a year in the next segment is the date in that year. -/
  | dated {index year : Nat} {date : Date} (inYear : date.year = year) :
      MakesUp [(index, .date (.annual date.month date.day)), (index + 1, .year year)]
        (.date (.exact date))

/-- The items are cut into groups, each of which makes up the rule in its place. -/
def MakeUp (items : List PlacedItem) (rules : List Rule) : Prop :=
  ∃ groups, List.Forall₂ MakesUp groups rules ∧ groups.flatten = items

/-- No items make up no rules. -/
theorem MakeUp.nil : MakeUp [] [] := ⟨[], .nil, rfl⟩

/-- One group makes up one rule. -/
theorem MakeUp.singleton {items : List PlacedItem} {rule : Rule} (group : MakesUp items rule) :
    MakeUp items [rule] :=
  ⟨[items], .cons group .nil, by simp⟩

/-- Items in two parts make up the rules of both. -/
theorem MakeUp.append {front back : List PlacedItem} {first second : List Rule}
    (ahead : MakeUp front first) (behind : MakeUp back second) :
    MakeUp (front ++ back) (first ++ second) := by
  obtain ⟨groups, made, rfl⟩ := ahead
  obtain ⟨others, further, rfl⟩ := behind
  exact ⟨groups ++ others, List.rel_append made further, List.flatten_append⟩

/-- The items that are held back in front of the segment at a position. -/
inductive Held : Nat → Pending → List PlacedItem → Prop where
  /-- Days of the week from segments before it. -/
  | days {index : Nat} (held : List (Nat × Weekday)) (before : ∀ entry ∈ held, entry.1 < index) :
      Held index (.days (held.map Prod.snd)) (held.map dayItem)
  /-- A yearly date from the segment directly before it. -/
  | annual {index month day : Nat} :
      Held (index + 1) (.annual month day) [(index, .date (.annual month day))]

/-- Nothing is held back before the first segment and after a fault. -/
theorem Held.none (index : Nat) : Held index Pending.none [] :=
  .days [] fun _ absent => absurd absent List.not_mem_nil

/-- Days of the week of one segment are held back after it. -/
theorem Held.weekdays (index : Nat) (more : List Weekday) :
    Held (index + 1) (.days more) (itemsAt index (.ok (.weekdays more))) := by
  have held : ∀ entry ∈ more.map fun day => (index, day), entry.1 < index + 1 := by
    intro entry present
    obtain ⟨day, -, rfl⟩ := List.mem_map.mp present
    exact Nat.lt_succ_self index
  simpa [itemsAt, Segment.items, dayItem, Function.comp_def] using Held.days _ held

section Step

variable {index : Nat} {pending : Pending} {items : List PlacedItem}

/-- What is held back makes up rules when nothing completes it. -/
theorem Held.flush (held : Held index pending items) : MakeUp items pending.flush := by
  cases held with
  | annual => exact .singleton .date
  | days held before =>
    clear before
    induction held with
    | nil => exact .nil
    | cons entry rest hypothesis => exact (MakeUp.singleton (.weekday entry)).append hypothesis

/-- The items of a segment that is not reported. -/
def Pending.accepted (pending : Pending) (index : Nat) (found : Finding) : List PlacedItem :=
  if (pending.step found).fault.isNone then itemsAt index found else []

/-- The items held back before a segment and its own, if it is not reported, are first those of
the rules that it finishes and then those held back after it. -/
def Passes (index : Nat) (pending : Pending) (items : List PlacedItem) (found : Finding) : Prop :=
  ∃ taken later, MakeUp taken (pending.step found).rules ∧
    Held (index + 1) (pending.step found).pending later ∧
    taken ++ later = items ++ pending.accepted index found

/-- A segment that finishes what is held back and yields a rule of its own passes. -/
theorem Held.passes_rule {found : Finding} {rule : Rule} (held : Held index pending items)
    (step : pending.step found = ⟨pending.flush ++ [rule], .none, .none⟩)
    (group : MakesUp (itemsAt index found) rule) : Passes index pending items found := by
  refine ⟨items ++ itemsAt index found, [], ?_, ?_, ?_⟩
  · rw [step]
    exact held.flush.append (.singleton group)
  · rw [step]
    exact Held.none (index + 1)
  · simp [Pending.accepted, step]

/-- A segment that finishes what is held back and is left out passes. -/
theorem Held.passes_fault {found : Finding} {fault : SegmentFault}
    (held : Held index pending items)
    (step : pending.step found = ⟨pending.flush, some fault, .none⟩) :
    Passes index pending items found := by
  refine ⟨items, [], ?_, ?_, ?_⟩
  · rw [step]
    exact held.flush
  · rw [step]
    exact Held.none (index + 1)
  · simp [Pending.accepted, step]

/-- Every segment passes. -/
theorem Held.passes (held : Held index pending items) (found : Finding) :
    Passes index pending items found := by
  cases found with
  | error fault => exact held.passes_fault rfl
  | ok segment =>
    cases segment with
    | weekdays more =>
      cases held with
      | annual => exact ⟨_, _, MakeUp.singleton .date, Held.weekdays _ more, rfl⟩
      | days held before =>
        -- The days join those that are held back already.
        have longer : ∀ entry ∈ held ++ more.map fun day => (index, day),
            entry.1 < index + 1 := by
          intro entry present
          rcases List.mem_append.mp present with earlier | own
          · exact Nat.lt_succ_of_lt (before entry earlier)
          · obtain ⟨day, -, rfl⟩ := List.mem_map.mp own
            exact Nat.lt_succ_self index
        refine ⟨[], (held ++ more.map fun day => (index, day)).map dayItem, .nil, ?_, ?_⟩
        · simpa [Pending.step, Pending.take, Function.comp_def] using Held.days _ longer
        · simp [Pending.accepted, Pending.step, Pending.take, itemsAt, Segment.items, dayItem]
    | window own hours =>
      by_cases named : own = []
      · subst named
        cases held with
        | annual => exact Held.annual.passes_fault rfl
        | days held before =>
          cases held with
          | nil => exact (Held.none index).passes_fault rfl
          | cons entry rest =>
            -- The range takes the days that are held back.
            have some := List.cons_ne_nil entry rest
            refine ⟨_, [], MakeUp.singleton (.heldDays some before), Held.none (index + 1), ?_⟩
            simp [Pending.accepted, Pending.step, Pending.take, Pending.heldDays, itemsAt,
              Segment.items]
      · refine held.passes_rule ?_ (MakesUp.ownDays named)
        simp [Pending.step, Pending.take, named]
    | date rule =>
      cases rule with
      | exact date => exact held.passes_rule rfl MakesUp.date
      | annual month day => exact ⟨items, _, held.flush, Held.annual, rfl⟩
    | year year =>
      cases held with
      | days held before =>
        -- A lone year is reported, and the days stay held back.
        refine ⟨[], held.map dayItem, .nil, ?_, ?_⟩
        · exact Held.days held fun entry present => Nat.lt_succ_of_lt (before entry present)
        · simp [Pending.accepted, Pending.step, Pending.take]
      | @annual previous month day =>
        cases inYear : Date.ofNumbers? year month day with
        | none =>
          have missed : (Pending.annual month day).step (.ok (.year year)) =
              ⟨(Pending.annual month day).flush, some (.invalidDate (.notInYear year)), .none⟩ := by
            simp [Pending.step, Pending.take, inYear]
          exact Held.annual.passes_fault missed
        | some date =>
          obtain ⟨same, rfl, rfl⟩ := Date.ofNumbers?_eq_some_iff.mp inYear
          have step : (Pending.annual date.month date.day).step (.ok (.year year)) =
              ⟨[.date (.exact date)], .none, .none⟩ := by
            simp [Pending.step, Pending.take, inYear]
          have made : MakeUp [(previous, .date (.annual date.month date.day)),
              (previous + 1, .year year)]
              ((Pending.annual date.month date.day).step (.ok (.year year))).rules := by
            rw [step]
            exact .singleton (.dated same)
          refine ⟨_, [], made, ?_, ?_⟩
          · rw [step]
            exact Held.none (previous + 1 + 1)
          · simp [Pending.accepted, step, itemsAt, Segment.items]

end Step

/-- The items of the segments from a position on that are not reported. -/
def Pending.acceptedFrom (pending : Pending) (index : Nat) : List Finding → List PlacedItem
  | [] => []
  | found :: rest =>
    pending.accepted index found ++ (pending.step found).pending.acceptedFrom (index + 1) rest

/-- All segments from a position on: the items held back before them and their own make up their
rules. -/
theorem Held.rules {index : Nat} {pending : Pending} {items : List PlacedItem}
    (held : Held index pending items) (said : List Finding) :
    MakeUp (items ++ pending.acceptedFrom index said) (pending.rules said) := by
  induction said generalizing index pending items with
  | nil => simpa [Pending.acceptedFrom] using held.flush
  | cons found rest hypothesis =>
    obtain ⟨taken, later, made, behind, same⟩ := held.passes found
    have further := made.append (hypothesis behind)
    rw [← List.append_assoc, same, List.append_assoc] at further
    rw [Pending.rules_cons]
    exact further

/-! ## Reports -/

/-- Why a segment can be reported: its own fault, a time range without days, or a year that
completes no date. -/
inductive Reported : Finding → SegmentFault → Prop where
  /-- The segment cannot be read. -/
  | unreadable (fault : SegmentFault) : Reported (.error fault) fault
  /-- A time range names no day, and none is held back. -/
  | noDays (hours : HourWindow) : Reported (.ok (.window [] hours)) .timeWithoutWeekday
  /-- A year does not follow a yearly date. -/
  | noDate (year : Nat) : Reported (.ok (.year year)) .unrecognized
  /-- A year does not have the date before it. -/
  | notInYear (year : Nat) : Reported (.ok (.year year)) (.invalidDate (.notInYear year))

/-- A fault that a segment meets is one of these. -/
theorem reported_of_step {pending : Pending} {found : Finding} {fault : SegmentFault}
    (met : (pending.step found).fault = some fault) : Reported found fault := by
  cases found with
  | error cause =>
    obtain rfl := Option.some.inj met
    exact .unreadable cause
  | ok segment =>
    cases segment with
    | weekdays more => cases pending <;> simp [Pending.step, Pending.take] at met
    | date rule => cases rule <;> simp [Pending.step, Pending.take] at met
    | window own hours =>
      simp only [Pending.step, Pending.take] at met
      split at met
      · rename_i bare
        obtain rfl := List.isEmpty_iff.mp bare
        split at met
        · obtain rfl := Option.some.inj met
          exact .noDays hours
        · simp at met
      · simp at met
    | year year =>
      cases pending with
      | days held =>
        obtain rfl := Option.some.inj met
        exact .noDate year
      | annual month day =>
        simp only [Pending.step, Pending.take] at met
        split at met
        · simp at met
        · obtain rfl := Option.some.inj met
          exact .notInYear year

/-- The errors of the segments from a position on are about these segments. -/
theorem le_index_of_mem_errors {index : Nat} {pending : Pending} {texts : List String}
    {error : SegmentError} (reported : error ∈ (readFrom index pending texts).errors) :
    index ≤ error.index := by
  obtain ⟨front, text, back, -, -, place, -⟩ := mem_readFrom_errors.mp reported
  omega

/-- The errors of the first segment, at most one, come before those of the others. -/
theorem readFrom_errors_cons (index : Nat) (pending : Pending) (text : String)
    (rest : List String) :
    (readFrom index pending (text :: rest)).errors =
      (((pending.step (finding text)).fault.map fun fault => ⟨index, text, fault⟩).toList ++
        (readFrom (index + 1) (pending.step (finding text)).pending rest).errors) := rfl

/-- The errors stand in the order of their segments, at most one for each. -/
theorem errors_increasing (index : Nat) (pending : Pending) (texts : List String) :
    (readFrom index pending texts).errors.Pairwise fun first second =>
      first.index < second.index := by
  induction texts generalizing index pending with
  | nil => exact .nil
  | cons text rest hypothesis =>
    rw [readFrom_errors_cons]
    cases (pending.step (finding text)).fault with
    | none => exact hypothesis (index + 1) _
    | some fault =>
      exact List.pairwise_cons.mpr
        ⟨fun later reported => le_index_of_mem_errors reported, hypothesis (index + 1) _⟩

/-- Among errors in increasing order one error is all that is reported at its position. -/
theorem filter_index_eq_singleton {errors : List SegmentError} {error : SegmentError}
    (increasing : errors.Pairwise fun first second => first.index < second.index)
    (member : error ∈ errors) : errors.filter (·.index == error.index) = [error] := by
  obtain ⟨front, back, rfl⟩ := List.append_of_mem member
  obtain ⟨-, behind, apart⟩ := List.pairwise_append.mp increasing
  have before : front.filter (·.index == error.index) = [] := by
    refine List.filter_eq_nil_iff.mpr fun other present => ?_
    have less := apart other present error List.mem_cons_self
    simp only [beq_iff_eq]
    omega
  have after : back.filter (·.index == error.index) = [] := by
    refine List.filter_eq_nil_iff.mpr fun other present => ?_
    have less := (List.pairwise_cons.mp behind).1 other present
    simp only [beq_iff_eq]
    omega
  simp [List.filter_append, before, after]

/-- Whether a segment is reported. -/
def Reading.reports (reading : Reading) (index : Nat) : Bool :=
  reading.errors.any (·.index == index)

/-- The items of the segments that are not reported, in order of writing. -/
def written (tag : String) : List PlacedItem :=
  ((findings tag).zipIdx.filter fun entry => !(read tag).reports entry.2).flatMap
    fun entry => itemsAt entry.2 entry.1

/-- The items of the segments that are not reported, told from the errors. -/
theorem unreported_eq_acceptedFrom (index : Nat) (pending : Pending) (texts : List String) :
    (((texts.map finding).zipIdx index).filter fun entry =>
        !(readFrom index pending texts).reports entry.2).flatMap
          (fun entry => itemsAt entry.2 entry.1) =
      pending.acceptedFrom index (texts.map finding) := by
  induction texts generalizing index pending with
  | nil => rfl
  | cons text rest hypothesis =>
    have others := hypothesis (index + 1) (pending.step (finding text)).pending
    -- No error about a later segment is about the first one, and the other way round.
    have first : (readFrom index pending (text :: rest)).reports index =
        (pending.step (finding text)).fault.isSome := by
      have later : (readFrom (index + 1) (pending.step (finding text)).pending rest).errors.any
          (·.index == index) = false := by
        refine List.any_eq_false.mpr fun error reported => ?_
        have least := le_index_of_mem_errors reported
        simp only [beq_iff_eq]
        omega
      rw [Reading.reports, readFrom_errors_cons, List.any_append, later]
      cases (pending.step (finding text)).fault <;> simp
    have same : ∀ entry ∈ (rest.map finding).zipIdx (index + 1),
        (readFrom index pending (text :: rest)).reports entry.2 =
          (readFrom (index + 1) (pending.step (finding text)).pending rest).reports entry.2 := by
      intro entry present
      have least := List.le_snd_of_mem_zipIdx present
      have apart : (index == entry.2) = false := by
        simp only [beq_eq_false_iff_ne]
        omega
      rw [Reading.reports, readFrom_errors_cons, List.any_append]
      cases (pending.step (finding text)).fault <;> simp [Reading.reports, apart]
    rw [List.map_cons, List.zipIdx_cons, List.filter_cons, first,
      List.filter_congr fun entry present => congrArg not (same entry present),
      Pending.acceptedFrom, ← others, Pending.accepted]
    cases (pending.step (finding text)).fault <;> simp

/-! ## Whole tags -/

/-- What is written in a tag and what is read from it agree: every segment that is not reported
goes into the rules in full, nothing else does, and the reports are the due ones. -/
structure Conserved (tag : String) : Prop where
  /-- The reports stand in the order of their segments, at most one for each. -/
  increasing : (read tag).errors.Pairwise fun first second => first.index < second.index
  /-- Each carries the text of its segment without blanks at the ends. -/
  text : ∀ error ∈ (read tag).errors, (segments tag)[error.index]? = some error.segment
  /-- A segment that cannot be read is reported once, with its fault. -/
  rejected : ∀ index fault, (findings tag)[index]? = some (.error fault) →
    ∃ text, (read tag).errors.filter (·.index == index) = [⟨index, text, fault⟩]
  /-- Beyond these only time ranges without days and years without a date are reported. -/
  reason : ∀ error ∈ (read tag).errors,
    ∃ found, (findings tag)[error.index]? = some found ∧ Reported found error.fault
  /-- The items of the other segments, in order, make up the rules. -/
  kept : MakeUp (written tag) (read tag).rules

/-- Nothing that is written in a tag is lost, and nothing is invented. -/
theorem read_conserves (tag : String) : Conserved tag where
  increasing := errors_increasing 0 Pending.none (segments tag)
  text := by
    intro error reported
    obtain ⟨front, text, back, shape, -, place, rfl⟩ := mem_readFrom_errors.mp reported
    simp [shape, place]
  rejected := by
    intro index fault unread
    rw [findings, List.getElem?_map, Option.map_eq_some_iff] at unread
    obtain ⟨text, place, unread⟩ := unread
    obtain ⟨inside, rfl⟩ := List.getElem?_eq_some_iff.mp place
    have member : ⟨index, (segments tag)[index], fault⟩ ∈ (read tag).errors := by
      refine mem_readFrom_errors.mpr ⟨(segments tag).take index, (segments tag)[index],
        (segments tag).drop (index + 1), ?_, ?_, ?_, rfl⟩
      · rw [List.getElem_cons_drop, List.take_append_drop]
      · rw [unread]
        rfl
      · rw [List.length_take, Nat.min_eq_left (Nat.le_of_lt inside), Nat.zero_add]
    exact ⟨_, filter_index_eq_singleton (errors_increasing 0 Pending.none (segments tag)) member⟩
  reason := by
    intro error reported
    obtain ⟨found, place, met⟩ := fault_of_mem_errors reported
    exact ⟨found, place, reported_of_step met⟩
  kept := by
    have made := (Held.none 0).rules (findings tag)
    rw [List.nil_append] at made
    rw [read_rules, written, findings, read, unreported_eq_acceptedFrom]
    exact made

/-- A day that goes into a window, a date that is completed, and a range with a wrong hour. -/
example : written "Friday, 9AM -> 5PM, Monday 25PM -> 5AM, May 1, 2026" =
    [(0, .day .friday), (1, .range [] ⟨9, 17⟩), (3, .date (.annual 5 1)), (4, .year 2026)] := by
  decide +kernel

end Schedule

end OffHours
