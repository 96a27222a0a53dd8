import OffHours.Proofs.Schedule.WrittenDates

/-!
# Readings in progress

`readFrom` holds a yearly date back until the next segment shows whether a year completes it. A
draft writes every rule at once, and keeps the place of a yearly date that a year may still
complete; a year then changes the rule at this place. Both come to one reading (`finish_drafted`),
since each draft that is reached is that of the rules that are finished and of what is held back
(`Draft.of`, `Draft.step_of`). So an open place is that of the last rule, the segment right before
has written it, and whatever comes later leaves the rules as they are: `years_complete_last`.
-/

namespace OffHours.Schedule

/-- Three readings one after the other. -/
theorem Reading.append_assoc (first second third : Reading) :
    (first.append second).append third = first.append (second.append third) := by
  simp [append]

/-- A reading after nothing. -/
theorem Reading.empty_append (reading : Reading) : ({} : Reading).append reading = reading := rfl

/-- A reading in progress, with every rule in it as soon as it is written. -/
structure Draft where
  /-- What is read so far. -/
  reading : Reading := {}
  /-- The days of the week held back. -/
  held : List Weekday := []
  /-- The place of a yearly date that a year may complete. -/
  place : Option Nat := none
  deriving DecidableEq, Repr

namespace Draft

/-! ## Segment by segment -/

/-- More rules are written. -/
def write (draft : Draft) (more : List Rule) : Draft :=
  { draft with reading := { draft.reading with rules := draft.reading.rules ++ more } }

/-- Another rule is written over the one at a place. -/
def overwrite (draft : Draft) (place : Nat) (rule : Rule) : Draft :=
  { draft with reading := { draft.reading with rules := draft.reading.rules.set place rule } }

/-- The days held back become rules of their own. -/
def flush (draft : Draft) : Draft :=
  { draft.write (draft.held.map Rule.weekday) with held := [] }

/-- A segment is left out. -/
def report (draft : Draft) (error : SegmentError) : Draft :=
  { draft with reading := { draft.reading with errors := draft.reading.errors ++ [error] } }

/-- A segment is met with its log. The place that was open is so no more. -/
def meet (draft : Draft) (log : Log) : Draft :=
  { reading := { draft.reading with log := draft.reading.log ++ log }, held := draft.held }

/-- A year completes the yearly date at the place that was open, if there is one. -/
def complete (draft : Draft) (place : Option Nat) (index : Nat) (text : String) (year : Nat) :
    Draft :=
  match place.bind fun place => draft.reading.rules[place]?.map (place, ·) with
  | some (place, .date (.annual month day)) =>
    match Date.ofNumbers? year month day with
    | some date => draft.overwrite place (.date (.exact date))
    | none => draft.report ⟨index, text, .invalidDate (.notInYear year)⟩
  | _ => draft.report ⟨index, text, .unrecognized⟩

/-- A readable segment is taken in, behind a place that was open. -/
def take (draft : Draft) (place : Option Nat) (index : Nat) (text : String) : Segment → Draft
  | .weekdays days => { draft with held := draft.held ++ days }
  | .window own hours =>
    if own.isEmpty then
      if draft.held.isEmpty then draft.report ⟨index, text, .timeWithoutWeekday⟩
      else { draft.write [.window (.ofList draft.held) hours] with held := [] }
    else draft.flush.write [.window (.ofList own) hours]
  | .date (.annual month day) =>
    let written := draft.flush.write [.date (.annual month day)]
    { written with place := some (written.reading.rules.length - 1) }
  | .date (.exact date) => draft.flush.write [.date (.exact date)]
  | .year year => draft.complete place index text year

/-- The log of one segment, met with some days held back. -/
def logOf (held : List Weekday) (text : String)
    (found : Except SegmentFault (Segment × List Token)) : Log :=
  match found with
  | .ok (_, ignored) => ignoredLog ignored text
  | .error _ => keptLog held text

/-- The draft after one more segment. -/
def step (draft : Draft) (index : Nat) (text : String) : Draft :=
  let found := Segment.ofText text
  let met := draft.meet (logOf draft.held text found)
  match found with
  | .ok (segment, _) => met.take draft.place index text segment
  | .error fault => met.flush.report ⟨index, text, fault⟩

/-- The draft after the segments from a position on. -/
def after (draft : Draft) (index : Nat) : List String → Draft
  | [] => draft
  | text :: rest => (draft.step index text).after (index + 1) rest

/-- The reading when nothing comes any more. -/
def finish (draft : Draft) : Reading := draft.flush.reading

end Draft

/-- The draft after the first segments of a tag. -/
def drafted (texts : List String) : Draft := ({} : Draft).after 0 texts

/-! ## What is held back -/

/-- The rules of a draft that are held back: a yearly date. -/
def Pending.written : Pending → List Rule
  | days _ => []
  | annual month day => [.date (.annual month day)]

/-- What is written and held back is among the rules of what is held back. -/
theorem Pending.length_written_le (pending : Pending) :
    pending.written.length ≤ pending.flush.length := by
  cases pending <;> simp [written, flush]

/-- A segment leaves what is written as it is, unless it is a year that the yearly date has. -/
theorem Pending.written_step (pending : Pending) (found : Finding) :
    pending.written <+: (pending.step found).rules ∨
      ∃ month day year date, pending = annual month day ∧ found = .ok (.year year) ∧
        Date.ofNumbers? year month day = some date ∧
        (pending.step found).rules = [.date (.exact date)] := by
  cases pending with
  | days held => exact Or.inl List.nil_prefix
  | annual month day =>
    -- Whatever does not complete the date finishes it first.
    have first (more : List Rule) :
        (annual month day).written <+: (annual month day).flush ++ more := List.prefix_append _ _
    have alone := first []
    rw [List.append_nil] at alone
    cases found with
    | error fault => exact Or.inl alone
    | ok segment =>
      cases segment with
      | weekdays more => exact Or.inl alone
      | window own hours =>
        left
        by_cases named : own = []
        · simpa [step, take, named, heldDays] using alone
        · simpa [step, take, named] using first [.window (.ofList own) hours]
      | date rule =>
        cases rule with
        | annual later further => exact Or.inl alone
        | exact date => exact Or.inl (first [.date (.exact date)])
      | year year =>
        cases inYear : Date.ofNumbers? year month day with
        | none =>
          left
          simpa [step, take, inYear] using alone
        | some date =>
          exact Or.inr ⟨month, day, year, date, rfl, rfl, inYear, by simp [step, take, inYear]⟩

namespace Draft

/-- The draft of what is finished and of what is held back behind it. -/
def of (done : Reading) : Pending → Draft
  | .days held => { reading := done, held }
  | .annual month day =>
    { reading := { done with rules := done.rules ++ [.date (.annual month day)] }
      place := some done.rules.length }

section Of

variable (done : Reading) (pending : Pending)

/-- The days held back. -/
theorem held_of : (of done pending).held = pending.heldDays := by
  cases pending <;> rfl

/-- The rules that are written. -/
theorem rules_of : (of done pending).reading.rules = done.rules ++ pending.written := by
  cases pending <;> simp [of, Pending.written]

/-- A place is open behind a yearly date. -/
theorem place_of {place : Nat} :
    (of done pending).place = some place ↔
      place = done.rules.length ∧ ∃ month day, pending = .annual month day := by
  cases pending <;> simp [of, eq_comm]

/-- When nothing comes any more, what is held back yields its rules. -/
theorem finish_of : (of done pending).finish = done.append { rules := pending.flush } := by
  cases pending <;> simp [of, finish, flush, write, Reading.append, Pending.flush]

/-- When the days held back have become rules, nothing is held back. -/
theorem flush_meet_of (log : Log) :
    ((of done pending).meet log).flush =
      of (done.append { rules := pending.flush, log }) .none := by
  cases pending <;> simp [of, meet, flush, write, Reading.append, Pending.flush, Pending.none]

/-- With nothing held back, rules that are written are finished. -/
theorem write_of_none (more : List Rule) :
    (of done .none).write more = of (done.append { rules := more }) .none := by
  simp [of, write, Reading.append, Pending.none]

/-- With nothing held back, a segment is left out. -/
theorem report_of_none (error : SegmentError) :
    (of done .none).report error = of (done.append { errors := [error] }) .none := by
  simp [of, report, Reading.append, Pending.none]

/-- With nothing held back, a yearly date that is written may be completed at its place. -/
theorem open_of_none (month day : Nat) :
    { (of done .none).write [.date (.annual month day)] with
      place :=
        some (((of done .none).write [.date (.annual month day)]).reading.rules.length - 1) } =
      of done (.annual month day) := by
  simp [of, write, Pending.none]

/-- The reading of one segment at a position. -/
def readingOf (index : Nat) (text : String) (log : Log) (step : Pending.Step) : Reading :=
  { rules := step.rules
    errors := (step.fault.map fun fault => ⟨index, text, fault⟩).toList
    log }

/-- A readable segment goes into the draft as into what is held back. -/
theorem take_of (index : Nat) (text : String) (log : Log) (segment : Segment) :
    ((of done pending).meet log).take (of done pending).place index text segment =
      of (done.append (readingOf index text log (pending.take segment)))
        (pending.take segment).pending := by
  cases segment with
  | weekdays more =>
    cases pending <;>
      simp [of, meet, take, readingOf, Reading.append, Pending.take, Pending.flush]
  | window own hours =>
    by_cases named : own = []
    · cases pending with
      | days held =>
        by_cases free : held = [] <;>
          simp [of, meet, take, write, report, readingOf, Reading.append, Pending.take,
            Pending.flush, Pending.heldDays, Pending.none, named, free]
      | annual month day =>
        simp [of, meet, take, report, readingOf, Reading.append, Pending.take, Pending.flush,
          Pending.heldDays, Pending.none, named]
    · simp [take, flush_meet_of, write_of_none, readingOf, Reading.append, Pending.take, named]
  | date rule =>
    cases rule with
    | exact date =>
      simp [take, flush_meet_of, write_of_none, readingOf, Reading.append, Pending.take]
    | annual month day =>
      simp only [take, flush_meet_of, open_of_none]
      rfl
  | year year =>
    cases pending with
    | days held =>
      simp [of, meet, take, complete, report, readingOf, Reading.append, Pending.take]
    | annual month day =>
      cases inYear : Date.ofNumbers? year month day <;>
        simp [of, meet, take, complete, report, overwrite, readingOf, Reading.append,
          Pending.take, Pending.flush, Pending.none, inYear]

/-- A segment goes into the draft as into what is held back. -/
theorem step_of (index : Nat) (text : String) :
    (of done pending).step index text =
      of (done.append (readingOf index text (segmentLog pending text (Segment.ofText text))
        (pending.step (finding text)))) (pending.step (finding text)).pending := by
  unfold step finding
  cases Segment.ofText text with
  | error fault =>
    simp only [flush_meet_of, report_of_none, held_of]
    simp [logOf, segmentLog, readingOf, Reading.append, Except.map, Pending.step]
  | ok read =>
    simp only [take_of, held_of]
    rfl

end Of

/-- Some segments go into the draft as into what is held back. -/
theorem after_of (done : Reading) (pending : Pending) (index : Nat) (texts : List String) :
    ∃ read : Reading, read.rules = pending.finished (texts.map finding) ∧
      (of done pending).after index texts =
        of (done.append read) (pending.after (texts.map finding)) := by
  induction texts generalizing done pending index with
  | nil => exact ⟨{}, rfl, by simp [after, Reading.append]⟩
  | cons text rest hypothesis =>
    let here := readingOf index text (segmentLog pending text (Segment.ofText text))
      (pending.step (finding text))
    obtain ⟨read, rules, same⟩ :=
      hypothesis (done.append here) (pending.step (finding text)).pending (index + 1)
    refine ⟨here.append read, ?_, ?_⟩
    · simp [here, Reading.append, readingOf, rules]
    · rw [after, step_of, same, Reading.append_assoc]
      rfl

/-- Segments that go into a draft to the end are read. -/
theorem finish_after_of (done : Reading) (pending : Pending) (index : Nat)
    (texts : List String) :
    ((of done pending).after index texts).finish = done.append (readFrom index pending texts) := by
  induction texts generalizing done pending index with
  | nil => rw [after, finish_of, readFrom]
  | cons text rest hypothesis =>
    rw [after, step_of, hypothesis, Reading.append_assoc]
    rfl

end Draft

/-! ## Drafts of tags -/

/-- The draft after some segments is that of what they finish and what is held back then. -/
theorem drafted_eq (texts : List String) :
    ∃ read : Reading, read.rules = Pending.none.finished (texts.map finding) ∧
      drafted texts = Draft.of read (Pending.none.after (texts.map finding)) := by
  obtain ⟨read, rules, same⟩ := Draft.after_of {} .none 0 texts
  rw [Reading.empty_append] at same
  exact ⟨read, rules, same⟩

/-- A draft of a whole tag comes to the reading of the tag. -/
theorem finish_drafted (tag : String) : (drafted (segments tag)).finish = read tag := by
  have same := Draft.finish_after_of {} .none 0 (segments tag)
  rw [Reading.empty_append] at same
  exact same

/-- The rules that are written after some segments. -/
theorem rules_drafted (texts : List String) :
    (drafted texts).reading.rules =
      Pending.none.finished (texts.map finding) ++
        (Pending.none.after (texts.map finding)).written := by
  obtain ⟨read, rules, same⟩ := drafted_eq texts
  rw [same, Draft.rules_of, rules]

/-- A place is open right behind a yearly date, and it is the one behind the finished rules. -/
theorem place_drafted_iff {texts : List String} {place : Nat} :
    (drafted texts).place = some place ↔
      place = (Pending.none.finished (texts.map finding)).length ∧
        ∃ month day, Pending.none.after (texts.map finding) = .annual month day := by
  obtain ⟨read, rules, same⟩ := drafted_eq texts
  rw [same, Draft.place_of, rules]

/-- What is written is held back or finished behind a yearly date. -/
theorem length_drafted_le {front : List String} {text : String} {month day : Nat}
    (said : finding text = .ok (.date (.annual month day))) :
    (drafted front).reading.rules.length ≤
      (Pending.none.finished ((front ++ [text]).map finding)).length := by
  have shorter := (Pending.none.after (front.map finding)).length_written_le
  have finished : ((Pending.none.after (front.map finding)).step (finding text)).rules =
      (Pending.none.after (front.map finding)).flush := by
    rw [said]
    rfl
  simp only [rules_drafted, List.map_append, List.map_cons, List.map_nil,
    Pending.finished_append, Pending.finished_cons, Pending.finished_nil, finished,
    List.length_append, List.length_nil]
  omega

/-- What an open place is after some segments. -/
structure Opened (texts : List String) (place : Nat) : Prop where
  /-- The last rule stands there. -/
  last : place + 1 = (drafted texts).reading.rules.length
  /-- No day of the week is held back. -/
  free : (drafted texts).held = []
  /-- The last segment is a yearly date; it was not there before that segment, and is the rule at
  the place after it. -/
  written : ∃ front text month day, texts = front ++ [text] ∧
    finding text = .ok (.date (.annual month day)) ∧
    (drafted front).reading.rules.length ≤ place ∧
    (drafted texts).reading.rules[place]? = some (.date (.annual month day))

/-- Every open place is one. -/
theorem opened_of_place {texts : List String} {place : Nat}
    (opened : (drafted texts).place = some place) : Opened texts place := by
  obtain ⟨rfl, month, day, held⟩ := place_drafted_iff.mp opened
  have rules := rules_drafted texts
  rw [held] at rules
  obtain ⟨read, -, same⟩ := drafted_eq texts
  obtain ⟨text, last, said⟩ : ∃ text, texts.getLast? = some text ∧
      finding text = .ok (.date (.annual month day)) := by
    have last := after_eq_annual_iff.mp held
    rwa [List.getLast?_map, Option.map_eq_some_iff] at last
  obtain ⟨front, rfl⟩ := List.getLast?_eq_some_iff.mp last
  refine ⟨?_, ?_, front, text, month, day, rfl, said, length_drafted_le said, ?_⟩
  · simp [rules, Pending.written]
  · rw [same, Draft.held_of, held]
    rfl
  · simp [rules, Pending.written]

/-- The rules of a draft as the next segment leaves them. -/
inductive Leaves (draft : Draft) (text : String) : List Rule → Prop where
  /-- They stay as they are. -/
  | same : Leaves draft text draft.reading.rules
  /-- The segment is a year, and the yearly date at the open place, the last of the rules, becomes
  the exact date in that year. -/
  | completed {front : List Rule} {date : Date} {year : Nat}
      (opened : draft.place = some front.length)
      (last : draft.reading.rules = front ++ [.date (.annual date.month date.day)])
      (said : finding text = .ok (.year year)) (inYear : date.year = year) :
      Leaves draft text (front ++ [.date (.exact date)])

/-- What was written before a segment stands, as that segment leaves it, in front of all rules that
come from it on. -/
theorem exists_leaves (front : List String) (text : String) (more : List Rule) :
    ∃ left, Leaves (drafted front) text left ∧
      left <+: Pending.none.finished (front.map finding) ++
        (((Pending.none.after (front.map finding)).step (finding text)).rules ++ more) := by
  rcases (Pending.none.after (front.map finding)).written_step (finding text) with
    kept | ⟨month, day, year, date, held, said, inYear, rules⟩
  · refine ⟨_, .same, ?_⟩
    rw [rules_drafted]
    exact (List.prefix_append_right_inj _).mpr (kept.trans (List.prefix_append _ _))
  · obtain ⟨same, rfl, rfl⟩ := Date.ofNumbers?_eq_some_iff.mp inYear
    refine ⟨_, .completed (place_drafted_iff.mpr ⟨rfl, _, _, held⟩) ?_ said same, ?_⟩
    · rw [rules_drafted, held]
      rfl
    · rw [rules]
      exact (List.prefix_append_right_inj _).mpr (List.prefix_append _ _)

/-- A year completes the date right before it and nothing else: while a tag is read, an open place
is that of the last rule, a yearly date that the segment right before has written, and every segment
leaves the rules before it as they are, or it is a year that completes the one at the open place. -/
structure YearsCompleteLast (tag : String) : Prop where
  /-- Drafts lead to the reading of the tag. -/
  finished : (drafted (segments tag)).finish = read tag
  /-- Wherever the reading stands, an open place is that of the last rule. -/
  opened : ∀ front back place, segments tag = front ++ back →
    (drafted front).place = some place → Opened front place
  /-- What is written before a segment stays as the segment leaves it, however many come after. -/
  kept : ∀ front text more back, segments tag = front ++ text :: more ++ back →
    ∃ left, Leaves (drafted front) text left ∧
      left <+: (drafted (front ++ text :: more)).reading.rules
  /-- And so it does to the end of the tag. -/
  read : ∀ front text back, segments tag = front ++ text :: back →
    ∃ left, Leaves (drafted front) text left ∧ left <+: (read tag).rules

/-- Years complete the last rule in every tag. -/
theorem years_complete_last (tag : String) : YearsCompleteLast tag where
  finished := finish_drafted tag
  opened _ _ _ _ := opened_of_place
  kept front text more back _ := by
    have rules := rules_drafted (front ++ text :: more)
    rw [List.map_append, List.map_cons, Pending.finished_append, Pending.finished_cons,
      List.append_assoc, List.append_assoc] at rules
    rw [rules]
    exact exists_leaves front text _
  read front text back shape := by
    have rules := read_rules tag
    rw [findings, shape, List.map_append, List.map_cons, Pending.rules_append,
      Pending.rules_cons] at rules
    rw [rules]
    exact exists_leaves front text _

/-- The day before the date stays, and the year changes the date behind it. -/
example : (drafted ["Friday", "May 1"]).place = some 1 ∧
    (drafted ["Friday", "May 1", "2026"]).reading.rules =
      [.weekday .friday, .date (.exact ⟨2026, 5, 1, by decide⟩)] := by
  decide +kernel

end OffHours.Schedule
