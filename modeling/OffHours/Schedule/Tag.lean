import OffHours.Log
import OffHours.Schedule.Segment
import OffHours.Text.Pieces
import OffHours.Text.Quoted

/-!
# Schedule tags

A tag is a list of segments between commas. Days of the week without a time range are held back
for the next time range that has no day of its own; a yearly date is held back for a year that
may follow it at once. `Pending` is what is held back, and `Pending.step` says what a segment
does to it and which rules are finished. A segment with a fault is reported and yields no rule.
-/

namespace OffHours.Schedule

/-- What is held back between two segments. -/
inductive Pending where
  /-- Days of the week that a time range may take. -/
  | days (days : List Weekday)
  /-- A yearly date that a year may complete. -/
  | annual (month day : Nat)
  deriving DecidableEq, Repr

namespace Pending

/-- Nothing is held back. -/
def none : Pending := days []

/-- The days of the week held back. -/
def heldDays : Pending → List Weekday
  | days held => held
  | annual _ _ => []

/-- The rules of what is held back when nothing completes it. -/
def flush : Pending → List Rule
  | days held => held.map Rule.weekday
  | annual month day => [.date (.annual month day)]

/-- What a segment finishes, why it is left out if it is, and what is held back after it. -/
structure Step where
  /-- The rules that are finished. -/
  rules : List Rule
  /-- Why the segment is left out. -/
  fault : Option SegmentFault
  /-- What is held back after the segment. -/
  pending : Pending
  deriving DecidableEq, Repr

/-- The effect of a readable segment. -/
def take (pending : Pending) (segment : Segment) : Step :=
  match segment, pending with
  | .weekdays more, days held => ⟨[], .none, days (held ++ more)⟩
  | .weekdays more, annual _ _ => ⟨pending.flush, .none, days more⟩
  | .window own hours, _ =>
    if own.isEmpty then
      if pending.heldDays.isEmpty then ⟨pending.flush, some .timeWithoutWeekday, none⟩
      else ⟨[.window (.ofList pending.heldDays) hours], .none, none⟩
    else ⟨pending.flush ++ [.window (.ofList own) hours], .none, none⟩
  | .date (.annual month day), _ => ⟨pending.flush, .none, annual month day⟩
  | .date (.exact date), _ => ⟨pending.flush ++ [.date (.exact date)], .none, none⟩
  | .year year, annual month day =>
    match Date.ofNumbers? year month day with
    | some date => ⟨[.date (.exact date)], .none, none⟩
    | .none => ⟨pending.flush, some (.invalidDate (.notInYear year)), none⟩
  | .year _, days held => ⟨[], some .unrecognized, days held⟩

/-- The effect of a segment, readable or not. -/
def step (pending : Pending) (segment : Except SegmentFault Segment) : Step :=
  match segment with
  | .ok segment => pending.take segment
  | .error fault => ⟨pending.flush, some fault, none⟩

end Pending

/-- A segment that was left out. -/
structure SegmentError where
  /-- Position of the segment in the tag, from zero. -/
  index : Nat
  /-- The segment without blanks at its ends. -/
  segment : String
  /-- Why it was left out. -/
  fault : SegmentFault
  deriving DecidableEq, Repr

/-- The text of the report about a segment that was left out. -/
def SegmentError.message (error : SegmentError) : String :=
  "segment " ++ toString error.index ++ " '" ++ error.segment ++ "': " ++ error.fault.message

/-- The rules of a tag, the segments that were left out, and the log of the reading. -/
structure Reading where
  /-- The rules in order of writing. -/
  rules : List Rule := []
  /-- The segments that were left out, in order of writing. -/
  errors : List SegmentError := []
  /-- What was reported while reading. -/
  log : Log := []
  deriving DecidableEq, Repr

namespace Reading

/-- Whether no segment yielded a rule. -/
def isUnusable (reading : Reading) : Bool := reading.rules.isEmpty

/-- One reading after another. -/
def append (first second : Reading) : Reading :=
  ⟨first.rules ++ second.rules, first.errors ++ second.errors, first.log ++ second.log⟩

end Reading

/-- The segments of a tag without blanks at their ends. -/
def segments (tag : String) : List String :=
  (Text.pieces ',' tag.toList).map fun piece => String.ofList (Text.trimChars piece)

/-- The report about the ignored tokens of a segment. -/
def ignoredLog (ignored : List Token) (segment : String) : Log :=
  if ignored.isEmpty then []
  else Log.warn ("Ignoring unrecognized tokens " ++
    Text.bracketed (ignored.map fun token => Text.quote token.text) ++
    " in schedule segment '" ++ segment ++ "'")

/-- The report that held days become rules of their own because a segment has a fault. -/
def keptLog (held : List Weekday) (segment : String) : Log :=
  if held.isEmpty then []
  else Log.debug ("Keeping weekdays " ++ Text.bracketed (held.map Weekday.shortName) ++
    " as whole-day rules ahead of malformed segment '" ++ segment ++ "'")

/-- The log of one segment, met with some days held back. -/
def segmentLog (pending : Pending) (segment : String)
    (found : Except SegmentFault (Segment × List Token)) : Log :=
  match found with
  | .ok (_, ignored) => ignoredLog ignored segment
  | .error _ => keptLog pending.heldDays segment

/-- The reading of the segments from a position on. -/
def readFrom (index : Nat) (pending : Pending) : List String → Reading
  | [] => { rules := pending.flush }
  | segment :: rest =>
    let found := Segment.ofText segment
    let step := pending.step (found.map Prod.fst)
    let here : Reading :=
      { rules := step.rules
        errors := (step.fault.map fun fault => ⟨index, segment, fault⟩).toList
        log := segmentLog pending segment found }
    here.append (readFrom (index + 1) step.pending rest)

/-- The reading of a tag. -/
def read (tag : String) : Reading := readFrom 0 .none (segments tag)

end OffHours.Schedule
