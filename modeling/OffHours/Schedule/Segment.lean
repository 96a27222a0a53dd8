import OffHours.Schedule.Lexer
import OffHours.Schedule.Rule

/-!
# Segments

What one segment of a schedule tag says, read from its tokens:

```text
segment := date | year | item*
item    := WEEKDAY | range | ignored
range   := hour ARROW hour
hour    := HOUR | NUMBER MERIDIEM
date    := MONTH NUMBER [NUMBER]
         | NUMBER MONTH [NUMBER]
         | NUMBER '-' NUMBER '-' NUMBER      year, month and day
         | NUMBER '/' NUMBER ['/' NUMBER]    month, day and year
year    := NUMBER                            of four digits
```

Tokens without a meaning in their place are ignored and kept for a report.
-/

namespace OffHours

/-- The numbers of a written date. -/
structure DateLiteral where
  /-- Month from 1. -/
  month : Nat
  /-- Day of the month from 1. -/
  day : Nat
  /-- The year, when one is written. -/
  year : Option UInt32
  deriving DecidableEq, Repr

namespace DateLiteral

/-- The date that the tokens of a whole segment write. A year in front of or after marks has at
least four digits. -/
def ofTokens? : List Token → Option DateLiteral
  | [.month month, .number day] => some ⟨month, day.toNat, none⟩
  | [.number day, .month month] => some ⟨month, day.toNat, none⟩
  | [.month month, .number day, .number year] => some ⟨month, day.toNat, some year⟩
  | [.number day, .month month, .number year] => some ⟨month, day.toNat, some year⟩
  | [.number year, .mark .dash, .number month, .mark .dash, .number day] =>
    if 1000 ≤ year then some ⟨month.toNat, day.toNat, some year⟩ else none
  | [.number month, .mark .slash, .number day] => some ⟨month.toNat, day.toNat, none⟩
  | [.number month, .mark .slash, .number day, .mark .slash, .number year] =>
    if 1000 ≤ year then some ⟨month.toNat, day.toNat, some year⟩ else none
  | _ => none

/-- A leap year, so that February 29 is a yearly date. -/
def sampleYear : Int := 2000

/-- The rule of a written date. A year is a signed word of 32 bits, so the words from 2^31 on
stand for negative years. -/
def rule (literal : DateLiteral) : Except SegmentFault DateRule :=
  match literal.year with
  | some year =>
    match Date.ofNumbers? year.toInt32.toInt literal.month literal.day with
    | some date => .ok (.exact date)
    | none => .error (.invalidDate (.noSuchDate year.toNat literal.month literal.day))
  | none =>
    if isDate sampleYear literal.month literal.day then .ok (.annual literal.month literal.day)
    else .error (.invalidDate (.noSuchDay literal.month literal.day))

end DateLiteral

/-- An hour at the front of the tokens, and the tokens after it. -/
def ClockHour.ofTokens : List Token → Except SegmentFault (ClockHour × List Token)
  | .hour clock :: rest => .ok (clock, rest)
  | .number hour :: .meridiem half :: rest =>
    match ClockHour.ofTwelve? hour.toNat half with
    | some clock => .ok (clock, rest)
    | none => .error (.invalidHour (toString hour.toNat))
  | .number hour :: _ => .error (.malformedTimeRange (.noMeridiem hour))
  | token :: _ => .error (.malformedTimeRange (.notAnHour token))
  | [] => .error (.malformedTimeRange .hourExpected)

/-- Tokens are used up by reading an hour. -/
theorem ClockHour.length_ofTokens {tokens rest : List Token} {clock : ClockHour}
    (read : ClockHour.ofTokens tokens = .ok (clock, rest)) : rest.length < tokens.length := by
  unfold ClockHour.ofTokens at read
  split at read
  · cases read; simp
  · split at read
    · cases read
      simp only [List.length_cons]
      omega
    · contradiction
  all_goals contradiction

/-- A time range at the front of the tokens, and the tokens after it. -/
def HourWindow.ofTokens (tokens : List Token) : Except SegmentFault (HourWindow × List Token) :=
  match ClockHour.ofTokens tokens with
  | .error fault => .error fault
  | .ok (first, .arrow :: []) => .error (.malformedTimeRange (.noLastHour first))
  | .ok (first, .arrow :: rest) =>
    match ClockHour.ofTokens rest with
    | .error fault => .error fault
    | .ok (last, rest) => .ok (.ofClock first last, rest)
  | .ok (first, _) => .error (.malformedTimeRange (.noArrow first))

/-- Tokens are used up by reading a time range. -/
theorem HourWindow.length_ofTokens {tokens rest : List Token} {hours : HourWindow}
    (read : HourWindow.ofTokens tokens = .ok (hours, rest)) : rest.length < tokens.length := by
  unfold HourWindow.ofTokens at read
  split at read
  · contradiction
  · contradiction
  · rename_i first later _ opened
    have shorter := ClockHour.length_ofTokens opened
    split at read
    · contradiction
    · rename_i last remaining closed
      cases read
      have shorter' := ClockHour.length_ofTokens closed
      simp only [List.length_cons] at shorter
      omega
  · contradiction

/-- Whether an hour begins at the front of the tokens. -/
def ClockHour.startsAt : List Token → Bool
  | .hour _ :: _ => true
  | .number _ :: .meridiem _ :: _ => true
  | _ => false

/-- The items of a segment that writes no date. -/
structure SegmentItems where
  /-- The days of the week in order of writing. -/
  days : List Weekday := []
  /-- The time ranges in order of writing. -/
  windows : List HourWindow := []
  /-- The tokens without a meaning in their place. -/
  ignored : List Token := []
  deriving DecidableEq, Repr

namespace SegmentItems

/-- The items with one more day in front. -/
def addDay (day : Weekday) (items : SegmentItems) : SegmentItems :=
  { items with days := day :: items.days }

/-- The items with one more time range in front. -/
def addWindow (hours : HourWindow) (items : SegmentItems) : SegmentItems :=
  { items with windows := hours :: items.windows }

/-- The items with one more ignored token in front. -/
def addIgnored (token : Token) (items : SegmentItems) : SegmentItems :=
  { items with ignored := token :: items.ignored }

/-- The items of a list of tokens, or the first fault met from the left. -/
def ofTokens : List Token → Except SegmentFault SegmentItems
  | [] => .ok {}
  | token :: rest =>
    if ClockHour.startsAt (token :: rest) then
      match _read : HourWindow.ofTokens (token :: rest) with
      | .error fault => .error fault
      | .ok (hours, later) => (ofTokens later).map (addWindow hours)
    else
      match token with
      | .weekday day => (ofTokens rest).map (addDay day)
      | .arrow => .error (.malformedTimeRange .noFirstHour)
      | token => (ofTokens rest).map (addIgnored token)
termination_by tokens => tokens.length
decreasing_by
  · exact HourWindow.length_ofTokens _read
  all_goals simp

/-- The items behind a time range are read from the tokens that it leaves. -/
theorem ofTokens_of_startsAt {tokens : List Token} (starts : ClockHour.startsAt tokens = true) :
    ofTokens tokens = (HourWindow.ofTokens tokens).bind fun (hours, later) =>
      (ofTokens later).map (addWindow hours) := by
  cases tokens with
  | nil => cases starts
  | cons token rest =>
    rw [ofTokens.eq_def]
    dsimp only
    rw [if_pos starts]
    split
    · rename_i fault read
      rw [read]
      rfl
    · rename_i hours later read
      rw [read]
      rfl

end SegmentItems

/-- What one segment says. -/
inductive Segment where
  /-- Days of the week without a time range. -/
  | weekdays (days : List Weekday)
  /-- A time range with the days of the week that stand beside it, if any. -/
  | window (days : List Weekday) (hours : HourWindow)
  /-- A date. -/
  | date (rule : DateRule)
  /-- A year, which completes the date before it. -/
  | year (year : Nat)
  deriving DecidableEq, Repr

namespace Segment

/-- What the items of a segment say together. -/
def ofItems (items : SegmentItems) : Except SegmentFault Segment :=
  match items.windows with
  | [] => if items.days.isEmpty then .error .unrecognized else .ok (.weekdays items.days)
  | [hours] => .ok (.window items.days hours)
  | _ => .error .multipleTimeRanges

/-- The year that a single number of four digits writes. -/
def yearOfTokens? : List Token → Option Nat
  | [.number value] => if 1000 ≤ value ∧ value ≤ 9999 then some value.toNat else none
  | _ => none

/-- What the tokens of a segment say, and the tokens that were ignored. -/
def ofTokens (tokens : List Token) : Except SegmentFault (Segment × List Token) :=
  if tokens.isEmpty then .error .empty
  else
    match DateLiteral.ofTokens? tokens with
    | some literal => literal.rule.map fun rule => (.date rule, [])
    | none =>
      match yearOfTokens? tokens with
      | some written => .ok (.year written, [])
      | none => do
        let items ← SegmentItems.ofTokens tokens
        let segment ← ofItems items
        return (segment, items.ignored)

/-- What a segment says, and the tokens that were ignored. -/
def ofText (segment : String) : Except SegmentFault (Segment × List Token) := do
  ofTokens (← Token.ofText segment)

end Segment

end OffHours
