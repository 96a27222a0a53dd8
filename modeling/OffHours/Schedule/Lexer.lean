import OffHours.Schedule.Fault
import OffHours.Text.Alphanumeric

/-!
# Reading tokens

A segment is cut into words, the longest runs of letters and digits, and single marks; blanks
separate and are dropped. A word that looks like an hour but is none is the only fault.
-/

namespace OffHours.Token

/-- The names of the months in small letters, January first. -/
def monthNames : List String :=
  ["january", "february", "march", "april", "may", "june", "july", "august", "september",
    "october", "november", "december"]

/-- The month with this name in any case: in full, by its first three letters, or Sept. -/
def monthOfName? (letters : List Char) : Option Nat :=
  let small := letters.map Char.toLower
  if small = "sept".toList then some 9
  else (monthNames.findIdx? fun name =>
    name.toList == small || (small.length == 3 && small.isPrefixOf name.toList)).map (· + 1)

/-- Whether the letters after a number make it an ordinal, in any case. -/
def isOrdinalEnding (letters : List Char) : Bool :=
  ["st", "nd", "rd", "th"].any fun ending => ending.toList == letters.map Char.toLower

/-- The token of a word that does not begin with a digit. -/
def ofName (word : List Char) : Token :=
  match Weekday.ofName? (String.ofList word) with
  | some day => weekday day
  | none =>
    match Meridiem.ofLetters? word with
    | some half => meridiem half
    | none =>
      match monthOfName? word with
      | some found => month found
      | none => .word (String.ofList word)

/-- The hour of an hour word: one or two digits and a half of the day. -/
def hourOfDigits? (digits : List Char) (half : Meridiem) : Option ClockHour :=
  if digits.length ≤ 2 then ClockHour.ofTwelve? (Text.digitsValue digits) half else none

/-- The token of a word that begins with digits. A number too large for a word of 32 bits has
no meaning. -/
def ofDigits (digits suffix : List Char) : Except SegmentFault Token :=
  let plain := Token.word (String.ofList (digits ++ suffix))
  let value := ((Text.readWord digits).map number).getD plain
  if suffix.isEmpty then .ok value
  else
    match Meridiem.ofLetters? suffix with
    | some half =>
      match hourOfDigits? digits half with
      | some clock => .ok (hour clock)
      | none => .error (.invalidHour (String.ofList (digits ++ suffix)))
    | none => .ok (if isOrdinalEnding suffix then value else plain)

/-- The token of a run of letters and digits. -/
def ofWord (word : List Char) : Except SegmentFault Token :=
  let digits := word.takeWhile Char.isDigit
  if digits.isEmpty then .ok (ofName word) else ofDigits digits (word.dropWhile Char.isDigit)

/-- Put a token in front of the tokens read from the rest. -/
def cons (token : Token) (rest : Except SegmentFault (List Token)) :
    Except SegmentFault (List Token) :=
  rest.map (token :: ·)

/-- The tokens of a list of characters, or the fault of the first word that has one. -/
def scan : List Char → Except SegmentFault (List Token)
  | [] => .ok []
  | '-' :: '>' :: rest => cons arrow (scan rest)
  | '-' :: rest => cons (mark .dash) (scan rest)
  | '>' :: rest => cons arrow (scan rest)
  | '/' :: rest => cons (mark .slash) (scan rest)
  | c :: rest =>
    if Text.isBlank c then scan rest
    else if Text.isAlphanumeric c then
      match ofWord (c :: rest.takeWhile Text.isAlphanumeric) with
      | .ok token => cons token (scan (rest.dropWhile Text.isAlphanumeric))
      | .error fault => .error fault
    else cons (word c.toString) (scan rest)
termination_by chars => chars.length
decreasing_by
  all_goals simp only [List.length_cons]
  all_goals first
    | omega
    | exact Nat.lt_succ_of_le (List.dropWhile_sublist _).length_le

/-- Nothing has no token. -/
theorem scan_nil : scan [] = .ok [] := by
  rw [scan]

/-- The tokens of a segment. -/
def ofText (segment : String) : Except SegmentFault (List Token) := scan segment.toList

end OffHours.Token
