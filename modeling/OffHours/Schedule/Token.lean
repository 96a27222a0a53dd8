import OffHours.Calendar.Weekday
import OffHours.Schedule.Hour

/-!
# Tokens of a schedule segment

The words and marks of a segment with their meaning. Numbers are 32-bit words.
-/

namespace OffHours

/-- The mark between the numbers of a date. -/
inductive DateMark where
  | dash
  | slash
  deriving DecidableEq, Repr

/-- The character of the mark. -/
def DateMark.char : DateMark → Char
  | dash => '-'
  | slash => '/'

/-- A word or mark with its meaning. -/
inductive Token where
  /-- The name of a day of the week. -/
  | weekday (day : Weekday)
  /-- An hour with its half of the day attached. -/
  | hour (clock : ClockHour)
  /-- A plain or ordinal number. -/
  | number (value : UInt32)
  /-- A half of the day on its own. -/
  | meridiem (half : Meridiem)
  /-- A month by name, from 1. -/
  | month (month : Nat)
  /-- The arrow between two hours. -/
  | arrow
  /-- A mark between the numbers of a date. -/
  | mark (mark : DateMark)
  /-- Anything else. -/
  | word (text : String)
  deriving DecidableEq, Repr

namespace Token

/-- The token as shown in messages. -/
def text : Token → String
  | weekday day => day.name
  | hour clock => clock.text
  | number value => toString value.toNat
  | meridiem half => half.text
  | month position => "month " ++ toString position
  | arrow => "->"
  | mark sign => sign.char.toString
  | word letters => letters

end Token

end OffHours
