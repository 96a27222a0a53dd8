/-!
# Data values

The values that configuration files and answers of servers are made of.
-/

namespace OffHours

/-- A value of structured data. -/
inductive Value where
  /-- No value. -/
  | null
  /-- A truth value. -/
  | boolean (truth : Bool)
  /-- A whole number. -/
  | integer (number : Int)
  /-- A number with a fraction or an exponent, or one that is not finite, as written. -/
  | real (written : String)
  /-- A text. -/
  | text (content : String)
  /-- A date or a time, as written. -/
  | moment (written : String)
  /-- Values in order. -/
  | list (items : List Value)
  /-- Values under names, in order of writing. -/
  | table (entries : List (String × Value))
  /-- A value that is well written and stands for nothing: a text with half a character, a number
  that is too great, a table with such a name. No reader takes it. -/
  | unreadable
  deriving Repr, Inhabited

end OffHours
