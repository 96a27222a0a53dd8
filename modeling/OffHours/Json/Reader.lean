import OffHours.Data.Decimal
import OffHours.Data.Value
import OffHours.Text.Hexadecimal

/-!
# Reading JSON

The value that a JSON text stands for. Nothing may follow the value, texts may not hold control
characters, and a code point outside the basic plane is written as a pair of surrogates. A
whole number that 64 bits cannot hold counts as a number with a fraction. What is well written but
stands for nothing, as half a pair of surrogates does, is unreadable where it stands: that matters
to those who read the value, and to nobody who passes over it.
-/

namespace OffHours.Json

/-- A token of JSON. -/
inductive Token where
  /-- A text; it has no content when a surrogate in it stands alone. -/
  | text (content : Option String)
  /-- A mark of punctuation. -/
  | mark (symbol : Char)
  /-- A number, a truth value or null. -/
  | word (letters : List Char)
  deriving DecidableEq, Repr

/-! ## Texts -/

/-- The characters that an escape by one letter stands for. -/
def letters : List (Char × Char) :=
  [('"', '"'), ('\\', '\\'), ('/', '/'), ('b', '\x08'), ('f', '\x0c'), ('n', '\n'), ('r', '\r'),
    ('t', '\t')]

/-- The characters of a text up to its closing quote as written, and those after the quote. -/
def body? : List Char → Option (List Char × List Char)
  | [] => none
  | [c] => if c = '"' then some ([], []) else none
  | c :: second :: rest =>
    if c = '"' then some ([], second :: rest)
    else if c = '\\' then (body? rest).map fun (inner, after) => (c :: second :: inner, after)
    else (body? (second :: rest)).map fun (inner, after) => (c :: inner, after)

/-- Whether in the characters of a text as written no control stands, and every backslash begins an
escape. -/
def isWritten : List Char → Bool
  | [] => true
  | '\\' :: 'u' :: first :: second :: third :: fourth :: rest =>
    [first, second, third, fourth].all (fun digit => (Text.hexValue? digit).isSome) &&
      isWritten rest
  | '\\' :: letter :: rest => (letters.lookup letter).isSome && isWritten rest
  | c :: rest => c ≠ '\\' && 32 ≤ c.toNat && isWritten rest

/-- What the next character of a text belongs to. `high` is the first surrogate of a pair that
is not complete yet. -/
inductive Escape where
  /-- It stands for itself. -/
  | absent (high : Option Nat)
  /-- It follows a backslash. -/
  | begun (high : Option Nat)
  /-- It is a digit of a code unit with so many digits to come. -/
  | unit (high : Option Nat) (digits value : Nat)
  deriving DecidableEq, Repr

namespace Escape

/-- Whether a code unit is the first of a pair. -/
def isHigh (unit : Nat) : Bool := 0xD800 ≤ unit && unit < 0xDC00

/-- Whether a code unit is the second of a pair. -/
def isLow (unit : Nat) : Bool := 0xDC00 ≤ unit && unit < 0xE000

/-- What a complete code unit gives. -/
def complete (code : Nat) : Option Nat → Option (List Char × Escape)
  | some high => do
    if !isLow code then none
    return ([← Text.charOf? (0x10000 + 1024 * (high - 0xD800) + (code - 0xDC00))], absent none)
  | none => do
    if isHigh code then return ([], absent (some code))
    return ([← Text.charOf? code], absent none)

/-- What a character gives, and what the character after it belongs to. -/
def step (c : Char) : Escape → Option (List Char × Escape)
  | absent high =>
    if c = '\\' then some ([], begun high)
    else if high.isSome || c.toNat < 32 then none
    else some ([c], absent none)
  | begun high => do
    if c = 'u' then return ([], unit high 4 0)
    if high.isSome then none
    return ([← letters.lookup c], absent none)
  | unit high digits value => do
    let code := 16 * value + (← Text.hexValue? c)
    if digits ≤ 1 then complete code high else return ([], unit high (digits - 1) code)

/-- The characters that a text stands for. -/
def resolve? : Escape → List Char → Option (List Char)
  | state, [] => if state = absent none then some [] else none
  | state, c :: rest => do
    let (shown, next) ← state.step c
    return shown ++ (← resolve? next rest)

end Escape

/-- The content of a text after its opening quote, if it has one, and the characters after its
closing quote. -/
def text? (chars : List Char) : Option (Option String × List Char) := do
  let (written, after) ← body? chars
  if !isWritten written then none
  return ((Escape.resolve? (.absent none) written).map String.ofList, after)

/-! ## Tokens -/

namespace Token

/-- A blank between tokens. -/
def isSpace (c : Char) : Bool := [' ', '\t', '\n', '\r'].contains c

/-- The marks of punctuation. -/
def marks : List Char := ['[', ']', '\x7b', '\x7d', ',', ':']

/-- A character of words. -/
def isLetter (c : Char) : Bool := !(isSpace c || marks.contains c || c = '"')

/-- The tokens of the next few characters, one or none, and the characters after them. -/
def next? (c : Char) (rest : List Char) : Option (List Token × List Char) :=
  if isSpace c then some ([], rest)
  else if marks.contains c then some ([mark c], rest)
  else if c = '"' then do
    let (content, after) ← text? rest
    return ([text content], after)
  else some ([word (c :: rest.takeWhile isLetter)], rest.dropWhile isLetter)

/-- The tokens of some characters, of which there are at most so many. -/
def scan : Nat → List Char → Option (List Token)
  | _, [] => some []
  | 0, _ :: _ => none
  | size + 1, c :: rest => do
    let (found, after) ← next? c rest
    return found ++ (← scan size after)

end Token

/-! ## Values -/

/-- The number that a word stands for. -/
def number? (chars : List Char) : Option Value := do
  let (sign, rest) := Decimal.splitSign chars
  if sign = some '+' then none
  let number := { ← Decimal.unsigned? Decimal.digits? rest with negative := sign = some '-' }
  match number.integer? with
  | some whole =>
    if Int64.minValue.toInt ≤ whole ∧ whole < UInt64.size ∧ ¬(number.negative ∧ whole = 0) then
      return .integer whole
  | none => pure ()
  return if number.isFinite then .real (String.ofList chars) else .unreadable

/-- The value that a word stands for. -/
def scalar? (chars : List Char) : Option Value :=
  if chars = ['t', 'r', 'u', 'e'] then some (.boolean true)
  else if chars = ['f', 'a', 'l', 's', 'e'] then some (.boolean false)
  else if chars = ['n', 'u', 'l', 'l'] then some .null
  else number? chars

/-- The table with these entries; unreadable when one of them has a name without content. -/
def tableOf (entries : List (Option String × Value)) : Value :=
  let named? : Option (List (String × Value)) :=
    entries.mapM fun (name, value) => name.map fun name => (name, value)
  named?.elim .unreadable .table

mutual

/-- A value, and the tokens after it. `size` bounds how often readers call each other. -/
def value? (size : Nat) (tokens : List Token) : Option (Value × List Token) :=
  match size, tokens with
  | 0, _ => none
  | _, [] => none
  | _, .text content :: rest => some (content.elim .unreadable .text, rest)
  | _, .word letters :: rest => do return (← scalar? letters, rest)
  | size + 1, .mark symbol :: rest =>
    match symbol, rest with
    | '[', .mark ']' :: after => some (.list [], after)
    | '[', rest => do
      let (items, after) ← items? size rest
      return (.list items, after)
    | '\x7b', .mark '\x7d' :: after => some (.table [], after)
    | '\x7b', rest => do
      let (entries, after) ← entries? size rest
      return (tableOf entries, after)
    | _, _ => none

/-- The items of a list, at least one, and the tokens after its closing bracket. -/
def items? (size : Nat) (tokens : List Token) : Option (List Value × List Token) :=
  match size with
  | 0 => none
  | size + 1 => do
    let (first, rest) ← value? size tokens
    match rest with
    | .mark ',' :: later =>
      let (items, after) ← items? size later
      return (first :: items, after)
    | .mark ']' :: after => return ([first], after)
    | _ => none

/-- The entries of a table, at least one, and the tokens after its closing brace. -/
def entries? (size : Nat) (tokens : List Token) :
    Option (List (Option String × Value) × List Token) :=
  match size, tokens with
  | size + 1, .text name :: .mark ':' :: inner => do
    let (first, rest) ← value? size inner
    match rest with
    | .mark ',' :: later =>
      let (entries, after) ← entries? size later
      return ((name, first) :: entries, after)
    | .mark '\x7d' :: after => return ([(name, first)], after)
    | _ => none
  | _, _ => none

end

/-- The value that a JSON text stands for. -/
def read? (content : String) : Option Value := do
  let chars := content.toList
  let tokens ← Token.scan chars.length chars
  match ← value? (2 * tokens.length + 2) tokens with
  | (value, []) => return value
  | _ => none

end OffHours.Json
