import OffHours.Text.Hexadecimal

/-!
# Quoted texts of settings files

A text stands between two quotes, or between two times three; only the longer form may hold
line ends. Between double quotes a backslash begins an escape, between single quotes every
character stands for itself. Line ends are single newlines here.
-/

namespace OffHours.Toml

/-- A blank in a line. -/
def isSpace (c : Char) : Bool := c = ' ' || c = '\t'

/-- A control character other than the tab. -/
def isControl (c : Char) : Bool := (c.toNat < 32 && c != '\t') || c.toNat = 127

/-- The quotes around a text. -/
structure Fence where
  /-- The quote. -/
  quote : Char
  /-- Whether there are three of it. -/
  long : Bool
  deriving DecidableEq, Repr

namespace Fence

/-- The quotes at the front of some characters, and the characters after them. -/
def open? (chars : List Char) : Option (Fence × List Char) :=
  match chars with
  | [] => none
  | c :: rest =>
    if c ≠ '"' ∧ c ≠ '\'' then none
    else if (chars.takeWhile (· = c)).length < 3 then some (⟨c, false⟩, rest)
    else
      match chars.drop 3 with
      | '\n' :: later => some (⟨c, true⟩, later)
      | later => some (⟨c, true⟩, later)

/-- The end of a text: the quotes at the front that still belong to the text, of which there
are at most two, and the characters after the closing ones. -/
def close? (fence : Fence) (chars : List Char) : Option (List Char × List Char) :=
  let run := (chars.takeWhile (· = fence.quote)).length
  if fence.long then
    if run < 3 then none
    else some (List.replicate (min run 5 - 3) fence.quote, chars.drop (min run 5))
  else if run = 0 then none
  else some ([], chars.drop 1)

/-- Whether a backslash begins an escape. -/
def escapes (fence : Fence) : Bool := fence.quote = '"'

/-- Whether a character may stand in the text as it is. -/
def admits (fence : Fence) (c : Char) : Bool := !isControl c || (fence.long && c = '\n')

/-- The characters up to the closing quotes as written, and those after them. -/
def body? (fence : Fence) : List Char → Option (List Char × List Char)
  | [] => none
  | [c] => fence.close? [c]
  | c :: second :: rest =>
    match fence.close? (c :: second :: rest) with
    | some found => some found
    | none =>
      if fence.escapes && c = '\\' then
        (fence.body? rest).map fun (inner, after) => (c :: second :: inner, after)
      else
        (fence.body? (second :: rest)).map fun (inner, after) => (c :: inner, after)

end Fence

/-- What the next character of a text between double quotes belongs to. -/
inductive Escape where
  /-- It stands for itself. -/
  | absent
  /-- It follows a backslash. -/
  | begun
  /-- It is a digit of a code point with so many digits to come. -/
  | codePoint (digits value : Nat)
  /-- It follows a backslash and blanks, with a line end among them or not. -/
  | joining (broken : Bool)
  deriving DecidableEq, Repr

namespace Escape

/-- The characters that an escape by one letter stands for. -/
def letters : List (Char × Char) :=
  [('"', '"'), ('\\', '\\'), ('b', '\x08'), ('e', '\x1b'), ('f', '\x0c'), ('n', '\n'),
    ('r', '\r'), ('t', '\t')]

/-- The letters that announce a code point, and how many digits it has. -/
def announcers : List (Char × Nat) := [('x', 2), ('u', 4), ('U', 8)]

/-- What a character outside of escapes gives. -/
def plain (fence : Fence) (c : Char) : Option (List Char × Escape) :=
  if c = '\\' then some ([], begun)
  else if fence.admits c then some ([c], absent)
  else none

/-- What a character after a backslash gives. -/
def afterBackslash (fence : Fence) (c : Char) : Option (List Char × Escape) :=
  match letters.lookup c, announcers.lookup c with
  | some shown, _ => some ([shown], absent)
  | none, some digits => some ([], codePoint digits 0)
  | none, none =>
    if fence.long && isSpace c then some ([], joining false)
    else if fence.long && c = '\n' then some ([], joining true)
    else none

/-- What a character gives, and what the character after it belongs to. -/
def step (fence : Fence) (c : Char) : Escape → Option (List Char × Escape)
  | absent => plain fence c
  | begun => afterBackslash fence c
  | codePoint digits value => do
    let code := 16 * value + (← Text.hexValue? c)
    if digits ≤ 1 then return ([← Text.charOf? code], absent)
    return ([], codePoint (digits - 1) code)
  | joining broken =>
    if isSpace c then some ([], joining broken)
    else if c = '\n' then some ([], joining true)
    else if broken then plain fence c
    else none

/-- Whether a text may end here. -/
def isClosed : Escape → Bool
  | absent | joining true => true
  | _ => false

/-- The characters that a text stands for. -/
def resolve? (fence : Fence) : Escape → List Char → Option (List Char)
  | state, [] => if state.isClosed then some [] else none
  | state, c :: rest => do
    let (shown, next) ← state.step fence c
    return shown ++ (← resolve? fence next rest)

end Escape

/-- The content of a text whose characters are given as written. -/
def Fence.content? (fence : Fence) (written : List Char) : Option String :=
  if fence.escapes then (Escape.resolve? fence .absent written).map String.ofList
  else if written.all fence.admits then some (String.ofList written)
  else none

end OffHours.Toml
