import OffHours.Toml.Document
import OffHours.Toml.Scalar
import OffHours.Toml.Token

/-!
# Reading settings files

The statements of a file from its tokens, and the table that they make. Each reader takes
tokens from the front and gives back the tokens after them; `size` bounds how often readers
call each other, and the number of tokens is always enough.
-/

namespace OffHours.Toml

/-- How deep lists and tables may stand in each other. -/
def greatestDepth : Nat := 80

namespace Token

/-- A part of a key: a word of plain characters or a text in one line, with blanks around. -/
def name? (tokens : List Token) : Option String :=
  match tokens.filter fun token => !token.isBlank with
  | [.text false content] => some content
  | [.word letters] =>
    if letters.all fun c => c.isAlphanum || c = '-' || c = '_' then some (String.ofList letters)
    else none
  | _ => none

/-- The names of a dotted key. -/
def path? (tokens : List Token) : Option Path := (Text.pieces (mark '.') tokens).mapM name?

/-- The key in front of a mark, and the tokens after the mark. -/
def key? (closing : Char) (tokens : List Token) : Option (Path × List Token) :=
  match tokens.dropWhile (· ≠ mark closing) with
  | [] => none
  | _ :: rest => do return (← path? (tokens.takeWhile (· ≠ mark closing)), rest)

/-- Tokens without blanks and line ends at the front. -/
def skipGaps (tokens : List Token) : List Token := tokens.dropWhile isGap

/-- The characters of a token that stands in a word with points. -/
def wordPart : Token → List Char
  | word letters => letters
  | mark symbol => [symbol]
  | _ => []

/-- Whether a token belongs to a word with points. -/
def isWordPart : Token → Bool
  | word _ => true
  | mark symbol => symbol = '.'
  | _ => false

/-- A word with points in it, and the tokens after it. -/
def dottedWord (tokens : List Token) : List Char × List Token :=
  (((tokens.takeWhile isWordPart).map wordPart).flatten, tokens.dropWhile isWordPart)

/-- A value without quotes and brackets. A date is joined with the time after a blank. -/
def scalar? (tokens : List Token) : Option (Value × List Token) :=
  let (letters, rest) := dottedWord tokens
  let (later, after) := dottedWord (rest.drop 1)
  if isDay letters ∧ rest.head? = some (blank [' ']) ∧ later.head?.any Char.isDigit then do
    return (← Toml.scalar? (letters ++ ' ' :: later), after)
  else do return (← Toml.scalar? letters, rest)

mutual

/-- A value. -/
def value? (size depth : Nat) (tokens : List Token) : Option (Value × List Token) :=
  match size, depth, tokens with
  | 0, _, _ => none
  | _, _, text _ content :: rest => some (.text content, rest)
  | size + 1, depth, mark symbol :: rest =>
    match symbol, depth with
    | '[', depth + 1 => do
      let (items, after) ← items? size depth (skipGaps rest)
      return (.list items, after)
    | '\x7b', depth + 1 => do
      let (entries, after) ← entries? size depth (skipGaps rest)
      return (← Statement.toTable? entries, after)
    | _, _ => none
  | _, _, tokens => scalar? tokens

/-- The items of a list up to its closing bracket; a comma may follow the last one. -/
def items? (size depth : Nat) (tokens : List Token) : Option (List Value × List Token) :=
  match size, tokens with
  | 0, _ => none
  | _, mark ']' :: rest => some ([], rest)
  | size + 1, tokens => do
    let (first, after) ← value? size depth tokens
    match skipGaps after with
    | mark ',' :: rest =>
      let (items, after) ← items? size depth (skipGaps rest)
      return (first :: items, after)
    | mark ']' :: rest => return ([first], rest)
    | _ => none

/-- The entries of a table up to its closing brace; a comma may follow the last one. -/
def entries? (size depth : Nat) (tokens : List Token) : Option (List Statement × List Token) :=
  match size, tokens with
  | 0, _ => none
  | _, mark '\x7d' :: rest => some ([], rest)
  | size + 1, tokens => do
    let (path, rest) ← key? '=' tokens
    let (content, after) ← value? size depth (rest.dropWhile isBlank)
    let first := Statement.entry path content
    match skipGaps after with
    | mark ',' :: rest =>
      let (entries, after) ← entries? size depth (skipGaps rest)
      return (first :: entries, after)
    | mark '\x7d' :: rest => return ([first], rest)
    | _ => none

end

/-- The tokens after the end of a line, which only blanks may precede. -/
def lineEnd? (tokens : List Token) : Option (List Token) :=
  match tokens.dropWhile isBlank with
  | [] => some []
  | newline :: rest => some rest
  | _ => none

/-- The statement at the front, and the tokens after it. -/
def statement? (tokens : List Token) : Option (Statement × List Token) :=
  match tokens with
  | mark '[' :: mark '[' :: rest => do
    let (path, after) ← key? ']' rest
    if after.head? = some (mark ']') then return (.element path, after.drop 1) else none
  | mark '[' :: rest => do
    let (path, after) ← key? ']' rest
    return (.table path, after)
  | tokens => do
    let (path, rest) ← key? '=' tokens
    let (content, after) ← value? (2 * rest.length + 2) greatestDepth (rest.dropWhile isBlank)
    return (.entry path content, after)

/-- The statements of a file, of which there are at most so many. -/
def statements? (size : Nat) (tokens : List Token) : Option (List Statement) :=
  match size, skipGaps tokens with
  | _, [] => some []
  | 0, _ => none
  | size + 1, tokens => do
    let (first, after) ← statement? tokens
    return first :: (← statements? size (← lineEnd? after))

end Token

/-- The table that a settings file holds. -/
def read? (content : String) : Option Value := do
  let tokens ← Token.ofText? content
  Statement.toTable? (← Token.statements? tokens.length tokens)

end OffHours.Toml
