import OffHours.Toml.Quoted

/-!
# Tokens of settings files

A settings file is a list of tokens: words, quoted texts, marks, blanks and line ends. A
comment leaves no token. A text that is never closed, an unknown escape or a control character
where none may stand refuses the whole file.
-/

namespace OffHours.Toml

/-- A token. -/
inductive Token where
  /-- Characters of a key, a number, a truth value, a date or a time. -/
  | word (letters : List Char)
  /-- A text between quotes, one or three on each side. -/
  | text (long : Bool) (content : String)
  /-- A mark of punctuation. -/
  | mark (symbol : Char)
  /-- Blanks in a line. -/
  | blank (spaces : List Char)
  /-- The end of a line. -/
  | newline
  deriving DecidableEq, Repr

namespace Token

/-- The marks of punctuation. -/
def marks : List Char := ['=', '.', ',', '[', ']', '\x7b', '\x7d']

/-- A character of words: none of the others that have a meaning. -/
def isLetter (c : Char) : Bool :=
  !(isSpace c || c = '\n' || c = '#' || c = '"' || c = '\'' || marks.contains c)

/-- A blank outside of lines: one that separates values wherever it stands. -/
def isGap : Token → Bool
  | blank _ | newline => true
  | _ => false

/-- A blank in a line. -/
def isBlank : Token → Bool
  | blank _ => true
  | _ => false

/-- The tokens of the next few characters, one or none, and the characters after them. -/
def next? (c : Char) (rest : List Char) : Option (List Token × List Char) :=
  if c = '\n' then some ([newline], rest)
  else if marks.contains c then some ([mark c], rest)
  else if isSpace c then
    some ([blank (c :: rest.takeWhile isSpace)], rest.dropWhile isSpace)
  else if c = '#' then
    if (rest.takeWhile (· ≠ '\n')).any isControl then none
    else some ([], rest.dropWhile (· ≠ '\n'))
  else
    match Fence.open? (c :: rest) with
    | some (fence, inside) => do
      let (written, after) ← fence.body? inside
      return ([text fence.long (← fence.content? written)], after)
    | none => some ([word (c :: rest.takeWhile isLetter)], rest.dropWhile isLetter)

/-- The tokens of some characters, of which there are at most so many. -/
def scan : Nat → List Char → Option (List Token)
  | _, [] => some []
  | 0, _ :: _ => none
  | size + 1, c :: rest => do
    let (found, after) ← next? c rest
    return found ++ (← scan size after)

/-- Characters with a newline for each line end of two characters. -/
def unifyLineEnds : List Char → List Char
  | '\r' :: '\n' :: rest => '\n' :: unifyLineEnds rest
  | c :: rest => c :: unifyLineEnds rest
  | [] => []

/-- The tokens of a file; a mark of the byte order in front is passed over. -/
def ofText? (content : String) : Option (List Token) :=
  let chars :=
    match content.toList with
    | '\uFEFF' :: rest => unifyLineEnds rest
    | all => unifyLineEnds all
  scan chars.length chars

end Token

end OffHours.Toml
