import OffHours.Text.Blank
import OffHours.Text.Pieces
import OffHours.Url.Host

/-!
# Mail addresses

A mail address is a user and a domain with the at sign between them. It stands alone, or between
angle brackets after a name. Each reader takes characters from the front and gives back the
characters after them.
-/

namespace OffHours

/-- Why a text is no mail address. -/
inductive MailboxFault where
  /-- It does not have the form of one. -/
  | malformed
  /-- The user cannot be one. -/
  | invalidUser
  /-- The domain cannot be one. -/
  | invalidDomain
  deriving DecidableEq, Repr

/-- The text of a fault. -/
def MailboxFault.message : MailboxFault → String
  | malformed => "Invalid input"
  | invalidUser => "Invalid email user"
  | invalidDomain => "Invalid email domain"

/-- A mail address. -/
structure Mailbox where
  /-- The name in front of it. -/
  name : Option String
  /-- The user. -/
  user : String
  /-- The domain. -/
  domain : String
  deriving DecidableEq, Repr

namespace Mailbox

/-- Readers of parts of mail addresses. -/
abbrev Reader (α : Type) := List Char → Option (α × List Char)

/-- A character of words: letters, digits, some signs, and everything outside ASCII. -/
def isLetter (c : Char) : Bool := c.isAlphanum || "!#$%&'*+-/=?^_\x60\x7b|\x7d~".contains c || 128 ≤ c.toNat

/-- A blank inside of addresses. -/
def isSpace (c : Char) : Bool := c = ' ' || c = '\t'

/-- Blanks; of several, one counts. -/
def spaces (chars : List Char) : List Char × List Char :=
  ((chars.takeWhile isSpace).take 1, chars.dropWhile isSpace)

/-- A word of letters, with the blank in front of it. -/
def atom? : Reader (List Char) := fun chars =>
  let (space, rest) := spaces chars
  let letters := rest.takeWhile isLetter
  if letters.isEmpty then none else some (space ++ letters, rest.dropWhile isLetter)

/-- A character that may stand between quotes, other than a blank. -/
def isQuotable (c : Char) : Bool :=
  let code := c.toNat
  (33 ≤ code && c ≠ '"' && c ≠ '\\') ||
    (0 < code && code < 32 && c ≠ '\t' && c ≠ '\n' && c ≠ '\r')

/-- The characters up to a closing quote. A backslash stands for the character after it. -/
def quotedRest? : Reader (List Char)
  | [] => none
  | [c] => if c = '"' then some ([], []) else none
  | c :: second :: rest =>
    if c = '"' then some ([], second :: rest)
    else if c = '\\' then
      if second.toNat < 128 ∧ second ≠ '\n' ∧ second ≠ '\r' ∧ second ≠ '\x00' then
        (quotedRest? rest).map fun (inner, after) => (second :: inner, after)
      else none
    else if isSpace c || isQuotable c then
      (quotedRest? (second :: rest)).map fun (inner, after) =>
        (if isSpace c && (isSpace second || second = '"') then inner else c :: inner, after)
    else none

/-- A text between quotes. -/
def quoted? : Reader (List Char)
  | '"' :: rest => quotedRest? rest
  | _ => none

/-- A word, between quotes or not. -/
def word? : Reader (List Char) := fun chars => (quoted? chars).or (atom? chars)

/-- What follows a first part: points, each with one more part, as far as they go. -/
def dotted (part? : Reader (List Char)) : Nat → List Char → List Char × List Char
  | 0, chars => ([], chars)
  | size + 1, chars =>
    match chars with
    | '.' :: rest =>
      match part? rest with
      | some (found, after) =>
        let (more, after) := dotted part? size after
        ('.' :: found ++ more, after)
      | none => ([], chars)
    | _ => ([], chars)

/-- Parts with points between them. -/
def parts? (part? : Reader (List Char)) : Reader (List Char) := fun chars => do
  let (first, rest) ← part? chars
  let (more, after) := dotted part? rest.length rest
  return (first ++ more, after)

/-- User and domain. -/
def address? : Reader (List Char × List Char) := fun chars => do
  let (user, rest) ← parts? word? chars
  match rest with
  | '@' :: place =>
    let (domain, after) ← parts? atom? place
    return ((user, domain), after)
  | _ => none

/-- The words and points of a name, as far as they go. -/
def phrase : Nat → List Char → List Char × List Char
  | 0, chars => ([], chars)
  | size + 1, chars =>
    match word? chars, chars with
    | some (found, after), _ =>
      let (more, after) := phrase size after
      (found ++ more, after)
    | none, '.' :: rest =>
      let (more, after) := phrase size rest
      ('.' :: more, after)
    | none, _ => ([], chars)

/-- A name that begins with a word, if there is one. -/
def splitName (chars : List Char) : Option (List Char) × List Char :=
  match word? chars with
  | none => (none, chars)
  | some _ =>
    let (found, rest) := phrase chars.length chars
    (some found, rest)

/-- An address between angle brackets, with or without a name in front. -/
def named? : Reader (Option (List Char) × List Char × List Char) := fun chars =>
  let (name, rest) := splitName chars
  match rest.dropWhile Text.isBlank with
  | '<' :: inner => do
    let (address, after) ← address? inner
    match after with
    | '>' :: after => return ((name, address), after.dropWhile Text.isBlank)
    | _ => none
  | _ => none

/-- The parts of a mail address. -/
def parts (text : String) : Option (Option (List Char) × List Char × List Char) :=
  let chars := text.toList.dropWhile Text.isBlank
  match (named? chars).or ((address? chars).map fun (found, after) => ((none, found), after)) with
  | some (found, after) => if after.all Text.isBlank then some found else none
  | none => none

/-- How many bytes a text has. -/
def size (chars : List Char) : Nat := (String.ofList chars).utf8ByteSize

/-- Whether every piece between points is a word of letters. -/
def isPlain (chars : List Char) : Bool :=
  (Text.pieces '.' chars).all fun piece => !piece.isEmpty && piece.all isLetter

/-- Whether a user can be one. -/
def isUser (chars : List Char) : Bool := size chars ≤ 64 && isPlain chars

/-- Whether a domain can be one. -/
def isDomain (chars : List Char) : Bool :=
  size chars ≤ 254 && isPlain chars && (Text.pieces '.' chars).all fun label => size label ≤ 63

/-- The mail address that a text denotes. -/
def parse (text : String) : Except MailboxFault Mailbox :=
  match parts text with
  | none => .error .malformed
  | some (name, user, domain) =>
    if !isUser user then .error .invalidUser
    else if isDomain domain || isDomain (Host.asciiName (String.ofList domain)) then
      .ok ⟨name.map String.ofList, String.ofList user, String.ofList domain⟩
    else .error .invalidDomain

end Mailbox

end OffHours
