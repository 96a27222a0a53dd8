import OffHours.Text.Letters
import OffHours.Text.Pieces
import OffHours.Url.Encoding
import OffHours.Url.Punycode

/-!
# Hosts

The host of an address is a domain name or a number of the fourth or sixth version of the
internet protocol. In addresses of the web a name that ends in a number is one of the fourth
version; letters of domain names outside ASCII are taken as they are.
-/

namespace OffHours

/-- Why a text is no address. -/
inductive UrlFault where
  /-- There is no host. -/
  | emptyHost
  /-- The host is no domain name. -/
  | invalidDomain
  /-- The host holds a character that none may hold. -/
  | invalidHostCharacter
  /-- The port is no number of 16 bits. -/
  | invalidPort
  /-- The host ends in a number and is no number of the fourth version. -/
  | invalidIpv4
  /-- The host between brackets is no number of the sixth version. -/
  | invalidIpv6
  /-- There is no scheme. -/
  | relative
  deriving DecidableEq, Repr

/-- The text of a fault. -/
def UrlFault.message : UrlFault → String
  | emptyHost => "empty host"
  | invalidDomain => "invalid international domain name"
  | invalidHostCharacter => "invalid domain character"
  | invalidPort => "invalid port number"
  | invalidIpv4 => "invalid IPv4 address"
  | invalidIpv6 => "invalid IPv6 address"
  | relative => "relative URL without a base"

/-- The host of an address. -/
inductive Host where
  /-- A name. -/
  | domain (name : String)
  /-- A number of 32 bits. -/
  | ipv4 (address : Nat)
  /-- Eight numbers of 16 bits. -/
  | ipv6 (groups : List Nat)
  deriving DecidableEq, Repr

namespace Host

/-! ## Numbers of the fourth version -/

/-- A part of a number: decimal, or octal or hexadecimal after a mark. -/
def part? : List Char → Option Nat
  | [] => none
  | '0' :: [] => some 0
  | '0' :: 'x' :: rest | '0' :: 'X' :: rest => number? 16 rest
  | '0' :: rest => number? 8 rest
  | chars => number? 10 chars
where
  /-- The value of digits to a base; no digits are zero. -/
  number? (base : Nat) (digits : List Char) : Option Nat := do
    let values ← digits.mapM fun c => (Text.hexValue? c).filter (· < base)
    return values.foldl (fun value digit => base * value + digit) 0

/-- The parts of a name between points, without an empty last one. -/
def parts (name : List Char) : List (List Char) :=
  let all := Text.pieces '.' name
  if all.length > 1 ∧ all.getLast? = some [] then all.dropLast else all

/-- Whether the last part of a name is a number. -/
def endsInNumber (name : List Char) : Bool :=
  match (parts name).getLast? with
  | none => false
  | some last => (!last.isEmpty && last.all Char.isDigit) || (part? last).isSome

/-- The weights of the four bytes of a number. -/
def weights : List Nat := [0x1000000, 0x10000, 0x100, 1]

/-- The number that a name of at most four parts denotes; the last part fills up the bytes. -/
def ipv4? (name : List Char) : Option Nat := do
  let numbers ← (parts name).mapM part?
  let last ← numbers.getLast?
  let front := numbers.dropLast
  let bound ← (0x100000000 :: weights.dropLast)[front.length]?
  if front.any (· > 255) || last ≥ bound then none
  else some ((front.zip weights).foldl (fun sum (byte, weight) => sum + byte * weight) last)

/-- The four bytes of a number with points. -/
def ipv4Text (address : Nat) : String :=
  ".".intercalate (weights.map fun weight => toString (address / weight % 256))

/-! ## Numbers of the sixth version -/

/-- A group: up to four hexadecimal digits. -/
def group? (digits : List Char) : Option Nat := do
  if digits.isEmpty || digits.length > 4 then none
  let values ← digits.mapM Text.hexValue?
  return values.foldl (fun value digit => 16 * value + digit) 0

/-- A byte in decimal without needless zeros. -/
def byte? (digits : List Char) : Option Nat := do
  let value ← Text.readBelow 256 digits
  if digits.length > 1 ∧ digits.head? = some '0' then none else some value

/-- The groups of numbers between colons; the last may be four bytes with points. -/
def groups? : List (List Char) → Option (List Nat)
  | [] => some []
  | [last] =>
    match (Text.pieces '.' last).mapM byte? with
    | some [a, b, c, d] => some [256 * a + b, 256 * c + d]
    | _ => (group? last).map ([·])
  | first :: rest => do return (← group? first) :: (← groups? rest)

/-- The groups on one side of a gap, or without one. -/
def side? (chars : List Char) : Option (List Nat) :=
  if chars.isEmpty then some [] else groups? (Text.pieces ':' chars)

/-- What stands before and after the first two colons in a row. -/
def splitGap? : List Char → Option (List Char × List Char)
  | c :: second :: rest =>
    if c = ':' ∧ second = ':' then some ([], rest)
    else (splitGap? (second :: rest)).map fun (before, after) => (c :: before, after)
  | _ => none

/-- The eight groups of a number. Two colons in a row stand for the zeros that are missing. -/
def ipv6? (chars : List Char) : Option (List Nat) := do
  match splitGap? chars with
  | none =>
    let groups ← side? chars
    if groups.length = 8 then some groups else none
  | some (before, after) =>
    let front ← side? before
    let back ← side? after
    let missing := 8 - (front.length + back.length)
    if front.length + back.length < 8 ∧ ¬before.contains '.' then
      some (front ++ List.replicate missing 0 ++ back)
    else none

/-- How many zeros a list of groups begins with. -/
def zeros (groups : List Nat) : Nat := (groups.takeWhile (· = 0)).length

/-- The length of the longest run of zeros. -/
def longestRun : List Nat → Nat
  | [] => 0
  | group :: rest => max (zeros (group :: rest)) (longestRun rest)

/-- Groups in hexadecimal with colons. -/
def groupsText (groups : List Nat) : String :=
  ":".intercalate (groups.map fun group => String.ofList (Nat.toDigits 16 group))

/-- How many groups stand before the first run of zeros of a length. -/
def beforeRun (length : Nat) : List Nat → Nat
  | [] => 0
  | group :: rest => if zeros (group :: rest) = length then 0 else beforeRun length rest + 1

/-- The groups with two colons in place of the first longest run of at least two zeros. -/
def ipv6Text (groups : List Nat) : String :=
  let run := longestRun groups
  if run < 2 then groupsText groups
  else
    let front := beforeRun run groups
    groupsText (groups.take front) ++ "::" ++ groupsText (groups.drop (front + run))

/-! ## All hosts -/

/-- The host as it stands in an address. -/
def text : Host → String
  | domain name => name
  | ipv4 address => ipv4Text address
  | ipv6 groups => "[" ++ ipv6Text groups ++ "]"

/-- Characters that no domain name holds. -/
def forbidden : List Char :=
  [' ', '#', '/', ':', '<', '>', '?', '@', '[', '\\', ']', '^', '|', '%']

/-- The number between brackets. -/
def bracketed (inner : List Char) : Except UrlFault Host :=
  if inner.getLast? = some ']' then
    match ipv6? inner.dropLast with
    | some groups => .ok (.ipv6 groups)
    | none => .error .invalidIpv6
  else .error .invalidIpv6

/-- A domain name in small ASCII letters. -/
def asciiName (name : String) : List Char :=
  let labels := Text.pieces '.' (Text.fold name).toList
  ['.'].intercalate (labels.map Url.asciiLabel)

/-- The host of an address of the web. -/
def ofWeb (chars : List Char) : Except UrlFault Host :=
  match chars with
  | [] => .error .emptyHost
  | '[' :: inner => bracketed inner
  | _ =>
    match String.fromUTF8? ⟨(Url.decodeBytes chars).toArray⟩ with
    | none => .error .invalidDomain
    | some name =>
      let ascii := asciiName name
      if ascii.any fun c => c.toNat < 32 || c.toNat = 127 || forbidden.contains c then
        .error .invalidDomain
      else if endsInNumber ascii then
        match ipv4? ascii with
        | some address => .ok (.ipv4 address)
        | none => .error .invalidIpv4
      else .ok (.domain (String.ofList ascii))

/-- The host of any other address. -/
def ofOther (chars : List Char) : Except UrlFault Host :=
  match chars with
  | '[' :: inner => bracketed inner
  | _ =>
    if chars.any fun c => c = '\x00' || (forbidden.contains c && c ≠ '%') then
      .error .invalidHostCharacter
    else .ok (.domain (Url.encode Url.opaqueKeeps chars))

end Host

end OffHours
