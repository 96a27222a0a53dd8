import OffHours.Url.Basic

/-!
# Reading addresses

The address that a text denotes on its own. Controls and blanks at the ends and line ends
anywhere are passed over; in addresses of the web backslashes count as slashes. Segments of one
or two points are resolved.
-/

namespace OffHours.Url

/-- The characters that count. -/
def significant (chars : List Char) : List Char :=
  let isOuter (c : Char) : Bool := c.toNat ≤ 0x20
  let inner := ((chars.dropWhile isOuter).reverse.dropWhile isOuter).reverse
  inner.filter fun c => c ≠ '\t' && c ≠ '\n' && c ≠ '\r'

/-- What stands before a character and after it, if it is there. -/
def splitAt (c : Char) (chars : List Char) : List Char × Option (List Char) :=
  match chars.dropWhile (· ≠ c) with
  | [] => (chars, none)
  | _ :: rest => (chars.takeWhile (· ≠ c), some rest)

/-- The scheme, and what stands after its colon. -/
def scheme? (chars : List Char) : Option (String × List Char) :=
  match splitAt ':' chars with
  | (first :: name, some rest) =>
    let isInner (c : Char) : Bool := c.isAlphanum || ['+', '-', '.'].contains c
    if first.isAlpha && name.all isInner then
      some (Text.fold (String.ofList (first :: name)), rest)
    else none
  | _ => none

/-! ## Users, hosts and ports -/

/-- What stands before and after the last sign between user and host. -/
def splitUser (authority : List Char) : Option (List Char) × List Char :=
  let host := (authority.reverse.takeWhile (· ≠ '@')).reverse
  if host.length = authority.length then (none, authority)
  else (some (authority.take (authority.length - host.length - 1)), host)

/-- Name and password of a user. -/
def credentials (chars : List Char) : String × Option String :=
  let (name, password) := splitAt ':' chars
  (encode credentialKeeps name,
    (password.filter fun text => !text.isEmpty).map (encode credentialKeeps))

/-- The host and the text of the port; colons between brackets belong to the host. -/
def splitPort (inBrackets : Bool) : List Char → List Char × Option (List Char)
  | [] => ([], none)
  | c :: rest =>
    if c = ':' && !inBrackets then ([], some rest)
    else
      let (host, port) := splitPort (c = '[' || (inBrackets && c ≠ ']')) rest
      (c :: host, port)

/-- The port of a scheme, unless it is the one that the scheme has anyway. -/
def portOf (scheme : String) (digits : List Char) : Except UrlFault (Option Nat) :=
  if digits.isEmpty then .ok none
  else
    match Text.readBelow UInt16.size digits with
    | none => .error .invalidPort
    | some port => .ok (if webPorts.lookup scheme = some port then none else some port)

/-- The address with this scheme and what stands between the slashes and the path. -/
def withAuthority (scheme : String) (authority : List Char) (path : UrlPath) :
    Except UrlFault Url := do
  let (login, place) := splitUser authority
  let (user, password) := login.elim ("", none) credentials
  let (name, digits) := splitPort false place
  let host ← if isWeb scheme then Host.ofWeb name else Host.ofOther name
  if name.isEmpty ∧ (login.isSome ∨ digits.isSome) then throw .emptyHost
  let port ← portOf scheme (digits.getD [])
  return { scheme, user, password, host := some host, port, path }

/-! ## Paths -/

/-- Whether a segment stands for the one that it is in. -/
def isHere (segment : List Char) : Bool :=
  [".", "%2e"].contains (Text.fold (String.ofList segment))

/-- Whether a segment stands for the one before. -/
def isBack (segment : List Char) : Bool :=
  ["..", ".%2e", "%2e.", "%2e%2e"].contains (Text.fold (String.ofList segment))

/-- The segments after some that are done, without those of points. -/
def resolve (done : List String) : List (List Char) → List String
  | [] => done
  | [last] =>
    if isBack last then done.dropLast ++ [""]
    else if isHere last then done ++ [""]
    else done ++ [encode pathKeeps last]
  | segment :: rest =>
    if isBack segment then resolve done.dropLast rest
    else if isHere segment then resolve done rest
    else resolve (done ++ [encode pathKeeps segment]) rest

/-- A slash of an address. -/
def isSlash (web : Bool) (c : Char) : Bool := c = '/' || (web && c = '\\')

/-- The segments of a path; the slash in front of the first may be missing. -/
def segmentsOf (web : Bool) (chars : List Char) : List String :=
  let slashed := chars.map fun c => if isSlash web c then '/' else c
  match slashed with
  | '/' :: rest => resolve [] (Text.pieces '/' rest)
  | _ => resolve [] (Text.pieces '/' slashed)

/-! ## Whole addresses -/

/-- An address of the web: slashes, the authority and a path, which is never without slash. -/
def ofWeb (scheme : String) (chars : List Char) : Except UrlFault Url :=
  let place := chars.dropWhile (isSlash true)
  let authority := place.takeWhile fun c => !isSlash true c
  let path := place.dropWhile fun c => !isSlash true c
  withAuthority scheme authority (.segments (segmentsOf true path))

/-- An address of a file; the host of this machine is not kept. -/
def ofFile (chars : List Char) : Except UrlFault Url := do
  let slashes := (chars.takeWhile (isSlash true)).length
  let place := if slashes < 2 then [] else (chars.drop 2).takeWhile fun c => !isSlash true c
  let path := if slashes < 2 then chars else chars.drop (2 + place.length)
  let host ← if place.isEmpty then .ok none else some <$> Host.ofWeb place
  let names := segmentsOf true path
  let kept := names.dropWhile (·.isEmpty)
  return {
    scheme := "file"
    host := if host = some (.domain "localhost") then none else host
    path := .segments (if kept.isEmpty then [""] else kept) }

/-- An address of any other scheme: with an authority, with a path only, or without structure. -/
def ofOther (scheme : String) (chars : List Char) : Except UrlFault Url :=
  match chars with
  | '/' :: '/' :: place =>
    let path := place.dropWhile (· ≠ '/')
    let names := if path.isEmpty then [] else segmentsOf false path
    withAuthority scheme (place.takeWhile (· ≠ '/')) (.segments names)
  | '/' :: _ => .ok { scheme, path := .segments (segmentsOf false chars) }
  | _ => .ok { scheme, path := .opaqueText (encode opaqueKeeps chars) }

/-- The address that a text denotes. -/
def parse (text : String) : Except UrlFault Url := do
  let some (scheme, rest) := scheme? (significant text.toList) | throw .relative
  let (front, fragment) := splitAt '#' rest
  let (place, query) := splitAt '?' front
  let url ←
    if isWeb scheme then ofWeb scheme place
    else if scheme = "file" then ofFile place
    else ofOther scheme place
  return { url with
    query := query.map (encode (queryKeeps (isWeb scheme || scheme = "file")))
    fragment := fragment.map (encode fragmentKeeps) }

end OffHours.Url
