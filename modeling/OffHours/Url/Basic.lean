import OffHours.Url.Host

/-!
# Addresses

An address in its parts, its text, and the parts that a request shows to a server. Two
addresses have the same origin when scheme, host and port are the same; a port that is the one
of its scheme is never kept.
-/

namespace OffHours

/-- The path of an address. -/
inductive UrlPath where
  /-- A text without structure. -/
  | opaqueText (text : String)
  /-- Segments, each with a slash in front. -/
  | segments (names : List String)
  deriving DecidableEq, Repr

/-- An address. -/
structure Url where
  /-- The scheme in small letters. -/
  scheme : String
  /-- The name of a user; empty when there is none. -/
  user : String := ""
  /-- The password, when it is not empty. -/
  password : Option String := none
  /-- The host. -/
  host : Option Host := none
  /-- The port, when it is not the one of the scheme. -/
  port : Option Nat := none
  /-- The path. -/
  path : UrlPath
  /-- What stands after the question mark. -/
  query : Option String := none
  /-- What stands after the number sign. -/
  fragment : Option String := none
  deriving DecidableEq, Repr

namespace Url

/-- The ports of the schemes of the web. -/
def webPorts : List (String × Nat) :=
  [("http", 80), ("https", 443), ("ws", 80), ("wss", 443), ("ftp", 21)]

/-- Whether addresses of a scheme follow the rules of the web. -/
def isWeb (scheme : String) : Bool := (webPorts.lookup scheme).isSome

/-- The path as a text. -/
def pathText (url : Url) : String :=
  match url.path with
  | .opaqueText text => text
  | .segments names => String.join (names.map ("/" ++ ·))

/-- The query with its question mark. -/
def queryText (url : Url) : String := url.query.elim "" ("?" ++ ·)

/-- What a request asks a server for: path and query. -/
def target (url : Url) : String := url.pathText ++ url.queryText

/-- User and password with the sign after them. -/
def credentialText (url : Url) : String :=
  if url.user.isEmpty ∧ url.password = none then ""
  else url.user ++ url.password.elim "" (":" ++ ·) ++ "@"

/-- Everything between scheme and path. -/
def authorityText (url : Url) : String :=
  match url.host with
  | some host =>
    "//" ++ url.credentialText ++ host.text ++ url.port.elim "" fun port => ":" ++ toString port
  | none =>
    match url.path with
    | .segments ("" :: _ :: _) => if url.scheme = "file" then "//" else "/."
    | _ => if url.scheme = "file" then "//" else ""

/-- The address as a text. -/
def text (url : Url) : String :=
  url.scheme ++ ":" ++ url.authorityText ++ url.target ++ url.fragment.elim "" ("#" ++ ·)

/-- Scheme, host and port. -/
def origin (url : Url) : String × Option Host × Option Nat := (url.scheme, url.host, url.port)

/-- Host and port, which is the one of the scheme when no other is kept. -/
def place (url : Url) : Option Host × Option Nat :=
  (url.host, url.port.or (webPorts.lookup url.scheme))

/-- The address without user and password. -/
def withoutCredentials (url : Url) : Url := { url with user := "", password := none }

/-- The address with pairs of name and value after its query. -/
def withPairs (url : Url) (pairs : List (String × String)) : Url :=
  let query :=
    match url.query with
    | none | some "" => form pairs
    | some present => present ++ "&" ++ form pairs
  { url with query := some query }

/-- Pairs change nothing but the query. -/
@[simp] theorem origin_withPairs (url : Url) (pairs : List (String × String)) :
    (url.withPairs pairs).origin = url.origin := rfl

/-- Without credentials an address has the same origin. -/
@[simp] theorem origin_withoutCredentials (url : Url) :
    url.withoutCredentials.origin = url.origin := rfl

end Url

end OffHours
