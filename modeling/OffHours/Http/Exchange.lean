import OffHours.Data.Value
import OffHours.Fleet.ControlPlane
import OffHours.Url.Basic

/-!
# Requests and answers

A request goes to a server, which answers it after some time, or not at all. A server is given
by what it does with each request; the wire records the requests that reached it. A request is
made once. That a redirect is followed before an answer is given is the server's part here
(`Network.server`).
-/

namespace OffHours.Http

/-- What a request asks for. -/
inductive Method where
  /-- To read. -/
  | get
  /-- To act. -/
  | post
  deriving DecidableEq, Repr

/-- The name of the method. -/
def Method.name : Method → String
  | get => "GET"
  | post => "POST"

/-- A request. -/
structure Request where
  /-- What it asks for. -/
  method : Method
  /-- Where it goes. -/
  url : Url
  /-- What shows the right to ask. -/
  authorization : Option String := none
  /-- The data that it carries. -/
  body : Option Value := none
  deriving Repr

/-- An answer; its body is none when it breaks off. -/
structure Answer where
  /-- The status. -/
  status : Nat
  /-- The body. -/
  body : Option String
  deriving DecidableEq, Repr

/-- What a server does with a request. -/
inductive Reply where
  /-- It answers after so many milliseconds. -/
  | answer (delay : Nat) (answer : Answer)
  /-- It ends the connection without an answer. -/
  | closed
  /-- It never answers. -/
  | silence
  /-- It cannot be reached. -/
  | unreachable
  deriving DecidableEq, Repr

/-- A server with a state: all that answers requests, behind the library that sends them. -/
abbrev Server (σ : Type) := Request → σ → Reply × σ

/-- The server that cannot be reached. -/
def unreachable {σ : Type} : Server σ := fun _ state => (.unreachable, state)

/-- Why there is no answer. -/
inductive SendFault where
  /-- The request cannot be made. -/
  | malformed
  /-- A request to this address cannot be made. -/
  | unsupported (url : Url)
  /-- The server cannot be reached. -/
  | unconnected (url : Url)
  /-- No answer came in time. -/
  | late (url : Url)
  /-- The connection ended without an answer. -/
  | closed (url : Url)
  deriving DecidableEq, Repr

namespace SendFault

/-- The text of a fault; credentials of the address are left out. -/
def message : SendFault → String
  | malformed => "builder error"
  | unsupported url => "builder error for url (" ++ url.withoutCredentials.text ++ ")"
  | unconnected url | late url | closed url =>
    "error sending request for url (" ++ url.withoutCredentials.text ++ ")"

/-- Whether a later request may be answered. -/
def isPassing : SendFault → Bool
  | unconnected _ | late _ => true
  | _ => false

end SendFault

/-- Whether a text can stand in a header: it holds no control but tabs. -/
def isHeaderText (text : String) : Bool :=
  text.toList.all fun c => (32 ≤ c.toNat && c.toNat ≠ 127) || c = '\t'

/-- Whether the host of an address can be asked; quotes and braces cannot stand in a request. -/
def isAskable (host : Host) : Bool :=
  host.text.toList.all fun c => !(['"', '`', '\x7b', '\x7d'].contains c)

/-- Why a request cannot be made. -/
def Request.fault? (request : Request) : Option SendFault :=
  match request.url.host with
  | none => some (.unsupported request.url)
  | some host =>
    if !request.authorization.all isHeaderText then some .malformed
    else if ["http", "https"].contains request.url.scheme && isAskable host then none
    else some (.unsupported request.url)

/-- A server and the requests that reached it, oldest first. -/
structure Wire (σ : Type) where
  /-- The state of the server. -/
  state : σ
  /-- The requests. -/
  sent : List Request := []

/-- The wire after one more request and what came of it; a request reaches a server unless that
cannot be reached. -/
def Wire.record {σ : Type} (wire : Wire σ) (request : Request) (reply : Reply) (state : σ) :
    Wire σ :=
  ⟨state, if reply = .unreachable then wire.sent else wire.sent ++ [request]⟩

/-- The server is left in its new state. -/
@[simp] theorem Wire.record_state {σ : Type} (wire : Wire σ) (request : Request) (reply : Reply)
    (state : σ) : (wire.record request reply state).state = state := rfl

/-- One more request was sent, or the server could not be reached. -/
@[simp] theorem Wire.record_sent {σ : Type} (wire : Wire σ) (request : Request) (reply : Reply)
    (state : σ) : (wire.record request reply state).sent =
      if reply = .unreachable then wire.sent else wire.sent ++ [request] := rfl

/-- Who sends requests: to which server, and how many milliseconds it waits for an answer. -/
structure Client (σ : Type) where
  /-- The server. -/
  server : Server σ
  /-- Milliseconds until an answer is given up. -/
  timeout : Nat

namespace Client

variable {σ : Type}

/-- What becomes of a request that was made, and after how many milliseconds. -/
def outcome (timeout : Nat) (url : Url) : Reply → Except SendFault Answer × Nat
  | .unreachable => (.error (.unconnected url), 0)
  | .closed => (.error (.closed url), 0)
  | .silence => (.error (.late url), timeout)
  | .answer delay answer =>
    if delay < timeout then (.ok answer, delay) else (.error (.late url), timeout)

/-- Send a request. -/
def send (client : Client σ) (request : Request) (wire : Wire σ) :
    Sent (Wire σ) (Except SendFault Answer) :=
  match request.fault? with
  | some fault => .refused wire (.error fault)
  | none =>
    let (reply, state) := client.server request wire.state
    let (result, duration) := outcome client.timeout request.url reply
    ⟨wire.record request reply state, [], duration, fun later => (result, later)⟩

end Client

end OffHours.Http
