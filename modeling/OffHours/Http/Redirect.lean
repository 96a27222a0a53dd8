import OffHours.Http.Exchange

/-!
# Redirects

An answer may point to another address. The library that sends the requests of the program goes
there by itself, and gives back what it finds in the end: what the program takes for a server is a
network behind this library. A request that goes on asks for the same again or only reads, as the
status says. It keeps what shows the right to ask while it stays at one host and port, whatever
the scheme, and loses it elsewhere.
-/

namespace OffHours.Http

/-- What comes back to a request over a network. -/
structure Response where
  /-- What the server there does with the request. -/
  reply : Reply
  /-- The address that the answer points to, taken from the one of the request, if it does. -/
  location : Option Url := none
  deriving DecidableEq, Repr

/-- A network with a state. -/
abbrev Network (σ : Type) := Request → σ → Response × σ

namespace Request

/-- The request at another address. What shows the right to ask stays at its host and port. -/
def sentTo (request : Request) (url : Url) : Request :=
  { request with
    url
    authorization := if url.place = request.url.place then request.authorization else none }

/-- The request at the address that an answer with a status points to, if the status says to go
there. -/
def redirected? (request : Request) (status : Nat) (url : Url) : Option Request :=
  match status with
  | 301 | 302 | 303 => some { request.sentTo url with method := .get, body := none }
  | 307 | 308 => some (request.sentTo url)
  | _ => none

end Request

/-- The request that goes on from a response, and after how many milliseconds. -/
def Response.onward? (response : Response) (request : Request) : Option (Nat × Request) :=
  match response.reply, response.location with
  | .answer delay answer, some url =>
    (request.redirected? answer.status url).map fun next => (delay, next)
  | _, _ => none

/-- A reply that comes so many milliseconds later. -/
def Reply.after (delay : Nat) : Reply → Reply
  | .answer sooner found => .answer (delay + sooner) found
  | reply => reply

namespace Network

variable {σ : Type}

/-- How many redirects of a request are followed. -/
def mostRedirects : Nat := 10

/-- What a request comes to within so many milliseconds, when so many redirects are followed. -/
def follow (network : Network σ) (redirects time : Nat) (request : Request) (wire : Wire σ) :
    Reply × Wire σ :=
  let (response, state) := network request wire.state
  let wire := wire.record request response.reply state
  match response.onward? request with
  | none => (response.reply, wire)
  | some (delay, next) =>
    if time ≤ delay then (.silence, wire)
    else
      match redirects with
      | 0 => (.closed, wire)
      | redirects + 1 =>
        if next.fault?.isSome then (.closed, wire)
        else
          let (reply, later) := follow network redirects (time - delay) next wire
          (reply.after delay, later)

/-- The network as the program finds it when a request is given up after so many milliseconds. Its
state is a wire with all requests over the network, while the wire of a client with this server has
those that the program makes. -/
def server (network : Network σ) (timeout : Nat) : Server (Wire σ) := fun request wire =>
  network.follow mostRedirects timeout request wire

end Network

/-- Who sends requests over a network. -/
def Client.over {σ : Type} (network : Network σ) (timeout : Nat) : Client (Wire σ) :=
  ⟨network.server timeout, timeout⟩

end OffHours.Http
