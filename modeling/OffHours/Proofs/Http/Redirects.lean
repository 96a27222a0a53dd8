import OffHours.Http.Redirect

/-!
# What redirects do

The hops of a request are the requests that go over the network for it: the first is the request
itself, and each further one is sent on by the response before it. `Relayed` says which hops a
library may take for a request and what it may give back, `Follows` that a server is a network
behind such a library. How many redirects are followed, and what becomes of a request that is
redirected too often or somewhere it cannot go, is left open. `Network.follows` shows that the
network as the program finds it is such a server.
-/

namespace OffHours.Http

variable {σ : Type}

/-! ## Hops -/

/-- A request over a network, and what came back. -/
structure Hop where
  /-- The request. -/
  request : Request
  /-- What came back. -/
  response : Response

namespace Hop

/-- The answer of a hop, when it comes in time. -/
def answer? (timeout : Nat) (hop : Hop) : Option Answer :=
  (Client.outcome timeout hop.request.url hop.response.reply).1.toOption

/-- The response of a hop sends its request on as another one. -/
def SendsOn (hop : Hop) (next : Request) : Prop :=
  ∃ delay, hop.response.onward? hop.request = some (delay, next)

/-- A request that is sent on shows the right to ask only as the one before it does, and only at
its host and port. -/
theorem SendsOn.authorized {hop : Hop} {next : Request} (sends : hop.SendsOn next)
    (shows : next.authorization ≠ none) :
    next.url.place = hop.request.url.place ∧
      next.authorization = hop.request.authorization := by
  obtain ⟨delay, onward⟩ := sends
  have redirected : ∃ status url, hop.request.redirected? status url = some next := by
    rw [Response.onward?] at onward
    split at onward
    · rename_i delay answer url replied pointed
      obtain ⟨found, redirected, same⟩ := Option.map_eq_some_iff.mp onward
      cases same
      exact ⟨answer.status, url, redirected⟩
    · cases onward
  obtain ⟨status, url, redirected⟩ := redirected
  have sent : next.url = url ∧
      next.authorization = (hop.request.sentTo url).authorization := by
    unfold Request.redirected? at redirected
    split at redirected <;> cases redirected <;> exact ⟨rfl, rfl⟩
  obtain ⟨rfl, kept⟩ := sent
  rw [Request.sentTo] at kept
  split at kept
  · rename_i place
    exact ⟨place, kept⟩
  · exact absurd kept shows

end Hop

/-- The hops over a network from one wire to another. -/
inductive Hops (network : Network σ) (first : Wire σ) : List Hop → Wire σ → Prop where
  /-- There is none yet. -/
  | start : Hops network first [] first
  /-- There is one more. -/
  | more {hops : List Hop} {wire : Wire σ} {request : Request} {response : Response} {state : σ}
    (before : Hops network first hops wire)
    (came : network request wire.state = (response, state)) :
    Hops network first (hops ++ [⟨request, response⟩])
      (wire.record request response.reply state)

/-- The requests that reached the network are those of the hops at whose end there was a server. -/
theorem Hops.sent {network : Network σ} {first wire : Wire σ} {hops : List Hop}
    (along : Hops network first hops wire) :
    wire.sent = first.sent ++
      (hops.filter (·.response.reply ≠ .unreachable)).map Hop.request := by
  induction along with
  | start => simp
  | @more hops wire request response state before came hypothesis =>
    rw [List.filter_append, List.map_append, Wire.record_sent]
    by_cases away : response.reply = .unreachable
    · simp [away, hypothesis]
    · simp [away, hypothesis]

/-! ## A library that follows redirects -/

/-- What is given back passes on an earlier reply: it is its answer, no sooner, or no answer. -/
def Reply.PassesOn (reply earlier : Reply) : Prop :=
  ∀ delay answer, reply = .answer delay answer →
    ∃ sooner, sooner ≤ delay ∧ earlier = .answer sooner answer

/-- A reply passes itself on. -/
theorem Reply.PassesOn.refl (reply : Reply) : reply.PassesOn reply :=
  fun delay _ same => ⟨delay, Nat.le_refl delay, same⟩

/-- A reply that comes later passes on the same. -/
theorem Reply.PassesOn.after {reply earlier : Reply} (passes : reply.PassesOn earlier)
    (delay : Nat) : (reply.after delay).PassesOn earlier := by
  intro whole answer same
  cases reply with
  | answer own found =>
    rw [Reply.after] at same
    cases same
    obtain ⟨sooner, bound, came⟩ := passes own answer rfl
    exact ⟨sooner, Nat.le_trans bound (Nat.le_add_left own delay), came⟩
  | closed | silence | unreachable => cases same

/-- An answer that is passed on in time came in time. -/
theorem Reply.PassesOn.answer?_eq {timeout : Nat} {url : Url} {reply : Reply} {hop : Hop}
    {answer : Answer} (passes : reply.PassesOn hop.response.reply)
    (answered : (Client.outcome timeout url reply).1 = .ok answer) :
    hop.answer? timeout = some answer := by
  cases reply with
  | answer delay found =>
    rw [Client.outcome] at answered
    split at answered
    · rename_i early
      cases answered
      obtain ⟨sooner, bound, came⟩ := passes delay answer rfl
      rw [Hop.answer?, came, Client.outcome, if_pos (Nat.lt_of_le_of_lt bound early)]
      rfl
    · cases answered
  | closed | silence | unreachable => cases answered

/-- A request goes over a network in some hops, and a reply is given back: the answer of the last
hop, or no answer. -/
inductive Relayed (network : Network σ) : Request → Wire σ → List Hop → Reply → Wire σ → Prop where
  /-- The request goes no further. -/
  | last {request : Request} {wire : Wire σ} {response : Response} {state : σ} {reply : Reply}
    (came : network request wire.state = (response, state))
    (passes : reply.PassesOn response.reply) :
    Relayed network request wire [⟨request, response⟩] reply
      (wire.record request response.reply state)
  /-- The response sends it on. -/
  | onward {request next : Request} {wire later : Wire σ} {response : Response} {state : σ}
    {hops : List Hop} {reply : Reply} (came : network request wire.state = (response, state))
    (sends : Hop.SendsOn ⟨request, response⟩ next)
    (rest : Relayed network next (wire.record request response.reply state) hops reply later) :
    Relayed network request wire (⟨request, response⟩ :: hops) reply later

/-- The reply may as well be given back later. -/
theorem Relayed.after {network : Network σ} {request : Request} {wire later : Wire σ}
    {hops : List Hop} {reply : Reply} (relayed : Relayed network request wire hops reply later)
    (delay : Nat) : Relayed network request wire hops (reply.after delay) later := by
  induction relayed with
  | last came passes => exact .last came (passes.after delay)
  | onward came sends rest hypothesis => exact .onward came sends hypothesis

/-- A server is a network behind a library that follows redirects: the library sends each request
on as its responses say, keeps what shows the right to ask at one host and port only, and gives
back the answer that it finds in the end or none. -/
def Follows (network : Network σ) (server : Server (Wire σ)) : Prop :=
  ∀ request wire, ∃ hops,
    Relayed network request wire hops (server request wire).1 (server request wire).2

namespace Network

/-- To follow redirects is to relay a request. -/
theorem exists_relayed_follow (network : Network σ) (redirects time : Nat) (request : Request)
    (wire : Wire σ) :
    ∃ hops, Relayed network request wire hops (network.follow redirects time request wire).1
      (network.follow redirects time request wire).2 := by
  fun_induction Network.follow network redirects time request wire with
  | case1 redirects time request wire response state came recorded stays =>
    exact ⟨_, .last came (.refl response.reply)⟩
  | case2 redirects time request wire response state came recorded delay next onward late =>
    exact ⟨_, .last came fun _ _ none => by cases none⟩
  | case3 time request wire response state came recorded delay next onward early =>
    exact ⟨_, .last came fun _ _ none => by cases none⟩
  | case4 time request wire response state came recorded delay next onward early redirects
      impossible =>
    exact ⟨_, .last came fun _ _ none => by cases none⟩
  | case5 time request wire response state came recorded delay next onward early redirects
      possible reply later followed hypothesis =>
    obtain ⟨hops, relayed⟩ := hypothesis
    rw [followed] at relayed
    exact ⟨_, .onward came ⟨delay, onward⟩ (relayed.after delay)⟩

/-- The network as the program finds it follows redirects. -/
theorem follows (network : Network σ) (timeout : Nat) :
    Follows network (network.server timeout) := fun request wire =>
  network.exists_relayed_follow mostRedirects timeout request wire

end Network

end OffHours.Http
