import OffHours.Proofs.Fleet.PowerDocuments

/-!
# Classified calls

Reading the power of a machine, starting it and stopping it are one request each, and nothing is
asked twice (`Service.CalledOnce`). What comes of the request is told from what the server did with
it (`Classified`), with no regard to how the answer is taken apart: a result takes an answer of
success in time, and every failure has the class that its cause calls for. A request that cannot be
built is not sent, which is a permanent failure. The theorem `Service.power_calls_classified` says
so of every call, service, machine and server.
-/

namespace OffHours

open Http Manager

variable {σ α β : Type}

/-! ## Requests and replies -/

namespace Http

/-- What a server was asked, and what it did. -/
structure Exchange where
  /-- The request. -/
  request : Request
  /-- What became of it. -/
  reply : Reply

/-- The exchanges with a server from one wire to another. -/
inductive Exchanged (server : Server σ) (first : Wire σ) : List Exchange → Wire σ → Prop where
  /-- There is none yet. -/
  | start : Exchanged server first [] first
  /-- There is one more; a request reaches a server unless that cannot be reached. -/
  | more {exchanges : List Exchange} {wire : Wire σ} {request : Request} {reply : Reply} {state : σ}
    (before : Exchanged server first exchanges wire)
    (replied : server request wire.state = (reply, state)) :
    Exchanged server first (exchanges ++ [⟨request, reply⟩])
      ⟨state, if reply = .unreachable then wire.sent else wire.sent ++ [request]⟩

/-- What a request needs to be built. -/
structure Request.Buildable (request : Request) : Prop where
  /-- There is a host, and it can be asked. -/
  host : ∃ host, request.url.host = some host ∧ isAskable host = true
  /-- It is on the web. -/
  scheme : request.url.scheme = "http" ∨ request.url.scheme = "https"
  /-- What shows the right to ask can stand in a header. -/
  authorization : ∀ text, request.authorization = some text → isHeaderText text = true

/-- A request has no fault exactly when it can be built. -/
theorem Request.fault?_eq_none_iff {request : Request} :
    request.fault? = none ↔ request.Buildable := by
  rw [Request.fault?]
  cases host : request.url.host with
  | none =>
    refine iff_of_false (by simp) fun buildable => ?_
    obtain ⟨found, same, -⟩ := buildable.host
    rw [host] at same
    cases same
  | some found =>
    constructor
    · intro none
      simp only at none
      split at none
      · cases none
      · rename_i written
        split at none
        · rename_i fits
          rw [Bool.and_eq_true] at fits
          refine ⟨⟨found, host, fits.2⟩, by simpa using fits.1, fun text same => ?_⟩
          simpa [same] using written
        · cases none
    · intro buildable
      obtain ⟨other, same, askable⟩ := buildable.host
      obtain rfl := Option.some.inj (host.symm.trans same)
      have written : request.authorization.all isHeaderText = true := by
        rw [Option.all_eq_true]
        exact buildable.authorization
      have web : ["http", "https"].contains request.url.scheme = true := by
        simpa using buildable.scheme
      simp only [written, web, askable]
      rfl

/-- A request that cannot be built does not pass. -/
theorem Request.isPassing_eq_false_of_fault? {request : Request} {fault : SendFault}
    (unbuilt : request.fault? = some fault) : fault.isPassing = false := by
  rw [Request.fault?] at unbuilt
  split at unbuilt
  · cases unbuilt
    rfl
  · split at unbuilt
    · cases unbuilt
      rfl
    · split at unbuilt
      · cases unbuilt
      · cases unbuilt
        rfl

/-- The request was carried out. -/
def Answer.Succeeds (answer : Answer) : Prop := 200 ≤ answer.status ∧ answer.status ≤ 299

/-- A later request may be carried out. -/
def Answer.Passes (answer : Answer) : Prop :=
  answer.status = 408 ∨ answer.status = 429 ∨ 500 ≤ answer.status ∧ answer.status ≤ 599

/-- A server gives an answer in time. -/
def Reply.Gives (timeout : Nat) (reply : Reply) (answer : Answer) : Prop :=
  ∃ delay, delay < timeout ∧ reply = .answer delay answer

/-- A server cannot be reached, or no answer comes in time. -/
inductive Reply.Unheard (timeout : Nat) : Reply → Prop where
  /-- It cannot be reached. -/
  | unreachable : Unheard timeout .unreachable
  /-- It never answers. -/
  | silence : Unheard timeout .silence
  /-- It answers too late. -/
  | late {delay : Nat} {answer : Answer} (past : timeout ≤ delay) :
    Unheard timeout (.answer delay answer)

/-- A server gives one answer. -/
theorem Reply.Gives.unique {timeout : Nat} {reply : Reply} {first second : Answer}
    (one : reply.Gives timeout first) (two : reply.Gives timeout second) : first = second := by
  obtain ⟨delay, -, rfl⟩ := one
  obtain ⟨later, -, same⟩ := two
  cases same
  rfl

/-- A request is carried out with the status codes of success. -/
theorem isSuccess_iff {answer : Answer} : isSuccess answer.status = true ↔ answer.Succeeds := by
  simp [isSuccess, Answer.Succeeds]
  omega

/-- A later request may be carried out with the status codes of throttling, time-outs and server
faults. -/
theorem isPassing_iff {answer : Answer} : isPassing answer.status = true ↔ answer.Passes := by
  simp [isPassing, Answer.Passes]
  omega

/-- What a server does comes to an answer, a fault that passes, or one that does not. -/
theorem Client.outcome_cases (timeout : Nat) (url : Url) (reply : Reply) :
    (∃ answer, reply.Gives timeout answer ∧ (outcome timeout url reply).1 = .ok answer) ∨
      (reply.Unheard timeout ∧
        ∃ fault, (outcome timeout url reply).1 = .error fault ∧ fault.isPassing = true) ∨
      (reply = .closed ∧
        ∃ fault, (outcome timeout url reply).1 = .error fault ∧ fault.isPassing = false) := by
  cases reply with
  | unreachable => exact Or.inr (Or.inl ⟨.unreachable, _, rfl, rfl⟩)
  | silence => exact Or.inr (Or.inl ⟨.silence, _, rfl, rfl⟩)
  | closed => exact Or.inr (Or.inr ⟨rfl, _, rfl, rfl⟩)
  | answer delay answer =>
    by_cases early : delay < timeout
    · exact Or.inl ⟨answer, ⟨delay, early, rfl⟩, by rw [outcome, if_pos early]⟩
    · refine Or.inr (Or.inl ⟨.late (Nat.le_of_not_lt early), .late url, ?_, rfl⟩)
      rw [outcome, if_neg early]

end Http

/-! ## Classes -/

namespace Manager

/-- A call failed, with a failure of this class. -/
def FailsAs (result : Except ApiError α) (errorClass : ErrorClass) : Prop :=
  ∃ error, result = .error error ∧ error.errorClass = errorClass

/-- What comes of a reply, when an answer of success is accepted with some values. -/
structure Classified (timeout : Nat) (accepts : Answer → α → Prop) (reply : Reply)
    (result : Except ApiError α) : Prop where
  /-- A result is a value that an answer of success in time is accepted with. -/
  ok : ∀ value, result = .ok value ↔
    ∃ answer, reply.Gives timeout answer ∧ answer.Succeeds ∧ accepts answer value
  /-- A failure is transient when nothing was heard, or the status says so. -/
  transient : FailsAs result .transient ↔
    reply.Unheard timeout ∨ ∃ answer, reply.Gives timeout answer ∧ answer.Passes
  /-- An answer of success is not understood when it is not accepted. -/
  decode : FailsAs result .decode ↔
    ∃ answer, reply.Gives timeout answer ∧ answer.Succeeds ∧ ∀ value, ¬ accepts answer value
  /-- Every other failure is permanent: the connection was closed, or the request rejected. -/
  permanent : FailsAs result .permanent ↔
    reply = .closed ∨
      ∃ answer, reply.Gives timeout answer ∧ ¬ answer.Succeeds ∧ ¬ answer.Passes

/-- A result is no failure. -/
theorem not_failsAs_ok {value : α} {errorClass : ErrorClass} :
    ¬ FailsAs (.ok value) errorClass := by
  rintro ⟨error, none, -⟩
  cases none

/-- A failure has its class. -/
theorem failsAs_error_iff {error : ApiError} {errorClass : ErrorClass} :
    FailsAs (.error error : Except ApiError α) errorClass ↔ error.errorClass = errorClass := by
  constructor
  · rintro ⟨_, ⟨⟩, same⟩
    exact same
  · exact fun same => ⟨error, rfl, same⟩

/-- A request that was carried out does not call for another one. -/
theorem not_passes_of_succeeds {answer : Answer} (succeeds : answer.Succeeds) :
    ¬ answer.Passes := by
  obtain ⟨low, high⟩ := succeeds
  rintro (same | same | ⟨above, -⟩) <;> omega

variable {timeout : Nat} {accepts : Answer → α → Prop} {reply : Reply} {answer : Answer}
  {result : Except ApiError α}

/-- A reply with an answer is classified by that. -/
theorem classified_of_gives (gives : reply.Gives timeout answer)
    (ok : ∀ value, result = .ok value ↔ answer.Succeeds ∧ accepts answer value)
    (transient : FailsAs result .transient ↔ answer.Passes)
    (decode : FailsAs result .decode ↔ answer.Succeeds ∧ ∀ value, ¬ accepts answer value)
    (permanent : FailsAs result .permanent ↔ ¬ answer.Succeeds ∧ ¬ answer.Passes) :
    Classified timeout accepts reply result := by
  have only : ∀ {fits : Answer → Prop}, (∃ other, reply.Gives timeout other ∧ fits other) ↔
      fits answer := by
    intro fits
    constructor
    · rintro ⟨other, also, fit⟩
      rwa [gives.unique also]
    · exact fun fit => ⟨answer, gives, fit⟩
  have heard : ¬ reply.Unheard timeout := by
    obtain ⟨delay, early, rfl⟩ := gives
    rintro (_ | _ | past)
    omega
  have answered : reply ≠ .closed := by
    obtain ⟨delay, -, rfl⟩ := gives
    exact fun none => by cases none
  exact {
    ok := fun value => (ok value).trans (by rw [only])
    transient := transient.trans (by rw [only, or_iff_right heard])
    decode := decode.trans (by rw [only])
    permanent := permanent.trans (by rw [only, or_iff_right answered]) }

/-- A reply without an answer is classified by its cause. -/
theorem classified_of_error {error : ApiError} (none : ∀ answer, ¬ reply.Gives timeout answer)
    (transient : error.errorClass = .transient ↔ reply.Unheard timeout)
    (permanent : error.errorClass = .permanent ↔ reply = .closed)
    (understood : error.errorClass ≠ .decode) :
    Classified timeout accepts reply (.error error) := by
  have never : ∀ {fits : Answer → Prop}, ¬ ∃ other, reply.Gives timeout other ∧ fits other := by
    rintro fits ⟨other, gives, -⟩
    exact none other gives
  exact {
    ok := fun value => iff_of_false (fun same => by cases same) never
    transient := by rw [failsAs_error_iff, or_iff_left never, transient]
    decode := iff_of_false (mt failsAs_error_iff.mp understood) never
    permanent := by rw [failsAs_error_iff, or_iff_left never, permanent] }

/-- An answer of success is classified by what is made of it. -/
theorem classified_of_succeeds (gives : reply.Gives timeout answer) (succeeds : answer.Succeeds)
    (accepted : ∀ value, result = .ok value ↔ accepts answer value)
    (refused : ∀ error, result = .error error → error.errorClass = .decode) :
    Classified timeout accepts reply result := by
  have passes := not_passes_of_succeeds succeeds
  have classes : ∀ errorClass, FailsAs result errorClass → errorClass = .decode := by
    rintro errorClass ⟨error, failed, rfl⟩
    exact refused error failed
  refine classified_of_gives gives (fun value => ?_) ?_ ?_ ?_
  · rw [accepted, and_iff_right succeeds]
  · exact iff_of_false (fun fails => nomatch classes _ fails) passes
  · rw [and_iff_right succeeds]
    simp only [← accepted]
    cases result with
    | ok value => simp [not_failsAs_ok]
    | error error => simp [failsAs_error_iff, refused error rfl]
  · exact iff_of_false (fun fails => nomatch classes _ fails) fun both => both.1 succeeds

/-- An answer without success is classified by its status. -/
theorem classified_of_rejected (gives : reply.Gives timeout answer) (rejected : ¬ answer.Succeeds)
    {error : ApiError}
    (errorClass : error.errorClass = Call.classOf (Http.isPassing answer.status)) :
    Classified timeout accepts reply (.error error) := by
  refine classified_of_gives gives (fun value => ?_) ?_ ?_ ?_
  · exact iff_of_false (fun none => by cases none) fun both => rejected both.1
  · rw [failsAs_error_iff, errorClass, ← isPassing_iff]
    cases Http.isPassing answer.status <;> simp [Call.classOf]
  · refine iff_of_false (fun fails => ?_) fun both => rejected both.1
    rw [failsAs_error_iff, errorClass] at fails
    cases passing : Http.isPassing answer.status <;> simp [Call.classOf, passing] at fails
  · rw [failsAs_error_iff, errorClass, ← isPassing_iff, and_iff_right rejected]
    cases Http.isPassing answer.status <;> simp [Call.classOf]

/-- A failure of the connection is classified by whether it passes. -/
theorem classified_of_unheard (unheard : reply.Unheard timeout) {error : ApiError}
    (errorClass : error.errorClass = .transient) :
    Classified timeout accepts reply (.error error) := by
  refine classified_of_error (fun answer gives => ?_) (iff_of_true errorClass unheard) ?_ ?_
  · obtain ⟨delay, early, rfl⟩ := gives
    cases unheard with
    | late past => omega
  · refine iff_of_false (by simp [errorClass]) ?_
    rintro rfl
    cases unheard
  · simp [errorClass]

/-- A connection that was closed is a permanent failure. -/
theorem classified_of_closed {error : ApiError} (errorClass : error.errorClass = .permanent) :
    Classified timeout accepts .closed (.error error) := by
  refine classified_of_error (fun answer gives => ?_) ?_ (iff_of_true errorClass rfl) ?_
  · obtain ⟨delay, -, none⟩ := gives
    cases none
  · exact iff_of_false (by simp [errorClass]) fun none => nomatch none
  · simp [errorClass]

/-- What is made of an answer of success is classified, when it is a failure to understand it or a
value that it is accepted with. -/
theorem Call.classified_bind (call : Call) (timeout : Nat) (url : Url) (reply : Reply)
    {next : Answer → Except ApiError α}
    (accepted : ∀ answer value, next answer = .ok value ↔ accepts answer value)
    (refused : ∀ answer error, next answer = .error error → error.errorClass = .decode) :
    Classified timeout accepts reply
      ((call.check (Client.outcome timeout url reply).1).bind next) := by
  rcases Client.outcome_cases timeout url reply with
    ⟨answer, gives, came⟩ | ⟨unheard, fault, came, passing⟩ | ⟨rfl, fault, came, passing⟩
  · rw [came, check]
    by_cases succeeds : answer.Succeeds
    · rw [if_pos (isSuccess_iff.mpr succeeds)]
      exact classified_of_succeeds gives succeeds (accepted answer) (refused answer)
    · rw [if_neg (mt isSuccess_iff.mp succeeds)]
      exact classified_of_rejected gives succeeds rfl
  · rw [came]
    exact classified_of_unheard unheard (congrArg classOf passing)
  · rw [came]
    exact classified_of_closed (congrArg classOf passing)

/-- What is read from the body of an answer is classified. -/
theorem Call.classified_decode (call : Call) (timeout : Nat) (url : Url) (reply : Reply)
    (reader : Value → Option α) :
    Classified timeout
      (fun answer value => (answer.body.bind Json.read?).bind reader = some value) reply
      (call.decode reader (Client.outcome timeout url reply).1) := by
  refine call.classified_bind timeout url reply (fun answer value => ?_) fun answer error => ?_
  · cases (answer.body.bind Json.read?).bind reader with
    | none => simp
    | some found => simp
  · cases (answer.body.bind Json.read?).bind reader with
    | none =>
      rintro ⟨⟩
      rfl
    | some found => exact fun none => by cases none

/-- An action is classified, and every answer of success is accepted. -/
theorem Call.classified_order (call : Call) (timeout : Nat) (url : Url) (reply : Reply) :
    Classified timeout (fun _ _ => True) reply
      ((call.check (Client.outcome timeout url reply).1).map fun _ => ()) := by
  have same : ∀ checked : Except ApiError Answer,
      checked.map (fun _ => ()) = checked.bind fun _ => .ok () := by
    rintro (_ | _) <;> rfl
  rw [same]
  refine call.classified_bind timeout url reply (fun answer value => ?_) fun answer error none => ?_
  · simp
  · cases none

/-! ## Calls -/

/-- What stands behind the id of a machine in the address of a call. -/
def suffix : ResourceKind → PowerCallKind → String
  | .compute, .read => "/instanceView"
  | .classic, .read => ""
  | _, .action .start => "/start"
  | .compute, .action .stop => "/deallocate"
  | .classic, .action .stop => "/shutdown"

/-- The version of the interface of a family of machines. -/
def interfaceVersion : ResourceKind → String
  | .compute => "2023-03-01"
  | .classic => "2017-04-01"

/-- How a call is made. -/
def methodOf : PowerCallKind → Method
  | .read => .get
  | .action _ => .post

namespace Service

variable {service : Service σ} {kind : ResourceKind} {machine : Machine} {call : PowerCallKind}
  {wire : Wire σ}

/-- The request of a call about a machine. -/
structure Requests (service : Service σ) (kind : ResourceKind) (machine : Machine)
    (call : PowerCallKind) (request : Request) : Prop where
  /-- It goes to the endpoint, the id of the machine and the call, under the version of the
  family. -/
  address : ∃ url,
    Url.parse (service.account.endpoint ++ machine.id ++ suffix kind call) = .ok url ∧
      request.url = url.withPairs [("api-version", interfaceVersion kind)]
  /-- It reads or acts. -/
  method : request.method = methodOf call
  /-- It shows the token. -/
  authorization : request.authorization = some ("Bearer " ++ service.token.secret)
  /-- It carries no data. -/
  body : request.body = none
  /-- It can be built. -/
  buildable : request.Buildable

/-- A call is made once: its request is sent there and then, nothing is sent later, and the result
is classified by what the server did. -/
structure CalledOnce (service : Service σ) (kind : ResourceKind) (machine : Machine)
    (call : PowerCallKind) (accepts : Answer → α → Prop) (wire : Wire σ)
    (sent : Sent (Wire σ) (Except ApiError α)) : Prop where
  /-- Without a request that can be built nothing is sent, and the failure is permanent. -/
  unbuilt : (∀ request, ¬ service.Requests kind machine call request) →
    sent.world = wire ∧
      ∀ later, (sent.settle later).2 = later ∧ FailsAs (sent.settle later).1 .permanent
  /-- A request that can be built is sent once. -/
  built : ∀ request, service.Requests kind machine call request →
    ∃ reply, Exchanged service.client.server wire [⟨request, reply⟩] sent.world ∧
      ∀ later, (sent.settle later).2 = later ∧
        Classified service.client.timeout accepts reply (sent.settle later).1

/-- The request to the address of a call. -/
def requestTo (service : Service σ) (kind : ResourceKind) (call : PowerCallKind) (url : Url) :
    Request :=
  service.request (methodOf call) (url.withPairs [("api-version", interfaceVersion kind)])

/-- The request of a call is the one to its address, when it can be built. -/
theorem requests_iff {url : Url} {request : Request}
    (parsed : Url.parse (service.account.endpoint ++ machine.id ++ suffix kind call) = .ok url) :
    service.Requests kind machine call request ↔
      request = service.requestTo kind call url ∧ request.Buildable := by
  constructor
  · rintro ⟨⟨other, also, address⟩, method, authorization, body, buildable⟩
    obtain rfl := Except.ok.inj (parsed.symm.trans also)
    refine ⟨?_, buildable⟩
    cases request
    simp only at method address authorization body
    rw [method, address, authorization, body]
    rfl
  · rintro ⟨rfl, buildable⟩
    exact ⟨⟨url, parsed, rfl⟩, rfl, rfl, rfl, buildable⟩

/-- Sending a request that can be built is one exchange, and what comes of it is told by the
reply. -/
theorem exists_exchanged (client : Client σ) {request : Request} (buildable : request.Buildable)
    (wire : Wire σ) :
    ∃ reply, Exchanged client.server wire [⟨request, reply⟩] (client.send request wire).world ∧
      ∀ later, (client.send request wire).settle later =
        ((Client.outcome client.timeout request.url reply).1, later) := by
  cases replied : client.server request wire.state with
  | mk reply state =>
    rw [Client.send, Request.fault?_eq_none_iff.mpr buildable]
    simp only [replied]
    exact ⟨reply, .more .start replied, fun _ => rfl⟩

/-- A request that cannot be built is refused with a fault that does not pass. -/
theorem exists_refused (client : Client σ) {request : Request} (unbuildable : ¬ request.Buildable)
    (wire : Wire σ) :
    ∃ fault, fault.isPassing = false ∧
      client.send request wire = .refused wire (.error fault) := by
  cases unbuilt : request.fault? with
  | none => exact absurd (Request.fault?_eq_none_iff.mp unbuilt) unbuildable
  | some fault =>
    refine ⟨fault, Request.isPassing_eq_false_of_fault? unbuilt, ?_⟩
    rw [Client.send, unbuilt]

/-- A call whose answer is read in some way settles with what was read. -/
theorem settle_reported_map (sent : Sent (Wire σ) α) (read : α → β) (log : Log)
    (later : Wire σ) :
    ((sent.map read).reported log).settle later =
      (read (sent.settle later).1, (sent.settle later).2) :=
  rfl

/-- The address of a call is put together from the endpoint, the id and the call. -/
theorem resource_eq (account : Account) (kind : ResourceKind) (id : String) {below : Option String}
    (behind : below.elim "" ("/" ++ ·) = suffix kind call) :
    account.resource kind id below =
      Account.address id (account.endpoint ++ id ++ suffix kind call)
        [("api-version", interfaceVersion kind)] := by
  rw [Account.resource, behind]
  cases kind <;> rfl

/-- A call that sends the request to its address, and reads what comes of it as it should, is made
once. -/
theorem calledOnce_of_send {below : Option String} {accepts : Answer → α → Prop}
    {read : Except SendFault Answer → Except ApiError α} {log : Url → Log}
    (behind : below.elim "" ("/" ++ ·) = suffix kind call)
    (classified : ∀ timeout url reply,
      Classified timeout accepts reply (read (Client.outcome timeout url reply).1))
    (refused : ∀ fault, fault.isPassing = false → FailsAs (read (.error fault)) .permanent) :
    CalledOnce service kind machine call accepts wire
      (whenKnown (service.account.resource kind machine.id below) wire fun url =>
        ((service.client.send (service.request (methodOf call) url) wire).map read).reported
          (log url)) := by
  rw [resource_eq service.account kind machine.id behind, Account.address]
  cases parsed : Url.parse (service.account.endpoint ++ machine.id ++ suffix kind call) with
  | error fault =>
    refine ⟨fun _ => ⟨rfl, fun later => ⟨rfl, _, rfl, rfl⟩⟩, fun request requests => ?_⟩
    obtain ⟨url, address, -⟩ := requests.address
    rw [parsed] at address
    cases address
  | ok url =>
    change CalledOnce service kind machine call accepts wire
      (((service.client.send (service.requestTo kind call url) wire).map read).reported
        (log (url.withPairs [("api-version", interfaceVersion kind)])))
    by_cases buildable : (service.requestTo kind call url).Buildable
    · obtain ⟨reply, exchanged, settled⟩ := exists_exchanged service.client buildable wire
      refine ⟨fun none => absurd ((requests_iff parsed).mpr ⟨rfl, buildable⟩) (none _),
        fun request requests => ?_⟩
      obtain ⟨rfl, -⟩ := (requests_iff parsed).mp requests
      refine ⟨reply, exchanged, fun later => ?_⟩
      rw [settle_reported_map, settled later]
      exact ⟨rfl, classified service.client.timeout _ reply⟩
    · obtain ⟨fault, lasting, refusal⟩ := exists_refused service.client buildable wire
      refine ⟨fun _ => ?_, fun request requests => ?_⟩
      · rw [refusal]
        exact ⟨rfl, fun later => ⟨rfl, refused fault lasting⟩⟩
      · obtain ⟨rfl, also⟩ := (requests_iff parsed).mp requests
        exact absurd also buildable

/-- The body of an answer shows the power state of a machine. -/
def ShowsPowerIn (kind : ResourceKind) (answer : Answer) (state : PowerState) : Prop :=
  ∃ body document, answer.body = some body ∧ Json.read? body = some document ∧
    ShowsPower kind document state

/-- The body of an answer shows the power state that is read from it. -/
theorem showsPowerIn_iff {answer : Answer} {state : PowerState} :
    (answer.body.bind Json.read?).bind (power? kind) = some state ↔
      ShowsPowerIn kind answer state := by
  simp only [Option.bind_eq_some_iff, power?_eq_some_iff, ShowsPowerIn]
  constructor
  · rintro ⟨document, ⟨body, written, read⟩, shows⟩
    exact ⟨body, document, written, read, shows⟩
  · rintro ⟨body, document, written, read, shows⟩
    exact ⟨document, ⟨body, written, read⟩, shows⟩

/-- Every call about the power of a machine is made once and classified: the power state is the one
that the body of an answer of success shows, and an action needs such an answer and no body. -/
theorem power_calls_classified (service : Service σ) (kind : ResourceKind) (machine : Machine)
    (wire : Wire σ) :
    service.CalledOnce kind machine .read (ShowsPowerIn kind) wire
        (service.power kind machine wire) ∧
      ∀ action, service.CalledOnce kind machine (.action action) (fun _ _ => True) wire
        (service.act action kind machine wire) := by
  constructor
  · refine calledOnce_of_send (by cases kind <;> rfl) (fun timeout url reply => ?_)
      fun fault lasting => ⟨_, rfl, ?_⟩
    · have accepted : ShowsPowerIn kind = fun answer state =>
          (answer.body.bind Json.read?).bind (power? kind) = some state := by
        funext answer state
        exact propext showsPowerIn_iff.symm
      rw [accepted]
      exact Call.classified_decode _ timeout url reply (power? kind)
    · exact congrArg Call.classOf lasting
  · intro action
    refine calledOnce_of_send (by cases kind <;> cases action <;> rfl)
      (fun timeout url reply => ?_) fun fault lasting => ⟨_, rfl, ?_⟩
    · exact Call.classified_order _ timeout url reply
    · exact congrArg Call.classOf lasting

end Service

end Manager

end OffHours
