import OffHours.Proofs.Program.Safety

/-!
# What the token reaches

Nothing but the header that shows the right to ask depends on the token. The program is run twice,
with two tokens that can stand in a header, against servers and a way of mail that do not look at
that header; ids and times of the runs are the same on both sides. Requests that differ in nothing
else are answered alike (`Client.send_alike`), so every call of the resource manager goes alike and
with it every run (`Service.plane_withToken`, `Run.conduct_matched`), channels deliver alike, and so
do any number of runs one after the other: `Program.token_reaches_header_only`.
-/

namespace OffHours

open Http Manager

variable {σ α β : Type}

/-! ## Requests apart from the header -/

namespace Http

/-- A request without what shows the right to ask. -/
def Request.bare (request : Request) : Request := { request with authorization := none }

/-- Two requests that differ in nothing but what shows the right to ask, which can stand in a header
in both or in neither. -/
structure Request.Alike (left right : Request) : Prop where
  /-- The rest is the same. -/
  bare : left.bare = right.bare
  /-- Both can be sent as far as the header goes, or neither. -/
  header : left.authorization.all isHeaderText = right.authorization.all isHeaderText

/-- Two wires that differ in nothing but the headers of their requests, and in what a server keeps
of them. -/
structure Wire.Alike (same : σ → σ → Prop) (left right : Wire σ) : Prop where
  /-- The servers go on alike. -/
  state : same left.state right.state
  /-- Apart from the header the requests are the same. -/
  sent : left.sent.map Request.bare = right.sent.map Request.bare

/-- A server that does not look at what shows the right to ask: to requests that differ in nothing
else it replies the same, and goes on alike. -/
def Server.Heedless (same : σ → σ → Prop) (server : Server σ) : Prop :=
  ∀ {left right : Request} {state other : σ}, left.bare = right.bare → same state other →
    (server left state).1 = (server right other).1 ∧
      same (server left state).2 (server right other).2

/-- Requests that differ in nothing else go to one address. -/
theorem Request.Alike.url {left right : Request} (alike : left.Alike right) :
    left.url = right.url := by
  have bare : left.bare.url = right.bare.url := congrArg Request.url alike.bare
  exact bare

/-- Requests that differ in nothing else can be made or fail to be made for one reason. -/
theorem Request.Alike.fault?_eq {left right : Request} (alike : left.Alike right) :
    left.fault? = right.fault? := by
  rw [Request.fault?, Request.fault?, alike.url, alike.header]

end Http

/-! ## Calls that go alike -/

namespace Sent.Matched

variable {outsides : σ → σ → Prop} {told : Prop} {left right : Sent σ α}

/-- Answers that are read in one way. -/
theorem map (read : α → β) (matched : left.Matched outsides told right) :
    (left.map read).Matched outsides told (right.map read) where
  world := matched.world
  log := matched.log
  duration := matched.duration
  settle outside :=
    ⟨congrArg read (matched.settle outside).1, (matched.settle outside).2⟩

/-- Calls with one more report. -/
theorem reported (log : Log) (matched : left.Matched outsides told right) :
    (left.reported log).Matched outsides told (right.reported log) where
  world := matched.world
  log counts := congrArg (log ++ ·) (matched.log counts)
  duration := matched.duration
  settle := matched.settle

/-- Calls that are refused with one answer. -/
theorem refused {world other : σ} (outside : outsides world other) (answer : α) :
    (Sent.refused world answer).Matched outsides told (Sent.refused other answer) where
  world := outside
  log _ := rfl
  duration := rfl
  settle outside := ⟨rfl, outside⟩

end Sent.Matched

section Calls

variable {same : σ → σ → Prop} {wire other : Wire σ}

/-- Requests that differ in nothing but the header are answered alike by a server that does not
look at it. -/
theorem Http.Client.send_alike {server : Server σ} (timeout : Nat) (heedless : server.Heedless same)
    {left right : Request} (requests : left.Alike right) (wires : wire.Alike same other) :
    (send ⟨server, timeout⟩ left wire).Matched (Wire.Alike same) True
      (send ⟨server, timeout⟩ right other) := by
  cases possible : right.fault? with
  | some fault =>
    rw [send, send, requests.fault?_eq, possible]
    exact .refused wires _
  | none =>
    obtain ⟨replies, states⟩ := heedless requests.bare wires.state
    rw [send, send, requests.fault?_eq, possible]
    simp only [replies, requests.url, Wire.record]
    refine ⟨⟨states, ?_⟩, fun _ => rfl, rfl, fun outside => ⟨rfl, outside⟩⟩
    by_cases away : (server right other.state).1 = .unreachable
    · rw [if_pos away, if_pos away]
      exact wires.sent
    · rw [if_neg away, if_neg away, List.map_append, List.map_append, wires.sent,
        List.map_singleton, List.map_singleton, requests.bare]

/-- A word in front changes nothing about what can stand in a header. -/
theorem isHeaderText_bearer (text : String) :
    isHeaderText ("Bearer " ++ text) = isHeaderText text := by
  rw [isHeaderText, isHeaderText, String.toList_append, List.all_append]
  rfl

namespace Manager.Service

/-- The service with another token. -/
def withToken (service : Service σ) (token : AccessToken) : Service σ := { service with token }

/-- It asks with the same account. -/
@[simp] theorem withToken_account (service : Service σ) (token : AccessToken) :
    (service.withToken token).account = service.account := rfl

variable {service : Service σ} {token : AccessToken}

/-- With two tokens that can stand in a header, requests differ in nothing but the header. -/
theorem request_withToken (sound : isHeaderText service.token.secret = true)
    (also : isHeaderText token.secret = true) (method : Method) (url : Url) :
    (service.request method url).Alike ((service.withToken token).request method url) where
  bare := rfl
  header := by
    simp only [request, withToken, Option.all_some, isHeaderText_bearer, sound, also]

/-- A service can be asked with another token: its server does not look at the header, and both
tokens can stand in it. -/
structure Swaps (same : σ → σ → Prop) (service : Service σ) (token : AccessToken) : Prop where
  /-- The server does not look at the header. -/
  heedless : service.client.server.Heedless same
  /-- The first token can stand in it. -/
  sound : isHeaderText service.token.secret = true
  /-- So can the second one. -/
  also : isHeaderText token.secret = true

variable (swaps : service.Swaps same token) (wires : wire.Alike same other)

include swaps wires

/-- Requests with either token are answered alike. -/
theorem send_withToken (method : Method) (url : Url) :
    (service.client.send (service.request method url) wire).Matched (Wire.Alike same) True
      ((service.withToken token).client.send ((service.withToken token).request method url)
        other) :=
  Client.send_alike _ swaps.heedless (request_withToken swaps.sound swaps.also method url) wires

/-- What stands at an address is read alike with either token. -/
theorem read_withToken (call : Call) (reader : Value → Option α) (url : Url) :
    (service.read call reader url wire).Matched (Wire.Alike same) True
      ((service.withToken token).read call reader url other) :=
  ((send_withToken swaps wires .get url).map _).reported _

/-- Pages are listed alike with either token. -/
theorem page_withToken (operation : String) (item : Value → Option α) (url : Url) :
    (service.page operation item url wire).Matched (Wire.Alike same) True
      ((service.withToken token).page operation item url other) := by
  simp only [page, withToken_account]
  exact (read_withToken swaps wires _ (page? item) url).map _

/-- Power states are read alike with either token. -/
theorem power_withToken (kind : ResourceKind) (machine : Machine) :
    (service.power kind machine wire).Matched (Wire.Alike same) True
      ((service.withToken token).power kind machine other) := by
  simp only [power, whenKnown, withToken_account]
  cases service.account.resource kind machine.id (Account.powerView kind) with
  | error error => exact .refused wires _
  | ok url => exact read_withToken swaps wires _ _ url

/-- Changes of power are asked for alike with either token. -/
theorem act_withToken (action : PowerAction) (kind : ResourceKind) (machine : Machine) :
    (service.act action kind machine wire).Matched (Wire.Alike same) True
      ((service.withToken token).act action kind machine other) := by
  simp only [act, whenKnown, withToken_account]
  cases service.account.resource kind machine.id (some (Account.actionName kind action)) with
  | error error => exact .refused wires _
  | ok url => exact ((send_withToken swaps wires .post url).map _).reported _

omit wires

/-- Every call of the resource manager goes alike with either token. -/
theorem plane_withToken (simulate : Bool) :
    service.plane.Matched (Wire.Alike same) simulate (service.withToken token).plane where
  machinesFrom := by rw [plane_machinesFrom, plane_machinesFrom, withToken_account]
  groupsFrom := by rw [plane_groupsFrom, plane_groupsFrom, withToken_account]
  machinePage url wires := page_withToken swaps wires "list virtual machines" machine? url
  groupPage tagKey url wires :=
    (page_withToken swaps wires "list resource groups" group? url).map _
  power kind machine wires := by
    rw [plane_power, plane_power]
    exact power_withToken swaps wires kind machine
  act _ _ _ action kind machine wires := by
    rw [plane_act, plane_act]
    exact act_withToken swaps wires action kind machine
  controls := rfl

end Manager.Service

end Calls

/-! ## Messages -/

/-- Two deliveries that go alike. -/
structure Delivery.Alike (same : σ → σ → Prop) (left right : Delivery (Wire σ)) : Prop where
  /-- They come out alike. -/
  result : left.result = right.result
  /-- The same is reported. -/
  log : left.log = right.log
  /-- They leave the same behind. -/
  world : left.world.Alike same right.world

/-- A way of mail that does not look at the headers of requests. -/
def MailRelay.Heedless (same : σ → σ → Prop) (relay : MailRelay (Wire σ)) : Prop :=
  ∀ (mail : Mail) {wire other : Wire σ}, wire.Alike same other →
    (relay mail wire).1 = (relay mail other).1 ∧
      (relay mail wire).2.Alike same (relay mail other).2

/-- A channel that delivers alike whatever stood in the headers of requests. -/
def Notifier.Heedless (same : σ → σ → Prop) (notifier : Notifier (Wire σ)) : Prop :=
  ∀ (message : String) {wire other : Wire σ}, wire.Alike same other →
    (notifier.deliver message wire).Alike same (notifier.deliver message other)

/-- Servers and a way of mail that do not look at the headers of requests. -/
structure Surroundings.Heedless (same : σ → σ → Prop) (surroundings : Surroundings σ) : Prop where
  /-- The servers do not look at them. -/
  server : surroundings.server.Heedless same
  /-- The way of mail does not, either. -/
  relay : surroundings.relay.Heedless same

section Messages

variable {same : σ → σ → Prop}

namespace Notifier

/-- A web service is sent messages without a header, and replies alike. -/
theorem heedless_webhook {server : Server σ} (heedless : server.Heedless same)
    (webhook : Webhook) : (webhook.notifier server).Heedless same := by
  intro message wire other wires
  simp only [Webhook.notifier, Webhook.post]
  cases Url.parse webhook.address with
  | error fault => exact ⟨rfl, rfl, wires⟩
  | ok url =>
    let request : Request := { method := .post, url, body := some (webhook.body message) }
    have alike : request.Alike request := ⟨rfl, rfl⟩
    have calls := Client.send_alike Webhook.timeout heedless alike wires
    obtain ⟨answers, left⟩ := calls.settle calls.world
    exact ⟨congrArg (fun answer => (webhook.judge answer).1) answers,
      congrArg (fun answer => (webhook.judge answer).2) answers, left⟩

/-- Mail goes alike. -/
theorem heedless_mail {relay : MailRelay (Wire σ)} (heedless : relay.Heedless same)
    (settings : MailSettings) (login : Option (String × String)) (route : MailRoute) :
    (route.notifier relay settings login).Heedless same := by
  intro message wire other wires
  have both := heedless (route.mail settings login message) wires
  simp only [MailRoute.notifier]
  generalize relay (route.mail settings login message) wire = first at both ⊢
  generalize relay (route.mail settings login message) other = second at both ⊢
  obtain ⟨result, later⟩ := first
  obtain ⟨_, also⟩ := second
  obtain ⟨rfl, left⟩ := both
  cases result with
  | error reason => exact ⟨rfl, rfl, left⟩
  | ok done => exact ⟨rfl, rfl, left⟩

/-- Over several channels messages go alike when they do over each. -/
theorem heedless_fanout {channels : List (Notifier (Wire σ))}
    (each : ∀ channel ∈ channels, channel.Heedless same) : (fanout channels).Heedless same := by
  intro message wire other wires
  have all : (deliverAll message channels wire).1 = (deliverAll message channels other).1 ∧
      (deliverAll message channels wire).2.Alike same (deliverAll message channels other).2 := by
    induction channels generalizing wire other with
    | nil => exact ⟨rfl, wires⟩
    | cons channel rest hypothesis =>
      have first := each channel List.mem_cons_self message wires
      obtain ⟨log, left⟩ :=
        hypothesis (fun further present => each further (List.mem_cons_of_mem channel present))
          first.world
      simp only [deliverAll, first.log, first.result, log]
      exact ⟨trivial, left⟩
  exact ⟨rfl, all.1, all.2⟩

end Notifier

/-- The channel of a program does not look at the headers of requests. -/
theorem Program.notifier_heedless {surroundings : Surroundings σ}
    (heedless : surroundings.Heedless same) (settings : NoticeSettings) :
    (notifier surroundings settings).1.Heedless same := by
  have everywhere : Notifier.Throughout surroundings.server surroundings.relay
      (Notifier.Heedless same) := {
    noop := fun _ _ _ wires => ⟨rfl, rfl, wires⟩
    webhook := Notifier.heedless_webhook heedless.server
    mail := Notifier.heedless_mail heedless.relay
    fanout := Notifier.heedless_fanout }
  exact everywhere.notifier settings

end Messages

/-! ## Runs with their reports -/

section Runs

variable {same : σ → σ → Prop} {left right : Run (Wire σ)}

namespace Run.Matched

/-- Runs that went alike have one message to send. -/
theorem message?_eq (matched : left.Matched (Wire.Alike same) right) (id : String) :
    left.message? id = right.message? id := by
  rw [message?, message?, failures, failures, matched.result, matched.outcomes]

/-- Runs that went alike have the same counters. -/
theorem stats_eq (matched : left.Matched (Wire.Alike same) right) : left.stats = right.stats := by
  rw [stats, stats, matched.outcomes]

/-- Runs that went alike are reported alike over a channel that does not look at headers. -/
theorem closed (matched : left.Matched (Wire.Alike same) right) {notifier : Notifier (Wire σ)}
    (heedless : notifier.Heedless same) (request : RunRequest) :
    (left.closed notifier request).Matched (Wire.Alike same) (right.closed notifier request) := by
  refine ⟨matched.result, matched.outcomes, matched.calls, matched.answers, ?_⟩
  simp only [Run.closed, report, matched.result, matched.message?_eq, matched.stats_eq,
    matched.line.clock, matched.line.log]
  cases right.message? request.id with
  | none => exact ⟨matched.line.world, rfl, rfl⟩
  | some message =>
    have delivered := heedless message matched.line.world
    simp only [notify, delivered.result, delivered.log]
    exact ⟨delivered.world, rfl, rfl⟩

/-- Runs that went alike have one verdict. -/
theorem verdict_eq (matched : left.Matched (Wire.Alike same) right) :
    Program.verdict left = Program.verdict right := by
  rw [Program.verdict, Program.verdict, matched.result, matched.stats_eq]

end Run.Matched

end Runs

namespace Program

/-- Two ends of the program that show the same and leave the same behind. -/
structure EndAlike (same : σ → σ → Prop) (left right : Ending σ) : Prop where
  /-- One exit code. -/
  code : left.code = right.code
  /-- The same output. -/
  output : left.output = right.output
  /-- The same errors. -/
  errors : left.errors = right.errors
  /-- The same reports. -/
  log : left.log = right.log
  /-- The same requests apart from the header. -/
  wire : left.wire.Alike same right.wire

/-- What a run of the program is given, other than its token. -/
structure Occasion (σ : Type) where
  /-- What surrounds the program. -/
  surroundings : Surroundings σ
  /-- The settings. -/
  settings : Settings
  /-- Whether actions are only reported. -/
  simulate : Bool

/-- What a run of the program comes to. -/
structure Performance (σ : Type) where
  /-- The run. -/
  run : Run (Wire σ)
  /-- The message about it, if one is due. -/
  message : Option String
  /-- What the program leaves behind. -/
  ending : Ending σ

/-- The run of the program at an occasion. -/
def Occasion.perform (occasion : Occasion σ) (token : AccessToken) (wire : Wire σ) :
    Performance σ :=
  let plan : Plan := ⟨occasion.settings, token⟩
  let run := conducted occasion.surroundings plan occasion.simulate wire
  { run
    message := run.message? occasion.surroundings.runId
    ending := execute occasion.surroundings plan occasion.simulate wire }

section Perform

variable (occasion : Occasion σ) (token : AccessToken) (wire : Wire σ)

/-- The run at an occasion. -/
theorem Occasion.perform_run :
    (occasion.perform token wire).run = conducted occasion.surroundings
      ⟨occasion.settings, token⟩ occasion.simulate wire := by
  rw [perform]

/-- The message about the run at an occasion. -/
theorem Occasion.perform_message :
    (occasion.perform token wire).message =
      (conducted occasion.surroundings ⟨occasion.settings, token⟩ occasion.simulate wire).message?
        occasion.surroundings.runId := by
  rw [perform]

/-- What the program leaves behind at an occasion. -/
theorem Occasion.perform_ending :
    (occasion.perform token wire).ending = execute occasion.surroundings
      ⟨occasion.settings, token⟩ occasion.simulate wire := by
  rw [perform]

end Perform

/-- The runs at one occasion after the other, each on what the one before left behind. -/
def performAll (token : AccessToken) : List (Occasion σ) → Wire σ → List (Performance σ)
  | [], _ => []
  | occasion :: rest, wire =>
    let performance := occasion.perform token wire
    performance :: performAll token rest performance.ending.wire

/-- Two runs of the program that cannot be told apart but by headers. -/
structure Performance.Alike (same : σ → σ → Prop) (left right : Performance σ) : Prop where
  /-- The same outcomes, calls and reports, at the same times. -/
  run : left.run.Matched (Wire.Alike same) right.run
  /-- One message. -/
  message : left.message = right.message
  /-- The same is left behind. -/
  ending : EndAlike same left.ending right.ending

variable {same : σ → σ → Prop} {token other : AccessToken} {wire again : Wire σ}

/-- The runs of two plans with different tokens go alike. -/
theorem conducted_alike {surroundings : Surroundings σ} (heedless : surroundings.Heedless same)
    (sound : isHeaderText token.secret = true) (also : isHeaderText other.secret = true)
    (settings : Settings) (simulate : Bool) (wires : wire.Alike same again) :
    (conducted surroundings ⟨settings, token⟩ simulate wire).Matched (Wire.Alike same)
      (conducted surroundings ⟨settings, other⟩ simulate again) := by
  have swaps : (service surroundings.server ⟨settings, token⟩).Swaps same other :=
    ⟨heedless.server, sound, also⟩
  have swapped : (service surroundings.server ⟨settings, token⟩).withToken other =
      service surroundings.server ⟨settings, other⟩ := rfl
  have planes := Service.plane_withToken swaps simulate
  rw [swapped] at planes
  rw [conducted, conducted]
  exact Run.conduct_matched _ _ planes wires

/-- With two tokens the program leaves the same behind. -/
theorem execute_alike {surroundings : Surroundings σ} (heedless : surroundings.Heedless same)
    (sound : isHeaderText token.secret = true) (also : isHeaderText other.secret = true)
    (settings : Settings) (simulate : Bool) (wires : wire.Alike same again) :
    EndAlike same (execute surroundings ⟨settings, token⟩ simulate wire)
      (execute surroundings ⟨settings, other⟩ simulate again) := by
  have runs := conducted_alike heedless sound also settings simulate wires
  have ends : (concluded surroundings ⟨settings, token⟩ simulate wire).Matched (Wire.Alike same)
      (concluded surroundings ⟨settings, other⟩ simulate again) := by
    rw [concluded, concluded]
    exact runs.closed (notifier_heedless heedless settings.notices) _
  constructor
  · rw [execute_code, execute_code, runs.verdict_eq]
  · rw [execute_output, execute_output]
  · rw [execute_errors, execute_errors]
  · rw [execute_log, execute_log, ends.line.log, runs.verdict_eq]
  · rw [execute_wire, execute_wire]
    exact ends.line.world

/-- At one occasion the runs with two tokens go alike. -/
theorem Occasion.perform_alike {occasion : Occasion σ}
    (heedless : occasion.surroundings.Heedless same) (sound : isHeaderText token.secret = true)
    (also : isHeaderText other.secret = true) (wires : wire.Alike same again) :
    (occasion.perform token wire).Alike same (occasion.perform other again) := by
  have runs := conducted_alike heedless sound also occasion.settings occasion.simulate wires
  constructor
  · rw [Occasion.perform_run, Occasion.perform_run]
    exact runs
  · rw [Occasion.perform_message, Occasion.perform_message,
      runs.message?_eq]
  · rw [Occasion.perform_ending, Occasion.perform_ending]
    exact execute_alike heedless sound also occasion.settings occasion.simulate wires

/-- The token reaches nothing but the header that shows the right to ask: with two tokens that can
stand in it, any number of runs one after the other, at whatever occasions, against servers and a
way of mail that do not look at it, come to the same. -/
theorem token_reaches_header_only {occasions : List (Occasion σ)}
    (heedless : ∀ occasion ∈ occasions, occasion.surroundings.Heedless same)
    (sound : isHeaderText token.secret = true) (also : isHeaderText other.secret = true)
    (wires : wire.Alike same again) :
    List.Forall₂ (Performance.Alike same) (performAll token occasions wire)
      (performAll other occasions again) := by
  induction occasions generalizing wire again with
  | nil => exact .nil
  | cons occasion rest hypothesis =>
    have first := Occasion.perform_alike (heedless occasion List.mem_cons_self) sound also wires
    refine .cons first ?_
    exact hypothesis (fun later present => heedless later (List.mem_cons_of_mem occasion present))
      first.ending.wire

/-- A script does not look at headers. -/
theorem heedless_script : Script.server.Heedless Eq := by
  rintro left right state _ bare rfl
  have method : left.bare.method = right.bare.method := congrArg Request.method bare
  have url : left.bare.url = right.bare.url := congrArg Request.url bare
  have key : Script.key left = Script.key right := by
    rw [Script.key, Script.key]
    exact congrArg₂ (fun method url => Method.name method ++ " " ++ Url.target url) method url
  simp only [Script.server, key, and_self]

/-- A live run whose failures are sent to a web service. -/
def dutyOccasion : Occasion Script where
  surroundings := officeSurroundings
  settings := { Settings.ofSubscription "office" with
    notices := { webhook := some "http://hooks/night" } }
  simulate := false

/-- With either of two tokens two runs, the second of which fails to stop a machine and sends a
message about it, come to the same. -/
theorem token_reaches_header_only_on_duty :
    (∀ occasion ∈ [dutyOccasion, dutyOccasion], occasion.surroundings.Heedless Eq) ∧
      isHeaderText "morning" = true ∧ isHeaderText "evening" = true ∧
      Wire.Alike Eq (⟨dutyScript, []⟩ : Wire Script) ⟨dutyScript, []⟩ ∧
      List.Forall₂ (Performance.Alike Eq)
        (performAll ⟨"morning"⟩ [dutyOccasion, dutyOccasion] ⟨dutyScript, []⟩)
        (performAll ⟨"evening"⟩ [dutyOccasion, dutyOccasion] ⟨dutyScript, []⟩) ∧
      (performAll ⟨"morning"⟩ [dutyOccasion, dutyOccasion] ⟨dutyScript, []⟩).map
          (fun performance =>
            (performance.run.calls.map PowerCall.text, performance.run.stats.errored,
              performance.message.isSome, performance.ending.wire.sent.length)) =
        [(["read /vm/app", "stop /vm/app"], 0, false, 4),
          (["read /vm/app", "stop /vm/app"], 1, true, 9)] := by
  have heedless : ∀ occasion ∈ [dutyOccasion, dutyOccasion],
      occasion.surroundings.Heedless Eq := by
    intro occasion present
    have same : occasion = dutyOccasion := by simpa using present
    rw [same]
    exact ⟨heedless_script, fun _ _ _ wires => ⟨rfl, wires⟩⟩
  have sound : isHeaderText "morning" = true := by decide
  have also : isHeaderText "evening" = true := by decide
  have wires : Wire.Alike Eq (⟨dutyScript, []⟩ : Wire Script) ⟨dutyScript, []⟩ := ⟨rfl, rfl⟩
  have alike : List.Forall₂ (Performance.Alike Eq)
      (performAll ⟨"morning"⟩ [dutyOccasion, dutyOccasion] ⟨dutyScript, []⟩)
      (performAll ⟨"evening"⟩ [dutyOccasion, dutyOccasion] ⟨dutyScript, []⟩) :=
    token_reaches_header_only heedless sound also wires
  exact ⟨heedless, sound, also, wires, alike, by decide +kernel⟩

end Program

end OffHours
