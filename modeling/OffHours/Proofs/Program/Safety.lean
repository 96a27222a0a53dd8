import OffHours.Http.Script
import OffHours.Proofs.Fleet.MatchedRuns
import OffHours.Proofs.Fleet.Paging
import OffHours.Proofs.Fleet.Reporting
import OffHours.Proofs.Program.Readiness

/-!
# What the program sends, and its exit code

Every request of the program reads with its token, asks for a change of power, or carries a message
to the web service of its settings. What each part of the program sends is told by `Wire.Grows`,
and `Program.execute_grows` puts the parts together. So a simulation sends no power action, nothing
is sent before the program is ready for a run, and the exit code tells how the run went, whatever
becomes of messages: `Program.run_safely`.
-/

namespace OffHours

open Http Manager

variable {σ α : Type}

/-! ## Requests -/

namespace Http

/-- Some more requests were sent, which all fit. -/
def Wire.Grows (fits : Request → Prop) (before after : Wire σ) : Prop :=
  ∃ more, after.sent = before.sent ++ more ∧ ∀ request ∈ more, fits request

namespace Wire.Grows

variable {fits : Request → Prop} {first second third : Wire σ}

/-- Nothing was sent. -/
theorem of_sent_eq (same : second.sent = first.sent) : first.Grows fits second :=
  ⟨[], by rw [same, List.append_nil], fun _ none => absurd none List.not_mem_nil⟩

/-- Requests were sent, and then others. -/
theorem trans (front : first.Grows fits second) (back : second.Grows fits third) :
    first.Grows fits third := by
  obtain ⟨more, sent, fit⟩ := front
  obtain ⟨further, also, likewise⟩ := back
  refine ⟨more ++ further, by rw [also, sent, List.append_assoc], ?_⟩
  intro request present
  rcases List.mem_append.mp present with early | late
  · exact fit request early
  · exact likewise request late

/-- What fits may be told in other words. -/
theorem imp {also : Request → Prop} (weaker : ∀ request, fits request → also request)
    (grows : first.Grows fits second) : first.Grows also second := by
  obtain ⟨more, sent, fit⟩ := grows
  exact ⟨more, sent, fun request present => weaker request (fit request present)⟩

end Wire.Grows

/-- A request that can be made is sent, unless its server cannot be reached. -/
theorem Client.sent_of_possible (client : Client σ) {request : Request}
    (possible : request.fault? = none) (wire : Wire σ) :
    (client.send request wire).world.sent =
      if (client.server request wire.state).1 = .unreachable then wire.sent
      else wire.sent ++ [request] := by
  rw [send, possible]
  exact wire.record_sent _ _ _

/-- Sending a request sends that request at most. -/
theorem Client.send_grows {fits : Request → Prop} (client : Client σ) {request : Request}
    (fit : fits request) (wire : Wire σ) : wire.Grows fits (client.send request wire).world := by
  cases possible : request.fault? with
  | some fault => exact .of_sent_eq (by rw [send, possible]; rfl)
  | none =>
    have sent := client.sent_of_possible possible wire
    by_cases reached : (client.server request wire.state).1 = .unreachable
    · rw [if_pos reached] at sent
      exact .of_sent_eq sent
    · rw [if_neg reached] at sent
      refine ⟨[request], sent, fun other present => ?_⟩
      rwa [List.mem_singleton.mp present]

/-- Waiting for an answer sends nothing. -/
theorem Client.send_settle (client : Client σ) (request : Request) (wire later : Wire σ) :
    ((client.send request wire).settle later).2 = later := by
  rw [send]
  split <;> rfl

/-- A request that fits goes on with what was sent before. -/
theorem Client.send_keeps {fits : Request → Prop} (client : Client σ) {request : Request}
    (fit : fits request) (start : Wire σ) : Keeps (start.Grows fits) (client.send request) where
  made grown := grown.trans (client.send_grows fit _)
  answered _ grown := by rwa [client.send_settle]

end Http

/-! ## Calls on the resource manager -/

namespace Manager

/-- A request for a change of power: what a resource manager is asked with some account and
token. -/
def IsPowerAction (request : Request) : Prop :=
  ∃ (account : Account) (token : AccessToken) (action : PowerAction) (kind : ResourceKind)
    (id : String) (url : Url),
    account.resource kind id (some (Account.actionName kind action)) = .ok url ∧
      request = { method := .post, url, authorization := some ("Bearer " ++ token.secret) }

namespace Service

variable (service : Service σ) {fits : Request → Prop} {good : Wire σ → Prop}

/-- Reading keeps what its request keeps. -/
theorem read_keeps {url : Url} (sends : Keeps good (service.client.send (service.request .get url)))
    (call : Call) (reader : Value → Option α) : Keeps good (service.read call reader url) :=
  (sends.map _).reported _

/-- Asking for a page keeps what its request keeps. -/
theorem page_keeps {url : Url} (sends : Keeps good (service.client.send (service.request .get url)))
    (operation : String) (item : Value → Option α) :
    Keeps good (service.page operation item url) := by
  unfold page
  exact (service.read_keeps sends _ (page? item)).map _

/-- Asking for a power state keeps what its request keeps, if there is one. -/
theorem power_keeps {kind : ResourceKind} {machine : Machine}
    (sends : ∀ url,
      service.account.resource kind machine.id (Account.powerView kind) = .ok url →
        Keeps good (service.client.send (service.request .get url))) :
    Keeps good (service.power kind machine) := by
  unfold power whenKnown
  cases address : service.account.resource kind machine.id (Account.powerView kind) with
  | error error => exact .refused _
  | ok url => exact service.read_keeps (sends url address) _ _

/-- Asking for a change of power keeps what its request keeps, if there is one. -/
theorem act_keeps {action : PowerAction} {kind : ResourceKind} {machine : Machine}
    (sends : ∀ url,
      service.account.resource kind machine.id (some (Account.actionName kind action)) = .ok url →
        Keeps good (service.client.send (service.request .post url))) :
    Keeps good (service.act action kind machine) := by
  unfold act whenKnown
  simp only
  cases address : service.account.resource kind machine.id
      (some (Account.actionName kind action)) with
  | error error => exact .refused _
  | ok url => exact ((sends url address).map _).reported _

/-- A run against a resource manager reads, and asks for changes of power unless it simulates. -/
theorem conduct_grows (settings : RunSettings) (request : RunRequest)
    (reads : ∀ url, fits (service.request .get url))
    (actions : request.simulate = false → ∀ sent, IsPowerAction sent → fits sent)
    (wire : Wire σ) :
    wire.Grows fits (Run.conduct service.plane settings request wire).line.world := by
  have gets : ∀ url,
      Keeps (wire.Grows fits) (service.client.send (service.request .get url)) :=
    fun url => service.client.send_keeps (reads url) wire
  have machines : ∀ cursor, Keeps (wire.Grows fits) (service.plane.machinePage cursor) :=
    fun cursor => service.page_keeps (gets cursor) _ machine?
  have groups : ∀ tagKey cursor, Keeps (wire.Grows fits) (service.plane.groupPage tagKey cursor) :=
    fun tagKey cursor =>
      (service.page_keeps (gets cursor) _ group?).map (Except.map (tagged tagKey))
  have powers : ∀ kind machine, Keeps (wire.Grows fits) (service.plane.power kind machine) := by
    rw [plane_power]
    exact fun kind machine => service.power_keeps fun url _ => gets url
  have acts : request.simulate = false → ∀ action kind machine,
      Keeps (wire.Grows fits) (service.plane.act action kind machine) := by
    rw [plane_act]
    intro live action kind machine
    refine service.act_keeps fun url address => ?_
    exact service.client.send_keeps (actions live _
      ⟨service.account, service.token, action, kind, machine.id, url, address, rfl⟩) wire
  have begun : wire.Grows fits wire := .of_sent_eq rfl
  exact @Run.conduct_keeps _ _ service.plane (wire.Grows fits) settings request machines groups
    powers acts wire begun

end Service

end Manager

/-! ## Messages -/

/-- A request carries a message to a web service. -/
def Webhook.IsMessage (request : Request) : Prop :=
  ∃ (webhook : Webhook) (message : String) (url : Url), Url.parse webhook.address = .ok url ∧
    request = { method := .post, url, body := some (webhook.body message) }

/-- Mail is no request. -/
def MailRelay.Separate (relay : MailRelay (Wire σ)) : Prop :=
  ∀ mail wire, (relay mail wire).2.sent = wire.sent

/-- Every request that a notifier sends carries a message. -/
def Notifier.SendsMessages (notifier : Notifier (Wire σ)) : Prop :=
  ∀ message wire, Wire.Grows Webhook.IsMessage wire (notifier.deliver message wire).world

namespace Notifier

/-- A web service is sent messages. -/
theorem sendsMessages_webhook (server : Server σ) (webhook : Webhook) :
    (webhook.notifier server).SendsMessages := by
  intro message wire
  simp only [Webhook.notifier, Webhook.post]
  cases parsed : Url.parse webhook.address with
  | error fault => exact .of_sent_eq rfl
  | ok url =>
    simp only [Client.send_settle]
    exact Client.send_grows _ ⟨webhook, message, url, parsed, rfl⟩ wire

/-- By mail nothing else is sent. -/
theorem sendsMessages_mail {relay : MailRelay (Wire σ)} (separate : relay.Separate)
    (settings : MailSettings) (login : Option (String × String)) (route : MailRoute) :
    (route.notifier relay settings login).SendsMessages := by
  intro message wire
  have same := separate (route.mail settings login message) wire
  simp only [MailRoute.notifier]
  split
  · rename_i reason later failed
    rw [failed] at same
    exact .of_sent_eq same
  · rename_i later delivered
    rw [delivered] at same
    exact .of_sent_eq same

/-- Over channels that send messages, messages are sent. -/
theorem sendsMessages_fanout {channels : List (Notifier (Wire σ))}
    (each : ∀ channel ∈ channels, channel.SendsMessages) : (fanout channels).SendsMessages := by
  intro message wire
  simp only [fanout]
  induction channels generalizing wire with
  | nil => exact .of_sent_eq rfl
  | cons channel rest hypothesis =>
    rw [deliverAll]
    exact (each channel List.mem_cons_self message wire).trans
      (hypothesis (fun other present => each other (List.mem_cons_of_mem channel present)) _)

end Notifier

/-! ## Channels -/

/-- What holds of every channel that is made of web services and mail. -/
structure Notifier.Throughout (server : Server σ) (relay : MailRelay (Wire σ))
    (good : Notifier (Wire σ) → Prop) : Prop where
  /-- It holds when messages are dropped. -/
  noop : good .noop
  /-- It holds of web services. -/
  webhook : ∀ webhook : Webhook, good (webhook.notifier server)
  /-- It holds of mail. -/
  mail : ∀ (settings : MailSettings) (login : Option (String × String)) (route : MailRoute),
    good (route.notifier relay settings login)
  /-- It holds of several channels when it holds of each. -/
  fanout : ∀ {channels : List (Notifier (Wire σ))}, (∀ channel ∈ channels, good channel) →
    good (.fanout channels)

namespace Notifier.Throughout

variable {good : Notifier (Wire σ) → Prop} {outlets : Outlets σ} {settings : NoticeSettings}

/-- It holds of the channel to a web service that settings ask for. -/
theorem webChannel (everywhere : Throughout outlets.server outlets.relay good)
    (settings : NoticeSettings) :
    ∀ channel ∈ (outlets.webChannel settings).1, good channel := by
  intro channel present
  rw [Outlets.webChannel] at present
  split at present
  · exact absurd present List.not_mem_nil
  · rw [List.mem_singleton.mp present]
    exact everywhere.webhook _

/-- It holds of the channel for mail that settings ask for. -/
theorem mailChannel (everywhere : Throughout outlets.server outlets.relay good)
    {channels : List (Notifier (Wire σ))} {log : Log}
    (made : outlets.mailChannel settings = .ok (channels, log)) :
    ∀ channel ∈ channels, good channel := by
  rw [Outlets.mailChannel] at made
  split at made
  · cases made
    exact fun _ none => absurd none List.not_mem_nil
  · obtain ⟨found, route, same⟩ := exists_of_bind_eq_ok made
    obtain ⟨way, -, notifier⟩ := exists_of_bind_eq_ok route
    cases same
    cases notifier
    intro channel present
    rw [List.mem_singleton.mp present]
    exact everywhere.mail _ _ way

/-- It holds of the channel for all messages. -/
theorem channel (everywhere : Throughout outlets.server outlets.relay good)
    {notifier : Notifier (Wire σ)} {log : Log}
    (made : outlets.channel settings = (.ok notifier, log)) : good notifier := by
  rw [Outlets.channel] at made
  cases webbed : outlets.webChannel settings with
  | mk web first =>
    have webs := everywhere.webChannel settings
    rw [webbed] at made webs
    cases mailed : outlets.mailChannel settings with
    | error error => simp [mailed] at made
    | ok mail =>
      obtain ⟨mail, later⟩ := mail
      simp only [mailed] at made
      split at made
      · cases made
        exact everywhere.noop
      · cases made
        refine everywhere.fanout fun channel present => ?_
        rcases List.mem_append.mp present with byWeb | byMail
        · exact webs channel byWeb
        · exact everywhere.mailChannel mailed channel byMail

/-- It holds of the channel of a program. -/
theorem notifier {surroundings : Surroundings σ}
    (everywhere : Throughout surroundings.server surroundings.relay good)
    (settings : NoticeSettings) : good (Program.notifier surroundings settings).1 := by
  rw [Program.notifier]
  split
  · rename_i found log made
    exact everywhere.channel made
  · exact everywhere.noop

end Notifier.Throughout

namespace Program

/-- The channel of a program sends messages and nothing else. -/
theorem notifier_sendsMessages {surroundings : Surroundings σ}
    (separate : surroundings.relay.Separate) (settings : NoticeSettings) :
    (notifier surroundings settings).1.SendsMessages := by
  have everywhere : Notifier.Throughout surroundings.server surroundings.relay
      Notifier.SendsMessages := {
    noop := fun _ _ => .of_sent_eq rfl
    webhook := Notifier.sendsMessages_webhook surroundings.server
    mail := Notifier.sendsMessages_mail separate
    fanout := Notifier.sendsMessages_fanout }
  exact everywhere.notifier settings

/-- The run of a plan. -/
def conducted (surroundings : Surroundings σ) (plan : Plan) (simulate : Bool) (wire : Wire σ) :
    Run (Wire σ) :=
  Run.conduct (service surroundings.server plan).plane (runSettings plan.settings)
    ⟨surroundings.runId, surroundings.now, simulate⟩ wire

/-- The run of a plan with its reports. -/
def concluded (surroundings : Surroundings σ) (plan : Plan) (simulate : Bool) (wire : Wire σ) :
    Run (Wire σ) :=
  (conducted surroundings plan simulate wire).closed
    (notifier surroundings plan.settings.notices).1
    ⟨surroundings.runId, surroundings.now, simulate⟩

section Execute

variable (surroundings : Surroundings σ) (plan : Plan) (simulate : Bool) (wire : Wire σ)

/-- The exit code of a plan tells how its run went. -/
theorem execute_code :
    (execute surroundings plan simulate wire).code =
      (verdict (conducted surroundings plan simulate wire)).1 := by
  rw [execute_eq_closed, conducted]
  simp only [verdict_closed]

/-- The message about a run goes out when the run is over. -/
theorem execute_wire :
    (execute surroundings plan simulate wire).wire =
      (concluded surroundings plan simulate wire).line.world := by
  rw [execute_eq_closed, concluded, conducted]

/-- The reports of a plan are those about its channel, about its run, and about how it went. -/
theorem execute_log :
    (execute surroundings plan simulate wire).log =
      (notifier surroundings plan.settings.notices).2 ++
        (concluded surroundings plan simulate wire).line.log ++
          (verdict (conducted surroundings plan simulate wire)).2 := by
  rw [execute_eq_closed, concluded, conducted]
  simp only [verdict_closed]

/-- A plan that is carried out shows no output. -/
theorem execute_output : (execute surroundings plan simulate wire).output = "" := by
  rw [execute_eq_closed]

/-- A plan that is carried out shows no errors. -/
theorem execute_errors : (execute surroundings plan simulate wire).errors = "" := by
  rw [execute_eq_closed]

end Execute

/-- Reports send messages and nothing else. -/
theorem closed_grows {notifier : Notifier (Wire σ)} (sends : notifier.SendsMessages)
    (request : RunRequest) (run : Run (Wire σ)) :
    run.line.world.Grows Webhook.IsMessage (run.closed notifier request).line.world := by
  rw [Run.closed, Run.report]
  cases run.message? request.id with
  | none => exact .of_sent_eq rfl
  | some message => exact sends message run.line.world

/-- What a run with its reports sends: requests that read, power actions unless it simulates, and
messages. -/
theorem execute_grows {surroundings : Surroundings σ} (separate : surroundings.relay.Separate)
    (plan : Plan) (simulate : Bool) (wire : Wire σ) {fits : Request → Prop}
    (reads : ∀ url, fits ((service surroundings.server plan).request .get url))
    (actions : simulate = false → ∀ request, IsPowerAction request → fits request)
    (messages : ∀ request, Webhook.IsMessage request → fits request) :
    wire.Grows fits (execute surroundings plan simulate wire).wire := by
  have ran : wire.Grows fits (conducted surroundings plan simulate wire).line.world := by
    rw [conducted]
    exact Service.conduct_grows _ _ _ reads actions wire
  have sends := notifier_sendsMessages separate plan.settings.notices
  rw [execute_wire, concluded]
  exact ran.trans ((closed_grows sends _ _).imp messages)

/-- The exit code is zero exactly when a run came out well and no machine counts as an error. -/
theorem verdict_eq_zero_iff (run : Run (Wire σ)) :
    (verdict run).1 = 0 ↔ run.result = .ok () ∧ run.stats.errored = 0 := by
  rw [verdict]
  cases run.result with
  | error error => simp
  | ok done =>
    by_cases well : run.stats.errored = 0
    · simp [well]
    · simp [well]

/-! ## Safety -/

/-- The program is told to simulate, by an argument or by its settings. -/
def ToldToSimulate (surroundings : Surroundings σ) (arguments : List String) : Prop :=
  "--simulate" ∈ arguments ∨ ∃ options settings secrets,
    CommandLine.Command.ofArguments arguments = .ok (.sweep options) ∧
      (loadDirectory surroundings.environment surroundings.files
        (directory surroundings.environment options)).1 = .ok (settings, secrets) ∧
      settings.simulate = true

/-- What is to be relied on when the program was asked for a sweep. -/
structure RanSafely (surroundings : Surroundings σ) (arguments : List String) (wire : Wire σ)
    (ending : Ending σ) : Prop where
  /-- With arguments that cannot be followed it fails, and sends nothing. -/
  misused : ∀ fault, CommandLine.Command.ofArguments arguments = .error fault →
    ending.code ≠ 0 ∧ ending.wire = wire
  /-- When something keeps it from a run it fails, and sends nothing. -/
  unready : ∀ options, CommandLine.Command.ofArguments arguments = .ok (.sweep options) →
    Unready surroundings.environment surroundings.files
        (directory surroundings.environment options) →
      ending.code ≠ 0 ∧ ending.wire = wire
  /-- When it is told to simulate it sends no power action; it posts messages only. -/
  simulated : ToldToSimulate surroundings arguments → wire.Grows (fun request =>
    ¬ IsPowerAction request ∧ (request.method = .post → Webhook.IsMessage request)) ending.wire
  /-- The exit code is zero exactly when the run came out well and no machine counts as an error. -/
  code : ending.code = 0 ↔ ∃ options plan,
    CommandLine.Command.ofArguments arguments = .ok (.sweep options) ∧
      (prepare surroundings.environment surroundings.files options).1 = .ok plan ∧
      (conducted surroundings plan (options.simulate || plan.settings.simulate) wire).result =
        .ok () ∧
      (conducted surroundings plan (options.simulate || plan.settings.simulate)
        wire).stats.errored = 0
  /-- Whatever channel is set up, and whatever becomes of a message, the exit code is the same. -/
  channels : ∀ options plan, CommandLine.Command.ofArguments arguments = .ok (.sweep options) →
    (prepare surroundings.environment surroundings.files options).1 = .ok plan →
      ∀ (relay : MailRelay (Wire σ)) (notices : NoticeSettings) (channel : Notifier (Wire σ))
        (request : RunRequest),
        (execute { surroundings with relay }
          { plan with settings := { plan.settings with notices } }
          (options.simulate || plan.settings.simulate) wire).code = ending.code ∧
        (verdict ((conducted surroundings plan (options.simulate || plan.settings.simulate)
          wire).closed channel request)).1 = ending.code

/-- A program that is told to simulate does so. -/
theorem simulate_of_told {surroundings : Surroundings σ} {arguments : List String}
    {options : CommandLine.Options} {plan : Plan}
    (parsed : CommandLine.Command.ofArguments arguments = .ok (.sweep options))
    (prepared : (prepare surroundings.environment surroundings.files options).1 = .ok plan)
    (told : ToldToSimulate surroundings arguments) :
    (options.simulate || plan.settings.simulate) = true := by
  rcases told with given | ⟨also, settings, secrets, same, loaded, simulate⟩
  · rw [(CommandLine.follow_simulate_iff parsed).mpr (Or.inr given), Bool.true_or]
  · obtain rfl : also = options := by
      rw [parsed] at same
      cases same
      rfl
    obtain ⟨found, read, -⟩ := prepare_eq_ok_iff.mp prepared
    rw [loaded] at read
    obtain ⟨rfl, -⟩ := Prod.mk.inj (Except.ok.inj read)
    rw [simulate, Bool.or_true]

/-- A run that simulates sends no power action; it posts messages only. -/
theorem execute_simulated {surroundings : Surroundings σ} (separate : surroundings.relay.Separate)
    (plan : Plan) (wire : Wire σ) : wire.Grows (fun request => ¬ IsPowerAction request ∧
      (request.method = .post → Webhook.IsMessage request))
        (execute surroundings plan true wire).wire := by
  refine execute_grows separate plan true wire ?_ ?_ ?_
  · intro url
    refine ⟨?_, fun post => Method.noConfusion post⟩
    rintro ⟨account, token, action, kind, id, other, -, same⟩
    exact Method.noConfusion (congrArg Request.method same)
  · exact fun live => Bool.noConfusion live
  · intro request message
    refine ⟨?_, fun _ => message⟩
    obtain ⟨webhook, text, url, -, rfl⟩ := message
    rintro ⟨account, token, action, kind, id, other, -, same⟩
    have none : (none : Option String) = some _ := congrArg Request.authorization same
    cases none

/-- A program that fails before a run and sends nothing is safe. -/
theorem ranSafely_of_unsent {surroundings : Surroundings σ} {arguments : List String}
    {wire : Wire σ} {ending : Ending σ} (failed : ending.code ≠ 0) (unsent : ending.wire = wire)
    (planless : ∀ options plan,
      CommandLine.Command.ofArguments arguments = .ok (.sweep options) →
        (prepare surroundings.environment surroundings.files options).1 ≠ .ok plan) :
    RanSafely surroundings arguments wire ending where
  misused _ _ := ⟨failed, unsent⟩
  unready _ _ _ := ⟨failed, unsent⟩
  simulated _ := .of_sent_eq (by rw [unsent])
  code := by
    refine iff_of_false failed ?_
    rintro ⟨options, plan, parsed, prepared, -⟩
    exact planless options plan parsed prepared
  channels options plan parsed prepared := absurd prepared (planless options plan parsed)

/-- A program that carries out its plan is safe. -/
theorem ranSafely_of_plan {surroundings : Surroundings σ} (separate : surroundings.relay.Separate)
    {arguments : List String} {options : CommandLine.Options} {plan : Plan} {wire : Wire σ}
    {ending : Ending σ}
    (parsed : CommandLine.Command.ofArguments arguments = .ok (.sweep options))
    (prepared : (prepare surroundings.environment surroundings.files options).1 = .ok plan)
    (code : ending.code = (execute surroundings plan
      (options.simulate || plan.settings.simulate) wire).code)
    (left : ending.wire = (execute surroundings plan
      (options.simulate || plan.settings.simulate) wire).wire) :
    RanSafely surroundings arguments wire ending := by
  have only : ∀ other also, CommandLine.Command.ofArguments arguments = .ok (.sweep other) →
      (prepare surroundings.environment surroundings.files other).1 = .ok also →
        other = options ∧ also = plan := by
    intro other also same found
    rw [parsed] at same
    cases same
    rw [prepared] at found
    exact ⟨rfl, (Except.ok.inj found).symm⟩
  constructor
  · intro fault refused
    rw [parsed] at refused
    cases refused
  · intro other same unready
    rw [parsed] at same
    cases same
    obtain ⟨refusal, refused⟩ := prepare_refuses_iff.mpr unready
    rw [prepared] at refused
    cases refused
  · intro told
    rw [left, simulate_of_told parsed prepared told]
    exact execute_simulated separate plan wire
  · rw [code, execute_code, verdict_eq_zero_iff]
    constructor
    · exact fun well => ⟨options, plan, parsed, prepared, well⟩
    · rintro ⟨other, also, same, found, well⟩
      obtain ⟨rfl, rfl⟩ := only other also same found
      exact well
  · intro other also same found relay notices channel request
    obtain ⟨rfl, rfl⟩ := only other also same found
    rw [code, verdict_closed, execute_code, execute_code]
    exact ⟨rfl, rfl⟩

/-- A program that refuses to run fails, and sends nothing. -/
theorem sweep_of_refusal {surroundings : Surroundings σ} {options : CommandLine.Options}
    {refusal : Refusal}
    (refused : (prepare surroundings.environment surroundings.files options).1 = .error refusal)
    (wire : Wire σ) :
    (sweep surroundings options wire).code = 1 ∧ (sweep surroundings options wire).wire = wire := by
  rw [sweep]
  cases found : prepare surroundings.environment surroundings.files options with
  | mk first log =>
    rw [found] at refused
    cases refused
    exact ⟨rfl, rfl⟩

/-- A program with a plan carries it out. -/
theorem sweep_of_plan {surroundings : Surroundings σ} {options : CommandLine.Options} {plan : Plan}
    (prepared : (prepare surroundings.environment surroundings.files options).1 = .ok plan)
    (wire : Wire σ) :
    let ending := execute surroundings plan (options.simulate || plan.settings.simulate) wire
    (sweep surroundings options wire).code = ending.code ∧
      (sweep surroundings options wire).wire = ending.wire := by
  rw [sweep]
  cases found : prepare surroundings.environment surroundings.files options with
  | mk first log =>
    rw [found] at prepared
    cases prepared
    simp only [and_self]

/-- The program is safe from end to end: without all that a run needs it fails and sends nothing,
a simulation sends no power action, and the exit code tells how the run went, whatever becomes of
messages. -/
theorem run_safely (surroundings : Surroundings σ) (separate : surroundings.relay.Separate)
    (arguments : List String) (wire : Wire σ)
    (noHelp : CommandLine.Command.ofArguments arguments ≠ .ok .help)
    (noVersion : CommandLine.Command.ofArguments arguments ≠ .ok .version) :
    RanSafely surroundings arguments wire (run surroundings arguments wire) := by
  cases parsed : CommandLine.Command.ofArguments arguments with
  | error fault =>
    have ended :
        run surroundings arguments wire = { code := 2, errors := fault.message, wire } := by
      rw [run, parsed]
    rw [ended]
    refine ranSafely_of_unsent (Nat.succ_ne_zero 1) rfl fun options plan same => ?_
    rw [parsed] at same
    cases same
  | ok command =>
    cases command with
    | help => exact absurd parsed noHelp
    | version => exact absurd parsed noVersion
    | sweep options =>
      have ended : run surroundings arguments wire = sweep surroundings options wire := by
        rw [run, parsed]
      rw [ended]
      cases prepared : (prepare surroundings.environment surroundings.files options).1 with
      | error refusal =>
        obtain ⟨code, left⟩ := sweep_of_refusal prepared wire
        refine ranSafely_of_unsent (code ▸ Nat.succ_ne_zero 0) left fun other plan same => ?_
        rw [parsed] at same
        cases same
        rw [prepared]
        exact fun none => by cases none
      | ok plan =>
        obtain ⟨code, left⟩ := sweep_of_plan prepared wire
        exact ranSafely_of_plan separate parsed prepared code left

/-- Surroundings with a token and settings, and servers by script. -/
def officeSurroundings : Surroundings Script where
  environment name := if name = Environment.accessToken then some "secret" else none
  files path :=
    if path = "config/main.toml" then .content "subscription_id = \"office\"" else .absent
  server := Script.server
  relay := .offline
  runId := "night"
  now := mondayRequest.now

/-- The servers list a running machine that is to be off on a Monday. The first order to stop it is
accepted; after that they are busy. -/
def dutyScript : Script :=
  [("GET /subscriptions/office/resources?%24filter=resourceType+eq+%27Microsoft.Compute" ++
      "%2FvirtualMachines%27+or+resourceType+eq+%27Microsoft.ClassicCompute" ++
      "%2FvirtualMachines%27&api-version=2021-04-01",
      [.answer 30 ⟨200, some ("\x7b\"value\":[\x7b\"id\":\"/vm/app\",\"name\":\"app\"," ++
        "\"type\":\"Microsoft.Compute/virtualMachines\"," ++
        "\"tags\":\x7b\"AutoShutdownSchedule\":\"Monday\"\x7d\x7d]\x7d")⟩]),
    ("GET /subscriptions/office/resourcegroups?api-version=2021-04-01",
      [.answer 20 ⟨200, some "\x7b\"value\":[]\x7d"⟩]),
    ("GET /vm/app/instanceView?api-version=2023-03-01",
      [.answer 10 ⟨200, some "\x7b\"statuses\":[\x7b\"code\":\"PowerState/running\"\x7d]\x7d"⟩]),
    ("POST /vm/app/deallocate?api-version=2023-03-01",
      [.answer 40 ⟨202, some ""⟩, .answer 40 ⟨503, some "busy"⟩])]

/-- A simulation that is asked for by an argument is safe: it reads the power state of the machine
and comes out well, and does not send the order that a live run sends. -/
theorem run_safely_rehearsed :
    officeSurroundings.relay.Separate ∧
      CommandLine.Command.ofArguments ["--simulate"] ≠ .ok .help ∧
      CommandLine.Command.ofArguments ["--simulate"] ≠ .ok .version ∧
      ToldToSimulate officeSurroundings ["--simulate"] ∧
      RanSafely officeSurroundings ["--simulate"] ⟨dutyScript, []⟩
        (run officeSurroundings ["--simulate"] ⟨dutyScript, []⟩) ∧
      (run officeSurroundings ["--simulate"] ⟨dutyScript, []⟩).code = 0 ∧
      (run officeSurroundings ["--simulate"] ⟨dutyScript, []⟩).wire.sent.map Request.method =
        [.get, .get, .get] ∧
      (run officeSurroundings [] ⟨dutyScript, []⟩).wire.sent.map Request.method =
        [.get, .get, .get, .post] := by
  have separate : officeSurroundings.relay.Separate := fun _ _ => rfl
  have sweeps : (CommandLine.Command.ofArguments ["--simulate"]).toOption =
      some (.sweep { simulate := true, given := [.simulate] }) := by decide +kernel
  have noHelp : CommandLine.Command.ofArguments ["--simulate"] ≠ .ok .help := by
    intro help
    rw [help] at sweeps
    cases sweeps
  have noVersion : CommandLine.Command.ofArguments ["--simulate"] ≠ .ok .version := by
    intro version
    rw [version] at sweeps
    cases sweeps
  have safe := run_safely officeSurroundings separate ["--simulate"] ⟨dutyScript, []⟩ noHelp
    noVersion
  -- The run is evaluated once, for its exit code and its requests together.
  have rehearsed : ((run officeSurroundings ["--simulate"] ⟨dutyScript, []⟩).code,
      (run officeSurroundings ["--simulate"] ⟨dutyScript, []⟩).wire.sent.map Request.method) =
        (0, [.get, .get, .get]) := by decide +kernel
  have live : (run officeSurroundings [] ⟨dutyScript, []⟩).wire.sent.map Request.method =
      [.get, .get, .get, .post] := by decide +kernel
  obtain ⟨code, reads⟩ := Prod.mk.inj rehearsed
  exact ⟨separate, noHelp, noVersion, Or.inl (List.mem_singleton.mpr rfl), safe, code, reads, live⟩

end Program

end OffHours
