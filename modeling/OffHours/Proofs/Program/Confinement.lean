import OffHours.Proofs.Http.Redirects
import OffHours.Proofs.Program.Safety
import OffHours.Proofs.Url.Origins

/-!
# Where the token goes

Every call of the resource manager carries the token. Requests that the program makes up on its own
go to the origin of the endpoint (`Url.origin_eq_of_opens`), but it also does as it is told: it
follows the links of pages as they are, and puts ids of machines behind the endpoint. The library
that sends its requests follows redirects besides, and keeps the token at one host and port. So
each request over the network that shows a right to ask is warranted by what came back before it:
`Service.exists_along_conduct`.
-/

namespace OffHours

open Http Manager

variable {σ α : Type}

/-! ## Warrants -/

/-- An answer names a link in a page of such items. -/
def Http.Answer.Links (item : Value → Option α) (answer : Answer) (link : String) : Prop :=
  ∃ items, answer.page? item = some ⟨items, some link⟩

/-- An answer lists an item in a page of such items. -/
def Http.Answer.Lists (item : Value → Option α) (answer : Answer) (listed : α) : Prop :=
  ∃ page, answer.page? item = some page ∧ listed ∈ page.items

namespace Manager.Service

/-- An answer of success was given in time in one of some hops. -/
def Told (service : Service σ) (hops : List Hop) (answer : Answer) : Prop :=
  isSuccess answer.status = true ∧ ∃ hop ∈ hops, hop.answer? service.client.timeout = some answer

/-- What warrants a request that shows a right to ask after some hops, when the endpoint has a base
address. -/
inductive Warranted (service : Service σ) (base : Url) (before : List Hop) : Request → Prop where
  /-- It goes to the endpoint. -/
  | home {request : Request} (same : request.url.origin = base.origin) :
    Warranted service base before request
  /-- It reads what stands where the link of a page points to. -/
  | told {answer : Answer} {link : String} {url : Url} (given : service.Told before answer)
    (named : answer.Links machine? link ∨ answer.Links group? link)
    (denotes : Url.parse link = .ok url) :
    Warranted service base before (service.request .get url)
  /-- It is about a listed machine whose id does not begin like a path. -/
  | glued {answer : Answer} {machine : Machine} {kind : ResourceKind} {below : Option String}
    {method : Method} {url : Url} (given : service.Told before answer)
    (listed : answer.Lists machine? machine) (odd : ¬ Url.Opens machine.id.toList)
    (address : service.account.resource kind machine.id below = .ok url) :
    Warranted service base before (service.request method url)
  /-- A redirect of an earlier request, which showed the same right to ask at the same host and
  port, sends it on. -/
  | redirected {hop : Hop} {request : Request} (earlier : hop ∈ before)
    (sends : hop.SendsOn request) (place : request.url.place = hop.request.url.place)
    (shown : request.authorization = hop.request.authorization) :
    Warranted service base before request

/-- What was told stays told. -/
theorem Told.append {service : Service σ} {hops : List Hop} {answer : Answer}
    (given : service.Told hops answer) (more : List Hop) : service.Told (hops ++ more) answer := by
  obtain ⟨status, hop, present, answered⟩ := given
  exact ⟨status, hop, List.mem_append_left more present, answered⟩

/-- What is warranted stays warranted. -/
theorem Warranted.append {service : Service σ} {base : Url} {hops : List Hop} {request : Request}
    (warranted : service.Warranted base hops request) (more : List Hop) :
    service.Warranted base (hops ++ more) request := by
  cases warranted with
  | home same => exact .home same
  | told given named denotes => exact .told (given.append more) named denotes
  | glued given listed odd address => exact .glued (given.append more) listed odd address
  | redirected earlier sends place shown =>
    exact .redirected (List.mem_append_left more earlier) sends place shown

/-- Hops that lead from one wire of a network to another, each of a request that is warranted by
those before it if it shows a right to ask. -/
inductive Along (service : Service (Wire σ)) (network : Network σ) (base : Url) (first : Wire σ) :
    List Hop → Wire σ → Prop where
  /-- There is none yet. -/
  | start : Along service network base first [] first
  /-- There is one more. -/
  | more {hops : List Hop} {wire : Wire σ} {request : Request} {response : Response} {state : σ}
    (before : Along service network base first hops wire)
    (warranted : request.authorization ≠ none → Warranted service base hops request)
    (came : network request wire.state = (response, state)) :
    Along service network base first (hops ++ [⟨request, response⟩])
      (wire.record request response.reply state)

section Along

variable {network : Network σ} {service : Service (Wire σ)} {base : Url} {first wire : Wire σ}
  {hops : List Hop}

/-- Warranted hops are hops. -/
theorem Along.toHops (along : service.Along network base first hops wire) :
    Hops network first hops wire := by
  induction along with
  | start => exact .start
  | more before warranted came hypothesis => exact .more hypothesis came

/-- Each request that shows a right to ask is warranted by the hops before it. -/
theorem Along.warranted (along : service.Along network base first hops wire)
    {before after : List Hop} {hop : Hop} (split : hops = before ++ hop :: after)
    (shows : hop.request.authorization ≠ none) :
    service.Warranted base before hop.request := by
  induction along generalizing after with
  | start => simp at split
  | @more hops wire request response state along warranted came hypothesis =>
    rcases List.eq_nil_or_concat' after with rfl | ⟨later, last, rfl⟩
    · obtain ⟨rfl, same⟩ := List.append_inj' split rfl
      obtain rfl : Hop.mk request response = hop := by simpa using same
      exact warranted shows
    · rw [← List.cons_append, ← List.append_assoc] at split
      exact hypothesis (List.append_inj' split rfl).1

/-- Relaying a warranted request adds its hops: each redirect warrants the request that it sends
on. An answer that is given back came in one of them, in no more time. -/
theorem Along.relayed {request : Request} {later : Wire σ} {more : List Hop} {reply : Reply}
    (along : service.Along network base first hops wire)
    (relayed : Relayed network request wire more reply later)
    (warranted : request.authorization ≠ none → service.Warranted base hops request) :
    service.Along network base first (hops ++ more) later ∧
      ∃ hop ∈ more, reply.PassesOn hop.response.reply := by
  induction relayed generalizing hops with
  | @last request wire response state reply came passes =>
    exact ⟨.more along warranted came, ⟨request, response⟩, List.mem_singleton.mpr rfl, passes⟩
  | @onward request next wire later response state more reply came sends rest hypothesis =>
    have sent : next.authorization ≠ none →
        service.Warranted base (hops ++ [⟨request, response⟩]) next := by
      intro shows
      obtain ⟨place, shown⟩ := sends.authorized shows
      exact .redirected (List.mem_append_right hops (List.mem_singleton.mpr rfl)) sends place shown
    obtain ⟨reached, hop, present, passes⟩ := hypothesis (.more along warranted came) sent
    rw [List.append_assoc] at reached
    exact ⟨reached, hop, List.mem_cons_of_mem _ present, passes⟩

end Along

/-- Sending a warranted request goes along, and an answer of success is told by then. -/
theorem Along.send {network : Network σ} {service : Service (Wire σ)} {base : Url} {first : Wire σ}
    {hops : List Hop} {wire : Wire (Wire σ)} {request : Request}
    (follows : Follows network service.client.server)
    (along : service.Along network base first hops wire.state)
    (warranted : service.Warranted base hops request) :
    ∃ more, service.Along network base first (hops ++ more)
        (service.client.send request wire).world.state ∧
      ∀ later answer, ((service.client.send request wire).settle later).1 = .ok answer →
        isSuccess answer.status = true → service.Told (hops ++ more) answer := by
  cases possible : request.fault? with
  | some fault =>
    rw [Client.send, possible]
    refine ⟨[], ?_, ?_⟩
    · rw [List.append_nil]
      exact along
    · intro later answer answered
      cases answered
  | none =>
    obtain ⟨more, relayed⟩ := follows request wire.state
    cases replied : service.client.server request wire.state with
    | mk reply state =>
      rw [replied] at relayed
      obtain ⟨reached, hop, present, passes⟩ := along.relayed relayed fun _ => warranted
      rw [Client.send, possible]
      simp only [replied]
      refine ⟨more, reached, ?_⟩
      intro later answer answered success
      exact ⟨success, hop, List.mem_append_right hops present, passes.answer?_eq answered⟩

/-! ## Listings -/

section Listings

variable {service : Service σ} {wire : Wire σ}

variable {operation : String} {item : Value → Option α} {keep : α → Bool}
  {ask : Url → Wire σ → Sent (Wire σ) (Except ApiError (Page Url α))}

/-- Making a call for a page is sending its request. -/
theorem Asks.world_eq (asks : service.Asks operation item keep ask) (url : Url) :
    (ask url wire).world = (service.client.send (service.request .get url) wire).world := by
  rw [asks]
  rfl

/-- Waiting for a page sends nothing. -/
theorem Asks.settle_world (asks : service.Asks operation item keep ask) (url : Url)
    (wire later : Wire σ) : ((ask url wire).settle later).2 = later := by
  have still := service.client.send_settle (service.request .get url) wire later
  rw [asks]
  exact still

/-- A page is read from the answer to its request. -/
theorem Asks.settle_answer (asks : service.Asks operation item keep ask) (url : Url)
    (wire later : Wire σ) :
    ((ask url wire).settle later).1 =
      (Call.pageOf ⟨operation, service.account.subscription⟩ item
        ((service.client.send (service.request .get url) wire).settle later).1).map
          (Page.sift keep) := by
  rw [asks]
  rfl

/-- A page comes from an answer of success, whose items it holds and whose link it names. -/
theorem exists_answer_of_pageOf {call : Call} {result : Except SendFault Answer}
    {page : Page Url α} (listed : call.pageOf item result = .ok page) :
    ∃ answer, result = .ok answer ∧ isSuccess answer.status = true ∧
      (∀ listed ∈ page.items, answer.Lists item listed) ∧
        ∀ next ∈ page.next, ∃ link, answer.Links item link ∧ Url.parse link = .ok next := by
  cases pageReply_iff.mpr listed with
  | @last answer items status body =>
    refine ⟨answer, rfl, status, fun listed present => ⟨_, body, present⟩, ?_⟩
    intro next none
    cases none
  | @next answer items link url status body address =>
    refine ⟨answer, rfl, status, fun listed present => ⟨_, body, present⟩, ?_⟩
    intro next same
    cases same
    exact ⟨link, ⟨items, body⟩, address⟩

/-- Waiting for a page: the wire is the one after its request, and a page that comes was read from
the answer. -/
theorem Asks.await? (asks : service.Asks operation item keep ask) (limit : Option Nat) (url : Url)
    (line : Timeline (Wire σ)) :
    (line.await? limit (ask url line.world)).2.world =
        (service.client.send (service.request .get url) line.world).world ∧
      ∀ page, (line.await? limit (ask url line.world)).1 = some (.ok page) →
        ∃ later, (Call.pageOf ⟨operation, service.account.subscription⟩ item
          ((service.client.send (service.request .get url) line.world).settle later).1).map
            (Page.sift keep) = .ok page := by
  have still := asks.settle_world url line.world (ask url line.world).world
  have heard := asks.settle_answer url line.world (ask url line.world).world
  rw [← asks.world_eq]
  cases limit with
  | none =>
    refine ⟨still, fun page came => ⟨_, heard.symm.trans ?_⟩⟩
    exact Option.some.inj came
  | some limit =>
    by_cases late : limit < line.clock + (ask url line.world).duration
    · simp only [Timeline.await?, if_pos late]
      refine ⟨trivial, fun page none => ?_⟩
      cases none
    · simp only [Timeline.await?, if_neg late]
      refine ⟨still, fun page came => ⟨_, heard.symm.trans ?_⟩⟩
      exact Option.some.inj came

end Listings

section Warrants

variable {network : Network σ} {service : Service (Wire σ)} {base : Url} {first : Wire σ}
  {hops : List Hop} {operation : String} {item : Value → Option α} {keep : α → Bool}
  {ask : Url → Wire (Wire σ) → Sent (Wire (Wire σ)) (Except ApiError (Page Url α))}
  (follows : Follows network service.client.server) (asks : service.Asks operation item keep ask)
  (links : ∀ {answer : Answer} {link : String}, answer.Links item link →
    answer.Links machine? link ∨ answer.Links group? link)

include follows asks links

/-- Waiting for a warranted page goes along: what stands on the page was told, and the next page is
warranted. -/
theorem Along.await (limit : Option Nat) {url : Url} {line : Timeline (Wire (Wire σ))}
    (along : service.Along network base first hops line.world.state)
    (warranted : service.Warranted base hops (service.request .get url)) :
    ∃ more, service.Along network base first (hops ++ more)
        (line.await? limit (ask url line.world)).2.world.state ∧
      ∀ page, (line.await? limit (ask url line.world)).1 = some (.ok page) →
        (∀ listed ∈ page.items, ∃ answer, service.Told (hops ++ more) answer ∧
          answer.Lists item listed) ∧
        ∀ next ∈ page.next, service.Warranted base (hops ++ more)
          (service.request .get next) := by
  obtain ⟨more, reached, told⟩ := along.send follows warranted
  obtain ⟨world, came⟩ := asks.await? limit url line
  rw [← world] at reached
  refine ⟨more, reached, fun page heard => ?_⟩
  obtain ⟨later, sifted⟩ := came page heard
  obtain ⟨whole, listed, rfl⟩ : ∃ whole, Call.pageOf ⟨operation, service.account.subscription⟩ item
      ((service.client.send (service.request .get url) line.world).settle later).1 = .ok whole ∧
        whole.sift keep = page := by
    generalize Call.pageOf ⟨operation, service.account.subscription⟩ item _ = result at sifted ⊢
    cases result with
    | error error => cases sifted
    | ok whole => exact ⟨whole, rfl, Except.ok.inj sifted⟩
  obtain ⟨answer, answered, success, lists, names⟩ := exists_answer_of_pageOf listed
  have given := told later answer answered success
  constructor
  · intro listed present
    exact ⟨answer, given, lists listed (List.mem_filter.mp present).1⟩
  · intro next following
    obtain ⟨link, named, denotes⟩ := names next following
    exact .told given (links named) denotes

/-- A listing whose first page is warranted goes along, and what it finds was told. -/
theorem Along.listPages (limit : Option Nat) (pages : Nat) {url : Url} (found : List α)
    {line : Timeline (Wire (Wire σ))}
    (along : service.Along network base first hops line.world.state)
    (warranted : service.Warranted base hops (service.request .get url)) :
    ∃ more, service.Along network base first (hops ++ more)
        (listPages limit ask pages url found line).2.world.state ∧
      ∀ items, (OffHours.listPages limit ask pages url found line).1 = .complete items →
        ∀ listed ∈ items, listed ∈ found ∨
          ∃ answer, service.Told (hops ++ more) answer ∧ answer.Lists item listed := by
  induction pages generalizing url found line hops with
  | zero =>
    refine ⟨[], ?_, fun items none => by cases none⟩
    rw [List.append_nil]
    exact along
  | succ pages hypothesis =>
    obtain ⟨more, reached, came⟩ := along.await follows asks links limit warranted
    rw [OffHours.listPages]
    generalize line.await? limit (ask url line.world) = awaited at reached came ⊢
    obtain ⟨answer, later⟩ := awaited
    cases answer with
    | none => exact ⟨more, reached, fun items none => by cases none⟩
    | some answer =>
      cases answer with
      | error error => exact ⟨more, reached, fun items none => by cases none⟩
      | ok page =>
        obtain ⟨told, following⟩ := came page rfl
        simp only
        cases link : page.next with
        | none =>
          refine ⟨more, reached, fun items whole listed present => ?_⟩
          obtain rfl := ListingEnd.complete.inj whole
          exact (List.mem_append.mp present).imp_right (told listed)
        | some next =>
          obtain ⟨further, along, finds⟩ :=
            hypothesis (found ++ page.items) reached (following next link)
          rw [List.append_assoc] at along finds
          refine ⟨more ++ further, along, fun items whole listed present => ?_⟩
          rcases finds items whole listed present with before | later
          · refine (List.mem_append.mp before).imp_right fun here => ?_
            obtain ⟨answer, given, lists⟩ := told listed here
            have still := given.append further
            rw [List.append_assoc] at still
            exact ⟨answer, still, lists⟩
          · exact Or.inr later

/-- A listing from its first page on goes along when that page is warranted. -/
theorem Along.listAll (limit : Option Nat) (pages : Nat) (place : Except ApiError Url)
    {line : Timeline (Wire (Wire σ))}
    (along : service.Along network base first hops line.world.state)
    (warranted : ∀ url, place = .ok url →
      service.Warranted base hops (service.request .get url)) :
    ∃ more, service.Along network base first (hops ++ more)
        (listAll limit ask pages place line).2.world.state ∧
      ∀ items, (OffHours.listAll limit ask pages place line).1 = .complete items →
        ∀ listed ∈ items, ∃ answer, service.Told (hops ++ more) answer ∧
          answer.Lists item listed := by
  cases place with
  | error error =>
    refine ⟨[], ?_, fun items none => by cases none⟩
    rw [List.append_nil]
    exact along
  | ok url =>
    obtain ⟨more, along, finds⟩ :=
      along.listPages follows asks links limit pages [] (warranted url rfl)
    refine ⟨more, along, fun items whole listed present => ?_⟩
    exact (finds items whole listed present).resolve_left List.not_mem_nil

end Warrants

/-! ## Addresses at the endpoint -/

section Endpoint

variable {endpoint subscription : String} {base : Url}

/-- The endpoint of an account is what was configured without slashes at its end. -/
theorem exists_slashes (endpoint subscription : String) :
    ∃ slashes, endpoint = (Account.of endpoint subscription).endpoint ++ slashes ∧
      ∀ c ∈ slashes.toList, c = '/' := by
  refine ⟨String.ofList (endpoint.toList.rtakeWhile (· = '/')), ?_, ?_⟩
  · have cut : endpoint.toList.rdropWhile (· = '/') ++ endpoint.toList.rtakeWhile (· = '/') =
        endpoint.toList := List.rdropWhile_append_rtakeWhile
    have front : (Account.of endpoint subscription).endpoint =
        String.ofList (endpoint.toList.rdropWhile (· = '/')) := rfl
    rw [front, ← String.ofList_append, cut, String.ofList_toList]
  · intro c present
    rw [String.toList_ofList] at present
    have slash := List.mem_rtakeWhile_imp present
    exact of_decide_eq_true slash

/-- An address that is put together from the endpoint and a text that opens has the origin of the
endpoint. -/
theorem origin_address (subscription : String) (denotes : Url.parse endpoint = .ok base)
    (web : Url.isWeb base.scheme = true) {target text : String} (back : String)
    {pairs : List (String × String)} {url : Url}
    (whole : text = (Account.of endpoint subscription).endpoint ++ back)
    (opens : Url.Opens back.toList) (made : Account.address target text pairs = .ok url) :
    url.origin = base.origin := by
  obtain ⟨slashes, same, all⟩ := exists_slashes endpoint subscription
  rw [same] at denotes
  rw [Account.address, whole] at made
  split at made
  · rename_i plain parsed
    cases made
    rw [Url.origin_withPairs]
    exact Url.origin_eq_of_opens all denotes web opens parsed
  · cases made

/-- What is in the subscription is at the endpoint. -/
theorem origin_inSubscription (denotes : Url.parse endpoint = .ok base)
    (web : Url.isWeb base.scheme = true) {path : String} {pairs : List (String × String)}
    {url : Url} (made : (Account.of endpoint subscription).inSubscription path pairs = .ok url) :
    url.origin = base.origin := by
  rw [Account.inSubscription] at made
  refine origin_address subscription denotes web
    ("/subscriptions/" ++ (subscription ++ ("/" ++ path))) ?_ ?_ made
  · rw [String.append_assoc, String.append_assoc, String.append_assoc]
    rfl
  · intro c first
    rw [String.toList_append] at first
    obtain rfl : '/' = c := by simpa using first
    rfl

/-- A resource whose id opens is at the endpoint, and so is what is below it. -/
theorem origin_resource (denotes : Url.parse endpoint = .ok base)
    (web : Url.isWeb base.scheme = true) {kind : ResourceKind} {id : String} {below : Option String}
    {url : Url} (opens : Url.Opens id.toList)
    (made : (Account.of endpoint subscription).resource kind id below = .ok url) :
    url.origin = base.origin := by
  rw [Account.resource] at made
  refine origin_address subscription denotes web (id ++ below.elim "" ("/" ++ ·)) ?_ ?_ made
  · rw [String.append_assoc]
  · intro c first
    rw [String.toList_append] at first
    cases chars : id.toList with
    | nil =>
      cases below with
      | none => simp [chars] at first
      | some name =>
        obtain rfl : '/' = c := by simpa [chars] using first
        rfl
    | cons d rest =>
      rw [chars] at first
      exact opens c (by rw [chars]; exact first)

end Endpoint

/-! ## Runs -/

/-- Warranted hops went on after those that are known. -/
def Since (service : Service (Wire σ)) (network : Network σ) (base : Url) (first : Wire σ)
    (known : List Hop) (wire : Wire (Wire σ)) : Prop :=
  ∃ more, service.Along network base first (known ++ more) wire.state

section Runs

variable {network : Network σ} {service : Service (Wire σ)} {base : Url} {first : Wire σ}
  {hops : List Hop} (follows : Follows network service.client.server)

/-- What is warranted by what is known may be sent at any time. -/
theorem since_keeps {request : Request} (follows : Follows network service.client.server)
    (warranted : service.Warranted base hops request) :
    Keeps (service.Since network base first hops) (service.client.send request) where
  made since := by
    obtain ⟨more, along⟩ := since
    obtain ⟨further, later, -⟩ := along.send follows (warranted.append more)
    exact ⟨more ++ further, by rwa [← List.append_assoc]⟩
  answered _ since := by rwa [service.client.send_settle]

variable {endpoint subscription : String} (account : service.account = .of endpoint subscription)
  (denotes : Url.parse endpoint = .ok base) (web : Url.isWeb base.scheme = true)

include account denotes web

/-- What is in the subscription may be asked for. -/
theorem warranted_inSubscription {path : String} {pairs : List (String × String)} {url : Url}
    (made : service.account.inSubscription path pairs = .ok url) (method : Method) :
    service.Warranted base hops (service.request method url) := by
  rw [account] at made
  exact .home (origin_inSubscription denotes web made)

/-- Requests about a listed machine are warranted: at the endpoint when its id begins like a path,
and else by the listing. -/
theorem warranted_resource {machine : Machine} {answer : Answer}
    (given : service.Told hops answer) (listed : answer.Lists machine? machine)
    {kind : ResourceKind} {below : Option String} {url : Url}
    (made : service.account.resource kind machine.id below = .ok url) (method : Method) :
    service.Warranted base hops (service.request method url) := by
  by_cases opens : Url.Opens machine.id.toList
  · rw [account] at made
    exact .home (origin_resource denotes web opens made)
  · exact .glued given listed opens made

include follows

/-- The inventory is listed along warranted requests, and every machine in it was listed by an
answer. -/
theorem exists_along_list (settings : RunSettings) (request : RunRequest)
    (wire : Wire (Wire σ)) :
    ∃ hops, service.Along network base wire.state hops
        (Run.list service.plane settings request wire).2.world.state ∧
      ∀ inventory, (Run.list service.plane settings request wire).1 = .ok inventory →
        ∀ machine ∈ inventory.machines, ∃ answer, service.Told hops answer ∧
          answer.Lists machine? machine := by
  let limit := some (1000 * settings.limitSeconds)
  let line : Timeline (Wire (Wire σ)) := { world := wire, log := Run.opening request }
  have begun : service.Along network base wire.state [] line.world.state := .start
  have machines := begun.listAll follows service.asks_machines Or.inl limit settings.pages
    service.account.machinesFrom
    fun url first => warranted_inSubscription account denotes web first .get
  simp only [Run.list, plane_machinesFrom, plane_groupsFrom]
  generalize listAll limit service.plane.machinePage settings.pages service.account.machinesFrom
    line = listing at machines ⊢
  obtain ⟨ends, between⟩ := listing
  obtain ⟨hops, reached, found⟩ := machines
  rw [List.nil_append] at reached found
  cases ends with
  | failed error => exact ⟨hops, reached, fun inventory none => by cases none⟩
  | cut => exact ⟨hops, reached, fun inventory none => by cases none⟩
  | complete listed =>
    have groups := reached.listAll follows (service.asks_groups settings.tagKey) Or.inr limit
      settings.pages service.account.groupsFrom
      fun url first => warranted_inSubscription account denotes web first .get
    simp only
    generalize listAll limit (service.plane.groupPage settings.tagKey) settings.pages
      service.account.groupsFrom between = listing at groups ⊢
    obtain ⟨ends, later⟩ := listing
    obtain ⟨more, reached, -⟩ := groups
    cases ends with
    | failed error => exact ⟨_, reached, fun inventory none => by cases none⟩
    | cut => exact ⟨_, reached, fun inventory none => by cases none⟩
    | complete tagged =>
      refine ⟨_, reached, fun inventory all machine present => ?_⟩
      cases all
      obtain ⟨answer, given, lists⟩ := found listed rfl machine present
      exact ⟨answer, given.append more, lists⟩

/-- A fleet whose machines were listed is swept along warranted requests. -/
theorem exists_along_sweepFleet (settings : RunSettings) (request : RunRequest)
    (inventory : Inventory) {line : Timeline (Wire (Wire σ))}
    (along : service.Along network base first hops line.world.state)
    (listed : ∀ machine ∈ inventory.machines, ∃ answer, service.Told hops answer ∧
      answer.Lists machine? machine) :
    service.Since network base first hops
      (Run.sweepFleet service.plane settings request inventory line).line.world := by
  have alike : Matching
      (fun left right => left = right ∧ service.Since network base first hops left)
      (fun left right => left = right ∧ left ∈ inventory.machines) True service.plane service.plane
      (settings.orders request inventory) (settings.orders request inventory) := {
    key := fun pair => congrArg Machine.key pair.1
    brief := fun pair => by rw [pair.1]
    power := by
      rintro machine _ world again kind ⟨rfl, present⟩ outside
      obtain ⟨answer, given, lists⟩ := listed machine present
      rw [plane_power]
      exact (service.power_keeps fun url made => since_keeps follows
        (warranted_resource account denotes web given lists made .get)).matched outside
    act := by
      rintro - machine _ world again action kind ⟨rfl, present⟩ outside
      obtain ⟨answer, given, lists⟩ := listed machine present
      rw [plane_act]
      exact (service.act_keeps fun url made => since_keeps follows
        (warranted_resource account denotes web given lists made .post)).matched outside
    simulate := rfl
    width := rfl
    limit := rfl
    same := fun _ _ _ pair => pair.1
    briefLog := fun _ _ _ pair => by rw [pair.1] }
  have begun : service.Since network base first hops line.world :=
    ⟨[], by rwa [List.append_nil]⟩
  have themselves : List.Forall₂ (fun left right => left = right ∧ left ∈ inventory.machines)
      inventory.machines inventory.machines :=
    List.forall₂_same.mpr fun _ present => ⟨rfl, present⟩
  exact (Run.sweepFleet_matched settings request alike themselves
    ⟨⟨rfl, begun⟩, rfl, rfl⟩).line.world.2

/-- A run goes along warranted requests. -/
theorem exists_along_conduct (settings : RunSettings) (request : RunRequest)
    (wire : Wire (Wire σ)) :
    ∃ hops, service.Along network base wire.state hops
      (Run.conduct service.plane settings request wire).line.world.state := by
  obtain ⟨hops, along, listed⟩ :=
    exists_along_list follows account denotes web settings request wire
  rw [Run.conduct]
  generalize Run.list service.plane settings request wire = listing at along listed ⊢
  obtain ⟨ends, line⟩ := listing
  cases ends with
  | error error => exact ⟨hops, along⟩
  | ok inventory =>
    obtain ⟨more, swept⟩ := exists_along_sweepFleet follows account denotes web settings request
      inventory along (listed inventory rfl)
    exact ⟨hops ++ more, swept⟩

end Runs

/-- The token goes to the endpoint or where answers say: in every run over a network behind a
library that follows redirects, against an endpoint that denotes an address of the web, each request
over the network that shows a right to ask has the origin of the endpoint, or it reads what stands
where the link of a page points to that was answered before, or it is about a machine that was
listed before and whose id does not begin like a path, or a redirect sends it on from an earlier one
that showed the same at the same host and port. -/
theorem token_goes_where_told (network : Network σ) (service : Service (Wire σ))
    (follows : Follows network service.client.server) {endpoint subscription : String} {base : Url}
    (account : service.account = .of endpoint subscription)
    (denotes : Url.parse endpoint = .ok base) (web : Url.isWeb base.scheme = true)
    (settings : RunSettings) (request : RunRequest) (wire : Wire (Wire σ)) :
    ∃ hops,
      Hops network wire.state hops
        (Run.conduct service.plane settings request wire).line.world.state ∧
      (Run.conduct service.plane settings request wire).line.world.state.sent =
        wire.state.sent ++ (hops.filter (·.response.reply ≠ .unreachable)).map Hop.request ∧
      ∀ before hop after, hops = before ++ hop :: after → hop.request.authorization ≠ none →
        service.Warranted base before hop.request := by
  obtain ⟨hops, along⟩ := exists_along_conduct follows account denotes web settings request wire
  exact ⟨hops, along.toHops, along.toHops.sent,
    fun _ _ _ split shows => along.warranted split shows⟩

/-- A network whose first page points to another host, and lists a machine whose id does not begin
like a path. The next page stands under another scheme at the same port. At the host that the
endpoint and the id of the machine make up together, answers point to yet another one. -/
def strayResponse : Nat → Response
  | 0 => ⟨.answer 30 ⟨200, some ("\x7b\"value\":[\x7b\"id\":\"0/vm\",\"name\":\"web\"," ++
      "\"type\":\"Microsoft.Compute/virtualMachines\",\"tags\":\x7b\"off\":\"Sunday\"\x7d\x7d]," ++
      "\"nextLink\":\"https://elsewhere/more\"\x7d")⟩, none⟩
  | 1 => ⟨.answer 10 ⟨307, some ""⟩, (Url.parse "http://elsewhere:443/plain").toOption⟩
  | 2 | 3 => ⟨.answer 30 ⟨200, some "\x7b\x7d"⟩, none⟩
  | 4 => ⟨.answer 10 ⟨302, some ""⟩, (Url.parse "https://faraway/").toOption⟩
  | _ => ⟨.answer 30 ⟨503, some "busy"⟩, none⟩

/-- The network that gives these responses one after the other. -/
def strayNetwork : Network Nat := fun _ count => (strayResponse count, count + 1)

/-- The resource manager on that network. -/
def strayService : Service (Wire Nat) where
  client := .over strayNetwork 1000
  account := .of "https://management" "office"
  token := ⟨"key"⟩

/-- The address of its endpoint. -/
def strayBase : Url :=
  { scheme := "https", host := some (.domain "management"), path := .segments [""] }

/-- The endpoint denotes this address. -/
theorem parse_strayBase : Url.parse "https://management" = .ok strayBase := by
  have found : (Url.parse "https://management").toOption = some strayBase := by decide +kernel
  cases parsed : Url.parse "https://management" with
  | error fault =>
    rw [parsed] at found
    cases found
  | ok url =>
    rw [parsed] at found
    exact congrArg Except.ok (Option.some.inj found)

/-- On that network a run goes where the token may go. -/
theorem token_goes_where_told_stray :
    Follows strayNetwork strayService.client.server ∧
      strayService.account = .of "https://management" "office" ∧
      Url.parse "https://management" = .ok strayBase ∧ Url.isWeb strayBase.scheme = true ∧
      ∃ hops,
        Hops strayNetwork ⟨0, []⟩ hops (Run.conduct strayService.plane mondaySettings
          mondayRequest ⟨⟨0, []⟩, []⟩).line.world.state ∧
        (Run.conduct strayService.plane mondaySettings mondayRequest
            ⟨⟨0, []⟩, []⟩).line.world.state.sent =
          [] ++ (hops.filter (·.response.reply ≠ .unreachable)).map Hop.request ∧
        ∀ before hop after, hops = before ++ hop :: after → hop.request.authorization ≠ none →
          strayService.Warranted strayBase before hop.request := by
  have follows : Follows strayNetwork strayService.client.server := strayNetwork.follows 1000
  have account : strayService.account = .of "https://management" "office" := rfl
  have web : Url.isWeb strayBase.scheme = true := by decide +kernel
  exact ⟨follows, account, parse_strayBase, web, token_goes_where_told strayNetwork strayService
    follows account parse_strayBase web mondaySettings mondayRequest ⟨⟨0, []⟩, []⟩⟩

/-- The token does not stay at the endpoint: on that network a run sends it to the host that the
page points to, from there on under another scheme, and to the host that the endpoint and the id of
the machine make up together; the redirect away from that one goes without it. -/
theorem token_follows_stray_link :
    (Run.conduct strayService.plane mondaySettings mondayRequest
        ⟨⟨0, []⟩, []⟩).line.world.state.sent.map
          (fun sent => (sent.authorization, sent.url.origin)) =
      [(some "Bearer key", "https", some (.domain "management"), none),
        (some "Bearer key", "https", some (.domain "elsewhere"), none),
        (some "Bearer key", "http", some (.domain "elsewhere"), some 443),
        (some "Bearer key", "https", some (.domain "management"), none),
        (some "Bearer key", "https", some (.domain "management0"), none),
        (none, "https", some (.domain "faraway"), none)] ∧
      ¬ ∀ (network : Network Nat) (service : Service (Wire Nat)) (endpoint subscription : String)
        (base : Url), Follows network service.client.server →
        service.account = .of endpoint subscription → Url.parse endpoint = .ok base →
          Url.isWeb base.scheme = true →
            ∀ (settings : RunSettings) (request : RunRequest) (state : Nat),
              ∀ sent ∈ (Run.conduct service.plane settings request
                  ⟨⟨state, []⟩, []⟩).line.world.state.sent,
                sent.authorization = some ("Bearer " ++ service.token.secret) →
                  sent.url.origin = base.origin := by
  have origins : (Run.conduct strayService.plane mondaySettings mondayRequest
      ⟨⟨0, []⟩, []⟩).line.world.state.sent.map
        (fun sent => (sent.authorization, sent.url.origin)) =
      [(some "Bearer key", "https", some (.domain "management"), none),
        (some "Bearer key", "https", some (.domain "elsewhere"), none),
        (some "Bearer key", "http", some (.domain "elsewhere"), some 443),
        (some "Bearer key", "https", some (.domain "management"), none),
        (some "Bearer key", "https", some (.domain "management0"), none),
        (none, "https", some (.domain "faraway"), none)] := by
    decide +kernel
  refine ⟨origins, fun stays => ?_⟩
  have home := stays strayNetwork strayService "https://management" "office" strayBase
    (strayNetwork.follows 1000) rfl parse_strayBase (by decide +kernel) mondaySettings
    mondayRequest 0
  have present : (some "Bearer key", "https", some (Host.domain "elsewhere"), none) ∈
      (Run.conduct strayService.plane mondaySettings mondayRequest
        ⟨⟨0, []⟩, []⟩).line.world.state.sent.map
          fun sent => (sent.authorization, sent.url.origin) := by
    rw [origins]
    exact List.mem_cons_of_mem _ List.mem_cons_self
  obtain ⟨stray, inside, same⟩ := List.mem_map.mp present
  obtain ⟨token, there⟩ := Prod.mk.inj same
  have claimed := home stray inside token
  rw [there] at claimed
  exact absurd claimed (by decide +kernel)

end Manager.Service

end OffHours
