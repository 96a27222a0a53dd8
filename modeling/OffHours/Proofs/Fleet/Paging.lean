import OffHours.Fleet.Listing
import OffHours.Fleet.Manager.Plane

/-!
# Listings of the resource manager

A listing follows the addresses that its pages name. `Service.Lists` tells one from its exchanges
with the server: which addresses were asked for, how the listing ended, how long it took and what
the wire is like afterwards. Each answer is judged by `PageReply`, case by case: a transport fault,
a refusal by its status, a body that cannot be read, a link that cannot be read, or a page.
`listPages` follows such a listing as long as it ends by the limit (`listPages_of_lists`), and
whatever it comes to is one (`lists_of_listPages`).
-/

namespace OffHours

open Http Manager

variable {σ κ α : Type}

/-! ## Exchanges -/

/-- What a request is answered with once it is waited for, and the wire after it. -/
def Http.Client.exchange (client : Client σ) (request : Request) (wire : Wire σ) :
    Except SendFault Answer × Wire σ :=
  let sent := client.send request wire
  sent.settle sent.world

/-- How many milliseconds a request is waited for. -/
def Http.Client.wait (client : Client σ) (request : Request) (wire : Wire σ) : Nat :=
  (client.send request wire).duration

/-- A request reaches the server or it does not. -/
theorem Http.Client.exchange_sent (client : Client σ) (request : Request) (wire : Wire σ) :
    (client.exchange request wire).2.sent = wire.sent ++ [request] ∨
      (client.exchange request wire).2.sent = wire.sent := by
  rw [exchange, send]
  cases request.fault? with
  | some fault => exact Or.inr rfl
  | none =>
    by_cases away : (client.server request wire.state).1 = .unreachable
    · simp [away]
    · simp [away]

/-- A request that is answered has reached the server. -/
theorem Http.Client.exchange_sent_of_ok {client : Client σ} {request : Request}
    {wire later : Wire σ} {answer : Answer}
    (answered : client.exchange request wire = (.ok answer, later)) :
    later.sent = wire.sent ++ [request] := by
  rw [exchange, send] at answered
  cases faulty : request.fault? with
  | some fault => simp [faulty, Sent.refused] at answered
  | none =>
    simp only [faulty, Prod.mk.injEq] at answered
    obtain ⟨replied, rfl⟩ := answered
    have near : (client.server request wire.state).1 ≠ .unreachable := by
      intro away
      simp [away, outcome] at replied
    simp [near]

/-! ## Pages -/

/-- The page in the body of an answer, as it is written. -/
def Http.Answer.page? (item : Value → Option α) (answer : Answer) : Option (ListedPage α) :=
  (answer.body.bind Json.read?).bind (Manager.page? item)

/-- What comes of an attempt to get a page of a listing. -/
inductive PageReply (call : Call) (item : Value → Option α) :
    Except SendFault Answer → Except ApiError (Page Url α) → Prop where
  /-- There is no answer. -/
  | unanswered (fault : SendFault) :
    PageReply call item (.error fault)
      (.error ⟨if fault.isPassing then .transient else .permanent, call.operation, call.target,
        fault.message⟩)
  /-- The answer is a refusal. -/
  | refused {answer : Answer} (status : isSuccess answer.status = false) :
    PageReply call item (.ok answer)
      (.error ⟨if isPassing answer.status then .transient else .permanent, call.operation,
        call.target, "status " ++ statusText answer.status ++ ": " ++
          Text.trim (answer.body.getD "")⟩)
  /-- The body cannot be read. -/
  | unreadable {answer : Answer} (status : isSuccess answer.status = true)
    (body : answer.page? item = none) :
    PageReply call item (.ok answer)
      (.error ⟨.decode, call.operation, call.target, "error decoding response body"⟩)
  /-- The page names an address that cannot be read. -/
  | unparsable {answer : Answer} {items : List α} {link : String} {fault : UrlFault}
    (status : isSuccess answer.status = true)
    (body : answer.page? item = some ⟨items, some link⟩) (address : Url.parse link = .error fault) :
    PageReply call item (.ok answer)
      (.error ⟨.decode, call.operation, call.target, fault.message⟩)
  /-- The page is the last one. -/
  | last {answer : Answer} {items : List α} (status : isSuccess answer.status = true)
    (body : answer.page? item = some ⟨items, none⟩) :
    PageReply call item (.ok answer) (.ok ⟨items, none⟩)
  /-- The page names the next one. -/
  | next {answer : Answer} {items : List α} {link : String} {url : Url}
    (status : isSuccess answer.status = true)
    (body : answer.page? item = some ⟨items, some link⟩) (address : Url.parse link = .ok url) :
    PageReply call item (.ok answer) (.ok ⟨items, some url⟩)

/-- What a listing makes of an attempt to get a page. -/
def Manager.Call.pageOf (call : Call) (item : Value → Option α) (result : Except SendFault Answer) :
    Except ApiError (Page Url α) :=
  (call.decode (page? item) result).bind (Service.follow call)

/-- A judged attempt is what the listing makes of it. -/
theorem PageReply.pageOf_eq {call : Call} {item : Value → Option α}
    {result : Except SendFault Answer} {reply : Except ApiError (Page Url α)}
    (judged : PageReply call item result reply) : call.pageOf item result = reply := by
  cases judged with
  | unanswered fault => rfl
  | refused status =>
    simp [Call.pageOf, Call.decode, Call.check, Call.failure, Call.classOf, status, bind,
      Except.bind]
  | unreadable status body =>
    rw [Answer.page?] at body
    simp [Call.pageOf, Call.decode, Call.check, Call.failure, status, body, bind, Except.bind]
  | unparsable status body address =>
    rw [Answer.page?] at body
    simp [Call.pageOf, Call.decode, Call.check, Call.failure, Service.follow, status, body,
      address, bind, Except.bind]
  | last status body =>
    rw [Answer.page?] at body
    simp [Call.pageOf, Call.decode, Call.check, Service.follow, status, body, bind, Except.bind]
  | next status body address =>
    rw [Answer.page?] at body
    simp [Call.pageOf, Call.decode, Call.check, Service.follow, status, body, address, bind,
      Except.bind]

/-- Every attempt is judged. -/
theorem PageReply.exists (call : Call) (item : Value → Option α)
    (result : Except SendFault Answer) : ∃ reply, PageReply call item result reply := by
  cases result with
  | error fault => exact ⟨_, .unanswered fault⟩
  | ok answer =>
    cases status : isSuccess answer.status with
    | false => exact ⟨_, .refused status⟩
    | true =>
      cases body : answer.page? item with
      | none => exact ⟨_, .unreadable status body⟩
      | some page =>
        obtain ⟨items, link⟩ := page
        cases link with
        | none => exact ⟨_, .last status body⟩
        | some link =>
          cases address : Url.parse link with
          | error fault => exact ⟨_, .unparsable status body address⟩
          | ok url => exact ⟨_, .next status body address⟩

/-- What the listing makes of an attempt is its one judgement. -/
theorem pageReply_iff {call : Call} {item : Value → Option α} {result : Except SendFault Answer}
    {reply : Except ApiError (Page Url α)} :
    PageReply call item result reply ↔ call.pageOf item result = reply := by
  constructor
  · exact PageReply.pageOf_eq
  · rintro rfl
    obtain ⟨reply, judged⟩ := PageReply.exists call item result
    rw [judged.pageOf_eq]
    exact judged

/-! ## Listings -/

namespace Manager.Service

/-- A listing from an address on: the addresses that are asked for, the items or the error that
it ends with, the milliseconds that it takes, and the wire after it. -/
inductive Lists (service : Service σ) (operation : String) (item : Value → Option α) :
    Url → Wire σ → List Url → Except ApiError (List α) → Nat → Wire σ → Prop where
  /-- The page fails. -/
  | fault {url : Url} {wire later : Wire σ} {result : Except SendFault Answer} {error : ApiError}
    (asked : service.client.exchange (service.request .get url) wire = (result, later))
    (reply : PageReply ⟨operation, service.account.subscription⟩ item result (.error error)) :
    Lists service operation item url wire [url] (.error error)
      (service.client.wait (service.request .get url) wire) later
  /-- The page is the last one. -/
  | last {url : Url} {wire later : Wire σ} {result : Except SendFault Answer} {items : List α}
    (asked : service.client.exchange (service.request .get url) wire = (result, later))
    (reply : PageReply ⟨operation, service.account.subscription⟩ item result (.ok ⟨items, none⟩)) :
    Lists service operation item url wire [url] (.ok items)
      (service.client.wait (service.request .get url) wire) later
  /-- The page names the next one, and the listing goes on there. -/
  | next {url following : Url} {wire later final : Wire σ} {result : Except SendFault Answer}
    {items : List α} {urls : List Url} {ending : Except ApiError (List α)} {time : Nat}
    (asked : service.client.exchange (service.request .get url) wire = (result, later))
    (reply : PageReply ⟨operation, service.account.subscription⟩ item result
      (.ok ⟨items, some following⟩))
    (rest : Lists service operation item following later urls ending time final) :
    Lists service operation item url wire (url :: urls) (ending.map (items ++ ·))
      (service.client.wait (service.request .get url) wire + time) final

variable {service : Service σ} {operation : String} {item : Value → Option α}

/-- The requests of a listing that reach the server are those for its addresses in order; only the
last one of a listing that fails may not. -/
theorem Lists.requests {url : Url} {wire final : Wire σ} {urls : List Url}
    {ending : Except ApiError (List α)} {time : Nat}
    (lists : service.Lists operation item url wire urls ending time final) :
    ∃ reached : List Url, final.sent = wire.sent ++ reached.map (service.request .get) ∧
      (reached = urls ∨ (reached = urls.dropLast ∧ ∃ error, ending = .error error)) := by
  induction lists with
  | @fault url wire later result error asked reply =>
    have sent := service.client.exchange_sent (service.request .get url) wire
    rw [asked] at sent
    rcases sent with reached | away
    · exact ⟨[url], reached, Or.inl rfl⟩
    · exact ⟨[], by rw [away, List.map_nil, List.append_nil], Or.inr ⟨rfl, error, rfl⟩⟩
  | @last url wire later result items asked reply =>
    cases reply with
    | last status body => exact ⟨[url], Client.exchange_sent_of_ok asked, Or.inl rfl⟩
  | @next url following wire later final result items urls ending time asked reply rest
      hypothesis =>
    obtain ⟨reached, sent, which⟩ := hypothesis
    cases reply with
    | next status body address =>
      have first := Client.exchange_sent_of_ok asked
      refine ⟨url :: reached, ?_, ?_⟩
      · rw [sent, first, List.map_cons, List.append_assoc, List.singleton_append]
      · rcases which with rfl | ⟨rfl, error, rfl⟩
        · exact Or.inl rfl
        · have some : urls ≠ [] := by
            rintro rfl
            cases rest
          exact Or.inr ⟨(List.dropLast_cons_of_ne_nil some).symm, error, rfl⟩

end Manager.Service

/-! ## Following a listing -/

/-- A page with the items that are kept. -/
def Page.sift (keep : α → Bool) (page : Page κ α) : Page κ α :=
  { page with items := page.items.filter keep }

/-- A call asks for the pages of a listing and keeps some of their items. -/
def Manager.Service.Asks (service : Service σ) (operation : String) (item : Value → Option α)
    (keep : α → Bool) (ask : Url → Wire σ → Sent (Wire σ) (Except ApiError (Page Url α))) : Prop :=
  ∀ url wire,
    ask url wire = (service.page operation item url wire).map (Except.map (Page.sift keep))

namespace Manager.Service

/-- The listing of machines begins where the account says. -/
theorem plane_machinesFrom (service : Service σ) :
    service.plane.machinesFrom = service.account.machinesFrom := by rw [plane]

/-- The listing of groups begins where the account says. -/
theorem plane_groupsFrom (service : Service σ) :
    service.plane.groupsFrom = service.account.groupsFrom := by rw [plane]

/-- Reads are those of the service. -/
theorem plane_power (service : Service σ) : service.plane.power = service.power := by rw [plane]

/-- Changes of power are those of the service. -/
theorem plane_act (service : Service σ) : service.plane.act = service.act := by rw [plane]

/-- All machines are kept. -/
theorem asks_machines (service : Service σ) :
    service.Asks "list virtual machines" machine? (fun _ => true) service.plane.machinePage := by
  intro url wire
  have whole : (Except.map (Page.sift fun _ => true) :
      Except ApiError (Page Url Machine) → Except ApiError (Page Url Machine)) = id := by
    funext answer
    cases answer with
    | error error => rfl
    | ok page =>
      have all : page.items.filter (fun _ => true) = page.items :=
        List.filter_eq_self.mpr fun _ _ => rfl
      rw [Except.map, Page.sift, all, id]
  rw [whole]
  rfl

/-- The groups that carry the tag are kept. -/
theorem asks_groups (service : Service σ) (tagKey : String) :
    service.Asks "list resource groups" group? (fun group => (group.tags.value? tagKey).isSome)
      (service.plane.groupPage tagKey) := fun _ _ => rfl

end Manager.Service

/-- How a listing ends that had found some items before. -/
def ListingEnd.of (keep : α → Bool) (found : List α) : Except ApiError (List α) → ListingEnd α
  | .ok items => .complete (found ++ items.filter keep)
  | .error error => .failed error

/-- What a page adds is found before what the rest of the listing adds. -/
theorem ListingEnd.of_append (keep : α → Bool) (found items : List α)
    (ending : Except ApiError (List α)) :
    of keep found (ending.map (items ++ ·)) = of keep (found ++ items.filter keep) ending := by
  cases ending with
  | error error => rfl
  | ok more => simp [of, Except.map, List.filter_append]

section Follow

variable {service : Service σ} {operation : String} {item : Value → Option α} {keep : α → Bool}
  {ask : Url → Wire σ → Sent (Wire σ) (Except ApiError (Page Url α))}

/-- Waiting for a page that comes by the limit: what is made of the answer, and when. -/
theorem Manager.Service.Asks.await?_eq (asks : service.Asks operation item keep ask) {limit : Nat}
    {url : Url} {line : Timeline (Wire σ)}
    (early : line.clock + service.client.wait (service.request .get url) line.world ≤ limit) :
    ∃ log, line.await? (some limit) (ask url line.world) =
      (some ((Call.pageOf ⟨operation, service.account.subscription⟩ item
          (service.client.exchange (service.request .get url) line.world).1).map (Page.sift keep)),
        ⟨(service.client.exchange (service.request .get url) line.world).2,
          line.clock + service.client.wait (service.request .get url) line.world, log⟩) := by
  have duration : (ask url line.world).duration =
      service.client.wait (service.request .get url) line.world := by
    rw [asks]
    rfl
  have timely : ¬ limit < line.clock + (ask url line.world).duration := by
    rw [duration]
    exact Nat.not_lt.mpr early
  refine ⟨line.log ++ (ask url line.world).log, ?_⟩
  simp only [Timeline.await?, if_neg timely]
  rw [duration, asks]
  rfl

/-- A page that does not come by the limit is not waited for. -/
theorem Manager.Service.Asks.await?_none (asks : service.Asks operation item keep ask) {limit : Nat}
    {url : Url} {line : Timeline (Wire σ)}
    (late : limit < line.clock + service.client.wait (service.request .get url) line.world) :
    (line.await? (some limit) (ask url line.world)).1 = none := by
  have duration : (ask url line.world).duration =
      service.client.wait (service.request .get url) line.world := by
    rw [asks]
    rfl
  simp [Timeline.await?, duration, late]

/-- A listing that ends by the limit is followed to its end. -/
theorem listPages_of_lists (asks : service.Asks operation item keep ask) {url : Url}
    {wire final : Wire σ} {urls : List Url} {ending : Except ApiError (List α)} {time : Nat}
    (lists : service.Lists operation item url wire urls ending time final) {limit pages : Nat}
    {found : List α} {line : Timeline (Wire σ)} (start : line.world = wire)
    (early : line.clock + time ≤ limit) (room : urls.length ≤ pages) :
    ∃ log, listPages (some limit) ask pages url found line =
      (.of keep found ending, ⟨final, line.clock + time, log⟩) := by
  induction lists generalizing pages found line with
  | @fault url wire later result error asked reply =>
    subst start
    obtain ⟨log, awaited⟩ := asks.await?_eq early
    obtain ⟨pages, rfl⟩ := Nat.exists_eq_add_of_lt room
    rw [listPages, awaited, asked, reply.pageOf_eq]
    exact ⟨log, rfl⟩
  | @last url wire later result items asked reply =>
    subst start
    obtain ⟨log, awaited⟩ := asks.await?_eq early
    obtain ⟨pages, rfl⟩ := Nat.exists_eq_add_of_lt room
    rw [listPages, awaited, asked, reply.pageOf_eq]
    exact ⟨log, rfl⟩
  | @next url following wire later final result items urls ending time asked reply rest
      hypothesis =>
    subst start
    have first :
        line.clock + service.client.wait (service.request .get url) line.world ≤ limit := by
      omega
    obtain ⟨log, awaited⟩ := asks.await?_eq first
    obtain ⟨pages, rfl⟩ := Nat.exists_eq_add_of_lt room
    rw [listPages, awaited, asked, reply.pageOf_eq]
    let between : Timeline (Wire σ) :=
      ⟨later, line.clock + service.client.wait (service.request .get url) line.world, log⟩
    have start : between.world = later := rfl
    have earlier : between.clock + time ≤ limit := by
      rw [Nat.add_assoc]
      exact early
    have fewer : urls.length ≤ urls.length + pages := Nat.le_add_right _ _
    obtain ⟨log, listed⟩ := hypothesis start earlier fewer
    rw [ListingEnd.of_append, ← Nat.add_assoc]
    exact ⟨log, listed⟩

/-- What a listing by pages comes to that is not cut is a listing that ends by the limit. -/
theorem lists_of_listPages (asks : service.Asks operation item keep ask) {limit pages : Nat}
    {url : Url} {found : List α} {line later : Timeline (Wire σ)} {ending : ListingEnd α}
    (listed : listPages (some limit) ask pages url found line = (ending, later))
    (whole : ending ≠ .cut) :
    ∃ urls result time, service.Lists operation item url line.world urls result time later.world ∧
      ending = .of keep found result ∧ later.clock = line.clock + time ∧ later.clock ≤ limit ∧
      urls.length ≤ pages := by
  induction pages generalizing url found line with
  | zero =>
    obtain ⟨rfl, -⟩ := Prod.mk.inj listed
    exact absurd rfl whole
  | succ pages hypothesis =>
    by_cases early :
        line.clock + service.client.wait (service.request .get url) line.world ≤ limit
    · obtain ⟨log, awaited⟩ := asks.await?_eq early
      cases asked : service.client.exchange (service.request .get url) line.world with
      | mk answer wire =>
        obtain ⟨reply, judged⟩ :=
          PageReply.exists ⟨operation, service.account.subscription⟩ item answer
        rw [listPages, awaited, asked, judged.pageOf_eq] at listed
        cases reply with
        | error error =>
          obtain ⟨rfl, rfl⟩ := Prod.mk.inj listed
          exact ⟨[url], .error error, _, .fault asked judged, rfl, rfl, early, by simp⟩
        | ok page =>
          obtain ⟨items, link⟩ := page
          cases link with
          | none =>
            obtain ⟨rfl, rfl⟩ := Prod.mk.inj listed
            exact ⟨[url], .ok items, _, .last asked judged, rfl, rfl, early, by simp⟩
          | some following =>
            obtain ⟨urls, result, time, lists, ends, clock, timely, room⟩ := hypothesis listed
            refine ⟨url :: urls, _, _, .next asked judged lists, ?_, ?_, timely, ?_⟩
            · rw [ends, ListingEnd.of_append]
              rfl
            · rw [clock, Nat.add_assoc]
            · rw [List.length_cons]
              exact Nat.succ_le_succ room
    · have late := asks.await?_none (Nat.lt_of_not_le early)
      cases awaited : line.await? (some limit) (ask url line.world) with
      | mk answer between =>
        rw [awaited] at late
        subst late
        rw [listPages, awaited] at listed
        obtain ⟨rfl, -⟩ := Prod.mk.inj listed
        exact absurd rfl whole

/-- A listing from its first page on that ends by the limit is followed to its end. -/
theorem listAll_of_lists (asks : service.Asks operation item keep ask) {url : Url}
    {final : Wire σ} {urls : List Url} {ending : Except ApiError (List α)} {time limit pages : Nat}
    {line : Timeline (Wire σ)} (early : line.clock + time ≤ limit)
    (lists : service.Lists operation item url line.world urls ending time final)
    (room : urls.length ≤ pages) :
    ∃ log, listAll (some limit) ask pages (.ok url) line =
      (.of keep [] ending, ⟨final, line.clock + time, log⟩) :=
  listPages_of_lists asks lists rfl early room

/-- A listing from its first page on that fails is one that fails by the limit. -/
theorem lists_of_failed (asks : service.Asks operation item keep ask) {limit pages : Nat}
    {url : Url} {line later : Timeline (Wire σ)} {error : ApiError}
    (listed : listAll (some limit) ask pages (.ok url) line = (.failed error, later)) :
    ∃ urls time, service.Lists operation item url line.world urls (.error error) time later.world ∧
      later.clock = line.clock + time ∧ later.clock ≤ limit ∧ urls.length ≤ pages := by
  obtain ⟨urls, result, time, lists, ends, clock, timely, room⟩ :=
    lists_of_listPages asks listed (by simp)
  cases result with
  | ok items => cases ends
  | error failure =>
    obtain rfl : error = failure := ListingEnd.failed.inj ends
    exact ⟨urls, time, lists, clock, timely, room⟩

/-- A listing from its first page on that is complete is one that is so by the limit. -/
theorem lists_of_complete (asks : service.Asks operation item keep ask) {limit pages : Nat}
    {url : Url} {line later : Timeline (Wire σ)} {kept : List α}
    (listed : listAll (some limit) ask pages (.ok url) line = (.complete kept, later)) :
    ∃ urls items time,
      service.Lists operation item url line.world urls (.ok items) time later.world ∧
      kept = items.filter keep ∧ later.clock = line.clock + time ∧ later.clock ≤ limit ∧
      urls.length ≤ pages := by
  obtain ⟨urls, result, time, lists, ends, clock, timely, room⟩ :=
    lists_of_listPages asks listed (by simp)
  cases result with
  | error failure => cases ends
  | ok items => exact ⟨urls, items, time, lists, ListingEnd.complete.inj ends, clock, timely, room⟩

end Follow

end OffHours
