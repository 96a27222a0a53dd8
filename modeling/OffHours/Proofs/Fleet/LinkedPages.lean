import OffHours.Proofs.Fleet.FailedListings

/-!
# Linked pages

A server may answer a listing with page after page, each naming the address of the next one. Such
pages are told by `Listing.Linked`, with no regard to how the listing goes about them, and what
stands on a page by the fields of its document (`page?_table_iff`). The listing asks for each page
once and in order and collects their items (`Listing.Linked.listPages`), so at the last page it has
them all, and at one that fails it has asked for nothing behind it: `listings_follow_links`. Nothing
but the number of pages that are asked for at most limits it here.
-/

namespace OffHours

open Http Manager

variable {σ α : Type}

/-! ## Documents of pages -/

/-- The values that stand under a name. -/
def Value.under (entries : List (String × Value)) (name : String) : List Value :=
  (entries.filter (·.1 == name)).map Prod.snd

/-- What a field is read as, given the values under its name. -/
def Value.field? (absent : α) (reader : Value → Option α) : List Value → Option α
  | [] => some absent
  | [value] => reader value
  | _ => none

/-- The items under their name: none when it is missing, else those of one list. -/
inductive Manager.ItemsWritten (item : Value → Option α) : List Value → List α → Prop where
  /-- The name is missing. -/
  | missing : ItemsWritten item [] []
  /-- A list stands there, and each of its values is an item. -/
  | listed {values : List Value} {items : List α} (read : values.mapM item = some items) :
    ItemsWritten item [.list values] items

/-- The address under its name: none when it is missing or null, else one text. -/
inductive Manager.LinkWritten : List Value → Option String → Prop where
  /-- The name is missing. -/
  | missing : LinkWritten [] none
  /-- Null stands there. -/
  | null : LinkWritten [.null] none
  /-- A text stands there. -/
  | named (link : String) : LinkWritten [.text link] (some link)

/-- Items are read exactly as they are written. -/
theorem Manager.itemsWritten_iff {item : Value → Option α} {values : List Value} {items : List α} :
    Value.field? [] (Value.list? item) values = some items ↔ ItemsWritten item values items := by
  constructor
  · intro read
    rcases values with _ | ⟨value, _ | ⟨second, others⟩⟩
    · cases read
      exact .missing
    · cases value with
      | list values => exact .listed read
      | _ => cases read
    · cases read
  · rintro (_ | read)
    · rfl
    · exact read

/-- A link is read exactly as it is written. -/
theorem Manager.linkWritten_iff {values : List Value} {link : Option String} :
    Value.field? none (Value.nullable? Value.text?) values = some link ↔
      LinkWritten values link := by
  constructor
  · intro read
    rcases values with _ | ⟨value, _ | ⟨second, others⟩⟩
    · cases read
      exact .missing
    · cases value with
      | null =>
        cases read
        exact .null
      | text link =>
        cases read
        exact .named link
      | _ => cases read
    · cases read
  · rintro (_ | _ | link)
    · rfl
    · rfl
    · rfl

/-- A field is read by its name when it stands there at most once. -/
theorem FieldReader.next_named (entries : List (String × Value)) (name : String) :
    FieldReader.next name (.named entries) =
      (Value.field? none (some ∘ some) (Value.under entries name)).map (·, .named entries) := by
  rw [FieldReader.next, Value.under]
  split
  · rename_i absent
    rw [absent]
    rfl
  · rename_i entry single
    rw [single]
    rfl
  · rename_i several many
    cases shape : entries.filter (·.1 == name) with
    | nil => exact absurd shape several
    | cons first rest =>
      cases rest with
      | nil => exact absurd shape (many first)
      | cons second others => rfl

/-- A field with a default is read from the values under its name. -/
theorem FieldReader.withDefault_named (entries : List (String × Value)) (name : String)
    (reader : Value → Option α) (absent : α) :
    FieldReader.withDefault name reader absent (.named entries) =
      (Value.field? absent reader (Value.under entries name)).map (·, .named entries) := by
  simp only [FieldReader.withDefault, bind, StateT.bind, FieldReader.next_named]
  match Value.under entries name with
  | [] => rfl
  | [value] =>
    simp only [Value.field?, Function.comp, Option.map_some, Option.bind]
    cases reader value <;> rfl
  | _ :: _ :: _ => rfl

/-- A field that may be null is read from the values under its name. -/
theorem FieldReader.nullable_named (entries : List (String × Value)) (name : String)
    (reader : Value → Option α) :
    FieldReader.nullable name reader (.named entries) =
      (Value.field? none (Value.nullable? reader) (Value.under entries name)).map
        (·, .named entries) := by
  simp only [FieldReader.nullable, bind, StateT.bind, FieldReader.next_named]
  match Value.under entries name with
  | [] => rfl
  | [value] =>
    simp only [Value.field?]
    cases read : Value.nullable? reader value with
    | none => simp [get, getThe, MonadStateOf.get, StateT.get, pure, read]; rfl
    | some found => simp [get, getThe, MonadStateOf.get, StateT.get, pure, read]; rfl
  | _ :: _ :: _ => rfl

/-- An object is a page exactly when its items and its link are written as they should be. -/
theorem Manager.page?_table_iff {item : Value → Option α} {entries : List (String × Value)}
    {items : List α} {link : Option String} :
    page? item (.table entries) = some ⟨items, link⟩ ↔
      ItemsWritten item (Value.under entries "value") items ∧
        LinkWritten (Value.under entries "nextLink") link := by
  rw [← itemsWritten_iff, ← linkWritten_iff]
  simp only [page?, Value.record?, bind, StateT.bind, FieldReader.withDefault_named]
  cases listed : Value.field? [] (Value.list? item) (Value.under entries "value") with
  | none => simp [Option.bind]
  | some found =>
    simp only [Option.map_some, Option.bind, FieldReader.nullable_named]
    cases linked : Value.field? none (Value.nullable? Value.text?)
        (Value.under entries "nextLink") with
    | none => simp
    | some next =>
      have whole : (return ⟨found, next⟩ : FieldReader (ListedPage α)) (.named entries) =
          some (⟨found, next⟩, .named entries) := rfl
      simp [whole]

/-! ## Groups of machines -/

/-- The group that the segments of a resource id name: the one behind the first segment that
announces a group, else none. -/
inductive GroupNamed (segments : List String) : String → Prop where
  /-- A segment announces the group, and it stands behind. -/
  | announced {before after : List String} {marker group : String}
    (split : segments = before ++ marker :: group :: after)
    (announces : Text.sameName marker "resourceGroups" = true)
    (first : ∀ segment ∈ before, Text.sameName segment "resourceGroups" = false) :
    GroupNamed segments group
  /-- Nothing stands behind the segment that announces a group. -/
  | bare {before : List String} {marker : String} (split : segments = before ++ [marker])
    (announces : Text.sameName marker "resourceGroups" = true)
    (first : ∀ segment ∈ before, Text.sameName segment "resourceGroups" = false) :
    GroupNamed segments ""
  /-- No segment announces a group. -/
  | missing (none : ∀ segment ∈ segments, Text.sameName segment "resourceGroups" = false) :
    GroupNamed segments ""

/-- A segment that announces no group changes nothing. -/
theorem GroupNamed.cons {segments : List String} {group segment : String}
    (named : GroupNamed segments group)
    (other : Text.sameName segment "resourceGroups" = false) :
    GroupNamed (segment :: segments) group := by
  cases named with
  | announced split announces first =>
    subst split
    exact .announced List.cons_append.symm announces (List.forall_mem_cons.mpr ⟨other, first⟩)
  | bare split announces first =>
    subst split
    exact .bare List.cons_append.symm announces (List.forall_mem_cons.mpr ⟨other, first⟩)
  | missing none => exact .missing (List.forall_mem_cons.mpr ⟨other, none⟩)

/-- Segments name the group that is found in them. -/
theorem groupNamed_groupSegment? (segments : List String) :
    GroupNamed segments ((groupSegment? segments).getD "") := by
  induction segments with
  | nil => exact .missing fun _ none => absurd none List.not_mem_nil
  | cons segment rest hypothesis =>
    rw [groupSegment?]
    cases announces : Text.sameName segment "resourceGroups" with
    | false => exact hypothesis.cons announces
    | true =>
      cases rest with
      | nil => exact .bare (List.nil_append _).symm announces (by simp)
      | cons group rest => exact .announced (List.nil_append _).symm announces (by simp)

/-- What a record is read as, its reader has made of some fields. -/
theorem Value.exists_of_record? {reader : FieldReader α} {value : Value} {found : α}
    (read : value.record? reader = some found) :
    ∃ fields rest, reader fields = some (found, rest) := by
  have named : ∀ entries, (table entries).record? reader = some found →
      ∃ fields rest, reader fields = some (found, rest) := by
    intro entries taken
    simp only [Value.record?] at taken
    split at taken
    · cases taken
    · rename_i shape
      cases taken
      exact ⟨_, _, shape⟩
    · cases taken
  cases value with
  | table entries => exact named entries read
  | moment stamp => exact named [] read
  | list items =>
    simp only [Value.record?] at read
    split at read
    · cases read
    · rename_i shape
      cases read
      exact ⟨_, _, shape⟩
    · cases read
  | _ => cases read

/-- The group of a machine is the one that its id names. -/
theorem Manager.machine?_group {value : Value} {machine : Machine}
    (read : machine? value = some machine) :
    GroupNamed ((Text.pieces '/' machine.id.toList).map String.ofList) machine.group := by
  obtain ⟨fields, rest, taken⟩ := Value.exists_of_record? read
  simp only [bind, StateT.bind, Option.bind_eq_some_iff] at taken
  obtain ⟨⟨id, afterId⟩, -, ⟨name, afterName⟩, -, ⟨typeName, afterType⟩, -, ⟨tags, afterTags⟩, -,
    same⟩ := taken
  obtain ⟨rfl, -⟩ := Prod.mk.inj (Option.some.inj same)
  exact groupNamed_groupSegment? _

/-! ## Listings and their pages -/

/-- Waiting for a page without a limit: what is made of the answer. -/
theorem Manager.Service.Asks.await?_eq_some {service : Service σ} {operation : String}
    {item : Value → Option α} {keep : α → Bool}
    {ask : Url → Wire σ → Sent (Wire σ) (Except ApiError (Page Url α))}
    (asks : service.Asks operation item keep ask) (url : Url) (line : Timeline (Wire σ)) :
    ∃ later, line.await? none (ask url line.world) =
        (some ((Call.pageOf ⟨operation, service.account.subscription⟩ item
          (service.client.exchange (service.request .get url) line.world).1).map (Page.sift keep)),
        later) ∧
      later.world = (service.client.exchange (service.request .get url) line.world).2 := by
  rw [asks]
  exact ⟨_, rfl, rfl⟩

namespace Manager.Service

/-- A listing of a service: how its pages are asked for and read, and where the first one is. -/
structure Listing (service : Service σ) (α : Type) where
  /-- What is attempted. -/
  operation : String
  /-- How an item is read. -/
  item : Value → Option α
  /-- Whether an item is kept. -/
  keep : α → Bool
  /-- The address of the first page. -/
  start : Except ApiError Url
  /-- The call for a page. -/
  ask : Url → Wire σ → Sent (Wire σ) (Except ApiError (Page Url α))
  /-- The call reads items so and keeps them so. -/
  asks : service.Asks operation item keep ask

/-- The listing of machines. -/
def machineListing (service : Service σ) : service.Listing Machine where
  operation := "list virtual machines"
  item := machine?
  keep _ := true
  start := service.plane.machinesFrom
  ask := service.plane.machinePage
  asks := service.asks_machines

/-- The listing of the groups that carry a tag. -/
def groupListing (service : Service σ) (tagKey : String) : service.Listing ResourceGroup where
  operation := "list resource groups"
  item := group?
  keep group := (group.tags.value? tagKey).isSome
  start := service.plane.groupsFrom
  ask := service.plane.groupPage tagKey
  asks := service.asks_groups tagKey

namespace Listing

variable {service : Service σ} {listing : service.Listing α}

/-- A listing in the words of its reports. -/
def call (listing : service.Listing α) : Call :=
  ⟨listing.operation, service.account.subscription⟩

/-- List all pages, but at most a number of them. -/
def run (listing : service.Listing α) (room : Nat) (line : Timeline (Wire σ)) :
    ListingEnd α × Timeline (Wire σ) :=
  listAll none listing.ask room listing.start line

/-- The server answers at an address with what is judged to be a page or a failure. -/
structure Answers (listing : service.Listing α) (url : Url) (wire : Wire σ)
    (reply : Except ApiError (Page Url α)) (later : Wire σ) : Prop where
  /-- This is the wire after the exchange. -/
  leaves : (service.client.exchange (service.request .get url) wire).2 = later
  /-- What became of the request is judged so. -/
  reply : PageReply listing.call listing.item
    (service.client.exchange (service.request .get url) wire).1 reply

/-- Pages that the server gives one after the other, each with its items and a link to the next
one, from an address and a wire to an address and a wire. -/
inductive Linked (listing : service.Listing α) :
    Url → Wire σ → List (Url × List α) → Url → Wire σ → Prop where
  /-- There is no page on the way. -/
  | here {url : Url} {wire : Wire σ} : Linked listing url wire [] url wire
  /-- A page leads on. -/
  | page {url following last : Url} {wire between final : Wire σ} {items : List α}
    {pages : List (Url × List α)}
    (leads : listing.Answers url wire (.ok ⟨items, some following⟩) between)
    (rest : Linked listing following between pages last final) :
    Linked listing url wire ((url, items) :: pages) last final

/-- A page that came was asked for. -/
theorem Answers.sent {url : Url} {wire later : Wire σ} {page : Page Url α}
    (answers : listing.Answers url wire (.ok page) later) :
    later.sent = wire.sent ++ [service.request .get url] := by
  obtain ⟨same, reply⟩ := answers
  cases asked : service.client.exchange (service.request .get url) wire with
  | mk result after =>
    rw [asked] at same reply
    subst same
    cases reply with
    | last status body => exact Client.exchange_sent_of_ok asked
    | next status body address => exact Client.exchange_sent_of_ok asked

/-- Only a request that fails may not have reached the server. -/
theorem Answers.reached {url : Url} {wire later : Wire σ} {reply : Except ApiError (Page Url α)}
    (answers : listing.Answers url wire reply later) :
    ∃ reached, (reached = [url] ∨ reached = [] ∧ ∃ error, reply = .error error) ∧
      later.sent = wire.sent ++ reached.map (service.request .get) := by
  cases reply with
  | ok page => exact ⟨[url], Or.inl rfl, answers.sent⟩
  | error error =>
    have sent := service.client.exchange_sent (service.request .get url) wire
    rw [answers.leaves] at sent
    rcases sent with there | away
    · exact ⟨[url], Or.inl rfl, there⟩
    · exact ⟨[], Or.inr ⟨rfl, error, rfl⟩, by rw [away, List.map_nil, List.append_nil]⟩

/-- Linked pages are asked for once each and in order. -/
theorem Linked.sent {first last : Url} {wire between : Wire σ} {pages : List (Url × List α)}
    (linked : listing.Linked first wire pages last between) :
    between.sent = wire.sent ++ (pages.map Prod.fst).map (service.request .get) := by
  induction linked with
  | here => simp
  | page leads rest hypothesis => simp [hypothesis, leads.sent]

/-- What a call for a page comes to. -/
theorem Answers.await? {url : Url} {line : Timeline (Wire σ)} {later : Wire σ}
    {reply : Except ApiError (Page Url α)} (answers : listing.Answers url line.world reply later) :
    ∃ after, line.await? none (listing.ask url line.world) =
        (some (reply.map (Page.sift listing.keep)), after) ∧ after.world = later := by
  obtain ⟨after, awaited, world⟩ := listing.asks.await?_eq_some url line
  have judged := answers.reply.pageOf_eq
  rw [call] at judged
  rw [judged] at awaited
  exact ⟨after, awaited, world.trans answers.leaves⟩

/-- A listing goes through linked pages and has found their items when it is through. -/
theorem Linked.listPages {first last : Url} {wire between : Wire σ}
    {pages : List (Url × List α)} (linked : listing.Linked first wire pages last between)
    (room : Nat) (found : List α) {line : Timeline (Wire σ)} (start : line.world = wire) :
    ∃ after, after.world = between ∧
      listPages none listing.ask (pages.length + room) first found line =
        OffHours.listPages none listing.ask room last
          (found ++ (pages.flatMap Prod.snd).filter listing.keep) after := by
  induction linked generalizing found line with
  | here => exact ⟨line, start, by simp⟩
  | @page url following last wire between final items pages leads rest hypothesis =>
    subst start
    obtain ⟨next, awaited, world⟩ := leads.await?
    obtain ⟨after, through, listed⟩ := hypothesis (found ++ items.filter listing.keep) world
    refine ⟨after, through, ?_⟩
    have count : (((url, items) :: pages).length + room) = (pages.length + room) + 1 := by
      simp only [List.length_cons]
      omega
    have kept : found ++ (((url, items) :: pages).flatMap Prod.snd).filter listing.keep =
        found ++ items.filter listing.keep ++
          (pages.flatMap Prod.snd).filter listing.keep := by simp
    rw [count, kept, ← listed, OffHours.listPages, awaited]
    rfl

/-- A listing that comes to a page that leads nowhere ends there. -/
theorem Answers.listPages {url : Url} {line : Timeline (Wire σ)} {later : Wire σ}
    {ending : Except ApiError (List α)}
    (answers : listing.Answers url line.world (ending.map (⟨·, none⟩)) later) (room : Nat)
    (found : List α) :
    ∃ ended, ended.world = later ∧ listPages none listing.ask (room + 1) url found line =
      (.of listing.keep found ending, ended) := by
  obtain ⟨ended, awaited, world⟩ := answers.await?
  refine ⟨ended, world, ?_⟩
  rw [OffHours.listPages, awaited]
  cases ending with
  | error error => rfl
  | ok items => rfl

/-- A listing whose linked pages come to one that leads nowhere ends there, with what it found on
the way. -/
theorem Linked.run {first last : Url} {line : Timeline (Wire σ)} {between later : Wire σ}
    {pages : List (Url × List α)} {ending : Except ApiError (List α)}
    (begins : listing.start = .ok first)
    (linked : listing.Linked first line.world pages last between)
    (answers : listing.Answers last between (ending.map (⟨·, none⟩)) later) {room : Nat}
    (enough : pages.length < room) :
    ∃ ended, ended.world = later ∧ listing.run room line =
      (.of listing.keep ((pages.flatMap Prod.snd).filter listing.keep) ending, ended) := by
  obtain ⟨more, rfl⟩ := Nat.exists_eq_add_of_lt enough
  obtain ⟨after, rfl, listed⟩ := linked.listPages (more + 1) [] rfl
  obtain ⟨ended, world, ends⟩ :=
    answers.listPages more ((pages.flatMap Prod.snd).filter listing.keep)
  refine ⟨ended, world, ?_⟩
  rw [Listing.run, begins, listAll, Nat.add_assoc, listed, List.nil_append]
  exact ends

/-- A listing follows the links of its pages to the last one, or to the first that fails. -/
structure FollowsLinks (listing : service.Listing α) : Prop where
  /-- A body that is an object is a page exactly when its items and its link are written so. -/
  written : ∀ {answer : Answer} {body : String} {entries : List (String × Value)},
    answer.body = some body → Json.read? body = some (.table entries) →
    ∀ {items : List α} {link : Option String},
      answer.page? listing.item = some ⟨items, link⟩ ↔
        ItemsWritten listing.item (Value.under entries "value") items ∧
          LinkWritten (Value.under entries "nextLink") link
  /-- Pages that lead to a last one are asked for once each and in order, and the items that are
  kept of all of them are the result. -/
  complete : ∀ {first last : Url} {line : Timeline (Wire σ)} {between later : Wire σ}
    {pages : List (Url × List α)} {items : List α}, listing.start = .ok first →
    listing.Linked first line.world pages last between →
    listing.Answers last between (.ok ⟨items, none⟩) later →
    ∀ room > pages.length, ∃ ended,
      listing.run room line =
        (.complete ((pages.flatMap Prod.snd ++ items).filter listing.keep), ended) ∧
      ended.world = later ∧
      later.sent = line.world.sent ++ (pages.map Prod.fst ++ [last]).map (service.request .get)
  /-- At a page that fails the listing fails with its error, and has asked for the pages up to it;
  the request for that one may not have reached the server. -/
  failed : ∀ {first last : Url} {line : Timeline (Wire σ)} {between later : Wire σ}
    {pages : List (Url × List α)} {error : ApiError}, listing.start = .ok first →
    listing.Linked first line.world pages last between →
    listing.Answers last between (.error error) later →
    ∀ room > pages.length, ∃ ended, listing.run room line = (.failed error, ended) ∧
      ended.world = later ∧ ∃ reached, (reached = [] ∨ reached = [last]) ∧
        later.sent = line.world.sent ++ (pages.map Prod.fst ++ reached).map (service.request .get)

/-- Every listing follows the links of its pages. -/
theorem followsLinks (listing : service.Listing α) : listing.FollowsLinks where
  written := by
    intro answer body entries given read items link
    have page : answer.page? listing.item = Manager.page? listing.item (.table entries) := by
      simp [Answer.page?, given, read]
    rw [page]
    exact page?_table_iff
  complete := by
    intro first last line between later pages items begins linked answers room enough
    let whole : Except ApiError (List α) := .ok items
    have ends : listing.Answers last between (whole.map (⟨·, none⟩)) later := answers
    obtain ⟨ended, world, ran⟩ := linked.run begins ends enough
    refine ⟨ended, ?_, world, ?_⟩
    · rw [ran, ListingEnd.of, List.filter_append]
    · rw [answers.sent, linked.sent, List.map_append, List.append_assoc]
      rfl
  failed := by
    intro first last line between later pages error begins linked answers room enough
    let fault : Except ApiError (List α) := .error error
    have ends : listing.Answers last between (fault.map (⟨·, none⟩)) later := answers
    obtain ⟨ended, world, ran⟩ := linked.run begins ends enough
    obtain ⟨reached, which, sent⟩ := answers.reached
    refine ⟨ended, ran, world, reached, which.symm.imp_left And.left, ?_⟩
    rw [sent, linked.sent, List.map_append, List.append_assoc]

end Listing

/-- The two listings follow the links of their pages, and what they keep. -/
structure ListsByLinks (service : Service σ) (tagKey : String) : Prop where
  /-- The listing of machines follows links. -/
  machines : service.machineListing.FollowsLinks
  /-- It keeps every machine. -/
  everyMachine : ∀ machine, service.machineListing.keep machine = true
  /-- The group of a machine is the one that its id names. -/
  machineGroup : ∀ value machine, service.machineListing.item value = some machine →
    GroupNamed ((Text.pieces '/' machine.id.toList).map String.ofList) machine.group
  /-- The listing of groups follows links. -/
  groups : (service.groupListing tagKey).FollowsLinks
  /-- It keeps the groups that carry the tag, in any case. -/
  taggedGroups : ∀ group, (service.groupListing tagKey).keep group = true ↔
    ∃ tag ∈ group.tags, Text.sameName tag.1 tagKey = true

end Manager.Service

/-- The listings of machines and of tagged groups ask for linked pages once each and in order, and
give the items of all of them in order, or the error of the first page that fails. -/
theorem listings_follow_links (service : Service σ) (tagKey : String) :
    service.ListsByLinks tagKey where
  machines := service.machineListing.followsLinks
  everyMachine := fun _ => rfl
  machineGroup := fun _ _ read => machine?_group read
  groups := (service.groupListing tagKey).followsLinks
  taggedGroups := by
    intro group
    have kept : (service.groupListing tagKey).keep group =
        (group.tags.find? fun tag => Text.sameName tag.1 tagKey).isSome := Option.isSome_map
    rw [kept, List.find?_isSome]

/-! ## A shelf -/

/-- A server that answers by the address alone: its first page of machines is that of the busy
server, some text stands where that one leads, and there is nothing else. -/
def shelfAnswer (more : String) (url : Url) : Answer :=
  if url = busyFirst then busyAnswer 0
  else if url = busySecond then ⟨200, some more⟩
  else ⟨404, none⟩

/-- The resource manager on such a server. -/
def shelfService (more : String) : Service Unit where
  client := ⟨fun request state => (.answer 30 (shelfAnswer more request.url), state), 1000⟩
  account := busyService.account
  token := busyService.token

/-- The shelf answers every request that can be made. -/
theorem shelf_exchange (more : String) {url : Url}
    (sound : ((shelfService more).request .get url).fault? = none) (wire : Wire Unit) :
    (shelfService more).client.exchange ((shelfService more).request .get url) wire =
      (.ok (shelfAnswer more url),
        ⟨wire.state, wire.sent ++ [(shelfService more).request .get url]⟩) := by
  simp only [Client.exchange, Client.send, sound]
  rfl

/-- The first page of the shelf leads to the second. -/
theorem shelf_firstAnswers (more : String) (wire : Wire Unit) :
    (shelfService more).machineListing.Answers busyFirst wire
      (.ok ⟨[⟨"/a", "a", "", "", []⟩], some busySecond⟩)
      ⟨wire.state, wire.sent ++ [(shelfService more).request .get busyFirst]⟩ := by
  have sound : (busyService.request .get busyFirst).fault? = none := by decide +kernel
  have asked := shelf_exchange more sound wire
  have first : shelfAnswer more busyFirst = busyAnswer 0 := if_pos rfl
  rw [first] at asked
  refine ⟨by rw [asked], ?_⟩
  rw [asked]
  exact busy_firstReply

/-- A listing of the shelf begins with nothing sent. -/
def shelfLine : Timeline (Wire Unit) := { world := ⟨(), []⟩ }

/-- The text of an object without fields. -/
def bareObject : String := "\x7b\x7d"

/-- The second page of the shelf is the text that stands there. -/
theorem shelf_secondAnswers {more : String} {page : Except ApiError (Page Url Machine)}
    (reply : PageReply ⟨"list virtual machines", "office"⟩ machine? (.ok ⟨200, some more⟩) page)
    (wire : Wire Unit) : (shelfService more).machineListing.Answers busySecond wire page
      ⟨wire.state, wire.sent ++ [(shelfService more).request .get busySecond]⟩ := by
  have sound : (busyService.request .get busySecond).fault? = none := by decide +kernel
  have other : busySecond ≠ busyFirst := by decide
  have asked := shelf_exchange more sound wire
  have second : shelfAnswer more busySecond = ⟨200, some more⟩ := by
    rw [shelfAnswer, if_neg other, if_pos rfl]
  rw [second] at asked
  refine ⟨congrArg Prod.snd asked, ?_⟩
  rw [asked]
  exact reply

/-- An object without fields is a page without items, and the last one. -/
theorem bareObject_reply : PageReply ⟨"list virtual machines", "office"⟩ machine?
    (.ok ⟨200, some bareObject⟩) (.ok ⟨[], none⟩) := by
  have written : Json.read? bareObject = some (.table []) := by cbv
  have page : Answer.page? machine? ⟨200, some bareObject⟩ = some ⟨[], none⟩ :=
    (busyService.machineListing.followsLinks.written rfl written).mpr ⟨.missing, .missing⟩
  exact .last rfl page

/-- The two pages of a shelf, of which the second has no items, are listed with two requests. -/
theorem listings_follow_links_shelf : ∃ ended,
    (shelfService bareObject).machineListing.run 2 shelfLine =
      (.complete [⟨"/a", "a", "", "", []⟩], ended) ∧
    ended.world.sent = [busyFirst, busySecond].map ((shelfService bareObject).request .get) := by
  let between : Wire Unit := ⟨(), [(shelfService bareObject).request .get busyFirst]⟩
  have answers := shelf_secondAnswers bareObject_reply between
  have linked : (shelfService bareObject).machineListing.Linked busyFirst shelfLine.world
      [(busyFirst, [⟨"/a", "a", "", "", []⟩])] busySecond between :=
    .page (shelf_firstAnswers bareObject shelfLine.world) .here
  have follows := (listings_follow_links (shelfService bareObject) "schedule").machines
  obtain ⟨ended, ran, world, sent⟩ :=
    follows.complete busy_machinesFrom linked answers 2 (by decide)
  exact ⟨ended, ran, (congrArg Wire.sent world).trans sent⟩

end OffHours
