import OffHours.Proofs.Fleet.Paging
import OffHours.Proofs.Fleet.Reporting

/-!
# Inventories that cannot be listed

The machines are listed before the groups, and the fleet is begun when both are there. A run whose
listing fails at some page, before its limit, ends with the error of that page: the pages up to it
are all that was asked for, no power call is made whatever machines were found before, nothing is
counted, and one message goes out (`inventory_all_or_nothing`). There is no other way to such an
error: `inventoryFails_of_conduct`. How many pages a listing may have is a setting, and any number
that leaves room for the pages will do.
-/

namespace OffHours

open Http Manager

variable {σ : Type}

/-- The inventory cannot be listed: the pages of machines and of groups that are asked for, the
error, the milliseconds until it is known, and the wire by then. -/
inductive Manager.Service.InventoryFails (service : Service σ) (wire : Wire σ) :
    List Url → List Url → ApiError → Nat → Wire σ → Prop where
  /-- There is no address to list the machines from. -/
  | noMachines {error : ApiError} (first : service.account.machinesFrom = .error error) :
    InventoryFails service wire [] [] error 0 wire
  /-- A page of machines fails, and no group is asked for. -/
  | machines {url : Url} {urls : List Url} {error : ApiError} {time : Nat} {final : Wire σ}
    (first : service.account.machinesFrom = .ok url)
    (lists : service.Lists "list virtual machines" machine? url wire urls (.error error) time
      final) :
    InventoryFails service wire urls [] error time final
  /-- There is no address to list the groups from. -/
  | noGroups {url : Url} {urls : List Url} {found : List Machine} {error : ApiError} {time : Nat}
    {final : Wire σ} (first : service.account.machinesFrom = .ok url)
    (lists : service.Lists "list virtual machines" machine? url wire urls (.ok found) time final)
    (second : service.account.groupsFrom = .error error) :
    InventoryFails service wire urls [] error time final
  /-- All machines are listed, and a page of groups fails. -/
  | groups {url groupUrl : Url} {urls groupUrls : List Url} {found : List Machine}
    {error : ApiError} {time more : Nat} {between final : Wire σ}
    (first : service.account.machinesFrom = .ok url)
    (lists : service.Lists "list virtual machines" machine? url wire urls (.ok found) time between)
    (second : service.account.groupsFrom = .ok groupUrl)
    (groups : service.Lists "list resource groups" group? groupUrl between groupUrls (.error error)
      more final) :
    InventoryFails service wire urls groupUrls error (time + more) final

section Fails

variable {service : Service σ} {wire final : Wire σ} {machinePages groupPages : List Url}
  {error : ApiError} {time : Nat}

/-- The requests that reach the server are those for the pages in order; only the last may not. -/
theorem Manager.Service.InventoryFails.requests
    (fails : service.InventoryFails wire machinePages groupPages error time final) :
    ∃ reached : List Url, final.sent = wire.sent ++ reached.map (service.request .get) ∧
      (reached = machinePages ++ groupPages ∨ reached = (machinePages ++ groupPages).dropLast) := by
  cases fails with
  | noMachines first => exact ⟨[], by simp, Or.inl rfl⟩
  | machines first lists =>
    obtain ⟨reached, sent, which⟩ := lists.requests
    refine ⟨reached, sent, ?_⟩
    rw [List.append_nil]
    exact which.imp_right And.left
  | noGroups first lists second =>
    obtain ⟨reached, sent, all | ⟨-, other, failed⟩⟩ := lists.requests
    · exact ⟨reached, sent, Or.inl (by rw [all, List.append_nil])⟩
    · cases failed
  | groups first lists second groups =>
    obtain ⟨reached, sent, all | ⟨-, other, failed⟩⟩ := lists.requests
    · obtain ⟨more, later, which⟩ := groups.requests
      subst all
      refine ⟨reached ++ more, ?_, ?_⟩
      · rw [later, sent, List.map_append, List.append_assoc]
      · rcases which with rfl | ⟨rfl, -⟩
        · exact Or.inl rfl
        · have some : groupPages ≠ [] := by
            rintro rfl
            cases groups
          exact Or.inr (List.dropLast_append_of_ne_nil some).symm
    · cases failed

/-- A run lists its inventory up to the failure. -/
theorem Run.list_of_inventoryFails
    (fails : service.InventoryFails wire machinePages groupPages error time final)
    {settings : RunSettings} (request : RunRequest)
    (early : time ≤ 1000 * settings.limitSeconds) (room : machinePages.length ≤ settings.pages)
    (groupRoom : groupPages.length ≤ settings.pages) :
    ∃ log, Run.list service.plane settings request wire =
      (.error (.inventory error), ⟨final, time, log⟩) := by
  let line : Timeline (Wire σ) := { world := wire, log := opening request }
  have clock : line.clock = 0 := rfl
  rw [Run.list, service.plane_machinesFrom, service.plane_groupsFrom]
  cases fails with
  | noMachines first =>
    rw [first]
    exact ⟨opening request, rfl⟩
  | machines first lists =>
    have timely : line.clock + time ≤ 1000 * settings.limitSeconds := by omega
    obtain ⟨log, listed⟩ := listAll_of_lists service.asks_machines timely lists room
    rw [first, listed, clock, Nat.zero_add]
    exact ⟨log, rfl⟩
  | noGroups first lists second =>
    have timely : line.clock + time ≤ 1000 * settings.limitSeconds := by omega
    obtain ⟨log, listed⟩ := listAll_of_lists service.asks_machines timely lists room
    rw [first, listed, clock, Nat.zero_add, second]
    exact ⟨log, rfl⟩
  | @groups url groupUrl urls groupUrls found error machineTime groupTime between final first lists
      second groups =>
    have timely : line.clock + machineTime ≤ 1000 * settings.limitSeconds := by omega
    obtain ⟨log, listed⟩ := listAll_of_lists service.asks_machines timely lists room
    let listedBy : Timeline (Wire σ) := ⟨between, machineTime, log⟩
    have groupsTimely : listedBy.clock + groupTime ≤ 1000 * settings.limitSeconds := early
    obtain ⟨log, failed⟩ :=
      listAll_of_lists (service.asks_groups settings.tagKey) groupsTimely groups groupRoom
    rw [first, listed, clock, Nat.zero_add, second]
    simp only [ListingEnd.of]
    rw [failed]
    exact ⟨log, rfl⟩

/-- Listings that fail in the same way fail with one error and leave one timeline. -/
theorem eq_of_inventoryError {failure error : ApiError} {between line : Timeline (Wire σ)}
    (same : ((.error (.inventory failure), between) :
      Except RunError Inventory × Timeline (Wire σ)) = (.error (.inventory error), line)) :
    failure = error ∧ between = line := by
  obtain ⟨errors, lines⟩ := Prod.mk.inj same
  exact ⟨RunError.inventory.inj (Except.error.inj errors), lines⟩

/-- A listing that ends with an inventory error has met such a failure by the limit of the run. -/
theorem Run.inventoryFails_of_list {settings : RunSettings} {request : RunRequest}
    {line : Timeline (Wire σ)}
    (listing : list service.plane settings request wire = (.error (.inventory error), line)) :
    ∃ machinePages groupPages time,
      service.InventoryFails wire machinePages groupPages error time line.world ∧
      time ≤ 1000 * settings.limitSeconds ∧ machinePages.length ≤ settings.pages ∧
      groupPages.length ≤ settings.pages := by
  have start : ∀ time, 0 + time = time := Nat.zero_add
  rw [Run.list, service.plane_machinesFrom, service.plane_groupsFrom] at listing
  cases first : service.account.machinesFrom with
  | error failure =>
    rw [first] at listing
    obtain ⟨rfl, rfl⟩ := eq_of_inventoryError listing
    exact ⟨[], [], 0, .noMachines first, Nat.zero_le _, Nat.zero_le _, Nat.zero_le _⟩
  | ok url =>
    rw [first] at listing
    cases machines : listAll (some (1000 * settings.limitSeconds)) service.plane.machinePage
        settings.pages (.ok url) { world := wire, log := Run.opening request } with
    | mk ending between =>
      rw [machines] at listing
      cases ending with
      | cut => cases listing
      | failed failure =>
        obtain ⟨rfl, rfl⟩ := eq_of_inventoryError listing
        obtain ⟨urls, time, lists, clock, timely, room⟩ :=
          lists_of_failed service.asks_machines machines
        rw [clock, start] at timely
        exact ⟨urls, [], time, .machines first lists, timely, room, Nat.zero_le _⟩
      | complete found =>
        obtain ⟨urls, all, time, lists, -, clock, timely, room⟩ :=
          lists_of_complete service.asks_machines machines
        rw [clock, start] at timely
        simp only at listing
        cases second : service.account.groupsFrom with
        | error failure =>
          rw [second] at listing
          obtain ⟨rfl, rfl⟩ := eq_of_inventoryError listing
          exact ⟨urls, [], time, .noGroups first lists second, timely, room, Nat.zero_le _⟩
        | ok groupUrl =>
          rw [second] at listing
          cases groups : listAll (some (1000 * settings.limitSeconds))
              (service.plane.groupPage settings.tagKey) settings.pages (.ok groupUrl) between with
          | mk ending later =>
            rw [groups] at listing
            cases ending with
            | cut => cases listing
            | complete items => cases listing
            | failed failure =>
              obtain ⟨rfl, rfl⟩ := eq_of_inventoryError listing
              obtain ⟨groupUrls, more, failing, later, timely, groupRoom⟩ :=
                lists_of_failed (service.asks_groups settings.tagKey) groups
              rw [later, clock, start] at timely
              exact ⟨urls, groupUrls, time + more, .groups first lists second failing, timely, room,
                groupRoom⟩

/-- A run that ends with an inventory error has met such a failure by its limit. -/
theorem inventoryFails_of_conduct {settings : RunSettings} {request : RunRequest}
    (ended : (Run.conduct service.plane settings request wire).result =
      .error (.inventory error)) :
    ∃ machinePages groupPages time, service.InventoryFails wire machinePages groupPages error time
        (Run.conduct service.plane settings request wire).line.world ∧
      time ≤ 1000 * settings.limitSeconds ∧ machinePages.length ≤ settings.pages ∧
      groupPages.length ≤ settings.pages := by
  cases listing : Run.list service.plane settings request wire with
  | mk inventory line =>
    cases inventory with
    | ok inventory =>
      rw [Run.conduct_of_list listing, Run.sweepFleet] at ended
      dsimp only at ended
      split at ended
      · cases ended
      · cases ended
    | error failure =>
      rw [Run.conduct_of_unlisted listing] at ended ⊢
      obtain rfl : failure = .inventory error := Except.error.inj ended
      exact Run.inventoryFails_of_list listing

end Fails

/-! ## Runs without an inventory -/

/-- A run that ends with an inventory error, after some pages were asked for. -/
structure Run.Unlisted (service : Service σ) (request : RunRequest) (wire : Wire σ)
    (asked : List Url) (error : ApiError) (final : Wire σ) (run : Run (Wire σ)) : Prop where
  /-- It fails with the error of the page. -/
  result : run.result = .error (.inventory error)
  /-- No power state is read, and no change of power is asked for. -/
  calls : run.calls = []
  /-- The requests that reach the server are those for the pages; only the last one may not. -/
  requests : ∃ reached : List Url,
    run.line.world.sent = wire.sent ++ reached.map (service.request .get) ∧
      (reached = asked ∨ reached = asked.dropLast)
  /-- The server is left as the failed page left it. -/
  world : run.line.world = final
  /-- Every counter is zero. -/
  counters : run.stats = ⟨0, 0, 0, 0, 0⟩
  /-- One message is handed to a notifier. -/
  message : ∀ {ν : Type} (notifier : Notifier ν) (elapsed : String) (channel : ν),
    run.handed notifier request elapsed channel =
      ["Auto-shutdown run " ++ request.id ++ " failed: " ++
        ("Inventory fetch failed: " ++ error.message)]

/-- A run whose listing of machines or groups fails at some page, before its limit and with room for
the pages, ends with the error of that page, and has done nothing but ask for the pages. -/
theorem inventory_all_or_nothing {service : Service σ} {settings : RunSettings}
    (request : RunRequest) {wire final : Wire σ} {machinePages groupPages : List Url}
    {error : ApiError} {time : Nat}
    (fails : service.InventoryFails wire machinePages groupPages error time final)
    (early : time ≤ 1000 * settings.limitSeconds) (room : machinePages.length ≤ settings.pages)
    (groupRoom : groupPages.length ≤ settings.pages) :
    Run.Unlisted service request wire (machinePages ++ groupPages) error final
      (Run.conduct service.plane settings request wire) := by
  obtain ⟨log, unlisted⟩ := Run.list_of_inventoryFails fails request early room groupRoom
  rw [Run.conduct_of_unlisted unlisted]
  exact {
    result := rfl
    calls := rfl
    requests := fails.requests
    world := rfl
    counters := rfl
    message := fun notifier elapsed channel => by
      have text : (Run.aborted (.inventory error) ⟨final, time, log⟩).message? request.id =
          some (Run.failureText request.id (.inventory error) ++ "") := rfl
      rw [Run.handed_eq, text, String.append_empty]
      rfl }

/-- The first answer of the busy server is a page with a machine that names another page. -/
def busyAnswer (count : Nat) : Answer :=
  if count = 0 then
    ⟨200, some ("\x7b\"value\":[\x7b\"id\":\"/a\",\"name\":\"a\",\"type\":\"\"\x7d]," ++
      "\"nextLink\":\"https://management/more\"\x7d")⟩
  else ⟨503, some "busy\n"⟩

/-- The resource manager on a server that is busy after its first answer. -/
def busyService : Service Nat where
  client := ⟨fun _ count => (.answer 30 (busyAnswer count), count + 1), 1000⟩
  account := ⟨"https://management", "office"⟩
  token := ⟨"key"⟩

/-- An address of the busy server. -/
def busyAddress (path : List String) (query : Option String) : Url :=
  { scheme := "https", host := some (.domain "management"), path := .segments path, query := query }

/-- The first page of machines of the busy server. -/
def busyFirst : Url :=
  busyAddress ["subscriptions", "office", "resources"] (some (Url.form
    [("$filter", Account.machineFilter), (Account.versionKey, Account.listingVersion)]))

/-- The page that the first one names. -/
def busySecond : Url := busyAddress ["more"] none

/-- The busy server answers every request that can be made after 30 milliseconds. -/
theorem busy_exchange {url : Url} (sound : (busyService.request .get url).fault? = none)
    (wire : Wire Nat) :
    busyService.client.exchange (busyService.request .get url) wire =
        (.ok (busyAnswer wire.state),
          ⟨wire.state + 1, wire.sent ++ [busyService.request .get url]⟩) ∧
      busyService.client.wait (busyService.request .get url) wire = 30 := by
  constructor
  · simp only [Client.exchange, Client.send, sound]
    rfl
  · simp only [Client.wait, Client.send, sound]
    rfl

/-- What the listing of machines makes of the second page. -/
def busyError : ApiError :=
  ⟨.transient, "list virtual machines", "office", "status 503 Service Unavailable: busy"⟩

/-- The listing of the busy server begins with its first page. -/
theorem busy_machinesFrom : busyService.account.machinesFrom = .ok busyFirst := by
  have known : (Url.parse (busyService.account.endpoint ++ "/subscriptions/" ++
      busyService.account.subscription ++ "/" ++ "resources")).toOption =
        some (busyAddress ["subscriptions", "office", "resources"] none) := by decide +kernel
  rw [Account.machinesFrom, Account.inSubscription, Account.address]
  split
  · rename_i url parsed
    rw [parsed] at known
    obtain rfl := Option.some.inj known
    rfl
  · rename_i fault parsed
    rw [parsed] at known
    cases known

/-- The link of the first page denotes the second one. -/
theorem parse_busyLink : Url.parse "https://management/more" = .ok busySecond := by
  have link : (Url.parse "https://management/more").toOption = some busySecond := by decide +kernel
  cases parsed : Url.parse "https://management/more" with
  | error fault => simp [parsed, Except.toOption] at link
  | ok url => simpa [parsed, Except.toOption] using link

/-- The first page of the busy server names the second one. -/
theorem busy_firstReply : PageReply ⟨"list virtual machines", "office"⟩ machine?
    (.ok (busyAnswer 0)) (.ok ⟨[⟨"/a", "a", "", "", []⟩], some busySecond⟩) := by
  have written : ((busyAnswer 0).page? machine?).map (fun page => (page.items, page.next)) =
      some ([⟨"/a", "a", "", "", []⟩], some "https://management/more") := by decide +kernel
  have body : (busyAnswer 0).page? machine? =
      some ⟨[⟨"/a", "a", "", "", []⟩], some "https://management/more"⟩ := by
    obtain ⟨⟨items, next⟩, found, same⟩ := Option.map_eq_some_iff.mp written
    obtain ⟨rfl, rfl⟩ := Prod.mk.inj same
    exact found
  have accepted : isSuccess (busyAnswer 0).status = true := rfl
  exact .next accepted body parse_busyLink

/-- The second answer of the busy server is a refusal. -/
theorem busy_secondReply : PageReply ⟨"list virtual machines", "office"⟩ machine?
    (.ok (busyAnswer 1)) (.error busyError) := by
  have reason : "status " ++ statusText (busyAnswer 1).status ++ ": " ++
      Text.trim ((busyAnswer 1).body.getD "") = "status 503 Service Unavailable: busy" := by
    decide +kernel
  have passing : isPassing (busyAnswer 1).status = true := rfl
  have refused : isSuccess (busyAnswer 1).status = false := rfl
  have reply : PageReply ⟨"list virtual machines", "office"⟩ machine? (.ok (busyAnswer 1)) _ :=
    .refused refused
  rw [reason, passing] at reply
  exact reply

/-- The busy server fails the listing of machines at its second page. -/
theorem busy_fails : busyService.InventoryFails ⟨0, []⟩ [busyFirst, busySecond] [] busyError 60
    ⟨2, [busyFirst, busySecond].map (busyService.request .get)⟩ := by
  have firstSound : (busyService.request .get busyFirst).fault? = none := by decide +kernel
  have secondSound : (busyService.request .get busySecond).fault? = none := by decide +kernel
  obtain ⟨askedFirst, waitFirst⟩ := busy_exchange firstSound ⟨0, []⟩
  obtain ⟨askedSecond, waitSecond⟩ :=
    busy_exchange secondSound ⟨1, [busyService.request .get busyFirst]⟩
  have rest := Service.Lists.fault askedSecond busy_secondReply
  have lists := Service.Lists.next askedFirst busy_firstReply rest
  rw [waitFirst, waitSecond] at lists
  exact .machines busy_machinesFrom lists

/-- A run against the busy server ends at the second page, whatever it found on the first. -/
theorem inventory_all_or_nothing_busy :
    busyService.InventoryFails ⟨0, []⟩ [busyFirst, busySecond] [] busyError 60
        ⟨2, [busyFirst, busySecond].map (busyService.request .get)⟩ ∧
      60 ≤ 1000 * mondaySettings.limitSeconds ∧ 2 ≤ mondaySettings.pages ∧
      Run.Unlisted busyService mondayRequest ⟨0, []⟩ [busyFirst, busySecond] busyError
        ⟨2, [busyFirst, busySecond].map (busyService.request .get)⟩
        (Run.conduct busyService.plane mondaySettings mondayRequest ⟨0, []⟩) := by
  have early : 60 ≤ 1000 * mondaySettings.limitSeconds := by decide
  have room : [busyFirst, busySecond].length ≤ mondaySettings.pages := by decide
  exact ⟨busy_fails, early, room,
    inventory_all_or_nothing mondayRequest busy_fails early room (Nat.zero_le _)⟩

end OffHours
