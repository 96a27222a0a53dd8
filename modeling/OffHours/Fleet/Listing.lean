import OffHours.Fleet.ControlPlane

/-!
# Listing page by page

A listing asks for its first page and then for the page that each page names as the next, and
collects the items in order. It ends with a page that names none, with the first failed page,
or when the run is cut at its limit.
-/

namespace OffHours

/-- The outside, the clock and the reports while a run goes on. -/
structure Timeline (σ : Type) where
  /-- The outside. -/
  world : σ
  /-- Milliseconds from the start of the run. -/
  clock : Nat := 0
  /-- What was reported, oldest first. -/
  log : Log := []

/-- How a listing ends. -/
inductive ListingEnd (α : Type) where
  /-- With all items. -/
  | complete (items : List α)
  /-- With a page that failed. -/
  | failed (error : ApiError)
  /-- At the limit of the run, before the last page was answered. -/
  | cut

variable {σ κ α : Type}

/-- Make a call and wait for its answer, unless that comes after the limit. Without a limit
the answer is always awaited. -/
def Timeline.await? (limit : Option Nat) (sent : Sent σ α) (line : Timeline σ) :
    Option α × Timeline σ :=
  let due := line.clock + sent.duration
  let log := line.log ++ sent.log
  match limit with
  | some limit =>
    if limit < due then (none, ⟨sent.world, limit, log⟩)
    else
      let (answer, world) := sent.settle sent.world
      (some answer, ⟨world, due, log⟩)
  | none =>
    let (answer, world) := sent.settle sent.world
    (some answer, ⟨world, due, log⟩)

/-- List from a page on, asking for at most a number of pages; a listing with more pages is
cut there. -/
def listPages (limit : Option Nat) (ask : κ → σ → Sent σ (Except ApiError (Page κ α))) :
    Nat → κ → List α → Timeline σ → ListingEnd α × Timeline σ
  | 0, _, _, line => (.cut, line)
  | pages + 1, cursor, found, line =>
    match line.await? limit (ask cursor line.world) with
    | (none, line) => (.cut, line)
    | (some (.error error), line) => (.failed error, line)
    | (some (.ok page), line) =>
      match page.next with
      | none => (.complete (found ++ page.items), line)
      | some next => listPages limit ask pages next (found ++ page.items) line

/-- List from the first page on, when it is known. -/
def listAll (limit : Option Nat) (ask : κ → σ → Sent σ (Except ApiError (Page κ α)))
    (pages : Nat) (first : Except ApiError κ) (line : Timeline σ) : ListingEnd α × Timeline σ :=
  match first with
  | .error error => (.failed error, line)
  | .ok cursor => listPages limit ask pages cursor [] line

end OffHours
