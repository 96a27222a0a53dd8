import OffHours.Fleet.Run

/-!
# What a listing keeps

A listing waits for one page after the other. What every wait keeps holds where the listing ends,
whether it ends with all items, with a page that failed or at the limit: `Run.list_keep`. A wait
never goes beyond the limit, so the clock stands within it when the inventory is listed.
-/

namespace OffHours

variable {σ κ α : Type}

/-- What waiting for a page keeps, a listing keeps. -/
theorem listPages_keep {good : Timeline σ → Prop} {limit : Option Nat}
    {ask : κ → σ → Sent σ (Except ApiError (Page κ α))}
    (kept : ∀ cursor line, good line → good (line.await? limit (ask cursor line.world)).2)
    (pages : Nat) (cursor : κ) (found : List α) {line : Timeline σ} (holds : good line) :
    good (listPages limit ask pages cursor found line).2 := by
  induction pages generalizing cursor found line with
  | zero => exact holds
  | succ pages hypothesis =>
    have awaited := kept cursor line holds
    rw [listPages]
    split
    · rename_i later answer
      rw [answer] at awaited
      exact awaited
    · rename_i error later answer
      rw [answer] at awaited
      exact awaited
    · rename_i page later answer
      rw [answer] at awaited
      cases page.next with
      | none => exact awaited
      | some next => exact hypothesis next (found ++ page.items) awaited

/-- What waiting for a page keeps, a listing from its first page on keeps. -/
theorem listAll_keep {good : Timeline σ → Prop} {limit : Option Nat}
    {ask : κ → σ → Sent σ (Except ApiError (Page κ α))}
    (kept : ∀ cursor line, good line → good (line.await? limit (ask cursor line.world)).2)
    (pages : Nat) (first : Except ApiError κ) {line : Timeline σ} (holds : good line) :
    good (listAll limit ask pages first line).2 := by
  cases first with
  | error error => exact holds
  | ok cursor => exact listPages_keep kept pages cursor [] holds

/-- Waiting for a call ends by the limit. -/
theorem Timeline.await?_clock_le {limit : Nat} (sent : Sent σ α) {line : Timeline σ} :
    (line.await? (some limit) sent).2.clock ≤ limit := by
  simp only [Timeline.await?]
  split
  · exact Nat.le_refl limit
  · rename_i early
    exact Nat.le_of_not_lt early

namespace Run

variable {plane : ControlPlane σ κ}

/-- What waiting for a page of machines or groups keeps, listing the inventory keeps. -/
theorem list_keep {good : Timeline σ → Prop} (settings : RunSettings) (request : RunRequest)
    (world : σ)
    (machines : ∀ cursor line, good line → good (line.await?
      (some (1000 * settings.limitSeconds)) (plane.machinePage cursor line.world)).2)
    (groups : ∀ cursor line, good line → good (line.await?
      (some (1000 * settings.limitSeconds)) (plane.groupPage settings.tagKey cursor line.world)).2)
    (holds : good { world := world, log := opening request }) :
    good (list plane settings request world).2 := by
  have listed := listAll_keep machines settings.pages plane.machinesFrom holds
  rw [list]
  split
  · rename_i error line answer
    rw [answer] at listed
    exact listed
  · rename_i line answer
    rw [answer] at listed
    exact listed
  · rename_i found line answer
    rw [answer] at listed
    have grouped := listAll_keep groups settings.pages plane.groupsFrom listed
    split
    · rename_i error later answer
      rw [answer] at grouped
      exact grouped
    · rename_i later answer
      rw [answer] at grouped
      exact grouped
    · rename_i items later answer
      rw [answer] at grouped
      exact grouped

/-- Listing the inventory ends by the limit of the run. -/
theorem list_clock_le (plane : ControlPlane σ κ) (settings : RunSettings) (request : RunRequest)
    (world : σ) :
    (list plane settings request world).2.clock ≤ 1000 * settings.limitSeconds := by
  let early (line : Timeline σ) : Prop := line.clock ≤ 1000 * settings.limitSeconds
  have begun : early { world := world, log := opening request } := Nat.zero_le _
  exact list_keep settings request world
    (fun cursor line _ => line.await?_clock_le (plane.machinePage cursor line.world))
    (fun cursor line _ => line.await?_clock_le (plane.groupPage settings.tagKey cursor line.world))
    begun

end Run

end OffHours
