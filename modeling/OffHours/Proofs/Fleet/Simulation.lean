import OffHours.Proofs.Fleet.Forecast
import OffHours.Proofs.Fleet.PowerCalls

/-!
# Simulations predict runs

A simulated run and a live one at the same instant list the same inventory and begin every
machine alike, so they have one forecast. On a control plane on which no change of power fails
both come to it: `simulation_predicts`. The live run may find other power states than the
simulated one, at entries of a machine that it changed before.
-/

namespace OffHours

variable {σ κ α : Type}

/-! ## Listings do not look at reports -/

/-- The timeline with earlier reports put before its own. -/
def Timeline.after (earlier : Log) (line : Timeline σ) : Timeline σ :=
  { line with log := earlier ++ line.log }

/-- Waiting for a call does not look at earlier reports. -/
theorem Timeline.await?_after (earlier : Log) (limit : Option Nat) (sent : Sent σ α)
    (line : Timeline σ) :
    (line.after earlier).await? limit sent =
      ((line.await? limit sent).1, (line.await? limit sent).2.after earlier) := by
  cases limit with
  | none => simp only [Timeline.await?, Timeline.after, List.append_assoc]
  | some limit =>
    by_cases late : limit < line.clock + sent.duration
    · simp only [Timeline.await?, Timeline.after, if_pos late, List.append_assoc]
    · simp only [Timeline.await?, Timeline.after, if_neg late, List.append_assoc]

/-- A listing does not look at earlier reports. -/
theorem listPages_after (earlier : Log) (limit : Option Nat)
    (ask : κ → σ → Sent σ (Except ApiError (Page κ α))) (pages : Nat) (cursor : κ)
    (found : List α) (line : Timeline σ) :
    listPages limit ask pages cursor found (line.after earlier) =
      ((listPages limit ask pages cursor found line).1,
        (listPages limit ask pages cursor found line).2.after earlier) := by
  induction pages generalizing cursor found line with
  | zero => rfl
  | succ pages hypothesis =>
    have awaited := Timeline.await?_after earlier limit (ask cursor line.world) line
    have same : (line.after earlier).world = line.world := rfl
    rw [listPages, listPages, same, awaited]
    cases line.await? limit (ask cursor line.world) with
    | mk answer later =>
      cases answer with
      | none => rfl
      | some answer =>
        cases answer with
        | error error => rfl
        | ok page =>
          cases next : page.next with
          | none => simp only [next]
          | some following => simp only [next, hypothesis]

/-- A listing from its first page on does not look at earlier reports. -/
theorem listAll_after (earlier : Log) (limit : Option Nat)
    (ask : κ → σ → Sent σ (Except ApiError (Page κ α))) (pages : Nat)
    (first : Except ApiError κ) (line : Timeline σ) :
    listAll limit ask pages first (line.after earlier) =
      ((listAll limit ask pages first line).1,
        (listAll limit ask pages first line).2.after earlier) := by
  cases first with
  | error error => rfl
  | ok cursor => exact listPages_after earlier limit ask pages cursor [] line

namespace Run

/-- Runs list the same, whatever is asked of them; only the first report differs. -/
theorem list_after (plane : ControlPlane σ κ) (settings : RunSettings) (world : σ) :
    ∃ (listing : Except RunError Inventory) (line : Timeline σ), ∀ request,
      list plane settings request world = (listing, line.after (opening request)) := by
  have begun : ∀ request : RunRequest, ({ world := world, log := opening request } : Timeline σ) =
      ({ world := world } : Timeline σ).after (opening request) := by
    intro request
    rw [Timeline.after, List.append_nil]
  simp only [list, begun, listAll_after]
  cases listAll (some (1000 * settings.limitSeconds)) plane.machinePage settings.pages
      plane.machinesFrom { world := world } with
  | mk answer line =>
    cases answer with
    | failed error => exact ⟨_, line, fun _ => rfl⟩
    | cut => exact ⟨_, line, fun _ => rfl⟩
    | complete machines =>
      simp only [listAll_after]
      cases listAll (some (1000 * settings.limitSeconds)) (plane.groupPage settings.tagKey)
          settings.pages plane.groupsFrom line with
      | mk answer line =>
        cases answer with
        | failed error => exact ⟨_, line, fun _ => rfl⟩
        | cut => exact ⟨_, line, fun _ => rfl⟩
        | complete groups => exact ⟨_, line, fun _ => rfl⟩

/-- What one run lists, another lists from the same outside. -/
theorem list_of_list {plane : ControlPlane σ κ} {settings : RunSettings} {request : RunRequest}
    {world : σ} {inventory : Inventory}
    (listed : (list plane settings request world).1 = .ok inventory) (other : RunRequest) :
    ∃ line, list plane settings other world = (.ok inventory, line) := by
  obtain ⟨listing, line, same⟩ := list_after plane settings world
  rw [same request] at listed
  exact ⟨line.after (opening other), by rw [same other, ← listed]⟩

end Run

/-- Whether actions are only reported does not bear on how machines are begun. -/
theorem briefings_simulate (orders : SweepOrders) (controls : ResourceKind → Bool)
    (simulate : Bool) :
    briefings { orders with simulate := simulate } controls = briefings orders controls := by
  funext machine
  rw [briefings, briefings, brief, brief]

/-- A simulated run and any run at the same instant from the same outside, neither of which is
cut, come to the same outcomes, counters and failure lines, and the simulated one only reads and
leaves every power state; on a reliable control plane, with one machine at a time or with
different machines. -/
theorem simulation_predicts (plane : ControlPlane σ κ) (state : Machine → σ → PowerState)
    (errors : Machine → Option ApiError) (reliable : plane.Reliable state errors)
    (settings : RunSettings) (live rehearsal : RunRequest) (world : σ) (inventory : Inventory)
    (listed : (Run.list plane settings live world).1 = .ok inventory)
    (alone : settings.width ≤ 1 ∨ (inventory.machines.map Machine.key).Nodup)
    (instant : rehearsal.now = live.now) (simulates : rehearsal.simulate = true)
    (liveFinished : (Run.conduct plane settings live world).result = .ok ())
    (rehearsalFinished : (Run.conduct plane settings rehearsal world).result = .ok ()) :
    (Run.conduct plane settings rehearsal world).outcomes =
        (Run.conduct plane settings live world).outcomes ∧
      (Run.conduct plane settings rehearsal world).stats =
        (Run.conduct plane settings live world).stats ∧
      (Run.conduct plane settings rehearsal world).failures =
        (Run.conduct plane settings live world).failures ∧
      (∀ call ∈ (Run.conduct plane settings rehearsal world).calls, call.kind = .read) ∧
      ∀ machine, state machine (Run.conduct plane settings rehearsal world).line.world =
        state machine world := by
  obtain ⟨liveLine, liveListed⟩ := Run.list_of_list listed live
  obtain ⟨rehearsalLine, rehearsalListed⟩ := Run.list_of_list listed rehearsal
  have orders : settings.orders rehearsal inventory =
      { settings.orders live inventory with simulate := rehearsal.simulate } := by
    rw [RunSettings.orders, RunSettings.orders, instant]
  have outcomes : (Run.conduct plane settings rehearsal world).outcomes =
      (Run.conduct plane settings live world).outcomes := by
    rw [Run.outcomes_eq_forecast reliable alone liveListed liveFinished,
      Run.outcomes_eq_forecast reliable alone rehearsalListed rehearsalFinished, orders,
      briefings_simulate]
  obtain ⟨reads, states⟩ :=
    Run.simulated_reads_only reliable.toUndisturbed settings rehearsal world simulates
  refine ⟨outcomes, ?_, ?_, reads, states⟩
  · rw [Run.stats, outcomes, Run.stats]
  · rw [Run.failures, outcomes, Run.failures]

/-- Machines of which one is listed twice, under two names that the order by name keeps apart. -/
def aliasedInventory : Inventory where
  machines := [("/vm/a", "first"), ("/vm/b", "other"), ("/vm/a", "second")].map fun (id, name) =>
    ⟨id, name, "web", "Microsoft.Compute/virtualMachines", [("Off", "Monday")]⟩
  groups := []

/-- A control plane that lists them and cannot read the other machine. -/
def aliasedPlane : MemoryPlane where
  machines := aliasedInventory.machines
  behaviour id :=
    { readError := if id = "/vm/b" then some ⟨.transient, "read", id, "throttled"⟩ else none
      readDelay := 5
      actionDelay := 9 }

/-- The same control plane, where a change of power is accepted as soon as it has begun. -/
def lingeringPlane : ControlPlane PowerTable Unit :=
  aliasedPlane.accepting fun
    | .start => .starting
    | .stop => .stopping

/-- The run on Monday without changes of power. -/
def rehearsalRequest : RunRequest := { mondayRequest with id := "rehearsal", simulate := true }

/-- Both runs plan one stop for the machine that is listed twice. The live run finds it stopping at
its second entry, which calls for another stop, and the simulated one finds it running. -/
theorem simulation_predicts_aliases :
    ((Run.conduct lingeringPlane { tagKey := "off" } mondayRequest
        [("/vm/a", .running)]).answers.map fun answer => answer.answer.toOption) =
      [some .running, none, some .stopping] ∧
    ((Run.conduct lingeringPlane { tagKey := "off" } rehearsalRequest
        [("/vm/a", .running)]).answers.map fun answer => answer.answer.toOption) =
      [some .running, none, some .running] ∧
    (Run.conduct lingeringPlane { tagKey := "off" } rehearsalRequest
        [("/vm/a", .running)]).outcomes =
      (Run.conduct lingeringPlane { tagKey := "off" } mondayRequest
        [("/vm/a", .running)]).outcomes := by
  have listed : ∀ request, Run.list lingeringPlane { tagKey := "off" } request
      [("/vm/a", .running)] =
        (.ok aliasedInventory, ⟨[("/vm/a", .running)], 0, Run.opening request⟩) := fun _ => rfl
  have kept : roster aliasedInventory.machines = aliasedInventory.machines :=
    (roster_of_sorted (by decide +kernel)).trans (by decide +kernel)
  -- Each run is evaluated once, for its result and its answers together.
  have live : ((Run.conduct lingeringPlane { tagKey := "off" } mondayRequest
        [("/vm/a", .running)]).result,
      (Run.conduct lingeringPlane { tagKey := "off" } mondayRequest
        [("/vm/a", .running)]).answers.map fun answer => answer.answer.toOption) =
      (.ok (), [some .running, none, some .stopping]) := by
    rw [Run.conduct_of_list (listed _), Run.sweepFleet, Run.opened]
    simp only [kept]
    decide +kernel
  have rehearsed : ((Run.conduct lingeringPlane { tagKey := "off" } rehearsalRequest
        [("/vm/a", .running)]).result,
      (Run.conduct lingeringPlane { tagKey := "off" } rehearsalRequest
        [("/vm/a", .running)]).answers.map fun answer => answer.answer.toOption) =
      (.ok (), [some .running, none, some .running]) := by
    rw [Run.conduct_of_list (listed _), Run.sweepFleet, Run.opened]
    simp only [kept]
    decide +kernel
  obtain ⟨liveFinished, liveAnswers⟩ := Prod.mk.inj live
  obtain ⟨rehearsalFinished, rehearsalAnswers⟩ := Prod.mk.inj rehearsed
  have predicted := simulation_predicts lingeringPlane _ _
    (aliasedPlane.accepting_reliable _) { tagKey := "off" } mondayRequest rehearsalRequest
    [("/vm/a", .running)] aliasedInventory (by rw [listed]) (Or.inl (Nat.le_refl 1)) rfl rfl
    liveFinished rehearsalFinished
  exact ⟨liveAnswers, rehearsalAnswers, predicted.1⟩

end OffHours
