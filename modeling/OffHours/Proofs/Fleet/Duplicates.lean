import OffHours.Proofs.Fleet.PowerCalls

/-!
# Machines that are listed several times

A run processes the entries of its roster and reads those of them whose power it may have to
change. So it processes each machine once exactly when the order of the roster gathers the
entries of each machine; entries of one machine that stay apart are processed and read each.
-/

namespace OffHours

variable {σ κ : Type}

/-! ## Counting -/

/-- Each outcome that is recorded counts as one machine processed. -/
theorem RunStats.record_processed (stats : RunStats) (outcome : Outcome) :
    (stats.record outcome).processed = stats.processed + 1 := by
  cases outcome with
  | skipped reason => rfl
  | errored error => rfl
  | reconciled action =>
    cases action with
    | none => rfl
    | some action => cases action <;> rfl

/-- As many machines are processed as there are outcomes. -/
theorem RunStats.processed_ofOutcomes (outcomes : List Outcome) :
    (RunStats.ofOutcomes outcomes).processed = outcomes.length := by
  have counted : ∀ stats : RunStats, (outcomes.foldl RunStats.record stats).processed =
      stats.processed + outcomes.length := by
    induction outcomes with
    | nil => exact fun stats => rfl
    | cons outcome rest hypothesis =>
      intro stats
      rw [List.foldl_cons, hypothesis, record_processed, List.length_cons]
      omega
  rw [ofOutcomes, counted, Nat.zero_add]

/-- Whether a machine is begun with a read. -/
def Briefing.isRead : Briefing → Bool
  | skip _ => false
  | read _ _ => true

/-- Whether a machine is begun. -/
def Stage.isBegun : Stage σ → Bool
  | waiting => false
  | reading _ _ _ | acting _ _ | finished _ => true

/-- Whether a machine with a stage has a key and was begun with a read. -/
def wasRead (orders : SweepOrders) (controls : ResourceKind → Bool) (key : String)
    (entry : Machine × Stage σ) : Bool :=
  entry.1.key == key && (brief orders controls entry.1).1.isRead && entry.2.isBegun

variable {plane : ControlPlane σ κ} {orders : SweepOrders}

/-- A shift makes a read of its machine when it begins it with one, and else none. -/
theorem Shift.reads {machine : Machine} {ledger later : Ledger σ} {old new : Stage σ}
    (moved : Shift plane orders machine ledger old later new) (key : String) :
    (callsOn key later.calls).count .read +
        (if wasRead orders plane.controls key (machine, old) = true then 1 else 0) =
      (callsOn key ledger.calls).count .read +
        if wasRead orders plane.controls key (machine, new) = true then 1 else 0 := by
  cases moved with
  | skip briefing => simp [wasRead, briefing, Briefing.isRead]
  | ask time briefing =>
    by_cases own : machine.key = key
    · simp [wasRead, briefing, Briefing.isRead, Stage.isBegun, own]
    · simp [wasRead, own]
  | unread | compliant | repeated | simulated | settle => rfl
  | perform =>
    by_cases own : machine.key = key
    · simp [wasRead, Stage.isBegun, own]
    · simp [wasRead, own]

/-- Along a course, the reads made under a key are those of the machines begun with one. -/
theorem Course.Reaches.reads {world : σ} {machines : List Machine} {last : Course σ}
    (reached : Course.Reaches plane orders (Course.start world machines) last) (key : String) :
    (callsOn key last.ledger.calls).count .read =
      last.stages.countP (wasRead orders plane.controls key) := by
  induction reached with
  | refl =>
    refine (List.countP_eq_zero.mpr ?_).symm
    intro entry present
    obtain ⟨machine, -, rfl⟩ := List.mem_map.mp present
    simp [wasRead, Stage.isBegun]
  | tail _ step hypothesis =>
    cases step with
    | shift front back moved =>
      have change := moved.reads key
      simp only [List.countP_append, List.countP_cons] at hypothesis ⊢
      omega

namespace Run

variable {settings : RunSettings} {request : RunRequest} {world : σ} {inventory : Inventory}
  {line : Timeline σ}

/-- A run that is not cut processes the entries of its roster. -/
theorem processed_eq (listed : list plane settings request world = (.ok inventory, line))
    (finished : (conduct plane settings request world).result = .ok ()) :
    (conduct plane settings request world).stats.processed =
      (roster inventory.machines).length := by
  rw [stats, RunStats.processed_ofOutcomes, List.length_map,
    ← outcomes_machines listed finished, List.length_map]

/-- A run that is not cut reads, under a key, the entries of its roster with that key that are
begun with a read. -/
theorem reads_eq (listed : list plane settings request world = (.ok inventory, line))
    (finished : (conduct plane settings request world).result = .ok ()) (key : String) :
    (callsOn key (conduct plane settings request world).calls).count .read =
      (roster inventory.machines).countP fun machine => machine.key == key &&
        (brief (settings.orders request inventory) plane.controls machine).1.isRead := by
  rw [← outcomes_machines listed finished, List.countP_map]
  rw [conduct_of_list listed] at finished ⊢
  obtain ⟨last, reached, calls, -, -, ended⟩ :=
    sweepFleet_reaches plane settings request inventory line
  rw [calls, reached.reads key, ended finished, List.countP_map]
  refine List.countP_congr fun result _ => ?_
  simp [wasRead, finishedEntry, Stage.isBegun]

end Run

/-- A run that is not cut processes as many machines as have different keys exactly when the order
gathers the entries of each machine, and then it reads no machine twice. Under each key it reads
the entries that the roster keeps and that are begun with a read. -/
theorem processed_once_iff (plane : ControlPlane σ κ) (settings : RunSettings)
    (request : RunRequest) (world : σ) (inventory : Inventory) (line : Timeline σ)
    (listed : Run.list plane settings request world = (.ok inventory, line))
    (finished : (Run.conduct plane settings request world).result = .ok ()) :
    ((Run.conduct plane settings request world).stats.processed =
        (inventory.machines.map Machine.key).dedup.length ↔ Gathered inventory.machines) ∧
      (Gathered inventory.machines → ∀ key,
        (callsOn key (Run.conduct plane settings request world).calls).count .read ≤ 1) ∧
      ∀ key, (callsOn key (Run.conduct plane settings request world).calls).count .read =
        (roster inventory.machines).countP fun machine => machine.key == key &&
          (brief (settings.orders request inventory) plane.controls machine).1.isRead := by
  refine ⟨?_, ?_, Run.reads_eq listed finished⟩
  · rw [Run.processed_eq listed finished]
    exact length_roster_eq_iff inventory.machines
  · intro gathered key
    have single := List.nodup_iff_count_le_one.mp ((nodup_roster_iff _).mpr gathered) key
    rw [List.count_eq_countP, List.countP_map] at single
    rw [Run.reads_eq listed finished]
    refine le_trans (List.countP_mono_left ?_) single
    intro machine _ read
    exact (Bool.and_eq_true_iff.mp read).1

/-- Machines of a group that is off on Mondays, with these ids and names. -/
def mondayMachines (entries : List (String × String)) : Inventory where
  machines := entries.map fun (id, name) =>
    ⟨id, name, "web", "Microsoft.Compute/virtualMachines", [("Off", "Monday")]⟩
  groups := []

/-- A machine whose id is spelled in two ways, under one name. -/
def respelledInventory : Inventory :=
  mondayMachines [("/vm/api01", "api01"), ("/vm/Web01", "web01"), ("/vm/web01", "web01")]

/-- A machine that is spelled in two ways, its name as well, and one whose name comes between. -/
def scatteredInventory : Inventory :=
  mondayMachines [("/vm/Web01", "Web01"), ("/vm/api01", "api01"), ("/vm/web01", "web01")]

/-- A control plane that lists an inventory. -/
def listingPlane (inventory : Inventory) : MemoryPlane where
  machines := inventory.machines

/-- Under one name the two spellings are processed once and read once. -/
theorem processed_once_respelled :
    Gathered respelledInventory.machines ∧
      (respelledInventory.machines.map Machine.key).dedup.length = 2 ∧
      (Run.conduct (listingPlane respelledInventory).plane { tagKey := "off" } mondayRequest
        []).stats.processed = 2 ∧
      ∀ key, (callsOn key (Run.conduct (listingPlane respelledInventory).plane
        { tagKey := "off" } mondayRequest []).calls).count .read ≤ 1 := by
  have listed : Run.list (listingPlane respelledInventory).plane { tagKey := "off" } mondayRequest
      [] = (.ok respelledInventory, ⟨[], 0, Run.opening mondayRequest⟩) := rfl
  have kept : roster respelledInventory.machines = respelledInventory.machines.take 2 :=
    (roster_of_sorted (by decide +kernel)).trans (by decide +kernel)
  have finished : (Run.conduct (listingPlane respelledInventory).plane { tagKey := "off" }
      mondayRequest []).result = .ok () := by
    rw [Run.conduct_of_list listed, Run.sweepFleet, Run.opened]
    simp only [kept]
    decide +kernel
  have gathered : Gathered respelledInventory.machines := by decide +kernel
  have keys : (respelledInventory.machines.map Machine.key).dedup.length = 2 := by decide +kernel
  have once := processed_once_iff _ _ _ _ respelledInventory _ listed finished
  exact ⟨gathered, keys, (once.1.mpr gathered).trans keys, once.2.1 gathered⟩

/-- With the other name between them the two spellings are processed and read each, by a run that
is not cut. -/
theorem processed_twice_scattered :
    (Run.conduct (listingPlane scatteredInventory).plane { tagKey := "off" } mondayRequest
        []).result = .ok () ∧
      (Run.conduct (listingPlane scatteredInventory).plane { tagKey := "off" } mondayRequest
        []).stats.processed = 3 ∧
      (scatteredInventory.machines.map Machine.key).dedup.length = 2 ∧
      callsOn "/vm/web01" (Run.conduct (listingPlane scatteredInventory).plane
        { tagKey := "off" } mondayRequest []).calls = [.read, .action .stop, .read] := by
  have listed : Run.list (listingPlane scatteredInventory).plane { tagKey := "off" } mondayRequest
      [] = (.ok scatteredInventory, ⟨[], 0, Run.opening mondayRequest⟩) := rfl
  have kept : roster scatteredInventory.machines = scatteredInventory.machines :=
    (roster_of_sorted (by decide +kernel)).trans (by decide +kernel)
  -- The run is evaluated once, for its result, its counters and its calls together.
  have ended : ((Run.conduct (listingPlane scatteredInventory).plane { tagKey := "off" }
        mondayRequest []).result,
      (Run.conduct (listingPlane scatteredInventory).plane { tagKey := "off" } mondayRequest
        []).stats.processed,
      callsOn "/vm/web01" (Run.conduct (listingPlane scatteredInventory).plane
        { tagKey := "off" } mondayRequest []).calls) =
      (.ok (), 3, [.read, .action .stop, .read]) := by
    rw [Run.conduct_of_list listed, Run.sweepFleet, Run.opened]
    simp only [kept]
    decide +kernel
  obtain ⟨finished, counted⟩ := Prod.mk.inj ended
  obtain ⟨processed, calls⟩ := Prod.mk.inj counted
  exact ⟨finished, processed, by decide +kernel, calls⟩

end OffHours
