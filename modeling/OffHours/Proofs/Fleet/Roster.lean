import Mathlib.Data.List.Dedup
import Mathlib.Data.List.Forall2
import Mathlib.Data.Prod.Lex
import Mathlib.Data.String.Basic
import OffHours.Fleet.Roster

/-!
# What a roster keeps

A listing of machines with different keys has no repeats to cut, so its roster is the listing in
another order. Of a listing with several entries of one machine the roster keeps one entry of
each machine exactly when the order gathers them: `nodup_roster_iff`. The order compares names
and then ids, both as they are spelled, and not keys; so an entry of another machine may come
between two entries of one, and then neither of these is cut.
-/

namespace OffHours

/-- Nothing is cut after a kept machine when all keys are different. -/
theorem dropRepeats_of_nodup {kept : Machine} {machines : List Machine}
    (distinct : ((kept :: machines).map Machine.key).Nodup) :
    dropRepeats kept machines = kept :: machines := by
  induction machines generalizing kept with
  | nil => rfl
  | cons next rest hypothesis =>
    rw [List.map_cons, List.nodup_cons] at distinct
    have other : next.key ≠ kept.key := by
      intro same
      exact distinct.1 (by simp [same])
    rw [dropRepeats, if_neg (by simpa using other), hypothesis distinct.2]

/-- Nothing is cut from machines whose keys are all different. -/
theorem dropNeighbourRepeats_of_nodup {machines : List Machine}
    (distinct : (machines.map Machine.key).Nodup) : dropNeighbourRepeats machines = machines := by
  cases machines with
  | nil => rfl
  | cons first rest => exact dropRepeats_of_nodup distinct

/-- The roster of machines with different keys is the sorted listing. -/
theorem roster_of_nodup {listed : List Machine} (distinct : (listed.map Machine.key).Nodup) :
    roster listed = listed.mergeSort Machine.precedes := by
  have sorted : (listed.mergeSort Machine.precedes).Perm listed := List.mergeSort_perm _ _
  have apart : ((listed.mergeSort Machine.precedes).map Machine.key).Nodup :=
    (sorted.map Machine.key).nodup_iff.mpr distinct
  rw [roster, dropNeighbourRepeats_of_nodup apart]

/-- The roster of machines with different keys is the listing in another order. -/
theorem roster_perm {listed : List Machine} (distinct : (listed.map Machine.key).Nodup) :
    (roster listed).Perm listed := by
  rw [roster_of_nodup distinct]
  exact List.mergeSort_perm _ _

/-- The roster of machines with different keys has different keys. -/
theorem roster_nodup {listed : List Machine} (distinct : (listed.map Machine.key).Nodup) :
    ((roster listed).map Machine.key).Nodup :=
  ((roster_perm distinct).map Machine.key).nodup_iff.mpr distinct

/-- A listing that is in order is only cut. -/
theorem roster_of_sorted {listed : List Machine}
    (sorted : listed.Pairwise fun left right => left.precedes right = true) :
    roster listed = dropNeighbourRepeats listed := by
  rw [roster, List.mergeSort_of_pairwise sorted]

/-! ## Several entries of one machine -/

/-- What the order of machines compares. -/
def Machine.rank (machine : Machine) : String ×ₗ String := toLex (machine.name, machine.id)

/-- Machines are in the order of their ranks. -/
theorem Machine.precedes_iff (left right : Machine) :
    left.precedes right = true ↔ left.rank ≤ right.rank := by
  rw [rank, rank, Prod.Lex.toLex_le_toLex]
  simp [precedes]

/-- Machines that are level have one key. -/
theorem Machine.key_eq_of_rank {left right : Machine} (before : left.rank ≤ right.rank)
    (after : right.rank ≤ left.rank) : left.key = right.key := by
  have level : (left.name, left.id) = (right.name, right.id) :=
    toLex_inj.mp (le_antisymm before after)
  rw [key, (Prod.mk.inj level).2, key]

/-- A sorted listing is in the order of the ranks. -/
theorem sorted_rank (listed : List Machine) :
    (listed.mergeSort Machine.precedes).Pairwise fun left right => left.rank ≤ right.rank := by
  have sorted : (listed.mergeSort Machine.precedes).Pairwise
      fun left right => left.precedes right = true := by
    apply List.pairwise_mergeSort
    · intro first second third before after
      rw [Machine.precedes_iff] at before after ⊢
      exact before.trans after
    · intro left right
      rw [Bool.or_eq_true, Machine.precedes_iff, Machine.precedes_iff]
      exact le_total left.rank right.rank
  exact sorted.imp fun before => (Machine.precedes_iff _ _).mp before

/-- The order gathers the entries of each machine: what comes between two of them is a third. -/
def Gathered (machines : List Machine) : Prop :=
  ∀ first ∈ machines, ∀ other ∈ machines, ∀ last ∈ machines, first.key = last.key →
    first.precedes other = true → other.precedes last = true → other.key = first.key

instance (machines : List Machine) : Decidable (Gathered machines) :=
  inferInstanceAs (Decidable (∀ first ∈ machines, ∀ other ∈ machines, ∀ last ∈ machines,
    first.key = last.key → first.precedes other = true → other.precedes last = true →
      other.key = first.key))

/-- Some of gathered entries are gathered. -/
theorem Gathered.subset {machines others : List Machine} (gathered : Gathered machines)
    (within : others ⊆ machines) : Gathered others :=
  fun first begins other between last ends =>
    gathered first (within begins) other (within between) last (within ends)

/-- In a sorted listing, what is level with the first entry has its key. -/
theorem key_eq_of_rank_head {first machine : Machine} {rest : List Machine}
    (sorted : (first :: rest).Pairwise fun left right => left.rank ≤ right.rank)
    (present : machine ∈ first :: rest) (level : machine.rank ≤ first.rank) :
    machine.key = first.key := by
  rcases List.mem_cons.mp present with rfl | later
  · rfl
  · exact Machine.key_eq_of_rank level ((List.pairwise_cons.mp sorted).1 machine later)

/-- What is beyond the first entry is among the others. -/
theorem mem_of_not_rank_head {first machine : Machine} {rest : List Machine}
    (present : machine ∈ first :: rest) (beyond : ¬ machine.rank ≤ first.rank) :
    machine ∈ rest := by
  rcases List.mem_cons.mp present with rfl | later
  · exact absurd le_rfl beyond
  · exact later

section Sorted

variable {kept next : Machine} {rest : List Machine}
  (sorted : (kept :: next :: rest).Pairwise fun left right => left.rank ≤ right.rank)
include sorted

/-- A direct repeat of an entry does not bear on whether the entries are gathered. -/
theorem gathered_repeat_iff (same : next.key = kept.key) :
    Gathered (kept :: next :: rest) ↔ Gathered (kept :: rest) := by
  have least : kept.rank ≤ next.rank := (List.pairwise_cons.mp sorted).1 next List.mem_cons_self
  constructor
  · intro gathered
    exact gathered.subset (List.cons_subset_cons kept (List.subset_cons_self next rest))
  · intro gathered first begins other between last ends keys before after
    have lower := (Machine.precedes_iff first other).mp before
    have upper := (Machine.precedes_iff other last).mp after
    have early : ∀ machine ∈ kept :: next :: rest, machine.rank ≤ next.rank →
        machine.key = kept.key := by
      intro machine present level
      rcases List.mem_cons.mp present with rfl | further
      · rfl
      · exact (key_eq_of_rank_head sorted.of_cons further level).trans same
    by_cases reached : other.rank ≤ next.rank
    · rw [early other between reached, early first begins (lower.trans reached)]
    · -- What lies beyond the repeat is among the rest, and the first may be taken for the repeat.
      have beyond : ∀ machine ∈ kept :: next :: rest, ¬ machine.rank ≤ next.rank →
          machine ∈ kept :: rest := by
        intro machine present past
        rcases List.mem_cons.mp present with rfl | further
        · exact absurd least past
        · exact List.mem_cons_of_mem kept (mem_of_not_rank_head further past)
      have otherRest := beyond other between reached
      have lastRest := beyond last ends fun low => reached (upper.trans low)
      by_cases low : first.rank ≤ next.rank
      · have own : first.key = kept.key := early first begins low
        have start : kept.precedes other = true :=
          (Machine.precedes_iff kept other).mpr (least.trans (le_of_not_ge reached))
        rw [gathered kept List.mem_cons_self other otherRest last lastRest
          (own.symm.trans keys) start after, own]
      · exact gathered first (beyond first begins low) other otherRest last lastRest keys
          before after

/-- Before an entry of another machine, the entries are gathered when the first does not come
again and those after it are gathered. -/
theorem gathered_other_iff (apart : next.key ≠ kept.key) :
    Gathered (kept :: next :: rest) ↔
      kept.key ∉ (next :: rest).map Machine.key ∧ Gathered (next :: rest) := by
  constructor
  · intro gathered
    refine ⟨?_, gathered.subset (List.subset_cons_self kept (next :: rest))⟩
    intro again
    obtain ⟨machine, present, same⟩ := List.mem_map.mp again
    rcases List.mem_cons.mp present with rfl | later
    · exact apart same
    · refine apart (gathered kept List.mem_cons_self next (by simp) machine (by simp [later])
        same.symm ?_ ?_)
      · exact (Machine.precedes_iff kept next).mpr
          ((List.pairwise_cons.mp sorted).1 next List.mem_cons_self)
      · exact (Machine.precedes_iff next machine).mpr
          ((List.pairwise_cons.mp sorted.of_cons).1 machine later)
  · rintro ⟨once, gathered⟩ first begins other between last ends keys before after
    have lower := (Machine.precedes_iff first other).mp before
    have upper := (Machine.precedes_iff other last).mp after
    by_cases own : first.key = kept.key
    · -- The last entry has the key of the first one too, so it is that one.
      rcases List.mem_cons.mp ends with rfl | further
      · rw [key_eq_of_rank_head sorted between upper, own]
      · exact absurd (List.mem_map.mpr ⟨last, further, keys.symm.trans own⟩) once
    · have past : ¬ first.rank ≤ kept.rank := fun low =>
        own (key_eq_of_rank_head sorted begins low)
      have otherRest := mem_of_not_rank_head between fun low => past (lower.trans low)
      have lastRest := mem_of_not_rank_head ends fun low => past ((lower.trans upper).trans low)
      exact gathered first (mem_of_not_rank_head begins past) other otherRest last lastRest keys
        before after

end Sorted

/-- Cutting repeats loses no machine. -/
theorem mem_keys_dropRepeats {key : String} (kept : Machine) (rest : List Machine) :
    key ∈ (dropRepeats kept rest).map Machine.key ↔ key ∈ (kept :: rest).map Machine.key := by
  induction rest generalizing kept with
  | nil => rw [dropRepeats]
  | cons next rest hypothesis =>
    by_cases same : next.key = kept.key
    · rw [dropRepeats, if_pos (by simpa using same), hypothesis]
      simp [same]
    · rw [dropRepeats, if_neg (by simpa using same), List.map_cons, List.mem_cons, hypothesis,
        ← List.mem_cons, ← List.map_cons]

/-- In a sorted listing, cutting repeats leaves one entry of each machine exactly when the entries
are gathered. -/
theorem nodup_dropRepeats_iff {kept : Machine} {rest : List Machine}
    (sorted : (kept :: rest).Pairwise fun left right => left.rank ≤ right.rank) :
    ((dropRepeats kept rest).map Machine.key).Nodup ↔ Gathered (kept :: rest) := by
  induction rest generalizing kept with
  | nil =>
    refine iff_of_true (by simp [dropRepeats]) ?_
    intro first begins other between last ends keys before after
    rw [List.mem_singleton.mp begins, List.mem_singleton.mp between]
  | cons next rest hypothesis =>
    by_cases same : next.key = kept.key
    · have shorter : (kept :: rest).Sublist (kept :: next :: rest) :=
        List.Sublist.cons_cons kept (List.sublist_cons_self next rest)
      rw [dropRepeats, if_pos (by simpa using same), gathered_repeat_iff sorted same]
      exact hypothesis (sorted.sublist shorter)
    · rw [dropRepeats, if_neg (by simpa using same), gathered_other_iff sorted same, List.map_cons,
        List.nodup_cons, mem_keys_dropRepeats, hypothesis sorted.of_cons]

/-- The roster has the machines of the listing. -/
theorem mem_keys_roster {key : String} (listed : List Machine) :
    key ∈ (roster listed).map Machine.key ↔ key ∈ listed.map Machine.key := by
  have sorted : ((listed.mergeSort Machine.precedes).map Machine.key).Perm
      (listed.map Machine.key) := (List.mergeSort_perm _ _).map _
  rw [roster, ← sorted.mem_iff]
  cases listed.mergeSort Machine.precedes with
  | nil => rfl
  | cons first rest => exact mem_keys_dropRepeats first rest

/-- The roster has one entry of each machine exactly when the order gathers the entries. -/
theorem nodup_roster_iff (listed : List Machine) :
    ((roster listed).map Machine.key).Nodup ↔ Gathered listed := by
  have perm : (listed.mergeSort Machine.precedes).Perm listed := List.mergeSort_perm _ _
  have same : Gathered (listed.mergeSort Machine.precedes) ↔ Gathered listed :=
    ⟨fun gathered => gathered.subset perm.symm.subset, fun gathered => gathered.subset perm.subset⟩
  have sorted := sorted_rank listed
  rw [← same, roster]
  cases ordered : listed.mergeSort Machine.precedes with
  | nil => exact iff_of_true List.nodup_nil fun first none => absurd none List.not_mem_nil
  | cons first rest =>
    rw [ordered] at sorted
    exact nodup_dropRepeats_iff sorted

/-- The roster is as long as there are machines exactly when the order gathers the entries. -/
theorem length_roster_eq_iff (listed : List Machine) :
    (roster listed).length = (listed.map Machine.key).dedup.length ↔ Gathered listed := by
  have machines : ((roster listed).map Machine.key).dedup.Perm (listed.map Machine.key).dedup := by
    rw [List.perm_ext_iff_of_nodup (List.nodup_dedup _) (List.nodup_dedup _)]
    intro key
    rw [List.mem_dedup, List.mem_dedup, mem_keys_roster]
  rw [← nodup_roster_iff, ← machines.length_eq, ← List.dedup_eq_self, ← List.length_map Machine.key]
  constructor
  · exact fun full => (List.dedup_sublist _).eq_of_length full.symm
  · intro all
    rw [all]

/-! ## Listings of counterparts -/

section Counterparts

variable {related : Machine → Machine → Prop}

/-- Repeats of counterparts are cut alike. -/
theorem dropRepeats_forall₂
    (keys : ∀ machine other : Machine, related machine other → machine.key = other.key)
    {kept also : Machine} (pair : related kept also) {machines others : List Machine}
    (paired : List.Forall₂ related machines others) :
    List.Forall₂ related (dropRepeats kept machines) (dropRepeats also others) := by
  induction paired generalizing kept also with
  | nil => exact .cons pair .nil
  | @cons next following _ _ first _ hypothesis =>
    rw [dropRepeats, dropRepeats, ← keys kept also pair, ← keys next following first]
    split
    · exact hypothesis pair
    · exact .cons pair (hypothesis first)

/-- Counterparts with the same names and ids are sorted alike. -/
theorem mergeSort_forall₂
    (ranks : ∀ machine other : Machine, related machine other →
      machine.id = other.id ∧ machine.name = other.name)
    {left right : List Machine} (paired : List.Forall₂ related left right) :
    List.Forall₂ related (left.mergeSort Machine.precedes) (right.mergeSort Machine.precedes) := by
  -- Both listings are sorted as one listing of pairs.
  obtain ⟨lengths, zipped⟩ := List.forall₂_iff_zip.mp paired
  have pairs : ∀ pair ∈ left.zip right, related pair.1 pair.2 := fun _ present => zipped present
  let precedes (first second : Machine × Machine) : Bool := first.1.precedes second.1
  have firsts : ((left.zip right).mergeSort precedes).map Prod.fst =
      left.mergeSort Machine.precedes := by
    have kept : ∀ first ∈ left.zip right, ∀ second ∈ left.zip right,
        precedes first second = first.1.precedes second.1 := fun _ _ _ _ => rfl
    rw [List.map_mergeSort kept, List.map_fst_zip (Nat.le_of_eq lengths)]
  have seconds : ((left.zip right).mergeSort precedes).map Prod.snd =
      right.mergeSort Machine.precedes := by
    have kept : ∀ first ∈ left.zip right, ∀ second ∈ left.zip right,
        precedes first second = first.2.precedes second.2 := by
      intro first begins second ends
      obtain ⟨ids, names⟩ := ranks _ _ (pairs first begins)
      obtain ⟨otherIds, otherNames⟩ := ranks _ _ (pairs second ends)
      simp only [precedes, Machine.precedes, ids, names, otherIds, otherNames]
    rw [List.map_mergeSort kept, List.map_snd_zip (Nat.le_of_eq lengths.symm)]
  rw [← firsts, ← seconds, List.forall₂_map_left_iff, List.forall₂_map_right_iff, List.forall₂_same]
  exact fun pair present => pairs pair (List.mem_mergeSort.mp present)

/-- Counterparts with the same names and ids stand in the same order in their rosters. -/
theorem roster_forall₂
    (ranks : ∀ machine other : Machine, related machine other →
      machine.id = other.id ∧ machine.name = other.name)
    {left right : List Machine} (paired : List.Forall₂ related left right) :
    List.Forall₂ related (roster left) (roster right) := by
  have keys : ∀ machine other : Machine, related machine other → machine.key = other.key := by
    intro machine other pair
    rw [Machine.key, (ranks _ _ pair).1, Machine.key]
  have sorted := mergeSort_forall₂ ranks paired
  rw [roster, roster]
  generalize left.mergeSort Machine.precedes = machines at sorted ⊢
  generalize right.mergeSort Machine.precedes = others at sorted ⊢
  cases sorted with
  | nil => exact .nil
  | cons pair rest => exact dropRepeats_forall₂ keys pair rest

end Counterparts

end OffHours
