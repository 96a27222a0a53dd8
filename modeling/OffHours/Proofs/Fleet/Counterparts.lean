import OffHours.Proofs.Fleet.Matching

/-!
# Sweeps over counterparts

Two sweeps over fleets whose machines correspond one by one. What a move looks at is a machine's
key, what is known about it before it is read, and its power calls; so when counterparts agree on
these, the sweeps match over one outside with counterparts in place of machines
(`Sweep.paired_iff_matched`), and go alike to their ends (`Sweep.Paired.run`). What the sweeps
report may differ, and no move looks at it.
-/

namespace OffHours

variable {σ κ : Type}

/-- Counterparts have one key, are briefed alike, and their power calls go alike. -/
structure Counterparts (related : Machine → Machine → Prop) (left right : ControlPlane σ κ)
    (orders others : SweepOrders) : Prop where
  /-- One key. -/
  key : ∀ {machine other : Machine}, related machine other → machine.key = other.key
  /-- The same is known about them before they are read. -/
  brief : ∀ {machine other : Machine}, related machine other →
    (brief orders left.controls machine).1 = (brief others right.controls other).1
  /-- Reads go alike. -/
  power : ∀ {machine other : Machine} (kind : ResourceKind), related machine other →
    left.power kind machine = right.power kind other
  /-- Changes of power go alike. -/
  act : ∀ {machine other : Machine} (action : PowerAction) (kind : ResourceKind),
    related machine other → left.act action kind machine = right.act action kind other
  /-- Actions are only reported under both orders or under neither. -/
  simulate : orders.simulate = others.simulate
  /-- The same number of machines may be in progress. -/
  width : orders.width = others.width
  /-- The same limit. -/
  limit : orders.limit = others.limit

section Pairs

variable (related : Machine → Machine → Prop)

/-- Two visits of counterparts at one seat that are equally far. -/
structure Visit.Paired (left right : Visit σ) : Prop where
  /-- One seat. -/
  seat : left.seat = right.seat
  /-- Counterparts. -/
  machine : related left.machine right.machine
  /-- Equally far. -/
  progress : left.progress = right.progress

/-- Two sweeps that differ in counterparts and reports only. -/
structure Sweep.Paired (left right : Sweep σ) : Prop where
  /-- One outside. -/
  world : left.world = right.world
  /-- One time. -/
  clock : left.clock = right.clock
  /-- Counterparts wait. -/
  queue : List.Forall₂ related left.queue right.queue
  /-- Counterparts are in progress. -/
  active : List.Forall₂ (Visit.Paired related) left.active right.active
  /-- Counterparts are taken with the same outcomes. -/
  taken : List.Forall₂ (PairedResult related) left.taken right.taken
  /-- The same keys are remembered. -/
  acted : left.acted = right.acted
  /-- As many waits began. -/
  waits : left.waits = right.waits
  /-- The same calls were made on counterparts. -/
  calls : List.Forall₂ (PowerCall.Paired related) left.calls right.calls
  /-- The same answers were heard about counterparts. -/
  answers : List.Forall₂ (PowerAnswer.Paired related) left.answers right.answers

end Pairs

/-- Counterparts match over one outside, when nobody is told what is reported. -/
theorem Counterparts.matching {related : Machine → Machine → Prop} {left right : ControlPlane σ κ}
    {orders others : SweepOrders} (alike : Counterparts related left right orders others) :
    Matching Eq related False left right orders others where
  key := alike.key
  brief := alike.brief
  power kind pair outside := by
    rw [alike.power kind pair, outside]
    exact .refl _ _
  act _ _ _ _ _ action kind pair outside := by
    rw [alike.act action kind pair, outside]
    exact .refl _ _
  simulate := alike.simulate
  width := alike.width
  limit := alike.limit
  same := False.elim
  briefLog := False.elim

namespace Sweep

variable {related : Machine → Machine → Prop} {left right : Sweep σ}

/-- Sweeps over counterparts are those that match over one outside. -/
theorem paired_iff_matched : Paired related left right ↔ Matched Eq related False left right := by
  have visits : Visit.Paired (σ := σ) related = Visit.Matched Eq related := by
    funext visit other
    refine propext ⟨fun pair => ⟨pair.seat, pair.machine, ?_⟩,
      fun pair => ⟨pair.seat, pair.machine, ?_⟩⟩
    · rw [pair.progress]
      exact .refl _
    · exact pair.progress.eq
  constructor
  · intro paired
    exact { paired with
      active := visits ▸ paired.active
      log := False.elim }
  · intro matched
    exact { matched with active := visits ▸ matched.active }

namespace Paired

/-- All moves are made on counterparts. -/
theorem run {plane replaced : ControlPlane σ κ} {orders others : SweepOrders}
    (alike : Counterparts related plane replaced orders others)
    (paired : Paired related left right) :
    Paired related (left.run plane orders) (right.run replaced others) :=
  paired_iff_matched.mpr ((paired_iff_matched.mp paired).run alike.matching)

/-- Both sweeps have taken every machine or neither has. -/
theorem isComplete_eq (paired : Paired related left right) :
    left.isComplete = right.isComplete :=
  (paired_iff_matched.mp paired).isComplete_eq

end Paired

end Sweep

end OffHours
