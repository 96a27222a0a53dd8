import OffHours.Fleet.Machine

/-!
# The roster of a run

The machines of a run in the order in which they are processed: sorted by name and then by id,
each run of neighbours with the same key cut to its first.
-/

namespace OffHours

/-- Whether one machine comes before another or is level with it. -/
def Machine.precedes (left right : Machine) : Bool :=
  left.name < right.name || (left.name == right.name && left.id ≤ right.id)

/-- The machines after a machine that is kept, without those that directly repeat its key. -/
def dropRepeats (kept : Machine) : List Machine → List Machine
  | [] => [kept]
  | next :: rest =>
    if next.key == kept.key then dropRepeats kept rest else kept :: dropRepeats next rest

/-- Each run of neighbours with the same key cut to its first. -/
def dropNeighbourRepeats : List Machine → List Machine
  | [] => []
  | first :: rest => dropRepeats first rest

/-- The machines in the order in which they are processed. -/
def roster (listed : List Machine) : List Machine :=
  dropNeighbourRepeats (listed.mergeSort Machine.precedes)

end OffHours
