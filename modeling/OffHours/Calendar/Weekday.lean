/-!
# Days of the week

The seven days, their English names, and sets of them. A set is seven bits, so two sets with
the same members are equal; members are always listed from Monday on.
-/

namespace OffHours

/-- A day of the week. -/
inductive Weekday where
  | monday
  | tuesday
  | wednesday
  | thursday
  | friday
  | saturday
  | sunday
  deriving DecidableEq, Repr

namespace Weekday

/-- All days, Monday first. -/
def all : List Weekday := [monday, tuesday, wednesday, thursday, friday, saturday, sunday]

/-- Position in the week, zero for Monday. -/
def index : Weekday → Fin 7
  | monday => 0
  | tuesday => 1
  | wednesday => 2
  | thursday => 3
  | friday => 4
  | saturday => 5
  | sunday => 6

/-- The day at a position in the week. -/
def ofIndex : Fin 7 → Weekday
  | 0 => monday
  | 1 => tuesday
  | 2 => wednesday
  | 3 => thursday
  | 4 => friday
  | 5 => saturday
  | 6 => sunday

/-- The English name with a capital. -/
def name : Weekday → String
  | monday => "Monday"
  | tuesday => "Tuesday"
  | wednesday => "Wednesday"
  | thursday => "Thursday"
  | friday => "Friday"
  | saturday => "Saturday"
  | sunday => "Sunday"

/-- The three-letter name. -/
def shortName : Weekday → String
  | monday => "Mon"
  | tuesday => "Tue"
  | wednesday => "Wed"
  | thursday => "Thu"
  | friday => "Fri"
  | saturday => "Sat"
  | sunday => "Sun"

/-- The day with exactly this name, capitals included. -/
def ofName? (text : String) : Option Weekday := all.find? (·.name == text)

/-- Every day is in the list of all days. -/
theorem mem_all (day : Weekday) : day ∈ all := by cases day <;> decide

/-- The position determines the day. -/
@[simp] theorem ofIndex_index (day : Weekday) : ofIndex day.index = day := by cases day <;> rfl

/-- Every position is that of its day. -/
@[simp] theorem index_ofIndex : ∀ index : Fin 7, (ofIndex index).index = index := by decide

/-- A name is read back as its day. -/
@[simp] theorem ofName?_name (day : Weekday) : ofName? day.name = some day := by
  cases day <;> decide

/-- Only the name of a day is read as that day. -/
theorem name_of_ofName? {text : String} {day : Weekday} (read : ofName? text = some day) :
    text = day.name := by
  have named := List.find?_some read
  exact (beq_iff_eq.mp named).symm

end Weekday

/-- A set of days of the week. -/
structure WeekdaySet where
  /-- One bit per day, the lowest for Monday. -/
  bits : BitVec 7
  deriving DecidableEq, Repr

namespace WeekdaySet

/-- The set without members. -/
def empty : WeekdaySet := ⟨0⟩

/-- Whether a day is a member. -/
def contains (days : WeekdaySet) (day : Weekday) : Bool := days.bits.getLsbD day.index

/-- The set with one more member. -/
def insert (days : WeekdaySet) (day : Weekday) : WeekdaySet :=
  ⟨days.bits ||| BitVec.twoPow 7 day.index⟩

/-- The set with all days of a list as further members. -/
def insertAll (days : WeekdaySet) (more : List Weekday) : WeekdaySet := more.foldl insert days

/-- The set of the days of a list. -/
def ofList (days : List Weekday) : WeekdaySet := empty.insertAll days

/-- The members, Monday first. -/
def toList (days : WeekdaySet) : List Weekday := Weekday.all.filter days.contains

/-- The number of members. -/
def size (days : WeekdaySet) : Nat := days.toList.length

/-- Whether there is no member. -/
def isEmpty (days : WeekdaySet) : Bool := days.bits == 0

/-- The names of the members, Monday first. -/
def text (days : WeekdaySet) : String := ", ".intercalate (days.toList.map Weekday.name)

/-- The empty set has no member. -/
@[simp] theorem contains_empty (day : Weekday) : empty.contains day = false := by
  simp [empty, contains]

/-- Insertion adds exactly the inserted day. -/
@[simp] theorem contains_insert (days : WeekdaySet) (added day : Weekday) :
    (days.insert added).contains day = (days.contains day || day == added) := by
  have same : decide (day.index.val = added.index.val) = (day == added) := by
    cases added <;> cases day <;> decide
  simp [insert, contains, same]

/-- Inserting a list adds exactly its days. -/
@[simp] theorem contains_insertAll (days : WeekdaySet) (more : List Weekday) (day : Weekday) :
    (days.insertAll more).contains day = (days.contains day || more.contains day) := by
  induction more generalizing days with
  | nil => simp [insertAll]
  | cons added more ih =>
    have step := ih (days.insert added)
    simp only [insertAll, List.foldl_cons] at step ⊢
    rw [step, contains_insert, List.contains_cons, Bool.or_assoc]

/-- The members of the set of a list are the days of the list. -/
@[simp] theorem contains_ofList (days : List Weekday) (day : Weekday) :
    (ofList days).contains day = days.contains day := by
  simp [ofList]

/-- The listed members are exactly the members. -/
@[simp] theorem mem_toList {days : WeekdaySet} {day : Weekday} :
    day ∈ days.toList ↔ days.contains day = true := by
  simp [toList, Weekday.mem_all]

/-- Sets with the same members are equal. -/
theorem ext_contains {left right : WeekdaySet}
    (same : ∀ day, left.contains day = right.contains day) : left = right := by
  obtain ⟨leftBits⟩ := left
  obtain ⟨rightBits⟩ := right
  congr 1
  apply BitVec.eq_of_getLsbD_eq
  intro position below
  have found := same (Weekday.ofIndex ⟨position, below⟩)
  simpa [contains] using found

/-- A set is empty exactly when it has no member. -/
theorem isEmpty_iff {days : WeekdaySet} :
    days.isEmpty = true ↔ ∀ day, days.contains day = false := by
  constructor
  · intro none day
    simp only [isEmpty, beq_iff_eq] at none
    simp [contains, none]
  · intro none
    have same : days = empty := ext_contains fun day => by simp [none day]
    simp [same, isEmpty, empty]

/-- The set of the listed members is the set. -/
@[simp] theorem ofList_toList (days : WeekdaySet) : ofList days.toList = days := by
  apply ext_contains
  intro day
  rw [contains_ofList, Bool.eq_iff_iff]
  simp

end WeekdaySet

end OffHours
