import OffHours.Data.Value

/-!
# Reading data values

Readers take a value to a typed one and refuse every other. A record is read from a table, by
the names of its fields, or from a list, by their order; names that the record does not have
are passed over, a field that stands twice is refused.
-/

namespace OffHours

namespace Value

/-- A text and nothing else. -/
def text? : Value → Option String
  | text content => some content
  | _ => none

/-- A truth value and nothing else. -/
def boolean? : Value → Option Bool
  | boolean truth => some truth
  | _ => none

/-- A whole number from zero up to a bound. -/
def natural? (bound : Nat) : Value → Option Nat
  | integer number => if 0 ≤ number ∧ number.toNat < bound then some number.toNat else none
  | _ => none

/-- A whole number of 64 bits. -/
def word64? : Value → Option Nat := natural? UInt64.size

/-- A whole number of 16 bits. -/
def word16? : Value → Option Nat := natural? UInt16.size

/-- A list of values of one kind. -/
def list? {α : Type} (item : Value → Option α) : Value → Option (List α)
  | list items => items.mapM item
  | _ => none

/-- A value, or none when it is null. -/
def nullable? {α : Type} (item : Value → Option α) : Value → Option (Option α)
  | null => some none
  | value => (item value).map some

/-- Texts under names; of a name that stands twice, the last. -/
def texts? : Value → Option (List (String × String))
  | table entries => entries.foldlM (fun found (name, value) => do
      let content ← value.text?
      return found.filter (fun entry => entry.1 != name) ++ [(name, content)]) []
  | _ => none

end Value

/-- The fields of a record that are not read yet. -/
inductive Fields where
  /-- Fields by name. -/
  | named (entries : List (String × Value))
  /-- Fields in order. -/
  | listed (items : List Value)

/-- Readers of records, which use up fields. -/
abbrev FieldReader := StateT Fields Option

namespace FieldReader

variable {α : Type}

/-- The value of the next field, which has this name, if it is there. -/
def next (name : String) : FieldReader (Option Value) := fun fields =>
  match fields with
  | .named entries =>
    match entries.filter (fun entry => entry.1 == name) with
    | [] => some (none, fields)
    | [entry] => some (some entry.2, fields)
    | _ => none
  | .listed [] => some (none, fields)
  | .listed (value :: rest) => some (some value, .listed rest)

/-- A field that has to be there. -/
def required (name : String) (reader : Value → Option α) : FieldReader α := do
  match ← next name with
  | some value => (reader value : Option α)
  | none => failure

/-- A field with a value for when it is not there. -/
def withDefault (name : String) (reader : Value → Option α) (absent : α) : FieldReader α := do
  match ← next name with
  | some value => (reader value : Option α)
  | none => return absent

/-- A field that may be null, or left out by name. -/
def nullable (name : String) (reader : Value → Option α) : FieldReader (Option α) := do
  match ← next name, ← get with
  | some value, _ => (Value.nullable? reader value : Option (Option α))
  | none, .named _ => return none
  | none, .listed _ => failure

end FieldReader

/-- The record that a value holds. Every field of a list has to be used; a date or time counts
as a record with none of the fields. -/
def Value.record? {α : Type} (reader : FieldReader α) (value : Value) : Option α :=
  let read (fields : Fields) : Option α :=
    match reader fields with
    | some (_, .listed (_ :: _)) => none
    | some (found, _) => some found
    | none => none
  match value with
  | table entries => read (.named entries)
  | moment _ => read (.named [])
  | list items => read (.listed items)
  | _ => none

end OffHours
