import OffHours.Data.Value

/-!
# Documents of tables

A document is built from statements in order: headers, which open a table, and entries, which
go to the table that was opened last. How a table came to be decides what may be added to it:
a table has at most one header, only dotted keys extend a table that a dotted key made, and
values are never extended.
-/

namespace OffHours.Toml

/-- How a table came to be. -/
inductive Origin where
  /-- By a header of its own, or as the document. -/
  | header
  /-- On the way to a header. -/
  | passed
  /-- By a dotted key. -/
  | dotted
  deriving DecidableEq, Repr

/-- What stands under a name. -/
inductive Node where
  /-- A value, which cannot be extended. -/
  | value (content : Value)
  /-- A table. -/
  | table (origin : Origin) (entries : List (String × Node))
  /-- A list of tables with headers; the last one can be extended. -/
  | tables (done : List (List (String × Node))) (last : List (String × Node))

/-- The entries of a table under construction. -/
abbrev Entries := List (String × Node)

/-- The way to a table or an entry: names from the outside in. -/
abbrev Path := List String

/-- A statement of a document. -/
inductive Statement where
  /-- The header of a table. -/
  | table (path : Path)
  /-- The header of one more table of a list. -/
  | element (path : Path)
  /-- A value under a dotted key. -/
  | entry (path : Path) (content : Value)
  deriving Repr

namespace Entries

/-- The entries with a node under a name that is there already. -/
def replace (entries : Entries) (name : String) (node : Node) : Entries :=
  entries.map fun entry => if entry.1 = name then (name, node) else entry

/-- Change the entries that a path leads to, making the tables on the way that are missing.
`byKey` tells the way of a dotted key from that of a header. -/
def reach (byKey : Bool) (change : Origin → Entries → Option Entries) :
    Path → Origin → Entries → Option Entries
  | [], origin, entries => change origin entries
  | name :: rest, _, entries =>
    match entries.lookup name with
    | none => do
      let origin := if byKey then Origin.dotted else .passed
      return entries ++ [(name, .table origin (← reach byKey change rest origin []))]
    | some (.table origin inner) => do
      if byKey ∧ origin = .header then none
      else return replace entries name (.table origin (← reach byKey change rest origin inner))
    | some (.tables done last) => do
      return replace entries name (.tables done (← reach byKey change rest .header last))
    | some (.value _) => none

/-- Change what stands under the last name of a path. -/
def reachName (byKey : Bool) (change : String → Origin → Entries → Option Entries)
    (path : Path) (entries : Entries) : Option Entries := do
  let name ← path.getLast?
  reach byKey (change name) path.dropLast .header entries

/-- Put a value under a dotted key. The table of a dotted key of several names has to be one
that dotted keys made. -/
def put (path : Path) (content : Value) : Entries → Option Entries :=
  reachName true (fun name origin entries =>
    if path.length > 1 ∧ origin ≠ .dotted then none
    else
      match entries.lookup name with
      | none => some (entries ++ [(name, .value content)])
      | some _ => none) path

/-- Open the table of a header: a new one, or one that was only passed so far. -/
def openTable : Path → Entries → Option Entries :=
  reachName false fun name _ entries =>
    match entries.lookup name with
    | none => some (entries ++ [(name, .table .header [])])
    | some (.table .passed inner) => some (replace entries name (.table .header inner))
    | some _ => none

/-- Open one more table of a list of tables. -/
def openElement : Path → Entries → Option Entries :=
  reachName false fun name _ entries =>
    match entries.lookup name with
    | none => some (entries ++ [(name, .tables [] [])])
    | some (.tables done last) => some (replace entries name (.tables (done ++ [last]) []))
    | some _ => none

/-- The document that statements make of a document in which the table of a path is open. -/
def build : Path → List Statement → Entries → Option Entries
  | _, [], entries => some entries
  | _, .table path :: rest, entries => do build path rest (← openTable path entries)
  | _, .element path :: rest, entries => do build path rest (← openElement path entries)
  | current, .entry path content :: rest, entries => do
    build current rest (← reach false (fun _ inner => put path content inner) current .header entries)

end Entries

mutual

/-- The value of a finished node. -/
def Node.toValue : Node → Value
  | .value content => content
  | .table _ entries => .table (entryValues entries)
  | .tables done last => .list (tableValues done ++ [.table (entryValues last)])

/-- The values of finished entries. -/
def entryValues : List (String × Node) → List (String × Value)
  | [] => []
  | (name, node) :: rest => (name, node.toValue) :: entryValues rest

/-- The values of finished tables. -/
def tableValues : List (List (String × Node)) → List Value
  | [] => []
  | entries :: rest => .table (entryValues entries) :: tableValues rest

end

/-- The table that statements make. -/
def Statement.toTable? (statements : List Statement) : Option Value := do
  return .table (entryValues (← Entries.build [] statements []))

end OffHours.Toml
