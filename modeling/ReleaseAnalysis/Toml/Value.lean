import ReleaseAnalysis.Number.Basic

/-!
# Values and tables of a configuration document

A document is a table whose parts may be written in several places: under headers, and by keys with
dots. Which tables may still be added to depends on how they came about, so that is kept with each
table (`Origin`). A table under a header may be entered by later headers; a table made by keys with
dots may be added to by more such keys; a table that only lies on the way of a header may still get
a header of its own; a table or an array written as a value is complete.

The entries of a table stand in the order in which they were made. A table that gets its header late
moves to the end.
-/

set_option autoImplicit false

namespace ReleaseAnalysis

namespace Toml

/-- How a table or an array came about. -/
inductive Origin
  | value
  | header
  | onTheWay
  | dotted
deriving DecidableEq, Repr

/-- A value of a document. A moment is a date, a time or both, given by its normal text. -/
inductive Value
  | text (value : String)
  | integer (value : Int)
  | float (value : Binary64)
  | notFinite
  | flag (value : Bool)
  | moment (text : String)
  | array (origin : Origin) (items : List Value)
  | table (origin : Origin) (entries : List (String × Value))

instance : Inhabited Value := ⟨.notFinite⟩

/-- The entries of a table. -/
abbrev Entries := List (String × Value)

namespace Entries

/-- Adds an entry whose name is new. -/
def add? (entries : Entries) (name : String) (value : Value) : Option Entries :=
  if (entries.lookup name).isSome then none else some (entries ++ [(name, value)])

/-- Replaces the value of an entry. -/
def replace (entries : Entries) (name : String) (value : Value) : Entries :=
  entries.map fun entry => if entry.1 = name then (name, value) else entry

/-- Leaves out an entry. -/
def remove (entries : Entries) (name : String) : Entries :=
  entries.filter fun entry => entry.1 ≠ name

/-- Changes the table that a path leads to. Tables that are missing are made; an array of tables
leads to its last table. What a path may enter depends on the origin of a table. -/
def within (made : Origin) (mayEnter : Origin → Bool) (change : Origin → Entries → Option Entries)
    (origin : Origin) (entries : Entries) : List String → Option Entries
  | [] => change origin entries
  | name :: path =>
    match entries.lookup name with
    | none => do
      let inner ← within made mayEnter change made [] path
      return entries ++ [(name, .table made inner)]
    | some (.table origin inner) => do
      guard (mayEnter origin)
      let inner ← within made mayEnter change origin inner path
      return entries.replace name (.table origin inner)
    | some (.array .header items) =>
      match items.getLast? with
      | some (.table origin inner) => do
        let inner ← within made mayEnter change origin inner path
        return entries.replace name (.array .header (items.dropLast ++ [.table origin inner]))
      | _ => none
    | some _ => none

/-- Whether a key with dots may lead into a table. -/
def dottedMayEnter (origin : Origin) : Bool := origin = .dotted || origin = .onTheWay

/-- Adds the value of a key with any number of dots. A table that a path leads to takes the value
only if such a key made it. -/
def put? (entries : Entries) (path : List String) (name : String) (value : Value) :
    Option Entries :=
  within .dotted dottedMayEnter (fun origin entries =>
    if path.isEmpty || origin = .dotted then entries.add? name value else none) .header entries path

/-- Whether a header may lead into a table. -/
def headerMayEnter (origin : Origin) : Bool := origin ≠ .value

/-- Fills the table under a header. -/
def fillTable? (entries : Entries) (path : List String) (name : String)
    (fill : Entries → Option Entries) : Option Entries :=
  within .onTheWay headerMayEnter (fun _ entries =>
    match entries.lookup name with
    | none => do return entries ++ [(name, .table .header (← fill []))]
    | some (.table .onTheWay inner) => do
      return entries.remove name ++ [(name, .table .header (← fill inner))]
    | some _ => none) .header entries path

/-- Adds a table to the array of tables under a header. -/
def fillItem? (entries : Entries) (path : List String) (name : String)
    (fill : Entries → Option Entries) : Option Entries :=
  within .onTheWay headerMayEnter (fun _ entries =>
    match entries.lookup name with
    | none => do return entries ++ [(name, .array .header [.table .header (← fill [])])]
    | some (.array .header items) => do
      return entries.replace name (.array .header (items ++ [.table .header (← fill [])]))
    | some _ => none) .header entries path

end Entries

end Toml

end ReleaseAnalysis
