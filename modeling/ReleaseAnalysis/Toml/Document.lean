import ReleaseAnalysis.Toml.Moment
import ReleaseAnalysis.Toml.Number

/-!
# Reading a configuration document

A document consists of sections: one without a header, and one for every header, which names a table
or adds a table to an array of tables. A section consists of lines with a key and a value. Arrays
may extend over several lines, tables between braces may not; neither may be nested too deep.
-/

set_option autoImplicit false

namespace ReleaseAnalysis

namespace Toml

open Reading

/-! ## Values -/

/-- Reads a value without parts. -/
def readScalar : Reading Value := do
  match ← readString? with
  | some text => return .text text
  | none =>
    if ← accept "true" then return .flag true
    else if ← accept "false" then return .flag false
    else (do return .moment (← readMoment)) <|> readNumber

/-- Reads the rest of an array, which has fewer items than a text has characters. -/
def readItems (readItem : Reading Value) : List Char → Reading (List Value)
  | [] => failure
  | _ :: room => do
    skipLines
    if ← accept "]" then return []
    else
      let item ← readItem
      skipLines
      if ← accept "," then return item :: (← readItems readItem room)
      else
        expect "]"
        return [item]

/-- What a key is set to: the parts of the key before the last dot, the last part, and the value. -/
structure Assignment where
  path : List String
  name : String
  value : Value

/-- A table with an assignment carried out. -/
def Entries.assign? (entries : Entries) (assignment : Assignment) : Option Entries :=
  entries.put? assignment.path assignment.name assignment.value

/-- Reads a key and its value. -/
def readAssignment (readItem : Reading Value) : Reading Assignment := do
  let (path, name) ← readKey
  expect "="
  skipBlanks
  return ⟨path, name, ← readItem⟩

/-- Reads the entries of a table between braces, at least one and fewer than a text has characters,
and adds them to others. -/
def readEntries (readItem : Reading Value) : List Char → Entries → Reading Entries
  | [], _ => failure
  | _ :: room, entries => do
    let entries ← liftM (entries.assign? (← readAssignment readItem))
    skipBlanks
    if ← accept "," then readEntries readItem room entries
    else
      expect "\x7d"
      return entries

/-- Reads the rest of a table between braces. -/
def readTable (readItem : Reading Value) : Reading Entries := do
  skipBlanks
  if ← accept "\x7d" then return []
  else readEntries readItem (← get) []

/-- Reads a value in which arrays and tables may be nested to a number of levels. -/
def readValue : Nat → Reading Value
  | 0 => readScalar
  | levels + 1 => do
    if ← accept "[" then
      return .array .value (← readItems (readValue levels) (← get))
    else if ← accept "\x7b" then return .table .value (← readTable (readValue levels))
    else readScalar

/-- The number of levels to which arrays and tables may be nested. -/
def nestingLimit : Nat := 79

/-! ## Sections -/

/-- A header: the name of a table, or of an array to which a table is added. -/
structure Header where
  path : List String
  name : String
  isItem : Bool

/-- A line that says something. -/
inductive Line
  | header (header : Header)
  | assignment (assignment : Assignment)

/-- Reads a header. -/
def readHeader : Reading Header := do
  let isItem ← accept "[["
  if !isItem then expect "["
  let (path, name) ← readKey
  expect (if isItem then "]]" else "]")
  return ⟨path, name, isItem⟩

/-- Reads the next line that says something. -/
def readLine : Reading (Option Line) := do
  let _ ← collect (do
    skipBlanks
    if (← peek?) = some '#' then
      endLine
      return some ()
    else return if ← acceptNewline then some () else none)
  match ← peek? with
  | none => return none
  | some '[' =>
    let header ← readHeader
    endLine
    return some (.header header)
  | some _ =>
    let assignment ← readAssignment (readValue nestingLimit)
    endLine
    return some (.assignment assignment)

/-- Reads all lines of a document. -/
def readLines : Reading (List Line) := do
  let _ ← accept "\ufeff"
  collect readLine

/-! ## Documents -/

/-- A section: its header, if it has one, and its assignments, the last one first. -/
structure Section where
  header : Option Header
  assignments : List Assignment

namespace Section

/-- A table with the assignments of a section carried out in their order. -/
def fill (part : Section) (entries : Entries) : Option Entries :=
  part.assignments.reverse.foldlM Entries.assign? entries

/-- A document with a section. -/
def addTo (part : Section) (document : Entries) : Option Entries :=
  match part.header with
  | none => part.fill document
  | some header =>
    if header.isItem then document.fillItem? header.path header.name part.fill
    else document.fillTable? header.path header.name part.fill

/-- The sections that lines form, going on with a section. -/
def listFrom (part : Section) : List Line → List Section
  | [] => [part]
  | .header header :: rest => part :: listFrom ⟨some header, []⟩ rest
  | .assignment assignment :: rest =>
    listFrom { part with assignments := assignment :: part.assignments } rest

end Section

/-- The table that a text spells. -/
def read? (text : String) : Option Entries := do
  let (lines, rest) ← readLines.run text.toList
  guard rest.isEmpty
  (Section.listFrom ⟨none, []⟩ lines).foldlM (fun document part => part.addTo document) []

end Toml

end ReleaseAnalysis
