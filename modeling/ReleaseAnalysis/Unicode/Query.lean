import ReleaseAnalysis.Unicode.Age
import ReleaseAnalysis.Unicode.Boundary

/-!
# Asking for characters by name

A class of characters is asked for by one name, that of a property, a general category or a script,
or by the name and a value of a property. Names are compared without regard to case, blanks, dashes
and underscores, and an initial `is` does not count.
-/

set_option autoImplicit false

namespace ReleaseAnalysis

namespace Unicode

/-- What a class of characters is asked for by. -/
inductive Query
  | named (name : String)
  | valued (property value : String)
deriving DecidableEq, Repr

/-- Leaves out an initial `is`. -/
def dropIs : List Char → List Char
  | first :: second :: rest =>
    if (first = 'i' ∨ first = 'I') ∧ (second = 's' ∨ second = 'S') then rest
    else first :: second :: rest
  | short => short

/-- A name in the form in which names are compared. The name `isc` keeps its beginning, since
without it another name would be left. -/
def normalizeName (name : String) : String :=
  let kept := (dropIs name.toList).filter fun c =>
    c.toNat < 0x80 && !(c == ' ' || c == '_' || c == '-')
  let normal := String.ofList (kept.map Char.toLower)
  if normal = "c" ∧ dropIs name.toList ≠ name.toList then "isc" else normal

/-- The characters that a single name stands for. Three names of categories are also names of
properties that cannot be asked for. -/
def named? (name : String) : Option CharSet :=
  let asProperty :=
    if name = "cf" ∨ name = "sc" ∨ name = "lc" then none else property? name
  (asProperty.or (generalCategory? name)).or (script? name)

/-- The characters with a value of a property. -/
def valued? (property value : String) : Option CharSet :=
  match property with
  | "gc" => generalCategory? value
  | "generalcategory" => generalCategory? value
  | "sc" => script? value
  | "script" => script? value
  | "scx" => scriptExtensions? value
  | "scriptextensions" => scriptExtensions? value
  | "age" => age? value
  | "gcb" => graphemeClusterBreak? value
  | "graphemeclusterbreak" => graphemeClusterBreak? value
  | "wb" => wordBreak? value
  | "wordbreak" => wordBreak? value
  | "sb" => sentenceBreak? value
  | "sentencebreak" => sentenceBreak? value
  | _ => none

/-- The characters asked for, if there is such a class. -/
def Query.set? : Query → Option CharSet
  | .named name => named? (normalizeName name)
  | .valued property value => valued? (normalizeName property) (normalizeName value)

end Unicode

end ReleaseAnalysis
