import ReleaseAnalysis.Config
import ReleaseAnalysis.Toml.Document

/-!
# Reading a configuration

A configuration document gives the release types and the rules; both may be left out, and other
entries do not count. The entries are read in the order of the document, and the first that has a
wrong shape is the one reported.

As values of rule fields, numbers that are not finite are null, and a moment is an object with one
member that holds its text.
-/

set_option autoImplicit false

namespace ReleaseAnalysis

namespace Toml

/-- The name of the member that holds a moment. -/
def momentName : String := "$__toml_private_datetime"

mutual

/-- The value of a document as the value of a rule field. -/
def Value.toJson : Value → Json
  | .text value => .ofString value
  | .integer value => .scalar (.number (.int value))
  | .float value => .scalar (.number (.float value))
  | .notFinite => .scalar .null
  | .flag value => .scalar (.bool value)
  | .moment found => .object [(momentName, .ofString found)]
  | .array _ items => .array (itemsToJson items)
  | .table _ entries => .object (entriesToJson entries)

/-- The values of an array as items. -/
def itemsToJson : List Value → List Json
  | [] => []
  | item :: rest => item.toJson :: itemsToJson rest

/-- The entries of a table as members. -/
def entriesToJson : List (String × Value) → List (String × Json)
  | [] => []
  | (name, value) :: rest => (name, value.toJson) :: entriesToJson rest

end

/-- The value of a document as a reserved member sees it. There is no null. -/
def Value.reserved : Value → ReservedValue
  | .text value => .text value
  | .flag value => .flag value
  | _ => .other

/-- An entry of a table as a member of a rule. -/
def memberOf (entry : String × Value) : RuleMember :=
  ⟨entry.1, entry.2.reserved, entry.2.toJson.normalize⟩

/-- The rule that a value gives. A moment gives a rule with one field. -/
def Value.rule : Value → Except DocumentFault Rule
  | .table _ entries => Rule.ofMembers (entries.map memberOf)
  | .moment found => Rule.ofMembers [memberOf (momentName, .text found)]
  | _ => .error .wrongShape

/-- The text of a value that is a string. -/
def Value.string : Value → Except DocumentFault String
  | .text value => .ok value
  | _ => .error .wrongShape

/-- Reads every item of an array. -/
def Value.each {α : Type} (read : Value → Except DocumentFault α) :
    Value → Except DocumentFault (List α)
  | .array _ items => items.mapM read
  | _ => .error .wrongShape

end Toml

namespace Config

/-- Reads one entry of a document. -/
def readEntry (config : Config) (entry : String × Toml.Value) : Except DocumentFault Config :=
  if entry.1 = "release_types" then
    (entry.2.each Toml.Value.string).map fun types => { config with releaseTypes := types }
  else if entry.1 = "release_rules" then
    (entry.2.each Toml.Value.rule).map fun rules => { config with rules := rules }
  else .ok config

/-- The configuration that the entries of a document give. -/
def ofEntries (entries : Toml.Entries) : Except DocumentFault Config :=
  entries.foldlM readEntry default

/-- The configuration that a text spells. -/
def ofText (text : String) : Except DocumentFault Config :=
  match Toml.read? text with
  | some entries => ofEntries entries
  | none => .error .malformed

end Config

end ReleaseAnalysis
