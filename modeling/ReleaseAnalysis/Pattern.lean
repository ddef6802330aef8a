import ReleaseAnalysis.Error
import ReleaseAnalysis.Json.Printer
import ReleaseAnalysis.Regex

/-!
# Patterns

A pattern is made from the value of a rule field and tested against the value of a commit field.
Objects and arrays become patterns of the same shape. An object pattern asks for its members and
lets others be; an array pattern asks for its items in their places and lets more follow.

A string between slashes, with no line break inside, is a regular expression, which is searched
anywhere in the search text of a value. Every other scalar is compared: numbers by value, all else
for equality.
-/

set_option autoImplicit false

namespace ReleaseAnalysis

/-- A compiled rule field. -/
inductive Pattern
  | literal (expected : Scalar)
  | regex (body : String) (compiled : Regex)
  | map (entries : List (String × Pattern))
  | seq (items : List Pattern)

instance : Inhabited Pattern := ⟨.literal .null⟩

namespace Pattern

/-- The body of a string between slashes without line breaks. -/
def regexBody (text : String) : Option String :=
  match text.toList with
  | '/' :: rest =>
    match rest.reverse with
    | '/' :: body =>
      if body.contains '\n' || body.contains '\r' then none
      else some (String.ofList body.reverse)
    | _ => none
  | _ => none

/-- The pattern of a string; `path` names its place for an error. -/
def compileString (path text : String) : Except AnalysisError Pattern :=
  match regexBody text with
  | none => .ok (.literal (.string text))
  | some body =>
    match Regex.compile body with
    | .ok compiled => .ok (.regex body compiled)
    | .error fault => .error (.pattern path fault.message)

/-- The pattern of a scalar. -/
def compileScalar (path : String) : Scalar → Except AnalysisError Pattern
  | .string text => compileString path text
  | value => .ok (.literal value)

/-- The path of a member of the value at a path. -/
def memberPath (path name : String) : String := path ++ "." ++ name

/-- The path of an item of the value at a path. -/
def itemPath (path : String) (index : Nat) : String :=
  path ++ "[" ++ String.ofList (Nat.toDigits 10 index) ++ "]"

mutual

/-- The pattern of a value, or the first regular expression in it that does not compile. -/
def compile (path : String) : Json → Except AnalysisError Pattern
  | .scalar value => compileScalar path value
  | .array items => (compileItems path 0 items).map seq
  | .object members => (compileMembers path members).map map

/-- The patterns of items, the first of which has the given index. -/
def compileItems (path : String) (index : Nat) : List Json → Except AnalysisError (List Pattern)
  | [] => .ok []
  | item :: rest => do
    let pattern ← compile (itemPath path index) item
    let patterns ← compileItems path (index + 1) rest
    return pattern :: patterns

/-- The patterns of members, each with its name. -/
def compileMembers (path : String) :
    List (String × Json) → Except AnalysisError (List (String × Pattern))
  | [] => .ok []
  | (name, value) :: rest => do
    let pattern ← compile (memberPath path name) value
    let patterns ← compileMembers path rest
    return (name, pattern) :: patterns

end

/-- Whether a value is the expected scalar; numbers are compared by value. -/
def acceptsScalar (expected : Scalar) : Json → Bool
  | .scalar value =>
    match expected, value with
    | .number expected, .number value => expected.sameValue value
    | expected, value => expected == value
  | _ => false

mutual

/-- Whether a pattern accepts a value. -/
def accepts : Pattern → Json → Bool
  | .literal expected, value => acceptsScalar expected value
  | .regex _ compiled, value => compiled.isMatch value.searchText
  | .map entries, .object members => acceptsMembers entries members
  | .map _, _ => false
  | .seq items, .array values => acceptsItems items values
  | .seq _, _ => false

/-- Whether every entry's member is there and accepted. -/
def acceptsMembers : List (String × Pattern) → Members → Bool
  | [], _ => true
  | (name, pattern) :: rest, members =>
    (match members.get? name with
      | some value => accepts pattern value
      | none => false) && acceptsMembers rest members

/-- Whether the first values are accepted one by one. -/
def acceptsItems : List Pattern → List Json → Bool
  | [], _ => true
  | _ :: _, [] => false
  | pattern :: rest, value :: values => accepts pattern value && acceptsItems rest values

end

end Pattern

end ReleaseAnalysis
