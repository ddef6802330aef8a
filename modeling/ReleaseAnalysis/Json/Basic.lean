import ReleaseAnalysis.Number.Basic

/-!
# Document values

Commits and rules are made of scalars, arrays and objects. An object is a list of named members.
A reader delivers the members as they are written; `normalize` puts every object of a value into
its normal form, in which the names are strictly increasing (by code point) and a name that was
written several times has the value written last. All values that the analysis works with are
normal.
-/

set_option autoImplicit false

namespace ReleaseAnalysis

/-- A value without parts. -/
inductive Scalar
  | null
  | bool (value : Bool)
  | number (value : Number)
  | string (value : String)
deriving DecidableEq

/-- A document value. -/
inductive Json
  | scalar (value : Scalar)
  | array (items : List Json)
  | object (members : List (String × Json))

/-- Members in the order of their names, each name once. -/
abbrev Members := List (String × Json)

instance : Inhabited Json := ⟨.scalar .null⟩

/-- Sets a member, in its place by name; a member of that name is replaced. -/
def Members.insert (members : Members) (name : String) (value : Json) : Members :=
  match members with
  | [] => [(name, value)]
  | (other, old) :: rest =>
    if name < other then (name, value) :: (other, old) :: rest
    else if name = other then (name, value) :: rest
    else (other, old) :: Members.insert rest name value

/-- Members put in order one after the other: the last of a name wins. -/
def Members.ofList (members : List (String × Json)) : Members :=
  members.foldl (fun sorted member => sorted.insert member.1 member.2) []

/-- The value of a member, if there is one of that name. -/
def Members.get? (members : Members) (name : String) : Option Json := members.lookup name

namespace Json

/-- The text value of a string. -/
def ofString (text : String) : Json := .scalar (.string text)

/-- The text of a value that is a string. -/
def string? : Json → Option String
  | .scalar (.string text) => some text
  | _ => none

/-- The items of a value that is an array. -/
def array? : Json → Option (List Json)
  | .array items => some items
  | _ => none

mutual

/-- The value with all its objects in normal form. -/
def normalize : Json → Json
  | .scalar value => .scalar value
  | .array items => .array (normalizeItems items)
  | .object members => .object (Members.ofList (normalizeMembers members))

/-- Every item in normal form. -/
def normalizeItems : List Json → List Json
  | [] => []
  | item :: rest => normalize item :: normalizeItems rest

/-- Every member's value in normal form, the members in the order given. -/
def normalizeMembers : List (String × Json) → List (String × Json)
  | [] => []
  | (name, value) :: rest => (name, normalize value) :: normalizeMembers rest

end

end Json

end ReleaseAnalysis
