import ReleaseAnalysis.Json.Reader
import ReleaseAnalysis.Pattern

/-!
# Release rules

A rule names fields that a commit must have and the release type that follows. The names `release`
and `breaking` are reserved: written in a rule they give the release type and ask for a breaking
commit instead of a field. A rule without a release matches commits but triggers nothing.

Rules are read from the members of an object or table, in the order they are written, and the first
fault is the one reported. The display of a rule is the compact text of an object with the fields
and the two reserved members: `breaking` if it is set, and always `release`, with `false` for none.
-/

set_option autoImplicit false

namespace ReleaseAnalysis

/-- A release rule. -/
structure Rule where
  release : Option String
  breaking : Bool
  fields : Members

/-- What the reserved members can tell apart in a value. -/
inductive ReservedValue
  | null
  | flag (value : Bool)
  | text (value : String)
  | other

/-- A member of a rule as it is written. -/
structure RuleMember where
  name : String
  reserved : ReservedValue
  value : Json

/-- A document value as a reserved member sees it. -/
def Json.reserved : Json → ReservedValue
  | .scalar .null => .null
  | .scalar (.bool value) => .flag value
  | .scalar (.string value) => .text value
  | _ => .other

/-- A rule whose members have been read in part: the reserved ones, if they have been seen. -/
structure RuleDraft where
  release : Option (Option String)
  breaking : Option Bool
  fields : Members

namespace Rule

/-- The release that a string names: the empty string names none. -/
def releaseOfText (text : String) : Option String := if text = "" then none else some text

/-- The release that a value gives. -/
def releaseOf : ReservedValue → Except DocumentFault (Option String)
  | .null => .ok none
  | .flag false => .ok none
  | .flag true => .error .releaseTrue
  | .text value => .ok (releaseOfText value)
  | .other => .error .wrongShape

/-- The flag that a value gives. -/
def breakingOf : ReservedValue → Except DocumentFault Bool
  | .flag value => .ok value
  | _ => .error .wrongShape

/-- A rule with a release and nothing to match; the empty string stands for no release. -/
def ofRelease (release : Option String) : Rule := ⟨release.bind releaseOfText, false, []⟩

/-- The rule asking for a breaking commit as well. -/
def requireBreaking (rule : Rule) : Rule := { rule with breaking := true }

/-- The rule asking for a field as well, whatever its name; a field of that name is replaced. -/
def withField (rule : Rule) (name : String) (value : Json) : Rule :=
  { rule with fields := rule.fields.insert name value }

end Rule

namespace RuleDraft

/-- Nothing read yet. -/
def empty : RuleDraft := ⟨none, none, []⟩

/-- Reads one member. A reserved member may be given only once. -/
def read (draft : RuleDraft) (member : RuleMember) : Except DocumentFault RuleDraft :=
  if member.name = "release" then
    match draft.release with
    | some _ => .error .wrongShape
    | none =>
      (Rule.releaseOf member.reserved).map fun release => { draft with release := some release }
  else if member.name = "breaking" then
    match draft.breaking with
    | some _ => .error .wrongShape
    | none => (Rule.breakingOf member.reserved).map fun flag => { draft with breaking := some flag }
  else .ok { draft with fields := draft.fields.insert member.name member.value }

/-- Reads members one after the other. -/
def readAll (draft : RuleDraft) : List RuleMember → Except DocumentFault RuleDraft
  | [] => .ok draft
  | member :: rest =>
    match draft.read member with
    | .ok next => next.readAll rest
    | .error fault => .error fault

/-- The rule, a reserved member that was not seen taken for absent. -/
def toRule (draft : RuleDraft) : Rule :=
  ⟨draft.release.getD none, draft.breaking.getD false, draft.fields⟩

end RuleDraft

namespace Rule

/-- The rule that members spell, or their first fault. -/
def ofMembers (members : List RuleMember) : Except DocumentFault Rule :=
  (RuleDraft.empty.readAll members).map RuleDraft.toRule

/-- A written document member as a member of a rule. -/
def memberOfJson (member : String × Json) : RuleMember :=
  ⟨member.1, member.2.reserved, member.2.normalize⟩

/-- The rule that a text spells. A fault of a member comes before a fault in the text after it. -/
def ofText (text : String) : Except DocumentFault Rule :=
  let (members, complete) := Json.readMembers text
  match ofMembers (members.map memberOfJson) with
  | .error fault => .error fault
  | .ok rule => if complete then .ok rule else .error .malformed

/-- The rule as a value: its fields with the reserved members put in their places. -/
def toValue (rule : Rule) : Json :=
  let fields :=
    if rule.breaking then rule.fields.insert "breaking" (.scalar (.bool true)) else rule.fields
  .object (fields.insert "release" (.scalar (rule.release.elim (.bool false) .string)))

/-- The compact text of the rule. -/
def display (rule : Rule) : String := rule.toValue.compact

/-- The patterns of the fields, in the order of their names. -/
def patterns (rule : Rule) : Except AnalysisError (List (String × Pattern)) :=
  rule.fields.mapM fun (name, value) => (Pattern.compile name value).map (name, ·)

/-- The built-in rule of a commit type. -/
def ofType (release type : String) : Rule :=
  (ofRelease (some release)).withField "type" (.ofString type)

/-- The built-in rules. -/
def defaults : List Rule :=
  [ (ofRelease (some "major")).requireBreaking,
    (ofRelease (some "patch")).withField "revert" (.scalar (.bool true)),
    ofType "minor" "feat",
    ofType "patch" "fix",
    ofType "patch" "perf" ]

end Rule

end ReleaseAnalysis
