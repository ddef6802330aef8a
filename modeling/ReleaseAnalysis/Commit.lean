import ReleaseAnalysis.Error
import ReleaseAnalysis.Json.Printer

/-!
# Commits

A commit is an object of named fields. Typical names are `type`, `scope`, `subject`, `notes`, but
none is required. A commit whose `notes` are a non-empty array is a breaking one.
-/

set_option autoImplicit false

namespace ReleaseAnalysis

/-- A commit that was taken apart into named fields. -/
structure Commit where
  fields : Members

namespace Commit

/-- The commit of a value, which must be an object. -/
def ofValue : Json → Except AnalysisError Commit
  | .object members => .ok ⟨members⟩
  | value => .error (.configuration (.commitNotObject value.compact))

/-- The value of a field, if the commit has it. -/
def get? (commit : Commit) (name : String) : Option Json := commit.fields.get? name

/-- The notes of a commit; none if there is no such field or it is no array. -/
def notes (commit : Commit) : List Json := ((commit.get? "notes").bind Json.array?).getD []

/-- Whether the commit has a note. -/
def hasNotes (commit : Commit) : Bool := !commit.notes.isEmpty

/-- The commit as a value. -/
def toValue (commit : Commit) : Json := .object commit.fields

/-- A short label: the type and the subject as far as they are strings, the whole commit if
neither is. The header stands in for a subject only where there is no subject field at all. -/
def summary (commit : Commit) : String :=
  let kind := (commit.get? "type").bind Json.string?
  let subject := ((commit.get? "subject").or (commit.get? "header")).bind Json.string?
  match kind, subject with
  | some kind, some subject => kind ++ ": " ++ subject
  | none, some subject => subject
  | some kind, none => kind
  | none, none => commit.toValue.compact

end Commit

end ReleaseAnalysis
