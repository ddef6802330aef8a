import ReleaseAnalysis.Proofs.Pattern.Compilation

/-!
# When a rule matches a commit

A rule matches a commit when it does not ask for notes that are not there, its patterns compile and
the commit satisfies them (`Rule.matches_eq_true_iff`). A commit satisfies patterns when each of
them accepts the value of its field, and a field that the commit does not have is accepted by none
(`Commit.satisfies_iff`).

Both conditions ask for fields and never for their absence. A commit that has all fields of another
with the same values, and perhaps more (`Commit.Extends`), is therefore matched by every rule that
matches the other (`Commit.Extends.matches_eq_true`).
-/

set_option autoImplicit false

namespace ReleaseAnalysis

/-- Members are accepted when every entry finds its member and accepts the value. -/
theorem Pattern.acceptsMembers_iff {entries : List (String × Pattern)} {members : Members} :
    Pattern.acceptsMembers entries members = true ↔
      ∀ entry ∈ entries, ∃ value,
        members.get? entry.1 = some value ∧ Pattern.accepts entry.2 value = true := by
  induction entries with
  | nil => simp [Pattern.acceptsMembers]
  | cons entry rest ih =>
    obtain ⟨name, pattern⟩ := entry
    rw [Pattern.acceptsMembers, Bool.and_eq_true, ih, List.forall_mem_cons]
    refine and_congr_left fun _ => ?_
    cases members.get? name with
    | none => simp
    | some value => simp

namespace Commit

variable {commit larger : Commit}

/-- A commit satisfies patterns when it has their fields with accepted values. -/
theorem satisfies_iff {patterns : List (String × Pattern)} :
    commit.satisfies patterns = true ↔
      ∀ entry ∈ patterns, ∃ value,
        commit.get? entry.1 = some value ∧ Pattern.accepts entry.2 value = true :=
  Pattern.acceptsMembers_iff

/-- A commit has a note when its notes are an array that is not empty. -/
theorem hasNotes_iff :
    commit.hasNotes = true ↔ ∃ note rest, commit.get? "notes" = some (.array (note :: rest)) := by
  unfold hasNotes notes
  cases commit.get? "notes" with
  | none => simp
  | some value =>
    cases value with
    | scalar value => simp [Json.array?]
    | object members => simp [Json.array?]
    | array items =>
      cases items with
      | nil => simp [Json.array?]
      | cons note rest => simp [Json.array?]

end Commit

namespace Rule

variable {rule : Rule} {commit : Commit}

/-- A rule matches a commit that has the notes and satisfies the patterns that it asks for. -/
theorem matches_eq_true_iff :
    rule.matches commit = .ok true ↔
      (rule.breaking = true → commit.hasNotes = true) ∧
        ∃ patterns, rule.patterns = .ok patterns ∧ commit.satisfies patterns = true := by
  unfold «matches»
  by_cases guarded : rule.breaking = true ∧ commit.hasNotes = false
  · simp [guarded]
  · have passed : (rule.breaking && !commit.hasNotes) = false := by simpa using guarded
    have noted : rule.breaking = true → commit.hasNotes = true := by simpa using guarded
    rw [passed]
    cases rule.patterns with
    | error cause => simp [Except.map]
    | ok patterns =>
      simp only [Bool.false_eq_true, ↓reduceIte, Except.map, Except.ok.injEq, exists_eq_left']
      exact ⟨fun satisfied => ⟨noted, satisfied⟩, And.right⟩

end Rule

/-! ## Commits with more fields -/

namespace Commit

variable {commit larger : Commit} {rule : Rule}

/-- A commit has all the fields of another with the same values, and perhaps more. -/
def Extends (larger commit : Commit) : Prop :=
  ∀ name value, commit.get? name = some value → larger.get? name = some value

namespace Extends

theorem hasNotes (extended : larger.Extends commit) (noted : commit.hasNotes = true) :
    larger.hasNotes = true := by
  obtain ⟨note, rest, found⟩ := hasNotes_iff.mp noted
  exact hasNotes_iff.mpr ⟨note, rest, extended _ _ found⟩

theorem satisfies {patterns : List (String × Pattern)} (extended : larger.Extends commit)
    (satisfied : commit.satisfies patterns = true) : larger.satisfies patterns = true := by
  rw [satisfies_iff] at satisfied ⊢
  intro entry member
  obtain ⟨value, found, accepted⟩ := satisfied entry member
  exact ⟨value, extended _ _ found, accepted⟩

/-- A rule that matches a commit matches every commit with more fields. -/
theorem matches_eq_true (extended : larger.Extends commit)
    (hit : rule.matches commit = .ok true) : rule.matches larger = .ok true := by
  obtain ⟨guard, patterns, compiled, satisfied⟩ := Rule.matches_eq_true_iff.mp hit
  refine Rule.matches_eq_true_iff.mpr ⟨?_, patterns, compiled, extended.satisfies satisfied⟩
  intro breaking
  exact extended.hasNotes (guard breaking)

end Extends

end Commit

end ReleaseAnalysis
