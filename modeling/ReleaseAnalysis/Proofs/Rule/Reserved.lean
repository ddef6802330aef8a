import ReleaseAnalysis.Config.Reader
import ReleaseAnalysis.Proofs.Json.Places
import ReleaseAnalysis.Proofs.Pattern.Matching
import ReleaseAnalysis.Proofs.Rule.Reading

/-!
# Reserved names and matching

Whether a rule matches a commit depends on the notes of the commit and on the fields that the rule
names (`Rule.matches_congr`). A rule none of whose fields bears a reserved name therefore treats
commits alike that differ in their members `release` and `breaking` only (`Rule.IgnoresReserved`).

The condition is the right one: a rule that matches any commit at all ignores the reserved names
exactly when no field of it bears one (`Rule.ignoresReserved_iff`).

Rules that are read satisfy it, whether they come from a text or from a configuration, since the
reserved members are taken out of the fields. Rules that are built satisfy it as long as no field is
added under a reserved name (`Rule.Obtained.ignoresReserved`). Building does not prevent that, and a
rule with such a field does match the reserved name (`Rule.not_forall_ignoresReserved`).
-/

set_option autoImplicit false

namespace ReleaseAnalysis

/-! ## The fields that a rule looks at -/

namespace Commit

variable {commit other : Commit}

/-- Two commits have the same fields under the given names. -/
def AgreeOn (names : String → Prop) (commit other : Commit) : Prop :=
  ∀ name, names name → commit.get? name = other.get? name

theorem hasNotes_congr (notes : commit.get? "notes" = other.get? "notes") :
    commit.hasNotes = other.hasNotes := by
  rw [hasNotes, hasNotes, Commit.notes, Commit.notes, notes]

theorem satisfies_congr {patterns : List (String × Pattern)}
    (agree : ∀ entry ∈ patterns, commit.get? entry.1 = other.get? entry.1) :
    commit.satisfies patterns = other.satisfies patterns := by
  rw [Bool.eq_iff_iff, satisfies_iff, satisfies_iff]
  refine forall₂_congr fun entry member => ?_
  rw [agree entry member]

/-- The commit without its members of reserved names. -/
def withoutReserved (commit : Commit) : Commit :=
  ⟨commit.fields.filter (¬ Rule.IsReserved ·.1)⟩

theorem get?_withoutReserved_of_reserved {name : String} (reserved : Rule.IsReserved name) :
    commit.withoutReserved.get? name = none :=
  Members.get?_filter_of_not (¬ Rule.IsReserved ·) (not_not_intro reserved)

/-- The other fields stay. -/
theorem agreeOn_withoutReserved (commit : Commit) :
    commit.AgreeOn (¬ Rule.IsReserved ·) commit.withoutReserved :=
  fun _ plain => (Members.get?_filter_of (¬ Rule.IsReserved ·) plain).symm

end Commit

namespace Rule

variable {rule : Rule} {commit other : Commit}

/-- There is one pattern for each field, under the name of the field. -/
theorem names_of_patterns {patterns : List (String × Pattern)}
    (compiled : rule.patterns = .ok patterns) :
    patterns.map Prod.fst = rule.fields.map Prod.fst := by
  unfold Rule.patterns at compiled
  generalize rule.fields = fields at compiled ⊢
  induction fields generalizing patterns with
  | nil =>
    cases compiled
    rfl
  | cons field rest ih =>
    rw [List.mapM_cons] at compiled
    obtain ⟨first, firstCompiled, compiled⟩ := bind_eq_ok_iff.mp compiled
    obtain ⟨others, othersCompiled, compiled⟩ := bind_eq_ok_iff.mp compiled
    cases compiled
    obtain ⟨name, value⟩ := field
    obtain ⟨_, _, rfl⟩ := map_eq_ok_iff.mp firstCompiled
    rw [List.map_cons, List.map_cons, ih othersCompiled]

/-- **A rule looks at the notes and at the fields that it names.** -/
theorem matches_congr (notes : commit.get? "notes" = other.get? "notes")
    (agree : ∀ field ∈ rule.fields, commit.get? field.1 = other.get? field.1) :
    rule.matches commit = rule.matches other := by
  unfold «matches»
  rw [Commit.hasNotes_congr notes]
  cases compiled : rule.patterns with
  | error cause => rfl
  | ok patterns =>
    have named : ∀ entry ∈ patterns, commit.get? entry.1 = other.get? entry.1 := by
      intro entry member
      have listed : entry.1 ∈ rule.fields.map Prod.fst :=
        names_of_patterns compiled ▸ List.mem_map_of_mem member
      obtain ⟨field, found, same⟩ := List.mem_map.mp listed
      exact same ▸ agree field found
    simp only [Except.map, Commit.satisfies_congr named]

/-- A commit that is matched has every field that the rule names. -/
theorem exists_value_of_matches (hit : rule.matches commit = .ok true) {field : String × Json}
    (listed : field ∈ rule.fields) : ∃ value, commit.get? field.1 = some value := by
  obtain ⟨_, patterns, compiled, satisfied⟩ := matches_eq_true_iff.mp hit
  have named : field.1 ∈ patterns.map Prod.fst :=
    names_of_patterns compiled ▸ List.mem_map_of_mem listed
  obtain ⟨entry, member, same⟩ := List.mem_map.mp named
  obtain ⟨value, found, _⟩ := Commit.satisfies_iff.mp satisfied entry member
  exact ⟨value, same ▸ found⟩

/-! ## Rules that ignore the reserved names -/

/-- The rule gives the same result on commits that agree on all fields but the reserved ones. -/
def IgnoresReserved (rule : Rule) : Prop :=
  ∀ commit other : Commit, commit.AgreeOn (¬ IsReserved ·) other →
    rule.matches commit = rule.matches other

/-- Fields of other names leave the reserved names alone. -/
theorem ignoresReserved_of_unreserved (unreserved : ∀ field ∈ rule.fields, ¬ IsReserved field.1) :
    rule.IgnoresReserved := by
  intro commit other agree
  refine matches_congr (agree "notes" (by decide)) ?_
  intro field listed
  exact agree field.1 (unreserved field listed)

/-- **A rule that matches some commit ignores the reserved names exactly when no field of it bears
one.** -/
theorem ignoresReserved_iff (hit : rule.matches commit = .ok true) :
    rule.IgnoresReserved ↔ ∀ field ∈ rule.fields, ¬ IsReserved field.1 := by
  refine ⟨?_, ignoresReserved_of_unreserved⟩
  intro ignores field listed reserved
  have again := ignores commit commit.withoutReserved commit.agreeOn_withoutReserved
  obtain ⟨value, found⟩ := exists_value_of_matches (again ▸ hit) listed
  rw [Commit.get?_withoutReserved_of_reserved reserved] at found
  cases found

/-! ## Rules that are read or built -/

/-- The rules that can be had when fields are added under the given names only: those that members
spell, new ones, and those made from either by asking for a breaking commit and adding fields. -/
inductive Obtained (names : String → Prop) : Rule → Prop
  | read {members : List RuleMember} {rule : Rule} (spelled : ofMembers members = .ok rule) :
    Obtained names rule
  | new (release : Option String) : Obtained names (ofRelease release)
  | requireBreaking {rule : Rule} (obtained : Obtained names rule) :
    Obtained names rule.requireBreaking
  | withField {rule : Rule} {name : String} (value : Json) (obtained : Obtained names rule)
    (named : names name) : Obtained names (rule.withField name value)

namespace Obtained

variable {names : String → Prop}

/-- The rule of a text. -/
theorem of_ofText {text : String} (read : ofText text = .ok rule) : rule.Obtained names := by
  obtain ⟨members, _, spelled⟩ := ofText_eq_ok_iff.mp read
  exact .read spelled

/-- The rule of an entry of a configuration. -/
theorem of_entry {entry : Toml.Value} (read : entry.rule = .ok rule) : rule.Obtained names := by
  cases entry with
  | table origin entries => exact .read read
  | moment text => exact .read read
  | _ => cases read

/-- No field of a rule bears a reserved name if none was added under one. -/
theorem unreserved (obtained : rule.Obtained (¬ IsReserved ·)) :
    ∀ field ∈ rule.fields, ¬ IsReserved field.1 := by
  induction obtained with
  | read spelled => exact fun field found => (exists_member_of_ofMembers spelled found).1
  | new release => exact nofun
  | requireBreaking _ ih => exact ih
  | withField value _ plain ih =>
    intro field found
    rcases Members.eq_or_mem_of_mem_insert found with rfl | before
    · exact plain
    · exact ih field before

/-- **Rules that are read, and rules that are built without fields of reserved names, ignore the
reserved names of a commit.** -/
theorem ignoresReserved (obtained : rule.Obtained (¬ IsReserved ·)) : rule.IgnoresReserved :=
  ignoresReserved_of_unreserved obtained.unreserved

end Obtained

/-- An entry of a configuration: breaking changes of the documentation trigger a patch. -/
def docsEntry : Toml.Value :=
  .table .header [("release", .text "patch"), ("type", .text "docs"), ("breaking", .flag true)]

/-- The rule of the entry, to which a scope is added. -/
def scopedDocs : Rule :=
  Rule.withField ⟨some "patch", true, [("type", .ofString "docs")]⟩ "scope" (.ofString "api")

/-- A commit that the rule matches, with members of reserved names. -/
def releasedDocs : Commit :=
  ⟨[ ("breaking", .scalar (.bool false)), ("notes", .array [.ofString "Renamed"]),
    ("release", .ofString "major"), ("scope", .ofString "api"), ("type", .ofString "docs") ]⟩

/-- The rule matches the commit whether or not it has these members. -/
theorem ignoresReserved_scopedDocs :
    scopedDocs.Obtained (¬ IsReserved ·) ∧ scopedDocs.matches releasedDocs = .ok true ∧
      scopedDocs.matches releasedDocs.withoutReserved = .ok true := by
  have entry : docsEntry.rule = .ok ⟨some "patch", true, [("type", .ofString "docs")]⟩ := rfl
  have obtained : scopedDocs.Obtained (¬ IsReserved ·) :=
    .withField _ (.of_entry entry) (by decide)
  have matched : scopedDocs.matches releasedDocs = .ok true := rfl
  have same := obtained.ignoresReserved _ _ releasedDocs.agreeOn_withoutReserved
  exact ⟨obtained, matched, same ▸ matched⟩

/-- A rule with a field under a reserved name. -/
def shadowedRelease : Rule :=
  ((ofRelease (some "minor")).withField "type" (.ofString "feat")).withField "release"
    (.ofString "minor")

/-- A feature with a member of a reserved name. -/
def releasedFeature : Commit := ⟨[("release", .ofString "minor"), ("type", .ofString "feat")]⟩

/-- Not all rules that can be built ignore the reserved names: the field that was added under one
has to be there. -/
theorem not_forall_ignoresReserved :
    ¬ ∀ rule : Rule, rule.Obtained (fun _ => True) → rule.IgnoresReserved := by
  intro all
  have obtained : shadowedRelease.Obtained fun _ => True :=
    .withField _ (.withField _ (.new _) trivial) trivial
  have matched : shadowedRelease.matches releasedFeature = .ok true := rfl
  have unmatched : shadowedRelease.matches releasedFeature.withoutReserved = .ok false := rfl
  have same := all _ obtained _ _ releasedFeature.agreeOn_withoutReserved
  rw [matched, unmatched] at same
  cases same

end Rule
end ReleaseAnalysis
