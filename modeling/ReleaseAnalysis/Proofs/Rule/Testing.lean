import ReleaseAnalysis.Config.Reader
import ReleaseAnalysis.Proofs.Pattern.Acceptance
import ReleaseAnalysis.Proofs.Rule.Reading

/-!
# The test of a rule against a commit

A rule is tested in three steps. A rule that asks for a breaking commit passes over a commit without
notes, whatever else it holds. Then all its fields are compiled, and a field at fault is an error
whatever the commit. Only then is the commit asked for the fields. Which of the results arises is
said without these steps in `Rule.matches_verdict`.

The fields of a rule that is read from a text or a configuration are in normal form
(`Rule.normal_of_ofText`, `Rule.normal_of_entry`), and so are those of a rule that is built from
normal values (`Rule.normal_ofRelease`, `Rule.Normal.withField`). The order in which places at fault
are met is then the order of the field names, and within a field depth first.
-/

set_option autoImplicit false

namespace ReleaseAnalysis

/-- The commit has a field, and the value that is asked for admits what it has. -/
def Commit.Meets (commit : Commit) (field : String × Json) : Prop :=
  ∃ found, commit.get? field.1 = some found ∧ field.2.Admits field.1 found

namespace Rule

variable {rule : Rule} {commit : Commit} {cause : AnalysisError}

/-! ## Rules in normal form -/

/-- The fields are in the order of their names, and their values are normal. -/
def Normal (rule : Rule) : Prop := (Json.object rule.fields).Normal

instance : DecidablePred Normal :=
  fun rule => inferInstanceAs (Decidable (Json.object rule.fields).Normal)

theorem normal_of_ofMembers {members : List RuleMember} (read : ofMembers members = .ok rule)
    (normal : ∀ member ∈ members, member.value.Normal) : rule.Normal := by
  refine .object (increasing_of_ofMembers read) ?_
  intro field listed
  obtain ⟨_, member, inside, rfl⟩ := exists_member_of_ofMembers read listed
  exact normal member inside

/-- The rule of a text is normal. -/
theorem normal_of_ofText {text : String} (read : ofText text = .ok rule) : rule.Normal := by
  obtain ⟨members, _, spelled⟩ := ofText_eq_ok_iff.mp read
  refine normal_of_ofMembers spelled ?_
  intro member inside
  obtain ⟨written, _, rfl⟩ := List.mem_map.mp inside
  exact Json.normal_normalize written.2

/-- The rule of an entry of a configuration is normal. -/
theorem normal_of_entry {entry : Toml.Value} (read : entry.rule = .ok rule) : rule.Normal := by
  cases entry with
  | table origin entries =>
    refine normal_of_ofMembers read ?_
    intro member inside
    obtain ⟨written, _, rfl⟩ := List.mem_map.mp inside
    exact Json.normal_normalize _
  | moment text =>
    refine normal_of_ofMembers read ?_
    intro member inside
    cases List.mem_singleton.mp inside
    exact Json.normal_normalize _
  | _ => cases read

theorem normal_ofRelease (release : Option String) : (ofRelease release).Normal :=
  .object Members.increasing_nil nofun

theorem Normal.requireBreaking (normal : rule.Normal) : rule.requireBreaking.Normal := normal

theorem Normal.withField {name : String} {value : Json} (normal : rule.Normal)
    (field : value.Normal) : (rule.withField name value).Normal := by
  obtain ⟨increasing, all⟩ := Json.normal_object_iff.mp normal
  refine .object (increasing.insert name value) ?_
  intro member listed
  rcases Members.eq_or_mem_of_mem_insert listed with rfl | before
  · exact field
  · exact all member before

/-! ## Fields that do not compile -/

/-- A field is at fault at a place in it. -/
def FaultyAt (rule : Rule) (name : String) (place : Json.Place) (reason : String) : Prop :=
  (Json.object rule.fields).FaultyAt (.member name :: place) reason

/-- The first field at fault, by name, and the first place in it that is at fault. -/
def FirstFaultAt (rule : Rule) (name : String) (place : Json.Place) (reason : String) : Prop :=
  (Json.object rule.fields).FirstFaultAt (.member name :: place) reason

/-- A place at fault among the fields is in a field. -/
theorem exists_faultyAt_of_fields {place : Json.Place} {reason : String}
    (faulty : (Json.object rule.fields).FaultyAt place reason) :
    ∃ name rest, place = .member name :: rest ∧ rule.FaultyAt name rest reason := by
  cases place with
  | nil => exact absurd faulty (Json.not_faultyAt_nil Json.isComposite_object)
  | cons step rest =>
    cases step with
    | item index =>
      obtain ⟨part, leads, _⟩ := Json.faultyAt_cons_iff.mp faulty
      cases leads
    | member name => exact ⟨name, rest, rfl, faulty⟩

theorem faultless_iff :
    (Json.object rule.fields).Faultless ↔
      ∀ name place reason, ¬ rule.FaultyAt name place reason := by
  constructor
  · exact fun faultless name place reason => faultless (.member name :: place) reason
  · intro sound place reason faulty
    obtain ⟨name, rest, _, faulty⟩ := exists_faultyAt_of_fields faulty
    exact sound name rest reason faulty

/-- The pattern of a field, under the name of the field. -/
def compileField (field : String × Json) : Except AnalysisError (String × Pattern) :=
  (Pattern.compile field.1 field.2).map (field.1, ·)

theorem patterns_eq_mapM : rule.patterns = rule.fields.mapM compileField := rfl

theorem compileField_eq_ok_iff {field : String × Json} {entry : String × Pattern} :
    compileField field = .ok entry ↔
      Pattern.compile field.1 field.2 = .ok entry.2 ∧ field.1 = entry.1 := by
  rw [compileField, map_eq_ok_iff]
  constructor
  · rintro ⟨pattern, compiled, rfl⟩
    exact ⟨compiled, rfl⟩
  · rintro ⟨compiled, same⟩
    exact ⟨entry.2, compiled, by rw [same]⟩

/-- A normal field compiles when it is nowhere at fault. -/
theorem exists_compileField_iff {field : String × Json} (normal : field.2.Normal) :
    (∃ entry, compileField field = .ok entry) ↔ field.2.Faultless := by
  have compiles : (∃ pattern, Pattern.compile field.1 field.2 = .ok pattern) ↔ field.2.Faultless :=
    Pattern.exists_compile_ok_iff normal
  simp only [← compiles, exists_ok_iff, compileField, ne_eq, map_eq_error_iff]

/-- The patterns of a rule compile when no field is at fault. -/
theorem exists_patterns_iff (normal : rule.Normal) :
    (∃ patterns, rule.patterns = .ok patterns) ↔ (Json.object rule.fields).Faultless := by
  rw [patterns_eq_mapM, exists_mapM_ok_iff, Json.faultless_iff normal Json.isComposite_object,
    Json.parts, List.forall_mem_map]
  refine forall₂_congr fun field listed => ?_
  exact exists_compileField_iff ((Json.normal_object_iff.mp normal).2 field listed)

/-- **The patterns of a rule fail at the first field at fault, and there at the first place.** -/
theorem patterns_eq_error_iff (normal : rule.Normal) :
    rule.patterns = .error cause ↔
      ∃ name place reason, rule.FirstFaultAt name place reason ∧
        cause = .pattern (place.pathFrom name) reason := by
  have normalField := (Json.normal_object_iff.mp normal).2
  rw [patterns_eq_mapM, mapM_eq_error_iff]
  simp only [FirstFaultAt, Json.firstFaultAt_cons_iff normal, Json.parts]
  constructor
  · rintro ⟨before, field, after, split, passed, failed⟩
    rw [split] at normalField
    obtain ⟨place, reason, first, rfl⟩ :=
      (Pattern.compile_eq_error_iff (normalField field (by simp))).mp (map_eq_error_iff.mp failed)
    refine ⟨field.1, place, reason, ⟨before.map Json.memberPart, field.2,
      after.map Json.memberPart, ?_, ?_, first⟩, rfl⟩
    · rw [split, List.map_append, List.map_cons, Json.memberPart]
    · refine List.forall_mem_map.mpr fun other earlier => ?_
      exact (exists_compileField_iff (normalField other (by simp [earlier]))).mp
        (passed other earlier)
  · rintro ⟨name, place, reason, ⟨steps, value, others, split, sound, first⟩, rfl⟩
    obtain ⟨before, rest, fields, rfl, mapped⟩ := List.map_eq_append_iff.mp split
    obtain ⟨field, after, rfl, same, rfl⟩ := List.map_eq_cons_iff.mp mapped
    cases same
    rw [fields] at normalField
    refine ⟨before, field, after, fields, ?_, ?_⟩
    · intro other earlier
      exact (exists_compileField_iff (normalField other (by simp [earlier]))).mpr
        (sound _ (List.mem_map_of_mem earlier))
    · exact map_eq_error_iff.mpr ((Pattern.compile_eq_error_iff (normalField field (by simp))).mpr
        ⟨place, reason, first, rfl⟩)

/-! ## The results of a test -/

/-- A rule that asks for a breaking commit is given one: its notes are an array with an item. -/
def Admits (rule : Rule) (commit : Commit) : Prop :=
  rule.breaking = true → ∃ note rest, commit.get? "notes" = some (.array (note :: rest))

theorem admits_iff : rule.Admits commit ↔ (rule.breaking && !commit.hasNotes) = false := by
  rw [Admits, ← Commit.hasNotes_iff]
  cases rule.breaking <;> cases commit.hasNotes <;> simp

/-- Beyond its guard a rule is compiled and then asked of the commit. -/
theorem matches_of_admits (admitted : rule.Admits commit) :
    rule.matches commit = rule.patterns.map commit.satisfies := by
  rw [«matches», admits_iff.mp admitted]
  rfl

theorem matches_of_not_admits (refused : ¬ rule.Admits commit) :
    rule.matches commit = .ok false := by
  rw [admits_iff, Bool.not_eq_false] at refused
  rw [«matches», refused]
  rfl

/-- A commit satisfies the patterns of a rule when it meets all its fields. -/
theorem satisfies_iff_meets {patterns : List (String × Pattern)}
    (compiled : rule.patterns = .ok patterns) :
    commit.satisfies patterns = true ↔ ∀ field ∈ rule.fields, commit.Meets field := by
  rw [Commit.satisfies_iff]
  constructor
  · intro all field listed
    obtain ⟨entry, given⟩ := exists_mapM_ok_iff.mp ⟨patterns, compiled⟩ field listed
    have inside : entry ∈ patterns := (mem_iff_of_mapM_ok compiled).mpr ⟨field, listed, given⟩
    obtain ⟨found, has, accepted⟩ := all entry inside
    obtain ⟨pattern, same⟩ := compileField_eq_ok_iff.mp given
    exact ⟨found, same ▸ has, entry.2, pattern, accepted⟩
  · intro all entry inside
    obtain ⟨field, listed, given⟩ := (mem_iff_of_mapM_ok compiled).mp inside
    obtain ⟨same, name⟩ := compileField_eq_ok_iff.mp given
    obtain ⟨found, has, pattern, again, accepted⟩ := all field listed
    cases same.symm.trans again
    exact ⟨found, name ▸ has, accepted⟩

/-- **The result of a test.** A rule whose guard refuses the commit does not match it, whatever else
it holds. Beyond the guard the test is an error exactly when some field is at fault at some place,
whatever the commit, and the error carries the path of the first such place. Without a fault the
rule matches exactly the commits that meet all its fields, and the test has a result. -/
theorem matches_verdict (normal : rule.Normal) :
    (¬ rule.Admits commit → rule.matches commit = .ok false) ∧
      (rule.Admits commit →
        (∀ cause, rule.matches commit = .error cause ↔
          ∃ name place reason, rule.FirstFaultAt name place reason ∧
            cause = .pattern (place.pathFrom name) reason) ∧
        ((∃ cause, rule.matches commit = .error cause) ↔
          ∃ name place reason, rule.FaultyAt name place reason) ∧
        ((∀ name place reason, ¬ rule.FaultyAt name place reason) →
          (rule.matches commit = .ok true ↔ ∀ field ∈ rule.fields, commit.Meets field) ∧
          (rule.matches commit = .ok false ↔ ¬ ∀ field ∈ rule.fields, commit.Meets field))) := by
  refine ⟨matches_of_not_admits, fun admitted => ?_⟩
  rw [matches_of_admits admitted]
  refine ⟨?_, ?_, ?_⟩
  · intro cause
    rw [map_eq_error_iff, patterns_eq_error_iff normal]
  · have sound := (exists_patterns_iff normal).symm.trans exists_ok_iff
    rw [faultless_iff] at sound
    simp only [map_eq_error_iff]
    constructor
    · rintro ⟨cause, failed⟩
      by_contra none
      simp only [not_exists] at none
      exact sound.mp none cause failed
    · rintro ⟨name, place, reason, faulty⟩
      by_contra none
      simp only [not_exists] at none
      exact sound.mpr none name place reason faulty
  · intro sound
    obtain ⟨patterns, compiled⟩ := (exists_patterns_iff normal).mpr (faultless_iff.mpr sound)
    rw [← satisfies_iff_meets compiled, compiled]
    simp [Except.map]

/-- A rule that asks for a breaking commit, with two fields at fault. -/
def unclosedRule : Rule :=
  ⟨some "major", true,
    [ ("notes", .array
        [.object [("text", .ofString "/gone/"), ("title", .ofString "/(BREAKING/")]]),
      ("type", .ofString "/[/") ]⟩

/-- A commit with a note and without a type. -/
def notedCommit : Commit := ⟨[("notes", .array [.ofString "Renamed"])]⟩

/-- The error names the title, which comes before the type, though the commit lacks the type and its
note has no title; a commit without notes is passed over. -/
theorem matches_verdict_unclosedRule :
    unclosedRule.Normal ∧
      unclosedRule.matches ⟨[]⟩ = .ok false ∧
      unclosedRule.matches notedCommit =
        .error (.pattern "notes[0].title" RegexFault.malformed.message) ∧
      ∃ name place reason, unclosedRule.FirstFaultAt name place reason ∧
        AnalysisError.pattern "notes[0].title" RegexFault.malformed.message =
          .pattern (place.pathFrom name) reason := by
  have normal : unclosedRule.Normal := by decide
  have failed : unclosedRule.matches notedCommit =
      .error (.pattern "notes[0].title" RegexFault.malformed.message) := by decide +kernel
  have refused : ¬ unclosedRule.Admits ⟨[]⟩ := by
    rw [admits_iff]
    decide
  have admitted : unclosedRule.Admits notedCommit := fun _ => ⟨_, _, rfl⟩
  exact ⟨normal, (matches_verdict normal).1 refused, failed,
    (((matches_verdict normal).2 admitted).1 _).mp failed⟩

end Rule
end ReleaseAnalysis
