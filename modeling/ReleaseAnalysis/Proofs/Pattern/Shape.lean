import Mathlib.Data.List.Forall2
import ReleaseAnalysis.Proofs.Pattern.Preorder

/-!
# The shape of a pattern

What a value compiles to has the shape of the value (`Json.Becomes`). An object becomes a pattern
with the same names in the same order, an array a pattern with as many items, a regular expression
the pattern with just its body, and every other scalar a literal of itself; literals are scalars,
so no array or object ever becomes one. A value compiles to the patterns that it becomes, at
whatever path it stands (`Pattern.compile_eq_ok_iff`).

So a value compiles exactly when the regular expressions in it do, at every place
(`Json.RegexesCompile`), and otherwise the error carries the path of the first place at fault. The
path is the one of the value followed by the text of each step down (`Json.Place.pathFrom_eq`).
-/

set_option autoImplicit false

namespace ReleaseAnalysis

namespace Json

/-- The path of a place is that of the value with the texts of the steps behind it. -/
theorem Place.pathFrom_eq (place : Place) (path : String) :
    place.pathFrom path = path ++ String.join (place.map Step.text) := by
  induction place generalizing path with
  | nil => exact String.append_empty.symm
  | cons step rest ih =>
    rw [pathFrom, ih, List.map_cons, String.join_cons, String.append_assoc]

/-- The regular expressions in a value compile, at whatever place they stand. -/
def RegexesCompile (value : Json) : Prop :=
  ∀ place text body, value.at? place = some (.ofString text) → Pattern.IsRegex text body →
    ∃ compiled, Regex.compile body = .ok compiled

/-- A value is nowhere at fault when its regular expressions compile. -/
theorem faultless_iff_regexesCompile {value : Json} : value.Faultless ↔ value.RegexesCompile := by
  constructor
  · intro faultless place text body stands regex
    refine exists_ok_iff.mpr fun fault failed => ?_
    exact faultless place _ ⟨text, body, fault, stands, regex, failed, rfl⟩
  · rintro compile place _ ⟨text, body, fault, stands, regex, failed, rfl⟩
    obtain ⟨compiled, done⟩ := compile place text body stands regex
    cases done.symm.trans failed

/-- What a value becomes, part by part. -/
inductive Becomes : Json → Pattern → Prop
  /-- A scalar that is no regular expression is compared as it is. -/
  | literal {found : Scalar} (free : found.SlashFree) : Becomes (.scalar found) (.literal found)
  | regex {text body : String} {compiled : Regex} (regex : Pattern.IsRegex text body)
    (compiles : Regex.compile body = .ok compiled) :
    Becomes (.ofString text) (.regex body compiled)
  | seq {items : List Json} {patterns : List Pattern} (sameLength : items.length = patterns.length)
    (each : ∀ pair ∈ items.zip patterns, Becomes pair.1 pair.2) :
    Becomes (.array items) (.seq patterns)
  | map {members : List (String × Json)} {entries : List (String × Pattern)}
    (sameNames : members.map Prod.fst = entries.map Prod.fst)
    (each : ∀ pair ∈ members.zip entries, Becomes pair.1.2 pair.2.2) :
    Becomes (.object members) (.map entries)

variable {items : List Json} {members : Members} {pattern : Pattern}

theorem becomes_scalar_iff {found : Scalar} :
    (scalar found).Becomes pattern ↔
      found.SlashFree ∧ pattern = .literal found ∨
        ∃ text body compiled, found = .string text ∧ Pattern.IsRegex text body ∧
          Regex.compile body = .ok compiled ∧ pattern = .regex body compiled := by
  constructor
  · rintro ⟨⟩
    case literal free => exact .inl ⟨free, rfl⟩
    case regex text body compiled regex compiles =>
      exact .inr ⟨text, body, compiled, rfl, regex, compiles, rfl⟩
  · rintro (⟨free, rfl⟩ | ⟨text, body, compiled, rfl, regex, compiles, rfl⟩)
    · exact .literal free
    · exact .regex regex compiles

theorem becomes_array_iff :
    (array items).Becomes pattern ↔
      ∃ patterns, List.Forall₂ Becomes items patterns ∧ .seq patterns = pattern := by
  constructor
  · rintro ⟨⟩
    case seq patterns sameLength each =>
      exact ⟨patterns, List.forall₂_iff_zip.mpr ⟨sameLength, each _⟩, rfl⟩
  · rintro ⟨patterns, all, rfl⟩
    obtain ⟨sameLength, each⟩ := List.forall₂_iff_zip.mp all
    exact .seq sameLength fun _ paired => each paired

/-- A member becomes an entry of its name. -/
def MemberBecomes (member : String × Json) (entry : String × Pattern) : Prop :=
  member.1 = entry.1 ∧ member.2.Becomes entry.2

theorem forall₂_memberBecomes_iff {entries : List (String × Pattern)} :
    List.Forall₂ MemberBecomes members entries ↔
      members.map Prod.fst = entries.map Prod.fst ∧
        ∀ pair ∈ members.zip entries, pair.1.2.Becomes pair.2.2 := by
  induction members generalizing entries with
  | nil => cases entries <;> simp
  | cons member rest ih =>
    cases entries with
    | nil => simp
    | cons entry others =>
      rw [List.forall₂_cons, ih, MemberBecomes, List.map_cons, List.map_cons, List.cons.injEq,
        List.zip_cons_cons, List.forall_mem_cons, and_and_and_comm]

theorem becomes_object_iff :
    (object members).Becomes pattern ↔
      ∃ entries, List.Forall₂ MemberBecomes members entries ∧ .map entries = pattern := by
  constructor
  · rintro ⟨⟩
    case map entries sameNames each =>
      exact ⟨entries, forall₂_memberBecomes_iff.mpr ⟨sameNames, each⟩, rfl⟩
  · rintro ⟨entries, all, rfl⟩
    obtain ⟨sameNames, each⟩ := forall₂_memberBecomes_iff.mp all
    exact .map sameNames each

end Json

namespace Pattern

variable {path : String} {value : Json} {pattern : Pattern}

/-- A text is one regular expression at most. -/
theorem IsRegex.body_eq {text body other : String} (regex : IsRegex text body)
    (again : IsRegex text other) : body = other :=
  Option.some.inj ((regexBody_eq_some_iff.mpr regex).symm.trans (regexBody_eq_some_iff.mpr again))

/-- A string that is a regular expression compiles when its body does. -/
theorem compileString_eq_ok_iff {text body : String} (regex : IsRegex text body) :
    compileString path text = .ok pattern ↔
      ∃ compiled, Regex.compile body = .ok compiled ∧ .regex body compiled = pattern := by
  simp only [compileString, regexBody_eq_some_iff.mpr regex]
  cases Regex.compile body with
  | ok compiled => simp
  | error fault => simp

theorem compileScalar_eq_ok_iff {found : Scalar} :
    compileScalar path found = .ok pattern ↔ (Json.scalar found).Becomes pattern := by
  rw [Json.becomes_scalar_iff]
  by_cases free : found.SlashFree
  · rw [compileScalar_of_slashFree free, Except.ok.injEq]
    constructor
    · rintro rfl
      exact .inl ⟨free, rfl⟩
    · rintro (⟨_, rfl⟩ | ⟨text, body, _, rfl, regex, _⟩)
      · rfl
      · exact absurd regex (free body)
  · cases found with
    | string text =>
      obtain ⟨body, regex⟩ : ∃ body, IsRegex text body := not_forall_not.mp free
      rw [compileScalar, compileString_eq_ok_iff regex]
      constructor
      · rintro ⟨compiled, compiles, rfl⟩
        exact .inr ⟨text, body, compiled, rfl, regex, compiles, rfl⟩
      · rintro (⟨sound, _⟩ | ⟨_, other, compiled, same, again, compiles, rfl⟩)
        · exact absurd sound free
        · cases same
          cases regex.body_eq again
          exact ⟨compiled, compiles, rfl⟩
    | null | bool _ | number _ => exact absurd trivial free

/-- Items whose values compile to what they become do so one after the other. -/
theorem compileItems_eq_ok_iff {items : List Json} {index : Nat} {patterns : List Pattern}
    (each : ∀ item ∈ items, ∀ {path pattern}, compile path item = .ok pattern ↔
      item.Becomes pattern) :
    compileItems path index items = .ok patterns ↔
      List.Forall₂ Json.Becomes items patterns := by
  induction items generalizing index patterns with
  | nil => simp [compileItems, eq_comm]
  | cons item rest ih =>
    obtain ⟨first, others⟩ := List.forall_mem_cons.mp each
    simp only [compileItems, bind_eq_ok_iff, first, ih others, List.forall₂_cons_left_iff]
    constructor
    · rintro ⟨pattern, given, patterns, done, same⟩
      cases same
      exact ⟨pattern, patterns, given, done, rfl⟩
    · rintro ⟨pattern, patterns, given, done, rfl⟩
      exact ⟨pattern, given, patterns, done, rfl⟩

/-- Members whose values compile to what they become do so one after the other. -/
theorem compileMembers_eq_ok_iff {members : Members} {entries : List (String × Pattern)}
    (each : ∀ member ∈ members, ∀ {path pattern}, compile path member.2 = .ok pattern ↔
      member.2.Becomes pattern) :
    compileMembers path members = .ok entries ↔
      List.Forall₂ Json.MemberBecomes members entries := by
  induction members generalizing entries with
  | nil => simp [compileMembers, eq_comm]
  | cons member rest ih =>
    obtain ⟨first, others⟩ := List.forall_mem_cons.mp each
    simp only [compileMembers, bind_eq_ok_iff, first, ih others, List.forall₂_cons_left_iff]
    constructor
    · rintro ⟨pattern, given, entries, done, same⟩
      cases same
      exact ⟨(member.1, pattern), entries, ⟨rfl, given⟩, done, rfl⟩
    · rintro ⟨⟨name, pattern⟩, entries, ⟨rfl, given⟩, done, rfl⟩
      exact ⟨pattern, given, entries, done, rfl⟩

/-- **A value compiles to what it becomes**, whatever its path. -/
theorem compile_eq_ok_iff : compile path value = .ok pattern ↔ value.Becomes pattern := by
  induction value generalizing path pattern with
  | scalar found => exact compileScalar_eq_ok_iff
  | array items ih =>
    rw [compile, map_eq_ok_iff, Json.becomes_array_iff]
    simp only [compileItems_eq_ok_iff fun item listed _ _ => ih item listed]
  | object members ih =>
    rw [compile, map_eq_ok_iff, Json.becomes_object_iff]
    simp only [compileMembers_eq_ok_iff fun member listed _ _ => ih member listed]

/-- **What compiling a value gives.** A value compiles exactly when all regular expressions in it
do. It then compiles to what it becomes, which has its shape. Otherwise the error is that of the
first place at fault, depth first, and names the path that leads there from the path of the
value. -/
theorem compile_verdict (normal : value.Normal) (path : String) :
    ((∃ pattern, compile path value = .ok pattern) ↔ value.RegexesCompile) ∧
      (∀ pattern, compile path value = .ok pattern ↔ value.Becomes pattern) ∧
      ∀ cause, compile path value = .error cause ↔
        ∃ place reason, value.FirstFaultAt place reason ∧
          cause = .pattern (path ++ String.join (place.map Json.Step.text)) reason := by
  refine ⟨?_, fun _ => compile_eq_ok_iff, fun cause => ?_⟩
  · rw [exists_compile_ok_iff normal, Json.faultless_iff_regexesCompile]
  · simp only [compile_eq_error_iff normal, Json.Place.pathFrom_eq]

/-- Notes of which the second has a title that does not compile; what follows does not either. -/
def unclosedNotes : Json :=
  .array
    [ .object [("text", .ofString "/gone/"), ("title", .ofString "/a\nb/")],
      .object [("text", .ofString "/"), ("title", .ofString "/(BREAKING/")],
      .ofString "/[/" ]

/-- A note with the empty regular expression, a slash and a number. -/
def slashedNote : Json :=
  .object
    [ ("level", .scalar (.number (.int 1))), ("text", .ofString "//"), ("title", .ofString "/") ]

/-- The error names the title. The other note becomes a pattern with a literal, a regular expression
and a literal. -/
theorem compile_verdict_unclosedNotes :
    unclosedNotes.Normal ∧
      compile "notes" unclosedNotes =
        .error (.pattern "notes[1].title" RegexFault.malformed.message) ∧
      (∃ place reason, unclosedNotes.FirstFaultAt place reason ∧
        AnalysisError.pattern "notes[1].title" RegexFault.malformed.message =
          .pattern ("notes" ++ String.join (place.map Json.Step.text)) reason) ∧
      slashedNote.Normal ∧ slashedNote.RegexesCompile ∧
      ∃ compiled, slashedNote.Becomes (.map
        [ ("level", .literal (.number (.int 1))), ("text", .regex "" compiled),
          ("title", .literal (.string "/")) ]) := by
  have normal : unclosedNotes.Normal ∧ slashedNote.Normal := by decide
  have failed : compile "notes" unclosedNotes =
      .error (.pattern "notes[1].title" RegexFault.malformed.message) := by
    have noResult : (compile "notes" unclosedNotes).map (fun _ => ()) =
        .error (.pattern "notes[1].title" RegexFault.malformed.message) := by decide +kernel
    exact map_eq_error_iff.mp noResult
  obtain ⟨compiled, done⟩ : ∃ compiled, compile "note" slashedNote = .ok (.map
      [ ("level", .literal (.number (.int 1))), ("text", .regex "" compiled),
        ("title", .literal (.string "/")) ]) := ⟨_, rfl⟩
  have verdict := compile_verdict normal.2 "note"
  exact ⟨normal.1, failed, ((compile_verdict normal.1 "notes").2.2 _).mp failed, normal.2,
    verdict.1.mp ⟨_, done⟩, compiled, (verdict.2.1 _).mp done⟩

end Pattern
end ReleaseAnalysis
