import ReleaseAnalysis.Proofs.Json.Delivery
import ReleaseAnalysis.Proofs.Json.RoundTrip
import ReleaseAnalysis.Workflow

/-!
# Commits as a text

A text spells commits when it spells an array of the values of the commits
(`Workflow.parseCommits_eq_ok_iff`). Commits without floating-point numbers are read from the
compact text of that array, whatever whole numbers, strings and nested values they hold
(`Workflow.parseCommits_compact`).

What is asked of the commits is no more than what reading delivers: the lists of commits without
floating-point numbers that some text spells are exactly the lists of commits that can be written
(`Workflow.exists_parseCommits_iff`).
-/

set_option autoImplicit false

namespace ReleaseAnalysis

/-- A commit that can be written in a list: its members are in order at every place, its scalars are
exact, and it leaves one level of nesting to the list. -/
structure Commit.Writable (commit : Commit) : Prop where
  normal : commit.toValue.Normal
  whole : commit.toValue.Each Scalar.IsExact
  shallow : commit.toValue.depth < Json.nestingLimit

instance (commit : Commit) : Decidable commit.Writable :=
  decidable_of_iff (commit.toValue.Normal ∧ commit.toValue.Each Scalar.IsExact ∧
      commit.toValue.depth < Json.nestingLimit)
    ⟨fun all => ⟨all.1, all.2.1, all.2.2⟩, fun writable =>
      ⟨writable.normal, writable.whole, writable.shallow⟩⟩

namespace Workflow

variable {commits : List Commit} {text : String}

theorem commitOf?_eq_some_iff {item : Json} {commit : Commit} :
    commitOf? item = some commit ↔ item = commit.toValue := by
  cases item with
  | scalar value => simp [commitOf?, Commit.toValue]
  | array items => simp [commitOf?, Commit.toValue]
  | object members =>
    rw [commitOf?, Commit.toValue, Option.some.injEq, Json.object.injEq]
    exact ⟨congrArg Commit.fields, congrArg Commit.mk⟩

/-- The values that have commits are the values of these commits. -/
theorem mapM_commitOf?_eq_some_iff {items : List Json} :
    items.mapM commitOf? = some commits ↔ items = commits.map Commit.toValue := by
  induction items generalizing commits with
  | nil =>
    cases commits with
    | nil => simp
    | cons commit rest => simp
  | cons item others ih =>
    rw [List.mapM_cons]
    constructor
    · intro found
      obtain ⟨commit, first, found⟩ := Option.bind_eq_some_iff.mp found
      obtain ⟨rest, later, same⟩ := Option.bind_eq_some_iff.mp found
      cases same
      rw [commitOf?_eq_some_iff.mp first, ih.mp later, List.map_cons]
    · intro same
      cases commits with
      | nil => cases same
      | cons commit rest =>
        obtain ⟨first, later⟩ := List.cons.inj same
        rw [commitOf?_eq_some_iff.mpr first, ih.mpr later]
        rfl

/-- **A text spells commits when it spells the array of their values.** -/
theorem parseCommits_eq_ok_iff :
    parseCommits text = .ok commits ↔
      Json.read text = some (.array (commits.map Commit.toValue)) := by
  unfold parseCommits
  cases Json.read text with
  | none => simp
  | some value =>
    cases value with
    | scalar found => simp [Json.array?]
    | object members => simp [Json.array?]
    | array items =>
      simp only [Json.array?, Option.bind_some, Option.some.injEq, Json.array.injEq,
        ← mapM_commitOf?_eq_some_iff]
      cases items.mapM commitOf? with
      | none => simp
      | some found => simp

/-- The array of commits that can be written is read from its compact text. -/
theorem read_compact_commits (writable : ∀ commit ∈ commits, commit.Writable) :
    Json.read (Json.array (commits.map Commit.toValue)).compact =
      some (.array (commits.map Commit.toValue)) := by
  refine Json.read_compact (.array ?_) ?_ (.array ?_)
  · intro item found
    obtain ⟨commit, listed, rfl⟩ := List.mem_map.mp found
    exact (writable commit listed).whole
  · have room : 1 ≤ Json.nestingLimit := by decide
    have inner : Json.itemsDepth (commits.map Commit.toValue) ≤ Json.nestingLimit - 1 := by
      refine Json.itemsDepth_le_iff.mpr fun item found => ?_
      obtain ⟨commit, listed, rfl⟩ := List.mem_map.mp found
      exact Nat.le_sub_one_of_lt (writable commit listed).shallow
    rw [Json.depth]
    omega
  · intro item found
    obtain ⟨commit, listed, rfl⟩ := List.mem_map.mp found
    exact (writable commit listed).normal

/-- Commits that were read can be written if no floating-point number occurs in them. -/
theorem writable_of_parseCommits (parsed : parseCommits text = .ok commits)
    (floatFree : ∀ commit ∈ commits, commit.toValue.Each (¬ ·.IsFloat)) :
    ∀ commit ∈ commits, commit.Writable := by
  have spelled := parseCommits_eq_ok_iff.mp parsed
  obtain ⟨fits, shallow⟩ := Json.sits_of_read spelled
  intro commit listed
  have item : commit.toValue ∈ commits.map Commit.toValue := List.mem_map_of_mem listed
  refine ⟨Json.normal_array_iff.mp (Json.normal_of_read spelled) _ item, ?_, ?_⟩
  · have both := (Json.each_array_iff.mp fits _ item).and (floatFree commit listed)
    exact both.imp fun _ exact => Scalar.isExact_iff.mpr exact
  · have inner := Json.itemsDepth_le_iff.mp (Nat.le_refl _) _ item
    rw [Json.depth] at shallow
    omega

/-- **The commits without floating-point numbers that a text can spell are those that can be
written.** -/
theorem exists_parseCommits_iff :
    ((∃ text, parseCommits text = .ok commits) ∧
        ∀ commit ∈ commits, commit.toValue.Each (¬ ·.IsFloat)) ↔
      ∀ commit ∈ commits, commit.Writable := by
  constructor
  · rintro ⟨⟨text, parsed⟩, floatFree⟩
    exact writable_of_parseCommits parsed floatFree
  · intro writable
    refine ⟨⟨_, parseCommits_eq_ok_iff.mpr (read_compact_commits writable)⟩, ?_⟩
    exact fun commit listed => (writable commit listed).whole.imp fun _ exact => exact.not_float

/-- **Commits are read from the compact text of the list of their values, in their order.** -/
theorem parseCommits_compact (writable : ∀ commit ∈ commits, commit.Writable) :
    parseCommits (Json.array (commits.map Commit.toValue)).compact = .ok commits :=
  parseCommits_eq_ok_iff.mpr (read_compact_commits writable)

/-- Null in so many arrays. -/
def nestedNull : Nat → Json
  | 0 => .scalar .null
  | levels + 1 => .array [nestedNull levels]

/-- Commits with the least and the greatest whole number, with quotes, control characters and
characters beyond the basic plane, without any fields, and nested as deep as can be. -/
def oddCommits : List Commit :=
  [ ⟨[ ("first", .scalar (.number (.int (-9223372036854775808)))),
      ("last", .scalar (.number (.int 18446744073709551615))),
      ("subject", .ofString "say \"hi\"\\\n\u0001\t😀") ]⟩,
    ⟨[]⟩,
    ⟨[("notes", nestedNull 125)]⟩ ]

/-- They are read again from the list of their values. -/
theorem parseCommits_compact_oddCommits :
    (∀ commit ∈ oddCommits, commit.Writable) ∧
      parseCommits (Json.array (oddCommits.map Commit.toValue)).compact = .ok oddCommits := by
  have writable : ∀ commit ∈ oddCommits, commit.Writable := by decide +kernel
  exact ⟨writable, parseCommits_compact writable⟩

end Workflow
end ReleaseAnalysis
