import Mathlib.Data.List.Basic
import ReleaseAnalysis.Resolution

/-!
# How the compilation of patterns fails

Compiling a value fails for one reason only: a regular expression in it does not compile, and the
error names its place (`Pattern.compile_error`). The patterns of a rule and the test of a rule
against a commit pass that error on, and the test of a rule whose patterns compile never fails
(`Rule.matches_error`, `Rule.matches_ne_error`). The built-in rules hold no regular expression,
so their patterns compile (`Rule.patterns_of_mem_defaults`).
-/

set_option autoImplicit false

namespace ReleaseAnalysis

/-! ## Results that are passed on -/

section Results

variable {ε α β : Type} {cause : ε}

theorem error_of_map {f : α → β} {result : Except ε α} (failed : result.map f = .error cause) :
    result = .error cause := by
  cases result with
  | error inner => exact congrArg _ (Except.error.inj failed)
  | ok value => cases failed

theorem map_eq_error_iff {f : α → β} {result : Except ε α} :
    result.map f = .error cause ↔ result = .error cause := by
  cases result with
  | error inner => simp [Except.map]
  | ok value => simp [Except.map]

/-- Two steps fail when the first does, or when it succeeds and the second does. -/
theorem error_of_bind {result : Except ε α} {next : α → Except ε β}
    (failed : (result >>= next) = .error cause) :
    result = .error cause ∨ ∃ value, result = .ok value ∧ next value = .error cause := by
  cases result with
  | error inner => exact .inl (congrArg _ (Except.error.inj failed))
  | ok value => exact .inr ⟨value, rfl, failed⟩

/-- Two steps succeed when the first does and then the second. -/
theorem bind_eq_ok_iff {result : Except ε α} {next : α → Except ε β} {value : β} :
    (result >>= next) = .ok value ↔ ∃ first, result = .ok first ∧ next first = .ok value := by
  cases result with
  | error inner => simp [bind, Except.bind]
  | ok first => simp [bind, Except.bind]

/-- There is a result when there is no error. -/
theorem exists_ok_iff {result : Except ε α} :
    (∃ value, result = .ok value) ↔ ∀ cause, result ≠ .error cause := by
  cases result with
  | error inner => simp
  | ok value => simp

theorem map_eq_ok_iff {f : α → β} {result : Except ε α} {value : β} :
    result.map f = .ok value ↔ ∃ found, result = .ok found ∧ f found = value := by
  cases result with
  | error fault => simp [Except.map]
  | ok found => simp [Except.map]

theorem mapError_eq_ok_iff {κ : Type} {f : ε → κ} {result : Except ε α} {value : α} :
    result.mapError f = .ok value ↔ result = .ok value := by
  cases result with
  | error inner => simp [Except.mapError]
  | ok first => simp [Except.mapError]

/-- A check passes a list when it passes every element. -/
theorem forM_eq_ok_iff {check : α → Except ε Unit} {items : List α} :
    items.forM check = .ok () ↔ ∀ item ∈ items, check item = .ok () := by
  induction items with
  | nil => simp [List.forM, pure, Except.pure]
  | cons item rest ih =>
    change (check item >>= fun _ => rest.forM check) = .ok () ↔ _
    simp only [bind_eq_ok_iff, ih, List.forall_mem_cons]
    constructor
    · rintro ⟨_, passed, others⟩
      exact ⟨passed, others⟩
    · rintro ⟨passed, others⟩
      exact ⟨(), passed, others⟩

/-- A list that cannot be gone through has an element at fault. -/
theorem exists_error_of_mapM_error {f : α → Except ε β} {items : List α}
    (failed : items.mapM f = .error cause) : ∃ item ∈ items, f item = .error cause := by
  induction items with
  | nil => cases failed
  | cons item rest ih =>
    rw [List.mapM_cons] at failed
    rcases error_of_bind failed with first | ⟨_, _, failed⟩
    · exact ⟨item, List.mem_cons_self, first⟩
    · rcases error_of_bind failed with others | ⟨_, _, done⟩
      · obtain ⟨other, member, found⟩ := ih others
        exact ⟨other, List.mem_cons_of_mem _ member, found⟩
      · cases done

/-- A list can be gone through when every element can. -/
theorem exists_mapM_ok_iff {f : α → Except ε β} {items : List α} :
    (∃ found, items.mapM f = .ok found) ↔ ∀ item ∈ items, ∃ found, f item = .ok found := by
  induction items with
  | nil => exact ⟨fun _ => nofun, fun _ => ⟨[], rfl⟩⟩
  | cons item rest ih =>
    rw [List.forall_mem_cons, ← ih]
    simp only [List.mapM_cons, bind_eq_ok_iff]
    constructor
    · rintro ⟨_, first, given, others, done, _⟩
      exact ⟨⟨first, given⟩, others, done⟩
    · rintro ⟨⟨first, given⟩, others, done⟩
      exact ⟨first :: others, first, given, others, done, rfl⟩

/-- What a list was taken to are the results of its elements. -/
theorem mem_iff_of_mapM_ok {f : α → Except ε β} {items : List α} {results : List β}
    (done : items.mapM f = .ok results) {result : β} :
    result ∈ results ↔ ∃ item ∈ items, f item = .ok result := by
  induction items generalizing results with
  | nil =>
    cases done
    simp
  | cons item rest ih =>
    rw [List.mapM_cons] at done
    obtain ⟨first, given, done⟩ := bind_eq_ok_iff.mp done
    obtain ⟨others, later, done⟩ := bind_eq_ok_iff.mp done
    cases done
    simp only [List.mem_cons, ih later, exists_eq_or_imp, given, Except.ok.injEq]
    rw [eq_comm]

/-- What a list was taken to are the results of its elements, one by one. -/
theorem mapM_eq_ok_iff {f : α → Except ε β} {items : List α} {results : List β} :
    items.mapM f = .ok results ↔
      List.Forall₂ (fun item result => f item = .ok result) items results := by
  induction items generalizing results with
  | nil =>
    constructor
    · rintro ⟨⟩
      exact .nil
    · rintro ⟨⟩
      rfl
  | cons item rest ih =>
    simp only [List.mapM_cons, bind_eq_ok_iff, ih]
    constructor
    · rintro ⟨first, given, others, done, same⟩
      cases same
      exact .cons given done
    · intro all
      cases all with
      | cons given done => exact ⟨_, given, _, done, rfl⟩

theorem mapM_cons_eq_error_iff {f : α → Except ε β} {item : α} {rest : List α} :
    (item :: rest).mapM f = .error cause ↔
      f item = .error cause ∨ (∃ found, f item = .ok found) ∧ rest.mapM f = .error cause := by
  rw [List.mapM_cons]
  cases f item with
  | error inner => simp [bind, Except.bind]
  | ok found => cases rest.mapM f <;> simp [bind, Except.bind, pure, Except.pure]

/-- Going through a list fails at the first element that fails. -/
theorem mapM_eq_error_iff {f : α → Except ε β} {items : List α} :
    items.mapM f = .error cause ↔
      ∃ before item after, items = before ++ item :: after ∧
        (∀ other ∈ before, ∃ found, f other = .ok found) ∧ f item = .error cause := by
  induction items with
  | nil =>
    constructor
    · exact nofun
    · rintro ⟨before, item, after, split, _⟩
      cases before <;> cases split
  | cons first rest ih =>
    rw [mapM_cons_eq_error_iff, ih]
    constructor
    · rintro (failed | ⟨given, before, item, after, rfl, passed, failed⟩)
      · exact ⟨[], first, rest, rfl, nofun, failed⟩
      · exact ⟨first :: before, item, after, rfl, List.forall_mem_cons.mpr ⟨given, passed⟩, failed⟩
    · rintro ⟨before, item, after, split, passed, failed⟩
      cases before with
      | nil =>
        cases split
        exact .inl failed
      | cons other others =>
        cases split
        obtain ⟨given, passed⟩ := List.forall_mem_cons.mp passed
        exact .inr ⟨given, others, item, after, rfl, passed, failed⟩

end Results

/-! ## Patterns -/

namespace Pattern

mutual

/-- A value that does not compile holds a regular expression at fault. -/
theorem compile_error : ∀ {path : String} {value : Json} {cause : AnalysisError},
    compile path value = .error cause → ∃ field reason, cause = .pattern field reason
  | path, .scalar value, cause, failed => by
    cases value with
    | string text =>
      simp only [compile, compileScalar, compileString] at failed
      split at failed
      · cases failed
      · split at failed
        · cases failed
        · exact ⟨_, _, (Except.error.inj failed).symm⟩
    | null | bool _ | number _ => simp [compile, compileScalar] at failed
  | path, .array items, cause, failed => compileItems_error (error_of_map failed)
  | path, .object members, cause, failed => compileMembers_error (error_of_map failed)

theorem compileItems_error : ∀ {path : String} {index : Nat} {items : List Json}
    {cause : AnalysisError}, compileItems path index items = .error cause →
      ∃ field reason, cause = .pattern field reason
  | _, _, [], _, failed => by simp [compileItems] at failed
  | path, index, item :: rest, cause, failed => by
    rw [compileItems] at failed
    rcases error_of_bind failed with first | ⟨_, _, failed⟩
    · exact compile_error first
    · rcases error_of_bind failed with others | ⟨_, _, done⟩
      · exact compileItems_error others
      · cases done

theorem compileMembers_error : ∀ {path : String} {members : List (String × Json)}
    {cause : AnalysisError}, compileMembers path members = .error cause →
      ∃ field reason, cause = .pattern field reason
  | _, [], _, failed => by simp [compileMembers] at failed
  | path, (name, value) :: rest, cause, failed => by
    rw [compileMembers] at failed
    rcases error_of_bind failed with first | ⟨_, _, failed⟩
    · exact compile_error first
    · rcases error_of_bind failed with others | ⟨_, _, done⟩
      · exact compileMembers_error others
      · cases done

end

end Pattern

/-! ## Rules -/

namespace Rule

variable {rule : Rule} {commit : Commit} {cause : AnalysisError}

theorem patterns_error (failed : rule.patterns = .error cause) :
    ∃ field reason, cause = .pattern field reason := by
  obtain ⟨⟨name, value⟩, _, compiled⟩ := exists_error_of_mapM_error failed
  exact Pattern.compile_error (error_of_map compiled)

/-- A rule that cannot be tested has a field with a regular expression at fault. -/
theorem matches_error (failed : rule.matches commit = .error cause) :
    ∃ field reason, cause = .pattern field reason := by
  unfold «matches» at failed
  split at failed
  · cases failed
  · exact patterns_error (error_of_map failed)

/-- A rule whose patterns compile can be tested against every commit. -/
theorem matches_ne_error (compiles : ∃ patterns, rule.patterns = .ok patterns) :
    rule.matches commit ≠ .error cause := by
  obtain ⟨patterns, compiled⟩ := compiles
  intro failed
  unfold «matches» at failed
  split at failed
  · cases failed
  · rw [compiled] at failed
    cases failed

/-- The patterns of every built-in rule compile. -/
theorem patterns_of_mem_defaults (builtin : rule ∈ defaults) :
    ∃ patterns, rule.patterns = .ok patterns := by
  simp only [defaults, List.mem_cons, List.not_mem_nil, or_false] at builtin
  rcases builtin with rfl | rfl | rfl | rfl | rfl
  · exact ⟨_, rfl⟩
  · exact ⟨_, rfl⟩
  · exact ⟨_, rfl⟩
  · exact ⟨_, rfl⟩
  · exact ⟨_, rfl⟩

end Rule

end ReleaseAnalysis
