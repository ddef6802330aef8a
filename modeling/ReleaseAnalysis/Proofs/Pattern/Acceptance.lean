import ReleaseAnalysis.Proofs.Pattern.Faults
import ReleaseAnalysis.Proofs.Pattern.Matching

/-!
# What the pattern of a value accepts

A value admits another one when it compiles and its pattern accepts the other (`Json.Admits`).

An array or object admits a value of its own kind in which every step that leads to a part of it
leads to a value that the part admits (`Json.admits_composite_iff`). Nothing is asked of further
parts, so an object may have more members and an array more items. Acceptance is proved along this
statement, which treats items and members alike. So it is proved that a value which is admitted but
for one place is admitted when what stands at the place is (`Json.admits_iff_of_place`).
-/

set_option autoImplicit false

namespace ReleaseAnalysis

namespace Json

/-- The value compiles, and its pattern accepts another value. -/
def Admits (value : Json) (path : String) (other : Json) : Prop :=
  ∃ pattern, Pattern.compile path value = .ok pattern ∧ Pattern.accepts pattern other = true

/-- A value whose pattern is at hand admits what the pattern accepts. -/
theorem admits_iff_of_compile {value other : Json} {path : String} {pattern : Pattern}
    (compiled : Pattern.compile path value = .ok pattern) :
    value.Admits path other ↔ Pattern.accepts pattern other = true := by
  simp only [Admits, compiled, Except.ok.injEq, exists_eq_left']

/-- Two scalars that are related, two arrays or two objects. -/
inductive Heads (relation : Scalar → Scalar → Prop) : Json → Json → Prop
  | scalar {found other : Scalar} (related : relation found other) :
    Heads relation (.scalar found) (.scalar other)
  | array (items others : List Json) : Heads relation (.array items) (.array others)
  | object (members others : Members) : Heads relation (.object members) (.object others)

section Heads

variable {relation weaker : Scalar → Scalar → Prop} {value other third : Json}

theorem heads_refl (related : ∀ found, relation found found) (value : Json) :
    Heads relation value value := by
  cases value with
  | scalar found => exact .scalar (related found)
  | array items => exact .array items items
  | object members => exact .object members members

theorem Heads.trans (related : ∀ {first second third}, relation first second →
    relation second third → relation first third) (earlier : Heads relation value other)
    (later : Heads relation other third) : Heads relation value third := by
  cases earlier with
  | scalar first =>
    cases later with
    | scalar second => exact .scalar (related first second)
  | array items _ =>
    cases later with
    | array _ others => exact .array items others
  | object members _ =>
    cases later with
    | object _ others => exact .object members others

theorem Heads.imp (implied : ∀ {first second}, relation first second → weaker first second)
    (heads : Heads relation value other) : Heads weaker value other := by
  cases heads with
  | scalar related => exact .scalar (implied related)
  | array items others => exact .array items others
  | object members others => exact .object members others

end Heads

end Json

/-! ## Arrays and objects -/

namespace Pattern

variable {path : String}

/-- Items accept the first values when each accepts the value of its index. -/
theorem acceptsItems_iff {items values : List Json} {patterns : List Pattern} {start : Nat}
    (compiled : compileItems path start items = .ok patterns) :
    acceptsItems patterns values = true ↔
      ∀ (index : Nat) (item : Json), items[index]? = some item →
        ∃ found, values[index]? = some found ∧
          item.Admits (itemPath path (start + index)) found := by
  induction items generalizing start values patterns with
  | nil =>
    cases compiled
    simp [acceptsItems]
  | cons item rest ih =>
    obtain ⟨pattern, first, compiled⟩ := bind_eq_ok_iff.mp compiled
    obtain ⟨others, later, compiled⟩ := bind_eq_ok_iff.mp compiled
    cases compiled
    cases values with
    | nil =>
      refine iff_of_false Bool.false_ne_true fun all => ?_
      obtain ⟨found, missing, _⟩ := all 0 item rfl
      cases missing
    | cons value values =>
      rw [acceptsItems, Bool.and_eq_true, ih later]
      constructor
      · rintro ⟨accepted, others⟩ index other listed
        cases index with
        | zero =>
          cases listed
          exact ⟨value, rfl, pattern, first, accepted⟩
        | succ index =>
          have inner := others index other listed
          rwa [Nat.add_right_comm] at inner
      · intro all
        obtain ⟨_, same, again, compiled, accepted⟩ := all 0 item rfl
        cases same
        cases first.symm.trans compiled
        refine ⟨accepted, fun index other listed => ?_⟩
        rw [Nat.add_right_comm]
        exact all (index + 1) other listed

/-- Members accept others when each accepts the one of its name. -/
theorem acceptsMembers_iff_admits {members others : Members} {entries : List (String × Pattern)}
    (compiled : compileMembers path members = .ok entries) :
    acceptsMembers entries others = true ↔
      ∀ member ∈ members, ∃ found, others.get? member.1 = some found ∧
        member.2.Admits (memberPath path member.1) found := by
  induction members generalizing entries with
  | nil =>
    cases compiled
    simp [acceptsMembers]
  | cons member rest ih =>
    obtain ⟨name, value⟩ := member
    obtain ⟨pattern, first, compiled⟩ := bind_eq_ok_iff.mp compiled
    obtain ⟨patterns, later, compiled⟩ := bind_eq_ok_iff.mp compiled
    cases compiled
    rw [acceptsMembers, Bool.and_eq_true, ih later, List.forall_mem_cons]
    refine and_congr_left fun _ => ?_
    simp only [Json.Admits, first, Except.ok.injEq, exists_eq_left']
    cases others.get? name with
    | none => simp
    | some found => simp

end Pattern

namespace Json

variable {value other : Json} {path : String} {relation : Scalar → Scalar → Prop}

/-- The parts of a value are admitted by the parts of the other, step by step. -/
def AdmitsParts (value : Json) (path : String) (other : Json) : Prop :=
  ∀ step part, value.part? step = some part →
    ∃ found, other.part? step = some found ∧ part.Admits (path ++ step.text) found

/-- What an array or object has compiled to accepts a value of the same kind whose parts are
admitted. -/
theorem accepts_composite_iff {pattern : Pattern} (relation : Scalar → Scalar → Prop)
    (normal : value.Normal) (composite : value.IsComposite)
    (compiled : Pattern.compile path value = .ok pattern) :
    Pattern.accepts pattern other = true ↔
      Heads relation value other ∧ value.AdmitsParts path other := by
  cases normal with
  | scalar found => exact absurd rfl (composite found)
  | @array items all =>
    obtain ⟨patterns, each, rfl⟩ := map_eq_ok_iff.mp compiled
    cases other with
    | scalar found | object members =>
      rw [Pattern.accepts]
      · refine iff_of_false Bool.false_ne_true ?_
        rintro ⟨heads, _⟩
        cases heads
      · exact nofun
    | array others =>
      rw [Pattern.accepts, Pattern.acceptsItems_iff each]
      simp only [Nat.zero_add, Pattern.itemPath_eq]
      constructor
      · intro accepted
        refine ⟨.array items others, fun step part leads => ?_⟩
        cases step with
        | member name => cases leads
        | item index => exact accepted index part leads
      · rintro ⟨_, accepted⟩ index item listed
        exact accepted (.item index) item listed
  | @object members increasing all =>
    obtain ⟨entries, each, rfl⟩ := map_eq_ok_iff.mp compiled
    cases other with
    | scalar found | array items =>
      rw [Pattern.accepts]
      · refine iff_of_false Bool.false_ne_true ?_
        rintro ⟨heads, _⟩
        cases heads
      · exact nofun
    | object others =>
      rw [Pattern.accepts, Pattern.acceptsMembers_iff_admits each]
      simp only [Pattern.memberPath_eq]
      constructor
      · intro accepted
        refine ⟨.object members others, fun step part leads => ?_⟩
        cases step with
        | item index => cases leads
        | member name => exact accepted (name, part) (Members.mem_of_get? leads)
      · rintro ⟨_, accepted⟩ member listed
        exact accepted (.member member.1) member.2 (increasing.get?_eq_some_iff.mpr listed)

/-- **An array or object admits a value of its kind that has admitted parts wherever it has
parts.** -/
theorem admits_composite_iff (relation : Scalar → Scalar → Prop) (normal : value.Normal)
    (composite : value.IsComposite) :
    value.Admits path other ↔ Heads relation value other ∧ value.AdmitsParts path other := by
  constructor
  · rintro ⟨pattern, compiled, accepted⟩
    exact (accepts_composite_iff relation normal composite compiled).mp accepted
  · rintro ⟨heads, parts⟩
    have compiles : ∃ pattern, Pattern.compile path value = .ok pattern := by
      refine (Pattern.exists_compile_ok_iff_parts composite).mpr fun entry listed => ?_
      obtain ⟨_, _, pattern, compiled, _⟩ :=
        parts entry.1 entry.2 ((part?_eq_some_iff normal).mpr listed)
      exact ⟨pattern, compiled⟩
    obtain ⟨pattern, compiled⟩ := compiles
    exact ⟨pattern, compiled,
      (accepts_composite_iff relation normal composite compiled).mpr ⟨heads, parts⟩⟩

/-- A value that is set in a part of another one does not change its head. -/
theorem heads_set_iff {step : Step} {rest : Place} {new : Json} :
    Heads relation value (other.set (step :: rest) new) ↔ Heads relation value other := by
  constructor
  · intro heads
    cases other with
    | scalar found => cases step <;> exact heads
    | array items =>
      cases step with
      | member name => exact heads
      | item index =>
        cases heads with
        | array values _ => exact .array values items
    | object members =>
      cases step with
      | item index => exact heads
      | member name =>
        cases heads with
        | object values _ => exact .object values members
  · intro heads
    cases heads with
    | scalar related => cases step <;> exact .scalar related
    | array items others => cases step <;> exact .array items _
    | object members others => cases step <;> exact .object members _

/-- **Where everything else is admitted, one place decides.** If a value is admitted with something
else at a place, then it is admitted exactly when what stands there is. -/
theorem admits_iff_of_place {place : Place} {part found new : Json} (normal : value.Normal)
    (asked : value.at? place = some part) (stands : other.at? place = some found)
    (otherwise : value.Admits path (other.set place new)) :
    value.Admits path other ↔ part.Admits (place.pathFrom path) found := by
  induction place generalizing value other path with
  | nil =>
    cases asked
    cases stands
    exact Iff.rfl
  | cons step rest ih =>
    obtain ⟨child, leads, asked⟩ := at?_cons_eq_some_iff.mp asked
    obtain ⟨below, reached, stands⟩ := at?_cons_eq_some_iff.mp stands
    have composite := isComposite_of_part? leads
    have normalChild := normal_of_mem_parts normal ((part?_eq_some_iff normal).mp leads)
    obtain ⟨heads, parts⟩ :=
      (admits_composite_iff (fun _ _ => True) normal composite).mp otherwise
    obtain ⟨_, moved, inner⟩ := parts step child leads
    cases (part?_set_self reached rest new).symm.trans moved
    rw [admits_composite_iff (fun _ _ => True) normal composite,
      and_iff_right (heads_set_iff.mp heads), Place.pathFrom, ← ih normalChild asked stands inner]
    constructor
    · intro parts
      obtain ⟨_, again, admitted⟩ := parts step child leads
      cases reached.symm.trans again
      exact admitted
    · intro admitted next part taken
      by_cases same : next = step
      · subst same
        cases leads.symm.trans taken
        exact ⟨below, reached, admitted⟩
      · obtain ⟨last, kept, inner⟩ := parts next part taken
        rw [part?_set_of_ne same] at kept
        exact ⟨last, kept, inner⟩

end Json
end ReleaseAnalysis
