import ReleaseAnalysis.Proofs.Json.Normal
import ReleaseAnalysis.Proofs.Pattern.Compilation
import ReleaseAnalysis.Rule

/-!
# What the members of a rule spell

The members of a rule are read in the order they are written, yet what they spell depends on three
lists only: the values given for the release, the values given for the breaking flag, and the
members that are not reserved (`RuleDraft.readAll_eq_ok_iff`). A reserved member may be given once
at most, and its value has to be of the right kind (`Takes`); the other members are the fields.

A text spells the rule of the members that are read from it (`Rule.ofText_eq_ok_iff`). So the fields
of a rule that was read are in order and bear no reserved name (`Rule.exists_member_of_ofMembers`),
whereas a rule that is built can have a field of any name.
-/

set_option autoImplicit false

namespace ReleaseAnalysis

/-! ## Reserved members -/

/-- The names of the members that are no fields. -/
def Rule.IsReserved (name : String) : Prop := name = "release" ∨ name = "breaking"

instance (name : String) : Decidable (Rule.IsReserved name) :=
  inferInstanceAs (Decidable (name = "release" ∨ name = "breaking"))

/-- The values given for a reserved member, and what is known of it before and after: no value
changes nothing, and one value tells what it is if nothing was known. -/
inductive Takes {α : Type} (read : ReservedValue → Except DocumentFault α) :
    Option α → List ReservedValue → Option α → Prop
  | absent (known : Option α) : Takes read known [] known
  | once {value : ReservedValue} {result : α} (given : read value = .ok result) :
    Takes read none [value] (some result)

section Takes

variable {α : Type} {read : ReservedValue → Except DocumentFault α} {known result : Option α}
  {value : ReservedValue} {values : List ReservedValue}

theorem takes_nil_iff : Takes read known [] result ↔ result = known :=
  ⟨fun | .absent _ => rfl, fun | rfl => .absent _⟩

theorem takes_cons_iff :
    Takes read known (value :: values) result ↔
      known = none ∧ ∃ found, read value = .ok found ∧ Takes read (some found) values result := by
  constructor
  · intro takes
    cases takes with
    | once given => exact ⟨rfl, _, given, .absent _⟩
  · rintro ⟨rfl, found, given, takes⟩
    cases takes with
    | absent => exact .once given

end Takes

/-- The values given for a name, in the order written. -/
def valuesOf (name : String) (members : List RuleMember) : List ReservedValue :=
  (members.filter (·.name = name)).map RuleMember.reserved

/-- The members that are not reserved, in the order written. -/
def plainMembers (members : List RuleMember) : List (String × Json) :=
  (members.filter (¬ Rule.IsReserved ·.name)).map fun member => (member.name, member.value)

section Members

variable {member : RuleMember} {members : List RuleMember} {name : String}

theorem valuesOf_cons_of_eq (same : member.name = name) :
    valuesOf name (member :: members) = member.reserved :: valuesOf name members := by
  rw [valuesOf, List.filter_cons_of_pos (by simpa using same), List.map_cons, valuesOf]

theorem valuesOf_cons_of_ne (other : member.name ≠ name) :
    valuesOf name (member :: members) = valuesOf name members := by
  rw [valuesOf, List.filter_cons_of_neg (by simpa using other), valuesOf]

theorem plainMembers_cons_of_reserved (reserved : Rule.IsReserved member.name) :
    plainMembers (member :: members) = plainMembers members := by
  rw [plainMembers, List.filter_cons_of_neg (by simpa using reserved), plainMembers]

theorem plainMembers_cons_of_not_reserved (plain : ¬ Rule.IsReserved member.name) :
    plainMembers (member :: members) = (member.name, member.value) :: plainMembers members := by
  rw [plainMembers, List.filter_cons_of_pos (by simpa using plain), List.map_cons, plainMembers]

end Members

/-! ## Reading members -/

namespace RuleDraft

variable {draft next final : RuleDraft} {member : RuleMember} {members rest : List RuleMember}

/-- A release is taken if none was given before. -/
theorem read_of_release (isRelease : member.name = "release") :
    draft.read member = .ok next ↔
      draft.release = none ∧ ∃ found, Rule.releaseOf member.reserved = .ok found ∧
        next = { draft with release := some found } := by
  rw [read, if_pos isRelease]
  cases draft.release with
  | some known => simp
  | none =>
    cases Rule.releaseOf member.reserved with
    | error fault => simp [Except.map]
    | ok found => simp [Except.map, eq_comm]

/-- A flag is taken if none was given before. -/
theorem read_of_breaking (isBreaking : member.name = "breaking") :
    draft.read member = .ok next ↔
      draft.breaking = none ∧ ∃ found, Rule.breakingOf member.reserved = .ok found ∧
        next = { draft with breaking := some found } := by
  have other : ¬ member.name = "release" := by rw [isBreaking]; decide
  rw [read, if_neg other, if_pos isBreaking]
  cases draft.breaking with
  | some known => simp
  | none =>
    cases Rule.breakingOf member.reserved with
    | error fault => simp [Except.map]
    | ok found => simp [Except.map, eq_comm]

/-- Every other member becomes a field. -/
theorem read_of_not_reserved (plain : ¬ Rule.IsReserved member.name) :
    draft.read member =
      .ok { draft with fields := draft.fields.insert member.name member.value } := by
  rw [read, if_neg fun isRelease => plain (.inl isRelease),
    if_neg fun isBreaking => plain (.inr isBreaking)]

theorem readAll_cons_eq_ok_iff :
    draft.readAll (member :: rest) = .ok final ↔
      ∃ next, draft.read member = .ok next ∧ next.readAll rest = .ok final := by
  rw [readAll]
  cases draft.read member with
  | error fault => simp
  | ok next => simp

/-- **Members are read when each reserved one is given once at most, with a value of the right
kind; the others are the fields.** -/
theorem readAll_eq_ok_iff :
    draft.readAll members = .ok final ↔
      Takes Rule.releaseOf draft.release (valuesOf "release" members) final.release ∧
        Takes Rule.breakingOf draft.breaking (valuesOf "breaking" members) final.breaking ∧
        final.fields = (plainMembers members).foldl
          (fun fields member => fields.insert member.1 member.2) draft.fields := by
  induction members generalizing draft with
  | nil =>
    cases draft
    cases final
    simp only [readAll, valuesOf, plainMembers, List.filter_nil, List.map_nil, takes_nil_iff,
      List.foldl_nil, Except.ok.injEq, RuleDraft.mk.injEq, eq_comm]
  | cons member rest ih =>
    rw [readAll_cons_eq_ok_iff]
    -- A member stands in one of the three lists only, and its name tells in which.
    by_cases isRelease : member.name = "release"
    · have other : member.name ≠ "breaking" := by rw [isRelease]; decide
      rw [valuesOf_cons_of_eq isRelease, valuesOf_cons_of_ne other,
        plainMembers_cons_of_reserved (.inl isRelease), takes_cons_iff]
      simp only [read_of_release isRelease]
      constructor
      · rintro ⟨_, ⟨unknown, found, given, rfl⟩, readRest⟩
        obtain ⟨release, others⟩ := ih.mp readRest
        exact ⟨⟨unknown, found, given, release⟩, others⟩
      · rintro ⟨⟨unknown, found, given, release⟩, others⟩
        exact ⟨_, ⟨unknown, found, given, rfl⟩, ih.mpr ⟨release, others⟩⟩
    · by_cases isBreaking : member.name = "breaking"
      · rw [valuesOf_cons_of_ne isRelease, valuesOf_cons_of_eq isBreaking,
          plainMembers_cons_of_reserved (.inr isBreaking), takes_cons_iff]
        simp only [read_of_breaking isBreaking]
        constructor
        · rintro ⟨_, ⟨unknown, found, given, rfl⟩, readRest⟩
          obtain ⟨release, breaking, fields⟩ := ih.mp readRest
          exact ⟨release, ⟨unknown, found, given, breaking⟩, fields⟩
        · rintro ⟨release, ⟨unknown, found, given, breaking⟩, fields⟩
          exact ⟨_, ⟨unknown, found, given, rfl⟩, ih.mpr ⟨release, breaking, fields⟩⟩
      · have plain : ¬ Rule.IsReserved member.name := not_or.mpr ⟨isRelease, isBreaking⟩
        rw [valuesOf_cons_of_ne isRelease, valuesOf_cons_of_ne isBreaking,
          plainMembers_cons_of_not_reserved plain, List.foldl_cons, read_of_not_reserved plain]
        simp only [Except.ok.injEq, exists_eq_left', ih]

end RuleDraft

/-! ## The rule that members spell -/

namespace Rule

variable {rule : Rule} {members : List RuleMember} {text : String}

/-- **A rule is spelled by its reserved members and by the others in order.** -/
theorem ofMembers_eq_ok_iff :
    ofMembers members = .ok rule ↔
      ∃ release breaking, Takes releaseOf none (valuesOf "release" members) release ∧
        Takes breakingOf none (valuesOf "breaking" members) breaking ∧
        rule = ⟨release.getD none, breaking.getD false, Members.ofList (plainMembers members)⟩ := by
  unfold ofMembers
  constructor
  · intro read
    cases done : RuleDraft.empty.readAll members with
    | error fault =>
      rw [done] at read
      cases read
    | ok final =>
      rw [done] at read
      cases read
      obtain ⟨release, breaking, fields⟩ := RuleDraft.readAll_eq_ok_iff.mp done
      refine ⟨_, _, release, breaking, ?_⟩
      rw [RuleDraft.toRule, fields]
      rfl
  · rintro ⟨release, breaking, takesRelease, takesBreaking, rfl⟩
    have done : RuleDraft.empty.readAll members =
        .ok ⟨release, breaking, Members.ofList (plainMembers members)⟩ :=
      RuleDraft.readAll_eq_ok_iff.mpr ⟨takesRelease, takesBreaking, rfl⟩
    rw [done]
    rfl

/-- A field of a rule that was read is one of the members, and its name is not reserved. -/
theorem exists_member_of_ofMembers (read : ofMembers members = .ok rule)
    {field : String × Json} (found : field ∈ rule.fields) :
    ¬ IsReserved field.1 ∧ ∃ member ∈ members, field = (member.name, member.value) := by
  obtain ⟨_, _, _, _, rfl⟩ := ofMembers_eq_ok_iff.mp read
  obtain ⟨member, listed, rfl⟩ := List.mem_map.mp (Members.mem_of_mem_ofList found)
  obtain ⟨inside, plain⟩ := List.mem_filter.mp listed
  exact ⟨by simpa using plain, member, inside, rfl⟩

theorem increasing_of_ofMembers (read : ofMembers members = .ok rule) :
    rule.fields.Increasing := by
  obtain ⟨_, _, _, _, rfl⟩ := ofMembers_eq_ok_iff.mp read
  exact Members.increasing_ofList _

/-- The empty string is no release of a rule that was read. -/
theorem release_ne_empty_of_ofMembers (read : ofMembers members = .ok rule) :
    rule.release ≠ some "" := by
  obtain ⟨_, _, takes, _, rfl⟩ := ofMembers_eq_ok_iff.mp read
  generalize valuesOf "release" members = values at takes
  cases takes with
  | absent => exact nofun
  | @once value result given =>
    intro same
    cases value with
    | null => cases given; cases same
    | flag flag => cases flag <;> cases given; cases same
    | other => cases given
    | text text =>
      cases given
      simp only [Option.getD_some, releaseOfText] at same
      split at same
      · cases same
      · rename_i nonempty
        exact nonempty (Option.some.inj same)

/-- The rule of a text is the rule of the members that are read from it. -/
theorem ofText_eq_ok_iff :
    ofText text = .ok rule ↔
      ∃ members, Json.readMembers text = (members, true) ∧
        ofMembers (members.map memberOfJson) = .ok rule := by
  unfold ofText
  cases read : Json.readMembers text with
  | mk members complete =>
    simp only
    cases spelled : ofMembers (members.map memberOfJson) with
    | error fault => simp [spelled]
    | ok found => cases complete <;> simp [spelled]

end Rule
end ReleaseAnalysis
