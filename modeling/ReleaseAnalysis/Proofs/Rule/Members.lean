import ReleaseAnalysis.Proofs.Json.Places
import ReleaseAnalysis.Proofs.Rule.Display
import ReleaseAnalysis.Proofs.Rule.Formats

/-!
# The objects that spell a rule

An object spells a rule exactly when its members `release` and `breaking` are given once at most and
with values of the right kind (`Rule.GivenOnce`); neither their places among the members nor the
other members matter. The rule has the release and the flag that are given, and its fields are what
is left of the object when the two members are taken out of it (`Rule.GivenBy`,
`Rule.ofText_object`).

The fields come out the same whether members are put in order before the reserved ones are taken out
or after (`Members.ofList_filter`). Only the names of the outermost members are looked at, so the
reserved names may occur anywhere deeper in the values.
-/

set_option autoImplicit false

namespace ReleaseAnalysis

/-! ## What reserved members give -/

section Takes

variable {α : Type} {read : ReservedValue → Except DocumentFault α} {result : Option α}
  {values : List ReservedValue}

/-- Values are taken if there is one at most and it can be read. -/
theorem exists_takes_iff :
    (∃ result, Takes read none values result) ↔
      values.length ≤ 1 ∧ ∀ value ∈ values, ∃ found, read value = .ok found := by
  constructor
  · rintro ⟨_, takes⟩
    cases takes with
    | absent => exact ⟨Nat.zero_le _, List.forall_mem_nil _⟩
    | once given => exact ⟨Nat.le_refl _, List.forall_mem_singleton.mpr ⟨_, given⟩⟩
  · rintro ⟨few, readable⟩
    match values with
    | [] => exact ⟨_, .absent _⟩
    | [value] =>
      obtain ⟨found, given⟩ := readable value List.mem_cons_self
      exact ⟨_, .once given⟩

/-- A result that is not the default was given. -/
theorem Takes.getD_eq_iff (takes : Takes read none values result) {default found : α}
    (other : found ≠ default) :
    result.getD default = found ↔ ∃ value ∈ values, read value = .ok found := by
  cases takes with
  | absent => simp [other.symm]
  | once given => simp [given]

end Takes

/-- The scalar that is seen so, if there is a single one. -/
def ReservedValue.scalar? : ReservedValue → Option Scalar
  | .null => some .null
  | .flag value => some (.bool value)
  | .text value => some (.string value)
  | .other => none

namespace Json

/-- What a reserved member sees of a value tells which value it is, unless it is of no use. -/
theorem reserved_eq_iff {value : Json} {seen : ReservedValue} {found : Scalar}
    (single : seen.scalar? = some found) : value.reserved = seen ↔ value = .scalar found := by
  constructor
  · rintro rfl
    cases value with
    | scalar own => cases own <;> cases single <;> rfl
    | array items => cases single
    | object members => cases single
  · rintro rfl
    cases seen <;> cases single <;> rfl

/-- A value that says what the release is, or that there is none. -/
def SaysRelease (value : Json) : Prop :=
  value = .scalar .null ∨ value = .scalar (.bool false) ∨ ∃ release, value = ofString release

/-- A value that is true or false. -/
def IsFlag (value : Json) : Prop := ∃ flag, value = .scalar (.bool flag)

end Json

namespace Rule

open Json (SaysRelease IsFlag)

variable {rule : Rule} {text name release : String} {members : List (String × Json)}
  {value : Json}

theorem exists_releaseOf_iff :
    (∃ found, releaseOf value.reserved = .ok found) ↔ SaysRelease value := by
  have null : value.reserved = .null ↔ value = .scalar .null := Json.reserved_eq_iff rfl
  have flag : value.reserved = .flag false ↔ value = .scalar (.bool false) :=
    Json.reserved_eq_iff rfl
  have text : ∀ release, value.reserved = .text release ↔ value = .ofString release :=
    fun _ => Json.reserved_eq_iff rfl
  rw [SaysRelease, ← null, ← flag]
  simp only [← text]
  cases value.reserved with
  | null => simp [releaseOf]
  | flag flag => cases flag <;> simp [releaseOf]
  | text text => simp [releaseOf]
  | other => simp [releaseOf]

/-- The release that a value gives is the string that it is, and the empty string gives none. -/
theorem releaseOf_eq_some_iff :
    releaseOf value.reserved = .ok (some release) ↔ release ≠ "" ∧ value = .ofString release := by
  have named : value.reserved = .text release ↔ value = .ofString release :=
    Json.reserved_eq_iff rfl
  rw [← named]
  cases value.reserved with
  | null => simp [releaseOf]
  | flag flag => cases flag <;> simp [releaseOf]
  | other => simp [releaseOf]
  | text text =>
    by_cases empty : text = ""
    · simp [releaseOf, releaseOfText, empty, eq_comm]
    · simp only [releaseOf, releaseOfText, if_neg empty, Except.ok.injEq, Option.some.injEq,
        ReservedValue.text.injEq]
      exact ⟨fun same => ⟨same ▸ empty, same⟩, And.right⟩

theorem breakingOf_eq_ok_iff {flag : Bool} :
    breakingOf value.reserved = .ok flag ↔ value = .scalar (.bool flag) := by
  have flagged : value.reserved = .flag flag ↔ value = .scalar (.bool flag) :=
    Json.reserved_eq_iff rfl
  rw [← flagged]
  cases value.reserved <;> simp [breakingOf]

theorem exists_breakingOf_iff :
    (∃ flag, breakingOf value.reserved = .ok flag) ↔ IsFlag value :=
  exists_congr fun _ => breakingOf_eq_ok_iff

/-! ## Reserved members of an object -/

/-- The member of a name is given once at most, with a value of the right kind. -/
structure GivenOnce (members : List (String × Json)) (name : String) (right : Json → Prop) :
    Prop where
  once : (members.map Prod.fst).count name ≤ 1
  fits : ∀ value, (name, value) ∈ members → right value

theorem mem_valuesOf_iff {seen : ReservedValue} :
    seen ∈ valuesOf name (members.map memberOfJson) ↔
      ∃ value, (name, value) ∈ members ∧ value.reserved = seen := by
  rw [valuesOf_map_memberOfJson]
  constructor
  · intro listed
    obtain ⟨member, found, same⟩ := List.mem_map.mp listed
    obtain ⟨inside, named⟩ := List.mem_filter.mp found
    exact ⟨member.2, of_decide_eq_true named ▸ inside, same⟩
  · rintro ⟨value, inside, same⟩
    exact List.mem_map.mpr
      ⟨(name, value), List.mem_filter.mpr ⟨inside, decide_eq_true rfl⟩, same⟩

theorem length_valuesOf (name : String) (members : List (String × Json)) :
    (valuesOf name (members.map memberOfJson)).length = (members.map Prod.fst).count name := by
  rw [valuesOf_map_memberOfJson, List.length_map, List.count, List.countP_map,
    List.countP_eq_length_filter]
  rfl

/-- A reserved member is read if it is given once at most with a value that can be read. -/
theorem exists_takes_valuesOf_iff {α : Type} {read : ReservedValue → Except DocumentFault α}
    {right : Json → Prop}
    (readable : ∀ value : Json, (∃ found, read value.reserved = .ok found) ↔ right value) :
    (∃ result, Takes read none (valuesOf name (members.map memberOfJson)) result) ↔
      GivenOnce members name right := by
  rw [exists_takes_iff, length_valuesOf]
  constructor
  · rintro ⟨once, all⟩
    refine ⟨once, fun value given => ?_⟩
    exact (readable value).mp (all _ (mem_valuesOf_iff.mpr ⟨value, given, rfl⟩))
  · rintro ⟨once, fits⟩
    refine ⟨once, fun seen listed => ?_⟩
    obtain ⟨value, given, rfl⟩ := mem_valuesOf_iff.mp listed
    exact (readable value).mpr (fits value given)

/-- What is read of a reserved member, if it is not the default, is what the member gives. -/
theorem getD_eq_iff_of_takes {α : Type} {read : ReservedValue → Except DocumentFault α}
    {result : Option α} {default found : α}
    (takes : Takes read none (valuesOf name (members.map memberOfJson)) result)
    (other : found ≠ default) :
    result.getD default = found ↔
      ∃ value, (name, value) ∈ members ∧ read value.reserved = .ok found := by
  rw [takes.getD_eq_iff other]
  constructor
  · rintro ⟨seen, listed, given⟩
    obtain ⟨value, inside, rfl⟩ := mem_valuesOf_iff.mp listed
    exact ⟨value, inside, given⟩
  · rintro ⟨value, inside, given⟩
    exact ⟨value.reserved, mem_valuesOf_iff.mpr ⟨value, inside, rfl⟩, given⟩

/-! ## The rule of an object -/

/-- The rule that the members of an object give: the release is a string that is given, unless it is
empty, the flag is set if it is given as true, and the fields are all other members, each with the
value that is written last under its name. -/
structure GivenBy (rule : Rule) (members : List (String × Json)) : Prop where
  release : ∀ release, rule.release = some release ↔
    release ≠ "" ∧ ("release", .ofString release) ∈ members
  breaking : rule.breaking = true ↔ ("breaking", .scalar (.bool true)) ∈ members
  increasing : rule.fields.Increasing
  fields : ∀ name, rule.fields.get? name =
    if IsReserved name then none else (Members.last? members name).map Json.normalize

/-- The fields are the members of the object in normal form without the reserved ones. -/
theorem ofList_plainMembers (members : List (String × Json)) :
    Members.ofList (plainMembers (members.map memberOfJson)) =
      (Members.ofList (Json.normalizeMembers members)).filter (¬ IsReserved ·.1) := by
  rw [plainMembers_map_memberOfJson, Json.normalizeMembers_eq_map,
    ← Members.ofList_filter (¬ IsReserved ·), List.filter_map]
  rfl

/-- What is found among the fields is the value written last, in normal form. -/
theorem get?_ofList_plainMembers (members : List (String × Json)) (name : String) :
    (Members.ofList (plainMembers (members.map memberOfJson))).get? name =
      if IsReserved name then none else (Members.last? members name).map Json.normalize := by
  rw [ofList_plainMembers]
  split
  case isTrue reserved =>
    exact Members.get?_filter_of_not (¬ IsReserved ·) (not_not_intro reserved)
  case isFalse plain =>
    rw [Members.get?_filter_of (¬ IsReserved ·) plain, Members.get?_ofList, Members.last?,
      Json.normalizeMembers_eq_map, ← List.map_reverse, Members.get?_map_values, Members.last?]

/-- Members spell a rule if each reserved one is given once at most with a value of its kind. -/
theorem exists_ofMembers_iff :
    (∃ rule, ofMembers (members.map memberOfJson) = .ok rule) ↔
      GivenOnce members "release" SaysRelease ∧ GivenOnce members "breaking" IsFlag := by
  rw [← exists_takes_valuesOf_iff fun _ => exists_releaseOf_iff,
    ← exists_takes_valuesOf_iff fun _ => exists_breakingOf_iff]
  constructor
  · rintro ⟨rule, spelled⟩
    obtain ⟨release, breaking, takesRelease, takesBreaking, _⟩ := ofMembers_eq_ok_iff.mp spelled
    exact ⟨⟨release, takesRelease⟩, ⟨breaking, takesBreaking⟩⟩
  · rintro ⟨⟨release, takesRelease⟩, ⟨breaking, takesBreaking⟩⟩
    exact ⟨_, ofMembers_eq_ok_iff.mpr ⟨release, breaking, takesRelease, takesBreaking, rfl⟩⟩

/-- The rule that members spell is the one that they give. -/
theorem givenBy_of_ofMembers (spelled : ofMembers (members.map memberOfJson) = .ok rule) :
    rule.GivenBy members := by
  obtain ⟨taken, flagged, takesRelease, takesBreaking, rfl⟩ := ofMembers_eq_ok_iff.mp spelled
  refine ⟨fun release => ?release, ?breaking, Members.increasing_ofList _,
    get?_ofList_plainMembers members⟩
  case release =>
    rw [getD_eq_iff_of_takes takesRelease (Option.some_ne_none release)]
    simp only [releaseOf_eq_some_iff]
    constructor
    · rintro ⟨_, given, nonempty, rfl⟩
      exact ⟨nonempty, given⟩
    · rintro ⟨nonempty, given⟩
      exact ⟨_, given, nonempty, rfl⟩
  case breaking =>
    rw [getD_eq_iff_of_takes takesBreaking (by decide)]
    simp only [breakingOf_eq_ok_iff, exists_eq_right]

/-- **Which objects spell a rule, and which rule they spell.** -/
theorem ofText_object (read : Json.readWritten text = some (.object members)) :
    ((∃ rule, ofText text = .ok rule) ↔
        GivenOnce members "release" SaysRelease ∧ GivenOnce members "breaking" IsFlag) ∧
      ∀ rule, ofText text = .ok rule →
        rule.GivenBy members ∧
          ∃ all, Json.read text = some (.object all) ∧
            rule.fields = all.filter (¬ IsReserved ·.1) := by
  simp only [ofText_eq_ok_iff_of_readWritten read]
  refine ⟨exists_ofMembers_iff, fun rule spelled => ⟨givenBy_of_ofMembers spelled, ?_⟩⟩
  obtain ⟨_, _, _, _, rfl⟩ := ofMembers_eq_ok_iff.mp spelled
  refine ⟨Members.ofList (Json.normalizeMembers members), ?_, ofList_plainMembers members⟩
  rw [Json.read, read]
  rfl

/-- Members out of order, one of them written twice and the reserved names inside a value. -/
def nestedMembers : List (String × Json) :=
  [ ("type", .ofString "feat"),
    ("breaking", .scalar (.bool true)),
    ("meta", .object [("release", .scalar (.bool true)), ("breaking", .scalar .null),
      ("release", .ofString "x")]),
    ("type", .ofString "fix"),
    ("release", .ofString "minor") ]

/-- A text with these members. -/
def nestedText : String :=
  "\x7b\"type\":\"feat\",\"breaking\":true,"
    ++ "\"meta\":\x7b\"release\":true,\"breaking\":null,\"release\":\"x\"\x7d,"
    ++ "\"type\":\"fix\",\"release\":\"minor\"\x7d"

/-- The rule of these members. -/
def nestedRule : Rule :=
  ⟨some "minor", true,
    [ ("meta", .object [("breaking", .scalar .null), ("release", .ofString "x")]),
      ("type", .ofString "fix") ]⟩

/-- The rule has the type that is written last, and the reserved names inside a value stay. -/
theorem ofText_object_nestedText :
    Json.readWritten nestedText = some (.object nestedMembers) ∧
      ofText nestedText = .ok nestedRule ∧
      GivenOnce nestedMembers "release" SaysRelease ∧
      GivenOnce nestedMembers "breaking" IsFlag ∧ nestedRule.GivenBy nestedMembers := by
  have written : nestedText = (Json.object nestedMembers).compact := by cbv
  have read : Json.readWritten nestedText = some (.object nestedMembers) :=
    written ▸ Json.readWritten_compact (by decide) (by decide)
  have spelled : ofText nestedText = .ok nestedRule :=
    (ofText_eq_ok_iff_of_readWritten read).mpr rfl
  obtain ⟨accepted, given⟩ := ofText_object read
  obtain ⟨release, breaking⟩ := accepted.mp ⟨nestedRule, spelled⟩
  exact ⟨read, spelled, release, breaking, (given nestedRule spelled).1⟩

end Rule
end ReleaseAnalysis
