import ReleaseAnalysis.Proofs.Number.Rounding
import ReleaseAnalysis.Proofs.Pattern.Acceptance

/-!
# Matching without regular expressions

A value is free of slashes when none of its strings is a regular expression. Then every scalar in it
is compared, so it admits a value that has the same scalar, or is an array or object like itself,
and whose parts are admitted by its own (`Json.IsLiteral.admits_iff`).

From this one statement the laws of a preorder follow by induction on the parts. A value admits
itself, and what it admits can be chained (`Json.Admits.trans`). Two values admit each other exactly
when they are equal once every number is rounded (`Json.rounded`). What is admitted stays admitted
when members are added or items appended at any place (`Json.Extends`). The laws are put together in
`Pattern.accepts_preorder`.
-/

set_option autoImplicit false

namespace ReleaseAnalysis

/-! ## Values without regular expressions -/

/-- A scalar that is no regular expression. -/
def Scalar.SlashFree : Scalar → Prop
  | .string text => ∀ body, ¬ Pattern.IsRegex text body
  | _ => True

theorem Scalar.slashFree_string_iff {text : String} :
    Scalar.SlashFree (.string text) ↔ Pattern.regexBody text = none := by
  rw [Option.eq_none_iff_forall_ne_some]
  exact forall_congr' fun body => not_congr Pattern.regexBody_eq_some_iff.symm

instance : DecidablePred Scalar.SlashFree
  | .string _ => decidable_of_iff _ Scalar.slashFree_string_iff.symm
  | .null | .bool _ | .number _ => isTrue trivial

/-- No string in a value is a regular expression; the names of members do not count. -/
def Json.SlashFree (value : Json) : Prop := value.Each Scalar.SlashFree

instance : DecidablePred Json.SlashFree :=
  fun value => inferInstanceAs (Decidable (value.Each Scalar.SlashFree))

namespace Json

variable {value other : Json}

/-- Normal values are the same if they have the same head and the same parts. -/
theorem eq_of_parts (heads : Heads Eq value other) (normal : value.Normal)
    (otherNormal : other.Normal) (same : ∀ step, value.part? step = other.part? step) :
    value = other := by
  cases heads with
  | scalar equal => rw [equal]
  | array items others =>
    have items := List.ext_getElem? fun index => same (.item index)
    rw [items]
  | object members others =>
    obtain ⟨increasing, _⟩ := normal_object_iff.mp normal
    obtain ⟨sorted, _⟩ := normal_object_iff.mp otherNormal
    have members := increasing.ext sorted fun name => same (.member name)
    rw [members]

end Json

/-- The scalar with its number rounded, if it is one. -/
def Scalar.rounded : Scalar → Scalar
  | .number value => .number value.rounded
  | value => value

/-- Two scalars that are the same once numbers are rounded. -/
def Scalar.SameRounded (found other : Scalar) : Prop := found.rounded = other.rounded

namespace Json

mutual

/-- The value with all its numbers rounded. -/
def rounded : Json → Json
  | .scalar value => .scalar value.rounded
  | .array items => .array (roundedItems items)
  | .object members => .object (roundedMembers members)

/-- Every item rounded. -/
def roundedItems : List Json → List Json
  | [] => []
  | item :: rest => rounded item :: roundedItems rest

/-- Every member's value rounded. -/
def roundedMembers : List (String × Json) → List (String × Json)
  | [] => []
  | (name, value) :: rest => (name, rounded value) :: roundedMembers rest

end

variable {value other part : Json} {step : Step}

theorem roundedItems_eq_map (items : List Json) : roundedItems items = items.map rounded := by
  induction items with
  | nil => rfl
  | cons item rest ih => rw [roundedItems, ih, List.map_cons]

theorem roundedMembers_eq_map (members : Members) :
    roundedMembers members = members.map fun member => (member.1, member.2.rounded) := by
  induction members with
  | nil => rfl
  | cons member rest ih => rw [roundedMembers, ih, List.map_cons]

theorem get?_roundedMembers (members : Members) (name : String) :
    Members.get? (roundedMembers members) name = (members.get? name).map rounded := by
  rw [roundedMembers_eq_map, Members.get?_map_values]

/-- The parts of a rounded value are the rounded parts of the value. -/
theorem part?_rounded (value : Json) (step : Step) :
    value.rounded.part? step = (value.part? step).map rounded := by
  cases value with
  | scalar found => rfl
  | array items =>
    cases step with
    | member name => rfl
    | item index => rw [rounded, roundedItems_eq_map, part?, part?, List.getElem?_map]
  | object members =>
    cases step with
    | item index => rfl
    | member name => rw [rounded, part?, part?, get?_roundedMembers]

theorem normal_rounded (normal : value.Normal) : value.rounded.Normal := by
  induction normal with
  | scalar found => exact .scalar _
  | @array items _ ih =>
    rw [rounded, roundedItems_eq_map]
    exact .array (List.forall_mem_map.mpr ih)
  | @object members increasing _ ih =>
    rw [rounded, roundedMembers_eq_map]
    exact .object (List.pairwise_map.mpr increasing) (List.forall_mem_map.mpr ih)

theorem heads_rounded_iff :
    Heads Eq value.rounded other.rounded ↔ Heads Scalar.SameRounded value other := by
  constructor
  · intro heads
    cases value <;> cases other <;> cases heads
    · exact .scalar ‹_›
    · exact .array _ _
    · exact .object _ _
  · intro heads
    cases heads with
    | scalar same => exact .scalar same
    | array items others => exact .array _ _
    | object members others => exact .object _ _

/-! ## Values that extend others -/

/-- Whatever stands at a place of a value stands there in the larger one as well: the same scalar,
or an array or object, which may have more parts. -/
def Extends (larger value : Json) : Prop :=
  ∀ place part, value.at? place = some part → ∃ found, larger.at? place = some found ∧
    Heads Eq part found

variable {larger : Json}

theorem Extends.heads (extended : larger.Extends value) : Heads Eq value larger := by
  obtain ⟨found, stands, heads⟩ := extended [] value rfl
  cases stands
  exact heads

theorem Extends.part? (extended : larger.Extends value) (leads : value.part? step = some part) :
    ∃ found, larger.part? step = some found ∧ found.Extends part := by
  have below : ∀ rest inner, part.at? rest = some inner →
      ∃ found, larger.at? (step :: rest) = some found ∧ Heads Eq inner found :=
    fun rest inner stands =>
      extended (step :: rest) inner (at?_cons_eq_some_iff.mpr ⟨part, leads, stands⟩)
  obtain ⟨_, stands, _⟩ := below [] part rfl
  obtain ⟨found, reached, _⟩ := at?_cons_eq_some_iff.mp stands
  refine ⟨found, reached, fun rest inner stands => ?_⟩
  obtain ⟨last, stands, heads⟩ := below rest inner stands
  obtain ⟨again, same, stands⟩ := at?_cons_eq_some_iff.mp stands
  cases reached.symm.trans same
  exact ⟨last, stands, heads⟩

end Json

namespace Pattern

/-- A scalar that is no regular expression is compared. -/
theorem compileScalar_of_slashFree {found : Scalar} (free : found.SlashFree) (path : String) :
    compileScalar path found = .ok (.literal found) := by
  cases found with
  | string text => rw [compileScalar, compileString, Scalar.slashFree_string_iff.mp free]
  | null | bool _ | number _ => rfl

theorem acceptsScalar_iff {expected found : Scalar} :
    acceptsScalar expected (.scalar found) = true ↔ expected.SameRounded found := by
  rw [Scalar.SameRounded]
  cases expected <;> cases found <;>
    simp [acceptsScalar, Scalar.rounded, Number.sameValue_iff]

end Pattern

/-! ## What a value without regular expressions admits -/

namespace Json

variable {value other third larger part : Json} {path otherPath : String} {step : Step}

/-- A normal value none of whose strings is a regular expression. -/
structure IsLiteral (value : Json) : Prop where
  normal : value.Normal
  slashFree : value.SlashFree

theorem SlashFree.of_mem_parts {entry : Step × Json} (free : value.SlashFree)
    (listed : entry ∈ value.parts) : entry.2.SlashFree := by
  cases free with
  | scalar holds => cases listed
  | array all =>
    obtain ⟨⟨item, index⟩, inside, rfl⟩ := List.mem_map.mp listed
    exact all item (List.fst_mem_of_mem_zipIdx inside)
  | object all =>
    obtain ⟨member, inside, rfl⟩ := List.mem_map.mp listed
    exact all member inside

theorem IsLiteral.mem_parts (literal : value.IsLiteral) (leads : value.part? step = some part) :
    (step, part) ∈ value.parts :=
  (part?_eq_some_iff literal.normal).mp leads

theorem IsLiteral.of_part? (literal : value.IsLiteral) (leads : value.part? step = some part) :
    part.IsLiteral :=
  ⟨normal_of_mem_parts literal.normal (literal.mem_parts leads),
    literal.slashFree.of_mem_parts (literal.mem_parts leads)⟩

/-- A scalar admits the scalars that are rounded to the same. -/
theorem scalar_admits_iff {found : Scalar} (free : found.SlashFree) :
    (scalar found).Admits path other ↔ Heads Scalar.SameRounded (scalar found) other := by
  have compiled : Pattern.compile path (scalar found) = .ok (.literal found) :=
    Pattern.compileScalar_of_slashFree free path
  rw [admits_iff_of_compile compiled, Pattern.accepts]
  cases other with
  | scalar value =>
    rw [Pattern.acceptsScalar_iff]
    constructor
    · exact .scalar
    · rintro ⟨same⟩
      exact same
  | array items | object members =>
    refine iff_of_false Bool.false_ne_true ?_
    rintro ⟨⟩

/-- **A value without regular expressions admits what has its head and admitted parts.** -/
theorem IsLiteral.admits_iff (literal : value.IsLiteral) :
    value.Admits path other ↔
      Heads Scalar.SameRounded value other ∧ value.AdmitsParts path other := by
  rcases value.exists_scalar_or_isComposite with ⟨found, rfl⟩ | composite
  · rw [scalar_admits_iff (each_scalar_iff.mp literal.slashFree)]
    have noParts : (scalar found).AdmitsParts path other := nofun
    exact (and_iff_left noParts).symm
  · exact admits_composite_iff _ literal.normal composite

/-! ## The laws -/

/-- Values that are the same once rounded admit each other. -/
theorem IsLiteral.admits_of_rounded_eq (literal : value.IsLiteral)
    (same : value.rounded = other.rounded) (path : String) : value.Admits path other := by
  induction value using partsInduction generalizing path other with | _ value ih => ?_
  refine literal.admits_iff.mpr ⟨?_, fun step part leads => ?_⟩
  · exact heads_rounded_iff.mp (same ▸ heads_refl (fun _ => rfl) _)
  · have reached : (other.part? step).map rounded = some part.rounded := by
      rw [← part?_rounded, ← same, part?_rounded, leads]
      rfl
    obtain ⟨found, stands, equal⟩ := Option.map_eq_some_iff.mp reached
    exact ⟨found, stands, ih _ (literal.mem_parts leads) (literal.of_part? leads) equal.symm _⟩

/-- What is admitted can be chained, whatever the paths of the two values. -/
theorem Admits.trans (first : value.Admits path other) (second : other.Admits otherPath third)
    (literal : value.IsLiteral) (otherLiteral : other.IsLiteral) : value.Admits path third := by
  induction value using partsInduction generalizing path other otherPath third with
    | _ value ih => ?_
  obtain ⟨heads, parts⟩ := literal.admits_iff.mp first
  obtain ⟨otherHeads, otherParts⟩ := otherLiteral.admits_iff.mp second
  refine literal.admits_iff.mpr ⟨heads.trans Eq.trans otherHeads, ?_⟩
  intro step part leads
  obtain ⟨middle, reached, firstPart⟩ := parts step part leads
  obtain ⟨last, stands, secondPart⟩ := otherParts step middle reached
  exact ⟨last, stands, ih _ (literal.mem_parts leads) firstPart secondPart (literal.of_part? leads)
    (otherLiteral.of_part? reached)⟩

/-- Values that admit each other are the same once rounded. -/
theorem Admits.rounded_eq (first : value.Admits path other) (second : other.Admits otherPath value)
    (literal : value.IsLiteral) (otherLiteral : other.IsLiteral) :
    value.rounded = other.rounded := by
  induction value using partsInduction generalizing path other otherPath with | _ value ih => ?_
  obtain ⟨heads, parts⟩ := literal.admits_iff.mp first
  obtain ⟨_, otherParts⟩ := otherLiteral.admits_iff.mp second
  refine eq_of_parts (heads_rounded_iff.mpr heads) (normal_rounded literal.normal)
    (normal_rounded otherLiteral.normal) fun step => ?_
  rw [part?_rounded, part?_rounded]
  -- A step leads into both values or into neither, since each admits the other.
  cases leads : value.part? step with
  | none =>
    cases reached : other.part? step with
    | none => rfl
    | some found =>
      obtain ⟨part, again, _⟩ := otherParts step found reached
      rw [leads] at again
      cases again
  | some part =>
    obtain ⟨found, reached, firstPart⟩ := parts step part leads
    obtain ⟨again, same, secondPart⟩ := otherParts step found reached
    cases leads.symm.trans same
    rw [reached, Option.map_some, Option.map_some,
      ih _ (literal.mem_parts leads) firstPart secondPart (literal.of_part? leads)
        (otherLiteral.of_part? reached)]

/-- What is admitted stays admitted in a larger value. -/
theorem Admits.of_extends (admitted : value.Admits path other) (extended : larger.Extends other)
    (literal : value.IsLiteral) : value.Admits path larger := by
  induction value using partsInduction generalizing path other larger with | _ value ih => ?_
  obtain ⟨heads, parts⟩ := literal.admits_iff.mp admitted
  have grown : Heads Scalar.SameRounded other larger :=
    extended.heads.imp (congrArg Scalar.rounded)
  refine literal.admits_iff.mpr ⟨heads.trans Eq.trans grown, ?_⟩
  intro step part leads
  obtain ⟨middle, reached, inner⟩ := parts step part leads
  obtain ⟨found, stands, extended⟩ := extended.part? reached
  exact ⟨found, stands, ih _ (literal.mem_parts leads) inner extended (literal.of_part? leads)⟩

end Json

/-- **Matching without regular expressions is a preorder.** Two values without regular expressions
compile, at any paths. The pattern of a value accepts the value; acceptance can be chained through
the second value to any third; two values accept each other exactly when they are the same once
their numbers are rounded; and what a pattern accepts it accepts with more members and items at any
place. -/
theorem Pattern.accepts_preorder {value other : Json} (normal : value.Normal)
    (free : value.SlashFree) (otherNormal : other.Normal) (otherFree : other.SlashFree)
    (path otherPath : String) :
    ∃ pattern otherPattern, compile path value = .ok pattern ∧
      compile otherPath other = .ok otherPattern ∧
      accepts pattern value = true ∧
      (∀ third, accepts pattern other = true → accepts otherPattern third = true →
        accepts pattern third = true) ∧
      (accepts pattern other = true ∧ accepts otherPattern value = true ↔
        value.rounded = other.rounded) ∧
      ∀ third larger : Json, larger.Extends third → accepts pattern third = true →
        accepts pattern larger = true := by
  have literal : value.IsLiteral := ⟨normal, free⟩
  have otherLiteral : other.IsLiteral := ⟨otherNormal, otherFree⟩
  obtain ⟨pattern, compiled, accepted⟩ := literal.admits_of_rounded_eq rfl path
  obtain ⟨otherPattern, otherCompiled, _⟩ := otherLiteral.admits_of_rounded_eq rfl otherPath
  refine ⟨pattern, otherPattern, compiled, otherCompiled, accepted, ?_⟩
  simp only [← Json.admits_iff_of_compile compiled, ← Json.admits_iff_of_compile otherCompiled]
  refine ⟨?_, ?_, ?_⟩
  · intro third first second
    exact first.trans second literal otherLiteral
  · constructor
    · rintro ⟨first, second⟩
      exact first.rounded_eq second literal otherLiteral
    · intro same
      exact ⟨literal.admits_of_rounded_eq same path,
        otherLiteral.admits_of_rounded_eq same.symm otherPath⟩
  · intro third larger extended admitted
    exact admitted.of_extends extended literal

/-- A value with a note, whose text has slashes around a line break. -/
def levelNote : Json :=
  .object
    [ ("notes", .array
        [.object [("level", .scalar (.number (.int 1))), ("text", .ofString "/a\nb/")]]) ]

/-- The floating-point number one. -/
def Binary64.one : Binary64 := ⟨false, 1023 * blockSize, by decide⟩

/-- The value with another way to write its number, a further note and a further member. -/
def scopedNote : Json :=
  .object
    [ ("notes", .array
        [ .object [("level", .scalar (.number (.float .one))), ("text", .ofString "/a\nb/")],
          .ofString "Renamed" ]),
      ("scope", .ofString "cli") ]

/-- The value admits the larger one and whatever that admits, but is not admitted by it. -/
theorem Pattern.accepts_preorder_levelNote :
    levelNote.Normal ∧ levelNote.SlashFree ∧ scopedNote.Normal ∧ scopedNote.SlashFree ∧
      ∃ pattern otherPattern, compile "notes" levelNote = .ok pattern ∧
        compile "notes" scopedNote = .ok otherPattern ∧
        accepts pattern scopedNote = true ∧ accepts otherPattern levelNote = false ∧
        ∀ third, accepts otherPattern third = true → accepts pattern third = true := by
  have normal : levelNote.Normal ∧ scopedNote.Normal := by decide
  have free : levelNote.SlashFree ∧ scopedNote.SlashFree := by decide
  obtain ⟨pattern, otherPattern, compiled, otherCompiled, _, chained, _⟩ :=
    accepts_preorder normal.1 free.1 normal.2 free.2 "notes" "notes"
  have accepted : accepts pattern scopedNote = true := by
    cases compiled
    decide +kernel
  have refused : accepts otherPattern levelNote = false := by
    cases otherCompiled
    decide +kernel
  refine ⟨normal.1, free.1, normal.2, free.2, pattern, otherPattern, compiled, otherCompiled,
    accepted, refused, fun third => chained third accepted⟩

end ReleaseAnalysis
