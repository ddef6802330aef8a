import ReleaseAnalysis.Proofs.Json.Places
import ReleaseAnalysis.Proofs.Pattern.Compilation

/-!
# Where a value does not compile

A string between slashes, with no line break inside, is a regular expression
(`Pattern.regexBody_eq_some_iff`). A value is at fault at a place when the string that stands there
is a regular expression that does not compile (`Json.FaultyAt`).

A value compiles when it is nowhere at fault (`Pattern.exists_compile_ok_iff`). Otherwise the error
is that of the first place at fault, going through the value depth first, and it carries the path
of that place (`Pattern.compile_eq_error_iff`).
-/

set_option autoImplicit false

namespace ReleaseAnalysis

/-! ## Regular expressions among the strings -/

namespace Pattern

variable {path text body : String} {cause : AnalysisError}

/-- A text is a regular expression: a body of one line between slashes. -/
structure IsRegex (text body : String) : Prop where
  slashed : text = "/" ++ body ++ "/"
  oneLine : '\n' ∉ body.toList ∧ '\r' ∉ body.toList

theorem slashed_iff : text = "/" ++ body ++ "/" ↔ text.toList = '/' :: body.toList ++ ['/'] := by
  rw [← String.toList_inj, String.toList_append, String.toList_append]
  rfl

theorem isRegex_iff :
    IsRegex text body ↔ text.toList = '/' :: body.toList ++ ['/'] ∧
      '\n' ∉ body.toList ∧ '\r' ∉ body.toList :=
  ⟨fun regex => ⟨slashed_iff.mp regex.slashed, regex.oneLine⟩,
    fun both => ⟨slashed_iff.mpr both.1, both.2⟩⟩

/-- The body that is taken out of a text makes it a regular expression. -/
theorem regexBody_eq_some_iff : regexBody text = some body ↔ IsRegex text body := by
  rw [isRegex_iff, regexBody]
  split
  case h_2 other =>
    constructor
    · exact nofun
    · rintro ⟨slashed, _⟩
      exact absurd slashed (other _)
  case h_1 rest opened =>
    rw [opened, List.cons_append, List.cons.injEq, and_iff_right rfl]
    split
    case h_2 other =>
      constructor
      · exact nofun
      · rintro ⟨rfl, _⟩
        exact absurd List.reverse_concat (other _)
    case h_1 reversed closed =>
      have spelled : rest = reversed.reverse ++ ['/'] := by
        rw [← List.reverse_reverse rest, closed, List.reverse_cons]
      rw [spelled, List.append_cancel_right_eq]
      split
      case isTrue broken =>
        constructor
        · exact nofun
        · rintro ⟨whole, noFeed, noReturn⟩
          rw [← whole, List.mem_reverse] at noFeed noReturn
          simp [noFeed, noReturn] at broken
      case isFalse unbroken =>
        simp only [Bool.or_eq_true, List.contains_iff_mem, not_or] at unbroken
        rw [Option.some.injEq, ← String.toList_inj, String.toList_ofList]
        constructor
        · intro whole
          rw [← whole, List.mem_reverse, List.mem_reverse]
          exact ⟨rfl, unbroken⟩
        · exact And.left

end Pattern

/-! ## Places at fault -/

namespace Json

variable {value part : Json} {step : Step} {place rest : Place} {reason : String}

/-- At a place of a value stands a regular expression that does not compile, for a reason. -/
def FaultyAt (value : Json) (place : Place) (reason : String) : Prop :=
  ∃ text body fault, value.at? place = some (.ofString text) ∧ Pattern.IsRegex text body ∧
    Regex.compile body = .error fault ∧ reason = fault.message

/-- A value is nowhere at fault. -/
def Faultless (value : Json) : Prop := ∀ place reason, ¬ value.FaultyAt place reason

/-- A place at fault such that no place before it is. -/
structure FirstFaultAt (value : Json) (place : Place) (reason : String) : Prop where
  faulty : value.FaultyAt place reason
  first : ∀ earlier : Place, earlier.Before place → ∀ other, ¬ value.FaultyAt earlier other

theorem faultyAt_cons_iff :
    value.FaultyAt (step :: rest) reason ↔
      ∃ part, value.part? step = some part ∧ part.FaultyAt rest reason := by
  simp only [FaultyAt, at?_cons_eq_some_iff]
  constructor
  · rintro ⟨text, body, fault, ⟨part, leads, stands⟩, others⟩
    exact ⟨part, leads, text, body, fault, stands, others⟩
  · rintro ⟨part, leads, text, body, fault, stands, others⟩
    exact ⟨text, body, fault, ⟨part, leads, stands⟩, others⟩

/-- An array or object is at fault within its parts only. -/
theorem not_faultyAt_nil (composite : value.IsComposite) : ¬ value.FaultyAt [] reason := by
  rintro ⟨text, _, _, stands, _⟩
  exact composite (.string text) (Option.some.inj stands)

theorem faultless_iff (normal : value.Normal) (composite : value.IsComposite) :
    value.Faultless ↔ ∀ entry ∈ value.parts, entry.2.Faultless := by
  constructor
  · intro faultless entry listed place reason faulty
    have leads := (part?_eq_some_iff normal).mpr listed
    exact faultless (entry.1 :: place) reason (faultyAt_cons_iff.mpr ⟨entry.2, leads, faulty⟩)
  · intro all place reason faulty
    cases place with
    | nil => exact not_faultyAt_nil composite faulty
    | cons step rest =>
      obtain ⟨part, leads, faulty⟩ := faultyAt_cons_iff.mp faulty
      exact all (step, part) ((part?_eq_some_iff normal).mp leads) rest reason faulty

/-- The first fault is the first one of a part such that the parts before it have none. -/
theorem firstFaultAt_cons_iff (normal : value.Normal) :
    value.FirstFaultAt (step :: rest) reason ↔
      ∃ before part after, value.parts = before ++ (step, part) :: after ∧
        (∀ entry ∈ before, entry.2.Faultless) ∧ part.FirstFaultAt rest reason := by
  constructor
  · rintro ⟨faulty, first⟩
    obtain ⟨part, leads, faulty⟩ := faultyAt_cons_iff.mp faulty
    obtain ⟨before, after, split⟩ := List.append_of_mem ((part?_eq_some_iff normal).mp leads)
    refine ⟨before, part, after, split, ?_, faulty, ?_⟩
    · intro entry inside place other wrong
      have listed : entry ∈ value.parts := split ▸ List.mem_append_left _ inside
      have sorted := split ▸ pairwise_parts normal
      have earlier : entry.1.Before step :=
        (List.pairwise_append.mp sorted).2.2 entry inside _ List.mem_cons_self
      refine first (entry.1 :: place) (.rel earlier) other ?_
      exact faultyAt_cons_iff.mpr ⟨entry.2, (part?_eq_some_iff normal).mpr listed, wrong⟩
    · intro place earlier other wrong
      exact first (step :: place) (.cons earlier) other (faultyAt_cons_iff.mpr ⟨part, leads, wrong⟩)
  · rintro ⟨before, part, after, split, sound, faulty, first⟩
    have sorted := split ▸ pairwise_parts normal
    have leads : value.part? step = some part :=
      (part?_eq_some_iff normal).mpr (split ▸ List.mem_append_right _ List.mem_cons_self)
    refine ⟨faultyAt_cons_iff.mpr ⟨part, leads, faulty⟩, ?_⟩
    intro earlier less other wrong
    cases less with
    | nil => exact not_faultyAt_nil (isComposite_of_part? leads) wrong
    | cons less =>
      obtain ⟨again, same, wrong⟩ := faultyAt_cons_iff.mp wrong
      cases leads.symm.trans same
      exact first _ less other wrong
    | @rel previous places _ _ less =>
      -- A part of an earlier step is listed before the part at fault.
      obtain ⟨again, reached, wrong⟩ := faultyAt_cons_iff.mp wrong
      have listed : (previous, again) ∈ before ++ (step, part) :: after :=
        split ▸ (part?_eq_some_iff normal).mp reached
      rcases List.mem_append.mp listed with inside | behind
      · exact sound _ inside places other wrong
      · rcases List.mem_cons.mp behind with same | later
        · cases same
          exact less.irrefl
        · have order := (List.pairwise_cons.mp (List.pairwise_append.mp sorted).2.1).1 _ later
          exact less.asymm order

end Json

/-! ## Compiling a value -/

namespace Pattern

variable {path text : String} {value : Json} {cause : AnalysisError}

theorem compileString_eq_error_iff :
    compileString path text = .error cause ↔
      ∃ body fault, IsRegex text body ∧ Regex.compile body = .error fault ∧
        cause = .pattern path fault.message := by
  simp only [← regexBody_eq_some_iff]
  unfold compileString
  cases regexBody text with
  | none => simp
  | some body =>
    simp only [Option.some.injEq, exists_and_left, exists_eq_left']
    cases Regex.compile body with
    | ok compiled => simp
    | error fault => simp [eq_comm]

/-- A scalar does not compile when it stands at fault itself. -/
theorem compile_scalar_eq_error_iff {found : Scalar} :
    compile path (.scalar found) = .error cause ↔
      ∃ reason, (Json.scalar found).FaultyAt [] reason ∧ cause = .pattern path reason := by
  cases found with
  | string text =>
    rw [compile, compileScalar, compileString_eq_error_iff]
    constructor
    · rintro ⟨body, fault, regex, failed, rfl⟩
      exact ⟨_, ⟨text, body, fault, rfl, regex, failed, rfl⟩, rfl⟩
    · rintro ⟨_, ⟨_, body, fault, stands, regex, failed, rfl⟩, rfl⟩
      cases stands
      exact ⟨body, fault, regex, failed, rfl⟩
  | null | bool _ | number _ =>
    constructor
    · exact nofun
    · rintro ⟨_, ⟨_, _, _, stands, _⟩, _⟩
      cases stands

theorem itemPath_eq (index : Nat) : itemPath path index = path ++ (Json.Step.item index).text := by
  rw [itemPath, Json.Step.text, String.append_assoc, String.append_assoc, String.append_assoc]

theorem memberPath_eq (name : String) :
    memberPath path name = path ++ (Json.Step.member name).text :=
  String.append_assoc

/-- The pattern of a part, at the path that its step leads to. -/
def compilePart (path : String) (entry : Json.Step × Json) : Except AnalysisError Pattern :=
  compile (path ++ entry.1.text) entry.2

theorem compilePart_itemPart (item : Json) (index : Nat) :
    compilePart path (Json.itemPart (item, index)) = compile (itemPath path index) item := by
  rw [itemPath_eq]
  rfl

theorem compilePart_memberPart (name : String) :
    compilePart path (Json.memberPart (name, value)) = compile (memberPath path name) value := by
  rw [memberPath_eq]
  rfl

/-- Items are compiled as the parts of their array. -/
theorem compileItems_eq_mapM (items : List Json) (index : Nat) :
    compileItems path index items =
      ((items.zipIdx index).map Json.itemPart).mapM (compilePart path) := by
  induction items generalizing index with
  | nil => rfl
  | cons item rest ih =>
    rw [compileItems, ih, List.zipIdx_cons, List.map_cons, List.mapM_cons, compilePart_itemPart]

theorem compileMembers_eq_error_iff {members : Members} :
    compileMembers path members = .error cause ↔
      (members.map Json.memberPart).mapM (compilePart path) = .error cause := by
  induction members with
  | nil => simp [compileMembers, pure, Except.pure]
  | cons member rest ih =>
    obtain ⟨name, value⟩ := member
    rw [List.map_cons, mapM_cons_eq_error_iff, ← ih, compilePart_memberPart, compileMembers]
    cases compile (memberPath path name) value with
    | error inner => simp [bind, Except.bind]
    | ok pattern => cases compileMembers path rest <;> simp [bind, Except.bind, pure, Except.pure]

/-- An array or object fails to compile as its parts do, one after the other. -/
theorem compile_eq_error_iff_parts (composite : value.IsComposite) :
    compile path value = .error cause ↔ value.parts.mapM (compilePart path) = .error cause := by
  cases value with
  | scalar found => exact absurd rfl (composite found)
  | array items => rw [Json.parts, compile, map_eq_error_iff, compileItems_eq_mapM]
  | object members =>
    rw [Json.parts, compile, map_eq_error_iff, compileMembers_eq_error_iff]

/-- An array or object compiles when its parts do. -/
theorem exists_compile_ok_iff_parts (composite : value.IsComposite) :
    (∃ pattern, compile path value = .ok pattern) ↔
      ∀ entry ∈ value.parts, ∃ pattern, compilePart path entry = .ok pattern := by
  rw [← exists_mapM_ok_iff]
  simp only [exists_ok_iff, ne_eq, compile_eq_error_iff_parts composite]

/-- **A value compiles when it is nowhere at fault.** -/
theorem exists_compile_ok_iff (normal : value.Normal) :
    (∃ pattern, compile path value = .ok pattern) ↔ value.Faultless := by
  induction value using Json.partsInduction generalizing path with | _ value ih => ?_
  rcases value.exists_scalar_or_isComposite with ⟨found, rfl⟩ | composite
  · rw [exists_ok_iff]
    constructor
    · intro compiles place reason faulty
      cases place with
      | nil => exact compiles _ (compile_scalar_eq_error_iff.mpr ⟨reason, faulty, rfl⟩)
      | cons step rest =>
        obtain ⟨part, leads, _⟩ := Json.faultyAt_cons_iff.mp faulty
        cases leads
    · intro faultless cause failed
      obtain ⟨reason, faulty, _⟩ := compile_scalar_eq_error_iff.mp failed
      exact faultless [] reason faulty
  · rw [exists_compile_ok_iff_parts composite, Json.faultless_iff normal composite]
    refine forall₂_congr fun entry listed => ?_
    exact ih entry listed (Json.normal_of_mem_parts normal listed)

/-- **A value that does not compile fails at the first place at fault, with the path of that
place.** -/
theorem compile_eq_error_iff (normal : value.Normal) :
    compile path value = .error cause ↔
      ∃ place reason, value.FirstFaultAt place reason ∧
        cause = .pattern (place.pathFrom path) reason := by
  induction value using Json.partsInduction generalizing path with | _ value ih => ?_
  rcases value.exists_scalar_or_isComposite with ⟨found, rfl⟩ | composite
  · rw [compile_scalar_eq_error_iff]
    constructor
    · rintro ⟨reason, faulty, rfl⟩
      exact ⟨[], reason, ⟨faulty, nofun⟩, rfl⟩
    · rintro ⟨place, reason, ⟨faulty, _⟩, rfl⟩
      cases place with
      | nil => exact ⟨reason, faulty, rfl⟩
      | cons step rest =>
        obtain ⟨part, leads, _⟩ := Json.faultyAt_cons_iff.mp faulty
        cases leads
  · rw [compile_eq_error_iff_parts composite, mapM_eq_error_iff]
    constructor
    · rintro ⟨before, ⟨step, part⟩, after, split, passed, failed⟩
      have inside : (step, part) ∈ value.parts :=
        split ▸ List.mem_append_right _ List.mem_cons_self
      obtain ⟨rest, reason, first, rfl⟩ :=
        (ih _ inside (Json.normal_of_mem_parts normal inside)).mp failed
      refine ⟨step :: rest, reason, ?_, rfl⟩
      refine (Json.firstFaultAt_cons_iff normal).mpr ⟨before, part, after, split, ?_, first⟩
      intro entry earlier
      have listed : entry ∈ value.parts := split ▸ List.mem_append_left _ earlier
      exact (exists_compile_ok_iff (Json.normal_of_mem_parts normal listed)).mp
        (passed entry earlier)
    · rintro ⟨place, reason, first, rfl⟩
      cases place with
      | nil => exact absurd first.faulty (Json.not_faultyAt_nil composite)
      | cons step rest =>
        obtain ⟨before, part, after, split, sound, first⟩ :=
          (Json.firstFaultAt_cons_iff normal).mp first
        have inside : (step, part) ∈ value.parts :=
          split ▸ List.mem_append_right _ List.mem_cons_self
        refine ⟨before, (step, part), after, split, ?_, ?_⟩
        · intro entry earlier
          have listed : entry ∈ value.parts := split ▸ List.mem_append_left _ earlier
          exact (exists_compile_ok_iff (Json.normal_of_mem_parts normal listed)).mpr
            (sound entry earlier)
        · exact (ih _ inside (Json.normal_of_mem_parts normal inside)).mpr
            ⟨rest, reason, first, rfl⟩

end Pattern
end ReleaseAnalysis
