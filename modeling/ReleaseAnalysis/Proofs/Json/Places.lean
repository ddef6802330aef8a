import ReleaseAnalysis.Proofs.Json.Normal

/-!
# Places in a value

Members are found by their names. Of members that are put in order the one that was written last
under a name is found (`Members.get?_ofList`), and members in order are known from what is found
among them (`Members.Increasing.ext`).

A step leads from an array to one of its items or from an object to one of its members. A place is a
list of steps, and what stands at a place is found by taking them one after the other (`Json.at?`).

Places are compared step by step: items come in the order of their indices and members in the order
of their names, so of two parts of a value the one that stands at the earlier place is met first
when the value is gone through depth first. In a normal value the parts of an array or object are
listed in that order (`Json.pairwise_parts`), and the listed parts are those that steps lead to
(`Json.part?_eq_some_iff`). A value can be set at a place (`Json.set`); only the step to the place
then leads to another part.
-/

set_option autoImplicit false

namespace ReleaseAnalysis

/-! ## Members that are found -/

namespace Members

variable {members : Members} {name : String} {value : Json}

theorem get?_cons (member : String × Json) (rest : Members) (name : String) :
    get? (member :: rest) name = if name = member.1 then some member.2 else rest.get? name := by
  rw [get?, get?, List.lookup_cons]
  by_cases same : name = member.1
  · rw [if_pos same, same, beq_self_eq_true]
  · rw [if_neg same, beq_false_of_ne same]

theorem mem_of_get? (found : members.get? name = some value) : (name, value) ∈ members := by
  induction members with
  | nil => cases found
  | cons member rest ih =>
    rw [get?_cons] at found
    split at found
    case isTrue same =>
      cases found
      exact same ▸ List.mem_cons_self
    case isFalse => exact List.mem_cons_of_mem _ (ih found)

/-- A name that some member bears is found. -/
theorem exists_get?_of_mem (listed : (name, value) ∈ members) :
    ∃ found, members.get? name = some found := by
  cases found : members.get? name with
  | some first => exact ⟨first, rfl⟩
  | none =>
    have other := List.lookup_eq_none_iff.mp found _ listed
    simp at other

/-- Members in order that bear the same name are the same. -/
theorem Increasing.eq_of_mem (increasing : members.Increasing) {other : Json}
    (listed : (name, value) ∈ members) (again : (name, other) ∈ members) : value = other := by
  induction members with
  | nil => cases listed
  | cons member rest ih =>
    obtain ⟨before, others⟩ := List.pairwise_cons.mp increasing
    rcases List.mem_cons.mp listed with rfl | inside
    · rcases List.mem_cons.mp again with same | later
      · exact (congrArg Prod.snd same).symm
      · exact absurd (before _ later) (String.lt_irrefl _)
    · rcases List.mem_cons.mp again with rfl | later
      · exact absurd (before _ inside) (String.lt_irrefl _)
      · exact ih others inside later

/-- Among members in order every member is found. -/
theorem Increasing.get?_eq_some_iff (increasing : members.Increasing) :
    members.get? name = some value ↔ (name, value) ∈ members := by
  constructor
  · exact mem_of_get?
  · intro listed
    obtain ⟨found, first⟩ := exists_get?_of_mem listed
    rw [first, increasing.eq_of_mem (mem_of_get? first) listed]

/-- Members in order are the same if they are reordered into each other. -/
theorem Increasing.eq_of_perm {others : Members} (increasing : members.Increasing)
    (sorted : others.Increasing) (same : members.Perm others) : members = others :=
  same.eq_of_pairwise (fun _ _ _ _ less more => absurd more (String.lt_asymm less)) increasing
    sorted

theorem Increasing.nodup (increasing : members.Increasing) : members.Nodup := by
  refine List.Pairwise.imp ?_ increasing
  rintro member _ less rfl
  exact String.lt_irrefl _ less

/-- Members in order are the same if the same values are found among them. -/
theorem Increasing.ext {others : Members} (increasing : members.Increasing)
    (sorted : others.Increasing) (same : ∀ name, members.get? name = others.get? name) :
    members = others := by
  refine increasing.eq_of_perm sorted ?_
  refine (List.perm_ext_iff_of_nodup increasing.nodup sorted.nodup).mpr ?_
  rintro ⟨name, value⟩
  rw [← increasing.get?_eq_some_iff, ← sorted.get?_eq_some_iff, same]

/-- A member is still found among the members of the names that are kept. -/
theorem get?_filter_of (keep : String → Prop) [DecidablePred keep] (kept : keep name) :
    get? (members.filter (keep ·.1)) name = members.get? name := by
  induction members with
  | nil => rfl
  | cons member rest ih =>
    by_cases same : name = member.1
    · rw [List.filter_cons_of_pos (by simpa [← same] using kept), get?_cons, get?_cons,
        if_pos same, if_pos same]
    · rw [List.filter_cons]
      split
      · rw [get?_cons, get?_cons, ih]
      · rw [get?_cons, if_neg same, ih]

/-- No member is found under a name that is not kept. -/
theorem get?_filter_of_not (keep : String → Prop) [DecidablePred keep] (dropped : ¬ keep name) :
    get? (members.filter (keep ·.1)) name = none := by
  refine List.lookup_eq_none_iff.mpr fun member found => ?_
  have kept : keep member.1 := by simpa using (List.mem_filter.mp found).2
  exact bne_iff_ne.mpr fun same => dropped (same ▸ kept)

/-- Where all values are changed, the changed value is found. -/
theorem get?_map_values (change : Json → Json) (members : Members) (name : String) :
    get? (members.map fun member => (member.1, change member.2)) name =
      (members.get? name).map change := by
  induction members with
  | nil => rfl
  | cons member rest ih =>
    rw [List.map_cons, get?_cons, get?_cons, ih]
    by_cases same : name = member.1
    · rw [if_pos same, if_pos same, Option.map_some]
    · rw [if_neg same, if_neg same]

/-- Under the name that is set the new value is found; what is found under other names stays. -/
theorem get?_insert (members : Members) (name : String) (value : Json) (other : String) :
    (members.insert name value).get? other =
      if other = name then some value else members.get? other := by
  induction members with
  | nil => exact get?_cons _ _ _
  | cons member rest ih =>
    obtain ⟨label, old⟩ := member
    rw [insert]
    split
    · rw [get?_cons]
    · split
      case isTrue same =>
        subst same
        rw [get?_cons, get?_cons]
        split
        · rfl
        · rfl
      case isFalse different =>
        rw [get?_cons, get?_cons, ih]
        by_cases found : other = label
        · have apart : ¬ other = name := fun same => different (same ▸ found)
          rw [if_pos found, if_neg apart, if_pos found]
        · rw [if_neg found, if_neg found]

theorem get?_foldl_insert {sorted : Members} (list : List (String × Json)) (name : String) :
    get? (list.foldl (fun sorted next => sorted.insert next.1 next.2) sorted) name =
      (get? list.reverse name).or (sorted.get? name) := by
  induction list generalizing sorted with
  | nil => rfl
  | cons first rest ih =>
    have last : get? (rest.reverse ++ [first]) name =
        (get? rest.reverse name).or (get? [first] name) := List.lookup_append
    rw [List.foldl_cons, ih, get?_insert, List.reverse_cons, last, Option.or_assoc, get?_cons]
    by_cases same : name = first.1
    · rw [if_pos same, if_pos same, Option.some_or]
    · rw [if_neg same, if_neg same]
      rfl

/-- The value that is written last under a name, if there is one. -/
def last? (list : List (String × Json)) (name : String) : Option Json := get? list.reverse name

/-- **Among members that are put in order the value written last under a name is found.** -/
theorem get?_ofList (list : List (String × Json)) (name : String) :
    (ofList list).get? name = last? list name := by
  rw [ofList, get?_foldl_insert]
  exact Option.or_none

/-- It is the same to put members in order and to keep some names, whatever comes first. -/
theorem ofList_filter (keep : String → Prop) [DecidablePred keep] (list : List (String × Json)) :
    ofList (list.filter (keep ·.1)) = (ofList list).filter (keep ·.1) := by
  refine Increasing.ext (increasing_ofList _) ((increasing_ofList _).filter _) fun name => ?_
  rw [get?_ofList, last?, ← List.filter_reverse]
  by_cases kept : keep name
  · rw [get?_filter_of keep kept, get?_filter_of keep kept, get?_ofList, last?]
  · rw [get?_filter_of_not keep kept, get?_filter_of_not keep kept]

/-- The members with the value of a name changed. -/
def modify (members : Members) (name : String) (change : Json → Json) : Members :=
  members.map fun member => if member.1 = name then (name, change member.2) else member

/-- Only the value of the name that is changed is another one. -/
theorem get?_modify (members : Members) (name : String) (change : Json → Json) (other : String) :
    (members.modify name change).get? other =
      if other = name then (members.get? other).map change else members.get? other := by
  rw [modify]
  induction members with
  | nil => exact (ite_self none).symm
  | cons member rest ih =>
    rw [List.map_cons, get?_cons, get?_cons, ih]
    by_cases changed : member.1 = name
    · rw [if_pos changed]
      by_cases found : other = name
      · rw [if_pos found, if_pos found, if_pos (found.trans changed.symm), Option.map_some]
      · have apart : ¬ other = member.1 := fun same => found (same.trans changed)
        rw [if_neg found, if_neg found, if_neg found, if_neg apart]
    · rw [if_neg changed]
      by_cases found : other = member.1
      · have apart : ¬ other = name := fun same => changed (found.symm.trans same)
        rw [if_pos found, if_neg apart, if_pos found]
      · rw [if_neg found, if_neg found]

end Members

/-! ## Steps -/

namespace Json

/-- A step down into a value. -/
inductive Step
  | item (index : Nat)
  | member (name : String)
deriving DecidableEq

namespace Step

/-- Items come in the order of their indices, members in the order of their names. -/
inductive Before : Step → Step → Prop
  | item {first second : Nat} (less : first < second) : Before (item first) (item second)
  | member {first second : String} (less : first < second) : Before (member first) (member second)

theorem Before.irrefl (step : Step) : ¬ step.Before step := by
  intro before
  cases before with
  | item less => exact Nat.lt_irrefl _ less
  | member less => exact String.lt_irrefl _ less

theorem Before.asymm {first second : Step} (before : first.Before second) :
    ¬ second.Before first := by
  intro behind
  cases before with
  | item less =>
    cases behind with
    | item more => exact Nat.lt_asymm less more
  | member less =>
    cases behind with
    | member more => exact String.lt_asymm less more

/-- How a step is written in a path. -/
def text : Step → String
  | item index => "[" ++ String.ofList (Nat.toDigits 10 index) ++ "]"
  | member name => "." ++ name

end Step

/-- A place in a value: the steps that lead there. -/
abbrev Place := List Step

namespace Place

/-- The place that is met first when a value is gone through depth first. -/
def Before : Place → Place → Prop := List.Lex Step.Before

/-- The path of a place in the value that has a path itself. -/
def pathFrom (path : String) : Place → String
  | [] => path
  | step :: rest => pathFrom (path ++ step.text) rest

end Place

/-! ## Parts and what is in them -/

variable {value part : Json} {step : Step} {items : List Json} {members : Members}

/-- The part that a step leads to. -/
def part? : Json → Step → Option Json
  | array items, .item index => items[index]?
  | object members, .member name => Members.get? members name
  | _, _ => none

/-- What stands at a place of a value. -/
def at? (value : Json) : Place → Option Json
  | [] => some value
  | step :: rest => (value.part? step).bind fun part => part.at? rest

/-- The item at an index as a part. -/
def itemPart (entry : Json × Nat) : Step × Json := (.item entry.2, entry.1)

/-- A member as a part. -/
def memberPart (member : String × Json) : Step × Json := (.member member.1, member.2)

/-- The parts of a value, each with the step that leads to it. -/
def parts : Json → List (Step × Json)
  | scalar _ => []
  | array items => items.zipIdx.map itemPart
  | object members => members.map memberPart

theorem at?_cons_eq_some_iff {rest : Place} {found : Json} :
    value.at? (step :: rest) = some found ↔
      ∃ part, value.part? step = some part ∧ part.at? rest = some found :=
  Option.bind_eq_some_iff

/-- The parts of a normal value are those that steps lead to. -/
theorem part?_eq_some_iff (normal : value.Normal) :
    value.part? step = some part ↔ (step, part) ∈ value.parts := by
  cases normal with
  | scalar found => simp [part?, parts]
  | array all =>
    cases step with
    | member name => simp [part?, parts, itemPart]
    | item index =>
      constructor
      · intro found
        exact List.mem_map.mpr ⟨(part, index), List.mem_zipIdx_iff_getElem?.mpr found, rfl⟩
      · intro listed
        obtain ⟨entry, inside, same⟩ := List.mem_map.mp listed
        cases same
        exact List.mem_zipIdx_iff_getElem?.mp inside
  | object increasing all =>
    cases step with
    | item index => simp [part?, parts, memberPart]
    | member name =>
      constructor
      · intro found
        exact List.mem_map.mpr ⟨(name, part), increasing.get?_eq_some_iff.mp found, rfl⟩
      · intro listed
        obtain ⟨member, inside, same⟩ := List.mem_map.mp listed
        cases same
        exact increasing.get?_eq_some_iff.mpr inside

/-- The parts of a normal value stand in the order of their steps. -/
theorem pairwise_parts (normal : value.Normal) :
    value.parts.Pairwise fun first second => first.1.Before second.1 := by
  cases normal with
  | scalar found => exact List.Pairwise.nil
  | @array items all =>
    rw [parts, List.pairwise_map, List.pairwise_iff_getElem]
    intro first second _ _ less
    simp only [itemPart, List.getElem_zipIdx, Nat.zero_add]
    exact .item less
  | object increasing all =>
    rw [parts, List.pairwise_map]
    exact increasing.imp .member

theorem normal_of_mem_parts {entry : Step × Json} (normal : value.Normal)
    (listed : entry ∈ value.parts) : entry.2.Normal := by
  cases normal with
  | scalar found => cases listed
  | array all =>
    obtain ⟨⟨item, index⟩, inside, rfl⟩ := List.mem_map.mp listed
    exact all item (List.fst_mem_of_mem_zipIdx inside)
  | object increasing all =>
    obtain ⟨member, inside, rfl⟩ := List.mem_map.mp listed
    exact all member inside

/-- An array or an object. -/
def IsComposite (value : Json) : Prop := ∀ found, value ≠ scalar found

theorem isComposite_array : (array items).IsComposite := nofun

theorem isComposite_object : (object members).IsComposite := nofun

theorem isComposite_of_part? (found : value.part? step = some part) : value.IsComposite := by
  rintro scalar rfl
  cases found

theorem exists_scalar_or_isComposite (value : Json) :
    (∃ found, value = scalar found) ∨ value.IsComposite := by
  cases value with
  | scalar found => exact .inl ⟨found, rfl⟩
  | array items => exact .inr isComposite_array
  | object members => exact .inr isComposite_object

/-- What passes from the listed parts of a value to the value holds of every value. -/
@[elab_as_elim]
theorem partsInduction {motive : Json → Prop}
    (whole : ∀ value : Json, (∀ entry ∈ value.parts, motive entry.2) → motive value)
    (value : Json) : motive value := by
  induction value with
  | scalar found => exact whole _ nofun
  | array items ih =>
    refine whole _ ?_
    intro entry listed
    obtain ⟨⟨item, index⟩, inside, rfl⟩ := List.mem_map.mp listed
    exact ih item (List.fst_mem_of_mem_zipIdx inside)
  | object members ih =>
    refine whole _ ?_
    intro entry listed
    obtain ⟨member, inside, rfl⟩ := List.mem_map.mp listed
    exact ih member inside

/-! ## Replacing what stands at a place -/

/-- The value with another one at a place, if the place is in it. -/
def set : Json → Place → Json → Json
  | _, [], new => new
  | array items, .item index :: rest, new =>
    array (items.modify index fun item => item.set rest new)
  | object members, .member name :: rest, new =>
    object (Members.modify members name fun value => value.set rest new)
  | value, _, _ => value

variable {new : Json}

/-- The step to the place leads to the part with the rest of the place set. -/
theorem part?_set_self (leads : value.part? step = some part) (rest : Place) (new : Json) :
    (value.set (step :: rest) new).part? step = some (part.set rest new) := by
  cases value with
  | scalar found => cases leads
  | array items =>
    cases step with
    | member name => cases leads
    | item index =>
      have listed : items[index]? = some part := leads
      rw [set, part?, List.getElem?_modify_eq, listed]
      rfl
  | object members =>
    cases step with
    | item index => cases leads
    | member name =>
      have listed : Members.get? members name = some part := leads
      rw [set, part?, Members.get?_modify, if_pos rfl, listed]
      rfl

/-- All other steps lead where they led. -/
theorem part?_set_of_ne {other : Step} (different : other ≠ step) (value : Json) (rest : Place)
    (new : Json) : (value.set (step :: rest) new).part? other = value.part? other := by
  cases value with
  | scalar found => cases step <;> rfl
  | array items =>
    cases step with
    | member name => rfl
    | item index =>
      cases other with
      | member name => rfl
      | item place =>
        have apart : index ≠ place := fun same => different (congrArg _ same.symm)
        rw [set, part?, part?, List.getElem?_modify_ne _ _ apart]
  | object members =>
    cases step with
    | item index => rfl
    | member name =>
      cases other with
      | item place => rfl
      | member label =>
        have apart : label ≠ name := fun same => different (congrArg _ same)
        rw [set, part?, part?, Members.get?_modify, if_neg apart]

end Json
end ReleaseAnalysis
