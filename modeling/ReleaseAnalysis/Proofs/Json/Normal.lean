import ReleaseAnalysis.Proofs.Json.Parts

/-!
# Normal values

Members are in order when their names strictly increase (`Members.Increasing`). Setting a member
keeps the order, and members that are in order stay as they are when they are put in order
(`Members.ofList_of_increasing`).

A value is normal when the members of all its objects are in order (`Json.Normal`).
Normalization yields a normal value and leaves a normal value alone; it only moves, drops or
replaces members, so it adds neither scalars nor depth.
-/

set_option autoImplicit false

namespace ReleaseAnalysis

/-! ## Members in order -/

namespace Members

variable {members others : Members} {name : String} {value : Json} {member : String × Json}

/-- The names of members strictly increase. -/
def Increasing (members : Members) : Prop := members.Pairwise fun first second => first.1 < second.1

instance (members : Members) : Decidable members.Increasing :=
  inferInstanceAs (Decidable (members.Pairwise fun first second => first.1 < second.1))

/-- Names that are neither smaller nor equal are larger. -/
theorem name_lt_of_not_lt {first second : String} (smaller : ¬ first < second)
    (same : first ≠ second) : second < first := by
  rcases String.le_total first second with before | behind
  · exact absurd (String.le_antisymm before (String.not_lt.mp smaller)) same
  · exact String.not_le.mp fun before => same (String.le_antisymm before behind)

/-- Setting a member brings no other member. -/
theorem eq_or_mem_of_mem_insert (found : member ∈ members.insert name value) :
    member = (name, value) ∨ member ∈ members := by
  induction members with
  | nil => exact .inl (List.mem_singleton.mp found)
  | cons first rest ih =>
    rw [insert] at found
    split at found
    · exact List.mem_cons.mp found
    · split at found
      · rcases List.mem_cons.mp found with same | inside
        · exact .inl same
        · exact .inr (List.mem_cons_of_mem _ inside)
      · rcases List.mem_cons.mp found with same | inside
        · exact .inr (same ▸ List.mem_cons_self)
        · exact (ih inside).imp_right (List.mem_cons_of_mem _)

/-- Setting a member keeps the names in order. -/
theorem Increasing.insert (increasing : members.Increasing) (name : String) (value : Json) :
    (members.insert name value).Increasing := by
  induction members with
  | nil => exact List.pairwise_singleton _ _
  | cons first rest ih =>
    obtain ⟨before, others⟩ := List.pairwise_cons.mp increasing
    rw [Members.insert]
    split
    case isTrue smaller =>
      refine List.pairwise_cons.mpr ⟨?_, increasing⟩
      intro member found
      rcases List.mem_cons.mp found with rfl | inside
      · exact smaller
      · exact String.lt_trans smaller (before member inside)
    case isFalse notSmaller =>
      split
      case isTrue same => exact List.pairwise_cons.mpr ⟨same ▸ before, others⟩
      case isFalse different =>
        refine List.pairwise_cons.mpr ⟨?_, ih others⟩
        intro member found
        rcases eq_or_mem_of_mem_insert found with rfl | inside
        · exact name_lt_of_not_lt notSmaller different
        · exact before member inside

/-- Setting a member leaves the members of other names alone. -/
theorem filter_insert_of_not (keep : String → Prop) [DecidablePred keep] (dropped : ¬ keep name) :
    (members.insert name value).filter (keep ·.1) = members.filter (keep ·.1) := by
  induction members with
  | nil => simp [insert, dropped]
  | cons first rest ih =>
    rw [insert]
    split
    · simp [dropped]
    · split
      case isTrue same => simp [← same, dropped]
      case isFalse => rw [List.filter_cons, List.filter_cons, ih]

/-- Where no member has a name, one that is set is the only one of the name. -/
theorem filter_insert_of_fresh (fresh : ∀ member ∈ members, member.1 ≠ name) :
    (members.insert name value).filter (·.1 = name) = [(name, value)] := by
  induction members with
  | nil => simp [insert]
  | cons first rest ih =>
    obtain ⟨other, others⟩ := List.forall_mem_cons.mp fresh
    have none : rest.filter (·.1 = name) = [] :=
      List.filter_eq_nil_iff.mpr fun member found => by simpa using others member found
    rw [insert]
    split
    · simp [other, none]
    · rw [if_neg (Ne.symm other), List.filter_cons_of_neg (by simpa using other), ih others]

/-- A member whose name is larger than all others comes last. -/
theorem insert_of_forall_lt (largest : ∀ member ∈ members, member.1 < name) :
    members.insert name value = members ++ [(name, value)] := by
  induction members with
  | nil => rfl
  | cons first rest ih =>
    obtain ⟨larger, others⟩ := List.forall_mem_cons.mp largest
    have notSmaller : ¬ name < first.1 := String.lt_asymm larger
    have different : ¬ name = first.1 := (String.ne_of_lt larger).symm
    rw [Members.insert, if_neg notSmaller, if_neg different, ih others, List.cons_append]

/-- Members that are put in order one after the other come from the list or were there before. -/
theorem mem_of_mem_foldl_insert {sorted : Members} (list : List (String × Json))
    (found : member ∈ list.foldl (fun sorted next => sorted.insert next.1 next.2) sorted) :
    member ∈ sorted ∨ member ∈ list := by
  induction list generalizing sorted with
  | nil => exact .inl found
  | cons first rest ih =>
    rcases ih found with inserted | later
    · rcases eq_or_mem_of_mem_insert inserted with rfl | before
      · exact .inr List.mem_cons_self
      · exact .inl before
    · exact .inr (List.mem_cons_of_mem _ later)

theorem Increasing.foldl_insert {sorted : Members} (increasing : sorted.Increasing)
    (list : List (String × Json)) :
    Increasing (list.foldl (fun sorted next => sorted.insert next.1 next.2) sorted) := by
  induction list generalizing sorted with
  | nil => exact increasing
  | cons first rest ih => exact ih (increasing.insert first.1 first.2)

/-- Members in order behind others are appended to them. -/
theorem foldl_insert_of_increasing {sorted : Members} (list : List (String × Json))
    (increasing : Increasing (sorted ++ list)) :
    list.foldl (fun sorted next => sorted.insert next.1 next.2) sorted = sorted ++ list := by
  induction list generalizing sorted with
  | nil => rw [List.foldl_nil, List.append_nil]
  | cons first rest ih =>
    have largest : ∀ member ∈ sorted, member.1 < first.1 := fun member found =>
      (List.pairwise_append.mp increasing).2.2 member found first List.mem_cons_self
    rw [List.append_cons] at increasing ⊢
    rw [List.foldl_cons, insert_of_forall_lt largest, ih increasing]

theorem increasing_nil : Increasing [] := List.Pairwise.nil

theorem mem_of_mem_ofList {list : List (String × Json)} (found : member ∈ ofList list) :
    member ∈ list :=
  (mem_of_mem_foldl_insert list found).resolve_left List.not_mem_nil

theorem increasing_ofList (list : List (String × Json)) : (ofList list).Increasing :=
  increasing_nil.foldl_insert list

/-- Members in order stay as they are. -/
theorem ofList_of_increasing (increasing : members.Increasing) : ofList members = members :=
  foldl_insert_of_increasing members increasing

end Members

/-! ## Normal form -/

namespace Json

variable {P : Scalar → Prop} {value : Json}

theorem normalizeItems_eq_map (items : List Json) : normalizeItems items = items.map normalize := by
  induction items with
  | nil => rfl
  | cons item rest ih => rw [normalizeItems, ih, List.map_cons]

theorem normalizeMembers_eq_map (members : List (String × Json)) :
    normalizeMembers members = members.map fun member => (member.1, member.2.normalize) := by
  induction members with
  | nil => rfl
  | cons member rest ih => rw [normalizeMembers, ih, List.map_cons]

/-- The members of all objects in a value are in order. -/
inductive Normal : Json → Prop
  | scalar (found : Scalar) : Normal (.scalar found)
  | array {items : List Json} (all : ∀ item ∈ items, Normal item) : Normal (.array items)
  | object {members : Members} (increasing : members.Increasing)
    (all : ∀ member ∈ members, Normal member.2) : Normal (.object members)

theorem normal_array_iff {items : List Json} :
    (array items).Normal ↔ ∀ item ∈ items, item.Normal :=
  ⟨fun | .array all => all, .array⟩

theorem normal_object_iff {members : Members} :
    (object members).Normal ↔ members.Increasing ∧ ∀ member ∈ members, member.2.Normal :=
  ⟨fun | .object increasing all => ⟨increasing, all⟩, fun both => .object both.1 both.2⟩

instance : DecidablePred Normal :=
  decidable (fun found => isTrue (.scalar found))
    (fun _ _ => decidable_of_iff _ normal_array_iff.symm)
    (fun _ _ => decidable_of_iff _ normal_object_iff.symm)

/-- A member of a normalized object is a normalized member of the object. -/
theorem exists_of_mem_normalized {members : List (String × Json)} {member : String × Json}
    (found : member ∈ Members.ofList (normalizeMembers members)) :
    ∃ written ∈ members, member = (written.1, written.2.normalize) := by
  have listed := Members.mem_of_mem_ofList found
  rw [normalizeMembers_eq_map] at listed
  obtain ⟨written, inside, same⟩ := List.mem_map.mp listed
  exact ⟨written, inside, same.symm⟩

theorem normal_normalize (value : Json) : value.normalize.Normal := by
  induction value with
  | scalar found => exact .scalar found
  | array items ih =>
    rw [normalize, normalizeItems_eq_map]
    refine .array ?_
    intro item found
    obtain ⟨written, inside, rfl⟩ := List.mem_map.mp found
    exact ih written inside
  | object members ih =>
    rw [normalize]
    refine .object (Members.increasing_ofList _) ?_
    intro member found
    obtain ⟨written, inside, rfl⟩ := exists_of_mem_normalized found
    exact ih written inside

/-- **Normalization leaves a normal value alone.** -/
theorem normalize_of_normal (normal : value.Normal) : value.normalize = value := by
  induction normal with
  | scalar found => rfl
  | array _ ih => rw [normalize, normalizeItems_eq_map, List.map_congr_left ih, List.map_id']
  | @object members increasing _ ih =>
    have same : ∀ member ∈ members, (member.1, member.2.normalize) = member :=
      fun member found => congrArg (Prod.mk member.1) (ih member found)
    rw [normalize, normalizeMembers_eq_map, List.map_congr_left same, List.map_id',
      Members.ofList_of_increasing increasing]

/-- Normalization brings no new scalars. -/
theorem Each.normalize (each : value.Each P) : value.normalize.Each P := by
  induction each with
  | scalar holds => exact .scalar holds
  | array _ ih =>
    rw [Json.normalize, normalizeItems_eq_map]
    refine .array ?_
    intro item found
    obtain ⟨written, inside, rfl⟩ := List.mem_map.mp found
    exact ih written inside
  | object _ ih =>
    rw [Json.normalize]
    refine .object ?_
    intro member found
    obtain ⟨written, inside, rfl⟩ := exists_of_mem_normalized found
    exact ih written inside

/-- Normalization adds no depth. -/
theorem depth_normalize_le (value : Json) : value.normalize.depth ≤ value.depth := by
  induction value with
  | scalar found => exact Nat.le_refl _
  | array items ih =>
    rw [normalize, normalizeItems_eq_map, depth, depth, Nat.add_le_add_iff_right,
      itemsDepth_le_iff]
    intro item found
    obtain ⟨written, inside, rfl⟩ := List.mem_map.mp found
    exact Nat.le_trans (ih written inside) (itemsDepth_le_iff.mp (Nat.le_refl _) written inside)
  | object members ih =>
    rw [normalize, depth, depth, Nat.add_le_add_iff_right, membersDepth_le_iff]
    intro member found
    obtain ⟨written, inside, rfl⟩ := exists_of_mem_normalized found
    exact Nat.le_trans (ih written inside)
      (membersDepth_le_iff.mp (Nat.le_refl _) written inside)

end Json

end ReleaseAnalysis
