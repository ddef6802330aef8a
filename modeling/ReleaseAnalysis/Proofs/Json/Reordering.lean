import ReleaseAnalysis.Proofs.Json.Places

/-!
# Members in another order

Members with distinct names are put in order without a loss (`Members.perm_ofList`), so the order in
which they are written does not matter (`Members.ofList_eq_of_perm`).

Two lists of members may be given in different formats, each in an order of its own. If the names of
one are those of the other, and members of the same name become the same, then what the lists become
is the same up to order (`perm_map_of_names`).
-/

set_option autoImplicit false

namespace ReleaseAnalysis

/-- Lists of named things that become the same name by name become the same up to order. -/
theorem perm_map_of_names {α β γ : Type} {first : List (String × α)} {second : List (String × β)}
    {f : String × α → γ} {g : String × β → γ}
    (names : (first.map Prod.fst).Perm (second.map Prod.fst))
    (agree : ∀ entry ∈ first, ∀ other ∈ second, entry.1 = other.1 → f entry = g other) :
    (first.map f).Perm (second.map g) := by
  induction first generalizing second with
  | nil =>
    have none : second = [] := List.map_eq_nil_iff.mp (List.nil_perm.mp names)
    rw [none]
    exact List.Perm.refl _
  | cons entry rest ih =>
    obtain ⟨other, listed, same⟩ : ∃ other ∈ second, other.1 = entry.1 :=
      List.mem_map.mp (names.mem_iff.mp List.mem_cons_self)
    obtain ⟨before, after, rfl⟩ := List.append_of_mem listed
    -- The other list is brought into the order in which the common name comes first.
    have front : (before ++ other :: after).Perm (other :: (before ++ after)) := List.perm_middle
    have others : (rest.map Prod.fst).Perm ((before ++ after).map Prod.fst) := by
      have moved := names.trans (front.map Prod.fst)
      rw [List.map_cons, List.map_cons, same] at moved
      exact moved.cons_inv
    refine List.Perm.trans ?_ (front.map g).symm
    rw [List.map_cons, List.map_cons, agree entry List.mem_cons_self other listed same.symm]
    refine (ih others fun member inside found among => ?_).cons _
    exact agree member (List.mem_cons_of_mem _ inside) found
      (front.mem_iff.mpr (List.mem_cons_of_mem _ among))

namespace Members

variable {members list others : List (String × Json)} {name : String} {value : Json}

/-- A member of a new name is added. -/
theorem perm_insert (fresh : name ∉ members.map Prod.fst) :
    (Members.insert members name value).Perm ((name, value) :: members) := by
  induction members with
  | nil => exact List.Perm.refl _
  | cons first rest ih =>
    rw [List.map_cons, List.mem_cons, not_or] at fresh
    rw [insert]
    split
    · exact List.Perm.refl _
    · rw [if_neg fresh.1]
      exact ((ih fresh.2).cons first).trans (List.Perm.swap _ _ _)

/-- Members of new names, all distinct, are added. -/
theorem perm_foldl_insert {sorted : Members}
    (distinct : ((sorted ++ list).map Prod.fst).Nodup) :
    (list.foldl (fun sorted next => sorted.insert next.1 next.2) sorted).Perm (sorted ++ list) := by
  induction list generalizing sorted with
  | nil => rw [List.foldl_nil, List.append_nil]
  | cons first rest ih =>
    have fresh : first.1 ∉ sorted.map Prod.fst := by
      intro among
      rw [List.map_append, List.nodup_append] at distinct
      exact distinct.2.2 _ among _ List.mem_cons_self rfl
    have added : (sorted.insert first.1 first.2 ++ rest).Perm (sorted ++ first :: rest) :=
      ((perm_insert fresh).append_right rest).trans List.perm_middle.symm
    exact (ih ((added.map Prod.fst).nodup_iff.mpr distinct)).trans added

/-- Members with distinct names are put in order without a loss. -/
theorem perm_ofList (distinct : (list.map Prod.fst).Nodup) : (ofList list).Perm list :=
  perm_foldl_insert distinct

/-- **The order in which members with distinct names are written does not matter.** -/
theorem ofList_eq_of_perm (same : list.Perm others) (distinct : (list.map Prod.fst).Nodup) :
    ofList list = ofList others := by
  have alsoDistinct : (others.map Prod.fst).Nodup := (same.map Prod.fst).nodup_iff.mp distinct
  refine (increasing_ofList list).eq_of_perm (increasing_ofList others) ?_
  exact (perm_ofList distinct).trans (same.trans (perm_ofList alsoDistinct).symm)

end Members
end ReleaseAnalysis
