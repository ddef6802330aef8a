import Mathlib.Data.List.Basic
import ReleaseAnalysis.Pattern
import ReleaseAnalysis.Proofs.Json.Parts

/-!
# The leaves of nested arrays

The leaves of a value are met when arrays in it are gone through from left to right, and arrays in
these arrays, down to what is no array (`Json.leaves`). An object is a leaf, whatever is in it.

Joining joined texts is the same as joining all of them at once, as long as none of the joins is one
of no texts at all (`intercalate_flatten`). So the search text of an array in which no other array
is empty is the one of its leaves, joined by commas, and a regular expression cannot tell how the
leaves are grouped (`Json.searchText_of_filled`). An empty array in it would leave a comma behind.
-/

set_option autoImplicit false

namespace ReleaseAnalysis

/-! ## Joins of joins -/

section Joins

variable {α : Type} {separator : List α}

theorem intercalate_append {first second : List (List α)} (nonempty : first ≠ [])
    (filled : second ≠ []) :
    separator.intercalate (first ++ second) =
      separator.intercalate first ++ separator ++ separator.intercalate second := by
  induction first with
  | nil => exact absurd rfl nonempty
  | cons text rest ih =>
    cases rest with
    | nil => rw [List.singleton_append, List.intercalate_cons_of_ne_nil filled,
        List.intercalate_singleton]
    | cons next others =>
      rw [List.cons_append, List.cons_append, List.intercalate_cons_cons, ← List.cons_append,
        ih (List.cons_ne_nil next others), List.intercalate_cons_cons]
      simp only [List.append_assoc]

/-- **Joining joins of some texts each is joining all the texts.** -/
theorem intercalate_flatten {groups : List (List (List α))}
    (nonempty : ∀ group ∈ groups, group ≠ []) :
    separator.intercalate (groups.map separator.intercalate) =
      separator.intercalate groups.flatten := by
  induction groups with
  | nil => rfl
  | cons group rest ih =>
    obtain ⟨filled, others⟩ := List.forall_mem_cons.mp nonempty
    cases rest with
    | nil => simp
    | cons next groups =>
      -- A separator stands between the groups only if there is something behind the first one.
      have more : (next :: groups).flatten ≠ [] := by
        obtain ⟨filled, _⟩ := List.forall_mem_cons.mp others
        simp [filled]
      rw [List.map_cons, List.flatten_cons, intercalate_append filled more, ← ih others,
        List.map_cons, List.intercalate_cons_cons]

end Joins

namespace Json

variable {value : Json} {items : List Json}

/-! ## Leaves -/

mutual

/-- What is met in a value when arrays are gone through, from left to right. -/
def leaves : Json → List Json
  | .array items => itemsLeaves items
  | value => [value]

/-- The leaves of the items, one after the other. -/
def itemsLeaves : List Json → List Json
  | [] => []
  | item :: rest => leaves item ++ itemsLeaves rest

end

theorem itemsLeaves_eq_flatMap (items : List Json) : itemsLeaves items = items.flatMap leaves := by
  induction items with
  | nil => rfl
  | cons item rest ih => rw [itemsLeaves, ih, List.flatMap_cons]

/-- A value that is no empty array and, if it is an array, has no empty array among its items, or in
arrays among these. -/
inductive Filled : Json → Prop
  | scalar (found : Scalar) : Filled (.scalar found)
  | object (members : List (String × Json)) : Filled (.object members)
  | array {items : List Json} (nonempty : items ≠ []) (all : ∀ item ∈ items, Filled item) :
    Filled (.array items)

theorem filled_array_iff : (array items).Filled ↔ items ≠ [] ∧ ∀ item ∈ items, item.Filled :=
  ⟨fun | .array nonempty all => ⟨nonempty, all⟩, fun both => .array both.1 both.2⟩

instance : DecidablePred Filled :=
  decidable (fun found => isTrue (.scalar found))
    (fun items _ => decidable_of_iff (items ≠ [] ∧ _) filled_array_iff.symm)
    (fun members _ => isTrue (.object members))

theorem leaves_ne_nil (filled : value.Filled) : value.leaves ≠ [] := by
  induction filled with
  | scalar found => exact List.cons_ne_nil _ _
  | object members => exact List.cons_ne_nil _ _
  | @array items nonempty _ ih =>
    rw [leaves, itemsLeaves_eq_flatMap]
    intro none
    obtain ⟨item, rest, rfl⟩ := List.exists_cons_of_ne_nil nonempty
    exact ih item List.mem_cons_self (List.flatMap_eq_nil_iff.mp none item List.mem_cons_self)

/-! ## Search texts -/

/-- The search texts of items are joined by commas. -/
theorem joinedText_eq (items : List Json) :
    joinedText items = [','].intercalate (items.map searchText) := by
  have more : ∀ (item : Json) (rest : List Json),
      searchText item ++ moreJoinedText rest =
        [','].intercalate ((item :: rest).map searchText) := by
    intro item rest
    induction rest generalizing item with
    | nil => simp [moreJoinedText]
    | cons next others ih =>
      rw [moreJoinedText, List.cons_append, ih, List.map_cons, List.map_cons, List.map_cons,
        List.intercalate_cons_cons]
      simp
  cases items with
  | nil => rfl
  | cons item rest => exact more item rest

/-- The search text of items whose own search texts are those of their leaves. -/
theorem joinedText_eq_leaves
    (each : ∀ item ∈ items, item.searchText = [','].intercalate (item.leaves.map searchText))
    (filled : ∀ item ∈ items, item.Filled) :
    joinedText items = [','].intercalate ((itemsLeaves items).map searchText) := by
  have nonempty : ∀ group ∈ items.map fun item => item.leaves.map searchText, group ≠ [] := by
    intro group listed
    obtain ⟨item, inside, rfl⟩ := List.mem_map.mp listed
    exact mt List.map_eq_nil_iff.mp (leaves_ne_nil (filled item inside))
  calc joinedText items
      = [','].intercalate (items.map searchText) := joinedText_eq items
    _ = [','].intercalate
          ((items.map fun item => item.leaves.map searchText).map [','].intercalate) := by
        rw [List.map_map]
        exact congrArg _ (List.map_congr_left each)
    _ = [','].intercalate (items.map fun item => item.leaves.map searchText).flatten :=
        intercalate_flatten nonempty
    _ = [','].intercalate ((itemsLeaves items).map searchText) := by
        rw [itemsLeaves_eq_flatMap, List.map_flatMap, List.flatMap_def]

/-- The search text of a value without empty arrays is that of its leaves. -/
theorem searchText_eq_leaves (filled : value.Filled) :
    value.searchText = [','].intercalate (value.leaves.map searchText) := by
  induction filled with
  | scalar found => rw [leaves, List.map_singleton, List.intercalate_singleton]; exact nofun
  | object members => rw [leaves, List.map_singleton, List.intercalate_singleton]; exact nofun
  | array nonempty all ih =>
    rw [searchText, leaves]
    exact joinedText_eq_leaves ih all

/-- **The grouping of leaves does not show.** The search text of an array in which no nested array
is empty is the one of its leaves, joined by commas. So a regular expression accepts two such arrays
with the same leaves or neither of them. -/
theorem searchText_of_filled (filled : ∀ item ∈ items, item.Filled) :
    (array items).searchText = [','].intercalate ((array items).leaves.map searchText) ∧
      ∀ others : List Json, (∀ item ∈ others, item.Filled) →
        (array others).leaves = (array items).leaves → ∀ body compiled,
          Pattern.accepts (.regex body compiled) (array others) =
            Pattern.accepts (.regex body compiled) (array items) := by
  have joined : ∀ items : List Json, (∀ item ∈ items, item.Filled) →
      (array items).searchText = [','].intercalate ((array items).leaves.map searchText) := by
    intro items filled
    rw [searchText, leaves]
    exact joinedText_eq_leaves (fun item inside => searchText_eq_leaves (filled item inside)) filled
  refine ⟨joined items filled, ?_⟩
  intro others othersFilled same body compiled
  rw [Pattern.accepts, Pattern.accepts, joined others othersFilled, joined items filled, same]

/-- A number, a string, a flag and an object, some of them in arrays of their own. -/
def groupedItems : List Json :=
  [ .scalar (.number (.int 1)), .ofString "b",
    .array [.scalar (.bool true), .array [.object [("k", .array [])]]] ]

/-- They have the search text of the four leaves, and no regular expression tells them from other
groups of the same leaves. The empty array counts for nothing, since it is in an object. -/
theorem searchText_of_filled_groupedItems :
    (∀ item ∈ groupedItems, item.Filled) ∧
      (array groupedItems).searchText = "1,b,true,\x7b\"k\":[]\x7d".toList ∧
      ∀ body compiled,
        Pattern.accepts (.regex body compiled) (array [array (itemsLeaves groupedItems)]) =
          Pattern.accepts (.regex body compiled) (array groupedItems) := by
  have filled : ∀ item ∈ groupedItems, item.Filled := by decide
  have others : ∀ item ∈ [array (itemsLeaves groupedItems)], item.Filled := by decide
  obtain ⟨joined, alike⟩ := searchText_of_filled filled
  exact ⟨filled, joined.trans (by decide), alike _ others rfl⟩

/-- Beside an empty array a comma is left. -/
example : (array [array [], .ofString "b"]).searchText = [',', 'b'] := rfl

end Json
end ReleaseAnalysis
