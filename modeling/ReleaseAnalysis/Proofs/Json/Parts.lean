import Mathlib.Data.List.Basic
import ReleaseAnalysis.Json.Basic

/-!
# The parts of a value

A value is a scalar or is made of parts: the items of an array, the values of an object's members.
What holds of scalars and passes from the parts of a value to the value holds of every value
(`Json.induction`); statements about values are proved along it.

A condition on scalars is extended to values by asking it of every scalar in the value, at any
place (`Json.Each`). The depth of a value is the number of arrays and objects that stand around
its innermost part (`Json.depth`).
-/

set_option autoImplicit false

namespace ReleaseAnalysis
namespace Json

variable {P Q : Scalar → Prop} {value : Json} {items : List Json}
  {members : List (String × Json)} {bound : Nat}

/-- What holds of scalars and passes from the parts of a value to the value holds of every
value. -/
@[elab_as_elim, induction_eliminator]
theorem induction {motive : Json → Prop} (scalar : ∀ found, motive (.scalar found))
    (array : ∀ items, (∀ item ∈ items, motive item) → motive (.array items))
    (object : ∀ members, (∀ member ∈ members, motive member.2) → motive (.object members)) :
    ∀ value, motive value
  | .scalar found => scalar found
  | .array items => array items fun item _ => induction scalar array object item
  | .object members => object members fun member _ => induction scalar array object member.2
termination_by value => sizeOf value
decreasing_by
  · decreasing_tactic
  · have := List.sizeOf_lt_of_mem ‹member ∈ members›
    cases member
    simp only [Json.object.sizeOf_spec, Prod.mk.sizeOf_spec] at this ⊢
    omega

section Decidable

variable {motive : Json → Prop} (scalar : ∀ found, Decidable (motive (.scalar found)))
  (array : ∀ items, Decidable (∀ item ∈ items, motive item) → Decidable (motive (.array items)))
  (object : ∀ members, Decidable (∀ member ∈ members, motive member.2) →
    Decidable (motive (.object members)))

mutual

/-- What is decidable of scalars and of a value once it is decided for the parts is decidable of
every value. -/
def decidable : ∀ value, Decidable (motive value)
  | .scalar found => scalar found
  | .array items => array items (decidableItems items)
  | .object members => object members (decidableMembers members)

/-- Decides the items one by one. -/
def decidableItems : ∀ items : List Json, Decidable (∀ item ∈ items, motive item)
  | [] => isTrue nofun
  | item :: rest =>
    @decidable_of_iff _ _ List.forall_mem_cons.symm
      (@instDecidableAnd _ _ (decidable item) (decidableItems rest))

/-- Decides the values of the members one by one. -/
def decidableMembers :
    ∀ members : List (String × Json), Decidable (∀ member ∈ members, motive member.2)
  | [] => isTrue nofun
  | (_, value) :: rest =>
    @decidable_of_iff _ _ List.forall_mem_cons.symm
      (@instDecidableAnd _ _ (decidable value) (decidableMembers rest))

end

end Decidable

/-! ## Conditions on the scalars of a value -/

/-- Every scalar of a value, at any place in it, satisfies a condition. -/
inductive Each (P : Scalar → Prop) : Json → Prop
  | scalar {found : Scalar} (holds : P found) : Each P (.scalar found)
  | array {items : List Json} (all : ∀ item ∈ items, Each P item) : Each P (.array items)
  | object {members : List (String × Json)} (all : ∀ member ∈ members, Each P member.2) :
    Each P (.object members)

theorem each_scalar_iff {found : Scalar} : (scalar found).Each P ↔ P found :=
  ⟨fun | .scalar holds => holds, .scalar⟩

theorem each_array_iff : (array items).Each P ↔ ∀ item ∈ items, item.Each P :=
  ⟨fun | .array all => all, .array⟩

theorem each_object_iff : (object members).Each P ↔ ∀ member ∈ members, member.2.Each P :=
  ⟨fun | .object all => all, .object⟩

instance [DecidablePred P] : DecidablePred (Each P) :=
  decidable (fun _ => decidable_of_iff _ each_scalar_iff.symm)
    (fun _ _ => decidable_of_iff _ each_array_iff.symm)
    (fun _ _ => decidable_of_iff _ each_object_iff.symm)

theorem Each.imp (weaker : ∀ found, P found → Q found) (each : value.Each P) : value.Each Q := by
  induction each with
  | scalar holds => exact .scalar (weaker _ holds)
  | array _ ih => exact .array ih
  | object _ ih => exact .object ih

theorem Each.and (each : value.Each P) (other : value.Each Q) :
    value.Each fun found => P found ∧ Q found := by
  induction each with
  | scalar holds => exact .scalar ⟨holds, each_scalar_iff.mp other⟩
  | array _ ih =>
    exact .array fun item member => ih item member (each_array_iff.mp other item member)
  | object _ ih =>
    exact .object fun member found => ih member found (each_object_iff.mp other member found)

/-! ## Depth -/

mutual

/-- How many arrays and objects stand around the innermost part of a value. -/
def depth : Json → Nat
  | .scalar _ => 0
  | .array items => itemsDepth items + 1
  | .object members => membersDepth members + 1

/-- The greatest depth of an item. -/
def itemsDepth : List Json → Nat
  | [] => 0
  | item :: rest => max (depth item) (itemsDepth rest)

/-- The greatest depth of a member's value. -/
def membersDepth : List (String × Json) → Nat
  | [] => 0
  | (_, value) :: rest => max (depth value) (membersDepth rest)

end

theorem itemsDepth_le_iff : itemsDepth items ≤ bound ↔ ∀ item ∈ items, item.depth ≤ bound := by
  induction items with
  | nil => simp [itemsDepth]
  | cons item rest ih => rw [itemsDepth, Nat.max_le, ih, List.forall_mem_cons]

theorem membersDepth_le_iff :
    membersDepth members ≤ bound ↔ ∀ member ∈ members, member.2.depth ≤ bound := by
  induction members with
  | nil => simp [membersDepth]
  | cons member rest ih => rw [membersDepth, Nat.max_le, ih, List.forall_mem_cons]

end Json
end ReleaseAnalysis
