import Mathlib.Data.List.Nodup
import Mathlib.Order.WellFounded
import ReleaseAnalysis.Proofs.Config.Validation

/-!
# Which lists form a ranking

A list is gone through from left to right. What stands at an index is at fault when it is empty or
repeats something before it (`Ranking.RefusedAt`). A list forms a ranking, which then lists the
same, when it has an element and nothing in it is at fault (`Ranking.ofList_eq_ok_iff`,
`Ranking.exists_ofList_iff`). Otherwise the fault is that of the first index
(`Ranking.ofList_eq_error_iff`).

What comes first is said in general (`First`): something is wrong at a site, and at no site before
it. The sites are indices here, and a check that goes through a list fails where its elements first
do (`forM_eq_error_iff`).
-/

set_option autoImplicit false

namespace ReleaseAnalysis

/-! ## What is wrong first -/

section First

variable {σ κ : Type}

/-- Something is wrong at a site, and nothing is wrong at a site before it. -/
structure First (before : σ → σ → Prop) (wrong : σ → κ → Prop) (site : σ) (cause : κ) : Prop where
  holds : wrong site cause
  earliest : ∀ earlier, before earlier site → ∀ other, ¬ wrong earlier other

/-- Where something is wrong there is a first site, if one cannot go back forever. -/
theorem exists_first_iff {before : σ → σ → Prop} {wrong : σ → κ → Prop}
    (wellFounded : WellFounded before) :
    (∃ site cause, First before wrong site cause) ↔ ∃ site cause, wrong site cause := by
  constructor
  · rintro ⟨site, cause, first⟩
    exact ⟨site, cause, first.holds⟩
  · rintro ⟨site, cause, holds⟩
    obtain ⟨least, ⟨other, found⟩, minimal⟩ :=
      wellFounded.has_min {site | ∃ cause, wrong site cause} ⟨site, cause, holds⟩
    exact ⟨least, other, found, fun earlier less cause more => minimal earlier ⟨cause, more⟩ less⟩

/-- Along a list something is wrong first at the head, or nothing is wrong there and something is
first in the rest. -/
theorem exists_first_index_iff {wrong : Nat → κ → Prop} {cause : κ} :
    (∃ index, First (· < ·) wrong index cause) ↔
      wrong 0 cause ∨ (∀ other, ¬ wrong 0 other) ∧
        ∃ index, First (· < ·) (fun index => wrong (index + 1)) index cause := by
  constructor
  · rintro ⟨index, holds, earliest⟩
    cases index with
    | zero => exact .inl holds
    | succ index =>
      refine .inr ⟨earliest 0 (Nat.succ_pos index), index, holds, fun earlier less => ?_⟩
      exact earliest (earlier + 1) (Nat.succ_lt_succ less)
  · rintro (holds | ⟨sound, index, holds, earliest⟩)
    · exact ⟨0, holds, nofun⟩
    · refine ⟨index + 1, holds, fun earlier less => ?_⟩
      cases earlier with
      | zero => exact sound
      | succ earlier => exact earliest earlier (Nat.lt_of_succ_lt_succ less)

/-- The check of an element fails at an index. -/
def FailsAt {α : Type} (check : α → Except κ Unit) (items : List α) (index : Nat) (cause : κ) :
    Prop :=
  ∃ item, items[index]? = some item ∧ check item = .error cause

theorem forall_not_failsAt_iff {α : Type} {check : α → Except κ Unit} {items : List α}
    {index : Nat} :
    (∀ cause, ¬ FailsAt check items index cause) ↔
      ∀ item, items[index]? = some item → check item = .ok () := by
  constructor
  · intro sound item listed
    cases checked : check item with
    | ok passed => rfl
    | error cause => exact absurd ⟨item, listed, checked⟩ (sound cause)
  · rintro passed cause ⟨item, listed, failed⟩
    cases (passed item listed).symm.trans failed

/-- A check fails along a list as at the first element that fails it. -/
theorem forM_eq_error_iff {α : Type} {check : α → Except κ Unit} {items : List α} {cause : κ} :
    items.forM check = .error cause ↔
      ∃ index, First (· < ·) (FailsAt check items) index cause := by
  induction items with
  | nil =>
    constructor
    · exact nofun
    · rintro ⟨index, ⟨item, listed, _⟩, _⟩
      cases listed
  | cons item rest ih =>
    have head : ∀ other, FailsAt check (item :: rest) 0 other ↔ check item = .error other := by
      simp [FailsAt]
    have tail : (fun index => FailsAt check (item :: rest) (index + 1)) = FailsAt check rest := rfl
    rw [exists_first_index_iff, tail, ← ih]
    simp only [head]
    change (check item >>= fun _ => rest.forM check) = .error cause ↔ _
    cases check item with
    | error inner => simp [bind, Except.bind]
    | ok passed => simp [bind, Except.bind]

end First

/-! ## Lists of identifiers -/

namespace Ranking

variable {ranking : Ranking} {ids earlier : List String} {fault : ConfigurationFault}

/-- What is wrong with an identifier behind others: it is empty, or else one of them. -/
inductive Refuses (earlier : List String) : String → ConfigurationFault → Prop
  | empty : Refuses earlier "" .emptyReleaseType
  | repeated {id : String} (named : id ≠ "") (again : id ∈ earlier) :
    Refuses earlier id (.duplicateReleaseType id)

theorem refuses_iff {id : String} :
    Refuses earlier id fault ↔
      if id = "" then fault = .emptyReleaseType
      else id ∈ earlier ∧ fault = .duplicateReleaseType id := by
  constructor
  · rintro (_ | ⟨named, again⟩)
    · rw [if_pos rfl]
    · rw [if_neg named]
      exact ⟨again, rfl⟩
  · intro wrong
    split at wrong
    case isTrue empty =>
      subst empty wrong
      exact .empty
    case isFalse named =>
      obtain ⟨again, rfl⟩ := wrong
      exact .repeated named again

/-- What is wrong at an index of a list that goes on behind another one. -/
def RefusedAfter (earlier ids : List String) (index : Nat) (fault : ConfigurationFault) : Prop :=
  ∃ id, ids[index]? = some id ∧ Refuses (earlier ++ ids.take index) id fault

/-- The fault of a list is the first one in it. -/
theorem firstFault_eq_some_iff :
    firstFault earlier ids = some fault ↔
      ∃ index, First (· < ·) (RefusedAfter earlier ids) index fault := by
  induction ids generalizing earlier with
  | nil =>
    constructor
    · exact nofun
    · rintro ⟨index, ⟨id, listed, _⟩, _⟩
      cases listed
  | cons id rest ih =>
    have head : ∀ other, RefusedAfter earlier (id :: rest) 0 other ↔ Refuses earlier id other := by
      simp [RefusedAfter]
    -- For the rest the first identifier is one of those before it.
    have tail : (fun index => RefusedAfter earlier (id :: rest) (index + 1)) =
        RefusedAfter (earlier ++ [id]) rest := by
      simp only [RefusedAfter, List.getElem?_cons_succ, List.take_succ_cons, List.append_assoc,
        List.singleton_append, funext_iff, implies_true]
    rw [exists_first_index_iff, tail, ← ih, firstFault]
    simp only [head, refuses_iff]
    by_cases empty : id = ""
    · simp [empty, eq_comm]
    · by_cases again : id ∈ earlier <;> simp [empty, again, eq_comm]

/-- What is wrong at an index of a list. -/
def RefusedAt (ids : List String) (index : Nat) (fault : ConfigurationFault) : Prop :=
  ∃ id, ids[index]? = some id ∧ Refuses (ids.take index) id fault

theorem firstFault_nil_eq_some_iff :
    firstFault [] ids = some fault ↔ ∃ index, First (· < ·) (RefusedAt ids) index fault :=
  firstFault_eq_some_iff

theorem firstFault_nil_eq_none_iff :
    firstFault [] ids = none ↔ ∀ index fault, ¬ RefusedAt ids index fault := by
  simp only [Option.eq_none_iff_forall_ne_some, ne_eq, firstFault_nil_eq_some_iff]
  have found : (∃ index fault, First (· < ·) (RefusedAt ids) index fault) ↔
      ∃ index fault, RefusedAt ids index fault := exists_first_iff Nat.lt_wfRel.wf
  constructor
  · intro sound index fault wrong
    obtain ⟨place, other, first⟩ := found.mpr ⟨index, fault, wrong⟩
    exact sound other ⟨place, first⟩
  · rintro sound fault ⟨index, first⟩
    exact sound index fault first.holds

/-- Nothing is wrong in a list of distinct identifiers with names. -/
theorem not_refusedAt {index : Nat} (named : ∀ id ∈ ids, id ≠ "") (distinct : ids.Nodup) :
    ¬ RefusedAt ids index fault := by
  rintro ⟨id, listed, refused⟩
  cases refused with
  | empty => exact named "" (List.mem_of_getElem? listed) rfl
  | repeated _ again =>
    obtain ⟨inside, rfl⟩ := List.getElem?_eq_some_iff.mp listed
    obtain ⟨place, before, same⟩ := List.mem_take_iff_getElem.mp again
    have equal := distinct.getElem_inj_iff.mp same
    omega

/-- A list forms a ranking that lists the same. -/
theorem ofList_eq_ok_iff : ofList ids = .ok ranking ↔ ranking.ids = ids := by
  constructor
  · exact ids_of_ofList
  · rintro rfl
    have sound : firstFault [] ranking.ids = none :=
      firstFault_nil_eq_none_iff.mpr fun _ _ => not_refusedAt ranking.ids_nonempty ranking.ids_nodup
    rw [ofList, dif_neg ranking.ids_ne_nil]
    split
    case h_1 found first => cases sound.symm.trans first
    case h_2 => rfl

/-- **A list forms a ranking when its identifiers are distinct, not empty, and at least one.** -/
theorem exists_ofList_iff :
    (∃ ranking, ofList ids = .ok ranking) ↔
      ids ≠ [] ∧ (∀ id ∈ ids, id ≠ "") ∧ ids.Nodup := by
  simp only [ofList_eq_ok_iff]
  constructor
  · rintro ⟨ranking, rfl⟩
    exact ⟨ranking.ids_ne_nil, ranking.ids_nonempty, ranking.ids_nodup⟩
  · rintro ⟨listed, named, distinct⟩
    exact ⟨⟨ids, listed, named, distinct⟩, rfl⟩

/-- **A list that forms no ranking is empty, or at fault first where it is refused.** -/
theorem ofList_eq_error_iff :
    ofList ids = .error fault ↔
      ids = [] ∧ fault = .noReleaseTypes ∨
        ∃ index, First (· < ·) (RefusedAt ids) index fault := by
  rw [← firstFault_nil_eq_some_iff]
  constructor
  · intro failed
    unfold ofList at failed
    split at failed
    case isTrue empty =>
      cases failed
      exact .inl ⟨empty, rfl⟩
    case isFalse =>
      split at failed
      case h_1 found first =>
        cases failed
        exact .inr first
      case h_2 => cases failed
  · rintro (⟨rfl, rfl⟩ | first)
    · rfl
    · have listed : ids ≠ [] := by
        rintro rfl
        cases first
      rw [ofList, dif_neg listed]
      split
      case h_1 found again =>
        cases first.symm.trans again
        rfl
      case h_2 sound => cases first.symm.trans sound

end Ranking
end ReleaseAnalysis
