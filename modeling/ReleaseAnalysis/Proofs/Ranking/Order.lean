import Mathlib.Data.List.Nodup
import Mathlib.Tactic.TFAE
import ReleaseAnalysis.Proofs.Config.Validation

/-!
# The order of a ranking

A ranking is asked in several ways: whether it contains a release type, at which place, whether a
release passes the check, and which of two releases outranks the other. The answers agree. A
comparison fails exactly when it is given a release type that the ranking does not list, and names
the current release first (`outranks_eq_error_iff`); which release types are listed can be told from
every one of the questions (`recognized_tfae`).

No release and the listed release types are strictly and totally ordered, with no release at the
bottom and the highest release type at the top. The list itself runs down this order
(`pairwise_outranks`), and a release type stands at the place that is found for it
(`position?_eq_some_iff`). Both rest on the names in the list being distinct, which forming the
ranking makes sure of: with a repeated name the place found would be the first one only.

Of the release types of a kind the most severe one is therefore the first of that kind that is
listed (`MostSevere.eq_find?`).
-/

set_option autoImplicit false

namespace ReleaseAnalysis
namespace Ranking

variable {ranking : Ranking} {id : String} {current candidate : Option String}
  {left right : Option String} {place : Nat}

/-! ## Listed release types -/

/-- A comparison fails at a release type that is not listed, the current release before the
candidate. -/
theorem outranks_eq_error_iff {fault : ConfigurationFault} :
    ranking.outranks current candidate = .error fault ↔
      ∃ id, fault = .unknownReleaseType id ∧ id ∉ ranking.ids ∧
        (current = some id ∨ ranking.Recognizes current ∧ candidate = some id) := by
  constructor
  · intro failed
    by_cases known : ranking.Recognizes current
    · by_cases known' : ranking.Recognizes candidate
      · rw [outranks_of_recognizes known known'] at failed
        cases failed
      · obtain ⟨id, rfl, unknown⟩ := by simpa [Recognizes] using known'
        rw [outranks_of_not_mem known unknown] at failed
        cases failed
        exact ⟨id, rfl, unknown, .inr ⟨known, rfl⟩⟩
    · obtain ⟨id, rfl, unknown⟩ := by simpa [Recognizes] using known
      rw [outranks_of_current_not_mem unknown] at failed
      cases failed
      exact ⟨id, rfl, unknown, .inl rfl⟩
  · rintro ⟨id, rfl, unknown, rfl | ⟨known, rfl⟩⟩
    · exact outranks_of_current_not_mem unknown
    · exact outranks_of_not_mem known unknown

/-- The place found for a release type is the place at which it stands. -/
theorem position?_eq_some_iff : ranking.position? id = some place ↔ ranking.ids[place]? = some id := by
  rw [position?, List.idxOf?_eq_some_iff, List.getElem?_eq_some_iff]
  constructor
  · rintro ⟨bound, same, _⟩
    exact ⟨bound, same⟩
  · rintro ⟨bound, rfl⟩
    refine ⟨bound, rfl, fun earlier before same => ?_⟩
    have equal := ranking.ids_nodup.getElem_inj_iff.mp same
    omega

theorem isSome_position?_iff : (ranking.position? id).isSome = true ↔ id ∈ ranking.ids := by
  rw [Option.isSome_iff_exists, List.mem_iff_getElem?]
  exact exists_congr fun _ => position?_eq_some_iff

/-- **Every question tells which release types are listed.** -/
theorem recognized_tfae (ranking : Ranking) (id : String) :
    [ id ∈ ranking.ids,
      ranking.contains id = true,
      (ranking.position? id).isSome = true,
      ranking.check (some id) = .ok (),
      ∃ candidate answer, ranking.outranks (some id) candidate = .ok answer,
      ∃ current answer, ranking.outranks current (some id) = .ok answer ].TFAE := by
  tfae_have 1 ↔ 2 := List.contains_iff_mem.symm
  tfae_have 1 ↔ 3 := isSome_position?_iff.symm
  tfae_have 1 ↔ 4 := recognizes_some.symm.trans check_eq_ok_iff.symm
  tfae_have 1 → 5 := fun member =>
    ⟨none, _, outranks_of_recognizes (recognizes_some.mpr member) recognizes_none⟩
  tfae_have 1 → 6 := fun member =>
    ⟨none, _, outranks_of_recognizes recognizes_none (recognizes_some.mpr member)⟩
  tfae_have 5 → 1 := by
    rintro ⟨candidate, answer, compared⟩
    exact recognizes_some.mp (outranks_eq_ok_iff.mp compared).1
  tfae_have 6 → 1 := by
    rintro ⟨current, answer, compared⟩
    exact recognizes_some.mp (outranks_eq_ok_iff.mp compared).2.1
  tfae_finish

/-! ## The order -/

theorem outranks_self (known : ranking.Recognizes left) :
    ranking.outranks left left = .ok false :=
  outranks_eq_false_iff.mpr ⟨known, known, Nat.le_refl _⟩

/-- Of two different releases one outranks the other, and not the other way round. -/
theorem outranks_or_outranks (known : ranking.Recognizes left) (known' : ranking.Recognizes right)
    (different : left ≠ right) :
    ranking.outranks left right = .ok true ∧ ranking.outranks right left = .ok false ∨
      ranking.outranks left right = .ok false ∧ ranking.outranks right left = .ok true := by
  rw [outranks_eq_true_iff, outranks_eq_true_iff, outranks_eq_false_iff, outranks_eq_false_iff]
  have apart : ranking.severity left ≠ ranking.severity right :=
    fun same => different (severity_injective known known' same)
  rcases Nat.lt_or_gt_of_ne apart with lower | higher
  · exact .inl ⟨⟨known, known', lower⟩, known', known, Nat.le_of_lt lower⟩
  · exact .inr ⟨⟨known, known', Nat.le_of_lt higher⟩, known', known, higher⟩

/-- Every listed release type outranks no release. -/
theorem outranks_none (member : id ∈ ranking.ids) : ranking.outranks none (some id) = .ok true :=
  outranks_eq_true_iff.mpr
    ⟨recognizes_none, recognizes_some.mpr member, severity_some_pos member⟩

/-- The list of a ranking runs from the highest release type down. -/
theorem pairwise_outranks (ranking : Ranking) :
    ranking.ids.Pairwise fun upper lower =>
      ranking.outranks (some lower) (some upper) = .ok true := by
  refine List.pairwise_iff_getElem.mpr fun first second inside inside' before => ?_
  have member := recognizes_some.mpr (List.getElem_mem inside)
  have member' := recognizes_some.mpr (List.getElem_mem inside')
  refine outranks_eq_true_iff.mpr ⟨member', member, ?_⟩
  rw [severity, severity, ranking.ids_nodup.idxOf_getElem, ranking.ids_nodup.idxOf_getElem]
  omega

/-- The highest release type outranks everything else that is recognized. -/
theorem outranks_highest (known : ranking.Recognizes left)
    (other : left ≠ some ranking.highest) :
    ranking.outranks left (some ranking.highest) = .ok true :=
  outranks_eq_true_iff.mpr
    ⟨known, recognizes_some.mpr ranking.highest_mem, severity_lt_highest known other⟩

/-- Nothing outranks the highest release type. -/
theorem not_outranks_highest (candidate : Option String) :
    ranking.outranks (some ranking.highest) candidate ≠ .ok true := by
  intro raises
  have lower := (outranks_eq_true_iff.mp raises).2.2
  have bound := ranking.severity_le_highest candidate
  omega

/-! ## The most severe release type of a kind -/

/-- A release is the most severe of the release types of a kind: it is of the kind, unless it is
none, and nothing of the kind is more severe. -/
structure MostSevere (ranking : Ranking) (kind : String → Prop) (release : Option String) :
    Prop where
  ofKind : ∀ id, release = some id → kind id
  bound : ∀ id, kind id → ranking.severity (some id) ≤ ranking.severity release

/-- No release type of a kind is more severe than the first one that is listed. -/
theorem severity_le_of_find? {kind : String → Prop} [DecidablePred kind] {top : String}
    (first : ranking.ids.find? (kind ·) = some top) (ofKind : kind id) :
    ranking.severity (some id) ≤ ranking.severity (some top) := by
  obtain ⟨_, place, inside, rfl, before⟩ := List.find?_eq_some_iff_getElem.mp first
  have behind : place ≤ ranking.ids.idxOf id := by
    by_contra ahead
    have missed := before (ranking.ids.idxOf id) (by omega)
    rw [List.getElem_idxOf] at missed
    simp [ofKind] at missed
  rw [severity, severity, ranking.ids_nodup.idxOf_getElem]
  omega

/-- **The most severe release type of a kind is the first one that is listed**, and none where the
ranking lists none of the kind. -/
theorem MostSevere.eq_find? {kind : String → Prop} [DecidablePred kind] {release : Option String}
    (most : ranking.MostSevere kind release) (listed : ∀ id, kind id → id ∈ ranking.ids) :
    release = ranking.ids.find? (kind ·) := by
  have known : ranking.Recognizes release := fun id same => listed id (most.ofKind id same)
  cases first : ranking.ids.find? (kind ·) with
  | none =>
    cases release with
    | none => rfl
    | some id =>
      have ofKind := most.ofKind id rfl
      have missed := List.find?_eq_none.mp first id (listed id ofKind)
      simp [ofKind] at missed
  | some top =>
    have ofKind : kind top := by simpa using List.find?_some first
    refine severity_injective known (recognizes_some.mpr (listed top ofKind)) ?_
    refine Nat.le_antisymm ?_ (most.bound top ofKind)
    cases release with
    | none => exact Nat.zero_le _
    | some id => exact severity_le_of_find? first (most.ofKind id rfl)

/-- A ranking puts a list of release types in order. -/
structure Orders (ranking : Ranking) (ids : List String) : Prop where
  /-- The ranking lists them as they are given. -/
  listed : ranking.ids = ids
  /-- A comparison fails at a release type that is not listed, the current one before the
  candidate. -/
  fails_iff : ∀ current candidate fault,
    ranking.outranks current candidate = .error fault ↔
      ∃ id, fault = .unknownReleaseType id ∧ id ∉ ids ∧
        (current = some id ∨ (∀ known, current = some known → known ∈ ids) ∧ candidate = some id)
  /-- Every question tells which release types are listed. -/
  recognized : ∀ id,
    [ id ∈ ids,
      ranking.contains id = true,
      (ranking.position? id).isSome = true,
      ranking.check (some id) = .ok (),
      ∃ candidate answer, ranking.outranks (some id) candidate = .ok answer,
      ∃ current answer, ranking.outranks current (some id) = .ok answer ].TFAE
  irreflexive : ∀ release, ranking.Recognizes release →
    ranking.outranks release release = .ok false
  transitive : ∀ lower middle upper, ranking.outranks lower middle = .ok true →
    ranking.outranks middle upper = .ok true → ranking.outranks lower upper = .ok true
  total : ∀ left right, ranking.Recognizes left → ranking.Recognizes right → left ≠ right →
    ranking.outranks left right = .ok true ∧ ranking.outranks right left = .ok false ∨
      ranking.outranks left right = .ok false ∧ ranking.outranks right left = .ok true
  none_lowest : ∀ id ∈ ids, ranking.outranks none (some id) = .ok true
  descending : ids.Pairwise fun upper lower =>
    ranking.outranks (some lower) (some upper) = .ok true
  place_iff : ∀ id place, ranking.position? id = some place ↔ ids[place]? = some id
  highest_mem : ranking.highest ∈ ids
  highest_outranks : ∀ release, ranking.Recognizes release → release ≠ some ranking.highest →
    ranking.outranks release (some ranking.highest) = .ok true
  highest_not_outranked : ∀ candidate,
    ranking.outranks (some ranking.highest) candidate ≠ .ok true

/-- **A list that forms a ranking is put in a strict total order by it.** Together with no release,
which is below all of them, the listed release types are strictly and totally ordered by the
comparison, and only others make it fail. The list runs down this order, places and release types
are inverse to each other, and the highest release type outranks all else. -/
theorem orders_of_ofList {ids : List String} (formed : ofList ids = .ok ranking) :
    ranking.Orders ids := by
  obtain rfl := ids_of_ofList formed
  exact {
    listed := rfl
    fails_iff := fun _ _ _ => outranks_eq_error_iff
    recognized := recognized_tfae ranking
    irreflexive := fun _ => outranks_self
    transitive := fun _ _ _ => outranks_trans
    total := fun _ _ => outranks_or_outranks
    none_lowest := fun _ => outranks_none
    descending := ranking.pairwise_outranks
    place_iff := fun _ _ => position?_eq_some_iff
    highest_mem := ranking.highest_mem
    highest_outranks := fun _ => outranks_highest
    highest_not_outranked := not_outranks_highest }

/-- In a list that puts patches first a patch outranks a major release, and a comparison of two
unknown release types names the current one. -/
theorem orders_of_ofList_patchFirst :
    ∃ ranking, ofList ["patch", "minor", "major"] = .ok ranking ∧
      ranking.highest = "patch" ∧
      ranking.outranks (some "major") (some "patch") = .ok true ∧
      ranking.position? "major" = some 2 ∧
      ranking.outranks (some "huge") (some "tiny") = .error (.unknownReleaseType "huge") := by
  let ranking : Ranking := ⟨["patch", "minor", "major"], by decide, by decide, by decide⟩
  have formed : ofList ["patch", "minor", "major"] = .ok ranking := rfl
  have orders := orders_of_ofList formed
  refine ⟨ranking, formed, rfl, ?_, ?_, ?_⟩
  · exact orders.highest_outranks (some "major") (recognizes_some.mpr (by decide)) (by decide)
  · exact (orders.place_iff "major" 2).mpr rfl
  · exact (orders.fails_iff _ _ _).mpr ⟨"huge", rfl, by decide, .inl rfl⟩

end Ranking
end ReleaseAnalysis
