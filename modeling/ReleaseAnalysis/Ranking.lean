import ReleaseAnalysis.Error

/-!
# Release types and their ranking

A ranking lists the recognized release types, the most severe first. It is never empty, holds no
empty identifier and names no identifier twice, so a release type has one place in it.

`outranks` compares two optional releases: no release at all is below every release type, and a
release type outranks those behind it. Asking about an identifier that is not in the ranking is an
error, the current release being looked up before the candidate.
-/

set_option autoImplicit false

namespace ReleaseAnalysis

/-- The recognized release types, the most severe first. -/
structure Ranking where
  ids : List String
  ids_ne_nil : ids ≠ []
  ids_nonempty : ∀ id ∈ ids, id ≠ ""
  ids_nodup : ids.Nodup

namespace Ranking

/-- The first fault of a list of release types, element by element: an empty identifier, or one
that repeats an earlier one. -/
def firstFault (earlier : List String) : List String → Option ConfigurationFault
  | [] => none
  | id :: rest =>
    if id = "" then some .emptyReleaseType
    else if id ∈ earlier then some (.duplicateReleaseType id)
    else firstFault (earlier ++ [id]) rest

theorem firstFault_eq_none {ids earlier : List String} (ok : firstFault earlier ids = none) :
    (∀ id ∈ ids, id ≠ "") ∧ (∀ id ∈ ids, id ∉ earlier) ∧ ids.Nodup := by
  induction ids generalizing earlier with
  | nil => simp
  | cons id rest ih =>
    simp only [firstFault] at ok
    split at ok
    · contradiction
    · split at ok
      · contradiction
      · obtain ⟨nonempty, fresh, nodup⟩ := ih ok
        refine ⟨?_, ?_, ?_⟩ <;> grind

/-- The ranking of a list of release types, or the first fault of the list. -/
def ofList (ids : List String) : Except ConfigurationFault Ranking :=
  if empty : ids = [] then .error .noReleaseTypes
  else
    match fault : firstFault [] ids with
    | some found => .error found
    | none => .ok ⟨ids, empty, (firstFault_eq_none fault).1, (firstFault_eq_none fault).2.2⟩

/-- The most severe release type. -/
def highest (ranking : Ranking) : String := ranking.ids.head ranking.ids_ne_nil

/-- Whether a release type is recognized. -/
def contains (ranking : Ranking) (id : String) : Bool := ranking.ids.contains id

/-- The place of a release type, zero for the most severe. -/
def position? (ranking : Ranking) (id : String) : Option Nat := ranking.ids.idxOf? id

/-- The place of an optional release type; an unrecognized one is an error. -/
def rank (ranking : Ranking) : Option String → Except ConfigurationFault (Option Nat)
  | none => .ok none
  | some id =>
    match ranking.position? id with
    | some place => .ok (some place)
    | none => .error (.unknownReleaseType id)

/-- Accepts no release and every recognized release type. -/
def check (ranking : Ranking) : Option String → Except ConfigurationFault Unit
  | none => .ok ()
  | some id => if ranking.contains id then .ok () else .error (.unknownReleaseType id)

/-- Whether a candidate outranks the current release. -/
def outranks (ranking : Ranking) (current candidate : Option String) :
    Except ConfigurationFault Bool := do
  let currentRank ← ranking.rank current
  let candidateRank ← ranking.rank candidate
  match currentRank, candidateRank with
  | _, none => return false
  | none, some _ => return true
  | some current, some candidate => return decide (candidate < current)

/-- The release types joined by `>`. -/
def text (ranking : Ranking) : String := " > ".intercalate ranking.ids

/-- The built-in release types. -/
def defaultIds : List String :=
  ["major", "premajor", "minor", "preminor", "patch", "prepatch", "prerelease"]

/-- The built-in ranking. -/
def default : Ranking := ⟨defaultIds, by decide, by decide, by decide⟩

end Ranking

end ReleaseAnalysis
