import ReleaseAnalysis.Unicode.FoldingTable

/-!
# Case variants

The case variants of a character are the characters that simple case folding takes to the same
character. Matching without regard to case replaces a set of characters by the set of all their
variants.
-/

set_option autoImplicit false

namespace ReleaseAnalysis

namespace Unicode

/-- The pairs of a character and what it is folded to, as far as the two differ. -/
def foldingPairs : List (Nat × Nat) :=
  (words foldingText.toList).flatMap fun word =>
    let (source, target) := cut ':' word
    let target := target.elim 0 hexNumber
    let low := hexNumber ((cut '-' (cut '/' source).1).1)
    (wordRanges source).flatMap fun (first, last) =>
      (List.range (last - first + 1)).map fun n => (first + n, target + (first + n - low))

/-- The characters that have case variants, those folded to the same character put together. -/
def orbits : List (List Nat) :=
  ((foldingPairs.mergeSort fun first second => first.2 ≤ second.2).splitBy
    fun first second => first.2 == second.2).map fun pairs =>
      pairs.foldr (fun pair members => pair.1 :: members) (pairs.head?.map Prod.snd).toList

/-- The set with all case variants of its characters. -/
def CharSet.withVariants (set : CharSet) : CharSet :=
  let added := (orbits.filter fun orbit => orbit.any fun code => CharSet.memRanges code set.ranges)
  if added.isEmpty then set
  else .ofRanges (set.ranges ++ added.flatMap fun orbit => orbit.map fun code => (code, code))

/-- The characters that have case variants. -/
def withCaseVariants : CharSet :=
  .ofRanges (orbits.flatMap fun orbit => orbit.map fun code => (code, code))

/-- The characters that simple case folding changes. -/
def changedByFolding : CharSet := .ofRanges (foldingPairs.map fun pair => (pair.1, pair.1))

end Unicode

end ReleaseAnalysis
