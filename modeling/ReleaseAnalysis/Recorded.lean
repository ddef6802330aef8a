/-!
# Computations that leave entries behind

A computation of this kind ends in a success or a failure and leaves a list of entries in either
case: the events of a resolution, the log of an analysis.
-/

set_option autoImplicit false

namespace ReleaseAnalysis

/-- A computation that leaves entries behind, whether it succeeds or fails. -/
structure Recorded (ε κ α : Type) where
  entries : List ε
  outcome : Except κ α

namespace Recorded

variable {ε κ ι α β : Type}

/-- A success that leaves nothing. -/
def ok (value : α) : Recorded ε κ α := ⟨[], .ok value⟩

/-- A failure that leaves nothing. -/
def error (cause : κ) : Recorded ε κ α := ⟨[], .error cause⟩

/-- The computation with entries in front of its own. -/
def after (earlier : List ε) (run : Recorded ε κ α) : Recorded ε κ α :=
  { run with entries := earlier ++ run.entries }

/-- The computation with its result changed. -/
def map (f : α → β) (run : Recorded ε κ α) : Recorded ε κ β := ⟨run.entries, run.outcome.map f⟩

/-- The computation with its failure changed. -/
def mapError (f : κ → ι) (run : Recorded ε κ α) : Recorded ε ι α :=
  ⟨run.entries, run.outcome.mapError f⟩

end Recorded

end ReleaseAnalysis
