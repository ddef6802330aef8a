import ReleaseAnalysis.Regex.Parser
import ReleaseAnalysis.Regex.Program
import ReleaseAnalysis.Regex.Resolution
import ReleaseAnalysis.Regex.Size

/-!
# Regular expressions

A regular expression is compiled once and then searched for in texts. Compiling fails if the text
breaks a rule of the notation, asks for a class that does not exist, or needs too much memory.
-/

set_option autoImplicit false

namespace ReleaseAnalysis

/-- A compiled regular expression. -/
structure Regex where
  program : Regex.Program
deriving DecidableEq, Repr

/-- Why a text is no regular expression. -/
inductive RegexFault
  | malformed
  | tooLarge
deriving DecidableEq, Repr

/-- What a fault is called. The program prints what its compiler of expressions reports, which
points to the fault in the text; that report is left out here. -/
def RegexFault.message : RegexFault → String
  | .malformed => "the regular expression is malformed"
  | .tooLarge => "the regular expression is too large"

namespace Regex

/-- The regular expression that a text spells. -/
def compile (body : String) : Except RegexFault Regex :=
  match (Expr.parse? body).bind Expr.core? with
  | none => .error .malformed
  | some core => if core.isSmall then .ok ⟨core.program⟩ else .error .tooLarge

/-- Whether some part of a text matches. -/
def isMatch (regex : Regex) (text : List Char) : Bool := regex.program.accepts text

end Regex

end ReleaseAnalysis
