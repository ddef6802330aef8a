import ReleaseAnalysis.Regex.Class
import ReleaseAnalysis.Regex.Core

/-!
# Working out the flags of an expression

Flags hold from where they are set to the end of the group, in later branches of an alternation
too. An expression has no meaning if one of its classes has none, or if it could match part of a
character because Unicode is turned off.
-/

set_option autoImplicit false

namespace ReleaseAnalysis

namespace Regex

/-- The meaning of a single character. -/
def Flags.literalCore (flags : Flags) (c : Char) : Core :=
  if flags.ignoreCase && (flags.unicode || c.isAlpha) then
    .ofSet flags.unicode (flags.folded (.single c))
  else .literal [c]

/-- The characters that a dot matches. -/
def Flags.dotSet (flags : Flags) : Unicode.CharSet :=
  if flags.dotMatchesNewLine then .all
  else if flags.carriageReturn then (asciiSet [('\n', '\n'), ('\r', '\r')]).complement
  else (asciiSet [('\n', '\n')]).complement

/-- The meaning of a condition on a place. -/
def Flags.look (flags : Flags) (assertion : Assertion) : Look :=
  let letters := ShortClass.word.set flags.unicode
  match assertion with
  | .lineStart => if flags.multiLine then .lineStart flags.carriageReturn else .textStart
  | .lineEnd => if flags.multiLine then .lineEnd flags.carriageReturn else .textEnd
  | .textStart => .textStart
  | .textEnd => .textEnd
  | .wordBoundary => .word .boundary letters
  | .notWordBoundary => .word .inside letters
  | .wordStart => .word .start letters
  | .wordEnd => .word .stop letters
  | .wordStartHalf => .word .startHalf letters
  | .wordEndHalf => .word .stopHalf letters

mutual

/-- The meaning of an expression, and the flags that hold behind it. -/
def Expr.resolve? (flags : Flags) : Expr → Option (Core × Flags)
  | .empty => some (.empty, flags)
  | .flags change => some (.empty, flags.changed change)
  | .literal value => do return (flags.literalCore (← flags.char? value), flags)
  | .dot => if flags.unicode then some (.ofSet true flags.dotSet, flags) else none
  | .assertion kind => some (.look (flags.look kind), flags)
  | .query asked negated => do return (.ofSet true (← flags.querySet? asked negated), flags)
  | .short kind negated => do
    return (.ofSet flags.unicode (← flags.negated? negated (kind.set flags.unicode)), flags)
  | .bracketed set negated => do
    return (.ofSet flags.unicode (← flags.bracketedSet? set negated), flags)
  | .repetition min max greedy sub => do
    let (core, flags) ← sub.resolve? flags
    return (.repeated min max (greedy != flags.swapGreed) core, flags)
  | .group (.capturing index) sub => do
    let (core, _) ← sub.resolve? flags
    return (.capture index core, flags)
  | .group (.flagged change) sub => do
    let (core, _) ← sub.resolve? (flags.changed change)
    return (core, flags)
  | .alternation branches => do
    let (cores, flags) ← Expr.resolveAll? flags branches
    return (.ofBranches cores, flags)
  | .concat parts => do
    let (cores, flags) ← Expr.resolveAll? flags parts
    return (.ofParts cores, flags)

/-- The meanings of expressions that stand one behind the other. -/
def Expr.resolveAll? (flags : Flags) : List Expr → Option (List Core × Flags)
  | [] => some ([], flags)
  | expr :: rest => do
    let (core, flags) ← expr.resolve? flags
    let (cores, flags) ← Expr.resolveAll? flags rest
    return (core :: cores, flags)

end

/-- The meaning of a whole expression. -/
def Expr.core? (expr : Expr) : Option Core := (expr.resolve? .initial).map Prod.fst

end Regex

end ReleaseAnalysis
