import ReleaseAnalysis.Regex.Expr

/-!
# Regular expressions with their flags worked out

In the core language every class is a set of characters and every flag has had its effect, so that
an expression means the same wherever it stands. Whether a repetition is reluctant and which group a
match goes into makes no difference to whether there is a match, but such expressions differ.

The constructors for sequences, alternations and repetitions keep expressions short. Parts without
effect are dropped, neighbouring characters are put together, an alternation of single characters or
of sets is one set, and what all branches of an alternation begin with is taken out of it.
-/

set_option autoImplicit false

namespace ReleaseAnalysis

namespace Regex

/-- A condition on the words that meet at a place. -/
inductive WordEdge
  | boundary
  | inside
  | start
  | stop
  | startHalf
  | stopHalf
deriving DecidableEq, Repr

/-- A condition on a place in the text. The beginnings and ends of lines heed carriage returns or do
not; conditions on words know which characters belong to words. -/
inductive Look
  | textStart
  | textEnd
  | lineStart (carriageReturn : Bool)
  | lineEnd (carriageReturn : Bool)
  | word (edge : WordEdge) (letters : Unicode.CharSet)
deriving DecidableEq, Repr

/-- Whether a condition on words holds between characters of which it is known whether they belong
to words. -/
def WordEdge.holds (edge : WordEdge) (before behind : Bool) : Bool :=
  match edge with
  | .boundary => before != behind
  | .inside => before == behind
  | .start => !before && behind
  | .stop => before && !behind
  | .startHalf => !before
  | .stopHalf => !behind

/-- Whether a condition holds between two characters; there may be none before and none behind. -/
def Look.holds (look : Look) (before behind : Option Char) : Bool :=
  match look with
  | .textStart => before.isNone
  | .textEnd => behind.isNone
  | .lineStart false => before.all (· == '\n')
  | .lineEnd false => behind.all (· == '\n')
  | .lineStart true => before.all fun c => c == '\n' || (c == '\r' && behind != some '\n')
  | .lineEnd true => behind.all fun c => c == '\r' || (c == '\n' && before != some '\r')
  | .word edge letters => edge.holds (before.any letters.contains) (behind.any letters.contains)

/-- A regular expression of the core language. A set of characters knows whether it was written with
Unicode turned on. -/
inductive Core
  | empty
  | literal (chars : List Char)
  | set (unicode : Bool) (set : Unicode.CharSet)
  | look (look : Look)
  | repetition (min : Nat) (max : Option Nat) (greedy : Bool) (sub : Core)
  | capture (index : Nat) (sub : Core)
  | concat (parts : List Core)
  | alternation (branches : List Core)
deriving BEq

instance : Inhabited Core := ⟨.empty⟩

namespace Core

/-- What matches nothing. -/
def nothing : Core := .set false .empty

/-- One character of a set. -/
def ofSet (unicode : Bool) (chars : Unicode.CharSet) : Core :=
  match chars.single? with
  | some c => .literal [c]
  | none => if chars.isEmpty then nothing else .set unicode chars

mutual

/-- Whether an expression is known to match the empty text only. -/
def onlyEmpty : Core → Bool
  | .empty => true
  | .literal _ => false
  | .set _ _ => false
  | .look _ => true
  | .repetition _ _ _ sub => sub.onlyEmpty
  | .capture _ sub => sub.onlyEmpty
  | .concat parts => allOnlyEmpty parts
  | .alternation branches => allOnlyEmpty branches

/-- Whether all of some expressions are known to match the empty text only. -/
def allOnlyEmpty : List Core → Bool
  | [] => true
  | core :: rest => core.onlyEmpty && allOnlyEmpty rest

end

/-- Repeats an expression. What matches the empty text only need not be repeated. -/
def repeated (min : Nat) (max : Option Nat) (greedy : Bool) (sub : Core) : Core :=
  let (min, max) :=
    if sub.onlyEmpty then (Nat.min min 1, some (max.elim 1 (Nat.min · 1))) else (min, max)
  match min, max with
  | 0, some 0 => .empty
  | 1, some 1 => sub
  | min, max => .repetition min max greedy sub

/-- The parts of a sequence; everything else is a single part. -/
def parts : Core → List Core
  | .empty => []
  | .concat parts => parts
  | core => [core]

/-- Puts a part before some parts, joining characters. -/
def joinPart : Core → List Core → List Core
  | .literal first, .literal second :: rest => .literal (first ++ second) :: rest
  | part, rest => part :: rest

/-- A sequence of expressions. -/
def ofParts (cores : List Core) : Core :=
  match (cores.flatMap parts).foldr joinPart [] with
  | [] => .empty
  | [part] => part
  | several => .concat several

/-- The branches of an alternation; everything else is a single branch. -/
def branches : Core → List Core
  | .alternation branches => branches
  | core => [core]

/-- The character of an expression that matches one character only. -/
def char? : Core → Option Unicode.CharSet
  | .literal [c] => some (.single c)
  | _ => none

/-- The characters of a set. -/
def charSet? : Core → Option Unicode.CharSet
  | .set _ chars => some chars
  | _ => none

/-- The parts of a sequence of several parts. -/
def sequence? : Core → Option (List Core)
  | .concat parts => some parts
  | _ => none

/-- An alternation whose branches begin differently. -/
def joinBranches (cores : List Core) : Core :=
  match cores.flatMap branches with
  | [] => nothing
  | [branch] => branch
  | several =>
    match (several.mapM char?).or (several.mapM charSet?) with
    | some sets => ofSet true (.unionAll sets)
    | none => .alternation several

/-- The beginning that two sequences share. -/
def sharedParts : List Core → List Core → List Core
  | first :: rest, other :: others =>
    if first == other then first :: sharedParts rest others else []
  | _, _ => []

/-- An alternation of expressions. What is left of the branches without their common beginning
begins differently. -/
def ofBranches (cores : List Core) : Core :=
  match (cores.flatMap branches).mapM sequence? with
  | some (first :: second :: rest) =>
    match (second :: rest).foldl sharedParts first with
    | [] => joinBranches cores
    | shared =>
      let remaining := (first :: second :: rest).map fun parts => ofParts (parts.drop shared.length)
      ofParts (shared ++ [joinBranches remaining])
  | _ => joinBranches cores

end Core

end Regex

end ReleaseAnalysis
