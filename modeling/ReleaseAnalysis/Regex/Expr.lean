import ReleaseAnalysis.Unicode.Query

/-!
# Regular expressions as they are written

An expression keeps what its text says: flags are not yet applied, classes not yet evaluated and
repetitions not yet expanded. How deep an expression is nested is limited; groups, repetitions,
bracketed classes and everything that holds several parts counts as a level.
-/

set_option autoImplicit false

namespace ReleaseAnalysis

namespace Regex

/-- A flag of matching. -/
inductive Flag
  | ignoreCase
  | multiLine
  | dotMatchesNewLine
  | swapGreed
  | unicode
  | carriageReturn
  | verbose
deriving DecidableEq, Repr

/-- The flags that a group turns on and off. -/
structure FlagChange where
  enabled : List Flag
  disabled : List Flag
deriving DecidableEq, Repr

/-- Whether a change turns a flag on or off, if it mentions the flag. -/
def FlagChange.state? (change : FlagChange) (flag : Flag) : Option Bool :=
  if flag ∈ change.enabled then some true
  else if flag ∈ change.disabled then some false
  else none

/-- The classes with a letter of their own. -/
inductive ShortClass
  | digit
  | space
  | word
deriving DecidableEq, Repr

/-- The classes with a name between colons. -/
inductive NamedClass
  | alnum
  | alpha
  | ascii
  | blank
  | cntrl
  | digit
  | graph
  | lower
  | print
  | punct
  | space
  | upper
  | word
  | xdigit
deriving DecidableEq, Repr

/-- A condition on a place in the text, as it is written. -/
inductive Assertion
  | lineStart
  | lineEnd
  | textStart
  | textEnd
  | wordBoundary
  | notWordBoundary
  | wordStart
  | wordEnd
  | wordStartHalf
  | wordEndHalf
deriving DecidableEq, Repr

/-- A single character. One written with exactly two hexadecimal digits stands for a byte where
Unicode is turned off. -/
structure Literal where
  char : Char
  byte : Bool
deriving DecidableEq, Repr

/-- The operations on classes. -/
inductive ClassOperation
  | intersection
  | difference
  | symmetricDifference
deriving DecidableEq, Repr

mutual

/-- A part of a bracketed class. -/
inductive ClassItem
  | literal (literal : Literal)
  | range (low high : Literal)
  | named (kind : NamedClass) (negated : Bool)
  | query (query : Unicode.Query) (negated : Bool)
  | short (kind : ShortClass) (negated : Bool)
  | bracketed (set : ClassSet) (negated : Bool)
  | union (items : List ClassItem)

/-- What stands between brackets. -/
inductive ClassSet
  | item (item : ClassItem)
  | operation (kind : ClassOperation) (left right : ClassSet)

end

instance : Inhabited ClassItem := ⟨.union []⟩

/-- What a group does besides grouping. -/
inductive GroupKind
  | capturing (index : Nat)
  | flagged (change : FlagChange)
deriving DecidableEq, Repr

/-- A regular expression as it is written. -/
inductive Expr
  | empty
  | flags (change : FlagChange)
  | literal (literal : Literal)
  | dot
  | assertion (kind : Assertion)
  | query (query : Unicode.Query) (negated : Bool)
  | short (kind : ShortClass) (negated : Bool)
  | bracketed (set : ClassSet) (negated : Bool)
  | repetition (min : Nat) (max : Option Nat) (greedy : Bool) (sub : Expr)
  | group (kind : GroupKind) (sub : Expr)
  | alternation (branches : List Expr)
  | concat (parts : List Expr)

instance : Inhabited Expr := ⟨.empty⟩

mutual

/-- The levels of a part of a class. -/
def ClassItem.depth : ClassItem → Nat
  | .bracketed set _ => set.depth + 1
  | .union items => ClassItem.maxDepth items + 1
  | _ => 0

/-- The greatest number of levels of some parts. -/
def ClassItem.maxDepth : List ClassItem → Nat
  | [] => 0
  | item :: rest => max item.depth (ClassItem.maxDepth rest)

/-- The levels of what stands between brackets. -/
def ClassSet.depth : ClassSet → Nat
  | .item item => item.depth
  | .operation _ left right => max left.depth right.depth + 1

end

mutual

/-- The levels of an expression. -/
def Expr.depth : Expr → Nat
  | .bracketed set _ => set.depth + 1
  | .repetition _ _ _ sub => sub.depth + 1
  | .group _ sub => sub.depth + 1
  | .alternation branches => Expr.maxDepth branches + 1
  | .concat parts => Expr.maxDepth parts + 1
  | _ => 0

/-- The greatest number of levels of some expressions. -/
def Expr.maxDepth : List Expr → Nat
  | [] => 0
  | expr :: rest => max expr.depth (Expr.maxDepth rest)

end

/-- The greatest number of levels of an expression that is accepted. -/
def depthLimit : Nat := 250

/-- A concatenation; a single part stands for itself. -/
def Expr.ofParts : List Expr → Expr
  | [] => .empty
  | [part] => part
  | parts => .concat parts

/-- A union of class parts; a single part stands for itself. -/
def ClassItem.ofItems : List ClassItem → ClassItem
  | [item] => item
  | items => .union items

end Regex

end ReleaseAnalysis
