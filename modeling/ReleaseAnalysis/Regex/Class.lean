import ReleaseAnalysis.Regex.Expr

/-!
# The characters of a class

What a class means depends on two flags. Without regard to case, a class has all case variants of
its characters. With Unicode turned off, a class has ASCII characters only: a class that reaches
beyond, as every negated one does, is refused.
-/

set_option autoImplicit false

namespace ReleaseAnalysis

namespace Regex

/-- The flags that hold at a place of an expression. -/
structure Flags where
  ignoreCase : Bool
  multiLine : Bool
  dotMatchesNewLine : Bool
  swapGreed : Bool
  unicode : Bool
  carriageReturn : Bool
deriving DecidableEq, Repr

/-- The flags at the beginning of an expression. -/
def Flags.initial : Flags := ⟨false, false, false, false, true, false⟩

/-- The flags after a change. -/
def Flags.changed (flags : Flags) (change : FlagChange) : Flags where
  ignoreCase := (change.state? .ignoreCase).getD flags.ignoreCase
  multiLine := (change.state? .multiLine).getD flags.multiLine
  dotMatchesNewLine := (change.state? .dotMatchesNewLine).getD flags.dotMatchesNewLine
  swapGreed := (change.state? .swapGreed).getD flags.swapGreed
  unicode := (change.state? .unicode).getD flags.unicode
  carriageReturn := (change.state? .carriageReturn).getD flags.carriageReturn

/-- The characters of the alphabet of ASCII in either case. -/
def asciiVariants (c : Char) : List Char :=
  if c.isUpper then [c, c.toLower] else if c.isLower then [c, c.toUpper] else [c]

/-- The set with the other case of its ASCII letters. -/
def withAsciiVariants (set : Unicode.CharSet) : Unicode.CharSet :=
  let letters := (List.range 0x80).map Char.ofNat |>.filter fun c => c.isAlpha && set.contains c
  set.union (.unionAll ((letters.flatMap asciiVariants).map .single))

/-- The set with the case variants that count under the flags. -/
def Flags.folded (flags : Flags) (set : Unicode.CharSet) : Unicode.CharSet :=
  if !flags.ignoreCase then set
  else if flags.unicode then set.withVariants
  else withAsciiVariants set

/-- The set or the characters outside, as far as the flags admit it. -/
def Flags.negated? (flags : Flags) (negated : Bool) (set : Unicode.CharSet) :
    Option Unicode.CharSet :=
  if !negated then some set
  else if flags.unicode then some set.complement
  else none

/-- A set of ASCII characters given by pairs of characters. -/
def asciiSet (ranges : List (Char × Char)) : Unicode.CharSet :=
  .ofRanges (ranges.map fun range => (range.1.toNat, range.2.toNat))

/-- The characters of a class with a name. -/
def NamedClass.set : NamedClass → Unicode.CharSet
  | .alnum => asciiSet [('0', '9'), ('A', 'Z'), ('a', 'z')]
  | .alpha => asciiSet [('A', 'Z'), ('a', 'z')]
  | .ascii => asciiSet [('\x00', '\x7f')]
  | .blank => asciiSet [('\t', '\t'), (' ', ' ')]
  | .cntrl => asciiSet [('\x00', '\x1f'), ('\x7f', '\x7f')]
  | .digit => asciiSet [('0', '9')]
  | .graph => asciiSet [('!', '~')]
  | .lower => asciiSet [('a', 'z')]
  | .print => asciiSet [(' ', '~')]
  | .punct => asciiSet [('!', '/'), (':', '@'), ('[', '\x60'), ('\x7b', '~')]
  | .space => asciiSet [('\t', '\r'), (' ', ' ')]
  | .upper => asciiSet [('A', 'Z')]
  | .word => asciiSet [('0', '9'), ('A', 'Z'), ('_', '_'), ('a', 'z')]
  | .xdigit => asciiSet [('0', '9'), ('A', 'F'), ('a', 'f')]

/-- The characters of a class with a letter of its own. -/
def ShortClass.set (unicode : Bool) : ShortClass → Unicode.CharSet
  | .digit => if unicode then Unicode.digits else NamedClass.digit.set
  | .space => if unicode then Unicode.whiteSpace else NamedClass.space.set
  | .word => if unicode then Unicode.wordCharacters else NamedClass.word.set

/-- The characters of a class given by name, which Unicode has to be turned on for. -/
def Flags.querySet? (flags : Flags) (query : Unicode.Query) (negated : Bool) :
    Option Unicode.CharSet := do
  guard flags.unicode
  flags.negated? negated (flags.folded (← query.set?))

/-- The character of a literal. With Unicode turned off, a byte beyond ASCII is none. -/
def Flags.char? (flags : Flags) (literal : Literal) : Option Char :=
  if !flags.unicode && literal.byte && literal.char.toNat > 0x7F then none else some literal.char

/-- The code point of a literal in a class. -/
def Flags.classCode? (flags : Flags) (literal : Literal) : Option Nat :=
  if flags.unicode || literal.char.toNat ≤ 0x7F then some literal.char.toNat else none

mutual

/-- The characters of a part of a class. -/
def ClassItem.set? (flags : Flags) : ClassItem → Option Unicode.CharSet
  | .literal value => do
    let code ← flags.classCode? value
    return .range code code
  | .range low high => do return .range (← flags.classCode? low) (← flags.classCode? high)
  | .named kind negated => flags.negated? negated (flags.folded kind.set)
  | .query asked negated => flags.querySet? asked negated
  | .short kind negated => flags.negated? negated (kind.set flags.unicode)
  | .bracketed inner negated => do flags.negated? negated (flags.folded (← inner.set? flags))
  | .union items => do return .unionAll (← ClassItem.sets? flags items)

/-- The characters of each of some parts. -/
def ClassItem.sets? (flags : Flags) : List ClassItem → Option (List Unicode.CharSet)
  | [] => some []
  | item :: rest => do return (← item.set? flags) :: (← ClassItem.sets? flags rest)

/-- The characters of what stands between brackets. -/
def ClassSet.set? (flags : Flags) : ClassSet → Option Unicode.CharSet
  | .item part => part.set? flags
  | .operation kind left right => do
    let left := flags.folded (← left.set? flags)
    let right := flags.folded (← right.set? flags)
    return match kind with
      | .intersection => left.inter right
      | .difference => left.diff right
      | .symmetricDifference => left.symmDiff right

end

/-- The characters of a class in brackets. -/
def Flags.bracketedSet? (flags : Flags) (set : ClassSet) (negated : Bool) :
    Option Unicode.CharSet := do
  flags.negated? negated (flags.folded (← set.set? flags))

end Regex

end ReleaseAnalysis
