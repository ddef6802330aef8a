/-!
# Sets of characters

A set of characters is a list of ranges of code points, in increasing order, without overlap and
without neighbours that could be joined. Surrogates are no characters, so no range contains any.

Tables of characters are kept as text: code points in hexadecimal, a dash between the ends of a
range, and `/2` behind a range of which every second code point is meant.
-/

set_option autoImplicit false

namespace ReleaseAnalysis

namespace Unicode

/-- A set of characters, given by the ranges of its code points. -/
structure CharSet where
  ranges : List (Nat × Nat)
deriving DecidableEq, Repr

namespace CharSet

/-- The greatest code point. -/
def maxCode : Nat := 0x10FFFF

/-- The set without characters. -/
def empty : CharSet := ⟨[]⟩

instance : Inhabited CharSet := ⟨empty⟩

/-- Whether the set has no character. -/
def isEmpty (set : CharSet) : Bool := set.ranges.isEmpty

/-- Joins ranges in order of their starts, going on from a range. -/
def joinFrom (low high : Nat) : List (Nat × Nat) → List (Nat × Nat)
  | [] => [(low, high)]
  | (start, stop) :: rest =>
    if start ≤ high + 1 then joinFrom low (max high stop) rest
    else (low, high) :: joinFrom start stop rest

/-- Joins ranges in order of their starts. -/
def join : List (Nat × Nat) → List (Nat × Nat)
  | [] => []
  | (low, high) :: rest => joinFrom low high rest

/-- The parts of a range on either side of the surrogates. -/
def withoutSurrogates (range : Nat × Nat) : List (Nat × Nat) :=
  [(range.1, min range.2 0xD7FF), (max range.1 0xE000, range.2)].filter fun part => part.1 ≤ part.2

/-- The set of the characters in any ranges. -/
def ofRanges (ranges : List (Nat × Nat)) : CharSet :=
  ⟨(join (ranges.mergeSort fun first second => first.1 ≤ second.1)).flatMap withoutSurrogates⟩

/-- The set of the characters between two code points. -/
def range (low high : Nat) : CharSet := ofRanges [(low, high)]

/-- The set of one character. -/
def single (c : Char) : CharSet := ⟨[(c.toNat, c.toNat)]⟩

/-- The set of all characters. -/
def all : CharSet := range 0 maxCode

/-- Whether a code point lies in one of some ranges in increasing order. -/
def memRanges (code : Nat) : List (Nat × Nat) → Bool
  | [] => false
  | (low, high) :: rest => if code < low then false else code ≤ high || memRanges code rest

/-- Whether a character belongs to the set. -/
def contains (set : CharSet) (c : Char) : Bool := memRanges c.toNat set.ranges

/-- The characters of either set. -/
def union (first second : CharSet) : CharSet := ofRanges (first.ranges ++ second.ranges)

/-- The characters of any set of a list. -/
def unionAll (sets : List CharSet) : CharSet := ofRanges (sets.flatMap ranges)

/-- The gaps between ranges, from a code point on. -/
def gapsFrom (low : Nat) : List (Nat × Nat) → List (Nat × Nat)
  | [] => if low ≤ maxCode then [(low, maxCode)] else []
  | (start, stop) :: rest =>
    if low < start then (low, start - 1) :: gapsFrom (stop + 1) rest else gapsFrom (stop + 1) rest

/-- The characters that the set does not have. -/
def complement (set : CharSet) : CharSet := ofRanges (gapsFrom 0 set.ranges)

/-- The characters of both sets. -/
def inter (first second : CharSet) : CharSet :=
  (first.complement.union second.complement).complement

/-- The characters of the first set that the second does not have. -/
def diff (first second : CharSet) : CharSet := first.inter second.complement

/-- The characters of exactly one of the sets. -/
def symmDiff (first second : CharSet) : CharSet := (first.diff second).union (second.diff first)

/-- The character of a set that has only one. -/
def single? (set : CharSet) : Option Char :=
  match set.ranges with
  | [(low, high)] => if low = high then some (Char.ofNat low) else none
  | _ => none

/-- The greatest code point of the set. -/
def last? (set : CharSet) : Option Nat := (set.ranges.getLast?).map (·.2)

/-- Whether all characters of the set are ASCII. -/
def isAscii (set : CharSet) : Bool := set.last?.all (· < 0x80)

end CharSet

/-! ## Tables -/

/-- The number that hexadecimal digits spell. -/
def hexNumber (digits : List Char) : Nat :=
  digits.foldl (fun value digit =>
    16 * value +
      (if digit.isDigit then digit.toNat - '0'.toNat else digit.toNat - 'A'.toNat + 10)) 0

/-- The words of a text. -/
def words (text : List Char) : List (List Char) :=
  (text.splitBy fun first second => first.isWhitespace == second.isWhitespace).filter
    fun word => word.any fun c => !c.isWhitespace

/-- The part of a word before a mark, and the part behind it if the mark is there. -/
def cut (mark : Char) (word : List Char) : List Char × Option (List Char) :=
  match word.dropWhile (· != mark) with
  | [] => (word, none)
  | _ :: behind => (word.takeWhile (· != mark), some behind)

/-- The ranges of a word of a table. -/
def wordRanges (word : List Char) : List (Nat × Nat) :=
  let (ends, step) := cut '/' word
  let (low, high) := cut '-' ends
  let low := hexNumber low
  let high := high.elim low hexNumber
  if step.isSome then (List.range ((high - low) / 2 + 1)).map fun n => (low + 2 * n, low + 2 * n)
  else [(low, high)]

/-- The set that a text of a table describes. -/
def CharSet.ofText (text : String) : CharSet := .ofRanges ((words text.toList).flatMap wordRanges)

/-- A set of characters under one or more names, which are separated by blanks. -/
structure TableEntry where
  names : String
  text : String

/-- The characters of an entry. -/
def TableEntry.set (entry : TableEntry) : CharSet := .ofText entry.text

/-- Whether a name is one of the names in a text. -/
def isNamed (names name : String) : Bool := (words names.toList).contains name.toList

/-- The set that a table gives under a name. -/
def lookup (table : List TableEntry) (name : String) : Option CharSet :=
  (table.find? fun entry => isNamed entry.names name).map TableEntry.set

end Unicode

end ReleaseAnalysis
