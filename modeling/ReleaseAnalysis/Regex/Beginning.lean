import ReleaseAnalysis.Regex.Core

/-!
# The beginnings of matches

The matches of an expression begin with certain texts, which are given here by their UTF-8 bytes and
in the order in which the expression prefers them. A beginning is whole if a match ends with it. Only
few and short beginnings are listed: long ones are cut off, and where there are too many of them,
nothing is known.

An expression whose beginnings are all whole matches a few fixed texts, however long it is written,
since it may have parts that match nothing. Such an expression is searched for by its texts
(`Core.isFewTexts`).
-/

set_option autoImplicit false

namespace ReleaseAnalysis

namespace Regex

/-- The bytes of a character. -/
def utf8Bytes (c : Char) : List Nat := (String.utf8EncodeChar c).map UInt8.toNat

/-- The beginning of some matches; if it is whole, one of them ends with it. -/
structure Beginning where
  bytes : List Nat
  whole : Bool
deriving DecidableEq, Repr

namespace Beginning

/-- The beginning of every match. -/
def nothing : Beginning := ⟨[], true⟩

/-- The beginning of longer matches. -/
def continued (beginning : Beginning) : Beginning := { beginning with whole := false }

/-- The beginning with no more than some bytes. -/
def cutTo (length : Nat) (beginning : Beginning) : Beginning :=
  if beginning.bytes.length ≤ length then beginning
  else ⟨beginning.bytes.take length, false⟩

/-- A beginning with another one behind it. -/
def append (first second : Beginning) : Beginning := ⟨first.bytes ++ second.bytes, second.whole⟩

/-- Puts a beginning before others. Of two that are equal and neighbours one is left, which is whole
if both are. -/
def put (beginning : Beginning) : List Beginning → List Beginning
  | [] => [beginning]
  | next :: rest =>
    if beginning.bytes = next.bytes then ⟨next.bytes, beginning.whole && next.whole⟩ :: rest
    else beginning :: next :: rest

end Beginning

/-! ## Lists of beginnings -/

/-- The beginnings of all matches, if they are known. -/
abbrev Beginnings := Option (List Beginning)

namespace Beginnings

/-- The number of bytes that a beginning may have. -/
def lengthLimit : Nat := 100

/-- The number of beginnings that may be listed. -/
def countLimit : Nat := 250

/-- The number of characters of a set that is gone through. -/
def setLimit : Nat := 10

/-- The number of times that a repetition is gone through. -/
def repetitionLimit : Nat := 10

/-- Whether there is nothing to put something behind. -/
def isSettled (beginnings : Beginnings) : Bool := beginnings.all (·.all (!·.whole))

/-- The beginnings of longer matches. -/
def continued (beginnings : Beginnings) : Beginnings := beginnings.map (·.map Beginning.continued)

/-- The beginnings of one text. -/
def ofBytes (bytes : List Nat) : Beginnings := some [(Beginning.mk bytes true).cutTo lengthLimit]

/-- The codes of a range. -/
def codes (range : Nat × Nat) : List Nat :=
  (List.range (range.2 - range.1 + 1)).map (range.1 + ·)

/-- The beginnings of the characters of a set. -/
def ofSet (chars : Unicode.CharSet) : Beginnings :=
  let size := chars.ranges.foldl (fun size range => size + (range.2 - range.1 + 1)) 0
  if size ≤ setLimit then
    some ((chars.ranges.flatMap codes).map fun code => ⟨utf8Bytes (Char.ofNat code), true⟩)
  else none

/-- The beginnings of one expression or another. If there are too many, they are cut to four
bytes. -/
def either (first second : Beginnings) : Beginnings := do
  let first ← first
  let second ← second
  let short (found : List Beginning) := (found.map (Beginning.cutTo 4)).foldr Beginning.put []
  let (first, second) :=
    if first.length + second.length ≤ countLimit then (first, second)
    else (short first, short second)
  guard (first.length + second.length ≤ countLimit)
  return (first ++ second).foldr Beginning.put []

/-- The beginnings of one expression with another one behind it. -/
def followedBy (first second : Beginnings) : Beginnings := do
  let first ← first
  match second.filter fun second => first.length * second.length ≤ countLimit with
  | none =>
    guard (first.all (!·.bytes.isEmpty))
    return first.map Beginning.continued
  | some second =>
    let found := first.flatMap fun beginning =>
      if beginning.whole then second.map beginning.append else [beginning]
    return (found.foldr Beginning.put []).map (Beginning.cutTo lengthLimit)

/-- The beginnings with more behind them, unless none is whole. -/
def extend (first second : Beginnings) : Beginnings :=
  if first.isSettled then first else first.followedBy second

/-- The beginnings of a repetition. -/
def repeated (min : Nat) (max : Option Nat) (greedy : Bool) (found : Beginnings) : Beginnings :=
  if min = 0 then
    let found := if max = some 1 then found else found.continued
    if greedy then found.either (some [.nothing]) else either (some [.nothing]) found
  else
    let copies := (List.replicate (Nat.min min repetitionLimit) found).foldl extend (some [.nothing])
    if max = some min ∧ min ≤ repetitionLimit then copies else copies.continued

/-! ## Searching by beginnings -/

/-- The beginnings without those that begin with a preferred one. -/
def preferred (found : List Beginning) : List Beginning :=
  found.foldl (fun kept beginning =>
    if kept.any (·.bytes.isPrefixOf beginning.bytes) then kept else kept ++ [beginning]) []

/-- The bytes that two texts begin with. -/
def sharedBytes : List Nat → List Nat → List Nat
  | first :: rest, other :: others => if first = other then first :: sharedBytes rest others else []
  | _, _ => []

/-- The bytes that all beginnings share. -/
def shared : List Beginning → List Nat
  | [] => []
  | first :: rest => rest.foldl (fun bytes next => sharedBytes bytes next.bytes) first.bytes

/-- Whether a byte that a character begins with is often met in texts. -/
def isFrequent (byte : Nat) : Bool :=
  0x80 ≤ byte || "\n\r (),-./0129:_abcdefghilmnoprstuvxy|".toList.contains (Char.ofNat byte)

/-- The beginnings that a search looks for. Beginnings that share a rare byte or several bytes are
cut to these, unless there are few enough of them. -/
def searched (found : List Beginning) : List Beginning :=
  let kept := preferred found
  let bytes := shared kept
  let few := kept.all (·.whole) && kept.length ≤ 16
  if 1 < found.length && bytes.length ≤ 3 && bytes.head?.any (!isFrequent ·) then
    kept.map (Beginning.cutTo 1)
  else if 4 < bytes.length || (1 < bytes.length && !few) then
    kept.map (Beginning.cutTo bytes.length)
  else kept

/-- Whether a search for the beginnings finds the matches: there are some, none is empty, and all
that is looked for is whole. -/
def suffice (beginnings : Beginnings) : Bool :=
  beginnings.any fun found =>
    !found.isEmpty && found.all (!·.bytes.isEmpty) && (searched found).all (·.whole)

end Beginnings

/-! ## The beginnings of an expression -/

namespace Core

mutual

/-- The beginnings of the matches of an expression; conditions are taken to hold. -/
def beginnings : Core → Beginnings
  | .empty => some [.nothing]
  | .literal chars => .ofBytes ((chars.take (Beginnings.lengthLimit + 1)).flatMap utf8Bytes)
  | .set _ chars => .ofSet chars
  | .look _ => some [.nothing]
  | .repetition min max greedy sub => sub.beginnings.repeated min max greedy
  | .capture _ sub => sub.beginnings
  | .concat parts => beginningsOfParts (some [.nothing]) parts
  | .alternation branches => beginningsOfBranches (some []) branches

/-- The beginnings with expressions behind them. -/
def beginningsOfParts (found : Beginnings) : List Core → Beginnings
  | [] => found
  | core :: rest => beginningsOfParts (found.extend core.beginnings) rest

/-- The beginnings together with those of other expressions. -/
def beginningsOfBranches (found : Beginnings) : List Core → Beginnings
  | [] => found
  | core :: rest => beginningsOfBranches (found.either core.beginnings) rest

end

mutual

/-- Whether an expression has neither conditions nor groups. -/
def isPlain : Core → Bool
  | .look _ | .capture _ _ => false
  | .repetition _ _ _ sub => sub.isPlain
  | .concat parts => arePlain parts
  | .alternation branches => arePlain branches
  | _ => true

/-- Whether some expressions have neither conditions nor groups. -/
def arePlain : List Core → Bool
  | [] => true
  | core :: rest => core.isPlain && arePlain rest

end

/-- Whether an expression can be searched for by a few texts. -/
def isFewTexts (core : Core) : Bool := core.isPlain && core.beginnings.suffice

end Core

end Regex

end ReleaseAnalysis
