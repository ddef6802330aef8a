import ReleaseAnalysis.Regex.Beginning

/-!
# The size of an automaton

An expression is refused if an automaton for it would take too much memory. The automaton reads the
UTF-8 bytes of a text, and there are two of it, one that reads forward and one that reads backward.
They are not built here, only counted state by state, with repetitions written out.

A set of characters needs a tree of byte ranges. Forward, equal subtrees are one state; backward,
equal beginnings are. Whether a state is equal to an earlier one is looked up in a table with few
slots, each of which remembers the last state put into it, so that states are sometimes made again.

Since a state is found by the numbers of the states that it leads to, the order in which states are
made matters. An expression for a few fixed texts, or an alternation of very many, is searched for
without an automaton.
-/

set_option autoImplicit false

namespace ReleaseAnalysis

namespace Regex

/-- The memory that an automaton may take. -/
def sizeLimit : Nat := 10 * 1024 * 1024

/-- The memory of a state. -/
def stateSize : Nat := 32

/-- The memory of a transition, in a state that has a list of them. -/
def transitionSize : Nat := 8

/-- The memory of a way out of a state that branches without reading. -/
def waySize : Nat := 4

/-- How much of an automaton there is: the number of states, which is also the number of the next
one, and the memory they take. -/
structure Extent where
  states : Nat
  memory : Nat
deriving DecidableEq, Repr

namespace Extent

/-- With more memory, as far as the limit admits it. -/
def addMemory (extent : Extent) (memory : Nat) : Option Extent :=
  if extent.memory + memory ≤ sizeLimit then some { extent with memory := extent.memory + memory }
  else none

/-- With another state that takes some memory of its own. -/
def addState (extent : Extent) (memory : Nat) : Option Extent :=
  { extent with states := extent.states + 1 }.addMemory (stateSize + memory)

end Extent

/-- A part of an automaton, given by how it adds to what is there. -/
structure Growth where
  add : Extent → Option Extent

namespace Growth

/-- Nothing is added. -/
def none : Growth := ⟨some⟩

/-- A state that takes some memory of its own. -/
def state (memory : Nat) : Growth := ⟨fun extent => extent.addState memory⟩

/-- A way out of a state. -/
def way : Growth := ⟨fun extent => extent.addMemory waySize⟩

/-- One part after another. -/
def andThen (first second : Growth) : Growth := ⟨fun extent => (first.add extent).bind second.add⟩

/-- Parts one after the other. -/
def all (parts : List Growth) : Growth := parts.foldr andThen none

/-- Adds a part a number of times. -/
def addTimes (part : Growth) : Nat → Extent → Option Extent
  | 0, extent => some extent
  | count + 1, extent =>
    match part.add extent with
    | some extent => addTimes part count extent
    | Option.none => Option.none

/-- A part a number of times. -/
def times (count : Nat) (part : Growth) : Growth := ⟨part.addTimes count⟩

end Growth

/-! ## Byte sequences -/

/-- Parts a range so that each part lies in one block of a size or covers whole blocks. -/
def partAtBlocks (block : Nat) (range : Nat × Nat) : List (Nat × Nat) :=
  let (low, high) := range
  if low / block = high / block then [range]
  else
    let first := (low + block - 1) / block * block
    let last := (high + 1) / block * block
    [(low, first - 1), (first, last - 1), (last, high)].filter fun part => part.1 < part.2 + 1

/-- Parts a range so that each part has code points of one length in UTF-8. -/
def partByLength (range : Nat × Nat) : List (Nat × Nat) :=
  [(0, 0x7F), (0x80, 0x7FF), (0x800, 0xFFFF), (0x10000, Unicode.CharSet.maxCode)].filterMap
    fun length =>
      let part := (max range.1 length.1, min range.2 length.2)
      if part.1 ≤ part.2 then some part else none

/-- Parts a range so that the encodings of each part are all combinations of ranges of bytes. -/
def partByBytes (range : Nat × Nat) : List (Nat × Nat) :=
  (partByLength range).flatMap fun part =>
    if part.2 ≤ 0x7F then [part]
    else (partAtBlocks 0x40 part).flatMap fun part =>
      (partAtBlocks 0x1000 part).flatMap (partAtBlocks 0x40000)

/-- The sequences of byte ranges that spell the characters of a set, in increasing order. -/
def byteSequences (set : Unicode.CharSet) : List (List (Nat × Nat)) :=
  (set.ranges.flatMap partByBytes).map fun (low, high) =>
    (utf8Bytes (Char.ofNat low)).zip (utf8Bytes (Char.ofNat high))

/-- The first elements of sequences, each with the continuations that it has. Sequences that begin
alike have to be neighbours. -/
def continuations {α : Type} [BEq α] (sequences : List (List α)) : List (α × List (List α)) :=
  (sequences.splitBy fun first second => first.head? == second.head?).filterMap fun group =>
    group.head?.bind List.head? |>.map fun first => (first, group.map List.tail)

/-- A tree of byte ranges: what each range leads to. -/
inductive ByteTree
  | node (branches : List ((Nat × Nat) × ByteTree))

/-- The tree of sequences of at most so many ranges. -/
def byteTree : Nat → List (List (Nat × Nat)) → ByteTree
  | 0, _ => .node []
  | length + 1, sequences =>
    .node ((continuations sequences).map fun branch => (branch.1, byteTree length branch.2))

/-! ## States that are found again -/

/-- A transition: a range of bytes and the state it leads to. -/
structure Transition where
  low : Nat
  high : Nat
  target : Nat
deriving DecidableEq

/-- How much of an automaton there is, and the table of the states made for a set. A slot remembers
the transitions of a state and its number. -/
structure Sharing where
  extent : Extent
  table : Array (Option (List Transition × Nat))

/-- Mixes a number into a hash value. -/
def mix (hash : UInt64) (number : Nat) : UInt64 := (hash ^^^ number.toUInt64) * 1099511628211

/-- The hash value to begin with. -/
def mixStart : UInt64 := 14695981039346656037

/-- The hash value of transitions, the range before the target. -/
def forwardHash (transitions : List Transition) : UInt64 :=
  transitions.foldl (fun hash transition =>
    mix (mix (mix hash transition.low) transition.high) transition.target) mixStart

/-- The hash value of a transition, the target before the range. -/
def backwardHash (transition : Transition) : UInt64 :=
  mix (mix (mix mixStart transition.target) transition.low) transition.high

namespace Sharing

/-- Makes a state and remembers it in a slot. -/
def make (sharing : Sharing) (place : Nat) (transitions : List Transition) (memory : Nat) :
    Option (Nat × Sharing) :=
  match sharing with
  | ⟨extent, table⟩ =>
    match extent.addState memory with
    | some next =>
      some (extent.states, ⟨next, table.setIfInBounds place (some (transitions, extent.states))⟩)
    | none => none

/-- The state with some transitions, which is made if its slot does not remember it. -/
def state (hash : UInt64) (transitions : List Transition) (memory : Nat) (sharing : Sharing) :
    Option (Nat × Sharing) :=
  let place := hash.toNat % sharing.table.size
  match sharing.table[place]? with
  | some (some (known, number)) =>
    if known = transitions then some (number, sharing)
    else sharing.make place transitions memory
  | _ => sharing.make place transitions memory

end Sharing

mutual

/-- The state at which a tree begins; what it spells ends at a state. -/
def forwardState (last : Nat) : ByteTree → Sharing → Option (Nat × Sharing)
  | .node [], sharing => some (last, sharing)
  | .node branches, sharing =>
    match forwardTransitions last branches sharing with
    | some (transitions, sharing) =>
      sharing.state (forwardHash transitions) transitions (transitionSize * transitions.length)
    | none => none

/-- The transitions for the branches of a tree. -/
def forwardTransitions (last : Nat) :
    List ((Nat × Nat) × ByteTree) → Sharing → Option (List Transition × Sharing)
  | [], sharing => some ([], sharing)
  | (range, tree) :: rest, sharing =>
    match forwardState last tree sharing with
    | some (target, sharing) =>
      match forwardTransitions last rest sharing with
      | some (transitions, sharing) => some (⟨range.1, range.2, target⟩ :: transitions, sharing)
      | none => none
    | none => none

end

/-- The state at which a sequence of ranges ends, going on from a state. -/
def backwardState (target : Nat) : List (Nat × Nat) → Sharing → Option (Nat × Sharing)
  | [], sharing => some (target, sharing)
  | range :: rest, sharing =>
    let transition := ⟨range.1, range.2, target⟩
    match sharing.state (backwardHash transition) [transition] 0 with
    | some (target, sharing) => backwardState target rest sharing
    | none => none

/-- The states for sequences of ranges, and a way to each of them. -/
def backwardStates (last : Nat) : List (List (Nat × Nat)) → Sharing → Option Extent
  | [], sharing => some sharing.extent
  | sequence :: rest, sharing =>
    match backwardState last sequence sharing with
    | some (_, ⟨extent, table⟩) =>
      match extent.addMemory waySize with
      | some extent => backwardStates last rest ⟨extent, table⟩
      | none => none
    | none => none

/-- The part for a tree, which ends with a state of its own. -/
def forwardGrowth (tree : ByteTree) : Growth :=
  ⟨fun extent => do
    let last := extent.states
    let (_, sharing) ← forwardState last tree ⟨← extent.addState 0, Array.replicate 10000 none⟩
    return sharing.extent⟩

/-- The part for sequences of ranges, which begins with a branching state and ends with a state of
its own. -/
def backwardGrowth (sequences : List (List (Nat × Nat))) : Growth :=
  ⟨fun extent => do
    let extent ← extent.addState 0
    let last := extent.states
    backwardStates last sequences ⟨← extent.addState 0, Array.replicate 1000 none⟩⟩

/-- The part for a set of characters. -/
def setGrowth (reverse : Bool) (set : Unicode.CharSet) : Growth :=
  if set.isAscii then
    (Growth.state 0).andThen (.state (transitionSize * set.ranges.length))
  else if reverse then backwardGrowth (byteSequences set)
  else forwardGrowth (byteTree 4 (byteSequences set))

/-! ## Fixed texts -/

/-- Leaves all but one out of the empty sequences at the beginning. -/
def dropEmpty {α : Type} : List (List α) → List (List α)
  | [] :: [] :: rest => dropEmpty ([] :: rest)
  | sequences => sequences

/-- Parts sequences at the empty ones. -/
def partAtEmpty {α : Type} : List (List α) → List (List (List α))
  | [] => [[]]
  | [] :: rest => [] :: partAtEmpty rest
  | sequence :: rest =>
    match partAtEmpty rest with
    | [] => [[sequence]]
    | group :: groups => (sequence :: group) :: groups

/-- Whether a text comes before another one by its first byte. -/
def beginsBefore (first second : List Nat) : Bool := first.headD 0 ≤ second.headD 0

/-- The part for texts of at most so many bytes. The texts form a tree. An inner node of it branches
into states, and where texts end that others go on from, into the end between them. -/
def textsGrowth : Nat → List (List Nat) → Growth
  | 0, _ => .none
  | length + 1, texts =>
    let groups := partAtEmpty (dropEmpty texts)
    let states := (groups.map fun group => continuations (group.mergeSort beginsBefore)).filter
      (!·.isEmpty)
    let inner := states.flatten.filter fun way => way.2.any (!·.isEmpty)
    .all [.all (inner.map fun way => textsGrowth length way.2),
      .all (states.map fun state =>
        .state (if state.length = 1 then 0 else transitionSize * state.length)),
      .state (waySize * (states.length + groups.length - 1))]

/-! ## Expressions -/

namespace Core

mutual

/-- The least number of characters of a match, if that is known. -/
def minLength? : Core → Option Nat
  | .empty => some 0
  | .literal chars => some chars.length
  | .set _ chars => if chars.isEmpty then none else some 1
  | .look _ => some 0
  | .repetition min _ _ sub => sub.minLength?.map (min * ·)
  | .capture _ sub => sub.minLength?
  | .concat parts => (minLengths? parts).map List.sum
  | .alternation branches => (minLengths? branches).bind List.min?

/-- The least numbers of characters of matches of some expressions, if all are known. -/
def minLengths? : List Core → Option (List Nat)
  | [] => some []
  | core :: rest => do return (← core.minLength?) :: (← minLengths? rest)

end

/-- The text of an expression that matches one text only. -/
def text? : Core → Option (List Char)
  | .literal chars => some chars
  | _ => none

/-- The part for a repetition of a part, which may need a character or not. -/
def repetitionGrowth (min : Nat) (max : Option Nat) (needsText : Bool) (sub : Growth) : Growth :=
  let branching := Growth.all [.state 0, .way, .way]
  let copies := if min = 0 then .state 0 else sub.times min
  match min, max with
  | 0, some 1 => .all [.state 0, sub, .state 0, .way, .way]
  | 0, none =>
    if needsText then .all [.state 0, sub, .way, .way]
    else .all [sub, branching, branching, .state 0]
  | _, none => .all [copies, branching]
  | min, some max =>
    if min = max then copies
    else .all [copies, .state 0, (Growth.all [.state 0, sub, .way, .way]).times (max - min)]

mutual

/-- The part for an expression. Read backward, the last expression of a sequence comes first. -/
def growth (reverse : Bool) : Core → Growth
  | .empty => .state 0
  | .literal chars => Growth.times (chars.flatMap utf8Bytes).length (.state 0)
  | .set _ chars => setGrowth reverse chars
  | .look _ => .state 0
  | .repetition min max _ sub =>
    repetitionGrowth min max (sub.minLength?.any (0 < ·)) (sub.growth reverse)
  | .capture _ sub =>
    if reverse then sub.growth reverse else .all [.state 0, sub.growth reverse, .state 0]
  | .concat parts =>
    let growths := growths reverse parts
    .all (if reverse then growths.reverse else growths)
  | .alternation branches =>
    match branches.mapM text? with
    | some texts =>
      let texts := (texts.map (·.flatMap utf8Bytes)).map fun text =>
        if reverse then text.reverse else text
      .andThen (.state 0) (textsGrowth ((texts.map List.length).foldl max 0 + 1) texts)
    | none =>
      .all [.state 0, .state 0, .all ((growths reverse branches).map (Growth.andThen · .way))]

/-- The parts for expressions. -/
def growths (reverse : Bool) : List Core → List Growth
  | [] => []
  | core :: rest => core.growth reverse :: growths reverse rest

end

mutual

/-- Whether every match begins where the text does; read backward, whether it ends where the text
does. -/
def isAnchored (reverse : Bool) : Core → Bool
  | .look .textStart => !reverse
  | .look .textEnd => reverse
  | .repetition min _ _ sub => 0 < min && sub.isAnchored reverse
  | .capture _ sub => sub.isAnchored reverse
  | .concat parts => if reverse then lastAnchored parts else firstAnchored parts
  | .alternation branches => allAnchored reverse branches
  | _ => false

/-- Whether one of the expressions before the first that may take a character, or that one, is
anchored to the beginning. -/
def firstAnchored : List Core → Bool
  | [] => false
  | core :: rest => core.isAnchored false || (core.onlyEmpty && firstAnchored rest)

/-- Whether one of the expressions behind the last that may take a character, or that one, is
anchored to the end. -/
def lastAnchored : List Core → Bool
  | [] => false
  | core :: rest => lastAnchored rest || (allOnlyEmpty rest && core.isAnchored true)

/-- Whether all of some expressions are anchored. -/
def allAnchored (reverse : Bool) : List Core → Bool
  | [] => true
  | core :: rest => core.isAnchored reverse && allAnchored reverse rest

end

/-- The whole automaton. Unless the expression is anchored, the automaton goes past any bytes first;
reading forward, it notes where a match is. -/
def automatonGrowth (core : Core) (reverse : Bool) : Growth :=
  let anchored := core.isAnchored reverse
  .all [if anchored then .state 0 else .all [.state 0, .state 0, .state transitionSize, .way],
    (Core.capture 0 core).growth reverse, .state 0, if anchored then .none else .way]

/-- The number of fixed texts that make an alternation of them a case of its own. -/
def manyTexts : Nat := 3000

/-- Whether an expression is an alternation of many fixed texts. -/
def isManyTexts : Core → Bool
  | .alternation branches =>
    manyTexts ≤ branches.length && (branches.all fun core => core.text?.isSome)
  | _ => false

/-- Whether an expression needs no automata or its automata keep to the limit. -/
def isSmall (core : Core) : Bool :=
  core.isFewTexts || core.isManyTexts ||
    (((core.automatonGrowth false).add ⟨0, 0⟩).isSome &&
      ((core.automatonGrowth true).add ⟨0, 0⟩).isSome)

end Core

end Regex

end ReleaseAnalysis
