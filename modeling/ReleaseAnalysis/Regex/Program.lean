import ReleaseAnalysis.Regex.Core

/-!
# Programs that search a text

An expression is turned into a program. An instruction takes a character of a set, tests a condition
on the place, goes on in two ways, or accepts; it names the instructions that follow. The program is
run in all ways at once: at each place of the text, every instruction is reached at most once, so a
search takes time in proportion to the length of the text. A new search begins at every place.
-/

set_option autoImplicit false

namespace ReleaseAnalysis

namespace Regex

/-- An instruction of a program. -/
inductive Instruction
  | take (set : Unicode.CharSet) (next : Nat)
  | test (look : Look) (next : Nat)
  | split (first second : Nat)
  | accept
deriving DecidableEq, Repr

/-- A program, with the instruction that it starts with. -/
structure Program where
  code : Array Instruction
  start : Nat
deriving DecidableEq, Repr

namespace Program

/-- Puts an instruction before a program, given what it goes on with. -/
def before (instruction : Nat → Instruction) : Program → Program
  | ⟨code, start⟩ =>
    let entry := code.size
    ⟨code.push (instruction start), entry⟩

/-- Runs a program or another one, given where that one starts. -/
def orElseAt (other : Nat) (program : Program) : Program :=
  program.before fun start => .split start other

/-- Puts any number of repetitions before a program. The instruction that decides whether to repeat
is filled in when it is known where the repeated part starts. -/
def addLoop (add : Program → Program) : Program → Program
  | ⟨code, start⟩ =>
    let entry := code.size
    match add ⟨code.push .accept, entry⟩ with
    | ⟨code, body⟩ => ⟨code.setIfInBounds entry (.split body start), entry⟩

/-- Puts up to so many repetitions before a program. -/
def addOptional (add : Program → Program) (count : Nat) : Program → Program
  | ⟨code, start⟩ => Nat.repeat (fun program => (add program).orElseAt start) count ⟨code, start⟩

/-- Puts what several additions put before a program one behind the other. -/
def addAll (adds : List (Program → Program)) (program : Program) : Program :=
  adds.foldr (fun add program => add program) program

/-- Puts what several additions put before a program next to each other. -/
def addBranches (adds : List (Program → Program)) : Program → Program
  | ⟨code, start⟩ =>
    adds.foldr (fun add program =>
      match program with
      | ⟨code, others⟩ => (add ⟨code, start⟩).orElseAt others) (before (.take .empty) ⟨code, start⟩)

end Program

mutual

/-- Puts an expression before a program. -/
def Core.addTo : Core → Program → Program
  | .empty, program => program
  | .literal chars, program =>
    chars.foldr (fun c program => program.before (.take (.single c))) program
  | .set _ chars, program => program.before (.take chars)
  | .look condition, program => program.before (.test condition)
  | .repetition min none _ sub, program => Nat.repeat sub.addTo min (program.addLoop sub.addTo)
  | .repetition min (some max) _ sub, program =>
    Nat.repeat sub.addTo min (program.addOptional sub.addTo (max - min))
  | .capture _ sub, program => sub.addTo program
  | .concat parts, program => program.addAll (Core.additions parts)
  | .alternation branches, program => program.addBranches (Core.additions branches)

/-- What puts each of some expressions before a program. -/
def Core.additions : List Core → List (Program → Program)
  | [] => []
  | core :: rest => core.addTo :: Core.additions rest

end

/-- The program of an expression. -/
def Core.program (core : Core) : Program := core.addTo ⟨#[.accept], 0⟩

namespace Program

/-- What a program has reached at a place: the instructions that wait for a character, and whether
it accepts. The mark of an instruction is the number of the last place where it was reached. -/
structure Reached where
  marks : Array Nat
  waiting : List Nat
  accepted : Bool

/-- Follows the instructions that need no character. Every instruction is followed once and leads to
two others at most, which bounds the steps. -/
def follow (program : Program) (before behind : Option Char) (place : Nat) :
    Nat → List Nat → Array Nat → List Nat → Reached
  | 0, _, marks, waiting => ⟨marks, waiting, false⟩
  | _, [], marks, waiting => ⟨marks, waiting, false⟩
  | steps + 1, index :: work, marks, waiting =>
    if marks[index]? = some place then follow program before behind place steps work marks waiting
    else
      let marks := marks.setIfInBounds index place
      match program.code[index]? with
      | none => follow program before behind place steps work marks waiting
      | some .accept => ⟨marks, waiting, true⟩
      | some (.take _ _) =>
        follow program before behind place steps work marks (index :: waiting)
      | some (.test look next) =>
        let work := if look.holds before behind then next :: work else work
        follow program before behind place steps work marks waiting
      | some (.split first second) =>
        follow program before behind place steps (first :: second :: work) marks waiting

/-- Where an instruction that waits for a character leads. -/
def taking (program : Program) (c : Char) (index : Nat) : Option Nat :=
  match program.code[index]? with
  | some (.take set next) => if set.contains c then some next else none
  | _ => none

/-- Searches a text from a place on. -/
def searchFrom (program : Program) (before : Option Char) (place : Nat) (work : List Nat)
    (marks : Array Nat) (text : List Char) : Bool :=
  let steps := 2 * program.code.size + work.length + 1
  let reached := program.follow before text.head? place steps work marks []
  reached.accepted ||
    match text with
    | [] => false
    | c :: rest =>
      program.searchFrom (some c) (place + 1)
        (program.start :: reached.waiting.filterMap (program.taking c)) reached.marks rest

/-- Whether a program accepts some part of a text. -/
def accepts (program : Program) (text : List Char) : Bool :=
  program.searchFrom none 1 [program.start] (Array.replicate program.code.size 0) text

end Program

end Regex

end ReleaseAnalysis
