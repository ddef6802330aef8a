import ReleaseAnalysis.Commit
import ReleaseAnalysis.Ranking
import ReleaseAnalysis.Recorded
import ReleaseAnalysis.Rule

/-!
# Resolving the rules for one commit

A rule matches a commit when the commit has all its fields and their values are accepted; a rule
that asks for a breaking commit matches no other. All patterns of a rule are compiled before any is
tested, so a rule that does not compile is an error whatever the commit.

Resolution goes through the rules in order, keeping the highest release found so far. Every matching
rule leaves an event: it raised the release or was superseded. Once the highest release type of
the ranking is reached the rules that follow are not looked at. The events are kept also when
resolution ends in an error.
-/

set_option autoImplicit false

namespace ReleaseAnalysis

/-- What a resolution did at a matching rule. -/
inductive Event
  /-- The rule raised the release. -/
  | raised (rule : Rule) (release : String)
  /-- The rule's release is no higher than the best one so far. -/
  | superseded (rule : Rule) (release best : Option String)
  /-- The highest release type was reached. -/
  | highestReached (release : String)

/-- The outcome of a resolution: the highest release of the matching rules looked at, and how many
those were. -/
structure Resolution where
  release : Option String
  matched : Nat
deriving DecidableEq, Repr

/-- Whether the commit has every named field with an accepted value. -/
def Commit.satisfies (commit : Commit) (patterns : List (String × Pattern)) : Bool :=
  Pattern.acceptsMembers patterns commit.fields

/-- Whether a rule matches a commit. -/
def Rule.matches (rule : Rule) (commit : Commit) : Except AnalysisError Bool :=
  if rule.breaking && !commit.hasNotes then .ok false
  else rule.patterns.map commit.satisfies

namespace Ranking

/-- Resolves rules, going on from the best release and the number of matches so far. -/
def resolveFrom (ranking : Ranking) (commit : Commit) (best : Option String) (matched : Nat) :
    List Rule → Recorded Event AnalysisError Resolution
  | [] => .ok ⟨best, matched⟩
  | rule :: rest =>
    match rule.matches commit with
    | .error cause => .error cause
    | .ok false => ranking.resolveFrom commit best matched rest
    | .ok true =>
      match ranking.outranks best rule.release, rule.release with
      | .error fault, _ => .error (.configuration fault)
      | .ok true, some release =>
        if release = ranking.highest then
          ⟨[.raised rule release, .highestReached release], .ok ⟨some release, matched + 1⟩⟩
        else (ranking.resolveFrom commit (some release) (matched + 1) rest).after
          [.raised rule release]
      | .ok _, release => (ranking.resolveFrom commit best (matched + 1) rest).after
          [.superseded rule release best]

/-- Resolves rules for a commit. -/
def resolve (ranking : Ranking) (rules : List Rule) (commit : Commit) :
    Recorded Event AnalysisError Resolution :=
  ranking.resolveFrom commit none 0 rules

end Ranking

end ReleaseAnalysis
