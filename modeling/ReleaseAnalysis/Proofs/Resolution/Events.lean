import ReleaseAnalysis.Proofs.Resolution.Faults

/-!
# The events of a resolution

Rules that are gone through from a best release leave events and lead to another best release. A
rule that does not match leaves nothing; one that matches raises the best release, if it outranks
it, or is superseded by it. `Chronicle` says this of rules, events and the two releases, without
the loop, its counter and its early end. What the events tell is read off it: which rules matched
(`Chronicle.subjects`), that every raise goes up (`Chronicle.increasing`), that the last one is the
best release (`Chronicle.last_eq`), and that a superseded rule was compared with the last raise
before it (`Chronicle.best_of_superseded`).

Rules none of which ends a resolution leave a chronicle, after which the resolution goes on
(`exists_chronicle_of_undecided`). The resolution as a whole ends in one of three ways (`Ending`):
behind the last rule, with the highest release type, or with the fault of a rule. In each of them
the events are a chronicle of the rules that the resolution got past (`passed`), closed by a report
of the highest release type where that was reached (`exists_chronicle`).
-/

set_option autoImplicit false

namespace ReleaseAnalysis

namespace Event

/-- The matching rule that an event is about, with its release. -/
def subject? : Event → Option (Rule × Option String)
  | .raised rule release => some (rule, some release)
  | .superseded rule release _ => some (rule, release)
  | .highestReached _ => none

/-- The release type to which an event raises the best release. -/
def raised? : Event → Option String
  | .raised _ release => some release
  | _ => none

end Event

namespace Ranking

variable {ranking : Ranking} {commit : Commit} {rule : Rule} {rules rest : List Rule}
  {events : List Event} {best last release : Option String} {resolution : Resolution}
  {cause : AnalysisError}

/-! ## Chronicles -/

/-- Rules gone through from one best release leave events and lead to another best release. -/
inductive Chronicle (ranking : Ranking) (commit : Commit) :
    Option String → List Rule → List Event → Option String → Prop
  | nil (best : Option String) : Chronicle ranking commit best [] [] best
  | missed {best last : Option String} {rule : Rule} {rules : List Rule} {events : List Event}
      (missed : rule.matches commit = .ok false)
      (later : Chronicle ranking commit best rules events last) :
      Chronicle ranking commit best (rule :: rules) events last
  | raised {best last : Option String} {rule : Rule} {release : String} {rules : List Rule}
      {events : List Event} (hit : rule.matches commit = .ok true)
      (carried : rule.release = some release)
      (raises : ranking.outranks best (some release) = .ok true)
      (later : Chronicle ranking commit (some release) rules events last) :
      Chronicle ranking commit best (rule :: rules) (.raised rule release :: events) last
  | superseded {best last : Option String} {rule : Rule} {rules : List Rule} {events : List Event}
      (hit : rule.matches commit = .ok true)
      (lower : ranking.outranks best rule.release = .ok false)
      (later : Chronicle ranking commit best rules events last) :
      Chronicle ranking commit best (rule :: rules) (.superseded rule rule.release best :: events)
        last

namespace Chronicle

theorem append {middle : Option String} {more : List Rule} {others : List Event}
    (first : ranking.Chronicle commit best rules events middle)
    (second : ranking.Chronicle commit middle more others last) :
    ranking.Chronicle commit best (rules ++ more) (events ++ others) last := by
  induction first with
  | nil best => exact second
  | missed missed _ ih => exact .missed missed (ih second)
  | raised hit carried raises _ ih => exact .raised hit carried raises (ih second)
  | superseded hit lower _ ih => exact .superseded hit lower (ih second)

/-- The events are about the matching rules, one about each, in the order of the rules. -/
theorem subjects (chronicle : ranking.Chronicle commit best rules events last) :
    events.map Event.subject? =
      (rules.filter fun rule => rule.hits commit).map fun rule => some (rule, rule.release) := by
  induction chronicle with
  | nil best => rfl
  | missed missed _ ih => simpa [Rule.hits, missed] using ih
  | raised hit carried _ _ ih => simp [Rule.hits, hit, carried, Event.subject?, ih]
  | superseded hit _ _ ih => simp [Rule.hits, hit, Event.subject?, ih]

/-- From the first best release on every raise outranks all that came before it. -/
theorem increasing (chronicle : ranking.Chronicle commit best rules events last) :
    (best :: (events.filterMap Event.raised?).map some).Pairwise
      fun lower upper => ranking.outranks lower upper = .ok true := by
  induction chronicle with
  | nil best => exact List.pairwise_singleton _ best
  | missed _ _ ih => exact ih
  | @raised best last rule release rules events _ _ raises _ ih =>
    -- What comes later outranks this raise, and so what the raise outranks.
    have above := (List.pairwise_cons.mp ih).1
    refine List.pairwise_cons.mpr ⟨?_, ih⟩
    intro upper member
    rcases List.mem_cons.mp member with rfl | later
    · exact raises
    · exact outranks_trans raises (above upper later)
  | superseded _ _ _ ih => exact ih

/-- The best release at the end is the one of the last raise. -/
theorem last_eq (chronicle : ranking.Chronicle commit best rules events last) :
    last = (events.filterMap Event.raised?).getLast?.or best := by
  induction chronicle with
  | nil best => rfl
  | missed _ _ ih => exact ih
  | raised _ _ _ _ ih => simp [ih, Event.raised?, List.getLast?_cons]
  | superseded _ _ _ ih => exact ih

/-- A superseded rule was compared with the last raise before it, and it does not outrank it. -/
theorem best_of_superseded {earlier later : List Event} {current : Option String}
    (chronicle : ranking.Chronicle commit best rules events last)
    (parts : events = earlier ++ .superseded rule release current :: later) :
    current = (earlier.filterMap Event.raised?).getLast?.or best ∧
      ranking.outranks current release = .ok false := by
  -- The part in front shrinks event by event until the superseded rule is the first one; a raise
  -- in front is what the rest starts from.
  induction chronicle generalizing earlier with
  | nil best => simp at parts
  | missed _ _ ih => exact ih parts
  | raised _ _ _ _ ih =>
    cases earlier with
    | nil => simp at parts
    | cons first earlier =>
      obtain ⟨rfl, others⟩ := List.cons.inj parts
      obtain ⟨same, lower⟩ := ih others
      exact ⟨by simp [same, Event.raised?, List.getLast?_cons], lower⟩
  | superseded _ lower _ ih =>
    cases earlier with
    | nil =>
      obtain ⟨same, _⟩ := List.cons.inj parts
      cases same
      exact ⟨rfl, lower⟩
    | cons first earlier =>
      obtain ⟨rfl, others⟩ := List.cons.inj parts
      obtain ⟨same, compared⟩ := ih others
      exact ⟨same, compared⟩

end Chronicle

/-! ## Steps and runs -/

theorem length_trace (ranking : Ranking) (commit : Commit) (best : Option String) (rule : Rule) :
    (ranking.trace commit best rule).length = if rule.hits commit then 1 else 0 := by
  unfold trace
  split
  · split
    · split <;> rfl
    · rfl
  · rfl

/-- A rule that is not at fault leaves a chronicle of one step. -/
theorem chronicle_trace (known : ranking.Recognizes best)
    (found : ranking.finding commit rule = .ok release) :
    ranking.Chronicle commit best [rule] (ranking.trace commit best rule)
      (ranking.higher best release) := by
  rcases finding_eq_ok_iff.mp found with ⟨missed, rfl⟩ | ⟨hit, rfl, recognizes⟩
  · have quiet : ranking.trace commit best rule = [] := by simp [trace, Rule.hits, missed]
    have kept : ranking.higher best none = best := by simp [Ranking.higher]
    rw [quiet, kept]
    exact .missed missed (.nil best)
  · by_cases raises : ranking.severity best < ranking.severity rule.release
    · obtain ⟨id, carried⟩ : ∃ id, rule.release = some id := by
        refine Option.ne_none_iff_exists'.mp fun absent => ?_
        simp [absent] at raises
      rw [carried] at recognizes raises ⊢
      have recorded : ranking.trace commit best rule = [.raised rule id] := by
        simp [trace, Rule.hits, hit, carried, raises]
      have next : ranking.higher best (some id) = some id := by simp [Ranking.higher, raises]
      rw [recorded, next]
      exact .raised hit carried (outranks_eq_true_iff.mpr ⟨known, recognizes, raises⟩) (.nil _)
    · have recorded : ranking.trace commit best rule = [.superseded rule rule.release best] := by
        cases carried : rule.release with
        | none => simp [trace, Rule.hits, hit, carried]
        | some id =>
          rw [carried] at raises
          simp [trace, Rule.hits, hit, carried, raises]
      have next : ranking.higher best rule.release = best := by simp [Ranking.higher, raises]
      have lower := Nat.le_of_not_lt raises
      rw [recorded, next]
      exact .superseded hit (outranks_eq_false_iff.mpr ⟨known, recognizes, lower⟩) (.nil best)

/-- Rules none of which ends a resolution leave a chronicle, and the resolution goes on behind
them. -/
theorem exists_chronicle_of_undecided (pending : ranking.Pending best)
    (undecided : ∀ rule ∈ rules, ranking.decides (ranking.finding commit rule) = false) :
    ∃ events last, ranking.Chronicle commit best rules events last ∧ ranking.Pending last ∧
      ∀ matched rest, ranking.resolveFrom commit best matched (rules ++ rest) =
        (ranking.resolveFrom commit last (matched + events.length) rest).after events := by
  -- Each rule hands on a release that is pending again, so the induction is over all of these.
  induction rules generalizing best with
  | nil => exact ⟨[], best, .nil best, pending, fun _ _ => rfl⟩
  | cons rule rules ih =>
    obtain ⟨own, others⟩ := List.forall_mem_cons.mp undecided
    obtain ⟨release, found, other⟩ := decides_eq_false_iff.mp own
    have next := pending.higher ⟨recognizes_of_finding found, other⟩
    have step := chronicle_trace pending.recognizes found
    obtain ⟨events, last, chronicle, ends, goesOn⟩ := ih next others
    refine ⟨ranking.trace commit best rule ++ events, last, step.append chronicle, ends, ?_⟩
    intro matched rest
    rw [List.cons_append, resolveFrom_of_other pending.recognizes found other, goesOn,
      List.length_append, length_trace, Nat.add_assoc]
    simp [Recorded.after]

/-- The same of a resolution from its beginning, which yields the last release if nothing is
behind. -/
theorem exists_chronicle_of_resolve
    (undecided : ∀ rule ∈ rules, ranking.decides (ranking.finding commit rule) = false) :
    ∃ events last, ranking.Chronicle commit none rules events last ∧ ranking.Pending last ∧
      ranking.resolve rules commit = ⟨events, .ok ⟨last, events.length⟩⟩ ∧
      ∀ rest, ranking.resolve (rules ++ rest) commit =
        (ranking.resolveFrom commit last events.length rest).after events := by
  obtain ⟨events, last, chronicle, ends, goesOn⟩ :=
    exists_chronicle_of_undecided pending_none undecided
  refine ⟨events, last, chronicle, ends, ?_, ?_⟩
  · have alone := goesOn 0 []
    rw [List.append_nil, Nat.zero_add] at alone
    simpa [resolve, resolveFrom, Recorded.after, Recorded.ok] using alone
  · intro rest
    have run := goesOn 0 rest
    rwa [Nat.zero_add] at run

/-! ## The rules that a resolution gets past -/

/-- The rules that a resolution gets past: those it visits, before the first at fault. -/
def passed (ranking : Ranking) (commit : Commit) (rules : List Rule) : List Rule :=
  (ranking.visited commit rules).takeWhile fun rule => (ranking.finding commit rule).isOk

/-- A rule that does not end a resolution does not reach the highest release type. -/
theorem not_reaches_of_not_decides
    (undecided : ranking.decides (ranking.finding commit rule) = false) :
    ranking.reaches commit rule = false := by
  obtain ⟨release, found, other⟩ := decides_eq_false_iff.mp undecided
  exact reaches_eq_false_iff.mpr (by simp [found, other])

theorem visited_append_of_undecided
    (undecided : ∀ rule ∈ rules, ranking.decides (ranking.finding commit rule) = false)
    (rest : List Rule) :
    ranking.visited commit (rules ++ rest) = rules ++ ranking.visited commit rest := by
  induction rules with
  | nil => rfl
  | cons rule rules ih =>
    obtain ⟨own, others⟩ := List.forall_mem_cons.mp undecided
    rw [List.cons_append, visited_cons_of_not_reaches (not_reaches_of_not_decides own), ih others,
      List.cons_append]

theorem passed_append_of_undecided
    (undecided : ∀ rule ∈ rules, ranking.decides (ranking.finding commit rule) = false)
    (rest : List Rule) :
    ranking.passed commit (rules ++ rest) = rules ++ ranking.passed commit rest := by
  unfold passed
  rw [visited_append_of_undecided undecided rest, List.takeWhile_append_of_pos]
  intro rule member
  obtain ⟨release, found, _⟩ := decides_eq_false_iff.mp (undecided rule member)
  rw [found]
  rfl

/-- No resolution gets past a rule at fault. -/
theorem passed_cons_of_error (fault : ranking.finding commit rule = .error cause) :
    ranking.passed commit (rule :: rest) = [] := by
  have unreached : ranking.reaches commit rule = false :=
    reaches_eq_false_iff.mpr (by simp [fault])
  have refused : (ranking.finding commit rule).isOk = false := by
    rw [fault]
    rfl
  simp [passed, visited_cons_of_not_reaches unreached, refused]

theorem passed_cons_of_highest
    (found : ranking.finding commit rule = .ok (some ranking.highest)) :
    ranking.passed commit (rule :: rest) = [rule] := by
  have accepted : (ranking.finding commit rule).isOk = true := by
    rw [found]
    rfl
  simp [passed, visited_cons_of_reaches (finding_eq_highest_iff.mp found), accepted]

/-! ## The three ends of a resolution -/

/-- How a resolution ends, given the events at the rules that it got past and the best release
behind them. -/
inductive Ending (ranking : Ranking) (commit : Commit) (rules : List Rule) (events : List Event) :
    Option String → Recorded Event AnalysisError Resolution → Prop
  | complete {last : Option String} (all : ranking.passed commit rules = rules)
      (visited : ranking.visited commit rules = rules) (lower : last ≠ some ranking.highest) :
      Ending ranking commit rules events last ⟨events, .ok ⟨last, events.length⟩⟩
  | highest (visited : ranking.passed commit rules = ranking.visited commit rules) :
      Ending ranking commit rules events (some ranking.highest)
        ⟨events ++ [.highestReached ranking.highest],
          .ok ⟨some ranking.highest, events.length⟩⟩
  | fault {last : Option String} {rule : Rule} {later : List Rule} {cause : AnalysisError}
      (parts : rules = ranking.passed commit rules ++ rule :: later)
      (fault : ranking.RuleFault commit rule cause)
      (alone : ranking.resolve (ranking.passed commit rules) commit =
        ⟨events, .ok ⟨last, events.length⟩⟩) :
      Ending ranking commit rules events last ⟨events, .error cause⟩

/-- A resolution of which no rule ends it is complete. -/
theorem exists_ending_of_undecided
    (undecided : ∀ rule ∈ rules, ranking.decides (ranking.finding commit rule) = false) :
    ∃ events last, ranking.Chronicle commit none (ranking.passed commit rules) events last ∧
      ranking.Ending commit rules events last (ranking.resolve rules commit) := by
  obtain ⟨events, last, chronicle, ends, alone, _⟩ := exists_chronicle_of_resolve undecided
  have all : ranking.passed commit rules = rules := by
    simpa [passed, visited] using passed_append_of_undecided undecided []
  have visited : ranking.visited commit rules = rules := by
    simpa [visited] using visited_append_of_undecided undecided []
  refine ⟨events, last, all.symm ▸ chronicle, ?_⟩
  rw [alone]
  exact .complete all visited ends.not_highest

/-- A resolution ends at the first rule that is at fault. -/
theorem exists_ending_of_error
    (undecided : ∀ rule ∈ rules, ranking.decides (ranking.finding commit rule) = false)
    (fault : ranking.RuleFault commit rule cause) (later : List Rule) :
    ∃ events last,
      ranking.Chronicle commit none (ranking.passed commit (rules ++ rule :: later)) events last ∧
        ranking.Ending commit (rules ++ rule :: later) events last
          (ranking.resolve (rules ++ rule :: later) commit) := by
  obtain ⟨events, last, chronicle, ends, alone, goesOn⟩ := exists_chronicle_of_resolve undecided
  have found := finding_eq_error_iff.mpr fault
  have passed : ranking.passed commit (rules ++ rule :: later) = rules := by
    rw [passed_append_of_undecided undecided, passed_cons_of_error found, List.append_nil]
  have run : ranking.resolve (rules ++ rule :: later) commit = ⟨events, .error cause⟩ := by
    rw [goesOn, resolveFrom_of_error ends.recognizes found]
    simp [Recorded.after, Recorded.error]
  have parts : rules ++ rule :: later =
      ranking.passed commit (rules ++ rule :: later) ++ rule :: later := by rw [passed]
  refine ⟨events, last, passed.symm ▸ chronicle, ?_⟩
  rw [run]
  exact .fault parts fault (by rw [passed, alone])

/-- A resolution ends at the first rule that reaches the highest release type. -/
theorem exists_ending_of_reaches
    (undecided : ∀ rule ∈ rules, ranking.decides (ranking.finding commit rule) = false)
    (reached : ranking.reaches commit rule = true) (later : List Rule) :
    ∃ events last,
      ranking.Chronicle commit none (ranking.passed commit (rules ++ rule :: later)) events last ∧
        ranking.Ending commit (rules ++ rule :: later) events last
          (ranking.resolve (rules ++ rule :: later) commit) := by
  obtain ⟨events, last, chronicle, ends, _, goesOn⟩ := exists_chronicle_of_resolve undecided
  have found := finding_eq_highest_iff.mpr reached
  obtain ⟨hit, carried⟩ := reaches_iff.mp reached
  have passed : ranking.passed commit (rules ++ rule :: later) = rules ++ [rule] := by
    rw [passed_append_of_undecided undecided, passed_cons_of_highest found]
  have visited : ranking.visited commit (rules ++ rule :: later) = rules ++ [rule] := by
    rw [visited_append_of_undecided undecided, visited_cons_of_reaches reached]
  have raises : ranking.outranks last (some ranking.highest) = .ok true :=
    outranks_eq_true_iff.mpr ⟨ends.recognizes, recognizes_of_finding found,
      severity_lt_highest ends.recognizes ends.not_highest⟩
  have step : ranking.Chronicle commit last [rule] [.raised rule ranking.highest]
      (some ranking.highest) := .raised hit carried raises (.nil _)
  have run : ranking.resolve (rules ++ rule :: later) commit =
      ⟨(events ++ [Event.raised rule ranking.highest]) ++ [.highestReached ranking.highest],
        .ok ⟨some ranking.highest, (events ++ [Event.raised rule ranking.highest]).length⟩⟩ := by
    rw [goesOn, resolveFrom_of_highest ends found]
    simp [Recorded.after]
  refine ⟨_, _, passed.symm ▸ chronicle.append step, ?_⟩
  rw [run]
  exact .highest (passed.trans visited.symm)

/-- **A resolution leaves a chronicle of the rules that it gets past and ends in one of three
ways.** -/
theorem exists_chronicle (ranking : Ranking) (rules : List Rule) (commit : Commit) :
    ∃ events last, ranking.Chronicle commit none (ranking.passed commit rules) events last ∧
      ranking.Ending commit rules events last (ranking.resolve rules commit) := by
  cases first : rules.find? fun rule => ranking.decides (ranking.finding commit rule) with
  | none =>
    have none := List.find?_eq_none.mp first
    exact exists_ending_of_undecided fun rule member => Bool.eq_false_iff.mpr (none rule member)
  | some rule =>
    obtain ⟨decisive, earlier, later, rfl, before⟩ := List.find?_eq_some_iff_append.mp first
    have undecided : ∀ other ∈ earlier, ranking.decides (ranking.finding commit other) = false :=
      fun other member => by simpa using before other member
    rcases decides_finding_iff.mp decisive with faulty | reached
    · obtain ⟨cause, fault⟩ := faulty_iff.mp faulty
      exact exists_ending_of_error undecided fault later
    · exact exists_ending_of_reaches undecided reached later

/-- A resolution that succeeds yields the last release of its chronicle and counts the events, and
the rules that it got past are those that it visits. -/
theorem Ending.of_ok {run : Recorded Event AnalysisError Resolution}
    (ending : ranking.Ending commit rules events last run) (done : run.outcome = .ok resolution) :
    ranking.passed commit rules = ranking.visited commit rules ∧ resolution.release = last ∧
      resolution.matched = events.length := by
  cases ending with
  | complete all visited _ =>
    cases done
    exact ⟨all.trans visited.symm, rfl, rfl⟩
  | highest visited =>
    cases done
    exact ⟨visited, rfl, rfl⟩
  | fault => cases done

/-- A resolution that yields another release than the highest gets past all rules. -/
theorem passed_eq_of_resolve (done : (ranking.resolve rules commit).outcome = .ok resolution)
    (other : resolution.release ≠ some ranking.highest) :
    ranking.passed commit rules = rules := by
  obtain ⟨events, last, _, ending⟩ := ranking.exists_chronicle rules commit
  generalize ranking.resolve rules commit = run at ending done
  cases ending with
  | complete all _ _ => exact all
  | highest =>
    cases done
    exact absurd rfl other
  | fault => cases done

theorem mem_of_mem_passed (member : rule ∈ ranking.passed commit rules) : rule ∈ rules :=
  List.mem_of_mem_take (List.takeWhile_subset _ member)

/-! ## What the events tell -/

/-- The matching rules that a resolution gets past are those that its events are about. -/
theorem exists_event_iff :
    (∃ event ∈ (ranking.resolve rules commit).entries, event.subject? = some (rule, release)) ↔
      rule ∈ ranking.passed commit rules ∧ rule.matches commit = .ok true ∧
        rule.release = release := by
  obtain ⟨events, last, chronicle, ending⟩ := ranking.exists_chronicle rules commit
  have entries : (∃ event ∈ (ranking.resolve rules commit).entries,
      event.subject? = some (rule, release)) ↔ some (rule, release) ∈ events.map Event.subject? := by
    generalize ranking.resolve rules commit = run at ending
    cases ending with
    | complete => simp
    | highest => simp [Event.subject?]
    | fault => simp
  rw [entries, chronicle.subjects]
  simp only [List.mem_map, List.mem_filter, Rule.hits_iff, Option.some.injEq, Prod.mk.injEq]
  constructor
  · rintro ⟨_, ⟨member, hit⟩, rfl, carried⟩
    exact ⟨member, hit, carried⟩
  · rintro ⟨member, hit, carried⟩
    exact ⟨rule, ⟨member, hit⟩, rfl, carried⟩

/-- **The events of a resolution tell what it did.** There is one for each matching rule that the
resolution got past, in the order of the rules, naming the rule and its release, and then a report
of the highest release type if that was reached. Raises go up. A superseded rule is recorded with
the release of the last raise before it, which its own release does not outrank. A success yields
the release of the last raise and counts the rules recorded; the rules that it got past are those
that it visited. A failure is the fault of the rule behind those that it got past, and its events
are the ones of resolving these alone. -/
theorem resolve_events (ranking : Ranking) (rules : List Rule) (commit : Commit) :
    ∃ steps : List Event,
      steps.map Event.subject? =
        ((ranking.passed commit rules).filter fun rule => rule.hits commit).map
          (fun rule => some (rule, rule.release)) ∧
      ((ranking.resolve rules commit).outcome.map Resolution.release =
          .ok (some ranking.highest) →
        (ranking.resolve rules commit).entries = steps ++ [.highestReached ranking.highest]) ∧
      ((ranking.resolve rules commit).outcome.map Resolution.release ≠
          .ok (some ranking.highest) →
        (ranking.resolve rules commit).entries = steps) ∧
      (steps.filterMap Event.raised?).Pairwise
        (fun lower upper => ranking.outranks (some lower) (some upper) = .ok true) ∧
      (∀ earlier rule release best later,
        steps = earlier ++ .superseded rule release best :: later →
          best = (earlier.filterMap Event.raised?).getLast? ∧
            ranking.outranks best release = .ok false) ∧
      (∀ resolution, (ranking.resolve rules commit).outcome = .ok resolution →
        ranking.passed commit rules = ranking.visited commit rules ∧
          resolution.release = (steps.filterMap Event.raised?).getLast? ∧
          resolution.matched = steps.length) ∧
      ∀ cause, (ranking.resolve rules commit).outcome = .error cause →
        ∃ rule later, rules = ranking.passed commit rules ++ rule :: later ∧
          ranking.RuleFault commit rule cause ∧
          (ranking.resolve rules commit).entries =
            (ranking.resolve (ranking.passed commit rules) commit).entries := by
  obtain ⟨steps, last, chronicle, ending⟩ := ranking.exists_chronicle rules commit
  have end_eq : last = (steps.filterMap Event.raised?).getLast? := by
    simpa using chronicle.last_eq
  refine ⟨steps, chronicle.subjects, ?_, ?_, ?_, ?_, ?_, ?_⟩
  · intro reached
    generalize ranking.resolve rules commit = run at ending reached
    cases ending with
    | complete _ _ lower => exact absurd (Except.ok.inj reached) lower
    | highest => rfl
    | fault => cases reached
  · intro unreached
    generalize ranking.resolve rules commit = run at ending unreached
    cases ending with
    | complete => rfl
    | highest => exact absurd rfl unreached
    | fault => rfl
  · exact List.pairwise_map.mp (List.pairwise_cons.mp chronicle.increasing).2
  · intro earlier rule release best later parts
    simpa using chronicle.best_of_superseded parts
  · intro resolution done
    rw [← end_eq]
    exact ending.of_ok done
  · intro cause failed
    generalize ranking.resolve rules commit = run at ending failed
    cases ending with
    | complete => cases failed
    | highest => cases failed
    | fault parts fault alone =>
      cases failed
      exact ⟨_, _, parts, fault, by rw [alone]⟩

end Ranking
end ReleaseAnalysis
