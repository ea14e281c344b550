import IssueFlow.Proofs.FirstFailure
import IssueFlow.Proofs.LibraryRuns

/-!
# Legs of a run

A run of post-functions goes leg by leg, one rule on each: a leg starts in the world that the one
before it left, and its rule sees the attempt that was left (`Follow`). What can come of one leg is
said once (`Leg.Took`). As long as none panics every rule has its leg, whatever came of those before
it, and the warnings are those of the legs that did not complete.
-/

namespace IssueFlow

theorem Registry.GatesKeep.withPostFunctions {R : World → World → Prop} {registry : Registry}
    (kept : registry.GatesKeep R)
    (postFunction? : PostFunctionType → Option PostFunctionEvaluator) :
    GatesKeep R { registry with postFunction? } where
  condition found := kept.condition found
  validator found := kept.validator found

namespace Executor

variable {executor : Executor}

/-- A visit and the attempt that its rule saw. -/
structure Leg extends Visit where
  seen : Attempt

namespace Leg

/-- The rule's action came to an end in time and without an error. -/
def completes (leg : Leg) : Bool :=
  leg.outcome.any (·.2.isNone)

/-- The attempt that the next rule sees: the one that this leg left, whether or not it completed. -/
def left (leg : Leg) : Attempt :=
  (leg.outcome.map Prod.fst).getD leg.seen

/-- The leg is a run of its rule, on the attempt that the rule saw. -/
def Runs (executor : Executor) (leg : Leg) : Prop :=
  executor.runPostFunction leg.seen leg.rule.content leg.before = (leg.outcome, leg.after)

/-- The one application of the evaluator that is registered for the rule, and how it reacted. -/
structure Applies (executor : Executor) (leg : Leg) (reaction : Reaction) : Prop where
  applied : ∃ evaluate, executor.registry.postFunction? leg.rule.content.type = some evaluate ∧
    evaluate leg.seen leg.rule.content leg.before = (reaction, leg.after)

/-- What can come of a leg. -/
inductive Took (executor : Executor) (leg : Leg) : Prop where
  | succeeded (left : Attempt) (slept : Nat)
      (applies : leg.Applies executor ⟨left, .done, slept⟩)
      (inTime : slept ≤ executor.timeout)
      (outcome : leg.outcome = some (left, none))
  | erred (left : Attempt) (e : TransitionError) (slept : Nat)
      (applies : leg.Applies executor ⟨left, .failed e, slept⟩)
      (inTime : slept ≤ executor.timeout)
      (outcome : leg.outcome = some (left, some e.message))
  | timedOut (reaction : Reaction)
      (applies : leg.Applies executor reaction)
      (late : executor.timeout < reaction.slept)
      (outcome : leg.outcome =
        some (reaction.left, some s!"timed out after {executor.timeout} ms"))
  | unregistered
      (missing : executor.registry.postFunction? leg.rule.content.type = none)
      (idle : leg.after = leg.before)
      (outcome : leg.outcome = some (leg.seen, some
        (Registry.unregistered "post-function" leg.rule.content.type.name).message))
  | panicked (left : Attempt) (slept : Nat)
      (applies : leg.Applies executor ⟨left, .panicked, slept⟩)
      (inTime : slept ≤ executor.timeout)
      (outcome : leg.outcome = none)

private theorem Runs.took {leg : Leg} (runs : leg.Runs executor) : leg.Took executor := by
  rw [Runs, runPostFunction, Registry.postFunction] at runs
  cases found : executor.registry.postFunction? leg.rule.content.type with
  | none =>
    rw [found] at runs
    obtain ⟨outcome, idle⟩ := Prod.mk.inj runs
    exact .unregistered found idle.symm outcome.symm
  | some evaluate =>
    rw [found] at runs
    rcases applied : evaluate leg.seen leg.rule.content leg.before with ⟨reaction, after⟩
    have ran : (executor.outcome reaction, after) = (leg.outcome, leg.after) := by
      rw [← runs]
      show _ = (executor.outcome (evaluate _ _ _).1, (evaluate _ _ _).2)
      rw [applied]
    obtain ⟨outcome, rfl⟩ := Prod.mk.inj ran
    have applies : leg.Applies executor reaction := ⟨evaluate, found, applied⟩
    by_cases late : executor.timeout < reaction.slept
    · rw [Executor.outcome, if_pos late] at outcome
      exact .timedOut reaction applies late outcome.symm
    · rw [Executor.outcome, if_neg late] at outcome
      obtain ⟨left, ending, slept⟩ := reaction
      have inTime : slept ≤ executor.timeout := Nat.le_of_not_lt late
      cases ending with
      | done => exact .succeeded left slept applies inTime outcome.symm
      | failed e => exact .erred left e slept applies inTime outcome.symm
      | panicked => exact .panicked left slept applies inTime outcome.symm

/-- Where the library evaluates the rule, the leg has one of the effects of its post-function. -/
theorem Runs.effect {leg : Leg} (runs : leg.Runs executor)
    (usual : executor.registry.postFunction? leg.rule.content.type = some evaluatePostFunction) :
    ∃ answer, leg.outcome = some (ended leg.seen answer) ∧
      leg.left = { leg.seen with issue := answer.toOption.getD leg.seen.issue } ∧
      PostFunction.Effect leg.seen leg.before leg.rule.content answer leg.after := by
  rw [Runs, runPostFunction_usual usual] at runs
  obtain ⟨outcome, after⟩ := Prod.mk.inj runs
  refine ⟨_, outcome.symm, ?_, after ▸ PostFunction.effect_of_apply _ _ _⟩
  rw [left, ← outcome]
  exact ended_fst _ _

end Leg

/-- The legs start with the given attempt and world, and each of them with what the one before it
left. -/
inductive Follow : Attempt → World → List Leg → Attempt → World → Prop where
  | nil (seen : Attempt) (world : World) : Follow seen world [] seen world
  | cons (leg : Leg) {legs : List Leg} {last : Attempt} {final : World}
      (rest : Follow leg.left leg.after legs last final) :
      Follow leg.seen leg.before (leg :: legs) last final

/-- What every leg keeps, the whole run keeps, and it holds before and after each leg. -/
theorem Follow.throughout (Good : Attempt → World → Prop) {seen last : Attempt}
    {world final : World} {legs : List Leg} (follow : Follow seen world legs last final)
    (kept : ∀ leg ∈ legs, Good leg.seen leg.before → Good leg.left leg.after)
    (good : Good seen world) :
    (∀ leg ∈ legs, Good leg.seen leg.before ∧ Good leg.left leg.after) ∧ Good last final := by
  induction follow with
  | nil seen world => exact ⟨List.forall_mem_nil _, good⟩
  | cons leg rest ih =>
    obtain ⟨first, later⟩ := List.forall_mem_cons.1 kept
    obtain ⟨around, ended⟩ := ih later (first good)
    exact ⟨List.forall_mem_cons.2 ⟨⟨good, first good⟩, around⟩, ended⟩

/-- Every run of post-functions goes leg by leg and ends with the issue that it answers. -/
theorem exists_legs (attempt : Attempt) (rules : List PostFunctionRule) (world : World) :
    ∃ legs last, legs.map Leg.toVisit = executor.visits attempt rules world ∧
      (∀ leg ∈ legs, leg.Runs executor) ∧
      Follow attempt world legs last (executor.runPostFunctions attempt rules world).2 ∧
      ∀ result, (executor.runPostFunctions attempt rules world).1 = some result →
        result.1 = last.issue := by
  induction rules generalizing attempt world with
  | nil =>
    refine ⟨[], attempt, rfl, List.forall_mem_nil _, .nil _ _, ?_⟩
    rintro result ⟨⟩
    rfl
  | cons rule rules ih =>
    rw [visits_cons, runPostFunctions_cons]
    rcases run : executor.runPostFunction attempt rule.content world with ⟨outcome, after⟩
    let leg : Leg := ⟨⟨rule, world, outcome, after⟩, attempt⟩
    rcases outcome with _ | ⟨left, failure⟩
    · refine ⟨[leg], attempt, rfl, List.forall_mem_singleton.2 run, .cons leg (.nil _ _), ?_⟩
      rintro result ⟨⟩
    · obtain ⟨legs, last, visits, ran, follow, ends⟩ := ih left after
      refine ⟨leg :: legs, last, congrArg (_ :: ·) visits, List.forall_mem_cons.2 ⟨run, ran⟩,
        .cons leg follow, ?_⟩
      intro result answered
      obtain ⟨rest, restAnswered, rfl⟩ := Option.map_eq_some_iff.1 answered
      exact ends rest restAnswered

/-- Unless one of them panics, every rule has its leg, and the answer is the issue that the last
one left, with a warning for each that did not complete. -/
private theorem legs_of_ended {attempt : Attempt} {rules : List PostFunctionRule} {world : World}
    (ended : ∀ visit ∈ executor.visits attempt rules world, visit.outcome ≠ none) :
    ∃ legs last, legs.map (·.rule) = rules ∧ (∀ leg ∈ legs, leg.Runs executor) ∧
      Follow attempt world legs last (executor.runPostFunctions attempt rules world).2 ∧
      (executor.runPostFunctions attempt rules world).1 =
        some (last.issue, legs.filterMap (·.warning?)) := by
  obtain ⟨legs, last, visits, ran, follow, ends⟩ := executor.exists_legs attempt rules world
  have warned := executor.runPostFunctions_warnings attempt rules world ended
  obtain ⟨⟨issue, warnings⟩, answered, same⟩ := Option.map_eq_some_iff.1 warned
  refine ⟨legs, last, ?_, ran, follow, ?_⟩
  · rw [← executor.visits_rules_of_ended attempt rules world ended, ← visits, List.map_map]
    rfl
  · have issued : issue = last.issue := ends _ answered
    have listed : warnings = legs.filterMap (·.warning?) := by
      rw [show warnings = _ from same, ← visits, List.filterMap_map]
      rfl
    rw [answered, issued, listed]

/-- No evaluator of a post-function panics before its time is up. -/
def Calm (executor : Executor) : Prop :=
  ∀ type evaluate, executor.registry.postFunction? type = some evaluate →
    ∀ attempt postFunction world, executor.outcome (evaluate attempt postFunction world).1 ≠ none

private theorem Calm.runPostFunction_ne_none (calm : executor.Calm) (attempt : Attempt)
    (postFunction : PostFunction) (world : World) :
    (executor.runPostFunction attempt postFunction world).1 ≠ none := by
  rw [runPostFunction]
  cases found : executor.registry.postFunction postFunction.type with
  | error e => exact Option.some_ne_none _
  | ok evaluate => exact calm _ _ (Registry.find_eq_ok_iff.1 found) _ _ _

private theorem Calm.ended (calm : executor.Calm) (attempt : Attempt)
    (rules : List PostFunctionRule) (world : World) :
    ∀ visit ∈ executor.visits attempt rules world, visit.outcome ≠ none := by
  refine forall_visits executor ?_ attempt rules world
  intro attempt rule world outcome after run
  have called := calm.runPostFunction_ne_none attempt rule.content world
  rwa [run] at called

theorem calm_of_standard {matcher : Matcher} (standard : executor.registry = .builtIn matcher) :
    executor.Calm := by
  intro type evaluate found attempt postFunction world
  rw [usual_of_standard standard] at found
  cases found
  show executor.outcome (.ofExcept _ _) ≠ none
  rw [outcome_ofExcept]
  exact Option.some_ne_none _

/-- The world that an attempt leaves when it has prepared. -/
def readied (executor : Executor) (issue : Issue) (target : StatusId) (actor : UserId)
    (submission : Submission) (world : World) : World :=
  ((executor.prepare issue target actor submission).run world).2

theorem readied_of_gatesKeep (kept : executor.registry.GatesKeep Eq) (issue : Issue)
    (target : StatusId) (actor : UserId) (submission : Submission) (world : World) :
    executor.readied issue target actor submission world = world :=
  (prepare_keeps kept issue target actor submission world).symm

/-- A transition that was taken is a commit and what followed it, along the rules of the edge. -/
theorem followed_of_take {issue : Issue} {target : StatusId} {actor : UserId}
    {submission : Submission} {world after : World} {taken : Taken}
    (run : (executor.take issue target actor submission).run world = (.ok taken, after)) :
    ∃ row committed,
      (commit ⟨issue, actor, taken.transition, submission⟩ target).run
        (executor.readied issue target actor submission world) = (.ok row, committed) ∧
      executor.followUp ⟨row, actor, taken.transition, submission⟩
        (world.store.tables.graph.postFunctionsOf taken.transition.id) committed =
          ((taken.issue, taken.warnings), after) ∧
      executor.followers issue target actor submission world =
        executor.visits ⟨row, actor, taken.transition, submission⟩
          (world.store.tables.graph.postFunctionsOf taken.transition.id) committed ∧
      taken.fromStatus = issue.statusId ∧ taken.toStatus = target := by
  cases executor.course_of_take run with
  | taken attempt plan ready row committed after followed prepared done behind =>
    have followers := followers_of_commit prepared done
    obtain ⟨planned, -⟩ := gates_of_prepare prepared
    obtain rfl := planOf_of_plan (available_of_prepare executor prepared) planned
    obtain ⟨rfl, rfl, rfl⟩ := prepare_ok executor prepared
    refine ⟨row, committed, ?_, behind, followers, rfl, rfl⟩
    rw [readied, prepared]
    exact done

/-- Where gates change nothing, a transition that was taken is finished in the world that it found.
Of its plan only the post-functions matter by then. -/
theorem finish_of_take (kept : executor.registry.GatesKeep Eq) {issue : Issue} {target : StatusId}
    {actor : UserId} {submission : Submission} {world after : World} {taken : Taken}
    (run : (executor.take issue target actor submission).run world = (.ok taken, after))
    {edge : Transition} (along : taken.transition = edge) {plan : Plan}
    (rules : plan.postFunctions = world.store.tables.graph.postFunctionsOf edge.id) :
    (executor.finish ⟨issue, actor, edge, submission⟩ plan target).run world =
      (.ok taken, after) := by
  subst along
  obtain ⟨row, committed, done, behind, -, source, arrived⟩ := followed_of_take run
  rw [readied_of_gatesKeep kept] at done
  rw [finish_run, done, rules]
  simp only [behind, takenOf, ← source, ← arrived]

/-- What lies behind a transition that was taken and whose post-functions all ended: a commit, and a
leg for every rule of the edge, with a warning for each that did not complete. -/
structure Finished (executor : Executor) (issue : Issue) (target : StatusId) (actor : UserId)
    (submission : Submission) (world : World) (taken : Taken) (after : World) (row : Issue)
    (committed : World) (legs : List Leg) : Prop where
  commit : (commit ⟨issue, actor, taken.transition, submission⟩ target).run
    (executor.readied issue target actor submission world) = (.ok row, committed)
  rules : legs.map (·.rule) =
    world.store.tables.graph.postFunctionsOf taken.transition.id
  ran : ∀ leg ∈ legs, leg.Runs executor
  follow : ∃ last, Follow ⟨row, actor, taken.transition, submission⟩ committed legs last after ∧
    taken.issue = last.issue
  warnings : taken.warnings = legs.filterMap (·.warning?)

theorem finished_of_take (calm : executor.Calm) {issue : Issue} {target : StatusId}
    {actor : UserId} {submission : Submission} {world after : World} {taken : Taken}
    (run : (executor.take issue target actor submission).run world = (.ok taken, after)) :
    ∃ row committed legs,
      executor.Finished issue target actor submission world taken after row committed legs := by
  obtain ⟨row, committed, done, behind, -⟩ := followed_of_take run
  obtain ⟨legs, last, rules, ran, follow, answered⟩ := legs_of_ended (calm.ended
    ⟨row, actor, taken.transition, submission⟩
    (world.store.tables.graph.postFunctionsOf taken.transition.id) committed)
  rw [followUp_eq, answered] at behind
  obtain ⟨result, rfl⟩ := Prod.mk.inj behind
  obtain ⟨issued, warned⟩ := Prod.mk.inj result
  exact ⟨row, committed, legs, done, rules, ran, ⟨last, follow, issued.symm⟩, warned.symm⟩

private theorem Leg.warning?_eq_none_iff {leg : Leg} (ended : leg.outcome ≠ none) :
    leg.warning? = none ↔ leg.completes = true := by
  rw [Visit.warning?, completes]
  cases outcome : leg.outcome with
  | none => exact absurd outcome ended
  | some left => simp

/-- Warnings are exact. Behind a transition that was taken every rule of the edge has one leg, by
ascending position and in the order of the table where positions are shared, whatever came of the
legs before it. On its leg its evaluator, if it has one, is applied once, to the attempt as the leg
before it left it, and nothing else happens between the legs. There is a warning for each leg that
erred, came too late or had no evaluator, and for no other. -/
theorem warnings_are_exact (executor : Executor) (calm : executor.Calm) (issue : Issue)
    (target : StatusId) (actor : UserId) (submission : Submission) (world after : World)
    (taken : Taken)
    (run : (executor.take issue target actor submission).run world = (.ok taken, after)) :
    ∃ row committed legs,
      executor.Finished issue target actor submission world taken after row committed legs ∧
      Ranked Rule.position
        (world.store.tables.graph.postFunctions.filter (·.transitionId == taken.transition.id))
        (legs.map (·.rule)) ∧
      (∀ leg ∈ legs, leg.Took executor) ∧
      (taken.hasWarnings = false ↔ ∀ leg ∈ legs, leg.completes = true) := by
  obtain ⟨row, committed, legs, finished⟩ := finished_of_take calm run
  refine ⟨row, committed, legs, finished, ?_, ?_, ?_⟩
  · rw [finished.rules]
    exact (world.store.tables.graph.planOf_isRanked taken.transition).postFunctions
  · intro leg member
    exact (finished.ran leg member).took
  · have ended : ∀ leg ∈ legs, leg.outcome ≠ none := by
      intro leg member
      have called := calm.runPostFunction_ne_none leg.seen leg.rule.content leg.before
      rwa [finished.ran leg member] at called
    rw [Taken.hasWarnings, finished.warnings, Bool.not_eq_false', List.isEmpty_iff,
      List.filterMap_eq_nil_iff]
    exact forall₂_congr fun leg member => Leg.warning?_eq_none_iff (ended leg member)

end Executor

namespace Sample

/-- Webhooks take six seconds, comments have no evaluator, and the others are the library's. -/
def unsteady : Executor where
  registry := { Registry.builtIn with
    postFunction? := fun
      | .triggerWebhook => some fun attempt _ => return ⟨attempt, .done, 6000⟩
      | .addComment => none
      | _ => some evaluatePostFunction }

/-- More rules behind the edge of the sample, not in the order of their positions. -/
def crowded : World where
  store := store.after [
    .operation (.onGraph (.addPostFunction ⟨⟨"R8"⟩, ⟨"T1"⟩, .triggerWebhook "hook", position 0⟩)),
    .operation (.onGraph (.addPostFunction ⟨⟨"R9"⟩, ⟨"T1"⟩,
      .updateField (.standard .priority) (.string "high"), position 1⟩)),
    .operation (.onGraph (.addPostFunction ⟨⟨"R10"⟩, ⟨"T1"⟩, .addComment "moved", position (-1)⟩))]
  outbox := .ofCapacity 4

/-- The rules in the order in which they run. -/
def crowdedRules : List PostFunctionRule := [
  ⟨⟨"R10"⟩, ⟨"T1"⟩, .addComment "moved", position (-1)⟩,
  ⟨⟨"R3"⟩, ⟨"T1"⟩, .assignToLead, position 0⟩,
  ⟨⟨"R8"⟩, ⟨"T1"⟩, .triggerWebhook "hook", position 0⟩,
  ⟨⟨"R9"⟩, ⟨"T1"⟩, .updateField (.standard .priority) (.string "high"), position 1⟩]

/-- A comment without an evaluator, a lead that is missing and a webhook that is late. -/
def unsteadyWarnings : List Warning := [
  ⟨.addComment, position (-1),
    "misconfigured pipeline: no post-function registered for type add_comment"⟩,
  ⟨.assignToLead, position 0, "misconfigured pipeline: project WEB has no lead"⟩,
  ⟨.triggerWebhook, position 0, "timed out after 5000 ms"⟩]

end Sample

private theorem Sample.unsteady_calm : unsteady.Calm := by
  intro type evaluate found attempt postFunction world
  have usual (answer : Except TransitionError Issue) :
      unsteady.outcome (.ofExcept attempt answer) ≠ none := by
    rw [Executor.outcome_ofExcept]
    exact Option.some_ne_none _
  cases type with
  | triggerWebhook =>
    cases found
    have late : unsteady.timeout < 6000 := by decide
    show unsteady.outcome ⟨attempt, .done, 6000⟩ ≠ none
    rw [Executor.outcome, if_pos late]
    exact Option.some_ne_none _
  | addComment => cases found
  | _ =>
    cases found
    exact usual _

/-- Three of four rules leave a warning, and the last one raises the priority all the same. -/
theorem sample_warnings :
    Sample.unsteady.Calm ∧ ∃ taken after row committed legs,
      (Sample.unsteady.take Sample.issue ⟨"done"⟩ Sample.reporter.id Sample.submission).run
        Sample.crowded = (.ok taken, after) ∧
      Sample.unsteady.Finished Sample.issue ⟨"done"⟩ Sample.reporter.id Sample.submission
        Sample.crowded taken after row committed legs ∧
      legs.map (·.rule) = Sample.crowdedRules ∧ taken.warnings = Sample.unsteadyWarnings ∧
      taken.issue.priority = some "high" ∧ ∃ leg ∈ legs, leg.completes = false := by
  have answered : ((Sample.unsteady.take Sample.issue ⟨"done"⟩ Sample.reporter.id
      Sample.submission).run Sample.crowded).1.toOption.map (·.transition) =
        some Sample.edge := by
    decide +kernel
  have sorted : Sample.crowded.store.tables.graph.postFunctionsOf Sample.edge.id =
      Sample.crowdedRules :=
    byPosition_eq (by decide +kernel)
  have followed : ((Sample.unsteady.finish ⟨Sample.issue, Sample.reporter.id, Sample.edge,
      Sample.submission⟩ ⟨Sample.edge, [], [], Sample.crowdedRules, none, []⟩ ⟨"done"⟩).run
        Sample.crowded).1.toOption.map (fun taken => (taken.issue.priority, taken.warnings)) =
          some (some "high", Sample.unsteadyWarnings) := by
    decide +kernel
  obtain ⟨taken, after, run, along⟩ := ok_of_answer answered
  obtain ⟨row, committed, legs, finished, -, -, exact⟩ :=
    Executor.warnings_are_exact Sample.unsteady Sample.unsteady_calm Sample.issue ⟨"done"⟩
      Sample.reporter.id Sample.submission Sample.crowded after taken run
  rw [Executor.finish_of_take (Registry.builtIn_gatesKeep.withPostFunctions _) run along
    sorted.symm] at followed
  obtain ⟨raised, warned⟩ := Prod.mk.inj (Option.some.inj followed)
  have order := finished.rules
  rw [along, sorted] at order
  refine ⟨Sample.unsteady_calm, taken, after, row, committed, legs, run, finished, order, warned,
    raised, ?_⟩
  have some : taken.hasWarnings ≠ false := by
    rw [Taken.hasWarnings, warned]
    decide
  simpa using mt exact.2 some

end IssueFlow
