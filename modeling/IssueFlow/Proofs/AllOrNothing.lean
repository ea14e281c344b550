import IssueFlow.Proofs.PostFunctions

/-!
# All or nothing

An attempt has one point at which it takes effect, its commit. An attempt that fails has left every
table and the outbox as they were (`World.Untouched`). One that is taken has moved the issue and
logged it once, and no post-function that fails takes anything of that back (`Executor.Landed`).
-/

namespace IssueFlow

/-- Every table and the outbox are as they were. -/
structure World.Untouched (world later : World) : Prop where
  tables : later.store.tables = world.store.tables
  outbox : later.outbox = world.outbox

instance : IsPreorder World World.Untouched where
  refl _ := ⟨rfl, rfl⟩
  trans _ _ _ before later :=
    ⟨later.tables.trans before.tables, later.outbox.trans before.outbox⟩

/-- Every evaluator is the one of the library or writes nothing. -/
structure Registry.Harmless (registry : Registry) : Prop where
  condition : ∀ {type evaluate}, registry.condition? type = some evaluate →
    evaluate = evaluateCondition ∨
      ∀ attempt condition, Keeps World.Untouched (evaluate attempt condition).run
  validator : ∀ {type evaluate}, registry.validator? type = some evaluate →
    (∃ matcher, evaluate = evaluateValidator matcher) ∨
      ∀ attempt validator, Keeps World.Untouched (evaluate attempt validator).run
  postFunction : ∀ {type evaluate}, registry.postFunction? type = some evaluate →
    evaluate = evaluatePostFunction ∨
      ∀ attempt postFunction, Keeps World.Untouched (evaluate attempt postFunction)

namespace Registry.Harmless

variable {registry : Registry} (harmless : registry.Harmless)

theorem builtIn {matcher : Matcher} : (Registry.builtIn matcher).Harmless := by
  constructor
  · rintro type evaluate ⟨⟩
    exact .inl rfl
  · rintro type evaluate ⟨⟩
    exact .inl ⟨matcher, rfl⟩
  · rintro type evaluate ⟨⟩
    exact .inl rfl

include harmless

theorem gatesKeep : registry.GatesKeep World.Untouched := by
  constructor
  · intro type evaluate found
    rcases harmless.condition found with rfl | kept
    · exact fun _ _ => keeps_ask _
    · exact kept
  · intro type evaluate found
    rcases harmless.validator found with ⟨matcher, rfl⟩ | kept
    · exact fun _ _ => keeps_ask _
    · exact kept

/-- What follows the commit leaves the status of every issue and its history. -/
private theorem postFunctionsKeep (id : IssueId) :
    registry.PostFunctionsKeep (World.Along (Store.KeepsStatus id)) := by
  intro type evaluate found attempt postFunction
  rcases harmless.postFunction found with rfl | kept
  · exact (evaluatePostFunction_quiet attempt postFunction).mono fun led =>
      Store.keepsStatus_of_quiet led id
  · refine (kept attempt postFunction).mono ?_
    intro world later untouched status stands
    rw [Store.IsIn, untouched.tables]
    exact ⟨stands, rfl⟩

end Registry.Harmless

namespace Executor

variable {executor : Executor}

/-- A post-function of the library that does not end with the issue has changed nothing. -/
private theorem world_of_builtIn_failed (attempt : Attempt) (postFunction : PostFunction)
    (world : World)
    (failed : ∀ left, executor.outcome (evaluatePostFunction attempt postFunction world).1 ≠
      some (left, none)) :
    (evaluatePostFunction attempt postFunction world).2 = world := by
  have executed : evaluatePostFunction attempt postFunction world =
      (Reaction.ofExcept attempt ((postFunction.apply attempt).run world).1,
        ((postFunction.apply attempt).run world).2) := rfl
  rw [executed] at failed ⊢
  rcases applied : (postFunction.apply attempt).run world with ⟨e | issue, after⟩
  · exact apply_failsClean attempt postFunction _ _ _ applied
  · rw [applied] at failed
    -- The evaluators of the library do not sleep, so none of them runs out of time.
    have inTime : ¬ executor.timeout < 0 := Nat.not_lt_zero _
    exact absurd (if_neg inTime) (failed { attempt with issue })

/-- A post-function that fails leaves every table. -/
private theorem tables_of_failed (harmless : executor.registry.Harmless) (attempt : Attempt)
    (rules : List PostFunctionRule) (world : World) :
    ∀ visit ∈ executor.visits attempt rules world, visit.Failed →
      visit.after.store.tables = visit.before.store.tables := by
  refine forall_visits executor ?_ attempt rules world
  intro attempt rule world outcome after run failed
  show after.store.tables = world.store.tables
  rw [runPostFunction] at run
  cases found : executor.registry.postFunction rule.content.type with
  | error e =>
    rw [found] at run
    cases run
    rfl
  | ok evaluate =>
    rw [found] at run
    cases run
    rcases harmless.postFunction (Registry.find_eq_ok_iff.1 found) with rfl | kept
    · exact congrArg (·.store.tables) (world_of_builtIn_failed attempt rule.content world failed)
    · exact (kept attempt rule.content world).tables

/-- The visits that the post-functions of an attempt make, if it comes to them. -/
def followers (executor : Executor) (issue : Issue) (target : StatusId) (actor : UserId)
    (submission : Submission) (world : World) : List Visit :=
  match (executor.prepare issue target actor submission).run world with
  | (.error _, _) => []
  | (.ok (attempt, plan), ready) =>
    match (commit attempt target).run ready with
    | (.error _, _) => []
    | (.ok row, committed) =>
      executor.visits { attempt with issue := row } plan.postFunctions committed

theorem followers_of_commit {executor : Executor} {issue : Issue} {target : StatusId}
    {actor : UserId} {submission : Submission} {world ready committed : World} {attempt : Attempt}
    {plan : Plan} {row : Issue}
    (prepared : (executor.prepare issue target actor submission).run world =
      (.ok (attempt, plan), ready))
    (done : (commit attempt target).run ready = (.ok row, committed)) :
    executor.followers issue target actor submission world =
      executor.visits { attempt with issue := row } plan.postFunctions committed := by
  rw [followers, prepared]
  simp only [done]

/-- What a transition that was taken has done: the issue is in the target, its history has one more
entry, and the post-functions that failed have left every table as they found it. -/
structure Landed (executor : Executor) (issue : Issue) (target : StatusId) (actor : UserId)
    (submission : Submission) (world : World) (taken : Taken) (after : World) : Prop where
  status : after.store.IsIn issue.id target
  logged : ∃ time, after.store.tables.issueLog.historyOf issue.id =
    world.store.tables.issueLog.historyOf issue.id ++
      [⟨issue.id, some issue.statusId, target, actor, time⟩]
  /-- The post-functions run one after the other, the first of them on the committed tables. -/
  followed : ∃ committed : World, committed.store.IsIn issue.id target ∧
    Chained committed (executor.followers issue target actor submission world) after
  failures : ∀ visit ∈ executor.followers issue target actor submission world, visit.Failed →
    visit.after.store.tables = visit.before.store.tables
  /-- Unless one of them panicked, the warnings name those that failed. -/
  warned : (∀ visit ∈ executor.followers issue target actor submission world,
      visit.outcome ≠ none) →
    taken.warnings =
      (executor.followers issue target actor submission world).filterMap Visit.warning?

theorem followUp_eq (attempt : Attempt) (rules : List PostFunctionRule) (world : World) :
    executor.followUp attempt rules world =
      ((executor.runPostFunctions attempt rules world).1.getD
        (attempt.issue, rules.map (warningOf · "post-function pipeline aborted")),
        (executor.runPostFunctions attempt rules world).2) := rfl

theorem take_landed_or_untouched (harmless : executor.registry.Harmless) (issue : Issue)
    (target : StatusId) (actor : UserId) (submission : Submission) (world : World) :
    match (executor.take issue target actor submission).run world with
    | (.error _, after) => world.Untouched after
    | (.ok taken, after) => executor.Landed issue target actor submission world taken after := by
  have judged := prepare_keeps harmless.gatesKeep issue target actor submission world
  rcases run : (executor.take issue target actor submission).run world with ⟨answer, after⟩
  cases executor.course_of_take run with
  | turnedAway e later prepared =>
    rw [prepared] at judged
    exact judged
  | refused attempt plan ready e prepared commitRefused =>
    rw [prepared] at judged
    exact judged
  | taken attempt plan ready row committed after followed prepared done behind =>
    rw [prepared] at judged
    obtain ⟨rfl, rfl, rfl⟩ := prepare_ok executor prepared
    have written := committed_of_commit done
    have standing : committed.store.IsIn attempt.issue.id target :=
      ⟨row, written.stored, written.status⟩
    have kept := followUp_keeps (harmless.postFunctionsKeep attempt.issue.id)
      { attempt with issue := row } plan.postFunctions committed
    rw [behind] at kept
    obtain ⟨stands, same⟩ := kept target standing
    have visited := followers_of_commit prepared done
    rw [followUp_eq] at behind
    cases behind
    refine ⟨stands, ⟨ready.store.now, ?_⟩, ⟨committed, standing, ?_⟩, ?_, ?_⟩
    · rw [same, written.historyOf, judged.tables]
      rfl
    · rw [visited]
      exact visits_chained executor _ _ _
    · rw [visited]
      exact tables_of_failed harmless _ _ _
    · rw [visited]
      intro ended
      obtain ⟨result, answered, warnings⟩ :=
        Option.map_eq_some_iff.1 (runPostFunctions_warnings executor _ _ _ ended)
      rw [answered, ← warnings]
      rfl

end Executor

/-- A transition is all or nothing at its commit, taken by the executor with an issue as it was read
at some time or through the service with the issue as it is stored. -/
theorem transition_all_or_nothing (executor : Executor) (harmless : executor.registry.Harmless)
    (target : StatusId) (actor : UserId) (submission : Submission) (world : World) :
    (∀ issue, match (executor.take issue target actor submission).run world with
      | (.error _, after) => world.Untouched after
      | (.ok taken, after) => executor.Landed issue target actor submission world taken after) ∧
    ∀ id, match (Service.transition executor id target actor submission).run world with
      | (.error _, after) => world.Untouched after
      | (.ok taken, after) => ∃ issue, world.store.tables.issueLog.issues.get? id = some issue ∧
        executor.Landed issue target actor submission world taken after := by
  have attempts := fun issue =>
    Executor.take_landed_or_untouched harmless issue target actor submission world
  refine ⟨attempts, ?_⟩
  intro id
  rcases Service.transition_cases executor id target actor submission world with
    ⟨e, refused⟩ | ⟨issue, stored, -, served⟩
  · rw [refused]
    exact Std.Refl.refl world
  · have attempt := attempts issue
    rw [served]
    rcases run : (executor.take issue target actor submission).run world with ⟨e | taken, after⟩ <;>
      rw [run] at attempt
    · exact attempt
    · exact ⟨issue, stored, attempt⟩

/-- The sample issue is taken along its edge, though the post-function behind it fails. -/
theorem sample_landed :
    Registry.builtIn.Harmless ∧ ∃ taken after issue,
      (Service.transition {} Sample.issue.id ⟨"done"⟩ Sample.reporter.id Sample.submission).run
        Sample.world = (.ok taken, after) ∧ taken.warnings.length = 1 ∧
      Executor.Landed {} issue ⟨"done"⟩ Sample.reporter.id Sample.submission Sample.world taken
        after := by
  have served := (transition_all_or_nothing {} .builtIn ⟨"done"⟩ Sample.reporter.id
    Sample.submission Sample.world).2 Sample.issue.id
  have warned : ((Service.transition {} Sample.issue.id ⟨"done"⟩ Sample.reporter.id
      Sample.submission).run Sample.world).1.toOption.map (·.warnings.length) = some 1 := by
    decide +kernel
  refine ⟨.builtIn, ?_⟩
  rcases run : (Service.transition {} Sample.issue.id ⟨"done"⟩ Sample.reporter.id
    Sample.submission).run Sample.world with ⟨e | taken, after⟩ <;> rw [run] at served warned
  · cases warned
  · obtain ⟨issue, -, landed⟩ := served
    exact ⟨taken, after, issue, rfl, Option.some.inj warned, landed⟩

end IssueFlow
