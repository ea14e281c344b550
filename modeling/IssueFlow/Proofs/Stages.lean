import IssueFlow.Proofs.StatusLog

/-!
# The stages of an attempt

An attempt prepares, which only judges, and then finishes: one commit and the post-functions behind
it (`Executor.take_eq`). What the evaluators of a registry keep, each stage keeps. A commit refuses
and leaves the world, or writes one row and one entry (`commit_cases`).
-/

namespace IssueFlow

/-- Relates worlds as their stores are related. -/
def World.Along (R : Store → Store → Prop) (world later : World) : Prop :=
  R world.store later.store

instance (R : Store → Store → Prop) [IsPreorder Store R] : IsPreorder World (World.Along R) where
  refl world := Std.Refl.refl world.store
  trans first second third := IsTrans.trans first.store second.store third.store

namespace Registry

/-- No condition and no validator leads out of a relation. -/
structure GatesKeep (R : World → World → Prop) (registry : Registry) : Prop where
  condition : ∀ {type evaluate}, registry.condition? type = some evaluate →
    ∀ attempt condition, Keeps R (evaluate attempt condition).run
  validator : ∀ {type evaluate}, registry.validator? type = some evaluate →
    ∀ attempt validator, Keeps R (evaluate attempt validator).run

/-- No post-function leads out of a relation. -/
def PostFunctionsKeep (R : World → World → Prop) (registry : Registry) : Prop :=
  ∀ {type evaluate}, registry.postFunction? type = some evaluate →
    ∀ attempt postFunction, Keeps R (evaluate attempt postFunction)

theorem GatesKeep.mono {R S : World → World → Prop} {registry : Registry}
    (kept : registry.GatesKeep S) (weaker : ∀ {a b}, S a b → R a b) : registry.GatesKeep R where
  condition found attempt condition := (kept.condition found attempt condition).mono weaker
  validator found attempt validator := (kept.validator found attempt validator).mono weaker

theorem PostFunctionsKeep.mono {R S : World → World → Prop} {registry : Registry}
    (kept : PostFunctionsKeep S registry) (weaker : ∀ {a b}, S a b → R a b) :
    PostFunctionsKeep R registry :=
  fun found attempt postFunction => (kept found attempt postFunction).mono weaker

theorem find_eq_ok_iff {ε : Type} {evaluator : Option ε} {family tag : String} {found : ε} :
    find evaluator family tag = .ok found ↔ evaluator = some found := by
  cases evaluator <;> simp [find]

end Registry

theorem keeps_ask {R : World → World → Prop} [IsPreorder World R] {α : Type}
    (query : Query TransitionError α) : Keeps R (Run.ask query).run :=
  keeps_of_same fun _ => rfl

theorem Registry.builtIn_gatesKeep {R : World → World → Prop} [IsPreorder World R]
    {matcher : Matcher} : GatesKeep R (builtIn matcher) := by
  constructor
  · rintro type evaluate ⟨⟩ attempt condition
    exact keeps_ask _
  · rintro type evaluate ⟨⟩ attempt validator
    exact keeps_ask _

@[simp] theorem Verdict.check_eq_pass_iff {holds : Bool} {reason : String} :
    Verdict.check holds reason = .pass ↔ holds = true := by
  cases holds <;> simp [Verdict.check]

namespace Executor

section Gates

variable {R : World → World → Prop} [IsPreorder World R] {executor : Executor}
  (kept : executor.registry.GatesKeep R)

include kept

theorem failedCondition?_keeps (attempt : Attempt) (rules : List ConditionRule) :
    Keeps R (executor.failedCondition? attempt rules).run := by
  induction rules with
  | nil => exact keeps_return none
  | cons rule rules ih =>
    refine keeps_lift_bind fun evaluate found => ?_
    refine Keeps.run_bind (kept.condition (Registry.find_eq_ok_iff.1 found) _ _) ?_
    rintro (_ | _)
    · exact keeps_return (some rule)
    · exact ih

theorem validate_keeps (attempt : Attempt) (rules : List ValidatorRule) :
    Keeps R (executor.validate attempt rules).run := by
  induction rules with
  | nil => exact keeps_return ()
  | cons rule rules ih =>
    refine keeps_lift_bind fun evaluate found => ?_
    refine Keeps.run_bind (kept.validator (Registry.find_eq_ok_iff.1 found) _ _) ?_
    rintro (_ | reason)
    · exact ih
    · exact keeps_throw _

omit kept in
private theorem checkScreen_keeps (attempt : Attempt) (plan : Plan) :
    Keeps R (checkScreen attempt plan).run := by
  rw [checkScreen]
  cases attempt.openField? plan with
  | none => exact keeps_return ()
  | some unfilled => exact keeps_throw _

theorem passGates_keeps (attempt : Attempt) (plan : Plan) :
    Keeps R (executor.passGates attempt plan).run := by
  refine Keeps.run_bind (failedCondition?_keeps kept _ _) ?_
  rintro (_ | rule)
  · refine Keeps.run_bind (validate_keeps kept _ _) ?_
    intro _
    exact checkScreen_keeps _ _
  · exact keeps_throw _

end Gates

variable (executor : Executor)

/-- All that happens before the commit: the edge and its plan are found, the gates are passed. -/
def prepare (issue : Issue) (target : StatusId) (actor : UserId) (submission : Submission) :
    Run (Attempt × Plan) := do
  let workflow ← Run.ask (Route.workflowForProject issue.projectId issue.issueTypeId)
  match ← Run.ask (Route.edge? workflow.id issue.statusId target) with
  | none => reject (.noSuchTransition issue.statusId target)
  | some transition =>
    let plan ← Run.ask (Route.plan transition)
    let attempt : Attempt := { issue, actor, transition, submission }
    executor.passGates attempt plan
    return (attempt, plan)

/-- The commit of an attempt and what follows it. -/
def finish (attempt : Attempt) (plan : Plan) (target : StatusId) : Run Taken := do
  let committed ← commit attempt target
  let (final, warnings) ←
    executor.followUp { attempt with issue := committed } plan.postFunctions
  return ⟨final, attempt.transition, attempt.issue.statusId, target, warnings⟩

/-- An attempt prepares and then finishes. -/
theorem take_eq (issue : Issue) (target : StatusId) (actor : UserId) (submission : Submission) :
    executor.take issue target actor submission =
      executor.prepare issue target actor submission >>= fun ready =>
        executor.finish ready.1 ready.2 target := by
  simp only [take, prepare, bind_assoc]
  congr 1
  funext workflow
  congr 1
  funext edge
  cases edge with
  | none => rfl
  | some transition =>
    simp only [bind_assoc, pure_bind]
    rfl

/-- An attempt that is ready is one of the issue as it was read, by the actor, with the
submission. -/
theorem prepare_ok {issue : Issue} {target : StatusId} {actor : UserId} {submission : Submission}
    {world ready : World} {attempt : Attempt} {plan : Plan}
    (prepared : (executor.prepare issue target actor submission).run world =
      (.ok (attempt, plan), ready)) :
    attempt.issue = issue ∧ attempt.actor = actor ∧ attempt.submission = submission := by
  obtain ⟨workflow, _, -, prepared⟩ := ok_of_run_bind prepared
  obtain ⟨edge, _, -, prepared⟩ := ok_of_run_bind prepared
  cases edge with
  | none => cases prepared
  | some transition =>
    obtain ⟨_, _, -, prepared⟩ := ok_of_run_bind prepared
    obtain ⟨_, _, -, prepared⟩ := ok_of_run_bind prepared
    cases prepared
    exact ⟨rfl, rfl, rfl⟩

/-- Only an available store lets an attempt get ready. -/
theorem available_of_prepare {issue : Issue} {target : StatusId} {actor : UserId}
    {submission : Submission} {world ready : World} {made : Attempt × Plan}
    (prepared : (executor.prepare issue target actor submission).run world = (.ok made, ready)) :
    world.store.unavailable = false := by
  obtain ⟨workflow, _, routed, -⟩ := ok_of_run_bind prepared
  cases switch : world.store.unavailable with
  | false => rfl
  | true =>
    have refused : (Run.ask (Route.workflowForProject issue.projectId issue.issueTypeId)).run world
        = (.error (.storage .outage), world) := by
      show ((Route.workflowForProject issue.projectId issue.issueTypeId).run world.store, world) = _
      rw [Route.workflowForProject, Query.run_bind, Query.lookFor, Query.run_bind, Query.run_look,
        Store.read, if_pos switch]
      rfl
    rw [refused] at routed
    cases routed

variable {executor} in
theorem prepare_keeps {R : World → World → Prop} [IsPreorder World R]
    (kept : executor.registry.GatesKeep R) (issue : Issue) (target : StatusId) (actor : UserId)
    (submission : Submission) : Keeps R (executor.prepare issue target actor submission).run := by
  refine Keeps.run_bind (keeps_ask _) fun workflow => ?_
  refine Keeps.run_bind (keeps_ask _) ?_
  rintro (_ | transition)
  · exact keeps_throw _
  · refine Keeps.run_bind (keeps_ask _) fun plan => ?_
    refine Keeps.run_bind (passGates_keeps kept _ _) fun _ => ?_
    exact keeps_return _

theorem commit_run (attempt : Attempt) (target : StatusId) (world : World) :
    (commit attempt target).run world =
      let result := world.store.update
        (Tables.onIssueLog (IssueLog.commitTransition (commitOf attempt target world.store.now)))
      (result.1.mapError (commitFailure attempt target), { world with store := result.2 }) :=
  rfl

/-- A commit fails and leaves the world, or carries out its operation. -/
theorem commit_cases (attempt : Attempt) (target : StatusId) (world : World) :
    (∃ e, (commit attempt target).run world = (.error e, world)) ∨
      ∃ committed log, world.store.unavailable = false ∧
        (IssueLog.commitTransition (commitOf attempt target world.store.now)).run
          world.store.tables.issueLog = (.ok committed, log) ∧
        (commit attempt target).run world = (.ok committed, { world with
          store.tables.issueLog := log }) := by
  rw [commit_run]
  rcases Store.update_cases world.store (IssueLog.commitTransition_failsClean
      (commitOf attempt target world.store.now)).onIssueLog with
    ⟨e, failed⟩ | ⟨committed, tables, available, done, updated⟩
  · rw [failed]
    exact .inl ⟨_, rfl⟩
  · obtain ⟨log, logged, rfl⟩ := within_eq_ok_iff.1 done
    rw [updated]
    exact .inr ⟨committed, log, available, logged, rfl⟩

/-- A commit that fails has written nothing: the tables are out of reach, or its operation is
refused. -/
theorem commit_eq_error {attempt : Attempt} {target : StatusId} {world after : World}
    {e : TransitionError} (failed : (commit attempt target).run world = (.error e, after)) :
    after = world ∧ (world.store.unavailable = true ∧ e = .storage .outage ∨
      ∃ cause, world.store.unavailable = false ∧
        (IssueLog.commitTransition (commitOf attempt target world.store.now)).run
          world.store.tables.issueLog = (.error cause, world.store.tables.issueLog) ∧
        e = commitFailure attempt target cause) := by
  rw [commit_run] at failed
  rcases Bool.eq_false_or_eq_true world.store.unavailable with unavailable | available
  · rw [Store.update, if_pos unavailable] at failed
    cases failed
    exact ⟨rfl, .inl ⟨unavailable, rfl⟩⟩
  · rcases logged : (IssueLog.commitTransition (commitOf attempt target world.store.now)).run
        world.store.tables.issueLog with ⟨cause | row, log⟩
    · have clean := IssueLog.commitTransition_failsClean _ _ _ _ logged
      rw [Store.update_onIssueLog available logged, clean] at failed
      cases failed
      exact ⟨rfl, .inr ⟨cause, available, by rw [← clean], rfl⟩⟩
    · rw [Store.update_onIssueLog available logged] at failed
      cases failed

/-- Only an invalid value makes a commit fail validation. -/
theorem commitFailure_eq_validationFailed_iff {attempt : Attempt} {target : StatusId}
    {cause : StorageError} {tag message : String} :
    commitFailure attempt target cause = .rejected (.validationFailed tag message) ↔
      tag = "field_value" ∧ cause = .invalidInput message := by
  cases cause <;> simp [commitFailure, eq_comm]

/-- A commit that goes through found the issue in the status that was read and with room for what
was submitted. The issue is then in the target, and its history has one more entry; nothing but the
issue tables has changed. -/
structure Committed (attempt : Attempt) (target : StatusId) (world : World) (row : Issue)
    (after : World) : Prop where
  stood : world.store.IsIn attempt.issue.id attempt.issue.statusId
  accepted : ∀ update ∈ attempt.submission.updates, attempt.issue.Accepts update
  stored : after.store.tables.issueLog.issues.get? attempt.issue.id = some row
  status : row.statusId = target
  history : after.store.tables.issueLog.history = world.store.tables.issueLog.history ++
    [IssueLog.entryOf (commitOf attempt target world.store.now)]
  others : ∃ log, after = { world with store.tables.issueLog := log }

theorem Committed.historyOf {attempt : Attempt} {target : StatusId} {world after : World}
    {row : Issue} (committed : Committed attempt target world row after) :
    after.store.tables.issueLog.historyOf attempt.issue.id =
      world.store.tables.issueLog.historyOf attempt.issue.id ++
        [IssueLog.entryOf (commitOf attempt target world.store.now)] := by
  rw [IssueLog.historyOf_append committed.history]
  simp [IssueLog.entryOf, commitOf]

theorem committed_of_commit {attempt : Attempt} {target : StatusId} {world after : World}
    {row : Issue} (done : (commit attempt target).run world = (.ok row, after)) :
    Committed attempt target world row after := by
  rcases commit_cases attempt target world with
    ⟨e, failed⟩ | ⟨committed, log, available, logged, executed⟩
  · rw [failed] at done
    cases done
  · rw [executed] at done
    cases done
    obtain ⟨current, found, expected, written, issues, history⟩ :=
      IssueLog.commitTransition_eq_ok logged
    obtain ⟨updated, wrote, same⟩ := IssueLog.rowOver_eq_ok_iff.1 written
    have rowId : row.id = attempt.issue.id := by
      rw [same]
      exact (Issue.id_of_origin (Issue.applyUpdates_fixed wrote).1).trans (Table.key_of_get? found)
    refine ⟨⟨current, found, expected⟩, ?_, ?_, by rw [same]; rfl, history, ⟨log, rfl⟩⟩
    · intro update member
      exact (Issue.applyUpdates_ok_iff.1 ⟨updated, wrote⟩ update member).transfer attempt.issue
    · exact (IssueLog.get?_of_put issues _).trans (if_pos rowId)

/-- A commit on an issue that has moved on is rejected, for there is no edge to take it along. -/
theorem commit_of_moved {attempt : Attempt} {target status : StatusId} {world : World}
    (available : world.store.unavailable = false)
    (stands : world.store.IsIn attempt.issue.id status) (moved : status ≠ attempt.issue.statusId) :
    (commit attempt target).run world =
      (.error (.rejected (.noSuchTransition attempt.issue.statusId target)), world) := by
  obtain ⟨current, stored, rfl⟩ := stands
  have refused : (IssueLog.commitTransition (commitOf attempt target world.store.now)).run
      world.store.tables.issueLog = _ :=
    IssueLog.commitTransition_of_moved stored moved
  rw [commit_run, Store.update_onIssueLog available refused]
  rfl

/-- A commit on an issue in the status that was read goes through when the issue accepts what was
submitted. -/
theorem commit_of_current {attempt : Attempt} {target : StatusId} {world : World}
    (available : world.store.unavailable = false)
    (stands : world.store.IsIn attempt.issue.id attempt.issue.statusId)
    (accepted : ∀ update ∈ attempt.submission.updates, attempt.issue.Accepts update) :
    ∃ row after, (commit attempt target).run world = (.ok row, after) := by
  obtain ⟨current, stored, status⟩ := stands
  have accepted : ∀ update ∈ (commitOf attempt target world.store.now).fieldUpdates,
      current.Accepts update :=
    fun update member => (accepted update member).transfer current
  obtain ⟨row, log, logged⟩ := IssueLog.commitTransition_of_current stored status accepted
  rw [commit_run, Store.update_onIssueLog available logged]
  exact ⟨row, _, rfl⟩

/-- What an attempt answers once its post-functions have run. -/
def takenOf (attempt : Attempt) (target : StatusId) (followed : Issue × List Warning) : Taken :=
  ⟨followed.1, attempt.transition, attempt.issue.statusId, target, followed.2⟩

/-- How an attempt can go: the answer and the world that it leaves. -/
inductive Course (issue : Issue) (target : StatusId) (actor : UserId) (submission : Submission)
    (world : World) : Except TransitionError Taken → World → Prop where
  | turnedAway (e : TransitionError) (later : World)
      (prepared : (executor.prepare issue target actor submission).run world =
        (.error e, later)) :
      Course issue target actor submission world (.error e) later
  | refused (attempt : Attempt) (plan : Plan) (ready : World) (e : TransitionError)
      (prepared : (executor.prepare issue target actor submission).run world =
        (.ok (attempt, plan), ready))
      (commitRefused : (commit attempt target).run ready = (.error e, ready)) :
      Course issue target actor submission world (.error e) ready
  | taken (attempt : Attempt) (plan : Plan) (ready : World) (row : Issue)
      (committed after : World) (followed : Issue × List Warning)
      (prepared : (executor.prepare issue target actor submission).run world =
        (.ok (attempt, plan), ready))
      (done : (commit attempt target).run ready = (.ok row, committed))
      (behind : executor.followUp { attempt with issue := row } plan.postFunctions committed =
        (followed, after)) :
      Course issue target actor submission world (.ok (takenOf attempt target followed)) after

theorem finish_run (attempt : Attempt) (plan : Plan) (target : StatusId) (world : World) :
    (executor.finish attempt plan target).run world =
      match (commit attempt target).run world with
      | (.ok row, committed) =>
        let followed := executor.followUp { attempt with issue := row } plan.postFunctions committed
        (.ok (takenOf attempt target followed.1), followed.2)
      | (.error e, later) => (.error e, later) := by
  rw [finish, run_bind]
  rcases (commit attempt target).run world with ⟨row | e, later⟩ <;> rfl

/-- Every attempt takes one of these courses. -/
theorem course_of_take {issue : Issue} {target : StatusId} {actor : UserId}
    {submission : Submission} {world after : World} {answer : Except TransitionError Taken}
    (run : (executor.take issue target actor submission).run world = (answer, after)) :
    executor.Course issue target actor submission world answer after := by
  rw [take_eq, run_bind] at run
  rcases prepared : (executor.prepare issue target actor submission).run world with
    ⟨e | ⟨attempt, plan⟩, ready⟩
  · rw [prepared] at run
    cases run
    exact .turnedAway e _ prepared
  · rw [prepared] at run
    have run : (executor.finish attempt plan target).run ready = (answer, after) := run
    rw [finish_run] at run
    rcases commit_cases attempt target ready with ⟨e, failed⟩ | ⟨row, log, -, -, done⟩
    · rw [failed] at run
      cases run
      exact .refused attempt plan _ e prepared failed
    · rw [done] at run
      cases run
      exact .taken attempt plan ready row _ _ _ prepared done rfl

end Executor

namespace Service

theorem ask_run {α : Type} (query : Query ServiceError α) (world : World) :
    (ask query).run world = (query.run world.store, world) := rfl

/-- The service loads the issue, checks the permission and leaves the rest to the executor. -/
theorem transition_run (executor : Executor) (id : IssueId) (target : StatusId) (actor : UserId)
    (submission : Submission) (world : World) :
    (transition executor id target actor submission).run world =
      match (loadIssue id).run world.store with
      | .error e => (.error e, world)
      | .ok issue =>
        match (Authority.requireProject actor issue.projectId .transitionIssues).run
          world.store with
        | .error e => (.error (.ofAccess e), world)
        | .ok () =>
          let taken := (executor.take issue target actor submission).run world
          (taken.1.mapError .transition, taken.2) := by
  rw [transition, run_bind, ask_run]
  cases (loadIssue id).run world.store with
  | error e => rfl
  | ok issue =>
    dsimp only
    rw [run_bind, ask_run, Query.mapError_run]
    cases (Authority.requireProject actor issue.projectId .transitionIssues).run world.store with
    | error e => rfl
    | ok _ => rfl

/-- A transition through the service fails and leaves the world, or is an attempt with the issue as
it is stored, by an actor who has the permission. -/
theorem transition_cases (executor : Executor) (id : IssueId) (target : StatusId) (actor : UserId)
    (submission : Submission) (world : World) :
    (∃ e, (transition executor id target actor submission).run world = (.error e, world)) ∨
      ∃ issue, world.store.tables.issueLog.issues.get? id = some issue ∧
        (Authority.requireProject actor issue.projectId .transitionIssues).run world.store =
          .ok () ∧
        (transition executor id target actor submission).run world =
          (((executor.take issue target actor submission).run world).1.mapError .transition,
            ((executor.take issue target actor submission).run world).2) := by
  rw [transition_run]
  cases loaded : (loadIssue id).run world.store with
  | error e => exact .inl ⟨e, rfl⟩
  | ok issue =>
    dsimp only
    cases permitted : (Authority.requireProject actor issue.projectId .transitionIssues).run
        world.store with
    | error e => exact .inl ⟨_, rfl⟩
    | ok _ => exact .inr ⟨issue, (Query.lookFor_run_ok loaded).2, permitted, rfl⟩

end Service

end IssueFlow
