import IssueFlow.Transition.Registry

/-!
# Taking a transition

An attempt finds its edge, passes the gates of its plan in order, is committed in one write, and is
followed by its post-functions. Nothing is written before the commit and nothing undoes it: a
post-function that fails leaves a warning.
-/

namespace IssueFlow

/-- A transition that was taken. -/
structure Taken where
  issue : Issue
  transition : Transition
  fromStatus : StatusId
  toStatus : StatusId
  /-- The post-functions that failed. -/
  warnings : List Warning
  deriving DecidableEq

def Taken.hasWarnings (taken : Taken) : Bool :=
  !taken.warnings.isEmpty

/-- What evaluates rules, and how many milliseconds a post-function may take. -/
structure Executor where
  registry : Registry := .builtIn
  timeout : Nat := 5000

namespace Executor

variable (executor : Executor)

def reject {α : Type} (rejection : Rejection) : Run α :=
  throw (.rejected rejection)

/-- The first condition that an attempt does not meet. -/
def failedCondition? (attempt : Attempt) : List ConditionRule → Run (Option ConditionRule)
  | [] => return none
  | rule :: rules => do
    let evaluate ← executor.registry.condition rule.content.type
    if ← evaluate attempt rule.content then failedCondition? attempt rules
    else return some rule

/-- Rejects an attempt at the first validator that it does not pass. -/
def validate (attempt : Attempt) : List ValidatorRule → Run Unit
  | [] => return ()
  | rule :: rules => do
    let type := rule.content.validator.type
    let evaluate ← executor.registry.validator type
    match ← evaluate attempt rule.content.validator with
    | .pass => validate attempt rules
    | .fail reason => reject (.validationFailed type.name (rule.content.errorMessage.getD reason))

/-- Rejects an attempt that leaves a required field of the screen open. -/
def checkScreen (attempt : Attempt) (plan : Plan) : Run Unit :=
  match attempt.openField? plan with
  | none => return ()
  | some unfilled =>
    reject (.validationFailed "screen_required" s!"{unfilled.field.display} is required")

/-- Passes an attempt through all gates of a plan. -/
def passGates (attempt : Attempt) (plan : Plan) : Run Unit := do
  match ← executor.failedCondition? attempt plan.conditions with
  | some rule => reject (.conditionNotMet rule.content.type rule.position)
  | none =>
    executor.validate attempt plan.validators
    checkScreen attempt plan

/-- All that an attempt writes at once. -/
def commitOf (attempt : Attempt) (target : StatusId) (now : Timestamp) : TransitionCommit where
  issueId := attempt.issue.id
  expectedStatus := attempt.issue.statusId
  newStatus := target
  actor := attempt.actor
  fieldUpdates := attempt.submission.updates
  resolution := attempt.submission.resolutionText
  comment := attempt.submission.commentText
  committedAt := now

/-- What a refused commit means: the status has moved on, or a value does not fit its field. -/
def commitFailure (attempt : Attempt) (target : StatusId) : StorageError → TransitionError
  | .statusMismatch _ _ _ => .rejected (.noSuchTransition attempt.issue.statusId target)
  | .invalidInput message => .rejected (.validationFailed "field_value" message)
  | other => .storage other

/-- Commits an attempt if the issue is still in the status that was read. -/
def commit (attempt : Attempt) (target : StatusId) : Run Issue :=
  ExceptT.mk fun world =>
    let (answer, store) := world.store.update
      (Tables.onIssueLog (IssueLog.commitTransition (commitOf attempt target world.store.now)))
    (answer.mapError (commitFailure attempt target), { world with store })

/-- What comes of a reaction: the attempt as it was left, with what to say of a failure; nothing
after a panic. -/
def outcome (reaction : Reaction) : Option (Attempt × Option String) :=
  if executor.timeout < reaction.slept then
    some (reaction.left, some s!"timed out after {executor.timeout} ms")
  else match reaction.ending with
    | .done => some (reaction.left, none)
    | .failed e => some (reaction.left, some e.message)
    | .panicked => none

/-- Runs one post-function. -/
def runPostFunction (attempt : Attempt) (postFunction : PostFunction) :
    StateM World (Option (Attempt × Option String)) :=
  match executor.registry.postFunction postFunction.type with
  | .error e => return some (attempt, some e.message)
  | .ok evaluate => do return executor.outcome (← evaluate attempt postFunction)

/-- The warning that a rule failed. -/
def warningOf (rule : PostFunctionRule) (message : String) : Warning :=
  ⟨rule.content.type, rule.position, message⟩

/-- Runs post-functions in order. Each sees the attempt as those before it left it. The answer is
the issue and the warnings, or nothing when one of them panicked. -/
def runPostFunctions (attempt : Attempt) :
    List PostFunctionRule → StateM World (Option (Issue × List Warning))
  | [] => return some (attempt.issue, [])
  | rule :: rules => do
    match ← executor.runPostFunction attempt rule.content with
    | none => return none
    | some (left, failure) =>
      let rest ← runPostFunctions left rules
      return rest.map fun (issue, warnings) =>
        (issue, (failure.map (warningOf rule)).toList ++ warnings)

/-- What follows a commit. When a post-function panics, all of them count as failed. -/
def followUp (attempt : Attempt) (rules : List PostFunctionRule) :
    StateM World (Issue × List Warning) := do
  let result ← executor.runPostFunctions attempt rules
  return result.getD (attempt.issue, rules.map (warningOf · "post-function pipeline aborted"))

/-- Takes an issue, as it was read, to another status. -/
def take (issue : Issue) (target : StatusId) (actor : UserId) (submission : Submission) :
    Run Taken := do
  let workflow ← Run.ask (Route.workflowForProject issue.projectId issue.issueTypeId)
  match ← Run.ask (Route.edge? workflow.id issue.statusId target) with
  | none => reject (.noSuchTransition issue.statusId target)
  | some transition =>
    let plan ← Run.ask (Route.plan transition)
    let attempt : Attempt := { issue, actor, transition, submission }
    executor.passGates attempt plan
    let committed ← commit attempt target
    let (final, warnings) ←
      executor.followUp { attempt with issue := committed } plan.postFunctions
    return ⟨final, transition, issue.statusId, target, warnings⟩

/-- The transitions among the given ones whose conditions are all met. -/
def offered (issue : Issue) (actor : UserId) : List Transition → Run (List Transition)
  | [] => return []
  | transition :: transitions => do
    let conditions ← Run.ask (Query.look fun t => t.graph.conditionsOf transition.id)
    let attempt : Attempt := { issue, actor, transition, submission := {} }
    let failed ← executor.failedCondition? attempt conditions
    let others ← offered issue actor transitions
    return if failed.isNone then transition :: others else others

/-- The transitions that an actor may take from the status of an issue, by name. Validators have no
say, since they judge what is handed in. -/
def available (issue : Issue) (actor : UserId) : Run (List Transition) := do
  let workflow ← Run.ask (Route.workflowForProject issue.projectId issue.issueTypeId)
  let edges ← Run.ask (Route.edgesFrom workflow.id issue.statusId)
  executor.offered issue actor edges

end Executor

end IssueFlow
