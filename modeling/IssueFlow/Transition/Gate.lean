import IssueFlow.Authority.Check
import IssueFlow.Transition.Attempt

/-!
# Gates

Conditions, validators and the required fields of the screen judge an attempt. They read the store
and change nothing.
-/

namespace IssueFlow

/-- Whether all of these issues are in a status of the category `done`. -/
def allResolved : List Issue → Query TransitionError Bool
  | [] => pure true
  | issue :: issues => do
    let status ← Query.look fun t => t.graph.statuses.get? issue.statusId
    if status.any (·.isTerminal) then allResolved issues else return false

/-- Whether a condition is met. -/
def Condition.isMet (attempt : Attempt) : Condition → Query TransitionError Bool
  | .userInRole role =>
    (RoleHolding.isUserInRole attempt.issue.projectId role attempt.actor).mapError .access
  | .userInGroup group => .look fun t => (t.accounts.groupsOf attempt.actor).contains group
  | .userHasPermission permission =>
    (Authority.hasProject attempt.actor attempt.issue.projectId permission).mapError .access
  | .onlyReporter => pure (attempt.issue.reporterId == attempt.actor)
  | .onlyAssignee => pure (attempt.issue.assigneeId == some attempt.actor)
  | .subtasksResolved => do
    let subtasks ← Query.look fun t => t.issueLog.subtasksOf attempt.issue.id
    allResolved subtasks
  | .fieldValue field value => pure ((attempt.issue.fieldValue field).sameValue value)

inductive Verdict where
  | pass
  | fail (reason : String)
  deriving DecidableEq, Repr

/-- Passes when a condition holds. -/
def Verdict.check (holds : Bool) (reason : String) : Verdict :=
  if holds then .pass else .fail reason

/-- The text that a pattern is held against: a string itself, nothing for null, else JSON text. -/
def Json.subject : Json → String
  | .string s => s
  | .null => ""
  | other => other.text

/-- Compiles patterns. A pattern that can be used answers whether a text matches, and one that
cannot be used is refused with a diagnostic. -/
structure Matcher where
  compile : String → Except String (String → Bool)

/-- Why a pattern for a field cannot be used. -/
def invalidPattern (field : FieldRef) (diagnostic : String) : TransitionError :=
  .misconfigured s!"invalid pattern for {field.display}: {diagnostic}"

/-- The verdict of a validator. -/
def Validator.judge (matcher : Matcher) (attempt : Attempt) :
    Validator → Query TransitionError Verdict
  | .fieldRequired field =>
    pure (.check ((attempt.submission.submitted field).any fun value => !value.isUnfilled)
      s!"{field.display} is required")
  | .fieldNotEmpty field =>
    pure (.check (!(attempt.submission.effective attempt.issue field).isUnfilled)
      s!"{field.display} must not be empty")
  | .regex field pattern =>
    match matcher.compile pattern with
    | .error diagnostic => .fail (invalidPattern field diagnostic)
    | .ok isMatch =>
      pure (.check (isMatch (attempt.submission.effective attempt.issue field).subject)
        s!"{field.display} does not match {pattern}")
  | .previousStatus status => do
    let history ← Query.look fun t => t.issueLog.historyOf attempt.issue.id
    return .check (history.any (·.toStatus == status)) s!"issue has never been in status {status}"
  | .parentStatus statuses =>
    match attempt.issue.parentId with
    | none => pure .pass
    | some parentId => do
      let parent ← Query.lookFor (fun t => t.issueLog.issues.get? parentId)
        (TransitionError.notFound s!"parent issue {parentId}")
      return .check (statuses.contains parent.statusId)
        s!"parent issue {parent.key} is not in an allowed status"
  | .permission right => do
    let held ← (Authority.hasProject attempt.actor attempt.issue.projectId right).mapError
      TransitionError.access
    return .check held s!"{right.name} permission is required"
  | .commentRequired =>
    pure (.check attempt.submission.commentText.isSome "a comment is required")
  | .resolutionSet =>
    pure (.check (attempt.submission.resolutionText.isSome || attempt.issue.resolution.isSome)
      "a resolution is required")

/-- Whether an attempt fills in a field of the screen. A resolution that is handed in by itself
fills in the field of that name. -/
def Attempt.fillsIn (attempt : Attempt) (screenField : ScreenField) : Bool :=
  (screenField.field == .standard .resolution && attempt.submission.resolutionText.isSome) ||
    !(attempt.submission.effective attempt.issue screenField.field).isUnfilled

/-- The first required field of the screen that an attempt leaves open. -/
def Attempt.openField? (attempt : Attempt) (plan : Plan) : Option ScreenField :=
  plan.requiredFields.find? fun field => !attempt.fillsIn field

end IssueFlow
