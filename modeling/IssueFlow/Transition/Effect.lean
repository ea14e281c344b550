import IssueFlow.Transition.Attempt

/-!
# Effects

What post-functions do once a transition has been committed. Each answers the issue as it is after
it; one that fails has written nothing.
-/

namespace IssueFlow

/-- Writes one field of a stored issue and answers the issue. -/
def writeField (issue : IssueId) (field : FieldRef) (value : Json) : Run Issue :=
  Run.write fun now => Tables.onIssueLog (IssueLog.updateFields issue [⟨field, value⟩] now)

/-- The parent of the issue, which must have one. -/
def Attempt.parent (attempt : Attempt) : Query TransitionError Issue :=
  match attempt.issue.parentId with
  | none => .fail (.misconfigured s!"issue {attempt.issue.key} has no parent")
  | some parentId =>
    .lookFor (fun t => t.issueLog.issues.get? parentId) (.notFound s!"parent issue {parentId}")

/-- Writes one field of the parent; the issue stays as it is. -/
def writeParentField (attempt : Attempt) (field : FieldRef) (value : Json) : Run Issue := do
  let parent ← Run.ask attempt.parent
  let _ ← writeField parent.id field value
  return attempt.issue

/-- The user that a recipient stands for, if there is one now. -/
def Recipient.user? (attempt : Attempt) : Recipient → Query TransitionError (Option UserId)
  | .reporter => pure (some attempt.issue.reporterId)
  | .assignee => pure attempt.issue.assigneeId
  | .projectLead => .look fun t => (t.projects.get? attempt.issue.projectId).bind (·.leadId)
  | .user id => pure (some id)

def recipientUsers (attempt : Attempt) : List Recipient → Query TransitionError (List UserId)
  | [] => pure []
  | recipient :: recipients => do
    let user ← recipient.user? attempt
    let users ← recipientUsers attempt recipients
    return user.toList ++ users

/-- The users that a list of recipients stands for, each at the first place that names it. -/
def resolveRecipients (attempt : Attempt) (recipients : List Recipient) :
    Query TransitionError (List UserId) := do
  return (← recipientUsers attempt recipients).eraseDups

/-- What another system is told of a transition. -/
def Attempt.payload (attempt : Attempt) : Json :=
  .ofFields [
    ("event", .string "issue_transitioned"),
    ("issue_id", .string attempt.issue.id.text),
    ("issue_key", .string attempt.issue.key),
    ("transition_id", .string attempt.transition.id.text),
    ("transition", .string attempt.transition.name),
    ("from_status", .string attempt.transition.fromStatus.text),
    ("to_status", .string attempt.transition.toStatus.text),
    ("actor", .string attempt.actor.text)]

/-- The lead of the issue's project. -/
def Attempt.lead (attempt : Attempt) : Query TransitionError UserId := do
  let project ← Query.lookFor (fun t => t.projects.get? attempt.issue.projectId)
    (TransitionError.notFound s!"project {attempt.issue.projectId}")
  match project.leadId with
  | some lead => return lead
  | none => .fail (.misconfigured s!"project {project.key} has no lead")

/-- Makes a user the assignee of the issue. -/
def assign (attempt : Attempt) (user : UserId) : Run Issue :=
  writeField attempt.issue.id (.standard .assignee) (.string user.text)

/-- Carries out a post-function and answers the issue as it is then. -/
def PostFunction.apply (attempt : Attempt) : PostFunction → Run Issue
  | .updateField field value => writeField attempt.issue.id field value
  | .assignToReporter => assign attempt attempt.issue.reporterId
  | .assignToLead => do assign attempt (← Run.ask attempt.lead)
  | .clearField field => writeField attempt.issue.id field .null
  | .copyFieldValue source target .thisIssue =>
    writeField attempt.issue.id target (attempt.issue.fieldValue source)
  | .copyFieldValue source target .parent =>
    writeParentField attempt target (attempt.issue.fieldValue source)
  | .addComment body => do
    Run.write fun now =>
      Tables.onIssueLog (IssueLog.addComment attempt.issue.id attempt.actor body now)
    return attempt.issue
  | .sendNotification event recipients => do
    let users ← Run.ask (resolveRecipients attempt recipients)
    Run.send (.event event attempt.issue.id attempt.issue.key attempt.transition.id attempt.actor
      users)
    return attempt.issue
  | .triggerWebhook url => do
    Run.send (.webhook url attempt.payload)
    return attempt.issue
  | .updateParent field value =>
    if attempt.issue.parentId.isNone then pure attempt.issue
    else writeParentField attempt field value

end IssueFlow
