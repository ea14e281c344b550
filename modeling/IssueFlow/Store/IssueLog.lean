import IssueFlow.Store.Change
import IssueFlow.Store.Table

/-!
# Issue tables

Issues, the log of their status changes and their comments. A status changes only by a commit,
which names the status that it expects and writes everything or nothing. A comment is added from
what it says and gets its key from a running number.
-/

namespace IssueFlow

instance : Keyed Issue IssueId := ⟨Issue.id⟩

structure IssueLog where
  issues : Table Issue := {}
  history : List StatusChange := []
  comments : List Comment := []
  /-- How many comments commits and rules have made. -/
  commentCount : Nat := 0
  deriving DecidableEq

/-- All that a transition writes at once. -/
structure TransitionCommit where
  issueId : IssueId
  expectedStatus : StatusId
  newStatus : StatusId
  actor : UserId
  fieldUpdates : List FieldUpdate
  resolution : Option String
  comment : Option String
  committedAt : Timestamp
  deriving DecidableEq, Repr

namespace IssueLog

/-- The stored issue. -/
def requireIssue (t : IssueLog) (id : IssueId) : Except StorageError Issue :=
  match t.issues.get? id with
  | some issue => .ok issue
  | none => .error (.notFound s!"issue {id.text} not found")

/-- An issue after some writes; a refused write is invalid input. -/
def updated (issue : Issue) (updates : List FieldUpdate) : Except StorageError Issue :=
  match issue.applyUpdates updates with
  | .ok next => .ok next
  | .error refusal => .error (.invalidInput refusal.message)

def createIssue (issue : Issue) (createdBy : UserId) : Change IssueLog Unit := do
  let t ← get
  require (!t.issues.contains issue.id) (.conflict s!"issue {issue.id.text} already exists")
  let entry : StatusChange := ⟨issue.id, none, issue.statusId, createdBy, issue.createdAt⟩
  set { t with issues := t.issues.put issue, history := t.history ++ [entry] }

/-- The sub-tasks of an issue by age, then by key. -/
def subtasksOf (t : IssueLog) (parent : IssueId) : List Issue :=
  sortBy (fun a b => (compare a.createdAt b.createdAt).then (compare a.key b.key))
    (t.issues.rows.filter (·.parentId == some parent))

/-- A comment under the next key. -/
def pushComment (issue : IssueId) (author : UserId) (body : String) (time : Timestamp)
    (t : IssueLog) : IssueLog :=
  { t with
    comments := t.comments ++ [⟨⟨s!"C{t.commentCount + 1}"⟩, issue, author, body, time⟩]
    commentCount := t.commentCount + 1 }

/-- The row that a commit writes over an issue. -/
def rowOver (commit : TransitionCommit) (issue : Issue) :
    Except StorageError Issue := do
  let next ← updated issue commit.fieldUpdates
  return { next with
    resolution := commit.resolution.or next.resolution
    statusId := commit.newStatus
    updatedAt := commit.committedAt }

/-- Commits a transition when the issue is in the expected status. -/
def commitTransition (commit : TransitionCommit) : Change IssueLog Issue := do
  let t ← get
  let current ← t.requireIssue commit.issueId
  require (current.statusId == commit.expectedStatus)
    (.statusMismatch commit.issueId commit.expectedStatus current.statusId)
  let next ← rowOver commit current
  let entry : StatusChange :=
    ⟨commit.issueId, some commit.expectedStatus, commit.newStatus, commit.actor,
      commit.committedAt⟩
  modify fun t => { t with history := t.history ++ [entry] }
  commit.comment.forM fun body =>
    modify (·.pushComment commit.issueId commit.actor body commit.committedAt)
  modify fun t => { t with issues := t.issues.put next }
  return next

/-- Writes fields of an issue. -/
def updateFields (id : IssueId) (updates : List FieldUpdate) (now : Timestamp) :
    Change IssueLog Issue := do
  let t ← get
  let current ← t.requireIssue id
  let next := { (← updated current updates) with updatedAt := now }
  set { t with issues := t.issues.put next }
  return next

def addComment (issue : IssueId) (author : UserId) (body : String) (time : Timestamp) :
    Change IssueLog Unit := do
  let t ← get
  require (t.issues.contains issue) (.notFound s!"issue {issue.text} not found")
  set (t.pushComment issue author body time)

def commentsOf (t : IssueLog) (issue : IssueId) : List Comment :=
  t.comments.filter (·.issueId == issue)

/-- The status changes of an issue, the oldest first. -/
def historyOf (t : IssueLog) (issue : IssueId) : List StatusChange :=
  t.history.filter (·.issueId == issue)

end IssueLog

end IssueFlow
