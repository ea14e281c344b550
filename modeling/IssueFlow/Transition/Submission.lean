import IssueFlow.Issue.Basic

/-!
# Submissions

What the acting user hands in with a transition: values for fields, a comment and a resolution.
-/

namespace IssueFlow

structure Submission where
  fields : SortedMap FieldRef Json := .empty
  comment : Option String := none
  resolution : Option String := none
  deriving DecidableEq

namespace Submission

/-- The value that was handed in for a field. -/
def submitted (submission : Submission) (field : FieldRef) : Option Json :=
  submission.fields.get? field

/-- The value that a field will have: what was handed in, else what the issue holds. -/
def effective (submission : Submission) (issue : Issue) (field : FieldRef) : Json :=
  (submission.submitted field).getD (issue.fieldValue field)

/-- The comment, unless it is blank. -/
def commentText (submission : Submission) : Option String :=
  submission.comment.filter fun s => !Text.isBlank s

/-- The resolution, unless it is blank. -/
def resolutionText (submission : Submission) : Option String :=
  submission.resolution.filter fun s => !Text.isBlank s

/-- The writes that the fields ask for, in the order of the fields. -/
def updates (submission : Submission) : List FieldUpdate :=
  submission.fields.entries.map fun (field, value) => ⟨field, value⟩

end Submission

end IssueFlow
