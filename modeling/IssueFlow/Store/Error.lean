import IssueFlow.Issue.Basic

/-!
# Storage errors
-/

namespace IssueFlow

inductive StorageError where
  | notFound (what : String)
  | conflict (what : String)
  | invalidInput (what : String)
  /-- An issue was not in the status that a commit expected. -/
  | statusMismatch (issue : IssueId) (expected actual : StatusId)
  | backend (what : String)
  deriving DecidableEq, Repr

namespace StorageError

def message : StorageError → String
  | notFound what => s!"record not found: {what}"
  | conflict what => s!"conflict: {what}"
  | invalidInput what => s!"invalid input: {what}"
  | statusMismatch issue expected actual =>
    s!"issue {issue.text} status changed: expected {expected.text}, found {actual.text}"
  | backend what => s!"backend error: {what}"

def isNotFound : StorageError → Bool
  | notFound _ => true
  | _ => false

/-- What every operation answers while the store is switched off. -/
def outage : StorageError :=
  .backend "storage unavailable"

end StorageError

/-- Refuses with an error unless a condition holds. -/
def require (condition : Bool) (error : StorageError) : Except StorageError Unit :=
  if condition then .ok () else .error error

end IssueFlow
