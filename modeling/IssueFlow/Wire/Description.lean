import IssueFlow.Service.Authorized
import IssueFlow.Wire.Outcome

/-!
# Errors by description

A description calls up an error by its kind and by what it is about: a text, a rejection, or the
error beneath it. So the wording of an error can be looked at without bringing the error about.
-/

namespace IssueFlow

/-- A part of a description, in its wire form. -/
def described? {α : Type} [Wire α] (name : String) (description : Json) : Option α :=
  (description.get? name).bind Wire.decode

def StorageError.ofDescription? (d : Json) : Option StorageError := do
  match ← described? "kind" d with
  | "NotFound" => return .notFound (← described? "text" d)
  | "Conflict" => return .conflict (← described? "text" d)
  | "InvalidInput" => return .invalidInput (← described? "text" d)
  | "Backend" => return .backend (← described? "text" d)
  | "StatusMismatch" =>
    return .statusMismatch (← described? "issue_id" d) (← described? "expected" d)
      (← described? "actual" d)
  | _ => none

def AccessError.ofDescription? (d : Json) : Option AccessError := do
  match ← described? "kind" d with
  | "PermissionDenied" => return .permissionDenied (← described? "text" d)
  | "NotFound" => return .notFound (← described? "text" d)
  | "Resolution" => return .resolution (← StorageError.ofDescription? (← d.get? "inner"))
  | _ => none

def TransitionError.ofDescription? (d : Json) : Option TransitionError := do
  match ← described? "kind" d with
  | "NotFound" => return .notFound (← described? "text" d)
  | "Misconfigured" => return .misconfigured (← described? "text" d)
  | "Rejected" => return .rejected (← described? "rejection" d)
  | "Storage" => return .storage (← StorageError.ofDescription? (← d.get? "inner"))
  | "Access" => return .access (← AccessError.ofDescription? (← d.get? "inner"))
  | "OutboxFull" => return .dispatch .outboxFull
  | "Closed" => return .dispatch .closed
  | _ => none

def ServiceError.ofDescription? (d : Json) : Option ServiceError := do
  match ← described? "kind" d with
  | "NotFound" => return .notFound (← described? "text" d)
  | "PermissionDenied" => return .permissionDenied (← described? "text" d)
  | "PermissionCheckFailed" =>
    return .permissionCheckFailed (← AccessError.ofDescription? (← d.get? "inner"))
  | "Transition" => return .transition (← TransitionError.ofDescription? (← d.get? "inner"))
  | "Storage" => return .storage (← StorageError.ofDescription? (← d.get? "inner"))
  | _ => none

end IssueFlow
