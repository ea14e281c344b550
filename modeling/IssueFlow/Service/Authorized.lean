import IssueFlow.Transition.Execution

/-!
# Authorized transitions

Users take transitions through the service, which asks for the permission first. A denial and a
check that could not be made are different errors.
-/

namespace IssueFlow

inductive ServiceError where
  | notFound (what : String)
  | permissionDenied (permission : String)
  /-- No answer could be reached, and so the request is refused. -/
  | permissionCheckFailed (cause : AccessError)
  | transition (cause : TransitionError)
  | storage (cause : StorageError)
  deriving DecidableEq, Repr

namespace ServiceError

def ofAccess : AccessError → ServiceError
  | .permissionDenied permission => permissionDenied permission
  | .notFound what => notFound what
  | .resolution cause => permissionCheckFailed (.resolution cause)

def message : ServiceError → String
  | notFound what => s!"not found: {what}"
  | permissionDenied permission => s!"permission denied: {permission}"
  | permissionCheckFailed cause => s!"permission check failed: {cause.message}"
  | transition cause => cause.message
  | storage cause => s!"storage error: {cause.message}"

def rejection? : ServiceError → Option Rejection
  | transition cause => cause.rejection?
  | _ => none

/-- What a user may be told. -/
def userMessage : ServiceError → String
  | notFound what => s!"{what} not found"
  | permissionDenied permission => s!"permission denied: {permission} is required"
  | permissionCheckFailed _ => "failed to check permissions"
  | transition cause => cause.userMessage
  | storage _ => "internal storage error"

instance : OfStorage ServiceError := ⟨storage⟩

end ServiceError

namespace Service

/-- A computation of the service. -/
abbrev Serve := ExceptT ServiceError (StateM World)

def ask {α : Type} (query : Query ServiceError α) : Serve α :=
  ExceptT.mk fun world => (query.run world.store, world)

/-- Runs an attempt; its errors are errors of the transition. -/
def carryOut {α : Type} (run : Run α) : Serve α :=
  ExceptT.mk fun world =>
    let (answer, world) := run.run world
    (answer.mapError .transition, world)

def loadIssue (id : IssueId) : Query ServiceError Issue :=
  .lookFor (fun t => t.issueLog.issues.get? id) (.notFound s!"issue {id}")

/-- Takes a stored issue to another status, for an actor who may transition issues. -/
def transition (executor : Executor) (id : IssueId) (target : StatusId) (actor : UserId)
    (submission : Submission) : Serve Taken := do
  let issue ← ask (loadIssue id)
  ask ((Authority.requireProject actor issue.projectId .transitionIssues).mapError .ofAccess)
  carryOut (executor.take issue target actor submission)

/-- The transitions that an actor may take now; none without the permission. -/
def available (executor : Executor) (id : IssueId) (actor : UserId) :
    Serve (List Transition) := do
  let issue ← ask (loadIssue id)
  let permitted ← ask
    ((Authority.hasProject actor issue.projectId .transitionIssues).mapError .ofAccess)
  if permitted then carryOut (executor.available issue actor) else return []

end Service

end IssueFlow
