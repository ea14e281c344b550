import IssueFlow.Query

/-!
# Authorization errors

A denial is an answer; a failed reading is none and stays apart from it.
-/

namespace IssueFlow

inductive AccessError where
  | permissionDenied (permission : String)
  | notFound (what : String)
  /-- No answer could be reached. -/
  | resolution (cause : StorageError)
  deriving DecidableEq, Repr

namespace AccessError

def message : AccessError → String
  | permissionDenied permission => s!"permission denied: {permission}"
  | notFound what => s!"not found: {what}"
  | resolution cause => s!"failed to check permissions: {cause.message}"

def isDenied : AccessError → Bool
  | permissionDenied _ => true
  | _ => false

/-- What a user may be told; it holds nothing of the store's own message. -/
def userMessage : AccessError → String
  | permissionDenied permission => s!"permission denied: {permission} is required"
  | notFound what => s!"{what} not found"
  | resolution _ => "failed to check permissions"

instance : OfStorage AccessError := ⟨resolution⟩

end AccessError

end IssueFlow
