import IssueFlow.Service.Authorized
import IssueFlow.Service.Config
import IssueFlow.Wire.Outcome

/-!
# Reports

An error is reported as an object that names its layer and its kind. It tells the message and, for
the layers that users meet, what a user may be told; a rejection stands there in full.
-/

namespace IssueFlow

def ParseError.kind : ParseError → String
  | unknownPermission _ => "UnknownPermission"
  | unknownGranteeType _ => "UnknownGranteeType"
  | invalidGrantee _ => "InvalidGrantee"
  | unknownGlobalRole _ => "UnknownGlobalRole"
  | unknownStatusCategory _ => "UnknownStatusCategory"
  | unknownField _ => "UnknownField"
  | fieldType _ _ => "FieldType"

def StorageError.kind : StorageError → String
  | notFound _ => "NotFound"
  | conflict _ => "Conflict"
  | invalidInput _ => "InvalidInput"
  | statusMismatch _ _ _ => "StatusMismatch"
  | backend _ => "Backend"

def AccessError.kind : AccessError → String
  | permissionDenied _ => "PermissionDenied"
  | notFound _ => "NotFound"
  | resolution _ => "Resolution"

def DispatchError.kind : DispatchError → String
  | outboxFull => "OutboxFull"
  | closed => "Closed"

def TransitionError.kind : TransitionError → String
  | notFound _ => "NotFound"
  | rejected _ => "Rejected"
  | misconfigured _ => "Misconfigured"
  | storage _ => "Storage"
  | access _ => "Access"
  | dispatch _ => "Dispatch"

/-- An error of a transition keeps its own kind. -/
def ServiceError.kind : ServiceError → String
  | notFound _ => "NotFound"
  | permissionDenied _ => "PermissionDenied"
  | permissionCheckFailed _ => "PermissionCheckFailed"
  | transition cause => s!"Transition.{cause.kind}"
  | storage _ => "Storage"

def ConfigError.kind : ConfigError → String
  | unreadable => "Io"
  | malformed => "Parse"
  | invalid _ => "Invalid"

/-- Errors that can be reported. -/
class Report (ε : Type) where
  report : ε → Json

namespace Report

/-- The report of an error of a layer. -/
def object (layer kind : String) (more : List (String × Json)) : Json :=
  .ofFields (("error", .string s!"{layer}.{kind}") :: more)

/-- What a user is told, and the rejection that an error is. -/
def forUser (userMessage : String) : Option Rejection → List (String × Json)
  | none => [("user_message", .string userMessage)]
  | some rejection => [
    ("user_message", .string userMessage),
    ("rejection", Wire.encode rejection),
    ("reason", .string rejection.reason)]

instance : Report ParseError where
  report e := object "Parse" e.kind [("message", .string e.message)]

instance : Report StorageError where
  report e := object "Storage" e.kind [
    ("message", .string e.message),
    ("is_not_found", .bool e.isNotFound)]

instance : Report AccessError where
  report e := object "Access" e.kind [
    ("message", .string e.message),
    ("user_message", .string e.userMessage),
    ("is_denied", .bool e.isDenied)]

instance : Report DispatchError where
  report e := object "Dispatch" e.kind [("message", .string e.message)]

instance : Report TransitionError where
  report e := object "Transition" e.kind
    (("message", .string e.message) :: forUser e.userMessage e.rejection?)

instance : Report ServiceError where
  report e := object "Service" e.kind
    (("message", .string e.message) :: forUser e.userMessage e.rejection?)

instance : Report ConfigError where
  report e := object "Config" e.kind
    (e.message?.map fun message => ("message", Json.string message)).toList

end Report

end IssueFlow
