import IssueFlow.Enumeration
import IssueFlow.Json.Printer

/-!
# Unreadable texts

Why a name or a value cannot be taken as a value of a domain type.
-/

namespace IssueFlow

inductive ParseError where
  | unknownPermission (name : String)
  | unknownGranteeType (name : String)
  | invalidGrantee (reason : String)
  | unknownGlobalRole (name : String)
  | unknownStatusCategory (name : String)
  | unknownField (name : String)
  /-- The field of that name has no room for the value. -/
  | fieldType (field : String) (found : Json)
  deriving DecidableEq, Repr

def ParseError.message : ParseError → String
  | .unknownPermission name => s!"unknown permission: {name}"
  | .unknownGranteeType name => s!"unknown grantee type: {name}"
  | .invalidGrantee reason => s!"invalid grantee: {reason}"
  | .unknownGlobalRole name => s!"unknown global role: {name}"
  | .unknownStatusCategory name => s!"unknown status category: {name}"
  | .unknownField name => s!"unknown field: {name}"
  | .fieldType field found => s!"field {field} cannot hold value {found.text}"

/-- The value of an enumeration with that name, or the error that the name is unknown. -/
def Enumeration.parse {α : Type} [Enumeration α] (unknown : String → ParseError) (name : String) :
    Except ParseError α :=
  match Enumeration.ofName? name with
  | some a => .ok a
  | none => .error (unknown name)

end IssueFlow
