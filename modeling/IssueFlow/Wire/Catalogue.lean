import IssueFlow.Role
import IssueFlow.Rule
import IssueFlow.Wire.Basic

/-!
# The catalogue

All names that permissions, global roles and the steps of a pipeline have, in the order in which
they are listed everywhere.
-/

namespace IssueFlow

/-- The names of an enumeration. -/
def allNames (α : Type) [Enumeration α] : Json :=
  .array ((Enumeration.all : List α).map fun a => .string (Enumeration.name a))

def catalogue : Json := .ofFields [
  ("permissions", allNames Permission),
  ("global_permissions", allNames GlobalPermission),
  ("global_roles", allNames GlobalRoleKind),
  ("default_project_roles", Wire.encode defaultProjectRoles),
  ("conditions", allNames ConditionType),
  ("validators", allNames ValidatorType),
  ("post_functions", allNames PostFunctionType)]

end IssueFlow
