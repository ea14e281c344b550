import IssueFlow.Ident
import IssueFlow.Timestamp

/-!
# Users, groups and projects
-/

namespace IssueFlow

structure User where
  id : UserId
  username : String
  displayName : String
  /-- The old flag of super users. -/
  isAdmin : Bool
  isActive : Bool
  createdAt : Timestamp
  deriving DecidableEq, Repr

/-- The old flag counts for active accounts only. -/
def User.isLegacyAdmin (user : User) : Bool :=
  user.isAdmin && user.isActive

/-- A flat group; its members are users. -/
structure Group where
  id : GroupId
  name : String
  description : Option String
  createdAt : Timestamp
  deriving DecidableEq, Repr

structure Project where
  id : ProjectId
  key : String
  name : String
  leadId : Option UserId
  permissionSchemeId : PermissionSchemeId
  workflowSchemeId : Option WorkflowSchemeId
  createdAt : Timestamp
  deriving DecidableEq, Repr

end IssueFlow
