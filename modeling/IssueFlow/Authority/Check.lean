import IssueFlow.Authority.RoleHolding
import IssueFlow.Authority.Source

/-!
# Permission checks

A check gathers what is known of the user, stops early for system administrators, and lets the
sources of permission decide.
-/

namespace IssueFlow.Authority

def project (id : ProjectId) : Query AccessError Project :=
  .lookFor (fun t => t.projects.get? id) (.notFound s!"project {id.text}")

/-- All that the sources of project permission need to know of a user. Nothing but that role counts
for a system administrator. -/
def projectPrincipal (user : UserId) (project : ProjectId) :
    Query AccessError ProjectPrincipal := do
  let isSystemAdmin ← RoleHolding.isSystemAdmin user
  if isSystemAdmin then return { userId := user, isSystemAdmin }
  let account ← Query.look fun t => t.accounts.users.get? user
  let groups ← Query.look fun t => t.accounts.groupsOf user
  let roles ← RoleHolding.roleIdsForUser project user groups
  return { userId := user, isLegacyAdmin := account.any (·.isLegacyAdmin), groups, roles }

/-- The decision on a permission in a project. -/
def checkProject (user : UserId) (projectId : ProjectId) (permission : Permission) :
    Query AccessError Decision := do
  let project ← project projectId
  let principal ← projectPrincipal user projectId
  if principal.isSystemAdmin then return principal.resolve []
  let grantees ← Query.look fun t =>
    t.grants.granteesOf project.permissionSchemeId permission
  return principal.resolve grantees

def hasProject (user : UserId) (project : ProjectId) (permission : Permission) :
    Query AccessError Bool := do
  return (← checkProject user project permission).isGranted

def requireProject (user : UserId) (project : ProjectId) (permission : Permission) :
    Query AccessError Unit := do
  let decision ← checkProject user project permission
  if decision.isGranted then return ()
  else .fail (.permissionDenied permission.name)

/-- Every permission that a user has in a project, in order. -/
def listProject (user : UserId) (projectId : ProjectId) :
    Query AccessError (List Permission) := do
  let project ← project projectId
  let principal ← projectPrincipal user projectId
  if principal.isSystemAdmin || principal.isLegacyAdmin then return Permission.all
  let grants ← Query.look fun t => t.grants.grantsOf project.permissionSchemeId
  return Permission.all.filter fun permission =>
    (principal.resolve ((grants.filter (·.permission == permission)).map (·.grantee))).isGranted

/-- The decision on a global permission. -/
def checkGlobal (user : UserId) (permission : GlobalPermission) : Query AccessError Decision := do
  let roles ← RoleHolding.globalRolesForUser user
  let isSystemAdmin := roles.any (·.kind == .systemAdmin)
  let administrator : GlobalPrincipal := { userId := user, isSystemAdmin }
  if isSystemAdmin then return administrator.resolve []
  let groups ← Query.look fun t => t.accounts.groupsOf user
  let grants ← Query.look fun t => t.grants.globalGrantsOf permission
  let principal := { administrator with globalRoles := roles.map GlobalRole.id, groups }
  return principal.resolve grants

def hasGlobal (user : UserId) (permission : GlobalPermission) : Query AccessError Bool := do
  return (← checkGlobal user permission).isGranted

def requireGlobal (user : UserId) (permission : GlobalPermission) : Query AccessError Unit := do
  let granted ← hasGlobal user permission
  if granted then return ()
  else .fail (.permissionDenied permission.name)

end IssueFlow.Authority
