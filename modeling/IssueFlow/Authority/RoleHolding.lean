import IssueFlow.Authority.Error

/-!
# Who holds a role

A user holds a project role as an actor of it or through a group that is one, and a global role as
a member. Changes go through the store and name what they do not find.
-/

namespace IssueFlow.RoleHolding

def listActors (project : ProjectId) (role : RoleId) : Query AccessError (List Actor) :=
  .look fun t => t.membership.actorsOf project role

/-- Groups are looked up only when the user is no actor and some group is one. -/
def isUserInRole (project : ProjectId) (role : RoleId) (user : UserId) :
    Query AccessError Bool := do
  let actors ← listActors project role
  if actors.contains (.user user) then return true
  if !(actors.any fun actor => actor.type == .group) then return false
  let groups ← Query.look fun t => t.accounts.groupsOf user
  return actors.any (·.isMatchedBy user groups)

/-- The roles that a user with the given groups holds in a project, in ascending order. -/
def roleIdsForUser (project : ProjectId) (user : UserId) (groups : List GroupId) :
    Query AccessError (List RoleId) := do
  let rows ← Query.look fun t => t.membership.projectActors project
  return sortedSet ((rows.filter (·.actor.isMatchedBy user groups)).map (·.roleId))

/-- The stored roles among the given ones, in the given order. -/
def storedRoles : List RoleId → Query AccessError (List ProjectRole)
  | [] => pure []
  | id :: ids => do
    let role ← Query.look fun t => t.membership.roles.get? id
    let others ← storedRoles ids
    return role.toList ++ others

/-- The roles that a user holds in a project, by name. -/
def projectRolesForUser (project : ProjectId) (user : UserId) :
    Query AccessError (List ProjectRole) := do
  let groups ← Query.look fun t => t.accounts.groupsOf user
  let ids ← roleIdsForUser project user groups
  let roles ← storedRoles ids
  return sortBy (fun a b => compare a.name b.name) roles

def listDefaultActors : Query AccessError (List DefaultActor) :=
  .look fun t => t.membership.defaults

def globalRolesForUser (user : UserId) : Query AccessError (List GlobalRole) :=
  .look fun t => t.membership.globalRolesOf user

/-- System administrators are the members of the global role of that kind. -/
def isSystemAdmin (user : UserId) : Query AccessError Bool := do
  let roles ← globalRolesForUser user
  return roles.any (·.kind == .systemAdmin)

def requireRole (role : RoleId) : Query AccessError Unit := do
  let _ ← Query.lookFor (fun t => t.membership.roles.get? role)
    (AccessError.notFound s!"project role {role.text}")
  return ()

def requireGlobalRole (kind : GlobalRoleKind) : Query AccessError GlobalRole :=
  .lookFor (fun t => t.membership.globalRole? kind) (.notFound s!"global role {kind.name}")

end IssueFlow.RoleHolding
