import IssueFlow.Authority.RoleHolding
import IssueFlow.Store.Program

/-!
# Changing who holds a role
-/

namespace IssueFlow.RoleHolding

/-- Gives an existing project the default actors that it lacks. -/
def copyDefaultsToProject (project : ProjectId) : Program AccessError Nat := do
  let _ ← Program.ask (Query.lookFor (fun t => t.projects.get? project)
    (AccessError.notFound s!"project {project.text}"))
  Program.write fun now => Tables.onMembership (Membership.copyDefaults project now)

def addActor (project : ProjectId) (role : RoleId) (actor : Actor) : Program AccessError Bool := do
  Program.ask (requireRole role)
  Program.write fun now => Tables.onMembership (Membership.addActor project role actor now)

def removeActor (project : ProjectId) (role : RoleId) (actor : Actor) :
    Program AccessError Unit := do
  let removed ← Program.write fun _ =>
    Tables.onMembership (Membership.removeActor project role actor)
  Program.orElseFail removed
    (.notFound s!"{actor.type.name} actor {actor.id} in role {role.text}")

def addDefaultActor (role : RoleId) (actor : Actor) : Program AccessError Bool := do
  Program.ask (requireRole role)
  Program.write fun now => Tables.onMembership (Membership.addDefault role actor now)

def removeDefaultActor (role : RoleId) (actor : Actor) : Program AccessError Unit := do
  let removed ← Program.write fun _ => Tables.onMembership (Membership.removeDefault role actor)
  Program.orElseFail removed (.notFound s!"default actor {actor.id} in role {role.text}")

def addGlobalRoleMember (kind : GlobalRoleKind) (user : UserId) : Program AccessError Bool := do
  let role ← Program.ask (requireGlobalRole kind)
  Program.write fun _ => Tables.onMembership (Membership.addGlobalMember role.id user)

def removeGlobalRoleMember (kind : GlobalRoleKind) (user : UserId) :
    Program AccessError Unit := do
  let role ← Program.ask (requireGlobalRole kind)
  let removed ← Program.write fun _ =>
    Tables.onMembership (Membership.removeGlobalMember role.id user)
  Program.orElseFail removed (.notFound s!"user {user.text} in global role {kind.name}")

end IssueFlow.RoleHolding
