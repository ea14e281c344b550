import IssueFlow.Role
import IssueFlow.Store.Change
import IssueFlow.Store.Table

/-!
# Role tables

Project roles with their actors in each project and the actors that new projects start with, and
the global roles with their members.
-/

namespace IssueFlow

instance : Keyed ProjectRole RoleId := ⟨ProjectRole.id⟩
instance : Keyed GlobalRole GlobalRoleId := ⟨GlobalRole.id⟩
instance : Keyed (GlobalRoleId × UserId) (GlobalRoleId × UserId) := ⟨id⟩

structure Membership where
  roles : Table ProjectRole := {}
  actors : List RoleActor := []
  defaults : List DefaultActor := []
  globalRoles : Table GlobalRole := {}
  globalMembers : Table (GlobalRoleId × UserId) := {}
  deriving DecidableEq

def RoleActor.isFor (row : RoleActor) (project : ProjectId) (role : RoleId) (actor : Actor) :
    Bool :=
  row.projectId == project && row.roleId == role && row.actor == actor

def DefaultActor.isFor (row : DefaultActor) (role : RoleId) (actor : Actor) : Bool :=
  row.roleId == role && row.actor == actor

namespace Membership

/-- A role needs a new key and a new name. -/
def createRole (role : ProjectRole) : Change Membership Unit := do
  let t ← get
  require (!(t.roles.contains role.id || t.roles.rows.any (·.name == role.name)))
    (.conflict s!"project role {role.name} already exists")
  set { t with roles := t.roles.put role }

def listRoles (t : Membership) : List ProjectRole :=
  sortBy (fun a b => compare a.name b.name) t.roles.rows

def requireRole (t : Membership) (role : RoleId) : Except StorageError Unit :=
  require (t.roles.contains role) (.notFound s!"project role {role.text} not found")

def hasActor (t : Membership) (project : ProjectId) (role : RoleId) (actor : Actor) : Bool :=
  t.actors.any (·.isFor project role actor)

/-- Answers whether the actor is new. -/
def addActor (project : ProjectId) (role : RoleId) (actor : Actor) (now : Timestamp) :
    Change Membership Bool := do
  let t ← get
  t.requireRole role
  if t.hasActor project role actor then return false
  let row : RoleActor := ⟨project, role, actor, now⟩
  set { t with actors := t.actors ++ [row] }
  return true

/-- Answers whether there was such an actor. -/
def removeActor (project : ProjectId) (role : RoleId) (actor : Actor) :
    Change Membership Bool := do
  let t ← get
  let (found, rest) := removeWhere (·.isFor project role actor) t.actors
  set { t with actors := rest }
  return found

/-- The actors of a role in a project in ascending order. -/
def actorsOf (t : Membership) (project : ProjectId) (role : RoleId) : List Actor :=
  sortBy compare
    ((t.actors.filter fun a => a.projectId == project && a.roleId == role).map (·.actor))

/-- All actors of a project, in the order in which they were added. -/
def projectActors (t : Membership) (project : ProjectId) : List RoleActor :=
  t.actors.filter (·.projectId == project)

def addDefault (role : RoleId) (actor : Actor) (now : Timestamp) : Change Membership Bool := do
  let t ← get
  t.requireRole role
  if t.defaults.any (·.isFor role actor) then return false
  let row : DefaultActor := ⟨role, actor, now⟩
  set { t with defaults := t.defaults ++ [row] }
  return true

def removeDefault (role : RoleId) (actor : Actor) : Change Membership Bool := do
  let t ← get
  let (found, rest) := removeWhere (·.isFor role actor) t.defaults
  set { t with defaults := rest }
  return found

/-- The default actors that a project lacks, as actors of that project. -/
def missingDefaults (t : Membership) (project : ProjectId) (now : Timestamp) : List RoleActor :=
  (t.defaults.filter fun d => !t.hasActor project d.roleId d.actor).map fun d =>
    ⟨project, d.roleId, d.actor, now⟩

/-- Gives a project the default actors that it lacks and answers how many those are. -/
def copyDefaults (project : ProjectId) (now : Timestamp) : Change Membership Nat := do
  let t ← get
  let missing := t.missingDefaults project now
  set { t with actors := t.actors ++ missing }
  return missing.length

/-- Only the kind of a global role must be new. -/
def createGlobalRole (role : GlobalRole) : Change Membership Unit := do
  let t ← get
  require (!t.globalRoles.rows.any (·.kind == role.kind))
    (.conflict s!"global role {role.kind.name} already exists")
  set { t with globalRoles := t.globalRoles.put role }

def globalRole? (t : Membership) (kind : GlobalRoleKind) : Option GlobalRole :=
  t.globalRoles.rows.find? (·.kind == kind)

/-- Answers whether the member is new. -/
def addGlobalMember (role : GlobalRoleId) (user : UserId) : Change Membership Bool := do
  let t ← get
  require (t.globalRoles.contains role) (.notFound s!"global role {role.text} not found")
  set { t with globalMembers := t.globalMembers.put (role, user) }
  return !t.globalMembers.contains (role, user)

def removeGlobalMember (role : GlobalRoleId) (user : UserId) : Change Membership Bool := do
  let t ← get
  set { t with globalMembers := t.globalMembers.erase (role, user) }
  return t.globalMembers.contains (role, user)

/-- The global roles of a user by kind. -/
def globalRolesOf (t : Membership) (user : UserId) : List GlobalRole :=
  sortBy (fun a b => compare a.kind b.kind)
    ((sortBy compare ((t.globalMembers.rows.filter (·.2 == user)).map Prod.fst)).filterMap
      t.globalRoles.get?)

end Membership

end IssueFlow
