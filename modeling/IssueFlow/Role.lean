import IssueFlow.Ident
import IssueFlow.ParseError
import IssueFlow.Timestamp

/-!
# Roles

A project role is a named set of actors, users and groups, with its own members in every project.
Global roles are fixed in number and hold users.
-/

namespace IssueFlow

/-- The roles of a fresh installation. -/
def defaultProjectRoles : List String :=
  ["Administrators", "Developers", "Viewers"]

structure ProjectRole where
  id : RoleId
  name : String
  description : Option String
  createdAt : Timestamp
  deriving DecidableEq, Repr

inductive ActorType where
  | user
  | group
  deriving DecidableEq, Repr

namespace ActorType

def name : ActorType → String
  | user => "user"
  | group => "group"

instance : Enumeration ActorType where
  all := [user, group]
  name := name
  find_name a := by cases a <;> decide

end ActorType

/-- A member of a role: one user, or every member of a group. -/
inductive Actor where
  | user (id : UserId)
  | group (id : GroupId)
  deriving DecidableEq, Repr

namespace Actor

def type : Actor → ActorType
  | user _ => .user
  | group _ => .group

def id : Actor → String
  | user id => id.text
  | group id => id.text

/-- Actors are ordered by type, then by key. -/
instance : Ord Actor where
  compare a b :=
    (compare (Enumeration.index a.type) (Enumeration.index b.type)).then (compare a.id b.id)

/-- Whether a user with the given groups is meant by an actor. -/
def isMatchedBy (actor : Actor) (user : UserId) (groups : List GroupId) : Bool :=
  match actor with
  | .user id => id == user
  | .group id => groups.contains id

end Actor

/-- An actor of a role in one project. -/
structure RoleActor where
  projectId : ProjectId
  roleId : RoleId
  actor : Actor
  createdAt : Timestamp
  deriving DecidableEq, Repr

/-- An actor that is copied into projects. -/
structure DefaultActor where
  roleId : RoleId
  actor : Actor
  createdAt : Timestamp
  deriving DecidableEq, Repr

inductive GlobalRoleKind where
  | systemAdmin
  | admin
  | user
  deriving DecidableEq, Repr

namespace GlobalRoleKind

def name : GlobalRoleKind → String
  | systemAdmin => "system_admin"
  | admin => "admin"
  | user => "user"

def all : List GlobalRoleKind :=
  [systemAdmin, admin, user]

instance : Enumeration GlobalRoleKind where
  all := all
  name := name
  find_name a := by cases a <;> decide

instance : Ord GlobalRoleKind := ⟨Enumeration.compare⟩

def parse : String → Except ParseError GlobalRoleKind :=
  Enumeration.parse .unknownGlobalRole

/-- The name that a role of this kind is given. -/
def title : GlobalRoleKind → String
  | systemAdmin => "System Administrators"
  | admin => "Administrators"
  | user => "Users"

end GlobalRoleKind

structure GlobalRole where
  id : GlobalRoleId
  kind : GlobalRoleKind
  name : String
  deriving DecidableEq, Repr

/-- The role of a kind, under the name of the kind. -/
def GlobalRole.ofKind (id : GlobalRoleId) (kind : GlobalRoleKind) : GlobalRole :=
  ⟨id, kind, kind.title⟩

end IssueFlow
