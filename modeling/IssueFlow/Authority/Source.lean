import IssueFlow.Grant
import IssueFlow.Role

/-!
# Sources of permission

What is known of a user is gathered into a principal. Each source of permission is a predicate on
the principal and the grants; they are tried in order and the first that holds grants.
-/

namespace IssueFlow

/-- Where a positive answer comes from, in order of precedence. -/
inductive GrantSource where
  | systemAdmin
  | legacyAdmin
  | directUser
  | group
  | projectRole
  | globalRole
  | anyone
  deriving DecidableEq, Repr

namespace GrantSource

def name : GrantSource → String
  | systemAdmin => "system_admin"
  | legacyAdmin => "legacy_admin"
  | directUser => "direct_user"
  | group => "group"
  | projectRole => "project_role"
  | globalRole => "global_role"
  | anyone => "anyone"

instance : Enumeration GrantSource where
  all := [systemAdmin, legacyAdmin, directUser, group, projectRole, globalRole, anyone]
  name := name
  find_name a := by cases a <;> decide

instance : Ord GrantSource := ⟨Enumeration.compare⟩

end GrantSource

inductive Decision where
  | granted (source : GrantSource)
  | denied
  deriving DecidableEq, Repr

namespace Decision

def isGranted : Decision → Bool
  | granted _ => true
  | denied => false

def source? : Decision → Option GrantSource
  | granted source => some source
  | denied => none

/-- The first source that holds. -/
def first (sources : List (GrantSource × Bool)) : Decision :=
  match sources.find? (·.2) with
  | some (source, _) => granted source
  | none => denied

theorem isGranted_first (sources : List (GrantSource × Bool)) :
    (first sources).isGranted = sources.any (·.2) := by
  simp only [first]
  split
  · next source holds found =>
    have := List.find?_some found
    simp only [isGranted]
    exact (List.any_eq_true.2 ⟨_, List.mem_of_find?_eq_some found, this⟩).symm
  · next absent =>
    simp only [isGranted]
    exact (List.any_eq_false.2 fun x hx => by simpa using List.find?_eq_none.1 absent x hx).symm

end Decision

/-- What is known of a user within a project. -/
structure ProjectPrincipal where
  userId : UserId
  isSystemAdmin : Bool := false
  isLegacyAdmin : Bool := false
  groups : List GroupId := []
  /-- The roles held in this project, directly or through a group. -/
  roles : List RoleId := []
  deriving DecidableEq, Repr

namespace ProjectPrincipal

variable (principal : ProjectPrincipal) (grantees : List Grantee)

def isNamed : Bool :=
  grantees.any fun
    | .user id => id == principal.userId
    | _ => false

def isInGroup : Bool :=
  grantees.any fun
    | .group id => principal.groups.contains id
    | _ => false

def isInRole : Bool :=
  grantees.any fun
    | .projectRole id => principal.roles.contains id
    | _ => false

/-- The sources of project permission in order, and whether each holds. -/
def sources : List (GrantSource × Bool) :=
  [(.systemAdmin, principal.isSystemAdmin),
    (.legacyAdmin, principal.isLegacyAdmin),
    (.directUser, principal.isNamed grantees),
    (.group, principal.isInGroup grantees),
    (.projectRole, principal.isInRole grantees),
    (.anyone, grantees.contains .anyone)]

/-- Whether the principal has a permission that these grantees have. -/
def resolve : Decision :=
  .first (principal.sources grantees)

end ProjectPrincipal

/-- What is known of a user outside any project. -/
structure GlobalPrincipal where
  userId : UserId
  isSystemAdmin : Bool := false
  globalRoles : List GlobalRoleId := []
  groups : List GroupId := []
  deriving DecidableEq, Repr

namespace GlobalPrincipal

variable (principal : GlobalPrincipal) (grants : List GlobalGrant)

def isInRole : Bool :=
  grants.any fun grant => grant.globalRoleId.any principal.globalRoles.contains

def isInGroup : Bool :=
  grants.any fun grant => grant.groupId.any principal.groups.contains

/-- The sources of global permission in order, and whether each holds. -/
def sources : List (GrantSource × Bool) :=
  [(.systemAdmin, principal.isSystemAdmin),
    (.globalRole, principal.isInRole grants),
    (.group, principal.isInGroup grants),
    (.anyone, grants.any (·.isOpen))]

/-- Whether the principal has a permission that these rows grant. -/
def resolve : Decision :=
  .first (principal.sources grants)

end GlobalPrincipal

end IssueFlow
