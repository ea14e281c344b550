import IssueFlow.Ident
import IssueFlow.ParseError
import IssueFlow.Permission
import IssueFlow.Timestamp

/-!
# Grants

A permission scheme is a named set of grants of project permissions to subjects. Global
permissions are granted to global roles and groups, or to everyone.
-/

namespace IssueFlow

inductive GranteeType where
  | user
  | group
  | projectRole
  | anyone
  deriving DecidableEq, Repr

namespace GranteeType

def name : GranteeType → String
  | user => "user"
  | group => "group"
  | projectRole => "project_role"
  | anyone => "anyone"

instance : Enumeration GranteeType where
  all := [user, group, projectRole, anyone]
  name := name
  find_name a := by cases a <;> decide

def parse : String → Except ParseError GranteeType :=
  Enumeration.parse .unknownGranteeType

end GranteeType

/-- The subject of a grant. Anyone who can reach the project matches the last one. -/
inductive Grantee where
  | user (id : UserId)
  | group (id : GroupId)
  | projectRole (id : RoleId)
  | anyone
  deriving DecidableEq, Repr

namespace Grantee

def type : Grantee → GranteeType
  | user _ => .user
  | group _ => .group
  | projectRole _ => .projectRole
  | anyone => .anyone

/-- The text of the subject's key; `anyone` has none. -/
def id? : Grantee → Option String
  | user id => some id.text
  | group id => some id.text
  | projectRole id => some id.text
  | anyone => none

/-- The subject of a type and an optional key. -/
def ofParts : GranteeType → Option String → Except ParseError Grantee
  | .user, some id => .ok (user ⟨id⟩)
  | .group, some id => .ok (group ⟨id⟩)
  | .projectRole, some id => .ok (projectRole ⟨id⟩)
  | .anyone, none => .ok anyone
  | .anyone, some _ => .error (.invalidGrantee "anyone grant must not carry a grantee id")
  | type, none => .error (.invalidGrantee s!"{type.name} grant requires a grantee id")

/-- Subjects are ordered by type, then by key. -/
def rank (g : Grantee) : Nat × String :=
  (Enumeration.index g.type, g.id?.getD "")

theorem rank_injective {a b : Grantee} (h : a.rank = b.rank) : a = b := by
  have sameType : a.type = b.type := Enumeration.index_injective (congrArg Prod.fst h)
  have sameText : a.id?.getD "" = b.id?.getD "" := congrArg Prod.snd h
  cases a <;> cases b <;> cases sameType
  case user.user id other | group.group id other | projectRole.projectRole id other =>
    cases id
    cases other
    cases (sameText : _ = _)
    rfl
  case anyone.anyone => rfl

instance : Ord Grantee where
  compare a b := (compare a.rank.1 b.rank.1).then (compare a.rank.2 b.rank.2)

instance : Std.TransOrd Grantee :=
  inferInstanceAs (Std.TransCmp
    (compareLex (compareOn fun g : Grantee => g.rank.1) (compareOn fun g => g.rank.2)))

instance : Std.LawfulEqOrd Grantee where
  compare_self {a} := by
    show (compare a.rank.1 a.rank.1).then (compare a.rank.2 a.rank.2) = .eq
    simp
  eq_of_compare {a b} h := by
    have h : (compare a.rank.1 b.rank.1).then (compare a.rank.2 b.rank.2) = .eq := h
    obtain ⟨first, second⟩ := Ordering.then_eq_eq.1 h
    exact rank_injective (Prod.ext (Std.LawfulEqCmp.eq_of_compare first)
      (Std.LawfulEqCmp.eq_of_compare second))

end Grantee

/-- A named bundle of grants. Every project uses exactly one. -/
structure PermissionScheme where
  id : PermissionSchemeId
  name : String
  description : Option String
  isDefault : Bool
  createdAt : Timestamp
  deriving DecidableEq, Repr

/-- One fact of a scheme: the grantee holds the permission. -/
structure SchemeGrant where
  id : GrantId
  schemeId : PermissionSchemeId
  permission : Permission
  grantee : Grantee
  createdAt : Timestamp
  deriving DecidableEq, Repr

/-- A grant of a global permission to a role, to a group, to the members of either, or to all. -/
structure GlobalGrant where
  id : GlobalGrantId
  permission : GlobalPermission
  globalRoleId : Option GlobalRoleId
  groupId : Option GroupId
  createdAt : Timestamp
  deriving DecidableEq, Repr

/-- A grant that names neither a role nor a group is open to everyone. -/
def GlobalGrant.isOpen (grant : GlobalGrant) : Bool :=
  grant.globalRoleId.isNone && grant.groupId.isNone

end IssueFlow
