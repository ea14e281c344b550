import IssueFlow.Grant
import IssueFlow.Store.Change
import IssueFlow.Store.Table

/-!
# Grant tables

Schemes have distinct names and at most one of them is the default. Granting what is granted
already answers the row that is there. Rows get keys from a running number.
-/

namespace IssueFlow

instance : Keyed PermissionScheme PermissionSchemeId := ⟨PermissionScheme.id⟩

structure Grants where
  schemes : Table PermissionScheme := {}
  grants : List SchemeGrant := []
  globalGrants : List GlobalGrant := []
  /-- How many scheme grants and global grants have been made. -/
  grantCount : Nat := 0
  globalGrantCount : Nat := 0
  deriving DecidableEq

/-- Whether a row grants a permission to a grantee in a scheme. -/
def SchemeGrant.isFor (grant : SchemeGrant) (scheme : PermissionSchemeId) (permission : Permission)
    (grantee : Grantee) : Bool :=
  grant.schemeId == scheme && grant.permission == permission && grant.grantee == grantee

/-- Whether a row grants a global permission to just this role and group. -/
def GlobalGrant.isFor (grant : GlobalGrant) (permission : GlobalPermission)
    (role : Option GlobalRoleId) (group : Option GroupId) : Bool :=
  grant.permission == permission && grant.globalRoleId == role && grant.groupId == group

namespace Grants

def createScheme (scheme : PermissionScheme) : Change Grants Unit := do
  let t ← get
  require (!t.schemes.contains scheme.id)
    (.conflict s!"permission scheme {scheme.id.text} already exists")
  require (!t.schemes.rows.any (·.name == scheme.name))
    (.conflict s!"permission scheme named {scheme.name} already exists")
  require (!(scheme.isDefault && t.schemes.rows.any (·.isDefault)))
    (.conflict "a default permission scheme already exists")
  set { t with schemes := t.schemes.put scheme }

def listSchemes (t : Grants) : List PermissionScheme :=
  sortBy (defaultThenName (·.isDefault) (·.name)) t.schemes.rows

def defaultScheme? (t : Grants) : Option PermissionScheme :=
  t.schemes.rows.find? (·.isDefault)

def grant (scheme : PermissionSchemeId) (permission : Permission) (grantee : Grantee)
    (now : Timestamp) : Change Grants SchemeGrant := do
  let t ← get
  require (t.schemes.contains scheme) (.notFound s!"permission scheme {scheme.text} not found")
  match t.grants.find? (·.isFor scheme permission grantee) with
  | some existing => return existing
  | none =>
    let row : SchemeGrant :=
      ⟨⟨s!"G{t.grantCount + 1}"⟩, scheme, permission, grantee, now⟩
    set { t with grants := t.grants ++ [row], grantCount := t.grantCount + 1 }
    return row

/-- Answers whether there was such a grant. -/
def revoke (scheme : PermissionSchemeId) (permission : Permission) (grantee : Grantee) :
    Change Grants Bool := do
  let t ← get
  let (found, rest) := removeWhere (·.isFor scheme permission grantee) t.grants
  set { t with grants := rest }
  return found

/-- The grants of a scheme by the name of the permission, then by grantee. -/
def grantsOf (t : Grants) (scheme : PermissionSchemeId) : List SchemeGrant :=
  sortBy (fun a b => (compare a.permission.name b.permission.name).then
    (compare a.grantee b.grantee)) (t.grants.filter (·.schemeId == scheme))

/-- Who holds a permission in a scheme, in the order of granting. -/
def granteesOf (t : Grants) (scheme : PermissionSchemeId) (permission : Permission) :
    List Grantee :=
  (t.grants.filter fun g => g.schemeId == scheme && g.permission == permission).map (·.grantee)

def grantGlobal (permission : GlobalPermission) (role : Option GlobalRoleId)
    (group : Option GroupId) (now : Timestamp) : Change Grants GlobalGrant := do
  let t ← get
  match t.globalGrants.find? (·.isFor permission role group) with
  | some existing => return existing
  | none =>
    let row : GlobalGrant := ⟨⟨s!"GG{t.globalGrantCount + 1}"⟩, permission, role, group, now⟩
    set { t with
      globalGrants := t.globalGrants ++ [row], globalGrantCount := t.globalGrantCount + 1 }
    return row

/-- Answers whether there was such a row. -/
def revokeGlobal (id : GlobalGrantId) : Change Grants Bool := do
  let t ← get
  let (found, rest) := removeWhere (fun g : GlobalGrant => g.id == id) t.globalGrants
  set { t with globalGrants := rest }
  return found

def globalGrantsOf (t : Grants) (permission : GlobalPermission) : List GlobalGrant :=
  t.globalGrants.filter (·.permission == permission)

end Grants

end IssueFlow
