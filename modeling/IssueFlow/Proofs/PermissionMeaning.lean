import IssueFlow.Proofs.Computation
import IssueFlow.Proofs.TableLaws

/-!
# The meaning of a permission

Who may do something in a project, said of the rows of the tables alone (`Tables.MayIn`), and the
checks that answer just that.
-/

namespace IssueFlow

namespace Tables

def IsMember (t : Tables) (user : UserId) (group : GroupId) : Prop :=
  (group, user) ∈ t.accounts.members.rows

/-- An actor stands for the user, or for a group that the user is a member of. -/
def StandsFor (t : Tables) (user : UserId) : Actor → Prop
  | .user id => id = user
  | .group id => t.IsMember user id

def HoldsRole (t : Tables) (project : ProjectId) (role : RoleId) (user : UserId) : Prop :=
  ∃ row ∈ t.membership.actors, row.projectId = project ∧ row.roleId = role ∧
    t.StandsFor user row.actor

/-- A grant to the grantee reaches the user. -/
def Covers (t : Tables) (project : ProjectId) (user : UserId) : Grantee → Prop
  | .user id => id = user
  | .group id => t.IsMember user id
  | .projectRole role => t.HoldsRole project role user
  | .anyone => True

def IsSystemAdmin (t : Tables) (user : UserId) : Prop :=
  ∃ role ∈ t.membership.globalRoles.rows, role.kind = .systemAdmin ∧
    (role.id, user) ∈ t.membership.globalMembers.rows

def IsLegacyAdmin (t : Tables) (user : UserId) : Prop :=
  ∃ account ∈ t.accounts.users.rows, account.id = user ∧ account.isLegacyAdmin = true

/-- A grant of the project's scheme gives the user the permission. -/
def IsGranted (t : Tables) (user : UserId) (project : Project) (permission : Permission) : Prop :=
  ∃ grant ∈ t.grants.grants, grant.schemeId = project.permissionSchemeId ∧
    grant.permission = permission ∧ t.Covers project.id user grant.grantee

/-- The user has the permission in the project. -/
def MayIn (t : Tables) (user : UserId) (project : Project) (permission : Permission) : Prop :=
  t.IsSystemAdmin user ∨ t.IsLegacyAdmin user ∨ t.IsGranted user project permission

def HoldsGlobalRole (t : Tables) (user : UserId) (id : GlobalRoleId) : Prop :=
  ∃ role ∈ t.membership.globalRoles.rows, role.id = id ∧
    (id, user) ∈ t.membership.globalMembers.rows

/-- A global grant reaches the members of its role and those of its group, or everyone when it names
neither. -/
def Reaches (t : Tables) (user : UserId) (grant : GlobalGrant) : Prop :=
  (∃ role, grant.globalRoleId = some role ∧ t.HoldsGlobalRole user role) ∨
    (∃ group, grant.groupId = some group ∧ t.IsMember user group) ∨ grant.isOpen = true

/-- The user has the global permission. -/
def MayGlobally (t : Tables) (user : UserId) (permission : GlobalPermission) : Prop :=
  t.IsSystemAdmin user ∨
    ∃ grant ∈ t.grants.globalGrants, grant.permission = permission ∧ t.Reaches user grant

end Tables

section Listings

variable {t : Tables} {user : UserId}

theorem mem_groupsOf {group : GroupId} :
    group ∈ t.accounts.groupsOf user ↔ t.IsMember user group := by
  simp [Accounts.groupsOf, Tables.IsMember]

private theorem isMatchedBy_iff {actor : Actor} :
    actor.isMatchedBy user (t.accounts.groupsOf user) = true ↔ t.StandsFor user actor := by
  cases actor with
  | user id => simp [Actor.isMatchedBy, Tables.StandsFor]
  | group id => simp [Actor.isMatchedBy, Tables.StandsFor, mem_groupsOf]

private theorem mem_globalRolesOf {role : GlobalRole} :
    role ∈ t.membership.globalRolesOf user ↔
      role ∈ t.membership.globalRoles.rows ∧
        (role.id, user) ∈ t.membership.globalMembers.rows := by
  simp only [Membership.globalRolesOf, mem_sortBy, List.mem_filterMap, List.mem_map,
    List.mem_filter, Table.get?_eq_some_iff]
  constructor
  · rintro ⟨id, ⟨⟨held, holder⟩, ⟨member, same⟩, rfl⟩, stored, rfl⟩
    have same : holder = user := by simpa using same
    subst same
    exact ⟨stored, member⟩
  · rintro ⟨stored, member⟩
    exact ⟨role.id, ⟨(role.id, user), ⟨member, by simp⟩, rfl⟩, stored, rfl⟩

private theorem mem_globalRoleIds {id : GlobalRoleId} :
    id ∈ (t.membership.globalRolesOf user).map GlobalRole.id ↔ t.HoldsGlobalRole user id := by
  simp only [List.mem_map, mem_globalRolesOf, Tables.HoldsGlobalRole]
  constructor
  · rintro ⟨role, ⟨stored, member⟩, rfl⟩
    exact ⟨role, stored, rfl, member⟩
  · rintro ⟨role, stored, rfl, member⟩
    exact ⟨role, ⟨stored, member⟩, rfl⟩

private theorem any_systemAdmin_iff :
    (t.membership.globalRolesOf user).any (·.kind == .systemAdmin) = true ↔
      t.IsSystemAdmin user := by
  simp only [List.any_eq_true, mem_globalRolesOf, beq_iff_eq, Tables.IsSystemAdmin]
  constructor
  · rintro ⟨role, ⟨stored, member⟩, kind⟩
    exact ⟨role, stored, kind, member⟩
  · rintro ⟨role, stored, kind, member⟩
    exact ⟨role, ⟨stored, member⟩, kind⟩

private theorem any_legacyAdmin_iff :
    (t.accounts.users.get? user).any (·.isLegacyAdmin) = true ↔ t.IsLegacyAdmin user := by
  simp only [Option.any_eq_true, Table.get?_eq_some_iff, Tables.IsLegacyAdmin, and_assoc]
  rfl

theorem mem_granteesOf {scheme : PermissionSchemeId} {permission : Permission}
    {grantee : Grantee} :
    grantee ∈ t.grants.granteesOf scheme permission ↔
      ∃ grant ∈ t.grants.grants, grant.schemeId = scheme ∧ grant.permission = permission ∧
        grant.grantee = grantee := by
  simp [Grants.granteesOf, and_assoc]

/-- The roles of a user in a project, from the rows of its actors. -/
theorem mem_roles_iff {project : ProjectId} {role : RoleId} :
    role ∈ sortedSet (((t.membership.projectActors project).filter
        (·.actor.isMatchedBy user (t.accounts.groupsOf user))).map (·.roleId)) ↔
      t.HoldsRole project role user := by
  simp only [mem_sortedSet, List.mem_map, List.mem_filter, Membership.projectActors,
    isMatchedBy_iff, beq_iff_eq, Tables.HoldsRole]
  constructor
  · rintro ⟨row, ⟨⟨stored, same⟩, stands⟩, held⟩
    exact ⟨row, stored, same, held, stands⟩
  · rintro ⟨row, stored, same, held, stands⟩
    exact ⟨row, ⟨⟨stored, same⟩, stands⟩, held⟩

private theorem holdsRole_iff {project : ProjectId} {role : RoleId} :
    t.HoldsRole project role user ↔
      ∃ actor ∈ t.membership.actorsOf project role, t.StandsFor user actor := by
  simp only [Membership.actorsOf, mem_sortBy, List.mem_map, List.mem_filter, Bool.and_eq_true,
    beq_iff_eq, Tables.HoldsRole]
  constructor
  · rintro ⟨row, stored, inProject, ofRole, stands⟩
    exact ⟨row.actor, ⟨row, ⟨stored, inProject, ofRole⟩, rfl⟩, stands⟩
  · rintro ⟨_, ⟨row, ⟨stored, inProject, ofRole⟩, rfl⟩, stands⟩
    exact ⟨row, stored, inProject, ofRole, stands⟩

end Listings

/-- What a principal says of a user who is no system administrator is so. -/
structure ProjectPrincipal.Knows (principal : ProjectPrincipal) (t : Tables) (user : UserId)
    (project : ProjectId) : Prop where
  userId : principal.userId = user
  ordinary : principal.isSystemAdmin = false
  legacyAdmin : principal.isLegacyAdmin = true ↔ t.IsLegacyAdmin user
  groups : ∀ group, group ∈ principal.groups ↔ t.IsMember user group
  roles : ∀ role, role ∈ principal.roles ↔ t.HoldsRole project role user

private theorem resolve_of_systemAdmin {principal : ProjectPrincipal}
    (admin : principal.isSystemAdmin = true) (grantees : List Grantee) :
    (principal.resolve grantees).isGranted = true := by
  simp [ProjectPrincipal.resolve, Decision.isGranted_first, ProjectPrincipal.sources, admin]

section Sources

variable {principal : ProjectPrincipal} {t : Tables} {user : UserId} {project : ProjectId}
  (knows : principal.Knows t user project) (grantees : List Grantee)

include knows

theorem isNamed_iff : principal.isNamed grantees = true ↔ .user user ∈ grantees := by
  rw [ProjectPrincipal.isNamed, List.any_eq_true]
  constructor
  · rintro ⟨grantee, member, same⟩
    cases grantee with
    | user id =>
      have same : id = user := (beq_iff_eq.1 same).trans knows.userId
      rwa [same] at member
    | group | projectRole | anyone => cases same
  · intro member
    exact ⟨_, member, beq_iff_eq.2 knows.userId.symm⟩

theorem isInGroup_iff :
    principal.isInGroup grantees = true ↔ ∃ group, .group group ∈ grantees ∧
      t.IsMember user group := by
  rw [ProjectPrincipal.isInGroup, List.any_eq_true]
  constructor
  · rintro ⟨grantee, member, same⟩
    cases grantee with
    | group id => exact ⟨id, member, (knows.groups id).1 (List.contains_iff_mem.1 same)⟩
    | user | projectRole | anyone => cases same
  · rintro ⟨id, member, held⟩
    exact ⟨_, member, List.contains_iff_mem.2 ((knows.groups id).2 held)⟩

theorem isInRole_iff :
    principal.isInRole grantees = true ↔ ∃ role, .projectRole role ∈ grantees ∧
      t.HoldsRole project role user := by
  rw [ProjectPrincipal.isInRole, List.any_eq_true]
  constructor
  · rintro ⟨grantee, member, same⟩
    cases grantee with
    | projectRole id => exact ⟨id, member, (knows.roles id).1 (List.contains_iff_mem.1 same)⟩
    | user | group | anyone => cases same
  · rintro ⟨id, member, held⟩
    exact ⟨_, member, List.contains_iff_mem.2 ((knows.roles id).2 held)⟩

/-- One of the sources that look at the grantees holds when one of them covers the user. -/
private theorem covered_iff :
    (principal.isNamed grantees = true ∨ principal.isInGroup grantees = true ∨
        principal.isInRole grantees = true ∨ grantees.contains .anyone = true) ↔
      ∃ grantee ∈ grantees, t.Covers project user grantee := by
  rw [isNamed_iff knows, isInGroup_iff knows, isInRole_iff knows, List.contains_iff_mem]
  constructor
  · rintro (named | ⟨group, member, held⟩ | ⟨role, member, held⟩ | anyone)
    · exact ⟨_, named, rfl⟩
    · exact ⟨_, member, held⟩
    · exact ⟨_, member, held⟩
    · exact ⟨_, anyone, trivial⟩
  · rintro ⟨grantee, member, covers⟩
    cases grantee with
    | user id =>
      have same : id = user := covers
      exact .inl (same ▸ member)
    | group id => exact .inr (.inl ⟨id, member, covers⟩)
    | projectRole id => exact .inr (.inr (.inl ⟨id, member, covers⟩))
    | anyone => exact .inr (.inr (.inr member))

private theorem resolve_isGranted_iff :
    (principal.resolve grantees).isGranted = true ↔
      t.IsLegacyAdmin user ∨ ∃ grantee ∈ grantees, t.Covers project user grantee := by
  rw [← covered_iff knows, ← knows.legacyAdmin]
  simp only [ProjectPrincipal.resolve, Decision.isGranted_first, ProjectPrincipal.sources,
    List.any_cons, List.any_nil, knows.ordinary, Bool.or_eq_true, Bool.false_or, Bool.or_false]

end Sources

/-- From the grantees of a permission it is decided whether a user has it who is no system
administrator. -/
theorem resolve_isGranted_iff_mayIn {principal : ProjectPrincipal} {t : Tables} {user : UserId}
    {project : Project} {permission : Permission} {grantees : List Grantee}
    (knows : principal.Knows t user project.id) (ordinary : ¬ t.IsSystemAdmin user)
    (lists : ∀ grantee, grantee ∈ grantees ↔ ∃ grant ∈ t.grants.grants,
      grant.schemeId = project.permissionSchemeId ∧ grant.permission = permission ∧
        grant.grantee = grantee) :
    (principal.resolve grantees).isGranted = true ↔ t.MayIn user project permission := by
  rw [resolve_isGranted_iff knows, Tables.MayIn, Tables.IsGranted]
  simp only [lists, ordinary, false_or]
  constructor
  · rintro (legacy | ⟨grantee, ⟨grant, listed, scheme, same, rfl⟩, covers⟩)
    · exact .inl legacy
    · exact .inr ⟨grant, listed, scheme, same, covers⟩
  · rintro (legacy | ⟨grant, listed, scheme, same, covers⟩)
    · exact .inl legacy
    · exact .inr ⟨grant.grantee, ⟨grant, listed, scheme, same, rfl⟩, covers⟩

/-- From the global grants of a permission it is decided whether one of them reaches a user who is
no system administrator. -/
private theorem resolve_global_iff {principal : GlobalPrincipal} {t : Tables} {user : UserId}
    {permission : GlobalPermission} (gathered : principal =
      { userId := user
        globalRoles := (t.membership.globalRolesOf user).map GlobalRole.id
        groups := t.accounts.groupsOf user }) :
    (principal.resolve (t.grants.globalGrantsOf permission)).isGranted = true ↔
      ∃ grant ∈ t.grants.globalGrants, grant.permission = permission ∧ t.Reaches user grant := by
  subst gathered
  simp only [GlobalPrincipal.resolve, Decision.isGranted_first, GlobalPrincipal.sources,
    GlobalPrincipal.isInRole, GlobalPrincipal.isInGroup, Grants.globalGrantsOf, List.any_cons,
    List.any_nil, Bool.or_eq_true, Bool.false_or, Bool.or_false, List.any_eq_true, List.mem_filter,
    beq_iff_eq, Option.any_eq_true, List.contains_iff_mem, mem_globalRoleIds, mem_groupsOf,
    Tables.Reaches, and_assoc, ← exists_or, ← and_or_left]

section Checks

variable {store : Store} (available : store.unavailable = false)

include available

theorem isSystemAdmin_run (user : UserId) :
    ∃ admin, (RoleHolding.isSystemAdmin user).run store = .ok admin ∧
      (admin = true ↔ store.tables.IsSystemAdmin user) := by
  refine ⟨_, Query.bind_run_of_ok (Query.look_run available _), any_systemAdmin_iff⟩

theorem roleIdsForUser_run (project : ProjectId) (user : UserId) (groups : List GroupId) :
    (RoleHolding.roleIdsForUser project user groups).run store =
      .ok (sortedSet (((store.tables.membership.projectActors project).filter
        (·.actor.isMatchedBy user groups)).map (·.roleId))) :=
  Query.bind_run_of_ok (Query.look_run available _)

/-- The principal of a user is that of a system administrator, or says of the user what is so. -/
theorem projectPrincipal_run (user : UserId) (project : ProjectId) :
    ∃ principal, (Authority.projectPrincipal user project).run store = .ok principal ∧
      (principal.isSystemAdmin = true ↔ store.tables.IsSystemAdmin user) ∧
      (principal.isSystemAdmin = false → principal.Knows store.tables user project) := by
  obtain ⟨admin, answered, meaning⟩ := isSystemAdmin_run available user
  rw [Authority.projectPrincipal, Query.bind_run_of_ok answered]
  cases admin with
  | true =>
    refine ⟨_, rfl, meaning, ?_⟩
    intro ordinary
    cases ordinary
  | false =>
    rw [if_neg Bool.false_ne_true, Query.bind_run_of_ok (Query.look_run available _),
      Query.bind_run_of_ok (Query.look_run available _),
      Query.bind_run_of_ok (roleIdsForUser_run available ..)]
    refine ⟨_, rfl, meaning, fun _ => ?_⟩
    exact ⟨rfl, rfl, any_legacyAdmin_iff, fun _ => mem_groupsOf, fun _ => mem_roles_iff⟩

/-- In a stored project a check decides just whether the user has the permission. -/
theorem checkProject_run {id : ProjectId} {project : Project}
    (stored : store.tables.projects.get? id = some project) (user : UserId)
    (permission : Permission) :
    ∃ decision, (Authority.checkProject user id permission).run store = .ok decision ∧
      (decision.isGranted = true ↔ store.tables.MayIn user project permission) := by
  have found : (Authority.project id).run store = .ok project :=
    (Query.lookFor_run_eq_ok_iff available).2 stored
  obtain ⟨principal, answered, meaning, knows⟩ := projectPrincipal_run available user id
  rw [Authority.checkProject, Query.bind_run_of_ok found, Query.bind_run_of_ok answered]
  cases admin : principal.isSystemAdmin with
  | true =>
    refine ⟨_, rfl, ?_⟩
    rw [resolve_of_systemAdmin admin]
    exact ⟨fun _ => .inl (meaning.1 admin), fun _ => rfl⟩
  | false =>
    have ordinary : ¬ store.tables.IsSystemAdmin user := by
      rw [← meaning, admin]
      exact Bool.false_ne_true
    obtain rfl : project.id = id := Table.key_of_get? stored
    rw [if_neg Bool.false_ne_true, Query.bind_run_of_ok (Query.look_run available _)]
    exact ⟨_, rfl, resolve_isGranted_iff_mayIn (knows admin) ordinary fun _ => mem_granteesOf⟩

/-- A check that grants has found the project and the permission there. -/
private theorem checkProject_granted_iff {user : UserId} {id : ProjectId}
    {permission : Permission} :
    (∃ decision, (Authority.checkProject user id permission).run store = .ok decision ∧
        decision.isGranted = true) ↔
      ∃ project, store.tables.projects.get? id = some project ∧
        store.tables.MayIn user project permission := by
  constructor
  · rintro ⟨decision, answered, granted⟩
    obtain ⟨project, found, -⟩ := Query.bind_run_eq_ok_iff.1 answered
    have stored := (Query.lookFor_run_eq_ok_iff available).1 found
    obtain ⟨other, answeredToo, meaning⟩ := checkProject_run available stored user permission
    rw [answered] at answeredToo
    cases answeredToo
    exact ⟨project, stored, meaning.1 granted⟩
  · rintro ⟨project, stored, may⟩
    obtain ⟨decision, answered, meaning⟩ := checkProject_run available stored user permission
    exact ⟨decision, answered, meaning.2 may⟩

theorem hasProject_run_iff {user : UserId} {id : ProjectId} {permission : Permission} :
    (Authority.hasProject user id permission).run store = .ok true ↔
      ∃ project, store.tables.projects.get? id = some project ∧
        store.tables.MayIn user project permission := by
  rw [← checkProject_granted_iff available, Authority.hasProject, Query.bind_run_eq_ok_iff]
  simp only [Query.run_pure, Except.ok.injEq]

theorem requireProject_run_iff {user : UserId} {id : ProjectId} {permission : Permission} :
    (Authority.requireProject user id permission).run store = .ok () ↔
      ∃ project, store.tables.projects.get? id = some project ∧
        store.tables.MayIn user project permission := by
  rw [← checkProject_granted_iff available, Authority.requireProject, Query.bind_run_eq_ok_iff]
  refine exists_congr fun decision => and_congr_right fun _ => ?_
  cases decision.isGranted <;> simp

/-- A check decides just whether the user has the global permission. -/
theorem checkGlobal_run (user : UserId) (permission : GlobalPermission) :
    ∃ decision, (Authority.checkGlobal user permission).run store = .ok decision ∧
      (decision.isGranted = true ↔ store.tables.MayGlobally user permission) := by
  rw [Authority.checkGlobal, RoleHolding.globalRolesForUser,
    Query.bind_run_of_ok (Query.look_run available _)]
  cases admin : (store.tables.membership.globalRolesOf user).any (·.kind == .systemAdmin) with
  | true =>
    refine ⟨_, rfl, iff_of_true ?_ (.inl (any_systemAdmin_iff.1 admin))⟩
    simp [GlobalPrincipal.resolve, Decision.isGranted_first, GlobalPrincipal.sources]
  | false =>
    have ordinary : ¬ store.tables.IsSystemAdmin user := by
      rw [← any_systemAdmin_iff, admin]
      exact Bool.false_ne_true
    dsimp only
    rw [if_neg Bool.false_ne_true, Query.bind_run_of_ok (Query.look_run available _),
      Query.bind_run_of_ok (Query.look_run available _)]
    refine ⟨_, rfl, ?_⟩
    rw [resolve_global_iff rfl, Tables.MayGlobally, or_iff_right ordinary]

theorem hasGlobal_run (user : UserId) (permission : GlobalPermission) :
    ∃ granted, (Authority.hasGlobal user permission).run store = .ok granted ∧
      (granted = true ↔ store.tables.MayGlobally user permission) := by
  obtain ⟨decision, checked, meaning⟩ := checkGlobal_run available user permission
  exact ⟨decision.isGranted, Query.bind_run_of_ok checked, meaning⟩

theorem hasGlobal_run_iff {user : UserId} {permission : GlobalPermission} :
    (Authority.hasGlobal user permission).run store = .ok true ↔
      store.tables.MayGlobally user permission := by
  obtain ⟨granted, answered, meaning⟩ := hasGlobal_run available user permission
  rw [answered, Except.ok.injEq, meaning]

/-- A user is in a role as an actor of it, or through a group that is one. -/
theorem isUserInRole_run (project : ProjectId) (role : RoleId) (user : UserId) :
    ∃ held, (RoleHolding.isUserInRole project role user).run store = .ok held ∧
      (held = true ↔ store.tables.HoldsRole project role user) := by
  rw [RoleHolding.isUserInRole, RoleHolding.listActors,
    Query.bind_run_of_ok (Query.look_run available _), holdsRole_iff]
  by_cases direct : (store.tables.membership.actorsOf project role).contains (.user user) = true
  · rw [if_pos direct]
    refine ⟨true, rfl, ?_⟩
    simp only [true_iff]
    exact ⟨.user user, List.contains_iff_mem.1 direct, rfl⟩
  rw [if_neg direct]
  by_cases grouped :
      (store.tables.membership.actorsOf project role).any (·.type == .group) = true
  · rw [grouped]
    refine ⟨_, Query.bind_run_of_ok (Query.look_run available _), ?_⟩
    rw [List.any_eq_true]
    simp only [isMatchedBy_iff]
  · -- Without groups among them, the actors are users, and none of them is this one.
    rw [Bool.not_eq_true] at grouped
    rw [grouped]
    refine ⟨false, rfl, ?_⟩
    simp only [Bool.false_eq_true, false_iff]
    rintro ⟨actor, member, stands⟩
    cases actor with
    | user id =>
      have same : id = user := stands
      rw [same] at member
      exact direct (List.contains_iff_mem.2 member)
    | group id =>
      have none := List.any_eq_false.1 grouped _ member
      exact none rfl

theorem isUserInRole_run_iff {project : ProjectId} {role : RoleId} {user : UserId} :
    (RoleHolding.isUserInRole project role user).run store = .ok true ↔
      store.tables.HoldsRole project role user := by
  obtain ⟨held, answered, meaning⟩ := isUserInRole_run available project role user
  rw [answered, Except.ok.injEq, meaning]

end Checks

end IssueFlow
