import IssueFlow.Proofs.AccessGrowth
import IssueFlow.Proofs.NaturalKeys

/-!
# Global permissions

The ways in which a user comes by a global permission (`Tables.HoldsGlobally`), each of them a few
rows. Only four tables hold such rows: the global roles, their members, the members of groups and
the global grants. Stores that agree on these answer every check alike
(`Store.AgreesGlobally.checkGlobal_run`), so that no run of steps that pass them by changes an
answer.
-/

namespace IssueFlow

/-- How a user comes by a global permission. -/
inductive Tables.HoldsGlobally (t : Tables) (user : UserId) (permission : GlobalPermission) :
    Prop where
  | administrator (role : GlobalRole)
      (named : t.membership.globalRole? .systemAdmin = some role)
      (member : (role.id, user) ∈ t.membership.globalMembers.rows) :
      HoldsGlobally t user permission
  | throughRole (grant : GlobalGrant) (role : GlobalRoleId)
      (listed : grant ∈ t.grants.globalGrants) (same : grant.permission = permission)
      (named : grant.globalRoleId = some role)
      (member : (role, user) ∈ t.membership.globalMembers.rows) :
      HoldsGlobally t user permission
  | throughGroup (grant : GlobalGrant) (group : GroupId)
      (listed : grant ∈ t.grants.globalGrants) (same : grant.permission = permission)
      (named : grant.groupId = some group)
      (member : (group, user) ∈ t.accounts.members.rows) : HoldsGlobally t user permission
  | openToAll (grant : GlobalGrant)
      (listed : grant ∈ t.grants.globalGrants) (same : grant.permission = permission)
      (noRole : grant.globalRoleId = none) (noGroup : grant.groupId = none) :
      HoldsGlobally t user permission

private theorem GlobalGrant.isOpen_iff {grant : GlobalGrant} :
    grant.isOpen = true ↔ grant.globalRoleId = none ∧ grant.groupId = none := by
  simp [isOpen]

section Ways

variable {t : Tables} {user : UserId} {permission : GlobalPermission}

/-- There is one global role of a kind. -/
private theorem Membership.NaturalKeys.globalRole?_eq_some_iff {t : Membership}
    (keys : t.NaturalKeys) {kind : GlobalRoleKind} {role : GlobalRole} :
    t.globalRole? kind = some role ↔ role ∈ t.globalRoles.rows ∧ role.kind = kind := by
  rw [globalRole?, Graph.find?_eq_some_iff_of_unique, beq_iff_eq]
  intro a first b second fits fitsToo
  rw [beq_iff_eq] at fits fitsToo
  exact List.inj_on_of_nodup_map keys.globalRole first second (fits.trans fitsToo.symm)

/-- Members belong to roles that are there, so a role is held by being a member. -/
private theorem Membership.Rostered.holdsGlobalRole_iff (rostered : t.membership.Rostered)
    {role : GlobalRoleId} :
    t.HoldsGlobalRole user role ↔ (role, user) ∈ t.membership.globalMembers.rows := by
  constructor
  · rintro ⟨_, -, -, member⟩
    exact member
  · intro member
    obtain ⟨row, stored, same⟩ := Table.contains_iff.1 (rostered _ member)
    exact ⟨row, stored, same, member⟩

private theorem mayGlobally_iff_holdsGlobally (keys : t.membership.NaturalKeys)
    (rostered : t.membership.Rostered) :
    t.MayGlobally user permission ↔ t.HoldsGlobally user permission := by
  constructor
  · rintro (⟨role, listed, kind, member⟩ | ⟨grant, listed, same, reaches⟩)
    · exact .administrator role (keys.globalRole?_eq_some_iff.2 ⟨listed, kind⟩) member
    · rcases reaches with ⟨role, named, holds⟩ | ⟨group, named, member⟩ | toAll
      · exact .throughRole grant role listed same named (rostered.holdsGlobalRole_iff.1 holds)
      · exact .throughGroup grant group listed same named member
      · obtain ⟨noRole, noGroup⟩ := GlobalGrant.isOpen_iff.1 toAll
        exact .openToAll grant listed same noRole noGroup
  · intro holds
    cases holds with
    | administrator role named member =>
      obtain ⟨listed, kind⟩ := keys.globalRole?_eq_some_iff.1 named
      exact .inl ⟨role, listed, kind, member⟩
    | throughRole grant role listed same named member =>
      exact .inr ⟨grant, listed, same, .inl ⟨role, named, rostered.holdsGlobalRole_iff.2 member⟩⟩
    | throughGroup grant group listed same named member =>
      exact .inr ⟨grant, listed, same, .inr (.inl ⟨group, named, member⟩)⟩
    | openToAll grant listed same noRole noGroup =>
      exact .inr ⟨grant, listed, same, .inr (.inr (GlobalGrant.isOpen_iff.2 ⟨noRole, noGroup⟩))⟩

end Ways

namespace Store

/-- Stores that agree on all that global permissions go by. -/
structure AgreesGlobally (store other : Store) : Prop where
  unavailable : other.unavailable = store.unavailable
  roles : other.tables.membership.globalRoles = store.tables.membership.globalRoles
  roleMembers : other.tables.membership.globalMembers = store.tables.membership.globalMembers
  groupMembers : other.tables.accounts.members = store.tables.accounts.members
  grants : other.tables.grants.globalGrants = store.tables.grants.globalGrants

instance : IsPreorder Store AgreesGlobally where
  refl _ := ⟨rfl, rfl, rfl, rfl, rfl⟩
  trans _ _ _ before later := {
    unavailable := later.unavailable.trans before.unavailable
    roles := later.roles.trans before.roles
    roleMembers := later.roleMembers.trans before.roleMembers
    groupMembers := later.groupMembers.trans before.groupMembers
    grants := later.grants.trans before.grants }

namespace AgreesGlobally

variable {store other : Store} (agrees : store.AgreesGlobally other)

include agrees

private theorem look_run {ε α : Type} [OfStorage ε] {f : Tables → α}
    (same : f other.tables = f store.tables) :
    (Query.look f : Query ε α).run other = (Query.look f).run store := by
  rw [Query.run_look, Query.run_look, read, read, agrees.unavailable, same]

/-- Nothing else has a bearing on a check, nor on the source that it names. -/
theorem checkGlobal_run (user : UserId) (permission : GlobalPermission) :
    (Authority.checkGlobal user permission).run other =
      (Authority.checkGlobal user permission).run store := by
  refine Query.bind_run_congr (agrees.look_run ?_) fun roles => ?_
  · rw [Membership.globalRolesOf, Membership.globalRolesOf, agrees.roles, agrees.roleMembers]
  · dsimp only
    split
    · rfl
    · refine Query.bind_run_congr (agrees.look_run ?_) fun groups => ?_
      · rw [Accounts.groupsOf, Accounts.groupsOf, agrees.groupMembers]
      · refine Query.bind_run_congr (agrees.look_run ?_) fun grants => rfl
        rw [Grants.globalGrantsOf, Grants.globalGrantsOf, agrees.grants]

private theorem hasGlobal_run (user : UserId) (permission : GlobalPermission) :
    (Authority.hasGlobal user permission).run other =
      (Authority.hasGlobal user permission).run store :=
  Query.bind_run_congr (agrees.checkGlobal_run user permission) fun _ => rfl

end AgreesGlobally

/-- The steps that can change what global permissions go by. -/
inductive Step.Bears : Step → Prop where
  | addMember (group : GroupId) (user : UserId) :
      Bears (.operation (.onAccounts (.addMember group user)))
  | removeMember (group : GroupId) (user : UserId) :
      Bears (.operation (.onAccounts (.removeMember group user)))
  | grantGlobal (permission : GlobalPermission) (role : Option GlobalRoleId)
      (group : Option GroupId) : Bears (.operation (.onGrants (.grantGlobal permission role group)))
  | revokeGlobal (id : GlobalGrantId) : Bears (.operation (.onGrants (.revokeGlobal id)))
  | createGlobalRole (role : GlobalRole) :
      Bears (.operation (.onMembership (.createGlobalRole role)))
  | addGlobalMember (role : GlobalRoleId) (user : UserId) :
      Bears (.operation (.onMembership (.addGlobalMember role user)))
  | removeGlobalMember (role : GlobalRoleId) (user : UserId) :
      Bears (.operation (.onMembership (.removeGlobalMember role user)))
  | switch (unavailable : Bool) : Bears (.switch unavailable)

private theorem accounts_members_kept {op : Accounts.Operation} {t after : Accounts}
    {answer : Answer} (done : op.apply.run t = (.ok answer, after))
    (idle : ¬ Step.Bears (.operation (.onAccounts op))) : after.members = t.members := by
  cases op with
  | putUser user =>
    cases done
    rfl
  | createGroup group =>
    rw [Accounts.Operation.apply, answering_eq_ok_iff] at done
    obtain ⟨_, made, -⟩ := done
    obtain ⟨-, made⟩ := require_bind_eq_ok_iff.1 (looked made)
    obtain ⟨-, made⟩ := require_bind_eq_ok_iff.1 made
    cases made
    rfl
  | addMember group user => exact absurd (.addMember group user) idle
  | removeMember group user => exact absurd (.removeMember group user) idle

private theorem grants_globalGrants_kept {now : Timestamp} {op : Grants.Operation}
    {t after : Grants} {answer : Answer} (done : (op.apply now).run t = (.ok answer, after))
    (idle : ¬ Step.Bears (.operation (.onGrants op))) : after.globalGrants = t.globalGrants := by
  cases op with
  | createScheme scheme =>
    rw [Grants.Operation.apply, answering_eq_ok_iff] at done
    obtain ⟨_, made, -⟩ := done
    obtain ⟨-, made⟩ := require_bind_eq_ok_iff.1 (looked made)
    obtain ⟨-, made⟩ := require_bind_eq_ok_iff.1 made
    obtain ⟨-, made⟩ := require_bind_eq_ok_iff.1 made
    cases made
    rfl
  | grant scheme permission grantee =>
    rw [Grants.Operation.apply, answering_eq_ok_iff] at done
    obtain ⟨_, made, -⟩ := done
    obtain ⟨-, made⟩ := require_bind_eq_ok_iff.1 (looked made)
    split at made <;> cases made <;> rfl
  | revoke scheme permission grantee =>
    cases done
    rfl
  | grantGlobal permission role group => exact absurd (.grantGlobal permission role group) idle
  | revokeGlobal id => exact absurd (.revokeGlobal id) idle

private theorem membership_globals_kept {now : Timestamp} {op : Membership.Operation}
    {t after : Membership} {answer : Answer} (done : (op.apply now).run t = (.ok answer, after))
    (idle : ¬ Step.Bears (.operation (.onMembership op))) :
    after.globalRoles = t.globalRoles ∧ after.globalMembers = t.globalMembers := by
  cases Membership.changes_of_apply done with
  | kept op roles members => exact ⟨roles, members⟩
  | created role => exact absurd (.createGlobalRole role) idle
  | joined role user => exact absurd (.addGlobalMember role user) idle
  | left role user => exact absurd (.removeGlobalMember role user) idle

private theorem agreesGlobally_of_apply {store : Store} {op : Tables.Operation} {tables : Tables}
    {answer : Answer} (done : (op.apply store.now).run store.tables = (.ok answer, tables))
    (idle : ¬ Step.Bears (.operation op)) : AgreesGlobally store { store with tables } := by
  cases Tables.changes_of_apply done with
  | onAccounts applied => exact ⟨rfl, rfl, rfl, accounts_members_kept applied idle, rfl⟩
  | onGrants applied => exact ⟨rfl, rfl, rfl, rfl, grants_globalGrants_kept applied idle⟩
  | onMembership applied =>
    obtain ⟨roles, members⟩ := membership_globals_kept applied idle
    exact ⟨rfl, roles, members, rfl, rfl⟩
  | onProjects | onGraph | onIssueLog => exact ⟨rfl, rfl, rfl, rfl, rfl⟩

/-- A step without a bearing leaves all that global permissions go by. -/
theorem step_agreesGlobally (store : Store) {step : Step} (idle : ¬ step.Bears) :
    AgreesGlobally store (store.step step) := by
  cases step with
  | switch unavailable => exact absurd (.switch unavailable) idle
  | tick now => exact ⟨rfl, rfl, rfl, rfl, rfl⟩
  | operation op =>
    rw [Store.step]
    rcases update_cases store (op.failsClean store.now) with
      ⟨e, failed⟩ | ⟨answer, tables, -, done, updated⟩
    · rw [failed]
      exact ⟨rfl, rfl, rfl, rfl, rfl⟩
    · rw [updated]
      exact agreesGlobally_of_apply done idle

/-- A run of steps without a bearing leaves all that global permissions go by. -/
private theorem agreesGlobally_of_idle {store later : Store}
    (led : LeadsBy (fun step => ¬ step.Bears) store later) : AgreesGlobally store later :=
  led.related fun store _ idle => step_agreesGlobally store idle

end Store

/-- A check of a global permission answers whether the user is a member of the role of system
administrators, or a grant of just that permission names a role or a group of the user, or names
neither. Nothing outside of the four tables that say so has a bearing on it: stores that agree on
these answer alike, and so does a store after whatever steps that pass them by. -/
theorem global_permission_ways {store : Store} (reached : store.Reachable)
    (available : store.unavailable = false) (user : UserId) (permission : GlobalPermission) :
    (∃ granted, (Authority.hasGlobal user permission).run store = .ok granted ∧
      (granted = true ↔ store.tables.HoldsGlobally user permission)) ∧
    (∀ other, store.AgreesGlobally other →
      (Authority.hasGlobal user permission).run other =
        (Authority.hasGlobal user permission).run store) ∧
    ∀ steps : List Store.Step, (∀ step ∈ steps, ¬ step.Bears) →
      (Authority.hasGlobal user permission).run (store.after steps) =
        (Authority.hasGlobal user permission).run store := by
  refine ⟨?_, ?_, ?_⟩
  · obtain ⟨granted, answered, meaning⟩ := hasGlobal_run available user permission
    refine ⟨granted, answered, meaning.trans ?_⟩
    exact mayGlobally_iff_holdsGlobally reached.naturalKeys.membership reached.rostered
  · exact fun other agrees => agrees.hasGlobal_run user permission
  · exact fun steps idle =>
      (Store.agreesGlobally_of_idle ⟨steps, idle, rfl⟩).hasGlobal_run user permission

namespace Sample

/-- One grant names the role of users, which the reporter is a member of, and the group of guests,
which another user is a member of. -/
def chartered : Store :=
  store.after [
    .operation (.onAccounts (.createGroup ⟨⟨"G"⟩, "guests", none, ⟨0, 0⟩⟩)),
    .operation (.onAccounts (.addMember ⟨"G"⟩ ⟨"bob"⟩)),
    .operation (.onMembership (.createGlobalRole (.ofKind ⟨"staff"⟩ .user))),
    .operation (.onMembership (.addGlobalMember ⟨"staff"⟩ reporter.id)),
    .operation (.onGrants (.grantGlobal .createProjects (some ⟨"staff"⟩) (some ⟨"G"⟩)))]

def charter : GlobalGrant :=
  ⟨⟨"GG1"⟩, .createProjects, some ⟨"staff"⟩, some ⟨"G"⟩, ⟨0, 0⟩⟩

/-- A user with the old flag, with a project role and with rights by the scheme of the project. -/
def privileges : List Store.Step := [
  .operation (.onAccounts (.putUser ⟨⟨"eve"⟩, "eve", "Eve", true, true, ⟨0, 0⟩⟩)),
  .operation (.onMembership (.createRole ⟨⟨"R"⟩, "Editors", none, ⟨0, 0⟩⟩)),
  .operation (.onMembership (.addActor ⟨"P1"⟩ ⟨"R"⟩ (.user ⟨"eve"⟩))),
  .operation (.onGrants (.grant ⟨"PS"⟩ .administerProjects (.user ⟨"eve"⟩)))]

end Sample

/-- The one grant reaches both, the reporter by the role and the other user by the group. All
privileges that count in the project leave a third user without the permission. -/
theorem sample_global_ways :
    Sample.chartered.Reachable ∧ Sample.chartered.unavailable = false ∧
      (Authority.hasGlobal Sample.reporter.id .createProjects).run Sample.chartered = .ok true ∧
      (Authority.hasGlobal ⟨"bob"⟩ .createProjects).run Sample.chartered = .ok true ∧
      (Authority.hasProject ⟨"eve"⟩ ⟨"P1"⟩ .administerProjects).run
        (Sample.chartered.after Sample.privileges) = .ok true ∧
      (Authority.hasGlobal ⟨"eve"⟩ .createProjects).run
        (Sample.chartered.after Sample.privileges) = .ok false := by
  have reached : Sample.chartered.Reachable :=
    IsTrans.trans (r := Store.Leads) _ _ _ ⟨Sample.steps, rfl⟩ ⟨_, rfl⟩
  have available : Sample.chartered.unavailable = false := by decide +kernel
  have listed : Sample.charter ∈ Sample.chartered.tables.grants.globalGrants := by
    decide +kernel
  have holds : ∀ {user}, Sample.chartered.tables.HoldsGlobally user .createProjects →
      (Authority.hasGlobal user .createProjects).run Sample.chartered = .ok true := by
    intro user holds
    obtain ⟨granted, answered, meaning⟩ :=
      (global_permission_ways reached available user .createProjects).1
    rwa [meaning.2 holds] at answered
  have idle : ∀ step ∈ Sample.privileges, ¬ step.Bears := by
    intro step member bears
    simp only [Sample.privileges, List.mem_cons, List.not_mem_nil, or_false] at member
    rcases member with rfl | rfl | rfl | rfl <;> cases bears
  have kept := (global_permission_ways reached available ⟨"eve"⟩ .createProjects).2.2 _ idle
  refine ⟨reached, available, ?_, ?_, by decide +kernel, ?_⟩
  · exact holds (.throughRole Sample.charter ⟨"staff"⟩ listed rfl rfl (by decide +kernel))
  · exact holds (.throughGroup Sample.charter ⟨"G"⟩ listed rfl rfl (by decide +kernel))
  · rw [kept]
    decide +kernel

end IssueFlow
