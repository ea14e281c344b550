import IssueFlow.Proofs.AdministratorRights
import IssueFlow.Proofs.OfferListing
import Mathlib.Data.List.Basic

/-!
# Growing access

Operations that only add facts about who may do what: a grant, a member of a group or of a global
role, an actor of a project role. Whoever has a permission keeps it, and lists of permissions and
offers of transitions lose nothing. There is one exception: an actor who gets the permission to
transition issues where no workflow is found is told so, and was offered nothing before.
-/

namespace IssueFlow

/-- Members are added, and the users stay as they are. -/
structure Accounts.Widens (t later : Accounts) : Prop where
  users : later.users = t.users
  members : t.members.rows ⊆ later.members.rows

structure Grants.Widens (t later : Grants) : Prop where
  grants : t.grants ⊆ later.grants
  globalGrants : t.globalGrants ⊆ later.globalGrants

/-- Actors and members of global roles are added, and the global roles stay as they are. -/
structure Membership.Widens (t later : Membership) : Prop where
  actors : t.actors ⊆ later.actors
  globalRoles : later.globalRoles = t.globalRoles
  globalMembers : t.globalMembers.rows ⊆ later.globalMembers.rows

/-- Facts about who may do what are added, and all else stays as it is. -/
structure Tables.Widens (t later : Tables) : Prop where
  accounts : t.accounts.Widens later.accounts
  grants : t.grants.Widens later.grants
  membership : t.membership.Widens later.membership
  projects : later.projects = t.projects
  graph : later.graph = t.graph
  issueLog : later.issueLog = t.issueLog

structure Store.Widens (store later : Store) : Prop where
  switch : later.unavailable = store.unavailable
  tables : store.tables.Widens later.tables

theorem Accounts.Widens.refl (t : Accounts) : t.Widens t :=
  ⟨rfl, List.Subset.refl _⟩

theorem Grants.Widens.refl (t : Grants) : t.Widens t :=
  ⟨List.Subset.refl _, List.Subset.refl _⟩

theorem Membership.Widens.refl (t : Membership) : t.Widens t :=
  ⟨List.Subset.refl _, rfl, List.Subset.refl _⟩

theorem Tables.Widens.refl (t : Tables) : t.Widens t :=
  ⟨.refl _, .refl _, .refl _, rfl, rfl, rfl⟩

theorem Tables.Widens.trans {t middle later : Tables} (first : t.Widens middle)
    (second : middle.Widens later) : t.Widens later where
  accounts :=
    ⟨second.accounts.users.trans first.accounts.users,
      List.Subset.trans first.accounts.members second.accounts.members⟩
  grants :=
    ⟨List.Subset.trans first.grants.grants second.grants.grants,
      List.Subset.trans first.grants.globalGrants second.grants.globalGrants⟩
  membership :=
    ⟨List.Subset.trans first.membership.actors second.membership.actors,
      second.membership.globalRoles.trans first.membership.globalRoles,
      List.Subset.trans first.membership.globalMembers second.membership.globalMembers⟩
  projects := second.projects.trans first.projects
  graph := second.graph.trans first.graph
  issueLog := second.issueLog.trans first.issueLog

instance : IsPreorder Store Store.Widens where
  refl store := ⟨rfl, .refl store.tables⟩
  trans _ _ _ first second :=
    ⟨second.switch.trans first.switch, first.tables.trans second.tables⟩

private theorem Table.subset_put {α κ : Type} [Keyed α κ] [DecidableEq κ] {table : Table α}
    {row : α} (whole : ∀ other : α, Keyed.key other = Keyed.key row → other = row) :
    table.rows ⊆ (table.put row).rows := by
  intro other member
  rw [Table.mem_put]
  by_cases same : Keyed.key other = Keyed.key row
  · exact .inl (whole other same)
  · exact .inr ⟨member, same⟩

private theorem Accounts.widens_of_addMember {group : GroupId} {user : UserId} {t later : Accounts}
    {fresh : Bool} (done : (addMember group user).run t = (.ok fresh, later)) : t.Widens later := by
  obtain ⟨-, made⟩ := require_bind_eq_ok_iff.1 (looked done)
  cases made
  exact ⟨rfl, Table.subset_put fun _ same => same⟩

private theorem Grants.widens_of_grant {scheme : PermissionSchemeId} {permission : Permission}
    {grantee : Grantee} {now : Timestamp} {t later : Grants} {row : SchemeGrant}
    (done : (grant scheme permission grantee now).run t = (.ok row, later)) : t.Widens later := by
  obtain ⟨-, made⟩ := require_bind_eq_ok_iff.1 (looked done)
  split at made <;> cases made
  · exact .refl t
  · exact ⟨List.subset_append_left _ _, List.Subset.refl _⟩

private theorem Grants.widens_of_grantGlobal {permission : GlobalPermission}
    {role : Option GlobalRoleId} {group : Option GroupId} {now : Timestamp} {t later : Grants}
    {row : GlobalGrant} (done : (grantGlobal permission role group now).run t = (.ok row, later)) :
    t.Widens later := by
  replace done := looked done
  split at done <;> cases done
  · exact .refl t
  · exact ⟨List.Subset.refl _, List.subset_append_left _ _⟩

namespace Membership

variable {t later : Membership}

private theorem widens_of_addActor {project : ProjectId} {role : RoleId} {actor : Actor}
    {now : Timestamp} {fresh : Bool}
    (done : (addActor project role actor now).run t = (.ok fresh, later)) :
    t.Widens later := by
  obtain ⟨-, made⟩ := require_bind_eq_ok_iff.1 (looked done)
  split at made <;> cases made
  · exact .refl t
  · exact ⟨List.subset_append_left _ _, rfl, List.Subset.refl _⟩

private theorem widens_of_addGlobalMember {role : GlobalRoleId} {user : UserId} {fresh : Bool}
    (done : (addGlobalMember role user).run t = (.ok fresh, later)) : t.Widens later := by
  obtain ⟨-, made⟩ := require_bind_eq_ok_iff.1 (looked done)
  cases made
  exact ⟨List.Subset.refl _, rfl, Table.subset_put fun _ same => same⟩

private theorem widens_of_copyDefaults {project : ProjectId} {now : Timestamp} {count : Nat}
    (done : (copyDefaults project now).run t = (.ok count, later)) : t.Widens later := by
  cases done
  exact ⟨List.subset_append_left _ _, rfl, List.Subset.refl _⟩

end Membership

/-- The operation adds a fact about who may do what. -/
inductive Tables.Operation.AddsAccess : Tables.Operation → Prop where
  | grant (scheme : PermissionSchemeId) (permission : Permission) (grantee : Grantee) :
      AddsAccess (.onGrants (.grant scheme permission grantee))
  | grantGlobal (permission : GlobalPermission) (role : Option GlobalRoleId)
      (group : Option GroupId) : AddsAccess (.onGrants (.grantGlobal permission role group))
  | addMember (group : GroupId) (user : UserId) : AddsAccess (.onAccounts (.addMember group user))
  | addActor (project : ProjectId) (role : RoleId) (actor : Actor) :
      AddsAccess (.onMembership (.addActor project role actor))
  | addGlobalMember (role : GlobalRoleId) (user : UserId) :
      AddsAccess (.onMembership (.addGlobalMember role user))
  | copyDefaults (project : ProjectId) : AddsAccess (.onMembership (.copyDefaults project))

namespace Tables

variable {α : Type} {t later : Tables} {a : α}

private theorem widens_of_onAccounts {op : Change Accounts α}
    (widens : ∀ {accounts}, op.run t.accounts = (.ok a, accounts) → t.accounts.Widens accounts)
    (done : (onAccounts op).run t = (.ok a, later)) : t.Widens later := by
  obtain ⟨accounts, applied, rfl⟩ := within_eq_ok_iff.1 done
  exact ⟨widens applied, .refl _, .refl _, rfl, rfl, rfl⟩

private theorem widens_of_onGrants {op : Change Grants α}
    (widens : ∀ {grants}, op.run t.grants = (.ok a, grants) → t.grants.Widens grants)
    (done : (onGrants op).run t = (.ok a, later)) : t.Widens later := by
  obtain ⟨grants, applied, rfl⟩ := within_eq_ok_iff.1 done
  exact ⟨.refl _, widens applied, .refl _, rfl, rfl, rfl⟩

private theorem widens_of_onMembership {op : Change Membership α}
    (widens : ∀ {membership}, op.run t.membership = (.ok a, membership) →
      t.membership.Widens membership)
    (done : (onMembership op).run t = (.ok a, later)) : t.Widens later := by
  obtain ⟨membership, applied, rfl⟩ := within_eq_ok_iff.1 done
  exact ⟨.refl _, .refl _, widens applied, rfl, rfl, rfl⟩

private theorem Operation.AddsAccess.widens {op : Tables.Operation} (adds : op.AddsAccess)
    {now : Timestamp} {answer : Answer} (done : (op.apply now).run t = (.ok answer, later)) :
    t.Widens later := by
  cases adds with
  | grant scheme permission grantee =>
    refine widens_of_onGrants (fun made => ?_) done
    obtain ⟨row, granted, -⟩ := answering_eq_ok_iff.1 made
    exact Grants.widens_of_grant granted
  | grantGlobal permission role group =>
    refine widens_of_onGrants (fun made => ?_) done
    obtain ⟨row, granted, -⟩ := answering_eq_ok_iff.1 made
    exact Grants.widens_of_grantGlobal granted
  | addMember group user =>
    refine widens_of_onAccounts (fun made => ?_) done
    obtain ⟨fresh, added, -⟩ := answering_eq_ok_iff.1 made
    exact Accounts.widens_of_addMember added
  | addActor project role actor =>
    refine widens_of_onMembership (fun made => ?_) done
    obtain ⟨fresh, added, -⟩ := answering_eq_ok_iff.1 made
    exact Membership.widens_of_addActor added
  | addGlobalMember role user =>
    refine widens_of_onMembership (fun made => ?_) done
    obtain ⟨fresh, added, -⟩ := answering_eq_ok_iff.1 made
    exact Membership.widens_of_addGlobalMember added
  | copyDefaults project =>
    refine widens_of_onMembership (fun made => ?_) done
    obtain ⟨count, copied, -⟩ := answering_eq_ok_iff.1 made
    exact Membership.widens_of_copyDefaults copied

end Tables

private theorem Store.update_widens {α : Type} (store : Store) {op : Change Tables α}
    (clean : FailsClean op)
    (widens : ∀ {a later}, op.run store.tables = (.ok a, later) → store.tables.Widens later) :
    store.Widens (store.update op).2 := by
  rcases store.update_cases clean with ⟨e, failed⟩ | ⟨answer, tables, -, done, updated⟩
  · rw [failed]
    exact Std.Refl.refl store
  · rw [updated]
    exact ⟨rfl, widens done⟩

/-- A write to the role tables that widens them widens the store. -/
private theorem Program.writeMembership_widens {ε α : Type} [OfStorage ε]
    {op : Timestamp → Change Membership α} (clean : ∀ now, FailsClean (op now))
    (widens : ∀ {now t a later}, (op now).run t = (.ok a, later) → Membership.Widens t later) :
    Keeps Store.Widens (write fun now => Tables.onMembership (op now) : Program ε α).run := by
  intro store
  exact store.update_widens (clean store.now).onMembership (Tables.widens_of_onMembership widens)

private theorem Program.ask_widens {ε α : Type} (query : Query ε α) :
    Keeps Store.Widens (ask query).run :=
  keeps_of_same fun _ => rfl

namespace Call

/-- The call adds a fact about who may do what, in the store or through the role directory. -/
inductive AddsAccess : Call → Prop where
  | operate (op : Tables.Operation) (adds : op.AddsAccess) : AddsAccess (.operate op)
  | copyDefaultsToProject (project : ProjectId) : AddsAccess (.copyDefaultsToProject project)
  | addActor (project : ProjectId) (role : RoleId) (actor : Actor) :
      AddsAccess (.addActor project role actor)
  | addGlobalRoleMember (kind : GlobalRoleKind) (user : UserId) :
      AddsAccess (.addGlobalRoleMember kind user)

private theorem AddsAccess.widens {call : Call} (adds : call.AddsAccess) (executor : Executor)
    (world : World) : world.store.Widens (call.leave executor world).store := by
  cases adds with
  | operate op adds =>
    exact world.store.update_widens (op.failsClean _) fun done => adds.widens done
  | copyDefaultsToProject project =>
    refine Keeps.run_bind (Program.ask_widens _) (fun _ => ?_) world.store
    exact Program.writeMembership_widens (Membership.copyDefaults_failsClean _)
      Membership.widens_of_copyDefaults
  | addActor project role actor =>
    refine Keeps.run_bind (Program.ask_widens _) (fun _ => ?_) world.store
    exact Program.writeMembership_widens (Membership.addActor_failsClean _ _ _)
      Membership.widens_of_addActor
  | addGlobalRoleMember kind user =>
    refine Keeps.run_bind (Program.ask_widens _) (fun _ => ?_) world.store
    exact Program.writeMembership_widens (fun _ => Membership.addGlobalMember_failsClean _ _)
      Membership.widens_of_addGlobalMember

end Call

/-! ## Facts that stay -/

namespace Tables.Widens

variable {t later : Tables} (widens : t.Widens later) {user : UserId}

include widens

private theorem isMember {group : GroupId} (member : t.IsMember user group) :
    later.IsMember user group :=
  widens.accounts.members member

private theorem standsFor {actor : Actor} (stands : t.StandsFor user actor) :
    later.StandsFor user actor := by
  cases actor with
  | user id => exact stands
  | group id => exact widens.isMember stands

private theorem holdsRole {project : ProjectId} {role : RoleId}
    (holds : t.HoldsRole project role user) :
    later.HoldsRole project role user := by
  obtain ⟨row, listed, inProject, ofRole, stands⟩ := holds
  exact ⟨row, widens.membership.actors listed, inProject, ofRole, widens.standsFor stands⟩

private theorem covers {project : ProjectId} {grantee : Grantee}
    (covers : t.Covers project user grantee) :
    later.Covers project user grantee := by
  cases grantee with
  | user id => exact covers
  | group id => exact widens.isMember covers
  | projectRole role => exact widens.holdsRole covers
  | anyone => exact trivial

private theorem isSystemAdmin (admin : t.IsSystemAdmin user) : later.IsSystemAdmin user := by
  obtain ⟨role, stored, kind, member⟩ := admin
  refine ⟨role, ?_, kind, widens.membership.globalMembers member⟩
  rwa [widens.membership.globalRoles]

private theorem mayIn {project : Project} {permission : Permission}
    (may : t.MayIn user project permission) : later.MayIn user project permission := by
  rcases may with admin | legacy | ⟨grant, listed, scheme, same, covers⟩
  · exact .inl (widens.isSystemAdmin admin)
  · refine .inr (.inl ?_)
    rwa [IsLegacyAdmin, widens.accounts.users]
  · exact .inr (.inr ⟨grant, widens.grants.grants listed, scheme, same, widens.covers covers⟩)

private theorem mayGlobally {permission : GlobalPermission} (may : t.MayGlobally user permission) :
    later.MayGlobally user permission := by
  rcases may with admin | ⟨grant, listed, same, reaches⟩
  · exact .inl (widens.isSystemAdmin admin)
  refine .inr ⟨grant, widens.grants.globalGrants listed, same, ?_⟩
  rcases reaches with ⟨id, named, role, stored, ofId, member⟩ | ⟨group, named, member⟩ | anyone
  · refine .inl ⟨id, named, role, ?_, ofId, widens.membership.globalMembers member⟩
    rwa [widens.membership.globalRoles]
  · exact .inr (.inl ⟨group, named, widens.isMember member⟩)
  · exact .inr (.inr anyone)

/-- No condition asks that somebody may not do something. -/
private theorem holds {issue : Issue} {condition : Condition}
    (holds : condition.Holds t issue user) :
    condition.Holds later issue user := by
  cases condition with
  | userInRole role => exact widens.holdsRole holds
  | userInGroup group => exact widens.isMember holds
  | userHasPermission permission =>
    obtain ⟨project, stored, same, may⟩ := holds
    refine ⟨project, ?_, same, widens.mayIn may⟩
    rwa [widens.projects]
  | onlyReporter | onlyAssignee | fieldValue => exact holds
  | subtasksResolved =>
    intro subtask listed ofIssue
    rw [widens.issueLog] at listed
    rw [IsResolved, widens.graph]
    exact holds subtask listed ofIssue

end Tables.Widens

/-! ## Answers that grow -/

/-- A list of answers grows, and an error stays what it is. -/
inductive GrowsInto {ε α : Type} : Except ε (List α) → Except ε (List α) → Prop where
  | listed (list more : List α) (kept : list.Sublist more) : GrowsInto (.ok list) (.ok more)
  | failed (e : ε) : GrowsInto (.error e) (.error e)

private theorem GrowsInto.of_filter {ε α : Type} (list : List α) {p q : α → Bool}
    (weaker : ∀ a, p a = true → q a = true) :
    GrowsInto (.ok (list.filter p) : Except ε (List α)) (.ok (list.filter q)) :=
  .listed _ _ (List.monotone_filter_right list weaker)

private theorem GrowsInto.mapError {ε ε' α : Type} {f : ε → ε'} {answer more : Except ε (List α)}
    (grows : GrowsInto answer more) : GrowsInto (answer.mapError f) (more.mapError f) := by
  cases grows with
  | listed list more kept => exact .listed list more kept
  | failed e => exact .failed (f e)

theorem Query.bind_run_congr {ε α β : Type} {store later : Store} {first : Query ε α}
    {next : α → Query ε β} (before : first.run later = first.run store)
    (after : ∀ a, (next a).run later = (next a).run store) :
    (first >>= next).run later = (first >>= next).run store := by
  rw [run_bind, run_bind, before]
  cases first.run store with
  | ok a => exact after a
  | error e => rfl

namespace Store.Widens

variable {store later : Store} (widens : store.Widens later)
  (available : store.unavailable = false)

include widens available

private theorem available_later : later.unavailable = false :=
  widens.switch.trans available

private theorem hasProject {user : UserId} {id : ProjectId} {permission : Permission}
    (granted : (Authority.hasProject user id permission).run store = .ok true) :
    (Authority.hasProject user id permission).run later = .ok true := by
  rw [hasProject_run_iff available] at granted
  obtain ⟨project, stored, may⟩ := granted
  rw [hasProject_run_iff (widens.available_later available), widens.tables.projects]
  exact ⟨project, stored, widens.tables.mayIn may⟩

private theorem hasGlobal {user : UserId} {permission : GlobalPermission}
    (granted : (Authority.hasGlobal user permission).run store = .ok true) :
    (Authority.hasGlobal user permission).run later = .ok true := by
  rw [hasGlobal_run_iff available] at granted
  rw [hasGlobal_run_iff (widens.available_later available)]
  exact widens.tables.mayGlobally granted

private theorem lookFor_run {ε α : Type} [OfStorage ε] {find : Tables → Option α} {missing : ε}
    (same : find later.tables = find store.tables) :
    (Query.lookFor find missing : Query ε α).run later =
      (Query.lookFor find missing).run store := by
  rw [Query.lookFor_run available, Query.lookFor_run (widens.available_later available), same]

private theorem project_run (id : ProjectId) :
    (Authority.project id).run later = (Authority.project id).run store :=
  widens.lookFor_run available (by rw [widens.tables.projects])

private theorem loadIssue_run (id : IssueId) :
    (Service.loadIssue id).run later = (Service.loadIssue id).run store :=
  widens.lookFor_run available (by rw [widens.tables.issueLog])

private theorem workflowForIssueType_run (scheme : WorkflowSchemeId) (issueType : IssueTypeId) :
    (Route.workflowForIssueType scheme issueType).run later =
      (Route.workflowForIssueType scheme issueType).run store := by
  refine Query.bind_run_congr ?_ fun mapping => ?_
  · exact widens.lookFor_run available (by rw [widens.tables.graph])
  · exact widens.lookFor_run available (by rw [widens.tables.graph])

/-- The workflow of an issue is found as before, or its search fails as before. -/
private theorem workflowForProject_run (id : ProjectId) (issueType : IssueTypeId) :
    (Route.workflowForProject id issueType).run later =
      (Route.workflowForProject id issueType).run store := by
  refine Query.bind_run_congr ?_ fun project => ?_
  · exact widens.lookFor_run available (by rw [widens.tables.projects])
  · cases project.workflowSchemeId with
    | none => rfl
    | some scheme => exact widens.workflowForIssueType_run available scheme issueType

private theorem listProject_grows (user : UserId) (id : ProjectId) :
    GrowsInto ((Authority.listProject user id).run store)
      ((Authority.listProject user id).run later) := by
  have same := widens.project_run available id
  cases found : (Authority.project id).run store with
  | error e =>
    rw [listProject_run_of_error found, listProject_run_of_error (same.trans found)]
    exact .failed e
  | ok project =>
    obtain ⟨-, stored⟩ := Query.lookFor_run_ok found
    obtain ⟨switch, storedLater⟩ := Query.lookFor_run_ok (same.trans found)
    obtain ⟨holds, listed, meaning⟩ := listProject_run available stored user
    obtain ⟨holdsLater, listedLater, meaningLater⟩ := listProject_run switch storedLater user
    rw [listed, listedLater]
    refine .of_filter _ fun permission held => ?_
    rw [meaning] at held
    rw [meaningLater]
    exact widens.tables.mayIn held

end Store.Widens

namespace Service

/-- An actor gets the permission to transition an issue for which no workflow is found. -/
inductive Stranded (store later : Store) (id : IssueId) (actor : UserId) : Prop where
  | intro (issue : Issue) (e : TransitionError)
      (stored : store.tables.issueLog.issues.get? id = some issue)
      (denied : (Authority.hasProject actor issue.projectId .transitionIssues).run store =
        .ok false)
      (granted : (Authority.hasProject actor issue.projectId .transitionIssues).run later =
        .ok true)
      (unrouted : (Route.workflowForProject issue.projectId issue.issueTypeId).run store =
        .error e) : Stranded store later id actor

private theorem stranded_iff {store later : Store} {id : IssueId} {issue : Issue} {actor : UserId}
    (stored : store.tables.issueLog.issues.get? id = some issue) :
    Stranded store later id actor ↔
      (Authority.hasProject actor issue.projectId .transitionIssues).run store = .ok false ∧
      (Authority.hasProject actor issue.projectId .transitionIssues).run later = .ok true ∧
      ∃ e, (Route.workflowForProject issue.projectId issue.issueTypeId).run store = .error e := by
  constructor
  · rintro ⟨other, e, storedToo, denied, granted, unrouted⟩
    cases stored.symm.trans storedToo
    exact ⟨denied, granted, e, unrouted⟩
  · rintro ⟨denied, granted, e, unrouted⟩
    exact .intro issue e stored denied granted unrouted

end Service

namespace Store.Widens

variable {executor : Executor} {matcher : Matcher} (standard : executor.registry = .builtIn matcher)
    {world later : World} (widens : world.store.Widens later.store)
    (available : world.store.unavailable = false)

include standard widens available

private theorem isOpen {issue : Issue} {actor : UserId} {edge : Transition}
    (opened : executor.isOpen world issue actor edge = true) :
    executor.isOpen later issue actor edge = true := by
  rw [Executor.isOpen_iff_holds standard available] at opened
  rw [Executor.isOpen_iff_holds standard (widens.available_later available), widens.tables.graph]
  exact fun rule member => widens.tables.holds (opened rule member)

/-- What the executor offers grows. -/
private theorem offers_grow {issue : Issue} (actor : UserId) {project : Project}
    (stored : world.store.tables.projects.get? issue.projectId = some project) :
    GrowsInto ((executor.available issue actor).run world).1
      ((executor.available issue actor).run later).1 := by
  have storedLater : later.store.tables.projects.get? issue.projectId = some project := by
    rwa [widens.tables.projects]
  rw [Executor.available_run standard available actor stored,
    Executor.available_run standard (widens.available_later available) actor storedLater,
    widens.workflowForProject_run available, widens.tables.graph]
  cases (Route.workflowForProject issue.projectId issue.issueTypeId).run world.store with
  | error e => exact .failed e
  | ok workflow => exact .of_filter _ fun edge => isOpen standard widens available

/-- What the service offers an actor grows, unless the actor is stranded. -/
private theorem available_grows_iff (id : IssueId) (actor : UserId) :
    GrowsInto ((Service.available executor id actor).run world).1
        ((Service.available executor id actor).run later).1 ↔
      ¬ Service.Stranded world.store later.store id actor := by
  rw [Service.available_run, Service.available_run, widens.loadIssue_run available]
  cases loaded : (Service.loadIssue id).run world.store with
  | error e =>
    refine iff_of_true (.failed e) ?_
    rintro ⟨issue, _, stored, -, -, -⟩
    have found : (Service.loadIssue id).run world.store = .ok issue :=
      (Query.lookFor_run_eq_ok_iff available).2 stored
    cases loaded.symm.trans found
  | ok issue =>
    obtain ⟨-, stored⟩ := Query.lookFor_run_ok loaded
    rw [Service.stranded_iff stored]
    dsimp only
    have same := widens.project_run available issue.projectId
    cases found : (Authority.project issue.projectId).run world.store with
    | error e =>
      rw [hasProject_run_of_error found, hasProject_run_of_error (same.trans found)]
      exact iff_of_true (.failed _) (by rintro ⟨⟨⟩, -⟩)
    | ok project =>
      obtain ⟨-, inProject⟩ := Query.lookFor_run_ok found
      obtain ⟨switch, inProjectLater⟩ := Query.lookFor_run_ok (same.trans found)
      obtain ⟨before, checked, -⟩ := hasProject_run available inProject actor .transitionIssues
      obtain ⟨after, checkedLater, -⟩ :=
        hasProject_run switch inProjectLater actor .transitionIssues
      cases before with
      | true =>
        rw [checked, widens.hasProject available checked]
        have grows := offers_grow standard widens available actor inProject
        exact iff_of_true grows.mapError (by rintro ⟨⟨⟩, -⟩)
      | false =>
        rw [checked, checkedLater]
        cases after with
        | false => exact iff_of_true (.listed [] [] (.refl _)) (by rintro ⟨-, ⟨⟩, -⟩)
        | true =>
          -- Nothing was offered before, so a list is more than that, and an error is not.
          dsimp only
          rw [Executor.available_run standard switch actor inProjectLater,
            widens.workflowForProject_run available]
          cases (Route.workflowForProject issue.projectId issue.issueTypeId).run world.store with
          | error e => exact iff_of_false (by rintro ⟨⟩) (not_not_intro ⟨rfl, rfl, e, rfl⟩)
          | ok workflow =>
            refine iff_of_true (.listed [] _ (List.nil_sublist _)) ?_
            rintro ⟨-, -, e, ⟨⟩⟩

end Store.Widens

/-- When a fact is added about who may do what, nobody loses a permission, and lists of permissions
lose nothing. Nor do the offers of transitions, but where an actor is stranded. -/
theorem access_grows (executor : Executor) {matcher : Matcher}
    (standard : executor.registry = .builtIn matcher) (world : World)
    (available : world.store.unavailable = false) (call : Call) (adds : call.AddsAccess) :
    (∀ user project permission,
      (Authority.hasProject user project permission).run world.store = .ok true →
        (Authority.hasProject user project permission).run (call.leave executor world).store =
          .ok true) ∧
    (∀ user permission, (Authority.hasGlobal user permission).run world.store = .ok true →
      (Authority.hasGlobal user permission).run (call.leave executor world).store = .ok true) ∧
    (∀ user project, GrowsInto ((Authority.listProject user project).run world.store)
      ((Authority.listProject user project).run (call.leave executor world).store)) ∧
    ∀ id actor,
      GrowsInto ((Service.available executor id actor).run world).1
          ((Service.available executor id actor).run (call.leave executor world)).1 ↔
        ¬ Service.Stranded world.store (call.leave executor world).store id actor := by
  have widens := adds.widens executor world
  refine ⟨?_, ?_, ?_, ?_⟩
  · exact fun user project permission => widens.hasProject available
  · exact fun user permission => widens.hasGlobal available
  · exact widens.listProject_grows available
  · exact Store.Widens.available_grows_iff standard widens available

namespace Sample

/-- The sample edge is open to the developers, and there are none. -/
def recruiting : World where
  store := store.after [
    .operation (.onMembership (.createRole ⟨⟨"dev"⟩, "developers", none, ⟨0, 0⟩⟩)),
    .operation (.onGraph (.deleteCondition ⟨"R1"⟩)),
    .operation (.onGraph (.addCondition ⟨⟨"R7"⟩, ⟨"T1"⟩, .userInRole ⟨"dev"⟩, position 0⟩))]
  outbox := .ofCapacity 4

/-- The sample project has no workflow scheme. -/
def unrouted : World where
  store := store.after [.operation (.onProjects (.setWorkflowScheme ⟨"P1"⟩ none))]
  outbox := .ofCapacity 4

end Sample

/-- The reporter is made a developer, keeps the permission and is offered the edge. -/
theorem sample_access_grows :
    let call := Call.addActor ⟨"P1"⟩ ⟨"dev"⟩ (.user Sample.reporter.id)
    let later := call.leave {} Sample.recruiting
    ({} : Executor).registry = .builtIn ∧ Sample.recruiting.store.unavailable = false ∧
      call.AddsAccess ∧
      (Authority.hasProject Sample.reporter.id ⟨"P1"⟩ .transitionIssues).run later.store =
        .ok true ∧
      ((Service.available {} Sample.issue.id Sample.reporter.id).run Sample.recruiting).1 = .ok [] ∧
      ((Service.available {} Sample.issue.id Sample.reporter.id).run later).1 =
        .ok [⟨⟨"T1"⟩, ⟨"W"⟩, ⟨"open"⟩, ⟨"done"⟩, "Finish", none⟩] ∧
      GrowsInto ((Service.available {} Sample.issue.id Sample.reporter.id).run Sample.recruiting).1
        ((Service.available {} Sample.issue.id Sample.reporter.id).run later).1 := by
  intro call later
  have available : Sample.recruiting.store.unavailable = false := by decide +kernel
  have adds : call.AddsAccess := .addActor _ _ _
  have permitted : (Authority.hasProject Sample.reporter.id ⟨"P1"⟩ .transitionIssues).run
      Sample.recruiting.store = .ok true := by
    decide +kernel
  obtain ⟨kept, -, -, grows⟩ := access_grows {} rfl Sample.recruiting available call adds
  refine ⟨rfl, available, adds, kept _ _ _ permitted, by decide +kernel, by decide +kernel,
    (grows _ _).2 ?_⟩
  rintro ⟨issue, _, stored, denied, -, -⟩
  have same : Sample.recruiting.store.tables.issueLog.issues.get? Sample.issue.id =
      some Sample.issue := by
    decide +kernel
  cases same.symm.trans stored
  cases permitted.symm.trans denied

/-- In a project without a workflow another user gets the permission. Then it is said that there is
none, where nothing was offered before. -/
theorem permission_strands :
    let call := Call.operate (.onGrants (.grant ⟨"PS"⟩ .transitionIssues (.user ⟨"bob"⟩)))
    Sample.unrouted.store.Reachable ∧ Sample.unrouted.store.unavailable = false ∧
      call.AddsAccess ∧
      ((Service.available {} Sample.issue.id ⟨"bob"⟩).run Sample.unrouted).1 = .ok [] ∧
      ((Service.available {} Sample.issue.id ⟨"bob"⟩).run (call.leave {} Sample.unrouted)).1 =
        .error (.transition (.notFound "workflow scheme for project P1")) ∧
      ¬ GrowsInto ((Service.available {} Sample.issue.id ⟨"bob"⟩).run Sample.unrouted).1
        ((Service.available {} Sample.issue.id ⟨"bob"⟩).run (call.leave {} Sample.unrouted)).1 := by
  intro call
  have reached : Sample.unrouted.store.Reachable :=
    IsTrans.trans (r := Store.Leads) _ _ _ ⟨Sample.steps, rfl⟩ ⟨_, rfl⟩
  have before : ((Service.available {} Sample.issue.id ⟨"bob"⟩).run Sample.unrouted).1 =
      .ok [] := by
    decide +kernel
  have after : ((Service.available {} Sample.issue.id ⟨"bob"⟩).run
      (call.leave {} Sample.unrouted)).1 =
        .error (.transition (.notFound "workflow scheme for project P1")) := by
    decide +kernel
  refine ⟨reached, by decide +kernel, .operate _ (.grant _ _ _), before, after, ?_⟩
  rw [before, after]
  rintro ⟨⟩

end IssueFlow
