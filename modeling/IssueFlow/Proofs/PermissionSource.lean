import IssueFlow.Proofs.PermissionMeaning
import IssueFlow.Proofs.Reachable

/-!
# Where a permission comes from

Six facts give a user a permission in a project (`Tables.Supports`). A check grants when one of them
holds, and names the first of them in the order of precedence (`Tables.IsFirst`).
-/

namespace IssueFlow

namespace Tables

/-- The scheme of the project holds a grant of the permission to the grantee. -/
def HasGrant (t : Tables) (project : Project) (permission : Permission) (grantee : Grantee) :
    Prop :=
  ∃ grant ∈ t.grants.grants, grant.schemeId = project.permissionSchemeId ∧
    grant.permission = permission ∧ grant.grantee = grantee

/-- The fact on which a source rests. Global roles give nothing in a project. -/
def Supports (t : Tables) (user : UserId) (project : Project) (permission : Permission) :
    GrantSource → Prop
  | .systemAdmin => t.IsSystemAdmin user
  | .legacyAdmin => ∃ account ∈ t.accounts.users.rows, account.id = user ∧
    account.isAdmin = true ∧ account.isActive = true
  | .directUser => t.HasGrant project permission (.user user)
  | .group => ∃ group, t.HasGrant project permission (.group group) ∧ t.IsMember user group
  | .projectRole => ∃ role, t.HasGrant project permission (.projectRole role) ∧
    t.HoldsRole project.id role user
  | .globalRole => False
  | .anyone => t.HasGrant project permission .anyone

end Tables

/-- The sources of permission in a project, in order of precedence. -/
def GrantSource.inProjects : List GrantSource :=
  [.systemAdmin, .legacyAdmin, .directUser, .group, .projectRole, .anyone]

/-- The fact of a source holds and those of the sources before it do not. -/
def Tables.IsFirst (t : Tables) (user : UserId) (project : Project) (permission : Permission)
    (source : GrantSource) : Prop :=
  ∃ earlier later, GrantSource.inProjects = earlier ++ source :: later ∧
    t.Supports user project permission source ∧
    ∀ other ∈ earlier, ¬ t.Supports user project permission other

theorem Decision.isGranted_iff {decision : Decision} :
    decision.isGranted = true ↔ ∃ source, decision = .granted source := by
  cases decision <;> simp [isGranted]

/-- What is granted is granted by the first source that holds. -/
theorem Decision.first_eq_granted_iff {order : List GrantSource} {holds : GrantSource → Bool}
    {source : GrantSource} :
    first (order.map fun source => (source, holds source)) = .granted source ↔
      ∃ earlier later, order = earlier ++ source :: later ∧ holds source = true ∧
        ∀ other ∈ earlier, holds other = false := by
  have found : first (order.map fun source => (source, holds source)) = .granted source ↔
      order.find? holds = some source := by
    have composed : ((fun entry : GrantSource × Bool => entry.2) ∘
        fun source => (source, holds source)) = holds := rfl
    rw [first, List.find?_map, composed]
    cases order.find? holds <;> simp
  rw [found, List.find?_eq_some_iff_append]
  simp only [Bool.not_eq_true']
  constructor
  · rintro ⟨holding, earlier, later, split, others⟩
    exact ⟨earlier, later, split, holding, others⟩
  · rintro ⟨earlier, later, split, holding, others⟩
    exact ⟨holding, earlier, later, split, others⟩

/-- Whether a source holds for a principal. -/
def ProjectPrincipal.holds (principal : ProjectPrincipal) (grantees : List Grantee) :
    GrantSource → Bool
  | .systemAdmin => principal.isSystemAdmin
  | .legacyAdmin => principal.isLegacyAdmin
  | .directUser => principal.isNamed grantees
  | .group => principal.isInGroup grantees
  | .projectRole => principal.isInRole grantees
  | .globalRole => false
  | .anyone => grantees.contains .anyone

theorem ProjectPrincipal.resolve_eq (principal : ProjectPrincipal) (grantees : List Grantee) :
    principal.resolve grantees =
      .first (GrantSource.inProjects.map fun source => (source, principal.holds grantees source)) :=
  rfl

section Sources

variable {t : Tables} {user : UserId} {project : Project} {permission : Permission}

private theorem isLegacyAdmin_iff_supports :
    t.IsLegacyAdmin user ↔ t.Supports user project permission .legacyAdmin := by
  simp only [Tables.IsLegacyAdmin, Tables.Supports, User.isLegacyAdmin, Bool.and_eq_true]

/-- For a user who is no system administrator a source holds when its fact does. -/
private theorem holds_iff {principal : ProjectPrincipal} (knows : principal.Knows t user project.id)
    (ordinary : ¬ t.IsSystemAdmin user) (source : GrantSource) :
    principal.holds (t.grants.granteesOf project.permissionSchemeId permission) source = true ↔
      t.Supports user project permission source := by
  have granted : ∀ {grantee}, grantee ∈ t.grants.granteesOf project.permissionSchemeId permission ↔
      t.HasGrant project permission grantee := mem_granteesOf
  cases source with
  | systemAdmin =>
    rw [ProjectPrincipal.holds, knows.ordinary]
    exact iff_of_false Bool.false_ne_true ordinary
  | legacyAdmin => exact knows.legacyAdmin.trans isLegacyAdmin_iff_supports
  | directUser => exact (isNamed_iff knows _).trans granted
  | group =>
    rw [ProjectPrincipal.holds, isInGroup_iff knows]
    simp only [granted, Tables.Supports]
  | projectRole =>
    rw [ProjectPrincipal.holds, isInRole_iff knows]
    simp only [granted, Tables.Supports]
  | globalRole => exact iff_of_false Bool.false_ne_true id
  | anyone => exact List.contains_iff_mem.trans granted

/-- Nothing comes before the role of a system administrator. -/
private theorem isFirst_iff_of_systemAdmin (admin : t.IsSystemAdmin user) {source : GrantSource} :
    t.IsFirst user project permission source ↔ source = .systemAdmin := by
  constructor
  · rintro ⟨_ | ⟨other, earlier⟩, later, split, -, none⟩
    · exact (List.cons.inj split).1.symm
    · have same : GrantSource.systemAdmin = other := (List.cons.inj split).1
      rw [← same] at none
      exact absurd admin (none _ List.mem_cons_self)
  · rintro rfl
    exact ⟨[], _, rfl, admin, List.forall_mem_nil _⟩

end Sources

/-- A check grants when one of the six facts holds, and names the first that does. It finds no
project that is not there, whoever asks. -/
theorem permission_has_source (store : Store) (available : store.unavailable = false)
    (user : UserId) (id : ProjectId) (permission : Permission) :
    match store.tables.projects.get? id with
    | none => (Authority.checkProject user id permission).run store =
        .error (.notFound s!"project {id.text}")
    | some project => ∃ decision,
        (Authority.checkProject user id permission).run store = .ok decision ∧
        ((∃ source, decision = .granted source) ↔ ∃ source ∈ GrantSource.inProjects,
          store.tables.Supports user project permission source) ∧
        ∀ source, decision = .granted source ↔
          store.tables.IsFirst user project permission source := by
  have looked : (Authority.project id).run store = _ := Query.lookFor_run available _ _
  cases stored : store.tables.projects.get? id with
  | none =>
    dsimp only
    rw [Authority.checkProject, Query.run_bind, looked, stored]
    rfl
  | some project =>
    dsimp only
    rw [stored] at looked
    obtain ⟨principal, answered, meaning, knows⟩ := projectPrincipal_run available user id
    rw [Authority.checkProject, Query.bind_run_of_ok looked, Query.bind_run_of_ok answered]
    cases admin : principal.isSystemAdmin with
    | true =>
      have isAdmin := meaning.1 admin
      have first : principal.resolve [] = .granted .systemAdmin := by
        rw [ProjectPrincipal.resolve_eq, Decision.first_eq_granted_iff]
        exact ⟨[], _, rfl, admin, List.forall_mem_nil _⟩
      refine ⟨_, rfl, ?_, fun source => ?_⟩
      · refine iff_of_true ⟨_, first⟩ ⟨.systemAdmin, List.mem_cons_self, isAdmin⟩
      · rw [first, isFirst_iff_of_systemAdmin isAdmin, Decision.granted.injEq, eq_comm]
    | false =>
      have ordinary : ¬ store.tables.IsSystemAdmin user := by
        rw [← meaning, admin]
        exact Bool.false_ne_true
      have sameId : project.id = id := Table.key_of_get? stored
      have holds : ∀ source, principal.holds (store.tables.grants.granteesOf
          project.permissionSchemeId permission) source = true ↔
          store.tables.Supports user project permission source :=
        holds_iff (sameId ▸ knows admin) ordinary
      rw [if_neg Bool.false_ne_true, Query.bind_run_of_ok (Query.look_run available _)]
      refine ⟨_, rfl, ?_, fun source => ?_⟩
      · rw [← Decision.isGranted_iff, ProjectPrincipal.resolve_eq, Decision.isGranted_first]
        simp only [List.any_map, List.any_eq_true, Function.comp_apply, holds]
      · rw [ProjectPrincipal.resolve_eq, Decision.first_eq_granted_iff, Tables.IsFirst]
        simp only [← holds, Bool.not_eq_true]

/-- The sample store with a user whose account is shut, who may edit issues as a member of a group
that is an actor of a role, and because anyone may. -/
def Sample.staffed : Store :=
  Sample.store.after [
    .operation (.onAccounts (.putUser ⟨⟨"bob"⟩, "bob", "Bob", true, false, ⟨0, 0⟩⟩)),
    .operation (.onAccounts (.createGroup ⟨⟨"G"⟩, "guests", none, ⟨0, 0⟩⟩)),
    .operation (.onAccounts (.addMember ⟨"G"⟩ ⟨"bob"⟩)),
    .operation (.onMembership (.createRole ⟨⟨"R"⟩, "Editors", none, ⟨0, 0⟩⟩)),
    .operation (.onMembership (.addActor ⟨"P1"⟩ ⟨"R"⟩ (.group ⟨"G"⟩))),
    .operation (.onGrants (.grant ⟨"PS"⟩ .editIssues .anyone)),
    .operation (.onGrants (.grant ⟨"PS"⟩ .editIssues (.projectRole ⟨"R"⟩)))]

theorem sample_source :
    Sample.staffed.unavailable = false ∧ ∃ project,
      Sample.staffed.tables.projects.get? ⟨"P1"⟩ = some project ∧
      (Authority.checkProject ⟨"bob"⟩ ⟨"P1"⟩ .editIssues).run Sample.staffed =
        .ok (.granted .projectRole) ∧
      Sample.staffed.tables.IsFirst ⟨"bob"⟩ project .editIssues .projectRole := by
  have available : Sample.staffed.unavailable = false := by decide +kernel
  have decided : ((Authority.checkProject ⟨"bob"⟩ ⟨"P1"⟩ .editIssues).run
      Sample.staffed).toOption = some (.granted .projectRole) := by
    decide +kernel
  have meaning := permission_has_source Sample.staffed available ⟨"bob"⟩ ⟨"P1"⟩ .editIssues
  refine ⟨available, ?_⟩
  cases stored : Sample.staffed.tables.projects.get? ⟨"P1"⟩ with
  | none =>
    rw [stored] at meaning
    rw [meaning] at decided
    cases decided
  | some project =>
    rw [stored] at meaning
    obtain ⟨decision, answered, -, first⟩ := meaning
    rw [answered] at decided
    have same : decision = .granted .projectRole := Option.some.inj decided
    exact ⟨project, rfl, same ▸ answered, (first .projectRole).1 same⟩

end IssueFlow
