import IssueFlow.Authority.RoleChange
import IssueFlow.Proofs.GlobalRoles
import IssueFlow.Proofs.TransitionFrame

/-!
# The rights of administrators

Who becomes a system administrator by a call of any layer: of the store, of the role directory, of
the catalogue of workflows, of the executor or of the service. It is a user whom the call adds to
the role of that kind (`Call.Appoints`), but for one slip: the role may be created under the key of
another, whose members then hold it (`Call.Repurposes`).
-/

namespace IssueFlow

/-- The world that a program on the store leaves. -/
def World.onStore {ε α : Type} (world : World) (program : Program ε α) : World :=
  { world with store := (program.run world.store).2 }

/-- A call of one of the layers. -/
inductive Call : Type 1 where
  | operate (op : Tables.Operation)
  /-- A question to the store or to a layer above it. -/
  | ask {ε α : Type} (query : Query ε α)
  | copyDefaultsToProject (project : ProjectId)
  | addActor (project : ProjectId) (role : RoleId) (actor : Actor)
  | removeActor (project : ProjectId) (role : RoleId) (actor : Actor)
  | addDefaultActor (role : RoleId) (actor : Actor)
  | removeDefaultActor (role : RoleId) (actor : Actor)
  | addGlobalRoleMember (kind : GlobalRoleKind) (user : UserId)
  | removeGlobalRoleMember (kind : GlobalRoleKind) (user : UserId)
  | mapIssueType (mapping : SchemeMapping)
  | unmapIssueType (scheme : WorkflowSchemeId) (issueType : Option IssueTypeId)
  /-- The executor takes an issue as it was read. -/
  | take (issue : Issue) (target : StatusId) (actor : UserId) (submission : Submission)
  | offer (issue : Issue) (actor : UserId)
  /-- The service takes a stored issue. -/
  | transition (id : IssueId) (target : StatusId) (actor : UserId) (submission : Submission)
  | available (id : IssueId) (actor : UserId)

namespace Call

/-- The world that a call leaves. -/
def leave (executor : Executor) (world : World) : Call → World
  | operate op => { world with store := world.store.step (.operation op) }
  | ask query => world.onStore (Program.ask query)
  | copyDefaultsToProject project => world.onStore (RoleHolding.copyDefaultsToProject project)
  | addActor project role actor => world.onStore (RoleHolding.addActor project role actor)
  | removeActor project role actor => world.onStore (RoleHolding.removeActor project role actor)
  | addDefaultActor role actor => world.onStore (RoleHolding.addDefaultActor role actor)
  | removeDefaultActor role actor => world.onStore (RoleHolding.removeDefaultActor role actor)
  | addGlobalRoleMember kind user => world.onStore (RoleHolding.addGlobalRoleMember kind user)
  | removeGlobalRoleMember kind user =>
    world.onStore (RoleHolding.removeGlobalRoleMember kind user)
  | mapIssueType mapping => world.onStore (Route.mapIssueType mapping)
  | unmapIssueType scheme issueType => world.onStore (Route.unmapIssueType scheme issueType)
  | take issue target actor submission =>
    ((executor.take issue target actor submission).run world).2
  | offer issue actor => ((executor.available issue actor).run world).2
  | transition id target actor submission =>
    ((Service.transition executor id target actor submission).run world).2
  | available id actor => ((Service.available executor id actor).run world).2

/-- The call adds the user to the role of system administrators. -/
inductive Appoints (store : Store) (user : UserId) : Call → Prop where
  | store (role : GlobalRole) (stored : role ∈ store.tables.membership.globalRoles.rows)
      (kind : role.kind = .systemAdmin) :
      Appoints store user (.operate (.onMembership (.addGlobalMember role.id user)))
  | directory (role : GlobalRole) (stored : role ∈ store.tables.membership.globalRoles.rows)
      (kind : role.kind = .systemAdmin) :
      Appoints store user (.addGlobalRoleMember .systemAdmin user)

/-- The call creates the role of system administrators under the key of another role, which the
user is a member of. -/
inductive Repurposes (store : Store) (user : UserId) : Call → Prop where
  | intro (role former : GlobalRole) (available : store.unavailable = false)
      (kind : role.kind = .systemAdmin)
      (absent : ∀ other ∈ store.tables.membership.globalRoles.rows, other.kind ≠ .systemAdmin)
      (stored : former ∈ store.tables.membership.globalRoles.rows) (taken : role.id = former.id)
      (member : (former.id, user) ∈ store.tables.membership.globalMembers.rows) :
      Repurposes store user (.operate (.onMembership (.createGlobalRole role)))

end Call

namespace Store

/-- Nobody becomes a system administrator. -/
def AdmitsNobody (store later : Store) : Prop :=
  ∀ user, later.tables.IsSystemAdmin user → store.tables.IsSystemAdmin user

instance : IsPreorder Store AdmitsNobody where
  refl _ _ := id
  trans _ _ _ before later user := before user ∘ later user

private theorem admitsNobody_of_membership {store later : Store}
    (same : later.tables.membership = store.tables.membership) : AdmitsNobody store later := by
  intro user admin
  rwa [Tables.IsSystemAdmin, same] at admin

private theorem admitsNobody_of_sharesRest {store later : Store} (shared : SharesRest store later) :
    AdmitsNobody store later := by
  rw [SharesRest] at shared
  exact admitsNobody_of_membership (by rw [shared])

end Store

/-- An operation after which a user may hold a global role that was not held before. -/
def Membership.Operation.admits : Membership.Operation → Bool
  | .createGlobalRole _ | .addGlobalMember _ _ => true
  | _ => false

namespace Program

variable {ε α : Type} [OfStorage ε]

omit [OfStorage ε] in
private theorem ask_admitsNobody (query : Query ε α) : Keeps Store.AdmitsNobody (ask query).run :=
  keeps_of_same fun _ => rfl

omit [OfStorage ε] in
private theorem orElseFail_admitsNobody (answer : Bool) (e : ε) :
    Keeps Store.AdmitsNobody (orElseFail answer e).run := by
  cases answer
  · exact keeps_throw e
  · exact keeps_return ()

/-- A change of the workflow tables lets nobody in. -/
private theorem writeGraph_admitsNobody (op : Change Graph α) :
    Keeps Store.AdmitsNobody (write fun _ => Tables.onGraph op : Program ε α).run := by
  intro store
  show store.AdmitsNobody (store.update (Tables.onGraph op)).2
  rcases Bool.eq_false_or_eq_true store.unavailable with unavailable | available
  · rw [Store.update, if_pos unavailable]
    exact Std.Refl.refl store
  · rw [Store.update_of_available available]
    exact Store.admitsNobody_of_membership rfl

section Membership

variable (ε) {op : Timestamp → Change Membership α} (operation : Membership.Operation)
  (wrap : α → Answer) (applies : ∀ now, operation.apply now = answering wrap (op now))

include applies

/-- A write to the role tables fails and leaves the store, or changes them as its operation does. -/
private theorem writeMembership_cases (store : Store) :
    let later := ((write fun now => Tables.onMembership (op now) : Program ε α).run store).2
    later = store ∨ store.tables.membership.Changes later.tables.membership operation := by
  show (store.update (Tables.onMembership (op store.now))).2 = store ∨
    store.tables.membership.Changes
      (store.update (Tables.onMembership (op store.now))).2.tables.membership operation
  have clean : FailsClean (op store.now) :=
    failsClean_of_answering (applies store.now ▸ operation.failsClean store.now)
  rcases store.update_cases clean.onMembership with
    ⟨e, failed⟩ | ⟨answer, tables, -, done, updated⟩
  · exact .inl (by rw [failed])
  · obtain ⟨membership, applied, rfl⟩ := within_eq_ok_iff.1 done
    have executed : (operation.apply store.now).run store.tables.membership =
        (.ok (wrap answer), membership) := by
      rw [applies]
      exact answering_eq_ok_iff.2 ⟨answer, applied, rfl⟩
    rw [updated]
    exact .inr (Membership.changes_of_apply executed)

/-- A write to the role tables lets nobody in but by a new role or a new member. -/
private theorem writeMembership_admitsNobody (modest : operation.admits = false) :
    Keeps Store.AdmitsNobody (write fun now => Tables.onMembership (op now) : Program ε α).run := by
  intro store user admin
  by_contra before
  rcases writeMembership_cases ε operation wrap applies store with same | changes
  · exact before (same ▸ admin)
  · rcases systemAdmin_cases changes before admin with ⟨role, -, -, rfl⟩ | ⟨role, -, -, -, rfl⟩ <;>
      cases modest

end Membership

end Program

namespace Call

/-- The calls that are looked at one by one. -/
def Admits : Call → Prop
  | operate _ | addGlobalRoleMember _ _ => True
  | _ => False

/-- By all other calls nobody becomes a system administrator. -/
private theorem admitsNobody_of_not_admits {executor : Executor}
    (harmless : executor.registry.Harmless) (world : World) {call : Call} (modest : ¬ call.Admits) :
    world.store.AdmitsNobody (call.leave executor world).store := by
  have gates := harmless.gatesShareRest
  have postFunctions : executor.registry.PostFunctionsKeep (World.Along Store.SharesRest) :=
    harmless.postFunctionsShareRest
  cases call with
  | operate | addGlobalRoleMember => exact absurd trivial modest
  | ask query => exact Program.ask_admitsNobody query world.store
  | copyDefaultsToProject project =>
    refine Keeps.run_bind (Program.ask_admitsNobody _) (fun _ => ?_) world.store
    exact Program.writeMembership_admitsNobody _ (.copyDefaults project) .count
      (fun _ => rfl) rfl
  | addActor project role actor =>
    refine Keeps.run_bind (Program.ask_admitsNobody _) (fun _ => ?_) world.store
    exact Program.writeMembership_admitsNobody _ (.addActor project role actor) .flag
      (fun _ => rfl) rfl
  | addDefaultActor role actor =>
    refine Keeps.run_bind (Program.ask_admitsNobody _) (fun _ => ?_) world.store
    exact Program.writeMembership_admitsNobody _ (.addDefault role actor) .flag
      (fun _ => rfl) rfl
  | removeActor project role actor =>
    refine Keeps.run_bind ?_ (fun _ => Program.orElseFail_admitsNobody _ _) world.store
    exact Program.writeMembership_admitsNobody _ (.removeActor project role actor) .flag
      (fun _ => rfl) rfl
  | removeDefaultActor role actor =>
    refine Keeps.run_bind ?_ (fun _ => Program.orElseFail_admitsNobody _ _) world.store
    exact Program.writeMembership_admitsNobody _ (.removeDefault role actor) .flag
      (fun _ => rfl) rfl
  | removeGlobalRoleMember kind user =>
    refine Keeps.run_bind (Program.ask_admitsNobody _) (fun role => ?_) world.store
    refine Keeps.run_bind ?_ (fun _ => Program.orElseFail_admitsNobody _ _)
    exact Program.writeMembership_admitsNobody _ (.removeGlobalMember role.id user) .flag
      (fun _ => rfl) rfl
  | mapIssueType mapping =>
    refine Keeps.run_bind (Program.ask_admitsNobody _) (fun _ => ?_) world.store
    refine Keeps.run_bind (Program.ask_admitsNobody _) (fun _ => ?_)
    exact Program.writeGraph_admitsNobody _
  | unmapIssueType scheme issueType =>
    refine Keeps.run_bind ?_ (fun _ => Program.orElseFail_admitsNobody _ _) world.store
    exact Program.writeGraph_admitsNobody _
  | take issue target actor submission =>
    exact Store.admitsNobody_of_sharesRest (Executor.take_keeps postFunctions gates
      commit_sharesRest issue target actor submission world)
  | offer issue actor =>
    exact Store.admitsNobody_of_sharesRest (Executor.available_keeps gates issue actor world)
  | transition id target actor submission =>
    exact Store.admitsNobody_of_sharesRest (Executor.transition_keeps postFunctions gates
      commit_sharesRest id target actor submission world)
  | available id actor =>
    exact Store.admitsNobody_of_sharesRest
      (Executor.serviceAvailable_keeps gates id actor world)

/-- Whoever becomes a system administrator through the role directory was added to that role. -/
private theorem appoints_of_addGlobalRoleMember {store : Store} {kind : GlobalRoleKind}
    {joiner user : UserId} (before : ¬ store.tables.IsSystemAdmin user)
    (becomes : ((RoleHolding.addGlobalRoleMember kind joiner).run store).2.tables.IsSystemAdmin
      user) : Appoints store user (.addGlobalRoleMember kind joiner) := by
  rw [RoleHolding.addGlobalRoleMember, run_bind] at becomes
  cases required : (RoleHolding.requireGlobalRole kind).run store with
  | error e =>
    have asked : (Program.ask (RoleHolding.requireGlobalRole kind)).run store =
        (.error e, store) := congrArg (·, store) required
    rw [asked] at becomes
    exact absurd becomes before
  | ok role =>
    have asked : (Program.ask (RoleHolding.requireGlobalRole kind)).run store =
        (.ok role, store) := congrArg (·, store) required
    rw [asked] at becomes
    obtain ⟨-, found⟩ := Query.lookFor_run_ok required
    have listed : role ∈ store.tables.membership.globalRoles.rows := List.mem_of_find?_eq_some found
    have ofKind : role.kind = kind := by simpa using List.find?_some found
    rcases Program.writeMembership_cases AccessError (.addGlobalMember role.id joiner) .flag
      (fun _ => rfl) store with same | changes
    · exact absurd (same ▸ becomes) before
    · rcases systemAdmin_cases changes before becomes with
        ⟨held, listedToo, admin, joined⟩ | ⟨_, -, -, -, ⟨⟩⟩
      obtain ⟨sameKey, rfl⟩ := Membership.Operation.addGlobalMember.inj joined
      have same : some role = some held := by
        rw [← Table.get?_of_mem listed, ← Table.get?_of_mem listedToo]
        exact congrArg _ sameKey
      cases same
      rw [← ofKind, admin]
      exact .directory role listed admin

/-- Whoever becomes a system administrator by an operation of the store was added to that role, or
was a member of the role whose key it takes. -/
private theorem appoints_or_repurposes {store : Store} {op : Tables.Operation} {user : UserId}
    (rostered : store.tables.membership.Rostered) (available : store.unavailable = false)
    (before : ¬ store.tables.IsSystemAdmin user)
    (becomes : (store.step (.operation op)).tables.IsSystemAdmin user) :
    Appoints store user (.operate op) ∨ Repurposes store user (.operate op) := by
  rcases Store.step_cases store (.operation op) with same | ⟨_, answer, ⟨⟩, done⟩
  · exact absurd (same ▸ becomes) before
  rcases Tables.Operation.membership_cases done with same | ⟨inner, rfl, applied⟩
  · exact absurd (Store.admitsNobody_of_membership same user becomes) before
  rcases systemAdmin_cases (Membership.changes_of_apply applied) before becomes with
    ⟨role, listed, kind, rfl⟩ | ⟨role, kind, apart, member, rfl⟩
  · exact .inl (.store role listed kind)
  · -- Who is a member was added to a role that was there, so the key of the new one is in use.
    obtain ⟨former, stored, same⟩ := Table.contains_iff.1 (rostered _ member)
    have taken : role.id = former.id := same.symm
    exact .inr (.intro role former available kind (kind ▸ apart) stored taken (taken ▸ member))

/-- A role that is created under the key of another takes over its members. -/
private theorem systemAdmin_of_repurposes {store : Store} {call : Call} {user : UserId}
    (repurposes : call.Repurposes store user) : ¬ store.tables.IsSystemAdmin user ∧
      ∃ op, call = .operate op ∧ (store.step (.operation op)).unavailable = false ∧
        (store.step (.operation op)).tables.IsSystemAdmin user := by
  obtain ⟨role, former, available, kind, absent, stored, taken, member⟩ := repurposes
  have apart : store.tables.membership.globalRoles.rows.any (·.kind == role.kind) = false := by
    simpa [kind] using absent
  have made : store.step (.operation (.onMembership (.createGlobalRole role))) = { store with
      tables.membership.globalRoles := store.tables.membership.globalRoles.put role } := by
    have executed : (Membership.createGlobalRole role).run store.tables.membership =
        (.ok (), { store.tables.membership with
          globalRoles := store.tables.membership.globalRoles.put role }) := by
      rw [Membership.createGlobalRole, run_get_bind, apart]
      rfl
    show (store.update (Tables.onMembership
      (answering (fun _ => .done) (Membership.createGlobalRole role)))).2 = _
    rw [Tables.onMembership, Store.update_answering]
    exact congrArg Prod.snd (Store.update_onMembership available executed)
  constructor
  · rintro ⟨held, listed, admin, -⟩
    exact absent held listed admin
  · refine ⟨_, rfl, ?_, ?_⟩ <;> rw [made]
    · exact available
    · exact ⟨role, Table.mem_put.2 (.inl rfl), kind, taken ▸ member⟩

end Call

/-- The answer of the role directory. -/
private theorem isSystemAdmin_run_eq_ok_iff {store : Store} {user : UserId} {admin : Bool} :
    (RoleHolding.isSystemAdmin user).run store = .ok admin ↔
      store.unavailable = false ∧ (admin = true ↔ store.tables.IsSystemAdmin user) := by
  cases switch : store.unavailable with
  | true =>
    have refused : (RoleHolding.isSystemAdmin user).run store = .error (.resolution .outage) := by
      rw [RoleHolding.isSystemAdmin, Query.run_bind, RoleHolding.globalRolesForUser, Query.run_look,
        Store.read, if_pos switch]
      rfl
    rw [refused]
    exact iff_of_false (by rintro ⟨⟩) (by rintro ⟨⟨⟩, -⟩)
  | false =>
    obtain ⟨answer, answered, meaning⟩ := isSystemAdmin_run switch user
    rw [answered, Except.ok.injEq, and_iff_right rfl, ← meaning]
    cases answer <;> cases admin <;> simp

/-- Nobody becomes a system administrator but by an appointment, or when the role is created under
the key of another role that the user is a member of. -/
theorem promotion_is_appointment_iff (executor : Executor) (harmless : executor.registry.Harmless)
    (world : World) (reached : world.store.Reachable) (user : UserId) (call : Call) :
    ((RoleHolding.isSystemAdmin user).run world.store = .ok false →
      (RoleHolding.isSystemAdmin user).run (call.leave executor world).store = .ok true →
        call.Appoints world.store user) ↔
      ¬ call.Repurposes world.store user := by
  simp only [isSystemAdmin_run_eq_ok_iff, Bool.false_eq_true, false_iff, true_iff]
  constructor
  · intro appointed repurposes
    obtain ⟨before, op, rfl, available, becomes⟩ := Call.systemAdmin_of_repurposes repurposes
    cases repurposes with
    | intro role former availableBefore =>
      cases appointed ⟨availableBefore, before⟩ ⟨available, becomes⟩
  · rintro kept ⟨available, before⟩ ⟨-, becomes⟩
    by_cases admits : call.Admits
    · cases call with
      | operate op =>
        exact (Call.appoints_or_repurposes reached.rostered available before becomes).resolve_right
          kept
      | addGlobalRoleMember kind joiner => exact Call.appoints_of_addGlobalRoleMember before becomes
      | _ => cases admits
    · exact absurd (Call.admitsNobody_of_not_admits harmless world admits user becomes) before

namespace Sample

/-- The sample world with the role of this kind, whose key is `staff`, and with these members. -/
def ruled (kind : GlobalRoleKind) (members : List UserId) : World where
  store := store.after (.operation (.onMembership (.createGlobalRole (.ofKind ⟨"staff"⟩ kind))) ::
    members.map fun user => .operation (.onMembership (.addGlobalMember ⟨"staff"⟩ user)))
  outbox := .ofCapacity 4

private theorem ruled_reachable (kind : GlobalRoleKind) (members : List UserId) :
    (ruled kind members).store.Reachable :=
  IsTrans.trans (r := Store.Leads) _ _ _ ⟨steps, rfl⟩ ⟨_, rfl⟩

end Sample

/-- The reporter becomes a system administrator through the role directory. -/
theorem sample_appointment :
    let world := Sample.ruled .systemAdmin []
    let call := Call.addGlobalRoleMember .systemAdmin Sample.reporter.id
    Registry.builtIn.Harmless ∧ world.store.Reachable ∧
      (RoleHolding.isSystemAdmin Sample.reporter.id).run world.store = .ok false ∧
      (RoleHolding.isSystemAdmin Sample.reporter.id).run (call.leave {} world).store = .ok true ∧
      call.Appoints world.store Sample.reporter.id := by
  intro world call
  have reached : world.store.Reachable := Sample.ruled_reachable .systemAdmin []
  have before : (RoleHolding.isSystemAdmin Sample.reporter.id).run world.store = .ok false := by
    decide +kernel
  have becomes : (RoleHolding.isSystemAdmin Sample.reporter.id).run (call.leave {} world).store =
      .ok true := by
    decide +kernel
  refine ⟨.builtIn, reached, before, becomes, ?_⟩
  refine (promotion_is_appointment_iff {} .builtIn world reached _ call).2 ?_ before becomes
  show ¬ (Call.addGlobalRoleMember _ _).Repurposes _ _
  rintro ⟨⟩

/-- The reporter is a member of the role of users, and becomes a system administrator when the role
of those is created under its key. -/
theorem member_promoted :
    let world := Sample.ruled .user [Sample.reporter.id]
    let call : Call := .operate (.onMembership (.createGlobalRole (.ofKind ⟨"staff"⟩ .systemAdmin)))
    world.store.Reachable ∧
      (RoleHolding.isSystemAdmin Sample.reporter.id).run world.store = .ok false ∧
      (RoleHolding.isSystemAdmin Sample.reporter.id).run (call.leave {} world).store = .ok true ∧
      ¬ call.Appoints world.store Sample.reporter.id := by
  intro world call
  have reached : world.store.Reachable := Sample.ruled_reachable .user [Sample.reporter.id]
  refine ⟨reached, by decide +kernel, by decide +kernel, ?_⟩
  show ¬ (Call.operate (.onMembership (.createGlobalRole _))).Appoints _ _
  rintro ⟨⟩

end IssueFlow
