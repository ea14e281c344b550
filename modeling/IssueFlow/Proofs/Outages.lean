import IssueFlow.Proofs.PermissionMeaning
import IssueFlow.Proofs.Reachable
import Mathlib.Data.List.Basic

/-!
# Outages during a query

The switch may be thrown before any of the readings that a query makes. The query answers what it
would have answered without, unless one of its own readings fails; then it says that
(`Query.runScheduled_eq`). So a check of permissions never mistakes a failure for an answer. Denials
and failures stay apart up to the service, and what a user is told of a failure is the same whatever
the store said of it.
-/

namespace IssueFlow

namespace Query

variable {ε α β : Type}

/-- A reading is one of the store, switched as the schedule says. -/
private theorem runScheduled_reading (store : Store) (thrown : Bool) (later : List Bool)
    (look : Tables → β) (refused : StorageError → ε) (next : β → Query ε α) :
    (reading look refused next).runScheduled store.tables (thrown :: later) =
      match (store.step (.switch thrown)).read look with
      | .ok b => (next b).runScheduled store.tables later
      | .error e => .error (refused e) := by
  cases thrown <;> rfl

/-- How many readings a query makes when none of them fails. -/
def readings (tables : Tables) : Query ε α → Nat
  | .done _ => 0
  | .reading look _ next => (next (look tables)).readings tables + 1

/-- A reading of the query falls into an outage. -/
def HitBy (tables : Tables) (schedule : List Bool) (query : Query ε α) : Prop :=
  true ∈ schedule.take (query.readings tables)

instance (tables : Tables) (schedule : List Bool) (query : Query ε α) :
    Decidable (query.HitBy tables schedule) :=
  inferInstanceAs (Decidable (true ∈ _))

/-- Every reading that fails ends the query with the error of the store. -/
inductive TellsFaults [OfStorage ε] : Query ε α → Prop
  | done (result : Except ε α) : TellsFaults (.done result)
  | reading {β : Type} (look : Tables → β) {next : β → Query ε α}
      (rest : ∀ b, TellsFaults (next b)) : TellsFaults (.reading look OfStorage.ofStorage next)

section TellsFaults

variable [OfStorage ε]

private theorem tellsFaults_pure (a : α) : (pure a : Query ε α).TellsFaults :=
  .done _

private theorem tellsFaults_look (f : Tables → α) : (look f : Query ε α).TellsFaults :=
  .reading f fun _ => .done _

private theorem TellsFaults.bind {query : Query ε α} {next : α → Query ε β}
    (first : query.TellsFaults) (rest : ∀ a, (next a).TellsFaults) :
    (query >>= next).TellsFaults := by
  show (query.bind next).TellsFaults
  induction first with
  | done result =>
    cases result with
    | ok a => exact rest a
    | error e => exact .done _
  | reading look _ ih => exact .reading look ih

private theorem tellsFaults_lookFor (find : Tables → Option α) (missing : ε) :
    (lookFor find missing : Query ε α).TellsFaults := by
  refine (tellsFaults_look find).bind fun found => ?_
  cases found with
  | some a => exact .done _
  | none => exact .done _

/-- A query whose readings escape the outages answers as if there were none; any other says that
the store was out of reach. -/
theorem runScheduled_eq {query : Query ε α} (tells : query.TellsFaults) (store : Store)
    (schedule : List Bool) :
    query.runScheduled store.tables schedule =
      if query.HitBy store.tables schedule then .error (OfStorage.ofStorage .outage)
      else query.run (store.step (.switch false)) := by
  induction tells generalizing schedule with
  | done result =>
    rw [if_neg (by simp [HitBy, readings])]
    cases schedule <;> rfl
  | reading look _ ih =>
    cases schedule with
    | nil =>
      rw [if_neg (by simp [HitBy])]
      exact (ih (look store.tables) []).trans (if_neg (by simp [HitBy]))
    | cons thrown later =>
      cases thrown with
      | true =>
        rw [if_pos (by simp [HitBy, readings])]
        rfl
      | false =>
        rw [runScheduled_reading, Store.read_of_available rfl]
        refine (ih (look store.tables) later).trans ?_
        simp only [HitBy, readings, List.take_succ_cons, List.mem_cons, Bool.true_eq_false,
          false_or]
        rfl

end TellsFaults

/-- Under a schedule of outages a query fails when one of its readings falls into an outage, and
otherwise answers as if there were none. -/
def Withstands (query : Query AccessError α) (store : Store) (schedule : List Bool) : Prop :=
  query.runScheduled store.tables schedule =
    if query.HitBy store.tables schedule then .error (.resolution .outage)
    else query.run (store.step (.switch false))

end Query

section Checks

variable (user : UserId) (project : ProjectId)

private theorem globalRolesForUser_tellsFaults :
    (RoleHolding.globalRolesForUser user).TellsFaults :=
  Query.tellsFaults_look _

private theorem roleIdsForUser_tellsFaults (groups : List GroupId) :
    (RoleHolding.roleIdsForUser project user groups).TellsFaults :=
  (Query.tellsFaults_look _).bind fun _ => Query.tellsFaults_pure _

private theorem isUserInRole_tellsFaults (role : RoleId) :
    (RoleHolding.isUserInRole project role user).TellsFaults := by
  refine (Query.tellsFaults_look _).bind fun actors => ?_
  cases actors.contains (.user user) with
  | true => exact Query.tellsFaults_pure _
  | false =>
    cases actors.any (·.type == .group) with
    | false => exact Query.tellsFaults_pure _
    | true => exact (Query.tellsFaults_look _).bind fun _ => Query.tellsFaults_pure _

private theorem projectPrincipal_tellsFaults :
    (Authority.projectPrincipal user project).TellsFaults := by
  have administrator : (RoleHolding.isSystemAdmin user).TellsFaults :=
    (globalRolesForUser_tellsFaults user).bind fun _ => Query.tellsFaults_pure _
  refine administrator.bind fun isSystemAdmin => ?_
  cases isSystemAdmin with
  | true => exact Query.tellsFaults_pure _
  | false =>
    refine (Query.tellsFaults_look _).bind fun account => ?_
    refine (Query.tellsFaults_look _).bind fun groups => ?_
    exact (roleIdsForUser_tellsFaults user project groups).bind fun _ => Query.tellsFaults_pure _

private theorem checkProject_tellsFaults (permission : Permission) :
    (Authority.checkProject user project permission).TellsFaults := by
  refine (Query.tellsFaults_lookFor _ _).bind fun found => ?_
  refine (projectPrincipal_tellsFaults user project).bind fun principal => ?_
  cases principal.isSystemAdmin with
  | true => exact Query.tellsFaults_pure _
  | false => exact (Query.tellsFaults_look _).bind fun _ => Query.tellsFaults_pure _

private theorem hasProject_tellsFaults (permission : Permission) :
    (Authority.hasProject user project permission).TellsFaults :=
  (checkProject_tellsFaults user project permission).bind fun _ => Query.tellsFaults_pure _

private theorem listProject_tellsFaults : (Authority.listProject user project).TellsFaults := by
  refine (Query.tellsFaults_lookFor _ _).bind fun found => ?_
  refine (projectPrincipal_tellsFaults user project).bind fun principal => ?_
  cases principal.isSystemAdmin || principal.isLegacyAdmin with
  | true => exact Query.tellsFaults_pure _
  | false => exact (Query.tellsFaults_look _).bind fun _ => Query.tellsFaults_pure _

private theorem checkGlobal_tellsFaults (permission : GlobalPermission) :
    (Authority.checkGlobal user permission).TellsFaults := by
  refine (globalRolesForUser_tellsFaults user).bind fun roles => ?_
  cases roles.any (·.kind == .systemAdmin) with
  | true => exact Query.tellsFaults_pure _
  | false =>
    refine (Query.tellsFaults_look _).bind fun groups => ?_
    exact (Query.tellsFaults_look _).bind fun _ => Query.tellsFaults_pure _

private theorem hasGlobal_tellsFaults (permission : GlobalPermission) :
    (Authority.hasGlobal user permission).TellsFaults :=
  (checkGlobal_tellsFaults user permission).bind fun _ => Query.tellsFaults_pure _

end Checks

namespace Query

/-- Ends with a denial unless a check grants. -/
def orDeny (check : Query AccessError Decision) (permission : String) : Query AccessError Unit := do
  let decision ← check
  if decision.isGranted then return ()
  else fail (.permissionDenied permission)

private theorem TellsFaults.orDeny {check : Query AccessError Decision} (tells : check.TellsFaults)
    (permission : String) : (check.orDeny permission).TellsFaults := by
  refine tells.bind fun decision => ?_
  cases decision.isGranted with
  | true => exact tellsFaults_pure _
  | false => exact .done _

/-- A requirement fails with the check, and otherwise answers what the check decides. -/
private theorem orDeny_cases (store : Store) (check : Query AccessError Decision)
    (permission : String) :
    (∃ e, check.run store = .error e ∧ (check.orDeny permission).run store = .error e) ∨
    (check.run store = .ok .denied ∧
      (check.orDeny permission).run store = .error (.permissionDenied permission)) ∨
    ∃ source, check.run store = .ok (.granted source) ∧
      (check.orDeny permission).run store = .ok () := by
  rw [orDeny, run_bind]
  cases check.run store with
  | error e => exact .inl ⟨e, rfl, rfl⟩
  | ok decision =>
    cases decision with
    | denied => exact .inr (.inl ⟨rfl, rfl⟩)
    | granted source => exact .inr (.inr ⟨source, rfl, rfl⟩)

/-- Whenever the switch is thrown, a requirement of a permission is met only where the check grants
without outages, and refused with a denial only where the check denies. -/
structure Decides (requirement : Query AccessError Unit) (check : Query AccessError Decision)
    (permission : String) (store : Store) (schedule : List Bool) : Prop where
  granted : requirement.runScheduled store.tables schedule = .ok () →
    ∃ source, check.run (store.step (.switch false)) = .ok (.granted source)
  denied : ∀ name, requirement.runScheduled store.tables schedule =
    .error (.permissionDenied name) →
      name = permission ∧ check.run (store.step (.switch false)) = .ok .denied

private theorem decides_of_answers {requirement : Query AccessError Unit}
    {check : Query AccessError Decision} {permission : String} {store : Store}
    (requires : ∀ store, requirement.run store = (check.orDeny permission).run store)
    (tells : requirement.TellsFaults)
    (honest : ∀ name, check.run (store.step (.switch false)) ≠ .error (.permissionDenied name))
    (schedule : List Bool) : requirement.Decides check permission store schedule := by
  have scheduled := runScheduled_eq tells store schedule
  rw [requires] at scheduled
  by_cases hit : requirement.HitBy store.tables schedule
  · rw [if_pos hit] at scheduled
    refine ⟨fun met => ?_, fun name refused => ?_⟩
    · cases scheduled.symm.trans met
    · cases scheduled.symm.trans refused
  · rw [if_neg hit] at scheduled
    rcases orDeny_cases (store.step (.switch false)) check permission with
      ⟨e, failed, same⟩ | ⟨denied, same⟩ | ⟨source, granted, same⟩ <;> rw [same] at scheduled
    · refine ⟨fun met => ?_, fun name refused => ?_⟩
      · cases scheduled.symm.trans met
      · cases scheduled.symm.trans refused
        exact absurd failed (honest name)
    · refine ⟨fun met => ?_, fun name refused => ?_⟩
      · cases scheduled.symm.trans met
      · cases scheduled.symm.trans refused
        exact ⟨rfl, denied⟩
    · refine ⟨fun _ => ⟨source, granted⟩, fun name refused => ?_⟩
      cases scheduled.symm.trans refused

end Query

section Requirements

variable (user : UserId)

private theorem requireGlobal_run (permission : GlobalPermission) (store : Store) :
    (Authority.requireGlobal user permission).run store =
      ((Authority.checkGlobal user permission).orDeny permission.name).run store := by
  rw [Authority.requireGlobal, Authority.hasGlobal, Query.orDeny, Query.run_bind, Query.run_bind,
    Query.run_bind]
  cases (Authority.checkGlobal user permission).run store <;> rfl

/-- A check of a project permission never ends with a denial. -/
private theorem checkProject_run_ne_denied {store : Store} (available : store.unavailable = false)
    (project : ProjectId) (permission : Permission) (name : String) :
    (Authority.checkProject user project permission).run store ≠
      .error (.permissionDenied name) := by
  cases found : store.tables.projects.get? project with
  | none =>
    rw [Authority.checkProject, Query.run_bind, Authority.project, Query.lookFor_run available,
      found]
    rintro ⟨⟩
  | some row =>
    obtain ⟨decision, answered, -⟩ := checkProject_run available found user permission
    rw [answered]
    rintro ⟨⟩

private theorem checkGlobal_run_ne_denied {store : Store} (available : store.unavailable = false)
    (permission : GlobalPermission) (name : String) :
    (Authority.checkGlobal user permission).run store ≠ .error (.permissionDenied name) := by
  obtain ⟨decision, answered, -⟩ := checkGlobal_run available user permission
  rw [answered]
  rintro ⟨⟩

end Requirements

section Retold

variable (tell : StorageError → StorageError)

/-- The error, had the store failed in another way. -/
def AccessError.retold : AccessError → AccessError
  | .resolution cause => .resolution (tell cause)
  | .permissionDenied permission => .permissionDenied permission
  | .notFound what => .notFound what

def TransitionError.retold : TransitionError → TransitionError
  | .storage cause => .storage (tell cause)
  | .access cause => .access (cause.retold tell)
  | .notFound what => .notFound what
  | .rejected rejection => .rejected rejection
  | .misconfigured what => .misconfigured what
  | .dispatch cause => .dispatch cause

def ServiceError.retold : ServiceError → ServiceError
  | .permissionCheckFailed cause => .permissionCheckFailed (cause.retold tell)
  | .transition cause => .transition (cause.retold tell)
  | .storage cause => .storage (tell cause)
  | .notFound what => .notFound what
  | .permissionDenied permission => .permissionDenied permission

private theorem AccessError.userMessage_retold (e : AccessError) :
    (e.retold tell).userMessage = e.userMessage := by
  cases e <;> rfl

private theorem TransitionError.userMessage_retold (e : TransitionError) :
    (e.retold tell).userMessage = e.userMessage := by
  cases e with
  | access cause => exact cause.userMessage_retold tell
  | _ => rfl

private theorem ServiceError.userMessage_retold (e : ServiceError) :
    (e.retold tell).userMessage = e.userMessage := by
  cases e with
  | transition cause => exact cause.userMessage_retold tell
  | _ => rfl

end Retold

namespace ServiceError

/-- To the service a denial is a denial. -/
private theorem ofAccess_eq_permissionDenied_iff {e : AccessError} {permission : String} :
    ofAccess e = permissionDenied permission ↔ e = .permissionDenied permission := by
  cases e <;> simp [ofAccess]

/-- To the service a failed reading is a check that failed. -/
private theorem ofAccess_eq_permissionCheckFailed_iff {e cause : AccessError} :
    ofAccess e = permissionCheckFailed cause ↔ e = cause ∧ ∃ fault, cause = .resolution fault := by
  cases e <;> cases cause <;> simp [ofAccess]

end ServiceError

/-- Whenever the switch is thrown during a check, it fails because the store was out of reach, or
answers as it would have otherwise. Nobody is denied or granted a permission because of an outage,
the service keeps denials and failed checks apart, and no user is told what the store said. -/
theorem fault_is_no_answer (store : Store) (schedule : List Bool) (user : UserId)
    (project : ProjectId) :
    (∀ permission,
      (Authority.hasProject user project permission).Withstands store schedule) ∧
    (∀ permission, (Authority.hasGlobal user permission).Withstands store schedule) ∧
    (Authority.listProject user project).Withstands store schedule ∧
    (∀ role, (RoleHolding.isUserInRole project role user).Withstands store schedule) ∧
    (∀ permission, (Authority.requireProject user project permission).Decides
      (Authority.checkProject user project permission) permission.name store schedule) ∧
    (∀ permission, (Authority.requireGlobal user permission).Decides
      (Authority.checkGlobal user permission) permission.name store schedule) ∧
    (∀ e permission, ServiceError.ofAccess e = .permissionDenied permission ↔
      e = .permissionDenied permission) ∧
    (∀ e cause, ServiceError.ofAccess e = .permissionCheckFailed cause ↔
      e = cause ∧ ∃ fault, cause = .resolution fault) ∧
    (∀ tell (e : AccessError), (e.retold tell).userMessage = e.userMessage) ∧
    (∀ tell (e : TransitionError), (e.retold tell).userMessage = e.userMessage) ∧
    ∀ tell (e : ServiceError), (e.retold tell).userMessage = e.userMessage := by
  refine ⟨?_, ?_, ?_, ?_, ?_, ?_, ?_, ?_, ?_, ?_, ?_⟩
  · intro permission
    exact Query.runScheduled_eq (hasProject_tellsFaults user project permission) store schedule
  · intro permission
    exact Query.runScheduled_eq (hasGlobal_tellsFaults user permission) store schedule
  · exact Query.runScheduled_eq (listProject_tellsFaults user project) store schedule
  · intro role
    exact Query.runScheduled_eq (isUserInRole_tellsFaults user project role) store schedule
  · intro permission
    refine Query.decides_of_answers (fun _ => rfl) ?_ ?_ schedule
    · exact (checkProject_tellsFaults user project permission).orDeny _
    · exact checkProject_run_ne_denied user rfl project permission
  · intro permission
    refine Query.decides_of_answers (requireGlobal_run user permission) ?_ ?_ schedule
    · refine (hasGlobal_tellsFaults user permission).bind fun granted => ?_
      cases granted with
      | true => exact Query.tellsFaults_pure _
      | false => exact .done _
    · exact checkGlobal_run_ne_denied user rfl permission
  · exact fun e permission => ServiceError.ofAccess_eq_permissionDenied_iff
  · exact fun e cause => ServiceError.ofAccess_eq_permissionCheckFailed_iff
  · exact fun tell e => e.userMessage_retold tell
  · exact fun tell e => e.userMessage_retold tell
  · exact fun tell e => e.userMessage_retold tell

/-- An outage at the last of six readings ends the check of the reporter's permission, and a later
one does nothing. Another user is denied it. -/
theorem sample_fault_told :
    (Authority.hasProject Sample.reporter.id ⟨"P1"⟩ .transitionIssues).runScheduled
        Sample.store.tables [false, false, false, false, false, true] =
      .error (.resolution .outage) ∧
    (Authority.hasProject Sample.reporter.id ⟨"P1"⟩ .transitionIssues).runScheduled
        Sample.store.tables [false, false, false, false, false, false, true] = .ok true ∧
    (Authority.requireProject ⟨"bob"⟩ ⟨"P1"⟩ .transitionIssues).runScheduled
        Sample.store.tables [] = .error (.permissionDenied "transition_issues") ∧
    (Authority.checkProject ⟨"bob"⟩ ⟨"P1"⟩ .transitionIssues).run
        (Sample.store.step (.switch false)) = .ok .denied := by
  obtain ⟨struck, -⟩ := fault_is_no_answer Sample.store
    [false, false, false, false, false, true] Sample.reporter.id ⟨"P1"⟩
  obtain ⟨spared, -⟩ := fault_is_no_answer Sample.store
    [false, false, false, false, false, false, true] Sample.reporter.id ⟨"P1"⟩
  obtain ⟨-, -, -, -, decides, -⟩ := fault_is_no_answer Sample.store [] ⟨"bob"⟩ ⟨"P1"⟩
  have refused : (Authority.requireProject ⟨"bob"⟩ ⟨"P1"⟩ .transitionIssues).runScheduled
      Sample.store.tables [] = .error (.permissionDenied "transition_issues") := by
    decide +kernel
  refine ⟨?_, ?_, refused, ((decides .transitionIssues).denied _ refused).2⟩
  · exact (struck .transitionIssues).trans (if_pos (by decide +kernel))
  · refine ((spared .transitionIssues).trans (if_neg (by decide +kernel))).trans ?_
    decide +kernel

end IssueFlow
