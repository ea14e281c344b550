import IssueFlow.Proofs.PermissionMeaning
import IssueFlow.Proofs.Reachable

/-!
# Listing permissions

The list of a user's permissions in a project is made from all grants of the scheme at once; a check
reads the grantees of one permission. Both look for the project first and answer alike.
-/

namespace IssueFlow

section Failure

variable {store : Store} {id : ProjectId} {e : AccessError}
  (failed : (Authority.project id).run store = .error e) (user : UserId)

include failed

theorem listProject_run_of_error : (Authority.listProject user id).run store = .error e := by
  rw [Authority.listProject, Query.run_bind, failed]
  rfl

theorem hasProject_run_of_error (permission : Permission) :
    (Authority.hasProject user id permission).run store = .error e := by
  rw [Authority.hasProject, Query.run_bind, Authority.checkProject, Query.run_bind, failed]
  rfl

end Failure

section Stored

variable {store : Store} (available : store.unavailable = false) {id : ProjectId}
  {project : Project} (stored : store.tables.projects.get? id = some project) (user : UserId)

include available stored

theorem hasProject_run (permission : Permission) :
    ∃ granted, (Authority.hasProject user id permission).run store = .ok granted ∧
      (granted = true ↔ store.tables.MayIn user project permission) := by
  obtain ⟨decision, checked, meaning⟩ := checkProject_run available stored user permission
  exact ⟨decision.isGranted, Query.bind_run_of_ok checked, meaning⟩

/-- The list is that of all permissions, less those that the user does not have. -/
theorem listProject_run :
    ∃ holds : Permission → Bool,
      (Authority.listProject user id).run store = .ok (Permission.all.filter holds) ∧
        ∀ permission, holds permission = true ↔ store.tables.MayIn user project permission := by
  have found : (Authority.project id).run store = .ok project :=
    (Query.lookFor_run_eq_ok_iff available).2 stored
  obtain ⟨principal, answered, meaning, knows⟩ := projectPrincipal_run available user id
  rw [Authority.listProject, Query.bind_run_of_ok found, Query.bind_run_of_ok answered]
  cases admin : principal.isSystemAdmin with
  | true =>
    refine ⟨fun _ => true, rfl, fun permission => ?_⟩
    exact ⟨fun _ => .inl (meaning.1 admin), fun _ => rfl⟩
  | false =>
    have known := knows admin
    cases legacy : principal.isLegacyAdmin with
    | true =>
      refine ⟨fun _ => true, rfl, fun permission => ?_⟩
      exact ⟨fun _ => .inr (.inl (known.legacyAdmin.1 legacy)), fun _ => rfl⟩
    | false =>
      have ordinary : ¬ store.tables.IsSystemAdmin user := by
        rw [← meaning, admin]
        exact Bool.false_ne_true
      obtain rfl : project.id = id := Table.key_of_get? stored
      rw [Bool.false_or, if_neg Bool.false_ne_true,
        Query.bind_run_of_ok (Query.look_run available _)]
      refine ⟨_, rfl, fun permission => ?_⟩
      refine resolve_isGranted_iff_mayIn known ordinary fun grantee => ?_
      simp only [Grants.grantsOf, List.mem_map, List.mem_filter, mem_sortBy, beq_iff_eq, and_assoc]

end Stored

/-- The search for the project fails, and so do the list and every check; or each check answers
whether its permission is listed. -/
private theorem listProject_cases (store : Store) (user : UserId) (id : ProjectId) :
    (∃ e, (Authority.project id).run store = .error e ∧
      (Authority.listProject user id).run store = .error e ∧
      ∀ permission, (Authority.hasProject user id permission).run store = .error e) ∨
    ∃ project held, (Authority.project id).run store = .ok project ∧
      (Authority.listProject user id).run store = .ok held ∧
      ∀ permission, (Authority.hasProject user id permission).run store =
        .ok (held.contains permission) := by
  cases found : (Authority.project id).run store with
  | error e =>
    exact .inl ⟨e, rfl, listProject_run_of_error found user, hasProject_run_of_error found user⟩
  | ok project =>
    obtain ⟨available, stored⟩ := Query.lookFor_run_ok found
    obtain ⟨holds, listed, meaning⟩ := listProject_run available stored user
    refine .inr ⟨project, _, rfl, listed, fun permission => ?_⟩
    obtain ⟨granted, checked, grants⟩ := hasProject_run available stored user permission
    have member : permission ∈ Permission.all := Enumeration.mem_all permission
    rw [checked, Except.ok.injEq, Bool.eq_iff_iff, grants, List.contains_iff_mem, List.mem_filter,
      and_iff_right member, meaning]

/-- A user's permissions in a project are listed just when each of them can be checked, and listed
are those for which the check grants. For a project that is not there both say so. -/
theorem list_agrees_with_checks (store : Store) (user : UserId) (id : ProjectId) :
    ((∃ held, (Authority.listProject user id).run store = .ok held) ↔
      ∀ permission, ∃ granted,
        (Authority.hasProject user id permission).run store = .ok granted) ∧
    (∀ held, (Authority.listProject user id).run store = .ok held → ∀ permission,
      permission ∈ held ↔ (Authority.hasProject user id permission).run store = .ok true) ∧
    (∀ e, (Authority.listProject user id).run store = .error e ↔
      ∀ permission, (Authority.hasProject user id permission).run store = .error e) ∧
    (store.unavailable = false → store.tables.projects.get? id = none →
      (Authority.listProject user id).run store = .error (.notFound s!"project {id.text}") ∧
        ∀ permission, (Authority.hasProject user id permission).run store =
          .error (.notFound s!"project {id.text}")) := by
  rcases listProject_cases store user id with
    ⟨e, found, listed, checked⟩ | ⟨project, held, found, listed, checked⟩ <;>
    simp only [listed, checked]
  · refine ⟨?_, ?_, ?_, ?_⟩
    · refine iff_of_false (by rintro ⟨_, ⟨⟩⟩) fun answers => ?_
      obtain ⟨_, ⟨⟩⟩ := answers .transitionIssues
    · rintro held ⟨⟩
    · intro other
      simp only [Except.error.injEq]
      exact ⟨fun same _ => same, fun same => same .transitionIssues⟩
    · intro available absent
      rw [Authority.project, Query.lookFor_run available, absent] at found
      cases found
      exact ⟨rfl, fun _ => rfl⟩
  · refine ⟨iff_of_true ⟨held, rfl⟩ fun _ => ⟨_, rfl⟩, ?_, ?_, ?_⟩
    · rintro _ ⟨⟩ permission
      rw [Except.ok.injEq, List.contains_iff_mem]
    · refine fun e => iff_of_false (by rintro ⟨⟩) fun failed => ?_
      cases failed .transitionIssues
    · intro _ absent
      obtain ⟨-, stored⟩ := Query.lookFor_run_ok found
      cases stored.symm.trans absent

/-- The reporter's permissions in the sample project are listed, and those in a project that is not
there are not found. -/
theorem sample_list_agrees :
    (∃ held, (Authority.listProject Sample.reporter.id ⟨"P1"⟩).run Sample.store = .ok held ∧
      .transitionIssues ∈ held ∧
      (Authority.hasProject Sample.reporter.id ⟨"P1"⟩ .transitionIssues).run Sample.store =
        .ok true) ∧
    Sample.store.unavailable = false ∧ Sample.store.tables.projects.get? ⟨"P2"⟩ = none ∧
    (Authority.listProject Sample.reporter.id ⟨"P2"⟩).run Sample.store =
      .error (.notFound "project P2") ∧
    ∀ permission, (Authority.hasProject Sample.reporter.id ⟨"P2"⟩ permission).run Sample.store =
      .error (.notFound "project P2") := by
  obtain ⟨-, agrees, -, -⟩ := list_agrees_with_checks Sample.store Sample.reporter.id ⟨"P1"⟩
  obtain ⟨-, -, -, missing⟩ := list_agrees_with_checks Sample.store Sample.reporter.id ⟨"P2"⟩
  have available : Sample.store.unavailable = false := by decide +kernel
  have absent : Sample.store.tables.projects.get? ⟨"P2"⟩ = none := by decide +kernel
  refine ⟨?_, available, absent, missing available absent⟩
  have answered : ((Authority.listProject Sample.reporter.id ⟨"P1"⟩).run
      Sample.store).toOption.map (·.contains .transitionIssues) = some true := by
    decide +kernel
  obtain ⟨held, listed, contains⟩ := Except.ok_of_toOption_map answered
  have member := List.contains_iff_mem.1 contains
  exact ⟨held, listed, member, (agrees held listed _).1 member⟩

end IssueFlow
