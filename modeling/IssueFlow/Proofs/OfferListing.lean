import IssueFlow.Proofs.OfferedTransitions
import IssueFlow.Proofs.PermissionListing

/-!
# Listing offers

In a project that is there every condition of the library can be judged, so that the offers to an
actor are listed whenever a workflow is found: the edges out of the status of the issue whose
conditions all hold.
-/

namespace IssueFlow

section Judged

variable {store : Store} (available : store.unavailable = false)

include available

private theorem allResolved_run (issues : List Issue) :
    ∃ resolved, (allResolved issues).run store = .ok resolved := by
  induction issues with
  | nil => exact ⟨_, rfl⟩
  | cons issue issues ih =>
    rw [allResolved, Query.bind_run_of_ok (Query.look_run available _)]
    cases (store.tables.graph.statuses.get? issue.statusId).any (·.isTerminal) with
    | true => exact ih
    | false => exact ⟨_, rfl⟩

/-- In a stored project every condition of the library is met or not. -/
private theorem isMet_run {attempt : Attempt} {project : Project}
    (stored : store.tables.projects.get? attempt.issue.projectId = some project)
    (condition : Condition) : ∃ met, (condition.isMet attempt).run store = .ok met := by
  cases condition with
  | userInRole role =>
    obtain ⟨held, answered, -⟩ :=
      isUserInRole_run available attempt.issue.projectId role attempt.actor
    refine ⟨held, ?_⟩
    rw [Condition.isMet, Query.mapError_run, answered]
    rfl
  | userInGroup group => exact ⟨_, Query.look_run available _⟩
  | userHasPermission permission =>
    obtain ⟨granted, answered, -⟩ := hasProject_run available stored attempt.actor permission
    refine ⟨granted, ?_⟩
    rw [Condition.isMet, Query.mapError_run, answered]
    rfl
  | onlyReporter | onlyAssignee | fieldValue => exact ⟨_, rfl⟩
  | subtasksResolved =>
    rw [Condition.isMet, Query.bind_run_of_ok (Query.look_run available _)]
    exact allResolved_run available _

end Judged

namespace Executor

variable {executor : Executor} {matcher : Matcher} (standard : executor.registry = .builtIn matcher)
    {world : World} (available : world.store.unavailable = false) {issue : Issue} (actor : UserId)

include standard available

/-- An edge is open to an actor when all its conditions hold. -/
theorem isOpen_iff_holds {edge : Transition} {actor : UserId} :
    executor.isOpen world issue actor edge = true ↔
      ∀ rule ∈ world.store.tables.graph.conditionsOf edge.id,
        rule.content.Holds world.store.tables issue actor := by
  have met : (executor.failedCondition? ⟨issue, actor, edge, {}⟩
      (world.store.tables.graph.conditionsOf edge.id)).run world = (.ok none, world) ↔ _ :=
    failedCondition?_none_iff standard available
  rw [← met, isOpen_iff, failedCondition?_run standard, Prod.mk.injEq, and_iff_left rfl]

variable {project : Project}
  (stored : world.store.tables.projects.get? issue.projectId = some project)

include stored

private theorem barrier?_run (edge : Transition) :
    ∃ failed, executor.barrier? world issue actor edge = .ok failed := by
  rw [barrier?]
  generalize world.store.tables.graph.conditionsOf edge.id = rules
  induction rules with
  | nil => exact ⟨_, rfl⟩
  | cons rule rules ih =>
    obtain ⟨met, judged⟩ :
        ∃ met, (rule.content.isMet ⟨issue, actor, edge, {}⟩).run world.store = .ok met :=
      isMet_run available stored _
    rw [failedCondition?_cons standard, judged]
    cases met with
    | true => exact ih
    | false => exact ⟨_, rfl⟩

private theorem offered_run (edges : List Transition) :
    (executor.offered issue actor edges).run world =
      (.ok (edges.filter (executor.isOpen world issue actor)), world) := by
  induction edges with
  | nil => rfl
  | cons edge edges ih =>
    obtain ⟨failed, judged⟩ := barrier?_run standard available actor stored edge
    rw [offered, run_bind_of_ok (ask_run_eq_ok_iff.2 (Query.look_run available _)),
      run_bind_of_ok ((failedCondition?_run standard {}).trans (by rw [judged])),
      run_bind_of_ok ih, List.filter_cons, isOpen, judged]
    cases failed <;> rfl

/-- The executor offers the open edges out of the status of an issue, if its workflow is found. -/
theorem available_run :
    (executor.available issue actor).run world =
      match (Route.workflowForProject issue.projectId issue.issueTypeId).run world.store with
      | .ok workflow =>
        (.ok (((world.store.tables.graph.transitionsOf workflow.id).filter
          (·.fromStatus == issue.statusId)).filter (executor.isOpen world issue actor)), world)
      | .error e => (.error e, world) := by
  rw [Executor.available, run_bind, Query.run_ask]
  cases (Route.workflowForProject issue.projectId issue.issueTypeId).run world.store with
  | error e => rfl
  | ok workflow =>
    dsimp only
    rw [Route.edgesFrom, run_bind_of_ok (ask_run_eq_ok_iff.2 (Query.look_run available _)),
      offered_run standard available actor stored]

end Executor

namespace Service

/-- The service lists what the executor offers to those with the permission, and nothing to
others. -/
theorem available_run (executor : Executor) (id : IssueId) (actor : UserId) (world : World) :
    ((available executor id actor).run world).1 =
      match (loadIssue id).run world.store with
      | .error e => .error e
      | .ok issue =>
        match (Authority.hasProject actor issue.projectId .transitionIssues).run world.store with
        | .error e => .error (.ofAccess e)
        | .ok false => .ok []
        | .ok true => ((executor.available issue actor).run world).1.mapError .transition := by
  rw [available, run_bind, ask_run]
  cases (loadIssue id).run world.store with
  | error e => rfl
  | ok issue =>
    dsimp only
    rw [run_bind, ask_run, Query.mapError_run]
    rcases (Authority.hasProject actor issue.projectId .transitionIssues).run world.store with
      e | _ | _ <;> rfl

end Service

end IssueFlow
