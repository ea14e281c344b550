import IssueFlow.Proofs.WorkflowReferences

/-!
# Offered transitions

The service offers an actor the transitions along which it would not turn the actor away. The list
is made from all edges, with nothing handed in; taking one looks for a single edge. They agree since
no condition looks at what is handed in and no two edges join the same statuses.
-/

namespace IssueFlow

/-- The errors that say that the actor may not take the transition, whatever is handed in. -/
inductive ServiceError.TurnsAway : ServiceError → Prop where
  | permissionDenied (permission : String) : TurnsAway (.permissionDenied permission)
  | noSuchTransition (source target : StatusId) :
      TurnsAway (.transition (.rejected (.noSuchTransition source target)))
  | conditionNotMet (type : ConditionType) (position : Position) :
      TurnsAway (.transition (.rejected (.conditionNotMet type position)))

private theorem ServiceError.not_turnsAway_of_fault {e : TransitionError}
    (fault : e.rejection? = none) :
    ¬ TurnsAway (.transition e) := by
  rintro (_ | _ | _) <;> cases fault

private theorem ServiceError.not_turnsAway_of_validation {validator message : String} :
    ¬ TurnsAway (.transition (.rejected (.validationFailed validator message))) := by
  rintro ⟨⟩

/-- The service turns an actor away who asks for that transition with that submission. -/
def Service.TurnsAway (executor : Executor) (world : World) (id : IssueId) (target : StatusId)
    (actor : UserId) (submission : Submission) : Prop :=
  ∃ e after, (transition executor id target actor submission).run world = (.error e, after) ∧
    e.TurnsAway

namespace Query

/-- A query that fails, fails by a fault and not by a rejection. -/
def OnlyFaults {α : Type} (query : Query TransitionError α) : Prop :=
  ∀ store e, query.run store = .error e → e.rejection? = none

variable {α β : Type}

private theorem onlyFaults_pure (a : α) : OnlyFaults (pure a : Query TransitionError α) := by
  rintro store e ⟨⟩

private theorem onlyFaults_look (f : Tables → α) :
    OnlyFaults (look f : Query TransitionError α) := by
  intro store e failed
  rw [run_look] at failed
  cases answer : store.read f with
  | ok a =>
    rw [answer] at failed
    cases failed
  | error refused =>
    rw [answer] at failed
    cases failed
    rfl

theorem OnlyFaults.bind {query : Query TransitionError α} {next : α → Query TransitionError β}
    (before : query.OnlyFaults) (after : ∀ a, (next a).OnlyFaults) :
    (query >>= next).OnlyFaults := by
  intro store e failed
  rw [run_bind] at failed
  cases answer : query.run store with
  | ok a =>
    rw [answer] at failed
    exact after a store e failed
  | error refused =>
    rw [answer] at failed
    cases failed
    exact before store _ answer

theorem onlyFaults_lookFor {find : Tables → Option α} {missing : TransitionError}
    (fault : missing.rejection? = none) : (lookFor find missing).OnlyFaults := by
  refine OnlyFaults.bind (onlyFaults_look find) ?_
  rintro (_ | a)
  · rintro store e ⟨⟩
    exact fault
  · exact onlyFaults_pure a

private theorem onlyFaults_access (query : Query AccessError α) :
    (query.mapError TransitionError.access).OnlyFaults := by
  intro store e failed
  rw [mapError_run] at failed
  cases answer : query.run store with
  | ok a =>
    rw [answer] at failed
    cases failed
  | error refused =>
    rw [answer] at failed
    cases failed
    rfl

end Query

private theorem allResolved_onlyFaults (issues : List Issue) : (allResolved issues).OnlyFaults := by
  induction issues with
  | nil => exact Query.onlyFaults_pure true
  | cons issue issues ih =>
    refine (Query.onlyFaults_look _).bind fun status => ?_
    cases status.any (·.isTerminal) with
    | true => exact ih
    | false => exact Query.onlyFaults_pure false

/-- A condition of the library rejects nothing by itself: it is met or not, or cannot be
evaluated. -/
theorem isMet_onlyFaults (attempt : Attempt) (condition : Condition) :
    (condition.isMet attempt).OnlyFaults := by
  cases condition with
  | userInRole role => exact Query.onlyFaults_access _
  | userInGroup group => exact Query.onlyFaults_look _
  | userHasPermission permission => exact Query.onlyFaults_access _
  | onlyReporter => exact Query.onlyFaults_pure _
  | onlyAssignee => exact Query.onlyFaults_pure _
  | subtasksResolved => exact (Query.onlyFaults_look _).bind fun _ => allResolved_onlyFaults _
  | fieldValue field value => exact Query.onlyFaults_pure _

/-- A validator of the library rejects nothing by itself: it gives a verdict, or cannot be
evaluated. -/
theorem judge_onlyFaults (matcher : Matcher) (attempt : Attempt) (validator : Validator) :
    (validator.judge matcher attempt).OnlyFaults := by
  cases validator with
  | fieldRequired field => exact Query.onlyFaults_pure _
  | fieldNotEmpty field => exact Query.onlyFaults_pure _
  | regex field pattern =>
    rw [Validator.judge]
    cases matcher.compile pattern with
    | error diagnostic =>
      rintro store e ⟨⟩
      rfl
    | ok isMatch => exact Query.onlyFaults_pure _
  | previousStatus status => exact (Query.onlyFaults_look _).bind fun _ => Query.onlyFaults_pure _
  | parentStatus statuses =>
    rw [Validator.judge]
    cases attempt.issue.parentId with
    | none => exact Query.onlyFaults_pure _
    | some id => exact (Query.onlyFaults_lookFor rfl).bind fun _ => Query.onlyFaults_pure _
  | permission right => exact (Query.onlyFaults_access _).bind fun _ => Query.onlyFaults_pure _
  | commentRequired => exact Query.onlyFaults_pure _
  | resolutionSet => exact Query.onlyFaults_pure _

/-- A commit on an issue in the expected status is refused only for a value that does not fit. -/
private theorem IssueLog.commitTransition_error_of_current {commit : TransitionCommit}
    {t after : IssueLog} {current : Issue} {e : StorageError}
    (stored : t.issues.get? commit.issueId = some current)
    (expected : current.statusId = commit.expectedStatus)
    (refused : (commitTransition commit).run t = (.error e, after)) :
    ∃ message, e = .invalidInput message := by
  rw [commitTransition_of_expected stored expected] at refused
  cases wrote : rowOver commit current with
  | ok row =>
    rw [wrote] at refused
    cases refused
  | error cause =>
    rw [wrote] at refused
    cases refused
    obtain ⟨refusal, -, same⟩ := rowOver_eq_error_iff.1 wrote
    exact ⟨refusal.message, same⟩

namespace Executor

/-- The validators of the library reject only what was handed in. -/
private theorem validate_error {executor : Executor} {matcher : Matcher}
    (standard : executor.registry = .builtIn matcher) {attempt : Attempt}
    {rules : List ValidatorRule} {world after : World} {e : TransitionError}
    (failed : (executor.validate attempt rules).run world = (.error e, after)) :
    ¬ ServiceError.TurnsAway (.transition e) := by
  induction rules with
  | nil => cases failed
  | cons rule rules ih =>
    rw [validate_cons standard] at failed
    rcases judged : (rule.content.validator.judge matcher attempt).run world.store with
      refused | _ | reason
    · rw [judged] at failed
      cases failed
      exact ServiceError.not_turnsAway_of_fault (judge_onlyFaults _ _ _ _ _ judged)
    · rw [judged] at failed
      exact ih failed
    · rw [judged] at failed
      cases failed
      exact ServiceError.not_turnsAway_of_validation

/-- A commit on an issue in the status that was read rejects only what was handed in. -/
private theorem commit_error {attempt : Attempt} {target : StatusId} {world after : World}
    {e : TransitionError} (stands : world.store.IsIn attempt.issue.id attempt.issue.statusId)
    (failed : (commit attempt target).run world = (.error e, after)) :
    ¬ ServiceError.TurnsAway (.transition e) := by
  obtain ⟨current, stored, status⟩ := stands
  obtain ⟨-, ⟨-, rfl⟩ | ⟨cause, -, refused, rfl⟩⟩ := commit_eq_error failed
  · exact ServiceError.not_turnsAway_of_fault rfl
  · obtain ⟨message, rfl⟩ := IssueLog.commitTransition_error_of_current stored status refused
    exact ServiceError.not_turnsAway_of_validation

/-! ## Approaching an edge -/

variable (executor : Executor)

/-- An attempt up to its validators: its edge and its plan are found, its conditions are met. -/
def approach (issue : Issue) (target : StatusId) (actor : UserId) (submission : Submission) :
    Run (Attempt × Plan) := do
  let workflow ← Run.ask (Route.workflowForProject issue.projectId issue.issueTypeId)
  match ← Run.ask (Route.edge? workflow.id issue.statusId target) with
  | none => reject (.noSuchTransition issue.statusId target)
  | some transition =>
    let plan ← Run.ask (Route.plan transition)
    let attempt : Attempt := { issue, actor, transition, submission }
    match ← executor.failedCondition? attempt plan.conditions with
    | some rule => reject (.conditionNotMet rule.content.type rule.position)
    | none => return (attempt, plan)

/-- An attempt from its validators on. -/
def proceed (attempt : Attempt) (plan : Plan) (target : StatusId) : Run Taken := do
  executor.validate attempt plan.validators
  checkScreen attempt plan
  executor.finish attempt plan target

/-- An attempt approaches its edge and then proceeds. -/
private theorem take_eq_approach (issue : Issue) (target : StatusId) (actor : UserId)
    (submission : Submission) :
    executor.take issue target actor submission =
      executor.approach issue target actor submission >>= fun ready =>
        executor.proceed ready.1 ready.2 target := by
  simp only [take, approach, bind_assoc]
  congr 1
  funext workflow
  congr 1
  funext edge
  cases edge with
  | none => rfl
  | some transition =>
    simp only [bind_assoc, passGates]
    congr 1
    funext plan
    congr 1
    funext failed
    cases failed with
    | none =>
      simp only [bind_assoc, pure_bind]
      rfl
    | some rule => rfl

/-- How an attempt approaches, once its workflow is known. -/
private theorem approach_run {world : World} (available : world.store.unavailable = false)
    (linked : world.store.tables.graph.Linked) {issue : Issue} {workflow : Workflow}
    (routed : (Route.workflowForProject issue.projectId issue.issueTypeId).run world.store =
      .ok workflow) (target : StatusId) (actor : UserId) (submission : Submission) :
    (executor.approach issue target actor submission).run world =
      match world.store.tables.graph.edge? workflow.id issue.statusId target with
      | none => (.error (.rejected (.noSuchTransition issue.statusId target)), world)
      | some edge =>
        match (executor.failedCondition? ⟨issue, actor, edge, submission⟩
          (world.store.tables.graph.conditionsOf edge.id)).run world with
        | (.ok none, later) =>
          (.ok (⟨issue, actor, edge, submission⟩, world.store.tables.graph.planOf edge), later)
        | (.ok (some rule), later) =>
          (.error (.rejected (.conditionNotMet rule.content.type rule.position)), later)
        | (.error e, later) => (.error e, later) := by
  rw [approach, run_bind_of_ok (ask_run_eq_ok_iff.2 routed),
    Route.edge?, run_bind_of_ok (ask_run_eq_ok_iff.2 (Query.look_run available _))]
  cases joined : world.store.tables.graph.edge? workflow.id issue.statusId target with
  | none => rfl
  | some edge =>
    have stored : edge ∈ world.store.tables.graph.transitions.rows :=
      List.mem_of_find?_eq_some joined
    dsimp only
    rw [run_bind_of_ok (ask_run_eq_ok_iff.2 (plan_run_eq available linked stored)), run_bind]
    dsimp only [Graph.planOf]
    rcases (executor.failedCondition? ⟨issue, actor, edge, submission⟩
      (world.store.tables.graph.conditionsOf edge.id)).run world with ⟨e | _ | rule, later⟩ <;> rfl

/-- The rest of an attempt turns nobody away when the issue is in the status that was read. -/
private theorem proceed_error {executor : Executor} {matcher : Matcher}
    (standard : executor.registry = .builtIn matcher) {world after : World} {attempt : Attempt}
    {plan : Plan} {target : StatusId} {e : TransitionError}
    (stands : world.store.IsIn attempt.issue.id attempt.issue.statusId)
    (failed : (executor.proceed attempt plan target).run world = (.error e, after)) :
    ¬ ServiceError.TurnsAway (.transition e) := by
  have kept : executor.registry.GatesKeep Eq := standard ▸ Registry.builtIn_gatesKeep
  have same : world = ((executor.validate attempt plan.validators).run world).2 :=
    validate_keeps kept _ _ _
  rw [proceed, run_bind] at failed
  rcases judged : (executor.validate attempt plan.validators).run world with ⟨refused | _, later⟩
  · rw [judged] at failed
    cases failed
    exact validate_error standard judged
  rw [judged] at failed same
  obtain rfl : world = later := same
  have failed : ((checkScreen attempt plan >>= _).run world) = _ := failed
  rw [run_bind, checkScreen] at failed
  cases opened : attempt.openField? plan with
  | some row =>
    rw [opened] at failed
    cases failed
    exact ServiceError.not_turnsAway_of_validation
  | none =>
    rw [opened] at failed
    have failed : (executor.finish attempt plan target).run world = _ := failed
    rw [finish_run] at failed
    rcases committed : (commit attempt target).run world with ⟨refused | row, _⟩
    · rw [committed] at failed
      cases failed
      exact commit_error stands committed
    · rw [committed] at failed
      cases failed

/-- No condition of the library looks at the edge or at what is handed in. -/
private theorem isMet_congr {attempt other : Attempt} (issue : attempt.issue = other.issue)
    (actor : attempt.actor = other.actor) (condition : Condition) :
    condition.isMet attempt = condition.isMet other := by
  cases condition <;> simp only [Condition.isMet, issue, actor]

/-- The first condition of an edge that an actor who hands in nothing does not meet. -/
def barrier? (executor : Executor) (world : World) (issue : Issue) (actor : UserId)
    (edge : Transition) : Except TransitionError (Option ConditionRule) :=
  ((executor.failedCondition? ⟨issue, actor, edge, {}⟩
    (world.store.tables.graph.conditionsOf edge.id)).run world).1

/-- An edge has no barrier for the actor. -/
def isOpen (executor : Executor) (world : World) (issue : Issue) (actor : UserId)
    (edge : Transition) : Bool :=
  match executor.barrier? world issue actor edge with
  | .ok none => true
  | _ => false

theorem isOpen_iff {executor : Executor} {world : World} {issue : Issue} {actor : UserId}
    {edge : Transition} : executor.isOpen world issue actor edge = true ↔
      executor.barrier? world issue actor edge = .ok none := by
  rw [isOpen]
  rcases executor.barrier? world issue actor edge with e | _ | rule <;> simp

section Standard

variable {executor : Executor} {matcher : Matcher} (standard : executor.registry = .builtIn matcher)
    {world : World}

include standard

private theorem failedCondition?_congr {attempt other : Attempt}
    (issue : attempt.issue = other.issue) (actor : attempt.actor = other.actor)
    (rules : List ConditionRule) :
    (executor.failedCondition? attempt rules).run world =
      (executor.failedCondition? other rules).run world := by
  induction rules with
  | nil => rfl
  | cons rule rules ih =>
    rw [failedCondition?_cons standard, failedCondition?_cons standard, ih,
      isMet_congr issue actor]

/-- With any submission the first condition that is not met is the same. -/
theorem failedCondition?_run {issue : Issue} {actor : UserId} {edge : Transition}
    (submission : Submission) :
    (executor.failedCondition? ⟨issue, actor, edge, submission⟩
        (world.store.tables.graph.conditionsOf edge.id)).run world =
      (executor.barrier? world issue actor edge, world) := by
  have kept : executor.registry.GatesKeep Eq := standard ▸ Registry.builtIn_gatesKeep
  rw [barrier?]
  generalize world.store.tables.graph.conditionsOf edge.id = rules
  have same : (executor.failedCondition? ⟨issue, actor, edge, submission⟩ rules).run world =
      (executor.failedCondition? ⟨issue, actor, edge, {}⟩ rules).run world := by
    apply failedCondition?_congr standard <;> rfl
  rw [same]
  exact Prod.ext rfl (failedCondition?_keeps kept _ _ world).symm

/-- The edges that are offered are the open ones, and all of the edges could be judged. -/
private theorem offered_ok (available : world.store.unavailable = false) {issue : Issue}
    {actor : UserId} {edges list : List Transition} {after : World}
    (listed : (executor.offered issue actor edges).run world = (.ok list, after)) :
    list = edges.filter (executor.isOpen world issue actor) ∧
      ∀ edge ∈ edges, ∃ failed, executor.barrier? world issue actor edge = .ok failed := by
  induction edges generalizing list after with
  | nil =>
    cases listed
    exact ⟨rfl, List.forall_mem_nil _⟩
  | cons edge edges ih =>
    rw [offered, run_bind_of_ok (ask_run_eq_ok_iff.2 (Query.look_run available _))] at listed
    obtain ⟨failed, later, judged, listed⟩ := ok_of_run_bind listed
    rw [failedCondition?_run standard, Prod.mk.injEq] at judged
    obtain ⟨judged, rfl⟩ := judged
    obtain ⟨others, _, offers, listed⟩ := ok_of_run_bind listed
    obtain ⟨rfl, judgedToo⟩ := ih offers
    refine ⟨?_, List.forall_mem_cons.2 ⟨⟨failed, judged⟩, judgedToo⟩⟩
    rw [List.filter_cons, isOpen, judged]
    cases failed <;> cases listed <;> rfl

end Standard

end Executor

/-! ## Offers -/

/-- A transition leads out of the status of an issue, in the workflow that its project maps it
to. -/
structure Tables.Leaves (t : Tables) (issue : Issue) (edge : Transition) : Prop where
  stored : edge ∈ t.graph.transitions.rows
  source : edge.fromStatus = issue.statusId
  mapped : ∃ project, t.projects.get? issue.projectId = some project ∧
    t.MapsTo project issue.issueTypeId edge.workflowId

private theorem mem_transitionsOf {t : Graph} {workflow : WorkflowId} {row : Transition} :
    row ∈ t.transitionsOf workflow ↔ row ∈ t.transitions.rows ∧ row.workflowId = workflow := by
  simp [Graph.transitionsOf]

private theorem nodup_transitionsOf (t : Graph) (workflow : WorkflowId) :
    (t.transitionsOf workflow).Nodup := by
  rw [Graph.transitionsOf, (sortBy_perm _ _).nodup_iff]
  exact (List.Nodup.of_map _ t.transitions.distinct).filter _

/-- A list of offers: the open transitions out of the status of the issue, each once, where all of
them could be judged. -/
structure Executor.Offers (executor : Executor) (world : World) (issue : Issue) (actor : UserId)
    (list : List Transition) : Prop where
  routed : ∃ workflow, (Route.workflowForProject issue.projectId issue.issueTypeId).run
    world.store = .ok workflow
  mem_iff : ∀ edge, edge ∈ list ↔ world.store.tables.Leaves issue edge ∧
    executor.isOpen world issue actor edge = true
  nodup : list.Nodup
  judged : ∀ edge, world.store.tables.Leaves issue edge →
    ∃ failed, executor.barrier? world issue actor edge = .ok failed

section Linked

variable {world : World} (available : world.store.unavailable = false)
  (linked : world.store.tables.graph.Linked) (distinct : world.store.tables.graph.Distinct)

include available linked distinct

/-- The transitions that leave an issue are those of its workflow that start at its status. -/
theorem leaves_iff {issue : Issue} {workflow : Workflow}
    (routed : (Route.workflowForProject issue.projectId issue.issueTypeId).run world.store =
      .ok workflow) {edge : Transition} :
    world.store.tables.Leaves issue edge ↔ edge ∈ world.store.tables.graph.transitions.rows ∧
      edge.workflowId = workflow.id ∧ edge.fromStatus = issue.statusId := by
  have mapped : (∃ found, (Route.workflowForProject issue.projectId issue.issueTypeId).run
      world.store = .ok found ∧ found.id = edge.workflowId) ↔ _ :=
    workflowForProject_run_iff available linked distinct
  constructor
  · rintro ⟨stored, source, project⟩
    obtain ⟨found, routedToo, same⟩ := mapped.2 project
    rw [routed] at routedToo
    cases routedToo
    exact ⟨stored, same.symm, source⟩
  · rintro ⟨stored, same, source⟩
    exact ⟨stored, source, mapped.1 ⟨workflow, routed, same.symm⟩⟩

/-- No two transitions leave an issue for the same status. -/
private theorem leaves_unique {issue : Issue} {workflow : Workflow}
    (routed : (Route.workflowForProject issue.projectId issue.issueTypeId).run world.store =
      .ok workflow) {edge other : Transition} (leaves : world.store.tables.Leaves issue edge)
    (leavesToo : world.store.tables.Leaves issue other) (same : edge.toStatus = other.toStatus) :
    edge = other := by
  rw [leaves_iff available linked distinct routed] at leaves leavesToo
  obtain ⟨stored, ofWorkflow, source⟩ := leaves
  obtain ⟨storedToo, ofWorkflowToo, sourceToo⟩ := leavesToo
  refine distinct.edge edge stored other storedToo ?_
  rw [Graph.edgeKey, Graph.edgeKey, ofWorkflow, ofWorkflowToo, source, sourceToo, same]

/-- There is exactly one offer for every target that offers lead to. -/
private theorem Executor.Offers.filter_target {issue : Issue} {actor : UserId}
    {list : List Transition} {executor : Executor} (offers : executor.Offers world issue actor list)
    {edge : Transition} (listed : edge ∈ list) :
    list.filter (·.toStatus == edge.toStatus) = [edge] := by
  obtain ⟨workflow, routed⟩ := offers.routed
  refine List.perm_singleton.1
    ((List.perm_ext_iff_of_nodup (offers.nodup.filter _) (List.nodup_singleton edge)).2 ?_)
  intro other
  rw [List.mem_filter, beq_iff_eq, List.mem_singleton]
  constructor
  · rintro ⟨listedToo, same⟩
    exact leaves_unique available linked distinct routed ((offers.mem_iff other).1 listedToo).1
      ((offers.mem_iff edge).1 listed).1 same
  · rintro rfl
    exact ⟨listed, rfl⟩

variable {executor : Executor} {matcher : Matcher} (standard : executor.registry = .builtIn matcher)

include standard

/-- The executor lists offers. -/
private theorem Executor.offers_of_available {issue : Issue} {actor : UserId}
    {list : List Transition} {after : World}
    (listed : (executor.available issue actor).run world = (.ok list, after)) :
    executor.Offers world issue actor list := by
  obtain ⟨workflow, routed, listed⟩ := (run_bind_eq_ok_iff (keeps_ask _)).1 listed
  rw [ask_run_eq_ok_iff] at routed
  rw [Route.edgesFrom, run_bind_of_ok (ask_run_eq_ok_iff.2 (Query.look_run available _))] at listed
  obtain ⟨rfl, judged⟩ := offered_ok standard available listed
  simp only [List.mem_filter, beq_iff_eq, mem_transitionsOf, and_assoc,
    ← leaves_iff available linked distinct routed] at judged
  refine ⟨⟨workflow, routed⟩, fun edge => ?_, ((nodup_transitionsOf _ _).filter _).filter _, judged⟩
  simp only [List.mem_filter, beq_iff_eq, mem_transitionsOf, and_assoc,
    leaves_iff available linked distinct routed]

/-- An attempt gets past the conditions of the open edge to its target. Where all edges could be
judged, it is turned away from any other target. -/
private theorem Executor.approach_cases {issue : Issue} {actor : UserId} {list : List Transition}
    (offers : executor.Offers world issue actor list) (target : StatusId)
    (submission : Submission) :
    (∃ edge plan, edge ∈ list ∧ edge.toStatus = target ∧
      (executor.approach issue target actor submission).run world =
        (.ok (⟨issue, actor, edge, submission⟩, plan), world)) ∨
    (¬ ∃ edge ∈ list, edge.toStatus = target) ∧ ∃ e,
      (executor.approach issue target actor submission).run world = (.error e, world) ∧
        ServiceError.TurnsAway (.transition e) := by
  obtain ⟨workflow, routed⟩ := offers.routed
  have leaves := @leaves_iff _ available linked distinct _ _ routed
  rw [executor.approach_run available linked routed]
  cases joined : world.store.tables.graph.edge? workflow.id issue.statusId target with
  | none =>
    refine .inr ⟨?_, _, rfl, .noSuchTransition _ _⟩
    rintro ⟨edge, listed, rfl⟩
    obtain ⟨stored, ofWorkflow, source⟩ := leaves.1 ((offers.mem_iff edge).1 listed).1
    have none := Graph.edge?_eq_none joined edge stored
    exact none (by rw [Graph.edgeKey, ofWorkflow, source])
  | some edge =>
    obtain ⟨stored, ofWorkflow, source, arrives⟩ := distinct.edge?_eq_some_iff.1 joined
    have leaving := leaves.2 ⟨stored, ofWorkflow, source⟩
    dsimp only
    rw [failedCondition?_run standard]
    obtain ⟨failed, judged⟩ := offers.judged edge leaving
    rw [judged]
    cases failed with
    | none =>
      exact .inl ⟨edge, _, (offers.mem_iff edge).2 ⟨leaving, isOpen_iff.2 judged⟩, arrives, rfl⟩
    | some rule =>
      refine .inr ⟨?_, _, rfl, .conditionNotMet _ _⟩
      rintro ⟨other, listed, sameTarget⟩
      obtain ⟨leavingToo, opened⟩ := (offers.mem_iff other).1 listed
      have same : other = edge := leaves_unique available linked distinct routed leavingToo leaving
        (sameTarget.trans arrives.symm)
      rw [isOpen_iff, same, judged] at opened
      cases opened

private theorem Executor.approach_ok_iff {issue : Issue} {actor : UserId} {list : List Transition}
    (offers : executor.Offers world issue actor list) {target : StatusId}
    {submission : Submission} :
    (∃ ready after, (executor.approach issue target actor submission).run world =
      (.ok ready, after)) ↔ ∃ edge ∈ list, edge.toStatus = target := by
  rcases approach_cases available linked distinct standard offers target submission with
    ⟨edge, plan, listed, arrives, ready⟩ | ⟨unoffered, e, refused, -⟩
  · exact iff_of_true ⟨_, _, ready⟩ ⟨edge, listed, arrives⟩
  · rw [refused]
    refine iff_of_false ?_ unoffered
    rintro ⟨_, _, ⟨⟩⟩

/-- An attempt with a stored issue is turned away from every target but those of its offers. -/
private theorem Executor.take_turnsAway_iff {issue : Issue} {actor : UserId}
    {list : List Transition}
    (stored : world.store.tables.issueLog.issues.get? issue.id = some issue)
    (offers : executor.Offers world issue actor list) (target : StatusId)
    (submission : Submission) :
    (∃ e after, (executor.take issue target actor submission).run world = (.error e, after) ∧
      ServiceError.TurnsAway (.transition e)) ↔ ¬ ∃ edge ∈ list, edge.toStatus = target := by
  rw [take_eq_approach, run_bind]
  rcases approach_cases available linked distinct standard offers target submission with
    ⟨edge, plan, listed, arrives, ready⟩ | ⟨unoffered, e, refused, turnsAway⟩
  · rw [ready]
    refine iff_of_false ?_ (not_not_intro ⟨edge, listed, arrives⟩)
    rintro ⟨e, after, failed, turnsAway⟩
    exact proceed_error standard ⟨issue, stored, rfl⟩ failed turnsAway
  · rw [refused]
    exact iff_of_true ⟨e, world, rfl, turnsAway⟩ unoffered

end Linked

namespace Service

variable {executor : Executor} {world : World}

/-- A transition gets past the conditions: the issue and the permission are there, the edge and its
plan are found, and no condition fails. -/
def GetsPastConditions (executor : Executor) (world : World) (id : IssueId) (target : StatusId)
    (actor : UserId) (submission : Submission) : Prop :=
  ∃ issue, world.store.tables.issueLog.issues.get? id = some issue ∧
    (Authority.requireProject actor issue.projectId .transitionIssues).run world.store = .ok () ∧
    ∃ ready after, (executor.approach issue target actor submission).run world =
      (.ok ready, after)

private theorem getsPastConditions_iff_of_permitted {issue : Issue} {actor : UserId}
    (stored : world.store.tables.issueLog.issues.get? issue.id = some issue)
    (permitted : (Authority.requireProject actor issue.projectId .transitionIssues).run
      world.store = .ok ()) {target : StatusId} {submission : Submission} :
    GetsPastConditions executor world issue.id target actor submission ↔
      ∃ ready after, (executor.approach issue target actor submission).run world =
        (.ok ready, after) := by
  constructor
  · rintro ⟨other, storedToo, -, ready⟩
    rw [stored] at storedToo
    cases storedToo
    exact ready
  · intro ready
    exact ⟨issue, stored, permitted, ready⟩

private theorem not_getsPastConditions_of_denied {issue : Issue} {actor : UserId} {e : AccessError}
    (stored : world.store.tables.issueLog.issues.get? issue.id = some issue)
    (denied : (Authority.requireProject actor issue.projectId .transitionIssues).run world.store =
      .error e) {target : StatusId} {submission : Submission} :
    ¬ GetsPastConditions executor world issue.id target actor submission := by
  rintro ⟨other, storedToo, permitted, -⟩
  rw [stored] at storedToo
  cases storedToo
  rw [denied] at permitted
  cases permitted

/-- What is asked of a user is granted or denied just as it is found that the user has it or not. -/
private theorem requireProject_of_hasProject {store : Store} {user : UserId} {project : ProjectId}
    {permission : Permission} {held : Bool}
    (answered : (Authority.hasProject user project permission).run store = .ok held) :
    (Authority.requireProject user project permission).run store =
      if held then .ok () else .error (.permissionDenied permission.name) := by
  obtain ⟨decision, checked, same⟩ := Query.bind_run_eq_ok_iff.1 answered
  cases same
  rw [Authority.requireProject, Query.bind_run_of_ok checked]
  cases decision.isGranted <;> rfl

/-- The service loads the issue and lists what the executor offers to those with the permission, and
nothing to others. -/
private theorem available_ok (available : world.store.unavailable = false) {id : IssueId}
    {actor : UserId} {list : List Transition} {after : World}
    (listed : (Service.available executor id actor).run world = (.ok list, after)) :
    ∃ issue, world.store.tables.issueLog.issues.get? id = some issue ∧
      ((Authority.requireProject actor issue.projectId .transitionIssues).run world.store = .ok () ∧
        (executor.available issue actor).run world = (.ok list, after) ∨
      (Authority.requireProject actor issue.projectId .transitionIssues).run world.store =
        .error (.permissionDenied Permission.transitionIssues.name) ∧ list = []) := by
  obtain ⟨issue, _, loaded, listed⟩ := ok_of_run_bind listed
  rw [ask_run, Prod.mk.injEq] at loaded
  obtain ⟨loaded, rfl⟩ := loaded
  obtain ⟨permitted, _, checked, listed⟩ := ok_of_run_bind listed
  rw [ask_run, Prod.mk.injEq, Query.mapError_run, Except.mapError_eq_ok_iff] at checked
  obtain ⟨checked, rfl⟩ := checked
  refine ⟨issue, (Query.lookFor_run_eq_ok_iff available).1 loaded, ?_⟩
  rw [requireProject_of_hasProject checked]
  cases permitted with
  | true =>
    obtain ⟨offers, left⟩ := Prod.mk.inj listed
    exact .inl ⟨rfl, Prod.ext (Except.mapError_eq_ok_iff.1 offers) left⟩
  | false =>
    cases listed
    exact .inr ⟨rfl, rfl⟩

/-- An actor without the permission is turned away from every target. -/
private theorem turnsAway_of_denied (available : world.store.unavailable = false) {issue : Issue}
    {actor : UserId} {permission : String}
    (stored : world.store.tables.issueLog.issues.get? issue.id = some issue)
    (denied : (Authority.requireProject actor issue.projectId .transitionIssues).run world.store =
      .error (.permissionDenied permission)) (target : StatusId) (submission : Submission) :
    TurnsAway executor world issue.id target actor submission := by
  have loaded : (loadIssue issue.id).run world.store = .ok issue :=
    (Query.lookFor_run_eq_ok_iff available).2 stored
  refine ⟨_, world, ?_, .permissionDenied permission⟩
  rw [transition_run, loaded]
  dsimp only
  rw [denied]
  rfl

/-- An actor with the permission is turned away when the attempt is. -/
private theorem turnsAway_iff_of_permitted (available : world.store.unavailable = false)
    {issue : Issue} {actor : UserId}
    (stored : world.store.tables.issueLog.issues.get? issue.id = some issue)
    (permitted : (Authority.requireProject actor issue.projectId .transitionIssues).run
      world.store = .ok ()) {target : StatusId} {submission : Submission} :
    TurnsAway executor world issue.id target actor submission ↔
      ∃ e after, (executor.take issue target actor submission).run world = (.error e, after) ∧
        ServiceError.TurnsAway (.transition e) := by
  have loaded : (loadIssue issue.id).run world.store = .ok issue :=
    (Query.lookFor_run_eq_ok_iff available).2 stored
  rw [TurnsAway, transition_run, loaded]
  dsimp only
  rw [permitted]
  rcases (executor.take issue target actor submission).run world with ⟨e | taken, after⟩
  · constructor
    · rintro ⟨_, _, ⟨⟩, turnsAway⟩
      exact ⟨e, after, rfl, turnsAway⟩
    · rintro ⟨_, _, ⟨⟩, turnsAway⟩
      exact ⟨_, after, rfl, turnsAway⟩
  · refine iff_of_false ?_ ?_
    · rintro ⟨_, _, ⟨⟩, -⟩
    · rintro ⟨_, _, ⟨⟩, -⟩

end Service

/-- When the service lists transitions for an actor, it lists just the ones that leave the status of
the issue in its workflow and along which it turns the actor away with no submission. Conversely
there is exactly one of them for every target that the actor gets to past the conditions, and these
are the targets that the actor is not turned away from. -/
theorem offered_iff_not_turnsAway (executor : Executor) {matcher : Matcher}
    (standard : executor.registry = .builtIn matcher) (world : World)
    (reached : world.store.Reachable) (available : world.store.unavailable = false) (id : IssueId)
    (actor : UserId) (list : List Transition) (after : World)
    (listed : (Service.available executor id actor).run world = (.ok list, after)) :
    ∃ issue, world.store.tables.issueLog.issues.get? id = some issue ∧
      (∀ edge, edge ∈ list ↔ world.store.tables.Leaves issue edge ∧
        ∀ submission, ¬ Service.TurnsAway executor world id edge.toStatus actor submission) ∧
      ∀ target submission,
        (Service.GetsPastConditions executor world id target actor submission →
          ∃ edge, list.filter (·.toStatus == target) = [edge]) ∧
        (Service.GetsPastConditions executor world id target actor submission ↔
          ¬ Service.TurnsAway executor world id target actor submission) := by
  obtain ⟨issue, stored, offered⟩ := Service.available_ok available listed
  obtain rfl : issue.id = id := Table.key_of_get? stored
  refine ⟨issue, stored, ?_⟩
  rcases offered with ⟨permitted, offered⟩ | ⟨denied, rfl⟩
  · have offers := Executor.offers_of_available available reached.linked reached.distinct standard
      offered
    have past : ∀ target submission,
        Service.GetsPastConditions executor world issue.id target actor submission ↔
          ∃ edge ∈ list, edge.toStatus = target := fun target submission =>
      (Service.getsPastConditions_iff_of_permitted stored permitted).trans
        (Executor.approach_ok_iff available reached.linked reached.distinct standard offers)
    have turned : ∀ target submission,
        Service.TurnsAway executor world issue.id target actor submission ↔
          ¬ ∃ edge ∈ list, edge.toStatus = target := fun target submission =>
      (Service.turnsAway_iff_of_permitted available stored permitted).trans
        (Executor.take_turnsAway_iff available reached.linked reached.distinct standard stored
          offers target submission)
    refine ⟨fun edge => ?_, fun target submission => ⟨?_, ?_⟩⟩
    · simp only [turned, not_not]
      constructor
      · intro listed
        exact ⟨((offers.mem_iff edge).1 listed).1, fun _ => ⟨edge, listed, rfl⟩⟩
      · rintro ⟨leaves, led⟩
        obtain ⟨workflow, routed⟩ := offers.routed
        obtain ⟨other, listed, same⟩ := led {}
        have leavesToo := ((offers.mem_iff other).1 listed).1
        rwa [leaves_unique available reached.linked reached.distinct routed leavesToo leaves same]
          at listed
    · rw [past]
      rintro ⟨edge, listed, rfl⟩
      exact ⟨edge, Executor.Offers.filter_target available reached.linked reached.distinct offers
        listed⟩
    · rw [past, turned, not_not]
  · have turned : ∀ target submission,
        Service.TurnsAway executor world issue.id target actor submission :=
      Service.turnsAway_of_denied available stored denied
    have past : ∀ target submission,
        ¬ Service.GetsPastConditions executor world issue.id target actor submission :=
      fun target submission => Service.not_getsPastConditions_of_denied stored denied
    refine ⟨fun edge => ?_, fun target submission => ⟨?_, ?_⟩⟩
    · exact iff_of_false List.not_mem_nil fun ⟨_, never⟩ => never {} (turned _ _)
    · exact fun passed => absurd passed (past _ _)
    · exact iff_of_false (past _ _) (not_not_intro (turned _ _))

/-- Another user gets the permission to transition issues in the sample project. -/
def Sample.shared : World where
  store := Sample.store.after [
    .operation (.onGrants (.grant ⟨"PS"⟩ .transitionIssues (.user ⟨"bob"⟩)))]
  outbox := .ofCapacity 4

/-- The reporter is offered to finish the issue. The other user, whom the condition of the edge
keeps out, is offered nothing and turned away. -/
theorem sample_offered :
    ({} : Executor).registry = .builtIn ∧ Sample.shared.store.Reachable ∧
      Sample.shared.store.unavailable = false ∧
      (∃ list after, (Service.available {} Sample.issue.id Sample.reporter.id).run Sample.shared =
          (.ok list, after) ∧ list.map (·.toStatus) = [⟨"done"⟩] ∧
        ∀ submission, ¬ Service.TurnsAway {} Sample.shared Sample.issue.id ⟨"done"⟩
          Sample.reporter.id submission) ∧
      ∃ after, (Service.available {} Sample.issue.id ⟨"bob"⟩).run Sample.shared =
          (.ok [], after) ∧
        ∀ submission, Service.TurnsAway {} Sample.shared Sample.issue.id ⟨"done"⟩ ⟨"bob"⟩
          submission := by
  have reached : Sample.shared.store.Reachable :=
    IsTrans.trans (r := Store.Leads) _ _ _ ⟨Sample.steps, rfl⟩ ⟨_, rfl⟩
  have available : Sample.shared.store.unavailable = false := by decide +kernel
  refine ⟨rfl, reached, available, ?_, ?_⟩
  · have answered : (((Service.available {} Sample.issue.id Sample.reporter.id).run
        Sample.shared).1.toOption.map (·.map (·.toStatus))) = some [⟨"done"⟩] := by
      decide +kernel
    rcases run : (Service.available {} Sample.issue.id Sample.reporter.id).run Sample.shared with
      ⟨e | list, after⟩ <;> rw [run] at answered
    · cases answered
    have targets : list.map (·.toStatus) = [⟨"done"⟩] := Option.some.inj answered
    obtain ⟨issue, -, offered, -⟩ := offered_iff_not_turnsAway {} rfl Sample.shared reached
      available Sample.issue.id Sample.reporter.id list after run
    obtain ⟨edge, listed, same⟩ : ∃ edge ∈ list, edge.toStatus = ⟨"done"⟩ := by
      rw [← List.mem_map, targets]
      exact List.mem_singleton_self _
    refine ⟨list, after, rfl, targets, ?_⟩
    rw [← same]
    exact ((offered edge).1 listed).2
  · have answered : ((Service.available {} Sample.issue.id ⟨"bob"⟩).run
        Sample.shared).1.toOption = some [] := by
      decide +kernel
    rcases run : (Service.available {} Sample.issue.id ⟨"bob"⟩).run Sample.shared with
      ⟨e | list, after⟩ <;> rw [run] at answered
    · cases answered
    obtain rfl : list = [] := Option.some.inj answered
    obtain ⟨issue, -, -, past⟩ := offered_iff_not_turnsAway {} rfl Sample.shared reached available
      Sample.issue.id ⟨"bob"⟩ [] after run
    refine ⟨after, rfl, fun submission => ?_⟩
    by_contra stays
    obtain ⟨edge, only⟩ := (past ⟨"done"⟩ submission).1 ((past ⟨"done"⟩ submission).2.2 stays)
    cases only

end IssueFlow
