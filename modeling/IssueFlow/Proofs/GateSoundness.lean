import IssueFlow.Proofs.AllOrNothing
import IssueFlow.Proofs.GateMeaning
import IssueFlow.Proofs.GraphIntegrity

/-!
# Soundness and completeness of the gates

What the rows of the store must say for an issue to be taken to another status
(`Tables.Allows`). The service takes it there exactly when they say so. That the search for the
workflow, its edge and its plan finds what it looks for rests on the integrity of the workflow
tables.
-/

namespace IssueFlow

/-- The scheme of a project maps an issue type to a workflow: by a mapping of its own, or by the
default of the scheme where there is none. -/
def Tables.MapsTo (t : Tables) (project : Project) (issueType : IssueTypeId)
    (workflow : WorkflowId) : Prop :=
  ∃ mapping ∈ t.graph.mappings, project.workflowSchemeId = some mapping.schemeId ∧
    mapping.workflowId = workflow ∧ (mapping.issueTypeId = some issueType ∨
      mapping.issueTypeId = none ∧ ∀ other ∈ t.graph.mappings,
        other.schemeId = mapping.schemeId → other.issueTypeId ≠ some issueType)

/-- An attempt is one along an edge of the issue's workflow, and all rules of the edge agree. -/
structure Tables.Clears (matcher : Matcher) (t : Tables) (attempt : Attempt) (project : Project) :
    Prop where
  mapped : t.MapsTo project attempt.issue.issueTypeId attempt.transition.workflowId
  edge : attempt.transition ∈ t.graph.transitions.rows
  source : attempt.transition.fromStatus = attempt.issue.statusId
  conditions : ∀ rule ∈ t.graph.conditions, rule.transitionId = attempt.transition.id →
    rule.content.Holds t attempt.issue attempt.actor
  validators : ∀ rule ∈ t.graph.validators, rule.transitionId = attempt.transition.id →
    rule.content.validator.Passes matcher t attempt.issue attempt.actor attempt.submission
  screen : ∀ row ∈ t.graph.screenFields, attempt.transition.screenId = some row.screenId →
    row.isRequired = true → attempt.submission.Supplies attempt.issue row.field

/-- An attempt is one by an actor who has the permission, with a stored issue that accepts what is
submitted. -/
structure Tables.Admits (matcher : Matcher) (t : Tables) (attempt : Attempt) (project : Project) :
    Prop extends t.Clears matcher attempt project where
  issueStored : attempt.issue ∈ t.issueLog.issues.rows
  projectStored : project ∈ t.projects.rows
  inProject : project.id = attempt.issue.projectId
  permitted : t.MayIn attempt.actor project .transitionIssues
  values : ∀ update ∈ attempt.submission.updates, attempt.issue.Accepts update

/-- The actor may take the issue with that key to the target in the workflow. -/
def Tables.Allows (matcher : Matcher) (t : Tables) (id : IssueId) (target : StatusId)
    (actor : UserId) (submission : Submission) (workflow : WorkflowId) : Prop :=
  ∃ issue project edge, issue.id = id ∧ edge.toStatus = target ∧ edge.workflowId = workflow ∧
    t.Admits matcher ⟨issue, actor, edge, submission⟩ project

/-- The mapping of an issue type is its own one, else the default. -/
theorem Graph.Distinct.selectMapping?_eq_some_iff {t : Graph} (distinct : t.Distinct)
    {scheme : WorkflowSchemeId} {issueType : IssueTypeId} {mapping : SchemeMapping} :
    selectMapping? (t.mappingsOf scheme) issueType = some mapping ↔
      mapping ∈ t.mappings ∧ mapping.schemeId = scheme ∧ (mapping.issueTypeId = some issueType ∨
        mapping.issueTypeId = none ∧ ∀ other ∈ t.mappings,
          other.schemeId = scheme → other.issueTypeId ≠ some issueType) := by
  have finds : ∀ issueType, (t.mappingsOf scheme).find? (·.issueTypeId == issueType) =
      some mapping ↔ mapping ∈ t.mappings ∧ mapping.schemeId = scheme ∧
        mapping.issueTypeId = issueType := by
    intro issueType
    rw [Graph.find?_eq_some_iff_of_unique]
    · simp only [Graph.mappingsOf, List.mem_filter, beq_iff_eq, and_assoc]
    · intro a first b second fits fitsToo
      simp only [Graph.mappingsOf, List.mem_filter, beq_iff_eq] at first second fits fitsToo
      refine distinct.mapping_eq first.1 second.1 ?_
      rw [Graph.mappingKey, Graph.mappingKey, first.2, second.2, fits, fitsToo]
  have default : ∀ row : SchemeMapping, row.isDefault = (row.issueTypeId == none) := by
    intro row
    rw [SchemeMapping.isDefault]
    cases row.issueTypeId <;> rfl
  have absent : (t.mappingsOf scheme).find? (·.issueTypeId == some issueType) = none ↔
      ∀ other ∈ t.mappings, other.schemeId = scheme → other.issueTypeId ≠ some issueType := by
    simp only [Graph.mappingsOf, List.find?_eq_none, List.mem_filter, beq_iff_eq, and_imp, ne_eq]
  rw [selectMapping?, Option.or_eq_some_iff, absent, finds]
  simp only [default, finds]
  constructor
  · rintro (⟨member, ofScheme, own⟩ | ⟨none, member, ofScheme, byDefault⟩)
    · exact ⟨member, ofScheme, .inl own⟩
    · exact ⟨member, ofScheme, .inr ⟨byDefault, none⟩⟩
  · rintro ⟨member, ofScheme, own | ⟨byDefault, none⟩⟩
    · exact .inl ⟨member, ofScheme, own⟩
    · exact .inr ⟨none, member, ofScheme, byDefault⟩

section Routes

variable {store : Store} (available : store.unavailable = false)
  (linked : store.tables.graph.Linked)

include available linked

/-- A mapping names a workflow that is there. -/
private theorem workflowForIssueType_run_iff (distinct : store.tables.graph.Distinct)
    {scheme : WorkflowSchemeId} {issueType : IssueTypeId} {id : WorkflowId} :
    (∃ workflow, (Route.workflowForIssueType scheme issueType).run store = .ok workflow ∧
        workflow.id = id) ↔
      ∃ mapping, selectMapping? (store.tables.graph.mappingsOf scheme) issueType = some mapping ∧
        mapping.workflowId = id := by
  simp only [Route.workflowForIssueType, Route.workflow, Query.bind_run_eq_ok_iff,
    Query.lookFor_run_eq_ok_iff available]
  constructor
  · rintro ⟨workflow, ⟨mapping, selected, found⟩, rfl⟩
    exact ⟨mapping, selected, (Table.key_of_get? found).symm⟩
  · rintro ⟨mapping, selected, rfl⟩
    obtain ⟨member, -⟩ := distinct.selectMapping?_eq_some_iff.1 selected
    obtain ⟨workflow, found⟩ := Option.isSome_iff_exists.1 (linked.workflow mapping member)
    exact ⟨workflow, ⟨mapping, selected, found⟩, Table.key_of_get? found⟩

/-- The workflow of an issue type in a project is the one that the project's scheme maps it to. -/
theorem workflowForProject_run_iff (distinct : store.tables.graph.Distinct)
    {projectId : ProjectId} {issueType : IssueTypeId} {id : WorkflowId} :
    (∃ workflow, (Route.workflowForProject projectId issueType).run store = .ok workflow ∧
        workflow.id = id) ↔
      ∃ project, store.tables.projects.get? projectId = some project ∧
        store.tables.MapsTo project issueType id := by
  have mapped : ∀ project : Project, store.tables.MapsTo project issueType id ↔
      ∃ scheme, project.workflowSchemeId = some scheme ∧
        ∃ workflow, (Route.workflowForIssueType scheme issueType).run store = .ok workflow ∧
          workflow.id = id := by
    intro project
    simp only [workflowForIssueType_run_iff available linked distinct,
      distinct.selectMapping?_eq_some_iff, Tables.MapsTo]
    constructor
    · rintro ⟨mapping, member, scheme, workflow, chosen⟩
      exact ⟨mapping.schemeId, scheme, mapping, ⟨member, rfl, chosen⟩, workflow⟩
    · rintro ⟨_, scheme, mapping, ⟨member, rfl, chosen⟩, workflow⟩
      exact ⟨mapping, member, scheme, workflow, chosen⟩
  simp only [mapped, Route.workflowForProject, Query.bind_run_eq_ok_iff,
    Query.lookFor_run_eq_ok_iff available]
  constructor
  · rintro ⟨workflow, ⟨project, stored, found⟩, same⟩
    refine ⟨project, stored, ?_⟩
    cases scheme : project.workflowSchemeId with
    | none =>
      rw [scheme] at found
      cases found
    | some id =>
      rw [scheme] at found
      exact ⟨id, rfl, workflow, found, same⟩
  · rintro ⟨project, stored, scheme, assigned, workflow, found, same⟩
    refine ⟨workflow, ⟨project, stored, ?_⟩, same⟩
    rw [assigned]
    exact found

end Routes

/-- A plan lists the rules of a transition and the fields of its screen. -/
structure Plan.Lists (plan : Plan) (t : Graph) (edge : Transition) : Prop where
  conditions : ∀ rule, rule ∈ plan.conditions ↔
    rule ∈ t.conditions ∧ rule.transitionId = edge.id
  validators : ∀ rule, rule ∈ plan.validators ↔
    rule ∈ t.validators ∧ rule.transitionId = edge.id
  screenFields : ∀ row, row ∈ plan.screenFields ↔
    row ∈ t.screenFields ∧ edge.screenId = some row.screenId

theorem mem_rulesOf {κ : Type} {rules : List (Rule κ)} {id : TransitionId} {rule : Rule κ} :
    rule ∈ rulesOf rules id ↔ rule ∈ rules ∧ rule.transitionId = id := by
  simp [rulesOf, byPosition]

theorem mem_screenFieldsOf {t : Graph} {id : ScreenId} {row : ScreenField} :
    row ∈ t.screenFieldsOf id ↔ row ∈ t.screenFields ∧ row.screenId = id := by
  simp [Graph.screenFieldsOf, byPosition]

/-- A stored transition has a plan, since its screen is there. -/
private theorem plan_run {store : Store} (available : store.unavailable = false)
    (linked : store.tables.graph.Linked) {edge : Transition}
    (stored : edge ∈ store.tables.graph.transitions.rows) :
    ∃ plan, (Route.plan edge).run store = .ok plan ∧ plan.Lists store.tables.graph edge := by
  rw [Route.plan, Query.bind_run_of_ok (Query.look_run available _),
    Query.bind_run_of_ok (Query.look_run available _),
    Query.bind_run_of_ok (Query.look_run available _)]
  cases screened : edge.screenId with
  | none =>
    refine ⟨_, rfl, ?_⟩
    refine ⟨fun _ => mem_rulesOf, fun _ => mem_rulesOf, fun row => ?_⟩
    rw [screened]
    refine iff_of_false List.not_mem_nil ?_
    rintro ⟨-, ⟨⟩⟩
  | some id =>
    obtain ⟨screen, found⟩ := Option.isSome_iff_exists.1 (linked.screen edge stored screened)
    refine ⟨_, (Query.bind_run_of_ok ((Query.lookFor_run_eq_ok_iff available).2 found)).trans
      (Query.bind_run_of_ok (Query.look_run available _)), ?_⟩
    refine ⟨fun _ => mem_rulesOf, fun _ => mem_rulesOf, fun row => ?_⟩
    rw [screened, Option.some.injEq, eq_comm (a := id)]
    exact mem_screenFieldsOf

theorem ask_run_eq_ok_iff {α : Type} {query : Query TransitionError α} {world : World} {a : α} :
    (Run.ask query).run world = (.ok a, world) ↔ query.run world.store = .ok a := by
  rw [Query.run_ask, Prod.mk.injEq, and_iff_left rfl]

namespace Executor

variable {executor : Executor} {matcher : Matcher} (standard : executor.registry = .builtIn matcher)
    {world : World} (available : world.store.unavailable = false)
    (linked : world.store.tables.graph.Linked) (distinct : world.store.tables.graph.Distinct)

include standard available linked distinct

/-- An attempt gets ready along an edge when it clears the rules of that edge. -/
theorem prepare_ok_iff {issue : Issue} {target : StatusId} {actor : UserId}
    {submission : Submission} {edge : Transition} :
    (∃ plan, (executor.prepare issue target actor submission).run world =
        (.ok (⟨issue, actor, edge, submission⟩, plan), world)) ↔
      edge.toStatus = target ∧
        ∃ project, world.store.tables.projects.get? issue.projectId = some project ∧
          world.store.tables.Clears matcher ⟨issue, actor, edge, submission⟩ project := by
  have kept : executor.registry.GatesKeep Eq := standard ▸ Registry.builtIn_gatesKeep
  have routed : (∃ workflow, (Route.workflowForProject issue.projectId issue.issueTypeId).run
      world.store = .ok workflow ∧ workflow.id = edge.workflowId) ↔ _ :=
    workflowForProject_run_iff available linked distinct
  constructor
  · rintro ⟨plan, prepared⟩
    obtain ⟨workflow, found, prepared⟩ := (run_bind_eq_ok_iff (keeps_ask _)).1 prepared
    obtain ⟨way, joined, prepared⟩ := (run_bind_eq_ok_iff (keeps_ask _)).1 prepared
    cases way with
    | none => cases prepared
    | some other =>
      obtain ⟨_, planned, prepared⟩ := (run_bind_eq_ok_iff (keeps_ask _)).1 prepared
      obtain ⟨_, passed, prepared⟩ := (run_bind_eq_ok_iff (passGates_keeps kept _ _)).1 prepared
      cases prepared
      rw [ask_run_eq_ok_iff] at found joined planned
      rw [Route.edge?, Query.look_run available, Except.ok.injEq, distinct.edge?_eq_some_iff]
        at joined
      obtain ⟨stored, ofWorkflow, source, target⟩ := joined
      obtain ⟨_, plannedToo, lists⟩ := plan_run available linked stored
      rw [planned] at plannedToo
      cases plannedToo
      rw [passGates_ok_iff standard available] at passed
      simp only [lists.conditions, lists.validators, lists.screenFields, and_imp] at passed
      obtain ⟨project, ofProject, mapped⟩ := routed.1 ⟨workflow, found, ofWorkflow.symm⟩
      obtain ⟨conditions, validators, screen⟩ := passed
      exact ⟨target, project, ofProject, mapped, stored, source, conditions, validators, screen⟩
  · rintro ⟨arrives, project, ofProject, clears⟩
    obtain ⟨workflow, found, ofWorkflow⟩ := routed.2 ⟨project, ofProject, clears.mapped⟩
    obtain ⟨plan, planned, lists⟩ := plan_run available linked clears.edge
    have joined : (Route.edge? workflow.id issue.statusId target).run world.store =
        .ok (some edge) := by
      rw [Route.edge?, Query.look_run available, Except.ok.injEq, distinct.edge?_eq_some_iff]
      exact ⟨clears.edge, ofWorkflow.symm, clears.source, arrives⟩
    have passed : (executor.passGates ⟨issue, actor, edge, submission⟩ plan).run world =
        (.ok (), world) := by
      rw [passGates_ok_iff standard available]
      simp only [lists.conditions, lists.validators, lists.screenFields, and_imp]
      exact ⟨clears.conditions, clears.validators, clears.screen⟩
    refine ⟨plan, ?_⟩
    rw [prepare, run_bind_of_ok (ask_run_eq_ok_iff.2 found),
      run_bind_of_ok (ask_run_eq_ok_iff.2 joined)]
    show ((Run.ask (Route.plan edge) >>= _).run world) = _
    rw [run_bind_of_ok (ask_run_eq_ok_iff.2 planned), run_bind_of_ok passed]
    rfl

/-- An attempt is taken when it gets ready and the issue is still as it was read, with room for what
is submitted. -/
private theorem take_ok_iff {issue : Issue} {target : StatusId} {actor : UserId}
    {submission : Submission} :
    (∃ taken after, (executor.take issue target actor submission).run world =
        (.ok taken, after)) ↔
      ∃ edge, (edge.toStatus = target ∧
          ∃ project, world.store.tables.projects.get? issue.projectId = some project ∧
            world.store.tables.Clears matcher ⟨issue, actor, edge, submission⟩ project) ∧
        world.store.IsIn issue.id issue.statusId ∧
        ∀ update ∈ submission.updates, issue.Accepts update := by
  simp only [← prepare_ok_iff standard available linked distinct]
  constructor
  · rintro ⟨taken, after, run⟩
    have kept : executor.registry.GatesKeep Eq := standard ▸ Registry.builtIn_gatesKeep
    have judged := prepare_keeps kept issue target actor submission world
    cases executor.course_of_take run with
    | taken attempt plan ready row committed after followed prepared done behind =>
      rw [prepared] at judged
      obtain ⟨rfl, rfl, rfl⟩ := prepare_ok executor prepared
      cases judged
      have written := committed_of_commit done
      exact ⟨attempt.transition, ⟨plan, prepared⟩, written.stood, written.accepted⟩
  · rintro ⟨edge, ⟨plan, prepared⟩, stands, accepted⟩
    obtain ⟨row, committed, done⟩ : ∃ row committed,
        (commit ⟨issue, actor, edge, submission⟩ target).run world = (.ok row, committed) :=
      commit_of_current available stands accepted
    rw [take_eq, run_bind_of_ok prepared, finish_run, done]
    exact ⟨_, _, rfl⟩

end Executor

/-- The workflow tables are the same. -/
def Store.SharesGraph (store later : Store) : Prop :=
  later.tables.graph = store.tables.graph

instance : IsPreorder Store Store.SharesGraph where
  refl _ := rfl
  trans _ _ _ before later := later.trans before

private theorem Store.sharesGraph_of_quiet {store later : Store}
    (led : LeadsBy Step.Quiet store later) :
    SharesGraph store later := by
  refine led.related ?_
  intro store step quiet
  rcases step_graph_cases store step with same | ⟨op, rfl, -⟩
  · exact same
  · cases quiet

private theorem commit_sharesGraph (attempt : Attempt) (target : StatusId) :
    Keeps (World.Along Store.SharesGraph) (Executor.commit attempt target).run := by
  intro world
  rcases Executor.commit_cases attempt target world with ⟨e, failed⟩ | ⟨row, log, -, -, done⟩
  · rw [failed]
    exact Std.Refl.refl world.store
  · rw [done]
    rfl

/-- No transition changes the workflow that it follows. -/
private theorem transition_sharesGraph {executor : Executor} {matcher : Matcher}
    (standard : executor.registry = .builtIn matcher) (id : IssueId) (target : StatusId)
    (actor : UserId) (submission : Submission) :
    Keeps (World.Along Store.SharesGraph)
      (Service.transition executor id target actor submission).run := by
  have quiet : executor.registry.PostFunctionsKeep (World.Along Store.SharesGraph) := by
    rw [standard]
    exact Registry.builtIn_quiet.mono Store.sharesGraph_of_quiet
  have gates : executor.registry.GatesKeep (World.Along Store.SharesGraph) :=
    standard ▸ Registry.builtIn_gatesKeep
  exact Executor.transition_keeps quiet gates commit_sharesGraph id target actor submission

/-- Behind a transition that goes through there is an attempt with the stored issue, by an actor who
has the permission. -/
theorem Service.take_of_transition {executor : Executor} {world after : World} {id : IssueId}
    {target : StatusId} {actor : UserId} {submission : Submission} {taken : Taken}
    (run : (transition executor id target actor submission).run world = (.ok taken, after)) :
    ∃ issue, world.store.tables.issueLog.issues.get? id = some issue ∧
      (Authority.requireProject actor issue.projectId .transitionIssues).run world.store = .ok () ∧
      (executor.take issue target actor submission).run world = (.ok taken, after) := by
  rcases transition_cases executor id target actor submission world with
    ⟨e, refused⟩ | ⟨issue, stored, permitted, served⟩
  · rw [refused] at run
    cases run
  · rw [served] at run
    obtain ⟨answered, left⟩ := Prod.mk.inj run
    refine ⟨issue, stored, permitted, ?_⟩
    exact Prod.ext (Except.mapError_eq_ok_iff.1 answered) left

private theorem Service.transition_ok_iff {executor : Executor} {world : World}
    (available : world.store.unavailable = false) {id : IssueId} {target : StatusId}
    {actor : UserId} {submission : Submission} :
    (∃ taken after, (transition executor id target actor submission).run world =
        (.ok taken, after)) ↔
      ∃ issue, world.store.tables.issueLog.issues.get? id = some issue ∧
        (∃ project, world.store.tables.projects.get? issue.projectId = some project ∧
          world.store.tables.MayIn actor project .transitionIssues) ∧
        ∃ taken after, (executor.take issue target actor submission).run world =
          (.ok taken, after) := by
  simp only [← requireProject_run_iff available]
  constructor
  · rintro ⟨taken, after, run⟩
    obtain ⟨issue, stored, permitted, attempted⟩ := take_of_transition run
    exact ⟨issue, stored, permitted, taken, after, attempted⟩
  · rintro ⟨issue, stored, permitted, taken, after, run⟩
    have loaded : (loadIssue id).run world.store = .ok issue :=
      (Query.lookFor_run_eq_ok_iff available).2 stored
    rw [transition_run, loaded]
    dsimp only
    rw [permitted, run]
    exact ⟨taken, after, rfl⟩

/-- A transition that goes through leaves the issue in the target. -/
private theorem Service.isIn_of_transition {executor : Executor}
    (harmless : executor.registry.Harmless) {world after : World} {id : IssueId} {target : StatusId}
    {actor : UserId} {submission : Submission} {taken : Taken}
    (run : (transition executor id target actor submission).run world = (.ok taken, after)) :
    after.store.IsIn id target := by
  obtain ⟨issue, stored, -, attempted⟩ := take_of_transition run
  have landed := Executor.take_landed_or_untouched harmless issue target actor submission world
  rw [attempted] at landed
  have same : issue.id = id := Table.key_of_get? stored
  rw [← same]
  exact landed.status

/-- A transition goes through exactly when the rows of the store allow it in some workflow. The
issue is then in the target, and the target is a status of that workflow. -/
theorem transition_ok_iff_allowed (executor : Executor) {matcher : Matcher}
    (standard : executor.registry = .builtIn matcher) (world : World)
    (reached : world.store.Reachable) (available : world.store.unavailable = false) (id : IssueId)
    (target : StatusId) (actor : UserId) (submission : Submission) :
    ((∃ taken after, (Service.transition executor id target actor submission).run world =
        (.ok taken, after)) ↔
      ∃ workflow, world.store.tables.Allows matcher id target actor submission workflow) ∧
    ∀ taken after, (Service.transition executor id target actor submission).run world =
        (.ok taken, after) →
      after.store.IsIn id target ∧
      ∀ workflow, world.store.tables.Allows matcher id target actor submission workflow →
        ∃ status ∈ after.store.tables.graph.statuses.rows, status.id = target ∧
          status.workflowId = workflow := by
  refine ⟨?_, ?_⟩
  · rw [Service.transition_ok_iff available]
    simp only [Executor.take_ok_iff standard available reached.linked reached.distinct]
    constructor
    · rintro ⟨issue, stored, ⟨project, found, permitted⟩, edge, ⟨arrives, other, foundToo, clears⟩,
        -, accepted⟩
      rw [found] at foundToo
      cases foundToo
      obtain ⟨issueStored, sameIssue⟩ := Table.get?_eq_some_iff.1 stored
      obtain ⟨projectStored, sameProject⟩ := Table.get?_eq_some_iff.1 found
      exact ⟨edge.workflowId, issue, project, edge, sameIssue, arrives, rfl,
        { clears with
          issueStored := issueStored
          projectStored := projectStored
          inProject := sameProject
          permitted := permitted
          values := accepted }⟩
    · rintro ⟨_, issue, project, edge, rfl, arrives, -, admits⟩
      have stored : world.store.tables.issueLog.issues.get? issue.id = some issue :=
        Table.get?_of_mem admits.issueStored
      have found : world.store.tables.projects.get? issue.projectId = some project :=
        Table.get?_eq_some_iff.2 ⟨admits.projectStored, admits.inProject⟩
      exact ⟨issue, stored, ⟨project, found, admits.permitted⟩, edge,
        ⟨arrives, project, found, admits.toClears⟩, ⟨issue, stored, rfl⟩, admits.values⟩
  · intro taken after run
    refine ⟨?_, ?_⟩
    · refine Service.isIn_of_transition ?_ run
      rw [standard]
      exact .builtIn
    · rintro _ ⟨issue, project, edge, -, rfl, rfl, admits⟩
      have same : after.store.tables.graph = world.store.tables.graph := by
        have kept := transition_sharesGraph standard id edge.toStatus actor submission world
        rwa [run] at kept
      rw [same]
      exact Graph.hasStatus_iff.1 (reached.linked.target edge admits.edge)

/-- The sample issue may be finished by its reporter, who leaves a comment. -/
theorem sample_allowed :
    ({} : Executor).registry = .builtIn ∧ Sample.world.store.Reachable ∧
      Sample.world.store.unavailable = false ∧
      (∃ workflow, Sample.world.store.tables.Allows .builtIn Sample.issue.id ⟨"done"⟩
        Sample.reporter.id Sample.submission workflow) ∧
      ∃ taken after, (Service.transition {} Sample.issue.id ⟨"done"⟩ Sample.reporter.id
        Sample.submission).run Sample.world = (.ok taken, after) ∧
        after.store.IsIn Sample.issue.id ⟨"done"⟩ := by
  have reached : Sample.world.store.Reachable := ⟨Sample.steps, rfl⟩
  have available : Sample.world.store.unavailable = false := by decide +kernel
  obtain ⟨allowed, landed⟩ := transition_ok_iff_allowed {} rfl Sample.world reached available
    Sample.issue.id ⟨"done"⟩ Sample.reporter.id Sample.submission
  have answered : ((Service.transition {} Sample.issue.id ⟨"done"⟩ Sample.reporter.id
      Sample.submission).run Sample.world).1.isOk = true := by
    decide +kernel
  refine ⟨rfl, reached, available, ?_⟩
  rcases run : (Service.transition {} Sample.issue.id ⟨"done"⟩ Sample.reporter.id
    Sample.submission).run Sample.world with ⟨e | taken, after⟩
  · rw [run] at answered
    cases answered
  · exact ⟨allowed.1 ⟨taken, after, run⟩, taken, after, rfl, (landed taken after run).1⟩

end IssueFlow
