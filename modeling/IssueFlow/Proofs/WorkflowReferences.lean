import IssueFlow.Proofs.GateSoundness

/-!
# References that resolve

In a reachable store no row of the workflow tables names a row that is not there (`Graph.Linked`).
Hence the search for the workflow of an issue type never ends at a mapping, and the search for the
plan of a transition never ends at its screen: unless the tables are out of reach, both answer.
-/

namespace IssueFlow

/-- The answer of a search that has found what it looks for, unless the tables are out of reach. -/
def Store.finds {α : Type} (store : Store) (a : α) : Except TransitionError α :=
  if store.unavailable then .error (.storage .outage) else .ok a

theorem Store.finds_of_available {α : Type} {store : Store}
    (available : store.unavailable = false) (a : α) : store.finds a = .ok a := by
  rw [finds, available]
  rfl

/-- A search goes on from what it finds, unless the tables are out of reach. -/
private theorem Query.lookFor_bind_run {α β : Type} {store : Store} {find : Tables → Option α}
    {missing : TransitionError} {next : α → Query TransitionError β} {a : α} {b : β}
    (found : find store.tables = some a)
    (answered : store.unavailable = false → (next a).run store = .ok b) :
    (lookFor find missing >>= next).run store = store.finds b := by
  cases switch : store.unavailable with
  | false =>
    rw [bind_run_of_ok ((lookFor_run_eq_ok_iff switch).2 found), answered switch,
      Store.finds_of_available switch]
  | true =>
    rw [run_bind, lookFor, run_bind, run_look, Store.read, if_pos switch, Store.finds,
      if_pos switch]
    rfl

/-- A mapping that is selected leads to a workflow. -/
theorem workflowForIssueType_run {store : Store} (linked : store.tables.graph.Linked)
    {scheme : WorkflowSchemeId} {issueType : IssueTypeId} {mapping : SchemeMapping}
    (selected : selectMapping? (store.tables.graph.mappingsOf scheme) issueType = some mapping) :
    ∃ workflow, store.tables.graph.workflows.get? mapping.workflowId = some workflow ∧
      (Route.workflowForIssueType scheme issueType).run store = store.finds workflow := by
  have member : mapping ∈ store.tables.graph.mappings := by
    rw [selectMapping?, Option.or_eq_some_iff] at selected
    rcases selected with own | ⟨-, byDefault⟩
    · exact (List.mem_filter.1 (List.mem_of_find?_eq_some own)).1
    · exact (List.mem_filter.1 (List.mem_of_find?_eq_some byDefault)).1
  obtain ⟨workflow, found⟩ := Option.isSome_iff_exists.1 (linked.workflow mapping member)
  refine ⟨workflow, found, Query.lookFor_bind_run selected fun available => ?_⟩
  exact (Query.lookFor_run_eq_ok_iff available).2 found

/-- All that is attached to a transition. -/
def Graph.planOf (t : Graph) (edge : Transition) : Plan where
  transition := edge
  conditions := t.conditionsOf edge.id
  validators := t.validatorsOf edge.id
  postFunctions := t.postFunctionsOf edge.id
  screen := edge.screenId.bind t.screens.get?
  screenFields := (edge.screenId.map t.screenFieldsOf).getD []

/-- The plan of a stored transition is what is attached to it. -/
theorem plan_run_eq {store : Store} (available : store.unavailable = false)
    (linked : store.tables.graph.Linked) {edge : Transition}
    (stored : edge ∈ store.tables.graph.transitions.rows) :
    (Route.plan edge).run store = .ok (store.tables.graph.planOf edge) := by
  rw [Route.plan, Query.bind_run_of_ok (Query.look_run available _),
    Query.bind_run_of_ok (Query.look_run available _),
    Query.bind_run_of_ok (Query.look_run available _), Graph.planOf]
  cases screened : edge.screenId with
  | none => rfl
  | some id =>
    obtain ⟨screen, found⟩ := Option.isSome_iff_exists.1 (linked.screen edge stored screened)
    refine (Query.bind_run_of_ok ((Query.lookFor_run_eq_ok_iff available).2 found)).trans
      ((Query.bind_run_of_ok (Query.look_run available _)).trans ?_)
    rw [Option.bind_some, found]
    rfl

/-- A plan that is found is what is attached to its edge. -/
theorem planOf_of_plan {store : Store} (available : store.unavailable = false) {edge : Transition}
    {plan : Plan} (planned : (Route.plan edge).run store = .ok plan) :
    plan = store.tables.graph.planOf edge := by
  rw [Route.plan, Query.bind_run_of_ok (Query.look_run available _),
    Query.bind_run_of_ok (Query.look_run available _),
    Query.bind_run_of_ok (Query.look_run available _)] at planned
  rw [Graph.planOf]
  cases screened : edge.screenId with
  | none =>
    rw [screened] at planned
    cases planned
    rfl
  | some id =>
    rw [screened] at planned
    obtain ⟨screen, found, planned⟩ := Query.bind_run_eq_ok_iff.1 planned
    have found := (Query.lookFor_run_eq_ok_iff available).1 found
    rw [Query.bind_run_of_ok (Query.look_run available _)] at planned
    cases planned
    rw [Option.bind_some, found]
    rfl

theorem mem_planOf_screenFields {t : Graph} {edge : Transition} {field : ScreenField} :
    field ∈ (t.planOf edge).screenFields ↔
      field ∈ t.screenFields ∧ edge.screenId = some field.screenId := by
  rw [Graph.planOf]
  cases edge.screenId with
  | none => exact iff_of_false List.not_mem_nil (by rintro ⟨-, ⟨⟩⟩)
  | some id =>
    rw [Option.some.injEq, eq_comm (a := id)]
    exact mem_screenFieldsOf

/-- A stored transition has a plan, and the plan has its screen. -/
private theorem planFor_run {store : Store} (linked : store.tables.graph.Linked) {edge : Transition}
    (stored : edge ∈ store.tables.graph.transitions.rows) :
    (Route.planFor edge.id).run store = store.finds (store.tables.graph.planOf edge) ∧
      (store.tables.graph.planOf edge).screen.map Screen.id = edge.screenId := by
  have found : store.tables.graph.transitions.get? edge.id = some edge := Table.get?_of_mem stored
  refine ⟨Query.lookFor_bind_run found fun available => plan_run_eq available linked stored, ?_⟩
  rw [Graph.planOf]
  cases screened : edge.screenId with
  | none => rfl
  | some id =>
    obtain ⟨screen, there⟩ := Option.isSome_iff_exists.1 (linked.screen edge stored screened)
    have same : screen.id = id := Table.key_of_get? there
    simp only [Option.bind_some, there, Option.map_some, same]

/-- In a reachable store every row of the workflow tables names only rows that are there. So a
mapping that is selected leads to a workflow, and a stored transition has a plan, with its
screen. -/
theorem references_resolve (store : Store) (reached : store.Reachable) :
    store.tables.graph.Linked ∧
    (∀ scheme issueType mapping,
      selectMapping? (store.tables.graph.mappingsOf scheme) issueType = some mapping →
      ∃ workflow, store.tables.graph.workflows.get? mapping.workflowId = some workflow ∧
        (Route.workflowForIssueType scheme issueType).run store = store.finds workflow) ∧
    ∀ edge ∈ store.tables.graph.transitions.rows,
      (Route.planFor edge.id).run store = store.finds (store.tables.graph.planOf edge) ∧
        (store.tables.graph.planOf edge).screen.map Screen.id = edge.screenId := by
  have linked := reached.linked
  refine ⟨linked, ?_, ?_⟩
  · intro scheme issueType mapping selected
    exact workflowForIssueType_run linked selected
  · intro edge stored
    exact planFor_run linked stored

/-- The status that the sample edge leads to is deleted with the edge and its rules; then both are
made anew, the edge with a screen. -/
def Sample.reworked : Store :=
  Sample.store.after [
    .operation (.onGraph (.deleteStatus ⟨"done"⟩)),
    .operation (.onGraph (.putStatus ⟨⟨"done"⟩, ⟨"W"⟩, "Done", .done, position 1⟩)),
    .operation (.onGraph (.createScreen ⟨⟨"S"⟩, "finish", none⟩)),
    .operation (.onGraph (.putScreenField
      ⟨⟨"S"⟩, .standard .resolution, true, position 0⟩)),
    .operation (.onGraph (.putTransition ⟨⟨"W"⟩, ⟨"open"⟩, ⟨"done"⟩, "Finish", some ⟨"S"⟩⟩)),
    .operation (.onGraph (.putMapping ⟨⟨"WS"⟩, some ⟨"bug"⟩, ⟨"W"⟩⟩))]

theorem sample_references :
    Sample.reworked.Reachable ∧ Sample.reworked.tables.graph.conditions = [] ∧
      Sample.reworked.tables.graph.Linked ∧
      (∃ workflow, workflow.id = ⟨"W"⟩ ∧
        (Route.workflowForIssueType ⟨"WS"⟩ ⟨"bug"⟩).run Sample.reworked = .ok workflow) ∧
      ∃ plan, plan.screen.map Screen.id = some ⟨"S"⟩ ∧
        (Route.planFor ⟨"T2"⟩).run Sample.reworked = .ok plan := by
  have reached : Sample.reworked.Reachable :=
    IsTrans.trans (r := Store.Leads) _ _ _ ⟨Sample.steps, rfl⟩ ⟨_, rfl⟩
  have available : Sample.reworked.unavailable = false := by decide +kernel
  obtain ⟨linked, mapped, planned⟩ := references_resolve Sample.reworked reached
  refine ⟨reached, by decide +kernel, linked, ?_, ?_⟩
  · obtain ⟨workflow, found, answered⟩ := mapped ⟨"WS"⟩ ⟨"bug"⟩ ⟨⟨"WS"⟩, some ⟨"bug"⟩, ⟨"W"⟩⟩
      (by decide +kernel)
    rw [Store.finds_of_available available] at answered
    exact ⟨workflow, Table.key_of_get? found, answered⟩
  · obtain ⟨answered, screened⟩ := planned
      ⟨⟨"T2"⟩, ⟨"W"⟩, ⟨"open"⟩, ⟨"done"⟩, "Finish", some ⟨"S"⟩⟩ (by decide +kernel)
    rw [Store.finds_of_available available] at answered
    exact ⟨_, screened, answered⟩

end IssueFlow
