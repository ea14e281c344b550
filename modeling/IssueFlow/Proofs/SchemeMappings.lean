import IssueFlow.Proofs.Deletion
import IssueFlow.Proofs.WorkflowReferences

/-!
# Workflow schemes as maps

The rows of all schemes are a map from pairs of a scheme and an issue type, or no issue type for the
default, to workflows (`Graph.mapped?`). An operation sets the map at one key, clears it there, or
leaves it (`Graph.mapped?_of_changes`). So along a run the map holds what was last given to a key
(`Store.mapped?_after`), and the workflow of an issue type is decided by what was last given to two
keys. Writes at other keys make no difference to it (`Store.given_writes`).
-/

namespace IssueFlow

namespace Graph

/-- The workflow that is mapped to a key. -/
def mapped? (t : Graph) (key : WorkflowSchemeId × Option IssueTypeId) : Option WorkflowId :=
  (t.mappings.find? fun m => mappingKey m == key).map (·.workflowId)

private theorem fits_eq_key (row : SchemeMapping) (scheme : WorkflowSchemeId)
    (issueType : Option IssueTypeId) :
    (row.schemeId == scheme && row.issueTypeId == issueType) =
      (mappingKey row == (scheme, issueType)) :=
  rfl

private theorem find?_putMappingRow (mapping : SchemeMapping) (rows : List SchemeMapping)
    (key : WorkflowSchemeId × Option IssueTypeId) :
    (putMappingRow mapping rows).find? (fun m => mappingKey m == key) =
      if mappingKey mapping = key then some mapping
      else rows.find? fun m => mappingKey m == key := by
  induction rows with
  | nil => by_cases same : mappingKey mapping = key <;> simp [putMappingRow, same]
  | cons first rest ih =>
    rw [putMappingRow, fits_eq_key]
    grind [mappingKey]

private theorem find?_removeMappingRow (removed key : WorkflowSchemeId × Option IssueTypeId)
    (rows : List SchemeMapping) :
    (rows.filter fun m => !(mappingKey m == removed)).find? (fun m => mappingKey m == key) =
      if removed = key then none else rows.find? fun m => mappingKey m == key := by
  rw [List.find?_filter]
  split
  · next same => simp [same]
  · next differs =>
    congr 1
    funext m
    by_cases fits : mappingKey m = key <;> simp [fits, Ne.symm differs]

/-- What an operation that is carried out gives to a key: a workflow, or nothing when it takes the
mapping away. -/
def Operation.gives? (key : WorkflowSchemeId × Option IssueTypeId) :
    Graph.Operation → Option (Option WorkflowId)
  | .putMapping mapping =>
    if mappingKey mapping = key then some (some mapping.workflowId) else none
  | .removeMapping scheme issueType => if (scheme, issueType) = key then some none else none
  | _ => none

/-- The key that an operation writes the map at. -/
def Operation.writes? : Graph.Operation → Option (WorkflowSchemeId × Option IssueTypeId)
  | .putMapping mapping => some (mappingKey mapping)
  | .removeMapping scheme issueType => some (scheme, issueType)
  | _ => none

private theorem Operation.gives?_eq_none {op : Graph.Operation}
    {key : WorkflowSchemeId × Option IssueTypeId} (other : op.writes? ≠ some key) :
    op.gives? key = none := by
  cases op with
  | putMapping mapping => exact if_neg fun same => other (congrArg some same)
  | removeMapping scheme issueType => exact if_neg fun same => other (congrArg some same)
  | _ => rfl

/-- An operation changes the map only at the key that it gives something to. -/
theorem mapped?_of_changes {op : Graph.Operation} {t after : Graph} (changes : Changes t after op)
    (key : WorkflowSchemeId × Option IssueTypeId) :
    after.mapped? key = (op.gives? key).getD (t.mapped? key) := by
  cases changes with
  | putMapping mapping scheme workflow =>
    rw [mapped?, find?_putMappingRow, Operation.gives?, mapped?]
    split <;> rfl
  | removedMapping scheme issueType =>
    simp only [mapped?, Operation.gives?, fits_eq_key, find?_removeMappingRow]
    split <;> rfl
  | _ => rfl

/-- An issue type is given the workflow of its own key, else that of the default key. -/
private theorem selectMapping?_map (t : Graph) (scheme : WorkflowSchemeId)
    (issueType : IssueTypeId) :
    (selectMapping? (t.mappingsOf scheme) issueType).map (·.workflowId) =
      (t.mapped? (scheme, some issueType)).or (t.mapped? (scheme, none)) := by
  have default : ∀ m : SchemeMapping, m.isDefault = (m.issueTypeId == none) := by
    intro m
    rw [SchemeMapping.isDefault]
    cases m.issueTypeId <;> rfl
  have finds : ∀ issueType, (t.mappingsOf scheme).find? (·.issueTypeId == issueType) =
      t.mappings.find? fun m => mappingKey m == (scheme, issueType) := by
    intro issueType
    rw [mappingsOf, List.find?_filter]
    congr 1
    funext m
    rw [← fits_eq_key, Bool.eq_iff_iff]
    simp
  rw [selectMapping?, finds]
  simp only [default, finds]
  rw [Option.map_or, mapped?, mapped?]

end Graph

/-! ## Along a run -/

namespace Store

/-- What a step gives to a key: nothing unless its operation is carried out. -/
def gives? (store : Store) (key : WorkflowSchemeId × Option IssueTypeId) :
    Step → Option (Option WorkflowId)
  | .operation (.onGraph op) =>
    match (store.update (Tables.onGraph op.apply)).1 with
    | .ok _ => op.gives? key
    | .error _ => none
  | _ => none

/-- All that is given to a key along a run, in order. -/
def given (key : WorkflowSchemeId × Option IssueTypeId) :
    Store → List Step → List (Option WorkflowId)
  | _, [] => []
  | store, step :: steps => (store.gives? key step).toList ++ given key (store.step step) steps

private theorem mapped?_step (store : Store) (key : WorkflowSchemeId × Option IssueTypeId)
    (step : Step) :
    (store.step step).tables.graph.mapped? key =
      (store.gives? key step).getD (store.tables.graph.mapped? key) := by
  have byGraph := store.step_graph_cases step
  cases step with
  | switch | tick => rfl
  | operation op =>
    cases op with
    | onGraph op =>
      rcases store.update_cases op.failsClean.onGraph with
        ⟨e, refused⟩ | ⟨answer, tables, -, done, updated⟩
      · have same : store.step (.operation (.onGraph op)) = store := congrArg Prod.snd refused
        rw [same, gives?, refused]
        rfl
      · have next : store.step (.operation (.onGraph op)) = { store with tables } :=
          congrArg Prod.snd updated
        obtain ⟨graph, applied, rfl⟩ := within_eq_ok_iff.1 done
        rw [next, gives?, updated]
        exact Graph.mapped?_of_changes (Graph.changes_of_apply applied) key
    | onAccounts | onProjects | onGrants | onMembership | onIssueLog =>
      rcases byGraph with same | ⟨_, ⟨⟩, _⟩
      rw [same]
      rfl

/-- The map holds what was last given to a key. -/
theorem mapped?_after (store : Store) (key : WorkflowSchemeId × Option IssueTypeId)
    (steps : List Step) :
    (store.after steps).tables.graph.mapped? key =
      (store.given key steps).getLast?.getD (store.tables.graph.mapped? key) := by
  induction steps generalizing store with
  | nil => rfl
  | cons step steps ih =>
    show ((store.step step).after steps).tables.graph.mapped? key = _
    rw [ih, mapped?_step, given, List.getLast?_append]
    cases (given key (store.step step) steps).getLast? with
    | some last => rfl
    | none => cases store.gives? key step <;> rfl

/-- The workflow that a run from the empty store gave to a key last, unless it has taken the mapping
away since. -/
def lastGiven? (steps : List Step) (key : WorkflowSchemeId × Option IssueTypeId) :
    Option WorkflowId :=
  (given key {} steps).getLast?.join

/-- The workflow that a run gave to an issue type, or where it gave none to all others. -/
def chosen? (steps : List Step) (scheme : WorkflowSchemeId) (issueType : IssueTypeId) :
    Option WorkflowId :=
  (lastGiven? steps (scheme, some issueType)).or (lastGiven? steps (scheme, none))

private theorem chosen?_eq (steps : List Step) (scheme : WorkflowSchemeId)
    (issueType : IssueTypeId) :
    chosen? steps scheme issueType =
      ((({} : Store).after steps).tables.graph.mapped? (scheme, some issueType)).or
        ((({} : Store).after steps).tables.graph.mapped? (scheme, none)) := by
  have held : ∀ key, (({} : Store).after steps).tables.graph.mapped? key =
      lastGiven? steps key := by
    intro key
    rw [mapped?_after, lastGiven?]
    cases (given key {} steps).getLast? <;> rfl
  rw [held, held, chosen?]

end Store

namespace Store

/-- The store with these mappings in place of its own. -/
def withMappings (store : Store) (mappings : List SchemeMapping) : Store :=
  { store with tables.graph.mappings := mappings }

theorem step_of_writes (store : Store) {op : Graph.Operation} (writes : op.writes?.isSome) :
    ∃ mappings, store.step (.operation (.onGraph op)) = store.withMappings mappings := by
  rcases store.update_cases op.failsClean.onGraph with
    ⟨e, refused⟩ | ⟨answer, tables, -, done, updated⟩
  · exact ⟨_, congrArg Prod.snd refused⟩
  · refine ⟨tables.graph.mappings, (congrArg Prod.snd updated).trans ?_⟩
    obtain ⟨graph, applied, rfl⟩ := within_eq_ok_iff.1 done
    cases Graph.changes_of_apply applied with
    | putMapping | removedMapping => rfl
    | _ => cases writes

private theorem gives?_eq (store : Store) (key : WorkflowSchemeId × Option IssueTypeId)
    (op : Graph.Operation) : store.gives? key (.operation (.onGraph op)) =
      if store.unavailable = false ∧ (op.apply.run store.tables.graph).1.isOk then op.gives? key
      else none := by
  rcases Bool.eq_false_or_eq_true store.unavailable with unavailable | available
  · rw [gives?, update, if_pos unavailable, unavailable]
    rfl
  · rcases done : op.apply.run store.tables.graph with ⟨e | answer, graph⟩ <;>
    · rw [gives?, update_onGraph available done, available]
      rfl

/-- A mapping is taken when its scheme and its workflow are there. -/
private theorem isOk_putMapping (mapping : SchemeMapping) (t : Graph) :
    ((Graph.Operation.putMapping mapping).apply.run t).1.isOk =
      (t.schemes.contains mapping.schemeId && t.workflows.contains mapping.workflowId) := by
  rw [Graph.Operation.apply, answering, map_run, Graph.putMapping, run_get_bind, require_bind_run]
  cases t.schemes.contains mapping.schemeId with
  | false => rfl
  | true =>
    rw [if_pos rfl, Graph.requireWorkflow, require_bind_run]
    cases t.workflows.contains mapping.workflowId <;> rfl

private theorem gives?_withMappings (store : Store) (mappings : List SchemeMapping)
    (key : WorkflowSchemeId × Option IssueTypeId) {op : Graph.Operation}
    (writes : op.writes?.isSome) :
    (store.withMappings mappings).gives? key (.operation (.onGraph op)) =
      store.gives? key (.operation (.onGraph op)) := by
  have same : (op.apply.run (store.withMappings mappings).tables.graph).1.isOk =
      (op.apply.run store.tables.graph).1.isOk := by
    cases op with
    | removeMapping scheme issueType => rfl
    | putMapping mapping => rw [isOk_putMapping, isOk_putMapping, withMappings]
    | _ => cases writes
  rw [gives?_eq, gives?_eq, same, withMappings]

/-- A block of writes of the map leaves all but the mappings as it is. -/
private theorem after_writes (store : Store) {writes : List Graph.Operation}
    (each : ∀ op ∈ writes, op.writes?.isSome) :
    ∃ mappings, store.after (writes.map (.operation <| .onGraph ·)) =
      store.withMappings mappings := by
  induction writes generalizing store with
  | nil => exact ⟨store.tables.graph.mappings, rfl⟩
  | cons op writes ih =>
    obtain ⟨first, rest⟩ := List.forall_mem_cons.1 each
    obtain ⟨mappings, stepped⟩ := store.step_of_writes first
    obtain ⟨later, reached⟩ := ih (store.withMappings mappings) rest
    refine ⟨later, ?_⟩
    show (store.step (.operation (.onGraph op))).after _ = _
    rw [stepped, reached]
    rfl

/-- Of a block of writes a key is given what those at the key give, each as it would at the
start. -/
theorem given_writes (store : Store) (key : WorkflowSchemeId × Option IssueTypeId)
    {writes : List Graph.Operation} (each : ∀ op ∈ writes, op.writes?.isSome) :
    store.given key (writes.map (.operation <| .onGraph ·)) =
      (writes.filter (·.writes? = some key)).filterMap
        (store.gives? key <| .operation <| .onGraph ·) := by
  induction writes generalizing store with
  | nil => rfl
  | cons op writes ih =>
    obtain ⟨first, rest⟩ := List.forall_mem_cons.1 each
    obtain ⟨mappings, stepped⟩ := store.step_of_writes first
    -- What the others give does not depend on the mappings that this one leaves.
    have later : (store.withMappings mappings).given key (writes.map (.operation <| .onGraph ·)) =
        (writes.filter (·.writes? = some key)).filterMap
          (store.gives? key <| .operation <| .onGraph ·) := by
      rw [ih (store.withMappings mappings) rest]
      refine List.filterMap_congr fun op member => ?_
      exact store.gives?_withMappings mappings key (rest op (List.mem_of_mem_filter member))
    rw [List.map_cons, given, stepped, later]
    by_cases own : op.writes? = some key
    · rw [List.filter_cons_of_pos (by simpa using own), List.filterMap_cons]
      cases store.gives? key (.operation (.onGraph op)) <;> rfl
    · have nothing : store.gives? key (.operation (.onGraph op)) = none := by
        rw [gives?_eq, Graph.Operation.gives?_eq_none own, ite_self]
      rw [List.filter_cons_of_neg (by simpa using own), nothing]
      rfl

private theorem mapped?_after_writes (store : Store) (key : WorkflowSchemeId × Option IssueTypeId)
    {writes : List Graph.Operation} (each : ∀ op ∈ writes, op.writes?.isSome) :
    (store.after (writes.map (.operation <| .onGraph ·))).tables.graph.mapped? key =
      ((writes.filter (·.writes? = some key)).filterMap
        (store.gives? key <| .operation <| .onGraph ·)).getLast?.getD
          (store.tables.graph.mapped? key) := by
  rw [mapped?_after, given_writes store key each]

end Store

/-- The map decides which workflow is looked up. -/
private theorem workflowForIssueType_run_eq {store : Store} (available : store.unavailable = false)
    (scheme : WorkflowSchemeId) (issueType : IssueTypeId) :
    (Route.workflowForIssueType scheme issueType).run store =
      match (store.tables.graph.mapped? (scheme, some issueType)).or
        (store.tables.graph.mapped? (scheme, none)) with
      | some id => (Route.workflow id).run store
      | none => .error (.notFound s!"workflow for issue type {issueType} in scheme {scheme}") := by
  rw [← Graph.selectMapping?_map, Route.workflowForIssueType, Query.run_bind,
    Query.lookFor_run available]
  cases selectMapping? (store.tables.graph.mappingsOf scheme) issueType <;> rfl

/-- How the mappings are listed makes no difference, nor what other keys are mapped to. -/
private theorem workflowForIssueType_withMappings {store : Store}
    (available : store.unavailable = false) {scheme : WorkflowSchemeId} {issueType : IssueTypeId}
    {first second : List SchemeMapping}
    (same : ∀ key ∈ [(scheme, some issueType), (scheme, none)],
      (store.withMappings first).tables.graph.mapped? key =
        (store.withMappings second).tables.graph.mapped? key) :
    (Route.workflowForIssueType scheme issueType).run (store.withMappings first) =
      (Route.workflowForIssueType scheme issueType).run (store.withMappings second) := by
  obtain ⟨own, rest⟩ := List.forall_mem_cons.1 same
  have switch : ∀ mappings, (store.withMappings mappings).unavailable = false :=
    fun _ => available
  have find : ∀ id, (Route.workflow id).run (store.withMappings first) =
      (Route.workflow id).run (store.withMappings second) := by
    intro id
    rw [Route.workflow, Query.lookFor_run (switch first), Query.lookFor_run (switch second)]
    rfl
  rw [workflowForIssueType_run_eq (switch first), workflowForIssueType_run_eq (switch second), own,
    List.forall_mem_singleton.1 rest]
  simp only [find]

/-- A mapping that is selected leads to its workflow, which cannot be deleted. -/
private theorem workflowForIssueType_run_of_chosen {steps : List Store.Step}
    (available : (({} : Store).after steps).unavailable = false) {scheme : WorkflowSchemeId}
    {issueType : IssueTypeId} {id : WorkflowId}
    (chosen : Store.chosen? steps scheme issueType = some id) :
    ∃ workflow, (({} : Store).after steps).tables.graph.workflows.get? id = some workflow ∧
      (Route.workflowForIssueType scheme issueType).run (({} : Store).after steps) =
        .ok workflow ∧
      (({} : Store).after steps).update (Deletion.workflow id).carryOut =
        (.error (.conflict s!"workflow {id.text} is still mapped by a workflow scheme"),
          ({} : Store).after steps) := by
  have reached : (({} : Store).after steps).Reachable := ⟨steps, rfl⟩
  rw [Store.chosen?_eq, ← Graph.selectMapping?_map, Option.map_eq_some_iff] at chosen
  obtain ⟨mapping, selected, rfl⟩ := chosen
  obtain ⟨workflow, stored, answered⟩ := workflowForIssueType_run reached.linked selected
  rw [Store.finds_of_available available] at answered
  refine ⟨workflow, stored, answered, ?_⟩
  obtain ⟨member, -⟩ := reached.distinct.selectMapping?_eq_some_iff.1 selected
  exact Store.update_onGraph available (Deletion.deleteWorkflow_of_mapped ⟨mapping, member, rfl⟩)

private theorem workflowForIssueType_run_of_not_chosen {steps : List Store.Step}
    (available : (({} : Store).after steps).unavailable = false) {scheme : WorkflowSchemeId}
    {issueType : IssueTypeId} (chosen : Store.chosen? steps scheme issueType = none) :
    (Route.workflowForIssueType scheme issueType).run (({} : Store).after steps) =
      .error (.notFound s!"workflow for issue type {issueType} in scheme {scheme}") := by
  rw [workflowForIssueType_run_eq available, ← Store.chosen?_eq, chosen]

/-- A scheme is a map with a default. After every run from the empty store the workflow of an issue
type is the one that was last given to the type and not taken away since, or where there is none the
one last given to all others; where there is neither it is not found. A workflow that is answered
is stored, and cannot be deleted. Nothing else matters: runs that last gave the same to the two keys
answer the same, and so do two blocks of writes behind a run that have the same writes at each of
the two keys, in whatever order those stand to one another and to writes at other keys. -/
theorem scheme_is_map_with_default (steps : List Store.Step)
    (available : (({} : Store).after steps).unavailable = false) (scheme : WorkflowSchemeId)
    (issueType : IssueTypeId) :
    (∀ id, Store.chosen? steps scheme issueType = some id →
      ∃ workflow, (({} : Store).after steps).tables.graph.workflows.get? id = some workflow ∧
        (Route.workflowForIssueType scheme issueType).run (({} : Store).after steps) =
          .ok workflow ∧
        (({} : Store).after steps).update (Deletion.workflow id).carryOut =
          (.error (.conflict s!"workflow {id.text} is still mapped by a workflow scheme"),
            ({} : Store).after steps)) ∧
    (Store.chosen? steps scheme issueType = none →
      (Route.workflowForIssueType scheme issueType).run (({} : Store).after steps) =
        .error (.notFound s!"workflow for issue type {issueType} in scheme {scheme}")) ∧
    (∀ others, (({} : Store).after others).unavailable = false →
      (∀ key ∈ [(scheme, some issueType), (scheme, none)],
        Store.lastGiven? others key = Store.lastGiven? steps key) →
      ((Route.workflowForIssueType scheme issueType).run (({} : Store).after others)).map
          (·.id) =
        ((Route.workflowForIssueType scheme issueType).run (({} : Store).after steps)).map
          (·.id)) ∧
    ∀ writes others : List Graph.Operation,
      (∀ op ∈ writes, op.writes?.isSome) → (∀ op ∈ others, op.writes?.isSome) →
      (∀ key ∈ [(scheme, some issueType), (scheme, none)],
        writes.filter (·.writes? = some key) = others.filter (·.writes? = some key)) →
      (Route.workflowForIssueType scheme issueType).run
          ((({} : Store).after steps).after (writes.map (.operation <| .onGraph ·))) =
        (Route.workflowForIssueType scheme issueType).run
          ((({} : Store).after steps).after (others.map (.operation <| .onGraph ·))) := by
  refine ⟨?_, ?_, ?_, ?_⟩
  · intro id chosen
    exact workflowForIssueType_run_of_chosen available chosen
  · intro chosen
    exact workflowForIssueType_run_of_not_chosen available chosen
  · intro others availableToo agree
    obtain ⟨own, rest⟩ := List.forall_mem_cons.1 agree
    have same : Store.chosen? others scheme issueType = Store.chosen? steps scheme issueType := by
      rw [Store.chosen?, own, List.forall_mem_singleton.1 rest, Store.chosen?]
    cases chosen : Store.chosen? steps scheme issueType with
    | none =>
      rw [workflowForIssueType_run_of_not_chosen available chosen,
        workflowForIssueType_run_of_not_chosen availableToo (same.trans chosen)]
    | some id =>
      obtain ⟨first, stored, answered, -⟩ := workflowForIssueType_run_of_chosen available chosen
      obtain ⟨second, storedToo, answeredToo, -⟩ :=
        workflowForIssueType_run_of_chosen availableToo (same.trans chosen)
      have named : first.id = id := Table.key_of_get? stored
      have namedToo : second.id = id := Table.key_of_get? storedToo
      rw [answered, answeredToo, Except.map, Except.map, named, namedToo]
  · intro writes others each eachToo agree
    obtain ⟨first, after⟩ := Store.after_writes (({} : Store).after steps) each
    obtain ⟨second, afterToo⟩ := Store.after_writes (({} : Store).after steps) eachToo
    rw [after, afterToo]
    refine workflowForIssueType_withMappings available fun key member => ?_
    rw [← after, ← afterToo, Store.mapped?_after_writes _ key each,
      Store.mapped?_after_writes _ key eachToo, agree key member]

/-- A second workflow is given to bugs and to tasks, and taken from the tasks again. It cannot be
deleted then, and bugs cannot be given a workflow that is not there. -/
def Sample.mappingSteps : List Store.Step :=
  steps ++ [
    .operation (.onGraph (.createWorkflow ⟨⟨"V"⟩, "short flow", none, false, ⟨0, 0⟩⟩)),
    .operation (.onGraph (.putMapping ⟨⟨"WS"⟩, some ⟨"bug"⟩, ⟨"V"⟩⟩)),
    .operation (.onGraph (.putMapping ⟨⟨"WS"⟩, some ⟨"task"⟩, ⟨"V"⟩⟩)),
    .operation (.onGraph (.removeMapping ⟨"WS"⟩ (some ⟨"task"⟩))),
    .operation (.onGraph (.deleteWorkflow ⟨"V"⟩)),
    .operation (.onGraph (.putMapping ⟨⟨"WS"⟩, some ⟨"bug"⟩, ⟨"U"⟩⟩))]

theorem sample_scheme_map :
    (({} : Store).after Sample.mappingSteps).unavailable = false ∧
      (∃ workflow, workflow.id = ⟨"V"⟩ ∧ (Route.workflowForIssueType ⟨"WS"⟩ ⟨"bug"⟩).run
        (({} : Store).after Sample.mappingSteps) = .ok workflow) ∧
      (∃ workflow, workflow.id = ⟨"W"⟩ ∧ (Route.workflowForIssueType ⟨"WS"⟩ ⟨"task"⟩).run
        (({} : Store).after Sample.mappingSteps) = .ok workflow) ∧
      ∃ what, (Route.workflowForIssueType ⟨"WT"⟩ ⟨"bug"⟩).run
        (({} : Store).after Sample.mappingSteps) = .error (.notFound what) := by
  have available : (({} : Store).after Sample.mappingSteps).unavailable = false := by
    decide +kernel
  refine ⟨available, ?_, ?_, ?_⟩
  · obtain ⟨workflow, stored, answered, -⟩ :=
      (scheme_is_map_with_default Sample.mappingSteps available ⟨"WS"⟩ ⟨"bug"⟩).1 ⟨"V"⟩
        (by decide +kernel)
    exact ⟨workflow, Table.key_of_get? stored, answered⟩
  · obtain ⟨workflow, stored, answered, -⟩ :=
      (scheme_is_map_with_default Sample.mappingSteps available ⟨"WS"⟩ ⟨"task"⟩).1 ⟨"W"⟩
        (by decide +kernel)
    exact ⟨workflow, Table.key_of_get? stored, answered⟩
  · exact ⟨_, (scheme_is_map_with_default Sample.mappingSteps available ⟨"WT"⟩ ⟨"bug"⟩).2.1
      (by decide +kernel)⟩

end IssueFlow
