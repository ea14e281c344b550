import IssueFlow.Proofs.Reachable
import IssueFlow.Proofs.TableLaws

/-!
# Integrity of the workflow tables

What each operation of the workflow tables does (`Graph.Changes`). In a reachable store every row
names only rows that are there (`Graph.Linked`), and edges and mappings are told apart by what they
lead from (`Graph.Distinct`).
-/

namespace IssueFlow

namespace Graph

/-- What an operation does to the tables, and what it has made sure of. -/
inductive Changes (t : Graph) : Graph → Graph.Operation → Prop where
  | createdWorkflow (workflow : Workflow) (fresh : t.workflows.contains workflow.id = false) :
      Changes t { t with workflows := t.workflows.put workflow } (.createWorkflow workflow)
  | deletedWorkflow (id : WorkflowId) (unmapped : ∀ mapping ∈ t.mappings, mapping.workflowId ≠ id)
      (stored : t.workflows.contains id = true) :
      Changes t { t.dropTransitions (t.transitionIs (·.workflowId == id)) with
        workflows := t.workflows.erase id
        statuses := t.statuses.filter (·.workflowId != id) } (.deleteWorkflow id)
  | noWorkflow (id : WorkflowId) (absent : t.workflows.contains id = false) :
      Changes t t (.deleteWorkflow id)
  | putStatus (status : Status) (owned : t.workflows.contains status.workflowId = true)
      (stays : ∀ {existing}, t.statuses.get? status.id = some existing →
        existing.workflowId = status.workflowId) :
      Changes t { t with statuses := t.statuses.put status } (.putStatus status)
  | deletedStatus (id : StatusId) (stored : t.statuses.contains id = true) :
      Changes t { t.dropTransitions (t.transitionIs fun e => e.fromStatus == id || e.toStatus == id)
        with statuses := t.statuses.erase id } (.deleteStatus id)
  | noStatus (id : StatusId) (absent : t.statuses.contains id = false) :
      Changes t t (.deleteStatus id)
  | renamedEdge (draft : TransitionDraft) (existing : Transition)
      (screened : ∀ {screen}, draft.screenId = some screen → t.screens.contains screen = true)
      (found : t.edge? draft.workflowId draft.fromStatus draft.toStatus = some existing) :
      Changes t { t with
        transitions := t.transitions.put
          { existing with name := draft.name, screenId := draft.screenId } } (.putTransition draft)
  | madeEdge (draft : TransitionDraft) (owned : t.workflows.contains draft.workflowId = true)
      (source : t.hasStatus draft.workflowId draft.fromStatus = true)
      (target : t.hasStatus draft.workflowId draft.toStatus = true)
      (screened : ∀ {screen}, draft.screenId = some screen → t.screens.contains screen = true)
      (fresh : t.edge? draft.workflowId draft.fromStatus draft.toStatus = none) :
      Changes t { t with
        transitions := t.transitions.put ⟨⟨s!"T{t.transitionCount + 1}"⟩, draft.workflowId,
          draft.fromStatus, draft.toStatus, draft.name, draft.screenId⟩
        transitionCount := t.transitionCount + 1 } (.putTransition draft)
  | deletedTransition (id : TransitionId) :
      Changes t (t.dropTransitions (· == id)) (.deleteTransition id)
  | addedCondition (rule : ConditionRule)
      (owned : t.transitions.contains rule.transitionId = true) :
      Changes t { t with conditions := t.conditions ++ [rule] } (.addCondition rule)
  | deletedCondition (id : RuleId) :
      Changes t { t with conditions := t.conditions.filter fun rule => !(rule.id == id) }
        (.deleteCondition id)
  | addedValidator (rule : ValidatorRule)
      (owned : t.transitions.contains rule.transitionId = true) :
      Changes t { t with validators := t.validators ++ [rule] } (.addValidator rule)
  | deletedValidator (id : RuleId) :
      Changes t { t with validators := t.validators.filter fun rule => !(rule.id == id) }
        (.deleteValidator id)
  | addedPostFunction (rule : PostFunctionRule)
      (owned : t.transitions.contains rule.transitionId = true) :
      Changes t { t with postFunctions := t.postFunctions ++ [rule] } (.addPostFunction rule)
  | deletedPostFunction (id : RuleId) :
      Changes t { t with postFunctions := t.postFunctions.filter fun rule => !(rule.id == id) }
        (.deletePostFunction id)
  | createdScreen (screen : Screen) (fresh : t.screens.contains screen.id = false) :
      Changes t { t with screens := t.screens.put screen } (.createScreen screen)
  | putScreenField (field : ScreenField) (owned : t.screens.contains field.screenId = true) :
      Changes t { t with screenFields := putScreenFieldRow field t.screenFields }
        (.putScreenField field)
  | removedScreenField (screen : ScreenId) (field : FieldRef) :
      Changes t { t with
        screenFields := t.screenFields.filter fun row =>
          !(row.screenId == screen && row.field == field) } (.removeScreenField screen field)
  | createdScheme (scheme : WorkflowScheme) (fresh : t.schemes.contains scheme.id = false) :
      Changes t { t with schemes := t.schemes.put scheme } (.createScheme scheme)
  | putMapping (mapping : SchemeMapping) (scheme : t.schemes.contains mapping.schemeId = true)
      (workflow : t.workflows.contains mapping.workflowId = true) :
      Changes t { t with mappings := putMappingRow mapping t.mappings } (.putMapping mapping)
  | removedMapping (scheme : WorkflowSchemeId) (issueType : Option IssueTypeId) :
      Changes t { t with
        mappings := t.mappings.filter fun m =>
          !(m.schemeId == scheme && m.issueTypeId == issueType) } (.removeMapping scheme issueType)

theorem changes_of_deleteWorkflow {id : WorkflowId} {t after : Graph} {found : Bool}
    (done : (deleteWorkflow id).run t = (.ok found, after)) :
    Changes t after (.deleteWorkflow id) := by
  obtain ⟨unmapped, done⟩ := require_bind_eq_ok_iff.1 (looked done)
  cases stored : t.workflows.contains id with
  | true =>
    rw [stored] at done
    cases done
    refine .deletedWorkflow id ?_ stored
    simpa using unmapped
  | false =>
    rw [stored] at done
    cases done
    exact .noWorkflow id stored

private theorem changes_of_putStatus {status : Status} {t after : Graph} {u : Unit}
    (done : (putStatus status).run t = (.ok u, after)) : Changes t after (.putStatus status) := by
  obtain ⟨owned, done⟩ := require_bind_eq_ok_iff.1 (looked done)
  obtain ⟨same, done⟩ := ok_of_checkSome done
  cases done
  refine .putStatus status owned fun found => ?_
  simpa using same found

theorem changes_of_deleteStatus {id : StatusId} {t after : Graph} {found : Bool}
    (done : (deleteStatus id).run t = (.ok found, after)) : Changes t after (.deleteStatus id) := by
  have done := looked done
  cases stored : t.statuses.contains id with
  | true =>
    rw [stored] at done
    cases done
    exact .deletedStatus id stored
  | false =>
    rw [stored] at done
    cases done
    exact .noStatus id stored

/-- The row that a draft asks for, and the tables with it. -/
def placeEdge (draft : TransitionDraft) (t : Graph) : Transition × Graph :=
  match t.edge? draft.workflowId draft.fromStatus draft.toStatus with
  | some existing =>
    let row := { existing with name := draft.name, screenId := draft.screenId }
    (row, { t with transitions := t.transitions.put row })
  | none =>
    let row : Transition := ⟨⟨s!"T{t.transitionCount + 1}"⟩, draft.workflowId, draft.fromStatus,
      draft.toStatus, draft.name, draft.screenId⟩
    (row, { t with
      transitions := t.transitions.put row, transitionCount := t.transitionCount + 1 })

/-- An edge is placed once its workflow, its statuses and its screen have been found. -/
theorem putTransition_eq_ok {draft : TransitionDraft} {t after : Graph} {row : Transition}
    (done : (putTransition draft).run t = (.ok row, after)) :
    t.workflows.contains draft.workflowId = true ∧
      t.hasStatus draft.workflowId draft.fromStatus = true ∧
      t.hasStatus draft.workflowId draft.toStatus = true ∧
      (∀ {screen}, draft.screenId = some screen → t.screens.contains screen = true) ∧
      placeEdge draft t = (row, after) := by
  obtain ⟨owned, done⟩ := require_bind_eq_ok_iff.1 (looked done)
  obtain ⟨source, done⟩ := require_bind_eq_ok_iff.1 done
  obtain ⟨target, done⟩ := require_bind_eq_ok_iff.1 done
  obtain ⟨screened, done⟩ := ok_of_checkSome done
  refine ⟨owned, source, target, fun asked => require_eq_ok_iff.1 (screened asked), ?_⟩
  split at done <;>
  · next found =>
    cases done
    rw [placeEdge, found]

theorem changes_of_putTransition {draft : TransitionDraft} {t after : Graph} {row : Transition}
    (done : (putTransition draft).run t = (.ok row, after)) :
    Changes t after (.putTransition draft) := by
  obtain ⟨owned, source, target, screened, placed⟩ := putTransition_eq_ok done
  rw [placeEdge] at placed
  cases found : t.edge? draft.workflowId draft.fromStatus draft.toStatus with
  | some existing =>
    rw [found] at placed
    cases placed
    exact .renamedEdge draft existing screened found
  | none =>
    rw [found] at placed
    cases placed
    exact .madeEdge draft owned source target screened found

theorem changes_of_apply {op : Graph.Operation} {t after : Graph} {answer : Answer}
    (done : op.apply.run t = (.ok answer, after)) : Changes t after op := by
  cases op with
  | createWorkflow workflow =>
    rw [Operation.apply, answering_eq_ok_iff] at done
    obtain ⟨_, done, -⟩ := done
    obtain ⟨fresh, done⟩ := require_bind_eq_ok_iff.1 (looked done)
    cases done
    exact .createdWorkflow workflow (by simpa using fresh)
  | deleteWorkflow id =>
    rw [Operation.apply, answering_eq_ok_iff] at done
    obtain ⟨_, done, -⟩ := done
    exact changes_of_deleteWorkflow done
  | putStatus status =>
    rw [Operation.apply, answering_eq_ok_iff] at done
    obtain ⟨_, done, -⟩ := done
    exact changes_of_putStatus done
  | deleteStatus id =>
    rw [Operation.apply, answering_eq_ok_iff] at done
    obtain ⟨_, done, -⟩ := done
    exact changes_of_deleteStatus done
  | putTransition draft =>
    rw [Operation.apply, answering_eq_ok_iff] at done
    obtain ⟨_, done, -⟩ := done
    exact changes_of_putTransition done
  | deleteTransition id =>
    rw [Operation.apply, answering_eq_ok_iff] at done
    obtain ⟨_, done, -⟩ := done
    cases done
    exact .deletedTransition id
  | addCondition rule =>
    rw [Operation.apply, answering_eq_ok_iff] at done
    obtain ⟨_, done, -⟩ := done
    obtain ⟨owned, done⟩ := require_bind_eq_ok_iff.1 (looked done)
    cases done
    exact .addedCondition rule owned
  | deleteCondition id =>
    rw [Operation.apply, answering_eq_ok_iff] at done
    obtain ⟨_, done, -⟩ := done
    cases done
    exact .deletedCondition id
  | addValidator rule =>
    rw [Operation.apply, answering_eq_ok_iff] at done
    obtain ⟨_, done, -⟩ := done
    obtain ⟨owned, done⟩ := require_bind_eq_ok_iff.1 (looked done)
    cases done
    exact .addedValidator rule owned
  | deleteValidator id =>
    rw [Operation.apply, answering_eq_ok_iff] at done
    obtain ⟨_, done, -⟩ := done
    cases done
    exact .deletedValidator id
  | addPostFunction rule =>
    rw [Operation.apply, answering_eq_ok_iff] at done
    obtain ⟨_, done, -⟩ := done
    obtain ⟨owned, done⟩ := require_bind_eq_ok_iff.1 (looked done)
    cases done
    exact .addedPostFunction rule owned
  | deletePostFunction id =>
    rw [Operation.apply, answering_eq_ok_iff] at done
    obtain ⟨_, done, -⟩ := done
    cases done
    exact .deletedPostFunction id
  | createScreen screen =>
    rw [Operation.apply, answering_eq_ok_iff] at done
    obtain ⟨_, done, -⟩ := done
    obtain ⟨fresh, done⟩ := require_bind_eq_ok_iff.1 (looked done)
    cases done
    exact .createdScreen screen (by simpa using fresh)
  | putScreenField field =>
    rw [Operation.apply, answering_eq_ok_iff] at done
    obtain ⟨_, done, -⟩ := done
    obtain ⟨owned, done⟩ := require_bind_eq_ok_iff.1 (looked done)
    cases done
    exact .putScreenField field owned
  | removeScreenField screen field =>
    rw [Operation.apply, answering_eq_ok_iff] at done
    obtain ⟨_, done, -⟩ := done
    cases done
    exact .removedScreenField screen field
  | createScheme scheme =>
    rw [Operation.apply, answering_eq_ok_iff] at done
    obtain ⟨_, done, -⟩ := done
    obtain ⟨fresh, done⟩ := require_bind_eq_ok_iff.1 (looked done)
    cases done
    exact .createdScheme scheme (by simpa using fresh)
  | putMapping mapping =>
    rw [Operation.apply, answering_eq_ok_iff] at done
    obtain ⟨_, done, -⟩ := done
    obtain ⟨scheme, done⟩ := require_bind_eq_ok_iff.1 (looked done)
    obtain ⟨workflow, done⟩ := require_bind_eq_ok_iff.1 done
    cases done
    exact .putMapping mapping scheme workflow
  | removeMapping scheme issueType =>
    rw [Operation.apply, answering_eq_ok_iff] at done
    obtain ⟨_, done, -⟩ := done
    cases done
    exact .removedMapping scheme issueType

/-! ## References -/

theorem hasStatus_iff {t : Graph} {workflow : WorkflowId} {status : StatusId} :
    t.hasStatus workflow status = true ↔
      ∃ row ∈ t.statuses.rows, row.id = status ∧ row.workflowId = workflow := by
  rw [hasStatus, Option.any_eq_true]
  simp only [Table.get?_eq_some_iff, beq_iff_eq, and_assoc]
  rfl

/-- Every row names only rows that are there, and a transition only statuses of its workflow. -/
structure Linked (t : Graph) : Prop where
  status : ∀ row ∈ t.statuses.rows, t.workflows.contains row.workflowId = true
  edge : ∀ row ∈ t.transitions.rows, t.workflows.contains row.workflowId = true
  source : ∀ row ∈ t.transitions.rows, t.hasStatus row.workflowId row.fromStatus = true
  target : ∀ row ∈ t.transitions.rows, t.hasStatus row.workflowId row.toStatus = true
  screen : ∀ row ∈ t.transitions.rows, ∀ {screen}, row.screenId = some screen →
    t.screens.contains screen = true
  condition : ∀ rule ∈ t.conditions, t.transitions.contains rule.transitionId = true
  validator : ∀ rule ∈ t.validators, t.transitions.contains rule.transitionId = true
  postFunction : ∀ rule ∈ t.postFunctions, t.transitions.contains rule.transitionId = true
  screenField : ∀ row ∈ t.screenFields, t.screens.contains row.screenId = true
  scheme : ∀ row ∈ t.mappings, t.schemes.contains row.schemeId = true
  workflow : ∀ row ∈ t.mappings, t.workflows.contains row.workflowId = true

theorem linked_empty : Linked {} := by
  constructor <;> exact List.forall_mem_nil _

theorem transitionIs_of_mem {t : Graph} {p : Transition → Bool} {row : Transition}
    (stored : row ∈ t.transitions.rows) : t.transitionIs p row.id = p row := by
  have found : t.transitions.get? row.id = some row := Table.get?_of_mem stored
  rw [transitionIs, found]
  rfl

/-- A transition that stays is still there for its rules. -/
private theorem contains_dropTransitions {t : Graph} {p : TransitionId → Bool} {id : TransitionId}
    (stored : t.transitions.contains id = true) (kept : p id = false) :
    (t.dropTransitions p).transitions.contains id = true := by
  obtain ⟨row, member, same⟩ := Table.contains_iff.1 stored
  refine Table.contains_filter.2 ⟨row, member, ?_, same⟩
  have same : row.id = id := same
  rw [same, kept]
  rfl

/-- Transitions and rules that stay name what they named. -/
theorem Linked.dropTransitions {t : Graph} (linked : Linked t) (p : TransitionId → Bool) :
    Linked (t.dropTransitions p) := by
  have row : ∀ row ∈ (t.dropTransitions p).transitions.rows, row ∈ t.transitions.rows :=
    fun _ member => (Table.mem_filter.1 member).1
  have rule : ∀ {κ : Type} {rules : List (Rule κ)},
      (∀ rule ∈ rules, t.transitions.contains rule.transitionId = true) →
      ∀ rule ∈ rules.filter (fun rule => !p rule.transitionId),
        (t.dropTransitions p).transitions.contains rule.transitionId = true := by
    intro κ rules all rule member
    obtain ⟨member, kept⟩ := List.mem_filter.1 member
    exact contains_dropTransitions (all rule member) (by simpa using kept)
  exact { linked with
    edge := fun e member => linked.edge e (row e member)
    source := fun e member => linked.source e (row e member)
    target := fun e member => linked.target e (row e member)
    screen := fun e member => linked.screen e (row e member)
    condition := rule linked.condition
    validator := rule linked.validator
    postFunction := rule linked.postFunction }

/-- Nothing is left of a workflow that is deleted. -/
private theorem Linked.deleteWorkflow {t : Graph} (linked : Linked t) {id : WorkflowId}
    (unmapped : ∀ mapping ∈ t.mappings, mapping.workflowId ≠ id) :
    Linked { t.dropTransitions (t.transitionIs (·.workflowId == id)) with
      workflows := t.workflows.erase id
      statuses := t.statuses.filter (·.workflowId != id) } := by
  have rest := linked.dropTransitions (t.transitionIs (·.workflowId == id))
  have others : ∀ row ∈ (t.dropTransitions (t.transitionIs (·.workflowId == id))).transitions.rows,
      row.workflowId ≠ id := by
    intro row member
    obtain ⟨stored, kept⟩ := Table.mem_filter.1 member
    simpa [transitionIs_of_mem stored] using kept
  have statusStays : ∀ {workflow status}, workflow ≠ id → t.hasStatus workflow status = true →
      ∃ row ∈ (t.statuses.filter (·.workflowId != id)).rows,
        row.id = status ∧ row.workflowId = workflow := by
    rintro workflow status differs there
    obtain ⟨row, stored, same, rfl⟩ := hasStatus_iff.1 there
    exact ⟨row, Table.mem_filter.2 ⟨stored, by simpa using differs⟩, same, rfl⟩
  exact { rest with
    status := by
      intro row member
      obtain ⟨stored, differs⟩ := Table.mem_filter.1 member
      exact Table.contains_erase.2 ⟨linked.status row stored, by simpa using differs⟩
    edge := fun row member => Table.contains_erase.2 ⟨rest.edge row member, others row member⟩
    source := fun row member =>
      hasStatus_iff.2 (statusStays (others row member) (rest.source row member))
    target := fun row member =>
      hasStatus_iff.2 (statusStays (others row member) (rest.target row member))
    workflow := fun mapping member =>
      Table.contains_erase.2 ⟨linked.workflow mapping member, unmapped mapping member⟩ }

/-- Nothing is left of a status that is deleted. -/
private theorem Linked.deleteStatus {t : Graph} (linked : Linked t) (id : StatusId) :
    Linked { t.dropTransitions (t.transitionIs fun e => e.fromStatus == id || e.toStatus == id) with
      statuses := t.statuses.erase id } := by
  have rest := linked.dropTransitions
    (t.transitionIs fun e => e.fromStatus == id || e.toStatus == id)
  have others : ∀ row ∈ (t.dropTransitions
      (t.transitionIs fun e => e.fromStatus == id || e.toStatus == id)).transitions.rows,
      row.fromStatus ≠ id ∧ row.toStatus ≠ id := by
    intro row member
    obtain ⟨stored, kept⟩ := Table.mem_filter.1 member
    simpa [transitionIs_of_mem stored] using kept
  have statusStays : ∀ {workflow status}, status ≠ id → t.hasStatus workflow status = true →
      ∃ row ∈ (t.statuses.erase id).rows, row.id = status ∧ row.workflowId = workflow := by
    rintro workflow status differs there
    obtain ⟨row, stored, rfl, same⟩ := hasStatus_iff.1 there
    exact ⟨row, Table.mem_erase.2 ⟨stored, differs⟩, rfl, same⟩
  exact { rest with
    status := fun row member => linked.status row (Table.mem_erase.1 member).1
    source := fun row member =>
      hasStatus_iff.2 (statusStays (others row member).1 (rest.source row member))
    target := fun row member =>
      hasStatus_iff.2 (statusStays (others row member).2 (rest.target row member)) }

/-- A status may be put over one of the same workflow. -/
private theorem Linked.putStatus {t : Graph} (linked : Linked t) {status : Status}
    (owned : t.workflows.contains status.workflowId = true)
    (stays : ∀ {existing}, t.statuses.get? status.id = some existing →
      existing.workflowId = status.workflowId) :
    Linked { t with statuses := t.statuses.put status } := by
  have statusStays : ∀ {workflow id}, t.hasStatus workflow id = true →
      ∃ row ∈ (t.statuses.put status).rows, row.id = id ∧ row.workflowId = workflow := by
    intro workflow id there
    obtain ⟨row, stored, rfl, rfl⟩ := hasStatus_iff.1 there
    by_cases same : row.id = status.id
    · refine ⟨status, Table.mem_put.2 (.inl rfl), same.symm, ?_⟩
      exact (stays (Table.get?_eq_some_iff.2 ⟨stored, same⟩)).symm
    · exact ⟨row, Table.mem_put.2 (.inr ⟨stored, same⟩), rfl, rfl⟩
  exact { linked with
    status := by
      intro row member
      rcases Table.mem_put.1 member with rfl | ⟨stored, -⟩
      · exact owned
      · exact linked.status row stored
    source := fun row member => hasStatus_iff.2 (statusStays (linked.source row member))
    target := fun row member => hasStatus_iff.2 (statusStays (linked.target row member)) }

/-- A transition may be put when all that it names is there. -/
private theorem Linked.putEdge {t : Graph} (linked : Linked t) {edge : Transition}
    (owned : t.workflows.contains edge.workflowId = true)
    (source : t.hasStatus edge.workflowId edge.fromStatus = true)
    (target : t.hasStatus edge.workflowId edge.toStatus = true)
    (screened : ∀ {screen}, edge.screenId = some screen → t.screens.contains screen = true)
    (count : Nat) :
    Linked { t with transitions := t.transitions.put edge, transitionCount := count } := by
  have stays : ∀ {id}, t.transitions.contains id = true →
      (t.transitions.put edge).contains id = true :=
    fun stored => Table.contains_put.2 (.inr stored)
  have either : ∀ {Holds : Transition → Prop}, Holds edge →
      (∀ row ∈ t.transitions.rows, Holds row) →
      ∀ row ∈ (t.transitions.put edge).rows, Holds row := by
    intro Holds new old row member
    rcases Table.mem_put.1 member with rfl | ⟨stored, -⟩
    · exact new
    · exact old row stored
  exact { linked with
    edge := either owned linked.edge
    source := either source linked.source
    target := either target linked.target
    screen := either screened linked.screen
    condition := fun rule member => stays (linked.condition rule member)
    validator := fun rule member => stays (linked.validator rule member)
    postFunction := fun rule member => stays (linked.postFunction rule member) }

private theorem mem_putScreenFieldRow {field row : ScreenField} {rows : List ScreenField}
    (member : row ∈ putScreenFieldRow field rows) : row = field ∨ row ∈ rows := by
  induction rows with
  | nil => exact .inl (List.mem_singleton.1 member)
  | cons first rest ih =>
    rw [putScreenFieldRow] at member
    split at member
    · exact (List.mem_cons.1 member).imp_right (List.mem_cons_of_mem first)
    · rcases List.mem_cons.1 member with rfl | later
      · exact .inr List.mem_cons_self
      · exact (ih later).imp_right (List.mem_cons_of_mem first)

private theorem mem_putMappingRow {mapping row : SchemeMapping} {rows : List SchemeMapping}
    (member : row ∈ putMappingRow mapping rows) : row = mapping ∨ row ∈ rows := by
  induction rows with
  | nil => exact .inl (List.mem_singleton.1 member)
  | cons first rest ih =>
    rw [putMappingRow] at member
    split at member
    · exact (List.mem_cons.1 member).imp_right (List.mem_cons_of_mem first)
    · rcases List.mem_cons.1 member with rfl | later
      · exact .inr List.mem_cons_self
      · exact (ih later).imp_right (List.mem_cons_of_mem first)

theorem mem_edge? {t : Graph} {workflow : WorkflowId} {source target : StatusId}
    {row : Transition} (found : t.edge? workflow source target = some row) :
    row ∈ t.transitions.rows ∧ row.workflowId = workflow ∧ row.fromStatus = source ∧
      row.toStatus = target := by
  have fits := List.find?_some found
  simp only [Bool.and_eq_true, beq_iff_eq, and_assoc] at fits
  exact ⟨List.mem_of_find?_eq_some found, fits⟩

theorem linked_of_changes {op : Graph.Operation} {t after : Graph} (linked : Linked t)
    (changes : Changes t after op) : Linked after := by
  have appended : ∀ {κ : Type} {rules : List (Rule κ)} {rule : Rule κ},
      t.transitions.contains rule.transitionId = true →
      (∀ rule ∈ rules, t.transitions.contains rule.transitionId = true) →
      ∀ other ∈ rules ++ [rule], t.transitions.contains other.transitionId = true := by
    intro κ rules rule owned all
    exact List.forall_mem_append.2 ⟨all, List.forall_mem_singleton.2 owned⟩
  have filtered : ∀ {κ : Type} {Holds : κ → Prop} {rows : List κ} {p : κ → Bool},
      (∀ row ∈ rows, Holds row) → ∀ row ∈ rows.filter p, Holds row :=
    fun all row member => all row (List.mem_filter.1 member).1
  cases changes with
  | createdWorkflow workflow fresh =>
    have stays : ∀ {id}, t.workflows.contains id = true →
        (t.workflows.put workflow).contains id = true :=
      fun stored => Table.contains_put.2 (.inr stored)
    exact { linked with
      status := fun row member => stays (linked.status row member)
      edge := fun row member => stays (linked.edge row member)
      workflow := fun row member => stays (linked.workflow row member) }
  | deletedWorkflow id unmapped stored => exact linked.deleteWorkflow unmapped
  | noWorkflow id absent => exact linked
  | putStatus status owned stays => exact linked.putStatus owned stays
  | deletedStatus id stored => exact linked.deleteStatus id
  | noStatus id absent => exact linked
  | renamedEdge draft existing screened found =>
    obtain ⟨stored, -⟩ := mem_edge? found
    refine linked.putEdge ?_ ?_ ?_ screened _
    · exact linked.edge existing stored
    · exact linked.source existing stored
    · exact linked.target existing stored
  | madeEdge draft owned source target screened fresh =>
    exact linked.putEdge owned source target screened _
  | deletedTransition id => exact linked.dropTransitions _
  | addedCondition rule owned =>
    exact { linked with condition := appended owned linked.condition }
  | deletedCondition id => exact { linked with condition := filtered linked.condition }
  | addedValidator rule owned =>
    exact { linked with validator := appended owned linked.validator }
  | deletedValidator id => exact { linked with validator := filtered linked.validator }
  | addedPostFunction rule owned =>
    exact { linked with postFunction := appended owned linked.postFunction }
  | deletedPostFunction id => exact { linked with postFunction := filtered linked.postFunction }
  | createdScreen screen fresh =>
    have stays : ∀ {id}, t.screens.contains id = true → (t.screens.put screen).contains id = true :=
      fun stored => Table.contains_put.2 (.inr stored)
    exact { linked with
      screen := fun row member _ asked => stays (linked.screen row member asked)
      screenField := fun row member => stays (linked.screenField row member) }
  | putScreenField field owned =>
    refine { linked with screenField := ?_ }
    intro row member
    rcases mem_putScreenFieldRow member with rfl | old
    · exact owned
    · exact linked.screenField row old
  | removedScreenField screen field =>
    exact { linked with screenField := filtered linked.screenField }
  | createdScheme scheme fresh =>
    refine { linked with scheme := ?_ }
    exact fun row member => Table.contains_put.2 (.inr (linked.scheme row member))
  | putMapping mapping scheme workflow =>
    refine { linked with scheme := ?_, workflow := ?_ }
    · intro row member
      rcases mem_putMappingRow member with rfl | old
      · exact scheme
      · exact linked.scheme row old
    · intro row member
      rcases mem_putMappingRow member with rfl | old
      · exact workflow
      · exact linked.workflow row old
  | removedMapping scheme issueType =>
    exact { linked with
      scheme := filtered linked.scheme, workflow := filtered linked.workflow }

/-! ## Keys -/

/-- What tells a transition from others. -/
def edgeKey (row : Transition) : WorkflowId × StatusId × StatusId :=
  (row.workflowId, row.fromStatus, row.toStatus)

/-- What tells a mapping from others. -/
def mappingKey (row : SchemeMapping) : WorkflowSchemeId × Option IssueTypeId :=
  (row.schemeId, row.issueTypeId)

/-- No two transitions of a workflow join the same statuses, and no two mappings of a scheme are for
the same issue type. -/
structure Distinct (t : Graph) : Prop where
  edge : ∀ a ∈ t.transitions.rows, ∀ b ∈ t.transitions.rows, edgeKey a = edgeKey b → a = b
  mapping : (t.mappings.map mappingKey).Nodup

private theorem distinct_empty : Distinct {} :=
  ⟨List.forall_mem_nil _, List.nodup_nil⟩

theorem edge?_eq_none {t : Graph} {workflow : WorkflowId} {source target : StatusId}
    (absent : t.edge? workflow source target = none) :
    ∀ row ∈ t.transitions.rows, edgeKey row ≠ (workflow, source, target) := by
  intro row stored same
  have differs := List.find?_eq_none.1 absent row stored
  rw [edgeKey, Prod.mk.injEq, Prod.mk.injEq] at same
  simp [same] at differs

/-- Where only one row can fit, it is the one that a search finds. -/
theorem find?_eq_some_iff_of_unique {α : Type} {rows : List α} {fits : α → Bool} {row : α}
    (unique : ∀ a ∈ rows, ∀ b ∈ rows, fits a = true → fits b = true → a = b) :
    rows.find? fits = some row ↔ row ∈ rows ∧ fits row = true := by
  constructor
  · intro found
    exact ⟨List.mem_of_find?_eq_some found, List.find?_some found⟩
  · rintro ⟨member, fit⟩
    cases found : rows.find? fits with
    | none => exact absurd fit (List.find?_eq_none.1 found row member)
    | some other =>
      have otherFits : fits other = true := List.find?_some found
      rw [unique other (List.mem_of_find?_eq_some found) row member otherFits fit]

/-- The transition between two statuses is the one that is found. -/
theorem Distinct.edge?_eq_some_iff {t : Graph} (distinct : Distinct t) {workflow : WorkflowId}
    {source target : StatusId} {row : Transition} :
    t.edge? workflow source target = some row ↔
      row ∈ t.transitions.rows ∧ row.workflowId = workflow ∧ row.fromStatus = source ∧
        row.toStatus = target := by
  rw [edge?, find?_eq_some_iff_of_unique]
  · simp only [Bool.and_eq_true, beq_iff_eq, and_assoc]
  · intro a first b second fits fitsToo
    simp only [Bool.and_eq_true, beq_iff_eq] at fits fitsToo
    refine distinct.edge a first b second ?_
    rw [edgeKey, edgeKey, fits.1.1, fits.1.2, fits.2, fitsToo.1.1, fitsToo.1.2, fitsToo.2]

private theorem keys_putMappingRow (mapping : SchemeMapping) (rows : List SchemeMapping) :
    (putMappingRow mapping rows).map mappingKey =
      if mappingKey mapping ∈ rows.map mappingKey then rows.map mappingKey
      else rows.map mappingKey ++ [mappingKey mapping] := by
  induction rows with
  | nil => rfl
  | cons first rest ih =>
    rw [putMappingRow]
    by_cases same : mappingKey first = mappingKey mapping
    · have fits : (first.schemeId == mapping.schemeId && first.issueTypeId == mapping.issueTypeId) =
          true := by
        simpa [mappingKey] using same
      rw [if_pos fits, List.map_cons, List.map_cons, same, if_pos List.mem_cons_self]
    · have fits : ¬ (first.schemeId == mapping.schemeId &&
          first.issueTypeId == mapping.issueTypeId) = true := by
        simpa [mappingKey] using same
      rw [if_neg fits, List.map_cons, List.map_cons, ih]
      have differs : ¬ mappingKey mapping = mappingKey first := fun equal => same equal.symm
      simp only [List.mem_cons, differs, false_or]
      split <;> rfl

/-- A transition may be put over the one that joins the same statuses. -/
private theorem Distinct.putEdge {t : Graph} (distinct : Distinct t) {edge : Transition}
    (apart : ∀ row ∈ t.transitions.rows, edgeKey row = edgeKey edge → row.id = edge.id)
    (count : Nat) :
    Distinct { t with transitions := t.transitions.put edge, transitionCount := count } where
  edge := Table.nodup_map_iff.1 (Table.nodup_map_put (Table.nodup_map_iff.2 distinct.edge) apart)
  mapping := distinct.mapping

theorem distinct_of_changes {op : Graph.Operation} {t after : Graph} (distinct : Distinct t)
    (changes : Changes t after op) : Distinct after := by
  have dropped : ∀ p, Distinct (t.dropTransitions p) := by
    intro p
    refine ⟨?_, distinct.mapping⟩
    intro a first b second same
    exact distinct.edge a (Table.mem_filter.1 first).1 b (Table.mem_filter.1 second).1 same
  cases changes with
  | deletedWorkflow id unmapped stored => exact ⟨(dropped _).edge, distinct.mapping⟩
  | deletedStatus id stored => exact ⟨(dropped _).edge, distinct.mapping⟩
  | deletedTransition id => exact dropped _
  | renamedEdge draft existing screened found =>
    obtain ⟨stored, -⟩ := mem_edge? found
    refine distinct.putEdge ?_ _
    intro row member same
    rw [distinct.edge row member existing stored same]
  | madeEdge draft owned source target screened fresh =>
    refine distinct.putEdge ?_ _
    intro row member same
    exact absurd same (edge?_eq_none fresh row member)
  | putMapping mapping scheme workflow =>
    refine ⟨distinct.edge, ?_⟩
    show ((putMappingRow mapping t.mappings).map mappingKey).Nodup
    rw [keys_putMappingRow]
    split
    · exact distinct.mapping
    · next fresh =>
      rw [← List.concat_eq_append]
      exact List.Nodup.concat fresh distinct.mapping
  | removedMapping scheme issueType =>
    exact ⟨distinct.edge, (List.filter_sublist.map _).nodup distinct.mapping⟩
  | _ => exact ⟨distinct.edge, distinct.mapping⟩

/-- A mapping is the only one of its scheme for its issue type. -/
theorem Distinct.mapping_eq {t : Graph} (distinct : Distinct t) {a b : SchemeMapping}
    (first : a ∈ t.mappings) (second : b ∈ t.mappings) (same : mappingKey a = mappingKey b) :
    a = b :=
  List.inj_on_of_nodup_map distinct.mapping first second same

end Graph

namespace Store

/-- The workflow tables change by one operation of theirs, or not at all. -/
theorem step_graph_cases (store : Store) (step : Step) :
    (store.step step).tables.graph = store.tables.graph ∨
      ∃ op, step = .operation (.onGraph op) ∧
        Graph.Changes store.tables.graph (store.step step).tables.graph op := by
  rcases step_cases store step with same | ⟨op, answer, rfl, done⟩
  · exact .inl (congrArg Tables.graph same)
  · rcases Tables.Operation.graph_cases done with same | ⟨inner, rfl, applied⟩
    · exact .inl same
    · exact .inr ⟨inner, rfl, Graph.changes_of_apply applied⟩

/-- The store carries out an operation of the workflow tables. -/
def Accepts (store : Store) (op : Graph.Operation) : Prop :=
  ∃ answer, (store.update (Tables.onGraph op.apply)).1 = .ok answer

/-- A step carries out an operation of the workflow tables, or leaves them and carries out none. -/
theorem step_accepts_cases (store : Store) (step : Step) :
    ((store.step step).tables.graph = store.tables.graph ∧
        ∀ op, step = .operation (.onGraph op) → ¬ store.Accepts op) ∨
      ∃ op, step = .operation (.onGraph op) ∧ store.Accepts op ∧
        Graph.Changes store.tables.graph (store.step step).tables.graph op := by
  by_cases accepted : ∃ op, step = .operation (.onGraph op) ∧ store.Accepts op
  · obtain ⟨op, rfl, answer, said⟩ := accepted
    refine .inr ⟨op, rfl, ⟨answer, said⟩, ?_⟩
    rcases store.update_cases op.failsClean.onGraph with
      ⟨e, failed⟩ | ⟨other, tables, -, done, updated⟩
    · rw [failed] at said
      cases said
    · obtain ⟨graph, applied, rfl⟩ := within_eq_ok_iff.1 done
      have next : (store.step (.operation (.onGraph op))).tables.graph = graph :=
        congrArg (fun result => result.2.tables.graph) updated
      rw [next]
      exact Graph.changes_of_apply applied
  · refine .inl ⟨?_, fun op named accepts => accepted ⟨op, named, accepts⟩⟩
    rcases step_graph_cases store step with same | ⟨op, rfl, -⟩
    · exact same
    · rcases store.update_cases op.failsClean.onGraph with
        ⟨e, failed⟩ | ⟨answer, tables, -, -, updated⟩
      · exact congrArg (fun result => result.2.tables.graph) failed
      · exact absurd ⟨op, rfl, answer, congrArg Prod.fst updated⟩ accepted

/-- What every change of the workflow tables keeps, they have in every reachable store. -/
theorem Reachable.graph_of_changes {Holds : Graph → Prop} (start : Holds {})
    (kept : ∀ {op : Graph.Operation} {t after : Graph}, Holds t → Graph.Changes t after op →
      Holds after) {store : Store} (reached : store.Reachable) : Holds store.tables.graph := by
  have stepped : ∀ (store : Store) (step : Step), Holds store.tables.graph →
      Holds (store.step step).tables.graph := by
    intro store step holds
    rcases step_graph_cases store step with same | ⟨op, -, changes⟩
    · rwa [same]
    · exact kept holds changes
  exact Leads.preserves stepped reached start

theorem Reachable.linked {store : Store} (reached : store.Reachable) :
    store.tables.graph.Linked :=
  graph_of_changes Graph.linked_empty Graph.linked_of_changes reached

theorem Reachable.distinct {store : Store} (reached : store.Reachable) :
    store.tables.graph.Distinct :=
  graph_of_changes Graph.distinct_empty Graph.distinct_of_changes reached

end Store

end IssueFlow
