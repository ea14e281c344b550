import IssueFlow.Proofs.GraphIntegrity

/-!
# Deletion

A workflow owns its statuses and transitions, a status the transitions that start or end there, and
a transition its rules. A deletion takes just what is owned (`Deletion.without`): every other row
stays in its place, and no row that stays names one that is gone. In a linked graph nothing is owned
by a row that is not there, so that a deletion which finds no row changes nothing.
-/

namespace IssueFlow

namespace Table

variable {α κ : Type} [Keyed α κ]

private theorem filter_congr {table : Table α} {p q : α → Bool}
    (same : ∀ row ∈ table.rows, p row = q row) :
    table.filter p = table.filter q := by
  simp only [filter, mk.injEq]
  exact List.filter_congr same

theorem filter_eq_self {table : Table α} {p : α → Bool} (all : ∀ row ∈ table.rows, p row = true) :
    table.filter p = table := by
  obtain ⟨rows, distinct⟩ := table
  simp only [filter, mk.injEq]
  exact List.filter_eq_self.2 all

end Table

/-- A row to be deleted, by its key. -/
inductive Deletion where
  | workflow (id : WorkflowId)
  | status (id : StatusId)
  | transition (id : TransitionId)

namespace Deletion

def apply : Deletion → Change Graph Bool
  | workflow id => Graph.deleteWorkflow id
  | status id => Graph.deleteStatus id
  | transition id => Graph.deleteTransition id

def isStored (t : Graph) : Deletion → Bool
  | workflow id => t.workflows.contains id
  | status id => t.statuses.contains id
  | transition id => t.transitions.contains id

/-- A scheme still maps to the workflow. -/
def IsMapped (t : Graph) : Deletion → Prop
  | workflow id => ∃ mapping ∈ t.mappings, mapping.workflowId = id
  | status _ | transition _ => False

def takesWorkflow : Deletion → Workflow → Bool
  | workflow id, row => row.id == id
  | status _, _ | transition _, _ => false

def takesStatus : Deletion → Status → Bool
  | workflow id, row => row.workflowId == id
  | status id, row => row.id == id
  | transition _, _ => false

def takesEdge : Deletion → Transition → Bool
  | workflow id, row => row.workflowId == id
  | status id, row => row.fromStatus == id || row.toStatus == id
  | transition id, row => row.id == id

/-- A rule goes with its transition. -/
def takesRule {κ : Type} (d : Deletion) (t : Graph) (rule : Rule κ) : Bool :=
  t.transitions.rows.any fun edge => d.takesEdge edge && edge.id == rule.transitionId

/-- What is left of the tables. All that a deletion does not take stays as it is. -/
def without (d : Deletion) (t : Graph) : Graph :=
  { t with
    workflows := t.workflows.filter fun row => !d.takesWorkflow row
    statuses := t.statuses.filter fun row => !d.takesStatus row
    transitions := t.transitions.filter fun row => !d.takesEdge row
    conditions := t.conditions.filter fun rule => !d.takesRule t rule
    validators := t.validators.filter fun rule => !d.takesRule t rule
    postFunctions := t.postFunctions.filter fun rule => !d.takesRule t rule }

variable {d : Deletion} {t : Graph}

theorem transitionIs_eq_takesRule {κ : Type} (rule : Rule κ) :
    t.transitionIs d.takesEdge rule.transitionId = d.takesRule t rule := by
  rw [Bool.eq_iff_iff, Graph.transitionIs, takesRule, Option.any_eq_true, List.any_eq_true]
  simp only [Table.get?_eq_some_iff, Bool.and_eq_true, beq_iff_eq, and_assoc]
  refine exists_congr fun edge => and_congr_right fun _ => ?_
  exact and_comm

/-- Transitions that are dropped for what they are take their rules along. -/
private theorem dropTransitions_eq :
    t.dropTransitions (t.transitionIs d.takesEdge) =
      { t with
        transitions := t.transitions.filter fun row => !d.takesEdge row
        conditions := t.conditions.filter fun rule => !d.takesRule t rule
        validators := t.validators.filter fun rule => !d.takesRule t rule
        postFunctions := t.postFunctions.filter fun rule => !d.takesRule t rule } := by
  have edges : t.transitions.filter (fun row => !t.transitionIs d.takesEdge row.id) =
      t.transitions.filter fun row => !d.takesEdge row :=
    Table.filter_congr fun row stored => by rw [Graph.transitionIs_of_mem stored]
  simp only [Graph.dropTransitions, edges, transitionIs_eq_takesRule]

/-- Where no row goes, nothing changes. -/
private theorem without_eq_self (workflows : ∀ row ∈ t.workflows.rows, d.takesWorkflow row = false)
    (statuses : ∀ row ∈ t.statuses.rows, d.takesStatus row = false)
    (edges : ∀ row ∈ t.transitions.rows, d.takesEdge row = false) : d.without t = t := by
  have rules : ∀ {κ : Type} (rule : Rule κ), d.takesRule t rule = false := by
    intro κ rule
    refine List.any_eq_false.2 fun edge stored => ?_
    simp [edges edge stored]
  simp only [without, rules, Bool.not_false, List.filter_true]
  rw [Table.filter_eq_self fun row stored => by rw [workflows row stored, Bool.not_false],
    Table.filter_eq_self fun row stored => by rw [statuses row stored, Bool.not_false],
    Table.filter_eq_self fun row stored => by rw [edges row stored, Bool.not_false]]

/-- In a linked graph nothing belongs to a row that is not there. -/
theorem without_of_absent (linked : t.Linked) (absent : d.isStored t = false) :
    d.without t = t := by
  cases d with
  | workflow id =>
    have apart : ∀ {other : WorkflowId}, t.workflows.contains other = true →
        (other == id) = false := by
      intro other stored
      refine beq_eq_false_iff_ne.2 fun same => ?_
      cases absent.symm.trans (same ▸ stored)
    refine without_eq_self ?_ ?_ ?_
    · exact fun row stored => apart (Table.contains_iff.2 ⟨row, stored, rfl⟩)
    · exact fun row stored => apart (linked.status row stored)
    · exact fun row stored => apart (linked.edge row stored)
  | status id =>
    have apart : ∀ row ∈ t.statuses.rows, (row.id == id) = false := by
      intro row stored
      refine beq_eq_false_iff_ne.2 fun same => ?_
      cases absent.symm.trans (Table.contains_iff.2 ⟨row, stored, same⟩)
    have apartOf : ∀ {workflow other}, t.hasStatus workflow other = true →
        (other == id) = false := by
      intro workflow other there
      obtain ⟨row, stored, rfl, -⟩ := Graph.hasStatus_iff.1 there
      exact apart row stored
    refine without_eq_self (fun _ _ => rfl) apart fun row stored => ?_
    simp only [takesEdge, apartOf (linked.source row stored), apartOf (linked.target row stored),
      Bool.or_false]
  | transition id =>
    refine without_eq_self (fun _ _ => rfl) (fun _ _ => rfl) fun row stored => ?_
    refine beq_eq_false_iff_ne.2 fun same => ?_
    cases absent.symm.trans (Table.contains_iff.2 ⟨row, stored, same⟩)

/-- A workflow that no scheme maps to goes with all that it owns. -/
private theorem deleteWorkflow_of_unmapped {id : WorkflowId} (linked : t.Linked)
    (unmapped : ¬ (workflow id).IsMapped t) : (Graph.deleteWorkflow id).run t =
      (.ok (t.workflows.contains id), (workflow id).without t) := by
  have free : (!t.mappings.any (·.workflowId == id)) = true := by
    simpa [IsMapped] using unmapped
  rw [Graph.deleteWorkflow, run_get_bind, require_bind_run, if_pos free]
  cases stored : t.workflows.contains id with
  | true =>
    show (Except.ok true, { t.dropTransitions (t.transitionIs (workflow id).takesEdge) with
      workflows := t.workflows.erase id
      statuses := t.statuses.filter (·.workflowId != id) }) = _
    rw [dropTransitions_eq]
    rfl
  | false =>
    have absent : (workflow id).isStored t = false := stored
    rw [without_of_absent linked absent]
    rfl

theorem deleteWorkflow_of_mapped {id : WorkflowId} (mapped : (workflow id).IsMapped t) :
    (Graph.deleteWorkflow id).run t =
      (.error (.conflict s!"workflow {id.text} is still mapped by a workflow scheme"), t) := by
  have held : (!t.mappings.any (·.workflowId == id)) = false := by
    simpa [IsMapped] using mapped
  rw [Graph.deleteWorkflow, run_get_bind, held, require_bind_run, if_neg Bool.false_ne_true]

/-- A status goes with the transitions that start or end there. -/
private theorem deleteStatus_run {id : StatusId} (linked : t.Linked) :
    (Graph.deleteStatus id).run t = (.ok (t.statuses.contains id), (status id).without t) := by
  rw [Graph.deleteStatus, run_get_bind]
  cases stored : t.statuses.contains id with
  | true =>
    have workflows : t.workflows.filter (fun row => !(status id).takesWorkflow row) =
        t.workflows :=
      Table.filter_eq_self fun _ _ => rfl
    show (Except.ok true, { t.dropTransitions (t.transitionIs (status id).takesEdge) with
      statuses := t.statuses.erase id }) = _
    rw [dropTransitions_eq, without, workflows]
    rfl
  | false =>
    have absent : (status id).isStored t = false := stored
    rw [without_of_absent linked absent]
    rfl

/-- A transition goes with its rules. -/
private theorem deleteTransition_run {id : TransitionId} (linked : t.Linked) :
    (Graph.deleteTransition id).run t =
      (.ok (t.transitions.contains id), (transition id).without t) := by
  have owned : ∀ {κ : Type} (rule : Rule κ), t.transitions.contains rule.transitionId = true →
      (transition id).takesRule t rule = (rule.transitionId == id) := by
    intro κ rule stored
    obtain ⟨row, member, same⟩ := Table.contains_iff.1 stored
    have same : row.id = rule.transitionId := same
    rw [← transitionIs_eq_takesRule, ← same, Graph.transitionIs_of_mem member]
    rfl
  have workflows : t.workflows.filter (fun row => !(transition id).takesWorkflow row) =
      t.workflows :=
    Table.filter_eq_self fun _ _ => rfl
  have statuses : t.statuses.filter (fun row => !(transition id).takesStatus row) = t.statuses :=
    Table.filter_eq_self fun _ _ => rfl
  have conditions : t.conditions.filter (fun rule => !(transition id).takesRule t rule) =
      t.conditions.filter fun rule => !(rule.transitionId == id) :=
    List.filter_congr fun rule member => by rw [owned rule (linked.condition rule member)]
  have validators : t.validators.filter (fun rule => !(transition id).takesRule t rule) =
      t.validators.filter fun rule => !(rule.transitionId == id) :=
    List.filter_congr fun rule member => by rw [owned rule (linked.validator rule member)]
  have postFunctions : t.postFunctions.filter (fun rule => !(transition id).takesRule t rule) =
      t.postFunctions.filter fun rule => !(rule.transitionId == id) :=
    List.filter_congr fun rule member => by rw [owned rule (linked.postFunction rule member)]
  rw [without, workflows, statuses, conditions, validators, postFunctions]
  rfl

/-- A deletion is refused for a workflow that is mapped. Any other leaves what it does not take, and
says whether the row was there. -/
theorem apply_cases (linked : t.Linked) (d : Deletion) :
    (d.IsMapped t ∧ ∃ what, d.apply.run t = (.error (.conflict what), t)) ∨
      ¬ d.IsMapped t ∧ d.apply.run t = (.ok (d.isStored t), d.without t) := by
  cases d with
  | workflow id =>
    by_cases mapped : (workflow id).IsMapped t
    · exact .inl ⟨mapped, _, deleteWorkflow_of_mapped mapped⟩
    · exact .inr ⟨mapped, deleteWorkflow_of_unmapped linked mapped⟩
  | status id => exact .inr ⟨not_false, deleteStatus_run linked⟩
  | transition id => exact .inr ⟨not_false, deleteTransition_run linked⟩

/-- What is left of a linked graph is linked. -/
theorem linked_without (linked : t.Linked) (unmapped : ¬ d.IsMapped t) : (d.without t).Linked := by
  rcases apply_cases linked d with ⟨mapped, -⟩ | ⟨-, done⟩
  · exact absurd mapped unmapped
  · cases d with
    | workflow id => exact Graph.linked_of_changes linked (Graph.changes_of_deleteWorkflow done)
    | status id => exact Graph.linked_of_changes linked (Graph.changes_of_deleteStatus done)
    | transition id =>
      have left : t.dropTransitions (· == id) = (transition id).without t :=
        (Prod.mk.inj done).2
      exact left ▸ linked.dropTransitions _

/-- A deletion in a store. -/
def carryOut (d : Deletion) : Change Tables Bool :=
  Tables.onGraph d.apply

/-- A deletion that is carried out leaves what it does not take. -/
private theorem update_cases {store : Store} (linked : store.tables.graph.Linked) (d : Deletion) :
    (store.unavailable = true ∧ store.update d.carryOut = (.error .outage, store)) ∨
    (store.unavailable = false ∧ d.IsMapped store.tables.graph ∧
      ∃ what, store.update d.carryOut = (.error (.conflict what), store)) ∨
    store.unavailable = false ∧ ¬ d.IsMapped store.tables.graph ∧
      store.update d.carryOut = (.ok (d.isStored store.tables.graph),
        { store with tables.graph := d.without store.tables.graph }) := by
  rcases Bool.eq_false_or_eq_true store.unavailable with unavailable | available
  · exact .inl ⟨unavailable, by rw [Store.update, if_pos unavailable]⟩
  · rcases apply_cases linked d with ⟨mapped, what, refused⟩ | ⟨unmapped, done⟩
    · exact .inr (.inl ⟨available, mapped, what, Store.update_onGraph available refused⟩)
    · exact .inr (.inr ⟨available, unmapped, Store.update_onGraph available done⟩)

/-- The operation that asks for a deletion. -/
def operation : Deletion → Graph.Operation
  | workflow id => .deleteWorkflow id
  | status id => .deleteStatus id
  | transition id => .deleteTransition id

def step (d : Deletion) : Store.Step :=
  .operation (.onGraph d.operation)

theorem step_injective {d e : Deletion} (same : d.step = e.step) : d = e := by
  cases d <;> cases e <;> cases same <;> rfl

theorem step_eq (store : Store) (d : Deletion) :
    store.step d.step = (store.update d.carryOut).2 := by
  have told : d.operation.apply = answering .flag d.apply := by
    cases d <;> rfl
  show (store.update (Tables.onGraph d.operation.apply)).2 = _
  rw [told]
  exact Store.update_answering store _ _

/-- A deletion that answers `true` leaves what it does not take, and any other leaves everything. -/
theorem graph_step_cases {store : Store} (linked : store.tables.graph.Linked) (d : Deletion) :
    ((store.update d.carryOut).1 = .ok true ∧
        (store.step d.step).tables.graph = d.without store.tables.graph) ∨
      (store.update d.carryOut).1 ≠ .ok true ∧
        (store.step d.step).tables.graph = store.tables.graph := by
  rw [d.step_eq]
  rcases update_cases linked d with ⟨-, failed⟩ | ⟨-, -, what, failed⟩ | ⟨-, -, done⟩
  · rw [failed]
    exact .inr ⟨by rintro ⟨⟩, rfl⟩
  · rw [failed]
    exact .inr ⟨by rintro ⟨⟩, rfl⟩
  · rw [done]
    cases stored : d.isStored store.tables.graph with
    | true => exact .inl ⟨rfl, rfl⟩
    | false => exact .inr ⟨by rintro ⟨⟩, without_of_absent linked stored⟩

end Deletion

namespace Store

/-- A step deletes a row with what it owns, or it carries out another operation of the workflow
tables, or it leaves these tables and does neither. -/
theorem step_deletion_cases {store : Store} (linked : store.tables.graph.Linked) (step : Step) :
    (∃ d : Deletion, step = d.step ∧ (store.update d.carryOut).1 = .ok true ∧
        (store.step step).tables.graph = d.without store.tables.graph) ∨
      (∃ op, (∀ d : Deletion, op ≠ d.operation) ∧ step = .operation (.onGraph op) ∧
        store.Accepts op ∧
          Graph.Changes store.tables.graph (store.step step).tables.graph op) ∨
      (store.step step).tables.graph = store.tables.graph ∧
        (∀ d : Deletion, step = d.step → (store.update d.carryOut).1 ≠ .ok true) ∧
        ∀ op, (∀ d : Deletion, op ≠ d.operation) → step = .operation (.onGraph op) →
          ¬ store.Accepts op := by
  by_cases deletes : ∃ d : Deletion, step = d.step
  · obtain ⟨d, rfl⟩ := deletes
    rcases d.graph_step_cases linked with ⟨found, left⟩ | ⟨unsaid, same⟩
    · exact .inl ⟨d, rfl, found, left⟩
    · refine .inr (.inr ⟨same, ?_, ?_⟩)
      · intro e equal
        rwa [← Deletion.step_injective equal]
      · intro op kept named
        cases named
        exact absurd rfl (kept d)
  · rcases step_accepts_cases store step with ⟨same, idle⟩ | ⟨op, rfl, accepts, changes⟩
    · refine .inr (.inr ⟨same, fun d named => absurd ⟨d, named⟩ deletes, ?_⟩)
      exact fun op _ named => idle op named
    · exact .inr (.inl ⟨op, fun d same => deletes ⟨d, by rw [same]; rfl⟩, rfl, accepts, changes⟩)

end Store

/-- In a reachable store a deletion that answers `true` takes the row that is asked for and what it
owns, and leaves every other row of every table in its place; no row that is left names one that is
gone. It answers `true` when the row is there and no scheme maps to it. While a scheme maps to a
workflow, deleting the workflow is a conflict. Unless it answers `true`, a deletion changes
nothing. -/
theorem deletion_takes_what_is_owned {store : Store} (reached : store.Reachable) (d : Deletion) :
    (∀ next, store.update d.carryOut = (.ok true, next) →
      next = { store with tables.graph := d.without store.tables.graph } ∧
        next.tables.graph.Linked) ∧
    ((store.update d.carryOut).1 = .ok true ↔ store.unavailable = false ∧
      ¬ d.IsMapped store.tables.graph ∧ d.isStored store.tables.graph = true) ∧
    ((∃ what, (store.update d.carryOut).1 = .error (.conflict what)) ↔
      store.unavailable = false ∧ d.IsMapped store.tables.graph) ∧
    ∀ answer next, store.update d.carryOut = (answer, next) → answer ≠ .ok true →
      next = store := by
  have linked := reached.linked
  rcases Deletion.update_cases linked d with
    ⟨switch, done⟩ | ⟨switch, mapped, what, done⟩ | ⟨switch, unmapped, done⟩ <;> rw [done]
  · refine ⟨?_, ?_, ?_, ?_⟩
    · rintro next ⟨⟩
    · refine iff_of_false (by rintro ⟨⟩) fun ⟨off, _⟩ => ?_
      cases switch.symm.trans off
    · refine iff_of_false (by rintro ⟨what, ⟨⟩⟩) fun ⟨off, _⟩ => ?_
      cases switch.symm.trans off
    · rintro answer next ⟨⟩ -
      rfl
  · refine ⟨?_, ?_, ?_, ?_⟩
    · rintro next ⟨⟩
    · exact iff_of_false (by rintro ⟨⟩) fun ⟨_, unmapped, _⟩ => unmapped mapped
    · exact iff_of_true ⟨what, rfl⟩ ⟨switch, mapped⟩
    · rintro answer next ⟨⟩ -
      rfl
  · refine ⟨?_, ?_, ?_, ?_⟩
    · intro next same
      cases (Prod.mk.inj same).2
      exact ⟨rfl, Deletion.linked_without linked unmapped⟩
    · rw [Except.ok.injEq]
      exact ⟨fun stored => ⟨switch, unmapped, stored⟩, fun ⟨_, _, stored⟩ => stored⟩
    · exact iff_of_false (by rintro ⟨what, ⟨⟩⟩) fun ⟨_, mapped⟩ => unmapped mapped
    · intro answer next same unsaid
      obtain ⟨rfl, rfl⟩ := Prod.mk.inj same
      have absent : d.isStored store.tables.graph = false := by
        simpa using unsaid
      rw [Deletion.without_of_absent linked absent]

/-- The last status of the sample goes with the edge that ends there and its rules; the workflow
stays, for a scheme maps to it. -/
theorem sample_deletion :
    Sample.store.Reachable ∧
      (∃ next, Sample.store.update (Deletion.status ⟨"done"⟩).carryOut = (.ok true, next) ∧
        next.tables.graph.statuses.rows.map (·.id) = [⟨"open"⟩] ∧
        next.tables.graph.transitions.rows = [] ∧ next.tables.graph.conditions = [] ∧
        next.tables.graph.validators = [] ∧ next.tables.graph.postFunctions = [] ∧
        next.tables.graph.mappings = Sample.store.tables.graph.mappings ∧
        next.tables.issueLog = Sample.store.tables.issueLog) ∧
      (∃ what, (Sample.store.update (Deletion.workflow ⟨"W"⟩).carryOut).1 =
        .error (.conflict what)) := by
  have reached : Sample.store.Reachable := ⟨Sample.steps, rfl⟩
  have available : Sample.store.unavailable = false := by decide +kernel
  obtain ⟨leaves, answers, -, -⟩ := deletion_takes_what_is_owned reached (.status ⟨"done"⟩)
  obtain ⟨-, -, conflicts, -⟩ := deletion_takes_what_is_owned reached (.workflow ⟨"W"⟩)
  refine ⟨reached, ?_, ?_⟩
  · have answered := answers.2 ⟨available, not_false, by decide +kernel⟩
    refine ⟨_, Prod.ext answered rfl, ?_⟩
    rw [(leaves _ (Prod.ext answered rfl)).1]
    decide +kernel
  · refine conflicts.2 ⟨available, ⟨⟨"WS"⟩, none, ⟨"W"⟩⟩, ?_, rfl⟩
    decide +kernel

end IssueFlow
