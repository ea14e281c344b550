import IssueFlow.Proofs.GateSoundness
import IssueFlow.Proofs.RuleIdentity
import IssueFlow.Proofs.TruthfulAnswers

/-!
# The identity of edges

An edge is found by its workflow and the statuses that it joins, while its rules hang on the
identifier that it was given when it was made. Two facts hold the two together. Where an edge is
under a key, putting a draft for the key gives the edge a name and a screen and keeps the rest of
the row (`Graph.putTransition_of_stored`). Where no edge is, the row that is made gets a number that
was never given before (`Graph.Given`), and so one that no rule names. A run is followed at one
edge, one step at a time (`Store.mem_step_of_spared`).
-/

namespace IssueFlow

/-- What tells the edge that a draft is for from others. -/
def TransitionDraft.edgeKey (draft : TransitionDraft) : WorkflowId × StatusId × StatusId :=
  (draft.workflowId, draft.fromStatus, draft.toStatus)

/-- The edge with the name and the screen of a draft. -/
def Transition.redrawn (edge : Transition) (draft : TransitionDraft) : Transition :=
  { edge with name := draft.name, screenId := draft.screenId }

/-- The edge after some drafts, one after the other. -/
def Transition.redrawnBy (edge : Transition) (drafts : List TransitionDraft) : Transition :=
  drafts.foldl Transition.redrawn edge

/-- Drafts change nothing of an edge but its name and its screen. -/
private theorem Transition.redrawnBy_eq (edge : Transition) (drafts : List TransitionDraft) :
    ∃ name screenId, edge.redrawnBy drafts = { edge with name, screenId } := by
  induction drafts using List.reverseRecOn with
  | nil => exact ⟨edge.name, edge.screenId, rfl⟩
  | append_singleton drafts draft ih =>
    obtain ⟨name, screenId, same⟩ := ih
    have last : edge.redrawnBy (drafts ++ [draft]) = (edge.redrawnBy drafts).redrawn draft :=
      List.foldl_append
    exact ⟨draft.name, draft.screenId, by rw [last, same]; rfl⟩

section Redrawn

variable (edge : Transition) (drafts : List TransitionDraft)

@[simp] theorem Transition.id_redrawnBy : (edge.redrawnBy drafts).id = edge.id := by
  obtain ⟨name, screenId, same⟩ := edge.redrawnBy_eq drafts
  rw [same]

private theorem Transition.redrawn_redrawnBy (draft : TransitionDraft) :
    (edge.redrawnBy drafts).redrawn draft = edge.redrawn draft := by
  obtain ⟨name, screenId, same⟩ := edge.redrawnBy_eq drafts
  rw [same]
  rfl

@[simp] theorem Graph.edgeKey_redrawnBy : edgeKey (edge.redrawnBy drafts) = edgeKey edge := by
  obtain ⟨name, screenId, same⟩ := edge.redrawnBy_eq drafts
  rw [same]
  rfl

@[simp] theorem Deletion.takesEdge_redrawnBy (d : Deletion) :
    d.takesEdge (edge.redrawnBy drafts) = d.takesEdge edge := by
  obtain ⟨name, screenId, same⟩ := edge.redrawnBy_eq drafts
  rw [same]
  cases d <;> rfl

end Redrawn

namespace Graph

/-- The edge under a key. -/
def edgeAt? (t : Graph) (key : WorkflowId × StatusId × StatusId) : Option Transition :=
  t.edge? key.1 key.2.1 key.2.2

variable {t after : Graph} {key : WorkflowId × StatusId × StatusId} {draft : TransitionDraft}
  {edge row : Transition}

private theorem Distinct.edgeAt?_eq_some_iff (distinct : Distinct t) :
    t.edgeAt? key = some row ↔ row ∈ t.transitions.rows ∧ edgeKey row = key := by
  obtain ⟨workflow, source, target⟩ := key
  rw [edgeAt?, distinct.edge?_eq_some_iff, edgeKey, Prod.mk.injEq, Prod.mk.injEq]

private theorem Distinct.edgeAt?_eq_none_iff (distinct : Distinct t) :
    t.edgeAt? key = none ↔ ∀ row ∈ t.transitions.rows, edgeKey row ≠ key := by
  simp only [Option.eq_none_iff_forall_not_mem, Option.mem_def, distinct.edgeAt?_eq_some_iff,
    not_and, ne_eq]

/-- A draft is put once all that it names has been found. -/
private theorem putTransition_of_checked (owned : t.workflows.contains draft.workflowId = true)
    (source : t.hasStatus draft.workflowId draft.fromStatus = true)
    (target : t.hasStatus draft.workflowId draft.toStatus = true)
    (screened : ∀ {screen}, draft.screenId = some screen → t.screens.contains screen = true) :
    (Graph.putTransition draft).run t = (.ok (placeEdge draft t).1, (placeEdge draft t).2) := by
  have passed : ∀ {screen}, draft.screenId = some screen → t.requireScreen screen = .ok () :=
    fun asked => require_eq_ok_iff.2 (screened asked)
  rw [putTransition, run_get_bind, requireWorkflow, require_bind_run, if_pos owned, requireStatus,
    require_bind_run, if_pos source, requireStatus, require_bind_run, if_pos target,
    checkSome_bind_run passed, placeEdge]
  cases t.edge? draft.workflowId draft.fromStatus draft.toStatus <;> rfl

private theorem placeEdge_of_found (found : t.edgeAt? draft.edgeKey = some edge) :
    placeEdge draft t =
      (edge.redrawn draft, { t with transitions := t.transitions.put (edge.redrawn draft) }) := by
  have found : t.edge? draft.workflowId draft.fromStatus draft.toStatus = some edge := found
  rw [placeEdge, found]
  rfl

/-- The edge under the key of a draft keeps its identifier when the draft is put. -/
theorem putTransition_of_stored (found : t.edgeAt? draft.edgeKey = some edge)
    (done : (Graph.putTransition draft).run t = (.ok row, after)) :
    row = edge.redrawn draft ∧ after = { t with transitions := t.transitions.put row } := by
  obtain ⟨-, -, -, -, placed⟩ := putTransition_eq_ok done
  rw [placeEdge_of_found found] at placed
  cases placed
  exact ⟨rfl, rfl⟩

/-- What was put is put again, and nothing changes. -/
private theorem putTransition_again (distinct : Distinct t)
    (done : (Graph.putTransition draft).run t = (.ok row, after)) :
    (Graph.putTransition draft).run after = (.ok row, after) := by
  have distinctAfter : Distinct after :=
    distinct_of_changes distinct (changes_of_putTransition done)
  obtain ⟨owned, source, target, screened, placed⟩ := putTransition_eq_ok done
  -- Only the table of edges has changed, and it has the row, whether that was there before or made.
  obtain ⟨transitions, count, stored, same, redrawn, rfl⟩ :
      ∃ transitions : Table Transition, ∃ count, row ∈ transitions.rows ∧
        edgeKey row = draft.edgeKey ∧ row.redrawn draft = row ∧
          after = { t with transitions, transitionCount := count } := by
    rw [placeEdge] at placed
    split at placed
    · next existing found =>
      cases placed
      obtain ⟨-, joins⟩ := mem_edge? found
      refine ⟨_, t.transitionCount, Table.mem_put.2 (.inl rfl), ?_, rfl, rfl⟩
      rw [edgeKey, TransitionDraft.edgeKey, joins.1, joins.2.1, joins.2.2]
    · cases placed
      exact ⟨_, _, Table.mem_put.2 (.inl rfl), rfl, rfl, rfl⟩
  have found := distinctAfter.edgeAt?_eq_some_iff.2 ⟨stored, same⟩
  have again := putTransition_of_checked (t := { t with transitions, transitionCount := count })
    owned source target screened
  rw [again, placeEdge_of_found found, redrawn, Table.put_of_mem stored]

/-- A transition has been made under the identifier. -/
def Given (t : Graph) (id : TransitionId) : Prop :=
  ∃ number ≤ t.transitionCount, id.text = "T" ++ toString number

theorem Given.of_changes {op : Graph.Operation} {id : TransitionId} (given : t.Given id)
    (changes : Changes t after op) : after.Given id := by
  obtain ⟨number, bound, same⟩ := given
  cases changes with
  | madeEdge => exact ⟨number, Nat.le_succ_of_le bound, same⟩
  | _ => exact ⟨number, bound, same⟩

/-- The next identifier was never given. -/
private theorem not_given_next : ¬ t.Given ⟨s!"T{t.transitionCount + 1}"⟩ := by
  rintro ⟨number, bound, same⟩
  have equal : t.transitionCount + 1 = number := number_eq_of_key_eq same
  omega

/-- Every transition has an identifier that was given. -/
def Numbers (t : Graph) : Prop :=
  ∀ row ∈ t.transitions.rows, t.Given row.id

theorem Numbers.of_changes {op : Graph.Operation} (numbers : t.Numbers)
    (changes : Changes t after op) : after.Numbers := by
  have kept : ∀ row ∈ t.transitions.rows, after.Given row.id :=
    fun row stored => (numbers row stored).of_changes changes
  intro row stored
  cases changes with
  | renamedEdge draft existing screened found =>
    rcases Table.mem_put.1 stored with rfl | ⟨old, -⟩
    · exact kept existing (mem_edge? found).1
    · exact kept row old
  | madeEdge =>
    rcases Table.mem_put.1 stored with rfl | ⟨old, -⟩
    · exact ⟨t.transitionCount + 1, Nat.le_refl _, rfl⟩
    · exact kept row old
  | deletedWorkflow | deletedStatus | deletedTransition =>
    exact kept row (Table.mem_filter.1 stored).1
  | _ => exact kept row stored

/-- Apart from deletions an edge is changed only by a draft for its key. -/
theorem mem_of_changes {op : Graph.Operation} (numbers : t.Numbers)
    (stored : edge ∈ t.transitions.rows) (changes : Changes t after op)
    (kept : ∀ d : Deletion, op ≠ d.operation)
    (others : ∀ draft, op = .putTransition draft → draft.edgeKey ≠ edgeKey edge) :
    edge ∈ after.transitions.rows := by
  cases changes with
  | deletedWorkflow id | noWorkflow id => exact absurd rfl (kept (.workflow id))
  | deletedStatus id | noStatus id => exact absurd rfl (kept (.status id))
  | deletedTransition id => exact absurd rfl (kept (.transition id))
  | renamedEdge draft existing screened found =>
    obtain ⟨there, joins⟩ := mem_edge? found
    refine Table.mem_put.2 (.inr ⟨stored, fun same => ?_⟩)
    have equal : edge = existing :=
      List.inj_on_of_nodup_map t.transitions.distinct stored there same
    refine others draft rfl ?_
    rw [equal, edgeKey, TransitionDraft.edgeKey, joins.1, joins.2.1, joins.2.2]
  | madeEdge =>
    refine Table.mem_put.2 (.inr ⟨stored, fun same => ?_⟩)
    have given : t.Given edge.id := numbers edge stored
    exact not_given_next ((show edge.id = _ from same) ▸ given)
  | _ => exact stored

/-- An edge comes in under a key only by a draft for the key. -/
theorem edgeAt?_eq_none_of_changes {op : Graph.Operation} (distinct : Distinct t)
    (absent : t.edgeAt? key = none) (changes : Changes t after op)
    (others : ∀ draft, op = .putTransition draft → draft.edgeKey ≠ key) :
    after.edgeAt? key = none := by
  have apart : ∀ row ∈ t.transitions.rows, edgeKey row ≠ key :=
    distinct.edgeAt?_eq_none_iff.1 absent
  refine (distinct_of_changes distinct changes).edgeAt?_eq_none_iff.2 fun row stored => ?_
  cases changes with
  | renamedEdge draft existing screened found =>
    rcases Table.mem_put.1 stored with rfl | ⟨old, -⟩
    · exact apart existing (mem_edge? found).1
    · exact apart row old
  | madeEdge draft =>
    rcases Table.mem_put.1 stored with rfl | ⟨old, -⟩
    · exact others draft rfl
    · exact apart row old
  | deletedWorkflow | deletedStatus | deletedTransition =>
    exact apart row (Table.mem_filter.1 stored).1
  | _ => exact apart row stored

/-- Where no edge is under the key of a draft, one is made under an identifier that was never given
before. -/
private theorem putTransition_of_absent (absent : t.edgeAt? draft.edgeKey = none)
    (done : (Graph.putTransition draft).run t = (.ok row, after)) :
    ¬ t.Given row.id ∧ ∀ family : RuleFamily, family.rows after = family.rows t := by
  obtain ⟨-, -, -, -, placed⟩ := putTransition_eq_ok done
  have absent : t.edge? draft.workflowId draft.fromStatus draft.toStatus = none := absent
  rw [placeEdge, absent] at placed
  cases placed
  refine ⟨not_given_next, fun family => ?_⟩
  cases family <;> rfl

end Graph

/-! ## Rules of a transition -/

namespace RuleFamily

/-- The rules of the family that are listed for a transition. -/
def listing : (family : RuleFamily) → Graph → TransitionId → List (Rule family.Content)
  | condition, t, id => t.conditionsOf id
  | validator, t, id => t.validatorsOf id
  | postFunction, t, id => t.postFunctionsOf id

variable {family : RuleFamily} {t after : Graph} {id : TransitionId}

theorem listing_eq (family : RuleFamily) (t : Graph) (id : TransitionId) :
    family.listing t id =
      byPosition Rule.position ((family.rows t).filter (·.transitionId == id)) := by
  cases family <;> rfl

private theorem listing_congr (same : (family.rows after).filter (·.transitionId == id) =
    (family.rows t).filter (·.transitionId == id)) :
    family.listing after id = family.listing t id := by
  rw [listing_eq, listing_eq, same]

private theorem mem_listing {rule : Rule family.Content} :
    rule ∈ family.listing t id ↔ rule ∈ family.rows t ∧ rule.transitionId = id := by
  rw [listing_eq, byPosition, mem_sortBy, List.mem_filter, beq_iff_eq]

/-- A transition that is not there has no rules. -/
private theorem listing_eq_nil (linked : t.Linked) (absent : t.transitions.contains id = false) :
    family.listing t id = [] := by
  refine List.eq_nil_iff_forall_not_mem.2 fun rule listed => ?_
  obtain ⟨stored, rfl⟩ := mem_listing.1 listed
  have there : t.transitions.contains rule.transitionId = true := by
    cases family with
    | condition => exact linked.condition rule stored
    | validator => exact linked.validator rule stored
    | postFunction => exact linked.postFunction rule stored
  cases absent.symm.trans there

/-- Apart from deletions only two operations change the rules of a family, one that adds a rule and
one that deletes the rules with an identifier. -/
theorem rows_cases {op : Graph.Operation} (changes : Graph.Changes t after op)
    (kept : ∀ d : Deletion, op ≠ d.operation) (family : RuleFamily) :
    (∃ rule, op = family.adding rule ∧ family.rows after = family.rows t ++ [rule]) ∨
      (∃ id, op = family.deleting id ∧
        family.rows after = (family.rows t).filter fun rule => !(rule.id == id)) ∨
      family.rows after = family.rows t ∧ (∀ rule, op ≠ family.adding rule) ∧
        ∀ id, op ≠ family.deleting id := by
  by_cases adds : ∃ rule, op = family.adding rule
  · obtain ⟨rule, rfl⟩ := adds
    refine .inl ⟨rule, rfl, ?_⟩
    cases family <;> cases changes <;> rfl
  · by_cases deletes : ∃ id, op = family.deleting id
    · obtain ⟨id, rfl⟩ := deletes
      refine .inr (.inl ⟨id, rfl, ?_⟩)
      cases family <;> cases changes <;> rfl
    · refine .inr (.inr ⟨?_, fun rule same => adds ⟨rule, same⟩, fun id same => deletes ⟨id, same⟩⟩)
      cases changes with
      | deletedWorkflow id | noWorkflow id => exact absurd rfl (kept (.workflow id))
      | deletedStatus id | noStatus id => exact absurd rfl (kept (.status id))
      | deletedTransition id => exact absurd rfl (kept (.transition id))
      | addedCondition rule | addedValidator rule | addedPostFunction rule =>
        cases family <;> first | rfl | exact absurd ⟨rule, rfl⟩ adds
      | deletedCondition id | deletedValidator id | deletedPostFunction id =>
        cases family <;> first | rfl | exact absurd ⟨id, rfl⟩ deletes
      | _ => cases family <;> rfl

/-- What a deletion leaves of the rules of a family. -/
theorem rows_without (d : Deletion) (family : RuleFamily) (t : Graph) :
    family.rows (d.without t) = (family.rows t).filter fun rule => !d.takesRule t rule := by
  cases family <;> rfl

/-- A deletion leaves the rules of a transition that it does not take. -/
private theorem listing_without {edge : Transition} (stored : edge ∈ t.transitions.rows)
    {d : Deletion} (spared : d.takesEdge edge = false) (family : RuleFamily) :
    family.listing (d.without t) edge.id = family.listing t edge.id := by
  refine listing_congr ?_
  rw [rows_without, List.filter_filter]
  refine List.filter_congr fun rule _ => ?_
  by_cases own : rule.transitionId = edge.id
  · rw [← Deletion.transitionIs_eq_takesRule, own, Graph.transitionIs_of_mem stored, spared]
    simp
  · have differs : (rule.transitionId == edge.id) = false := beq_eq_false_iff_ne.2 own
    rw [differs, Bool.false_and]

end RuleFamily

/-! ## Steps and runs -/

namespace Store

/-- A step deletes an edge, one of its statuses or its workflow. -/
def Deletes (store : Store) (edge : Transition) (step : Step) : Prop :=
  ∃ d : Deletion, step = d.step ∧ d.takesEdge edge = true ∧ (store.update d.carryOut).1 = .ok true

/-- No step of a run deletes the edge. -/
def Spares (edge : Transition) : Store → List Step → Prop :=
  Never fun store step => store.Deletes edge step

/-- The draft for the key that a step carries out. -/
def redraft? (store : Store) (key : WorkflowId × StatusId × StatusId) :
    Step → Option TransitionDraft
  | .operation (.onGraph (.putTransition draft)) =>
    match (store.update (Tables.onGraph (Graph.putTransition draft))).1 with
    | .ok _ => if draft.edgeKey = key then some draft else none
    | .error _ => none
  | _ => none

/-- The drafts for the key that are carried out along a run, in order. -/
def redrafts (key : WorkflowId × StatusId × StatusId) : Store → List Step → List TransitionDraft
  | _, [] => []
  | store, step :: steps => (store.redraft? key step).toList ++ redrafts key (store.step step) steps

variable {store : Store} {key : WorkflowId × StatusId × StatusId} {edge : Transition}
  {draft : TransitionDraft} {step : Step}

/-- A draft is carried out, or it changes nothing. -/
private theorem update_putTransition_cases (store : Store) (draft : TransitionDraft) :
    (∃ e, store.update (Tables.onGraph (Graph.putTransition draft)) = (.error e, store)) ∨
      ∃ row graph, store.update (Tables.onGraph (Graph.putTransition draft)) =
          (.ok row, { store with tables.graph := graph }) ∧
        (Graph.putTransition draft).run store.tables.graph = (.ok row, graph) := by
  rcases store.update_cases (Graph.putTransition_failsClean draft).onGraph with
    failed | ⟨row, tables, -, done, updated⟩
  · exact .inl failed
  · obtain ⟨graph, made, rfl⟩ := within_eq_ok_iff.1 done
    exact .inr ⟨row, graph, updated, made⟩

theorem step_putTransition (store : Store) (draft : TransitionDraft) :
    store.step (.operation (.onGraph (.putTransition draft))) =
      (store.update (Tables.onGraph (Graph.putTransition draft))).2 := by
  show (store.update (Tables.onGraph (answering .edge (Graph.putTransition draft)))).2 = _
  exact update_answering store Answer.edge (Graph.putTransition draft)

/-- A step carries out a draft for the key, or it carries out none. -/
private theorem redraft?_cases (store : Store) (key : WorkflowId × StatusId × StatusId)
    (step : Step) :
    (∃ draft row, store.redraft? key step = some draft ∧ draft.edgeKey = key ∧
      (Graph.putTransition draft).run store.tables.graph =
        (.ok row, (store.step step).tables.graph)) ∨
    store.redraft? key step = none ∧
      ((store.step step).tables.graph = store.tables.graph ∨
        ∀ draft, step = .operation (.onGraph (.putTransition draft)) → draft.edgeKey ≠ key) := by
  by_cases puts : ∃ draft, step = .operation (.onGraph (.putTransition draft))
  · obtain ⟨draft, rfl⟩ := puts
    rw [step_putTransition]
    rcases store.update_putTransition_cases draft with ⟨e, failed⟩ | ⟨row, graph, updated, made⟩
    · exact .inr ⟨by simp only [redraft?, failed], .inl (by rw [failed])⟩
    · rw [updated]
      by_cases same : draft.edgeKey = key
      · exact .inl ⟨draft, row, by simp only [redraft?, updated, same, if_true], same, made⟩
      · refine .inr ⟨by simp only [redraft?, updated, same, if_false], .inr ?_⟩
        rintro other ⟨⟩
        exact same
  · refine .inr ⟨?_, .inr fun draft same => absurd ⟨draft, same⟩ puts⟩
    unfold redraft?
    split
    · next draft => exact absurd ⟨draft, rfl⟩ puts
    · rfl

theorem Reachable.given (reached : store.Reachable) : store.tables.graph.Numbers :=
  graph_of_changes (List.forall_mem_nil _) Graph.Numbers.of_changes reached

theorem Reachable.next (reached : store.Reachable) (step : Step) : (store.step step).Reachable :=
  IsTrans.trans (r := Leads) _ _ _ reached ⟨[step], rfl⟩

theorem Reachable.later (reached : store.Reachable) (steps : List Step) :
    (store.after steps).Reachable :=
  IsTrans.trans (r := Leads) _ _ _ reached ⟨steps, rfl⟩

/-- A step that does not delete an edge gives it the name and the screen of a draft for its key, or
leaves it. -/
theorem mem_step_of_spared (reached : store.Reachable)
    (stored : edge ∈ store.tables.graph.transitions.rows) (spared : ¬ store.Deletes edge step) :
    edge.redrawnBy (store.redraft? (Graph.edgeKey edge) step).toList ∈
      (store.step step).tables.graph.transitions.rows := by
  rcases store.redraft?_cases (Graph.edgeKey edge) step with
    ⟨draft, row, named, same, made⟩ | ⟨silent, others⟩
  · have found : store.tables.graph.edgeAt? draft.edgeKey = some edge :=
      reached.distinct.edgeAt?_eq_some_iff.2 ⟨stored, same.symm⟩
    obtain ⟨rfl, after⟩ := Graph.putTransition_of_stored found made
    rw [named, after]
    exact Table.mem_put.2 (.inl rfl)
  · rw [silent]
    show edge ∈ (store.step step).tables.graph.transitions.rows
    rcases others with same | others
    · rwa [same]
    · rcases step_deletion_cases reached.linked step with
        ⟨d, rfl, done, after⟩ | ⟨op, kept, rfl, -, changes⟩ | ⟨same, -⟩
      · have free : d.takesEdge edge = false :=
          Bool.eq_false_iff.2 fun takes => spared ⟨d, rfl, takes, done⟩
        rw [after]
        exact Table.mem_filter.2 ⟨stored, by rw [free]; rfl⟩
      · refine Graph.mem_of_changes reached.given stored changes kept ?_
        rintro draft rfl
        exact others draft rfl
      · rwa [same]

private theorem deletes_redrawnBy_iff (drafts : List TransitionDraft) :
    store.Deletes (edge.redrawnBy drafts) step ↔ store.Deletes edge step := by
  simp only [Deletes, Deletion.takesEdge_redrawnBy]

private theorem spares_redrawnBy_iff (drafts : List TransitionDraft) {steps : List Step} :
    Spares (edge.redrawnBy drafts) store steps ↔ Spares edge store steps := by
  simp only [Spares, deletes_redrawnBy_iff]

/-- Along a run that does not delete an edge, the drafts for its key are drawn into its row. -/
private theorem mem_after_of_spares (reached : store.Reachable)
    (stored : edge ∈ store.tables.graph.transitions.rows) {steps : List Step}
    (spared : Spares edge store steps) :
    edge.redrawnBy (redrafts (Graph.edgeKey edge) store steps) ∈
      (store.after steps).tables.graph.transitions.rows := by
  induction steps generalizing store edge with
  | nil => exact stored
  | cons step steps ih =>
    have next := mem_step_of_spared reached stored spared.1
    have later := ih (reached.next step) next ((spares_redrawnBy_iff _).2 spared.2)
    rw [Graph.edgeKey_redrawnBy] at later
    rw [redrafts, Transition.redrawnBy, List.foldl_append]
    exact later

/-- A step that does not delete an edge changes its rules of a family only where it is to add one or
to delete one by its identifier. -/
private theorem listing_step_of_spared (reached : store.Reachable)
    (stored : edge ∈ store.tables.graph.transitions.rows) (spared : ¬ store.Deletes edge step)
    (family : RuleFamily) :
    family.listing (store.step step).tables.graph edge.id =
        family.listing store.tables.graph edge.id ∨
      (∃ rule, step = family.addStep rule ∧ rule.transitionId = edge.id) ∨
      ∃ rule ∈ family.listing store.tables.graph edge.id, step = family.deleteStep rule.id := by
  rcases step_deletion_cases reached.linked step with
    ⟨d, rfl, done, after⟩ | ⟨op, kept, rfl, -, changes⟩ | ⟨same, -⟩
  · have free : d.takesEdge edge = false :=
      Bool.eq_false_iff.2 fun takes => spared ⟨d, rfl, takes, done⟩
    rw [after]
    exact .inl (RuleFamily.listing_without stored free family)
  · rcases RuleFamily.rows_cases changes kept family with
      ⟨rule, rfl, same⟩ | ⟨id, rfl, same⟩ | ⟨same, -⟩
    · by_cases own : rule.transitionId = edge.id
      · exact .inr (.inl ⟨rule, rfl, own⟩)
      · refine .inl (RuleFamily.listing_congr ?_)
        have other : (rule.transitionId == edge.id) = false := beq_eq_false_iff_ne.2 own
        rw [same, List.filter_append, List.filter_singleton, other]
        exact List.append_nil _
    · by_cases own : ∃ rule ∈ family.listing store.tables.graph edge.id, rule.id = id
      · obtain ⟨rule, listed, rfl⟩ := own
        exact .inr (.inr ⟨rule, listed, rfl⟩)
      · refine .inl (RuleFamily.listing_congr ?_)
        rw [same, List.filter_filter]
        refine List.filter_congr fun rule there => ?_
        by_cases listed : rule.transitionId = edge.id
        · have differs : (rule.id == id) = false :=
            beq_eq_false_iff_ne.2 fun equal =>
              own ⟨rule, RuleFamily.mem_listing.2 ⟨there, listed⟩, equal⟩
          rw [differs, Bool.not_false, Bool.and_true]
        · rw [beq_eq_false_iff_ne.2 listed, Bool.false_and]
    · exact .inl (RuleFamily.listing_congr (by rw [same]))
  · exact .inl (by rw [same])

/-- Nothing is left under the key of an edge that is deleted. -/
private theorem edgeAt?_step_of_deletes (reached : store.Reachable)
    (stored : edge ∈ store.tables.graph.transitions.rows) (deleted : store.Deletes edge step) :
    (store.step step).tables.graph.edgeAt? (Graph.edgeKey edge) = none := by
  obtain ⟨d, rfl, takes, done⟩ := deleted
  have left : (store.step d.step).tables.graph = d.without store.tables.graph :=
    ((d.graph_step_cases reached.linked).resolve_right fun unsaid => unsaid.1 done).2
  refine (reached.next _).distinct.edgeAt?_eq_none_iff.2 fun row kept same => ?_
  rw [left] at kept
  obtain ⟨old, spared⟩ := Table.mem_filter.1 kept
  rw [reached.distinct.edge row old edge stored same, takes] at spared
  cases spared

/-- Where no edge is under a key, there is none after a run that carries out no draft for it. -/
private theorem edgeAt?_after_eq_none (reached : store.Reachable)
    (absent : store.tables.graph.edgeAt? key = none) {steps : List Step}
    (silent : redrafts key store steps = []) :
    (store.after steps).tables.graph.edgeAt? key = none := by
  induction steps generalizing store with
  | nil => exact absent
  | cons step steps ih =>
    obtain ⟨first, rest⟩ := List.append_eq_nil_iff.1 silent
    refine ih (reached.next step) ?_ rest
    rcases store.redraft?_cases key step with ⟨draft, row, named, -⟩ | ⟨-, same | others⟩
    · rw [named] at first
      cases first
    · rwa [same]
    · rcases step_graph_cases store step with same | ⟨op, rfl, changes⟩
      · rwa [same]
      · refine Graph.edgeAt?_eq_none_of_changes reached.distinct absent changes ?_
        rintro draft rfl
        exact others draft rfl

/-- What was given stays given. -/
private theorem given_after {id : TransitionId} (given : store.tables.graph.Given id)
    (steps : List Step) :
    (store.after steps).tables.graph.Given id := by
  have stepped : ∀ (store : Store) (step : Step), store.tables.graph.Given id →
      (store.step step).tables.graph.Given id := by
    intro store step given
    rcases step_graph_cases store step with same | ⟨op, -, changes⟩
    · rwa [same]
    · exact given.of_changes changes
  exact Leads.preserves stepped ⟨steps, rfl⟩ given

/-- An edge is made under a key that is free with an identifier of its own, and so without rules. -/
private theorem update_putTransition_of_absent (reached : store.Reachable) {row : Transition}
    {next : Store} (absent : store.tables.graph.edgeAt? draft.edgeKey = none)
    (made : store.update (Tables.onGraph (Graph.putTransition draft)) = (.ok row, next)) :
    ¬ store.tables.graph.Given row.id ∧
      ∀ family : RuleFamily, family.listing next.tables.graph row.id = [] := by
  rcases store.update_putTransition_cases draft with ⟨e, failed⟩ | ⟨other, graph, updated, done⟩
  · rw [failed] at made
    cases made
  · rw [updated] at made
    cases made
    obtain ⟨fresh, kept⟩ := Graph.putTransition_of_absent absent done
    have unknown : store.tables.graph.transitions.contains row.id = false := by
      refine Bool.eq_false_iff.2 fun there => ?_
      obtain ⟨edge, stored, same⟩ := Table.contains_iff.1 there
      exact fresh (same ▸ reached.given edge stored)
    refine ⟨fresh, fun family => ?_⟩
    have bare : family.listing store.tables.graph row.id = [] :=
      RuleFamily.listing_eq_nil reached.linked unknown
    rw [← bare]
    exact RuleFamily.listing_congr (by rw [kept family])

/-- How an edge is known under its key after a run, and what comes next. -/
structure KeepsIdentity (store : Store) (key : WorkflowId × StatusId × StatusId)
    (edge : Transition) (steps : List Step) : Prop where
  /-- The key leads to the row, as the drafts along the run have left it. -/
  found : (store.after steps).tables.graph.edgeAt? key =
    some (edge.redrawnBy (redrafts key store steps))
  /-- A draft for the key is refused in an outage or for its screen. -/
  accepts : ∀ draft : TransitionDraft, draft.edgeKey = key →
    (store.after steps).unavailable = false →
    (∀ screen, draft.screenId = some screen →
      (store.after steps).tables.graph.screens.contains screen = true) →
    ((store.after steps).update (Tables.onGraph (Graph.putTransition draft))).1 =
      .ok (edge.redrawn draft)
  /-- A draft for the key gives the edge its name and screen. -/
  redraws : ∀ (draft : TransitionDraft) (row : Transition) (next : Store), draft.edgeKey = key →
    (store.after steps).update (Tables.onGraph (Graph.putTransition draft)) = (.ok row, next) →
      row = edge.redrawn draft ∧ next.tables.graph.edgeAt? key = some row
  /-- The rules are changed by their own operations. -/
  rules : ∀ step, ¬ (store.after steps).Deletes edge step → ∀ family : RuleFamily,
    family.listing (store.after (steps ++ [step])).tables.graph edge.id =
        family.listing (store.after steps).tables.graph edge.id ∨
      (∃ rule, step = family.addStep rule ∧ rule.transitionId = edge.id) ∨
      ∃ rule ∈ family.listing (store.after steps).tables.graph edge.id,
        step = family.deleteStep rule.id
  /-- After a deletion the first draft for the key makes another edge, without rules. -/
  anew : ∀ (deleting : Step) (more : List Step) (draft : TransitionDraft) (row : Transition)
    (next : Store), (store.after steps).Deletes edge deleting →
    redrafts key (store.after (steps ++ [deleting])) more = [] → draft.edgeKey = key →
    (store.after (steps ++ deleting :: more)).update (Tables.onGraph (Graph.putTransition draft)) =
      (.ok row, next) →
      row.id ≠ edge.id ∧ ∀ family : RuleFamily, family.listing next.tables.graph row.id = []

private theorem keepsIdentity_of_spares (reached : store.Reachable)
    (there : store.tables.graph.edgeAt? key = some edge) {steps : List Step}
    (spared : Spares edge store steps) : store.KeepsIdentity key edge steps := by
  obtain ⟨stored, rfl⟩ := reached.distinct.edgeAt?_eq_some_iff.1 there
  have later : (store.after steps).Reachable := reached.later steps
  have kept := mem_after_of_spares reached stored spared
  have found := later.distinct.edgeAt?_eq_some_iff.2 ⟨kept, Graph.edgeKey_redrawnBy ..⟩
  refine ⟨found, ?_, ?_, ?_, ?_⟩
  · intro draft same available screened
    have owned := later.linked.edge _ kept
    have source := later.linked.source _ kept
    have target := later.linked.target _ kept
    obtain ⟨name, screenId, row⟩ := edge.redrawnBy_eq (redrafts (Graph.edgeKey edge) store steps)
    rw [row] at owned source target
    obtain ⟨workflow, first, second⟩ : draft.workflowId = edge.workflowId ∧
        draft.fromStatus = edge.fromStatus ∧ draft.toStatus = edge.toStatus := by
      simpa [TransitionDraft.edgeKey, Graph.edgeKey] using same
    rw [← workflow] at owned source target
    rw [← first] at source
    rw [← second] at target
    have made := Graph.putTransition_of_checked owned source target fun asked => screened _ asked
    rw [Graph.placeEdge_of_found (same ▸ found), Transition.redrawn_redrawnBy] at made
    exact congrArg Prod.fst (update_onGraph available made)
  · intro draft row next same done
    rcases (store.after steps).update_putTransition_cases draft with
      ⟨e, failed⟩ | ⟨other, graph, updated, made⟩
    · rw [failed] at done
      cases done
    · rw [updated] at done
      cases done
      obtain ⟨drawn, after⟩ := Graph.putTransition_of_stored (same ▸ found) made
      rw [Transition.redrawn_redrawnBy] at drawn
      refine ⟨drawn, ?_⟩
      have distinct : graph.Distinct :=
        Graph.distinct_of_changes later.distinct (Graph.changes_of_putTransition made)
      refine distinct.edgeAt?_eq_some_iff.2 ⟨?_, by rw [drawn]; rfl⟩
      rw [after]
      exact Table.mem_put.2 (.inl rfl)
  · intro step still family
    have own := listing_step_of_spared later kept ((deletes_redrawnBy_iff _).not.2 still) family
    rw [Transition.id_redrawnBy] at own
    rw [after_concat]
    exact own
  · intro deleting more draft row next deleted silent same made
    have split : steps ++ deleting :: more = (steps ++ [deleting]) ++ more := by simp
    rw [split, after_append] at made
    have gone : (store.after (steps ++ [deleting])).tables.graph.edgeAt? (Graph.edgeKey edge) =
        none := by
      rw [after_concat, ← Graph.edgeKey_redrawnBy]
      exact edgeAt?_step_of_deletes later kept ((deletes_redrawnBy_iff _).2 deleted)
    have laterStill := reached.later (steps ++ [deleting])
    have absent := edgeAt?_after_eq_none laterStill gone silent
    obtain ⟨fresh, bare⟩ :=
      update_putTransition_of_absent (laterStill.later more) (same ▸ absent) made
    refine ⟨fun equal => fresh ?_, bare⟩
    rw [equal]
    exact given_after (given_after (reached.given edge stored) _) more

/-- Putting a draft twice is putting it once. -/
private theorem update_putTransition_twice (reached : store.Reachable) (draft : TransitionDraft) :
    (store.update (Tables.onGraph (Graph.putTransition draft))).2.update
        (Tables.onGraph (Graph.putTransition draft)) =
      store.update (Tables.onGraph (Graph.putTransition draft)) := by
  rcases store.update_cases (Graph.putTransition_failsClean draft).onGraph with
    ⟨e, failed⟩ | ⟨row, tables, available, done, updated⟩
  · rw [failed, failed]
  · obtain ⟨graph, made, rfl⟩ := within_eq_ok_iff.1 done
    rw [updated]
    have still : ({ store with tables.graph := graph } : Store).unavailable = false := available
    exact update_onGraph still (Graph.putTransition_again reached.distinct made)

end Store

/-- An edge keeps its identity along every run that does not delete it. Its key leads to its row, a
draft for the key changes the name and the screen of the row and nothing else, and its rules change
by their own operations only. When it has been deleted, the next draft for the key makes another
edge, which has no rules. Putting a draft twice is putting it once. -/
theorem edge_keeps_identity {store : Store} (reached : store.Reachable) :
    (∀ key edge, store.tables.graph.edgeAt? key = some edge → ∀ steps,
      Store.Spares edge store steps → store.KeepsIdentity key edge steps) ∧
    ∀ draft : TransitionDraft,
      (store.update (Tables.onGraph (Graph.putTransition draft))).2.update
          (Tables.onGraph (Graph.putTransition draft)) =
        store.update (Tables.onGraph (Graph.putTransition draft)) :=
  ⟨fun _ _ there _ spared => Store.keepsIdentity_of_spares reached there spared,
    fun draft => Store.update_putTransition_twice reached draft⟩

namespace Sample

def finishEdge : Transition :=
  ⟨⟨"T1"⟩, ⟨"W"⟩, ⟨"open"⟩, ⟨"done"⟩, "Finish", none⟩

/-- The edge with another name. -/
def closing : TransitionDraft :=
  ⟨⟨"W"⟩, ⟨"open"⟩, ⟨"done"⟩, "Close", none⟩

/-- The edge is renamed. A second edge comes, and goes with the status where it ends. -/
def redrawing : List Store.Step := [
  .operation (.onGraph (.putTransition closing)),
  .operation (.onGraph (.putStatus ⟨⟨"held"⟩, ⟨"W"⟩, "Held", .todo, position 2⟩)),
  .operation (.onGraph (.putTransition ⟨⟨"W"⟩, ⟨"open"⟩, ⟨"held"⟩, "Hold", none⟩)),
  (Deletion.status ⟨"held"⟩).step]

private theorem spares_redrawing : Store.Spares finishEdge store redrawing := by
  refine ⟨?_, ?_, ?_, ?_, trivial⟩ <;> rintro ⟨_ | _ | _, same, takes, -⟩ <;> cases same
  exact absurd takes (by decide)

end Sample

/-- The edge and its condition outlive the run. When the edge has been deleted, a third one is made,
and it has no conditions. -/
theorem sample_edge_identity :
    (Sample.store.after Sample.redrawing).tables.graph.edgeAt? Sample.closing.edgeKey =
        some (Sample.finishEdge.redrawn Sample.closing) ∧
      ((Sample.store.after Sample.redrawing).tables.graph.conditionsOf ⟨"T1"⟩).map (·.id) =
        [⟨"R1"⟩] ∧
      ∃ row next, ((Sample.store.after Sample.redrawing).step
            (Deletion.transition ⟨"T1"⟩).step).update
          (Tables.onGraph (Graph.putTransition Sample.closing)) = (.ok row, next) ∧
        row.id = ⟨"T3"⟩ ∧ next.tables.graph.conditionsOf ⟨"T3"⟩ = [] ∧
        next.update (Tables.onGraph (Graph.putTransition Sample.closing)) = (.ok row, next) := by
  have reached : Sample.store.Reachable := ⟨Sample.steps, rfl⟩
  obtain ⟨keeps, -⟩ := edge_keeps_identity reached
  have identity := keeps Sample.closing.edgeKey Sample.finishEdge (by decide +kernel)
    Sample.redrawing Sample.spares_redrawing
  have drafts : Store.redrafts Sample.closing.edgeKey Sample.store Sample.redrawing =
      [Sample.closing] := by
    decide +kernel
  have found := identity.found
  rw [drafts] at found
  refine ⟨found, by decide +kernel, ?_⟩
  have deletes : (Sample.store.after Sample.redrawing).Deletes Sample.finishEdge
      (Deletion.transition ⟨"T1"⟩).step :=
    ⟨.transition ⟨"T1"⟩, rfl, by decide, by decide +kernel⟩
  have later : ((Sample.store.after Sample.redrawing).step
      (Deletion.transition ⟨"T1"⟩).step).Reachable := (reached.later _).next _
  have numbered : ((((Sample.store.after Sample.redrawing).step
      (Deletion.transition ⟨"T1"⟩).step).update
        (Tables.onGraph (Graph.putTransition Sample.closing))).1.toOption.map (·.id)) =
      some ⟨"T3"⟩ := by
    decide +kernel
  rcases made : ((Sample.store.after Sample.redrawing).step
      (Deletion.transition ⟨"T1"⟩).step).update
        (Tables.onGraph (Graph.putTransition Sample.closing)) with ⟨answer, next⟩
  rw [made] at numbered
  cases answer with
  | error e => cases numbered
  | ok row =>
    have third : row.id = ⟨"T3"⟩ := Option.some.inj numbered
    obtain ⟨-, bare⟩ := identity.anew _ [] Sample.closing row next deletes rfl rfl made
    have conditions := bare .condition
    rw [third] at conditions
    have twice := (edge_keeps_identity later).2 Sample.closing
    rw [made] at twice
    exact ⟨row, next, rfl, third, conditions, twice⟩

end IssueFlow
