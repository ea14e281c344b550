import IssueFlow.Proofs.GraphIntegrity
import Mathlib.Data.List.Induction

/-!
# Rules and their identifiers

A rule brings its identifier along, and the table of its family takes it as it is: a rule under an
identifier in use stands beside the one that has it. So identifiers are distinct for just as long as
no such rule is taken (`Store.identified_iff_not_repeats`), and for just as long a deletion takes
one rule at most.
-/

namespace IssueFlow

/-- The rules of a family have a table of their own. -/
inductive RuleFamily where
  | condition
  | validator
  | postFunction

namespace RuleFamily

def Content : RuleFamily → Type
  | condition => Condition
  | validator => Validation
  | postFunction => PostFunction

def rows : (family : RuleFamily) → Graph → List (Rule family.Content)
  | condition, t => t.conditions
  | validator, t => t.validators
  | postFunction, t => t.postFunctions

/-- The tables with the rows of the family as they are to be. -/
def setRows : (family : RuleFamily) → List (Rule family.Content) → Graph → Graph
  | condition, conditions, t => { t with conditions }
  | validator, validators, t => { t with validators }
  | postFunction, postFunctions, t => { t with postFunctions }

def adding : (family : RuleFamily) → Rule family.Content → Graph.Operation
  | condition, rule => .addCondition rule
  | validator, rule => .addValidator rule
  | postFunction, rule => .addPostFunction rule

def deleting : RuleFamily → RuleId → Graph.Operation
  | condition, id => .deleteCondition id
  | validator, id => .deleteValidator id
  | postFunction, id => .deletePostFunction id

def addStep (family : RuleFamily) (rule : Rule family.Content) : Store.Step :=
  .operation (.onGraph (family.adding rule))

def deleteStep (family : RuleFamily) (id : RuleId) : Store.Step :=
  .operation (.onGraph (family.deleting id))

variable {family : RuleFamily} {t : Graph}

@[simp] theorem rows_setRows (rules : List (Rule family.Content)) :
    family.rows (family.setRows rules t) = rules := by
  cases family <;> rfl

@[simp] theorem transitions_setRows (rules : List (Rule family.Content)) :
    (family.setRows rules t).transitions = t.transitions := by
  cases family <;> rfl

/-- The table takes a rule of a stored transition at its end, whatever the identifier. -/
private theorem apply_adding (rule : Rule family.Content) :
    (family.adding rule).apply = answering (fun _ => .done) (do
      let t ← get
      t.requireTransition rule.transitionId
      set (family.setRows (family.rows t ++ [rule]) t)) := by
  cases family <;> rfl

private theorem apply_adding_of_stored {rule : Rule family.Content}
    (stored : t.transitions.contains rule.transitionId = true) :
    (family.adding rule).apply.run t = (.ok .done, family.setRows (family.rows t ++ [rule]) t) := by
  rw [apply_adding, answering, map_run, run_get_bind, Graph.requireTransition, stored]
  rfl

private theorem apply_adding_of_absent {rule : Rule family.Content}
    (absent : t.transitions.contains rule.transitionId = false) :
    (family.adding rule).apply.run t =
      (.error (.notFound s!"transition {rule.transitionId.text} not found"), t) := by
  rw [apply_adding, answering, map_run, run_get_bind, Graph.requireTransition, absent]
  rfl

/-- A deletion takes every rule of the family that has the identifier. -/
private theorem apply_deleting (id : RuleId) :
    (family.deleting id).apply.run t = (.ok (.flag ((family.rows t).any (·.id == id))),
      family.setRows ((family.rows t).filter fun rule => !(rule.id == id)) t) := by
  cases family <;> rfl

/-- Only an operation that is to add a rule of the family leaves any that was not there. -/
theorem rows_of_changes {after : Graph} {op : Graph.Operation} (changes : Graph.Changes t after op)
    (family : RuleFamily) :
    (family.rows after).Sublist (family.rows t) ∨ ∃ rule, op = family.adding rule := by
  cases changes with
  | addedCondition rule owned =>
    cases family with
    | condition => exact .inr ⟨rule, rfl⟩
    | validator | postFunction => exact .inl (List.Sublist.refl _)
  | addedValidator rule owned =>
    cases family with
    | validator => exact .inr ⟨rule, rfl⟩
    | condition | postFunction => exact .inl (List.Sublist.refl _)
  | addedPostFunction rule owned =>
    cases family with
    | postFunction => exact .inr ⟨rule, rfl⟩
    | condition | validator => exact .inl (List.Sublist.refl _)
  | deletedWorkflow | deletedStatus | deletedTransition =>
    cases family <;> exact .inl List.filter_sublist
  | deletedCondition =>
    cases family with
    | condition => exact .inl List.filter_sublist
    | validator | postFunction => exact .inl (List.Sublist.refl _)
  | deletedValidator =>
    cases family with
    | validator => exact .inl List.filter_sublist
    | condition | postFunction => exact .inl (List.Sublist.refl _)
  | deletedPostFunction =>
    cases family with
    | postFunction => exact .inl List.filter_sublist
    | condition | validator => exact .inl (List.Sublist.refl _)
  | _ => exact .inl (by cases family <;> exact List.Sublist.refl _)

end RuleFamily

/-- No two rules of a family have one identifier. -/
def Graph.Identified (t : Graph) : Prop :=
  ∀ family : RuleFamily, ((family.rows t).map Rule.id).Nodup

private theorem Graph.identified_empty : Graph.Identified {} := by
  rintro (_ | _ | _) <;> exact List.nodup_nil

namespace Store

/-- The store takes a rule: it is in reach, and the transition of the rule is there. -/
structure Takes (store : Store) {family : RuleFamily} (rule : Rule family.Content) : Prop where
  available : store.unavailable = false
  owned : store.tables.graph.transitions.contains rule.transitionId = true

/-- A rule is added under an identifier that a rule of its family has. -/
inductive Repeats (store : Store) : Step → Prop where
  | adding {family : RuleFamily} {rule other : Rule family.Content} (taken : store.Takes rule)
      (stored : other ∈ family.rows store.tables.graph) (same : other.id = rule.id) :
      Repeats store (family.addStep rule)

variable {store : Store} {family : RuleFamily} {rule : Rule family.Content}

private theorem update_adding_of_takes (taken : store.Takes rule) :
    store.update (Tables.onGraph (family.adding rule).apply) =
      (.ok .done, { store with
        tables.graph :=
          family.setRows (family.rows store.tables.graph ++ [rule]) store.tables.graph }) :=
  update_onGraph taken.available (RuleFamily.apply_adding_of_stored taken.owned)

private theorem update_adding_of_not_takes (refused : ¬ store.Takes rule) :
    ∃ e, store.update (Tables.onGraph (family.adding rule).apply) = (.error e, store) := by
  rcases Bool.eq_false_or_eq_true store.unavailable with unavailable | available
  · exact ⟨.outage, by rw [update, if_pos unavailable]⟩
  · have absent : store.tables.graph.transitions.contains rule.transitionId = false :=
      Bool.eq_false_iff.2 fun owned => refused ⟨available, owned⟩
    exact ⟨_, update_onGraph available (RuleFamily.apply_adding_of_absent absent)⟩

theorem step_adding_of_takes (taken : store.Takes rule) :
    store.step (family.addStep rule) = { store with
      tables.graph :=
        family.setRows (family.rows store.tables.graph ++ [rule]) store.tables.graph } :=
  congrArg Prod.snd (update_adding_of_takes taken)

theorem step_adding_of_not_takes (refused : ¬ store.Takes rule) :
    store.step (family.addStep rule) = store := by
  obtain ⟨e, failed⟩ := update_adding_of_not_takes refused
  exact congrArg Prod.snd failed

private theorem rows_step_adding (taken : store.Takes rule) :
    family.rows (store.step (family.addStep rule)).tables.graph =
      family.rows store.tables.graph ++ [rule] := by
  rw [step_adding_of_takes taken]
  exact RuleFamily.rows_setRows _

/-- A rule that is taken is taken again. -/
private theorem Takes.again (taken : store.Takes rule) :
    (store.step (family.addStep rule)).Takes rule := by
  rw [step_adding_of_takes taken]
  refine ⟨taken.available, ?_⟩
  rw [RuleFamily.transitions_setRows]
  exact taken.owned

/-- A step adds a rule that the store takes to the rules of its family, or it adds none to them. -/
theorem step_rows_cases (store : Store) (step : Step) (family : RuleFamily) :
    (family.rows (store.step step).tables.graph).Sublist (family.rows store.tables.graph) ∨
      ∃ rule, step = family.addStep rule ∧ store.Takes rule := by
  rcases step_graph_cases store step with same | ⟨op, rfl, changes⟩
  · exact .inl (same ▸ List.Sublist.refl _)
  · rcases RuleFamily.rows_of_changes changes family with fewer | ⟨rule, rfl⟩
    · exact .inl fewer
    · by_cases taken : store.Takes rule
      · exact .inr ⟨rule, rfl, taken⟩
      · refine .inl ?_
        show (family.rows (store.step (family.addStep rule)).tables.graph).Sublist _
        rw [step_adding_of_not_takes taken]

/-- A step keeps identifiers distinct, unless it adds a rule under one that is in use. -/
private theorem identified_step_iff (identified : store.tables.graph.Identified) (step : Step) :
    (store.step step).tables.graph.Identified ↔ ¬ store.Repeats step := by
  constructor
  · rintro still (@⟨family, rule, other, taken, stored, same⟩)
    have distinct := still family
    rw [rows_step_adding taken, List.map_append, List.nodup_append] at distinct
    exact distinct.2.2 _ (List.mem_map.2 ⟨_, stored, rfl⟩) _ (by simp) same
  · intro apart family
    rcases step_rows_cases store step family with fewer | ⟨rule, rfl, taken⟩
    · exact (fewer.map Rule.id).nodup (identified family)
    · rw [rows_step_adding taken]
      exact nodup_map_concat (identified family) fun other stored same =>
        apart (.adding taken stored same)

/-- Identifiers are distinct all along a run that adds no rule under one in use, and along no
other. -/
theorem identified_iff_not_repeats (steps : List Step) :
    (∀ past later, steps = past ++ later → (({} : Store).after past).tables.graph.Identified) ↔
      ∀ past step later, steps = past ++ step :: later →
        ¬ (({} : Store).after past).Repeats step := by
  have last : ∀ (past : List Step) (step : Step),
      ({} : Store).after (past ++ [step]) = (({} : Store).after past).step step :=
    fun past step => after_append ..
  constructor
  · intro identified past step later same
    refine (identified_step_iff (identified past (step :: later) same) step).1 ?_
    rw [← last]
    exact identified (past ++ [step]) later (by rw [same, List.append_assoc]; rfl)
  · intro apart past
    induction past using List.reverseRecOn with
    | nil => exact fun _ _ => Graph.identified_empty
    | append_singleton past step ih =>
      intro later same
      have same : steps = past ++ step :: later := by rw [same, List.append_assoc]; rfl
      rw [last]
      exact (identified_step_iff (ih (step :: later) same) step).2 (apart past step later same)

/-- When a rule has been added, adding it once more is refused or changes nothing. -/
def AddsOnce (store : Store) (family : RuleFamily) (rule : Rule family.Content) : Prop :=
  let once := store.step (family.addStep rule)
  (∃ e, (once.update (Tables.onGraph (family.adding rule).apply)).1 = .error e) ∨
    once.step (family.addStep rule) = once

/-- What is refused once is refused again, and what is taken once is there twice in the end. -/
private theorem addsOnce_iff_not_takes : store.AddsOnce family rule ↔ ¬ store.Takes rule := by
  constructor
  · rintro (⟨e, failed⟩ | same) taken
    · rw [update_adding_of_takes taken.again] at failed
      cases failed
    · have rows := rows_step_adding taken.again
      rw [same] at rows
      exact absurd rows.symm (by simp)
  · intro refused
    obtain ⟨e, failed⟩ := update_adding_of_not_takes refused
    refine .inl ⟨e, ?_⟩
    rw [step_adding_of_not_takes refused, failed]

/-- Of the rules of a family one is gone at most, and so none of a second transition. -/
structure LosesOne (store later : Store) (family : RuleFamily) : Prop where
  count : (family.rows store.tables.graph).length ≤ (family.rows later.tables.graph).length + 1
  transition : ∀ a ∈ family.rows store.tables.graph, ∀ b ∈ family.rows store.tables.graph,
    a ∉ family.rows later.tables.graph → b ∉ family.rows later.tables.graph →
      a.transitionId = b.transitionId

private theorem rows_step_deleting (available : store.unavailable = false) (id : RuleId) :
    family.rows (store.step (family.deleteStep id)).tables.graph =
      (family.rows store.tables.graph).filter fun rule => !(rule.id == id) := by
  show family.rows (store.update (Tables.onGraph (family.deleting id).apply)).2.tables.graph = _
  rw [update_onGraph available (RuleFamily.apply_deleting id)]
  exact RuleFamily.rows_setRows _

/-- A deletion leaves out the rules that have the identifier. -/
private theorem length_rows_step_deleting (available : store.unavailable = false) (id : RuleId) :
    (family.rows store.tables.graph).length =
      (family.rows (store.step (family.deleteStep id)).tables.graph).length +
        ((family.rows store.tables.graph).map Rule.id).count id := by
  rw [rows_step_deleting available, List.count, List.countP_map, List.countP_eq_length_filter,
    Nat.add_comm]
  exact List.length_eq_length_filter_add _

private theorem losesOne_of_unavailable (switch : store.unavailable = true) (id : RuleId) :
    store.LosesOne (store.step (family.deleteStep id)) family := by
  have kept : store.step (family.deleteStep id) = store := by
    simp [RuleFamily.deleteStep, Store.step, update, switch]
  rw [kept]
  exact ⟨Nat.le_succ _, fun a first _ _ gone _ => absurd first gone⟩

/-- Where every deletion takes one rule at most, identifiers are distinct, and only there. -/
private theorem losesOne_iff (available : store.unavailable = false) :
    (∀ id, store.LosesOne (store.step (family.deleteStep id)) family) ↔
      ((family.rows store.tables.graph).map Rule.id).Nodup := by
  constructor
  · intro loses
    refine List.nodup_iff_count_le_one.2 fun id => ?_
    have count := (loses id).count
    rw [length_rows_step_deleting available id] at count
    omega
  · intro distinct id
    have gone : ∀ rule ∈ family.rows store.tables.graph,
        rule ∉ family.rows (store.step (family.deleteStep id)).tables.graph → rule.id = id := by
      intro rule stored taken
      rw [rows_step_deleting available] at taken
      simpa [stored] using taken
    refine ⟨?_, ?_⟩
    · have count := List.nodup_iff_count_le_one.1 distinct id
      rw [length_rows_step_deleting available id]
      omega
    · intro a first b second firstGone secondGone
      have same : a.id = b.id := (gone a first firstGone).trans (gone b second secondGone).symm
      rw [List.inj_on_of_nodup_map distinct first second same]

end Store

/-- Along a run from the empty store identifiers of rules stay distinct for just as long as no rule
is added under one that is in use. Adding a rule twice is adding it once just where it is refused
the first time. A deletion takes one rule at most, whatever it is asked for, just where identifiers
are distinct or the store is out of reach. -/
theorem rule_identity_iff (steps : List Store.Step) (store : Store) (family : RuleFamily) :
    ((∀ past later, steps = past ++ later →
        (({} : Store).after past).tables.graph.Identified) ↔
      ∀ past step later, steps = past ++ step :: later →
        ¬ (({} : Store).after past).Repeats step) ∧
    (∀ rule : Rule family.Content, store.AddsOnce family rule ↔ ¬ store.Takes rule) ∧
    ((∀ id, store.LosesOne (store.step (family.deleteStep id)) family) ↔
      store.unavailable = true ∨ ((family.rows store.tables.graph).map Rule.id).Nodup) := by
  refine ⟨Store.identified_iff_not_repeats steps, ?_, ?_⟩
  · exact fun rule => Store.addsOnce_iff_not_takes
  · cases switch : store.unavailable with
    | true => exact iff_of_true (Store.losesOne_of_unavailable switch) (.inl rfl)
    | false =>
      rw [Store.losesOne_iff switch]
      exact (or_iff_right (by decide)).symm

/-- The condition of the sample. -/
def Sample.condition : ConditionRule :=
  ⟨⟨"R1"⟩, ⟨"T1"⟩, .onlyReporter, position 0⟩

/-- The condition is added once more, and another one under its identifier to a second
transition. -/
def Sample.doubled : Store :=
  store.after [
    .operation (.onGraph (.addCondition condition)),
    .operation (.onGraph (.putTransition ⟨⟨"W"⟩, ⟨"done"⟩, ⟨"open"⟩, "Reopen", none⟩)),
    .operation (.onGraph (.addCondition ⟨⟨"R1"⟩, ⟨"T2"⟩, .onlyAssignee, position 0⟩))]

/-- The condition is there twice and shares its identifier with one of another transition. Deleting
it takes all three. -/
theorem rule_stored_twice :
    Sample.doubled.Reachable ∧
      Sample.doubled.tables.graph.conditions =
        [Sample.condition, Sample.condition, ⟨⟨"R1"⟩, ⟨"T2"⟩, .onlyAssignee, Sample.position 0⟩] ∧
      ¬ Sample.doubled.tables.graph.Identified ∧
      ¬ Sample.store.AddsOnce .condition Sample.condition ∧
      (Sample.doubled.step (RuleFamily.condition.deleteStep ⟨"R1"⟩)).tables.graph.conditions = [] ∧
      ¬ Sample.doubled.LosesOne
        (Sample.doubled.step (RuleFamily.condition.deleteStep ⟨"R1"⟩)) .condition := by
  have reached : Sample.doubled.Reachable :=
    IsTrans.trans (r := Store.Leads) _ _ _ ⟨Sample.steps, rfl⟩ ⟨_, rfl⟩
  refine ⟨reached, by decide +kernel, ?_, ?_, by decide +kernel, ?_⟩
  · intro distinct
    exact absurd (distinct .condition) (by decide +kernel)
  · intro once
    exact Store.addsOnce_iff_not_takes.1 once ⟨by decide +kernel, by decide +kernel⟩
  · intro loses
    exact absurd loses.count (by decide +kernel)

end IssueFlow
