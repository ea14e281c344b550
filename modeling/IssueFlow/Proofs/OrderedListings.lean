import IssueFlow.Proofs.EdgeIdentity
import IssueFlow.Proofs.NaturalKeys
import IssueFlow.Proofs.RunningOrder
import Mathlib.Data.String.Basic

/-!
# Ordered listings

The rules of a transition and the fields of a screen are listed by position, and what shares a
position in the order in which it first came in. What a listing holds is told by the history: the
rows that entered at some step and left at none since (`Store.Lives`). A table that only appends and
drops rows stands in the order in which they entered (`Store.exists_record`), and a stable sort by
position keeps that order (`lists_byPosition`). A screen field that is put again stays in its place,
so for screens it is the keys of the fields that enter and leave.
-/

namespace IssueFlow

namespace Store

private theorem operation_eq {op other : Graph.Operation}
    (same : Step.operation (.onGraph op) = .operation (.onGraph other)) : op = other := by
  cases same
  rfl

section Lives

variable {α : Type}

/-- The row entered at the step of a run that has the place, and left at none of the later ones. -/
def Lives (enters leaves : Store → Step → α → Prop) (steps : List Step) (place : Nat) (row : α) :
    Prop :=
  ∃ past step later, steps = past ++ step :: later ∧ past.length = place ∧
    enters (({} : Store).after past) step row ∧
    Never (fun store step => leaves store step row) (({} : Store).after (past ++ [step])) later

variable {enters leaves : Store → Step → α → Prop} {steps : List Step} {step : Step} {place : Nat}
  {row : α}

private theorem Lives.lt (lives : Lives enters leaves steps place row) : place < steps.length := by
  obtain ⟨past, step, later, rfl, rfl, -⟩ := lives
  simp

/-- What lives has outlived the last step, or entered there. -/
private theorem lives_concat : Lives enters leaves (steps ++ [step]) place row ↔
    Lives enters leaves steps place row ∧ ¬ leaves (({} : Store).after steps) step row ∨
      place = steps.length ∧ enters (({} : Store).after steps) step row := by
  constructor
  · rintro ⟨past, entry, later, split, rfl, entered, kept⟩
    rcases List.eq_nil_or_concat later with rfl | ⟨later, last, rfl⟩
    · obtain ⟨rfl, same⟩ := List.append_inj' split rfl
      cases same
      exact .inr ⟨rfl, entered⟩
    · rw [List.concat_eq_append] at split kept
      rw [← List.cons_append, ← List.append_assoc] at split
      obtain ⟨rfl, same⟩ := List.append_inj' split rfl
      cases same
      obtain ⟨kept, stays⟩ := never_concat.1 kept
      rw [← after_append, List.append_assoc] at stays
      exact .inl ⟨⟨past, entry, later, rfl, rfl, entered, kept⟩, stays⟩
  · rintro (⟨⟨past, entry, later, rfl, rfl, entered, kept⟩, stays⟩ | ⟨rfl, entered⟩)
    · refine ⟨past, entry, later ++ [step], by simp, rfl, entered, never_concat.2 ⟨kept, ?_⟩⟩
      rwa [← after_append, List.append_assoc]
    · exact ⟨steps, step, [], rfl, rfl, entered, trivial⟩

/-- The rows of a table with their places: those that live, in the order in which they entered. -/
structure Records (enters leaves : Store → Step → α → Prop) (steps : List Step) (rows : List α)
    (record : List (Nat × α)) : Prop where
  rows : record.map Prod.snd = rows
  mem : ∀ place row, (place, row) ∈ record ↔ Lives enters leaves steps place row
  ascending : record.Pairwise fun a b => a.1 < b.1

/-- A step drops the rows that leave, and one that enters comes last. -/
def Appends (enters leaves : Store → Step → α → Prop) (store : Store) (step : Step)
    (rows after : List α) : Prop :=
  ∃ keeps : α → Bool, ∃ entered : Option α, after = rows.filter keeps ++ entered.toList ∧
    (∀ row ∈ rows, keeps row = true ↔ ¬ leaves store step row) ∧
    ∀ row, entered = some row ↔ enters store step row

section Appends

variable {store : Store} {rows : List α}

private theorem appends_drop {keeps : α → Bool}
    (kept : ∀ row ∈ rows, keeps row = true ↔ ¬ leaves store step row)
    (still : ∀ row, ¬ enters store step row) :
    Appends enters leaves store step rows (rows.filter keeps) :=
  ⟨keeps, none, (List.append_nil _).symm, kept, fun row => iff_of_false nofun (still row)⟩

private theorem appends_idle (kept : ∀ row ∈ rows, ¬ leaves store step row)
    (still : ∀ row, ¬ enters store step row) : Appends enters leaves store step rows rows := by
  have dropped : Appends enters leaves store step rows (rows.filter fun _ => true) :=
    appends_drop (fun row stored => iff_of_true rfl (kept row stored)) still
  rwa [List.filter_true] at dropped

private theorem appends_entry (kept : ∀ row ∈ rows, ¬ leaves store step row)
    (enter : ∀ other, row = other ↔ enters store step other) :
    Appends enters leaves store step rows (rows ++ [row]) := by
  refine ⟨fun _ => true, some row, by rw [List.filter_true, Option.toList_some], ?_, ?_⟩
  · exact fun other stored => iff_of_true rfl (kept other stored)
  · exact fun other => Option.some_inj.trans (enter other)

end Appends

private theorem Records.concat {rows after : List α} {record : List (Nat × α)}
    (records : Records enters leaves steps rows record)
    (appends : Appends enters leaves (({} : Store).after steps) step rows after) :
    ∃ record, Records enters leaves (steps ++ [step]) after record := by
  obtain ⟨keeps, entered, rfl, kept, enter⟩ := appends
  have stays : ∀ {place row}, (place, row) ∈ record →
      (keeps row = true ↔ ¬ leaves (({} : Store).after steps) step row) := by
    intro place row member
    refine kept row ?_
    rw [← records.rows]
    exact List.mem_map.2 ⟨_, member, rfl⟩
  refine ⟨record.filter (fun entry => keeps entry.2) ++
    entered.toList.map (Prod.mk steps.length), ?_, ?_, ?_⟩
  · have added : (entered.toList.map (Prod.mk steps.length)).map Prod.snd = entered.toList := by
      rw [List.map_map]
      exact List.map_id _
    rw [List.map_append, added, ← records.rows, List.filter_map]
    rfl
  · intro place row
    have added : (place, row) ∈ entered.toList.map (Prod.mk steps.length) ↔
        place = steps.length ∧ enters (({} : Store).after steps) step row := by
      rw [← enter row, List.mem_map]
      constructor
      · rintro ⟨other, member, same⟩
        cases same
        exact ⟨rfl, Option.mem_toList.1 member⟩
      · rintro ⟨rfl, rfl⟩
        exact ⟨row, Option.mem_toList.2 rfl, rfl⟩
    rw [List.mem_append, List.mem_filter, lives_concat, added, ← records.mem place row]
    exact or_congr (and_congr_right fun member => stays member) Iff.rfl
  · refine List.pairwise_append.2 ⟨records.ascending.filter _, ?_, ?_⟩
    · cases entered with
      | none => exact List.Pairwise.nil
      | some row => exact List.pairwise_singleton _ _
    · intro a first b second
      have before : a.1 < steps.length :=
        ((records.mem a.1 a.2).1 (List.mem_filter.1 first).1).lt
      obtain ⟨row, -, rfl⟩ := List.mem_map.1 second
      exact before

/-- A table that drops the rows that leave, and takes one that enters at its end, holds the rows
that live in the order in which they entered. -/
theorem exists_record (rows : Store → List α) (empty : rows {} = [])
    (appends : ∀ {store : Store}, store.Reachable → ∀ step,
      Appends enters leaves store step (rows store) (rows (store.step step))) (steps : List Step) :
    ∃ record, Records enters leaves steps (rows (({} : Store).after steps)) record := by
  induction steps using List.reverseRecOn with
  | nil =>
    refine ⟨[], empty.symm, fun place row => ?_, List.Pairwise.nil⟩
    exact iff_of_false List.not_mem_nil fun lives => absurd lives.lt (Nat.not_lt_zero place)
  | append_singleton steps step ih =>
    obtain ⟨record, records⟩ := ih
    rw [after_concat]
    exact records.concat (appends ⟨steps, rfl⟩ step)

/-- A table from which the rows go that leave, and which takes those that enter, holds the rows that
live. -/
private theorem mem_iff_lives (rows : Store → List α) (empty : rows {} = [])
    (stepped : ∀ {store : Store}, store.Reachable → ∀ step row, row ∈ rows (store.step step) ↔
      row ∈ rows store ∧ ¬ leaves store step row ∨ enters store step row) (steps : List Step)
    (row : α) : row ∈ rows (({} : Store).after steps) ↔
      ∃ place, Lives enters leaves steps place row := by
  induction steps using List.reverseRecOn with
  | nil =>
    refine iff_of_false ?_ fun ⟨place, lives⟩ => absurd lives.lt (Nat.not_lt_zero place)
    rw [show rows (({} : Store).after []) = [] from empty]
    exact List.not_mem_nil
  | append_singleton steps step ih =>
    simp only [lives_concat, exists_or, exists_and_right, exists_eq, true_and, ← ih, after_concat]
    exact stepped ⟨steps, rfl⟩ step row

end Lives

end Store

section Listing

variable {α : Type}

/-- The rows that live are listed by ascending position and at one position by their places, each
once for its place. -/
def Lists (lives : Nat → α → Prop) (position : α → Position) (listed : List α) : Prop :=
  ∃ record : List (Nat × α), record.map Prod.snd = listed ∧
    (∀ place row, (place, row) ∈ record ↔ lives place row) ∧
    record.Pairwise fun a b => (position a.2).value < (position b.2).value ∨
      position a.2 = position b.2 ∧ a.1 < b.1

/-- A stable sort by position lists a table that stands in the order of the places. -/
theorem lists_byPosition (position : α → Position) {lives : Nat → α → Prop} {rows : List α}
    {record : List (Nat × α)} (same : record.map Prod.snd = rows)
    (mem : ∀ place row, (place, row) ∈ record ↔ lives place row)
    (ascending : record.Pairwise fun a b => a.1 < b.1) (own : α → Bool) :
    Lists (fun place row => lives place row ∧ own row = true) position
      (byPosition position (rows.filter own)) := by
  have ranked := byPosition_ranked (fun entry : Nat × α => position entry.2)
    (record.filter fun entry => own entry.2)
  refine ⟨byPosition (fun entry => position entry.2) (record.filter fun entry => own entry.2),
    ?_, ?_, ?_⟩
  · rw [← same, byPosition, sortBy, List.map_mergeSort, byPosition, sortBy, List.filter_map]
    · rfl
    · exact fun _ _ _ _ => rfl
  · intro place row
    rw [byPosition, mem_sortBy, List.mem_filter, mem]
  · refine List.pairwise_iff_forall_sublist.2 fun {a b} both => ?_
    have le : (position a.2).value ≤ (position b.2).value :=
      List.pairwise_iff_forall_sublist.1 ranked.ascending both
    rcases Int.lt_or_eq_of_le le with less | level
    · exact .inl less
    · have level : position a.2 = position b.2 := Position.eq_of_value level
      -- Where the positions agree, the sort has kept the order of the record.
      have part := both.filter fun entry => decide (position entry.2 = position b.2)
      rw [ranked.stable, List.filter_cons_of_pos (by simp [level]),
        List.filter_cons_of_pos (by simp), List.filter_nil] at part
      have order := List.pairwise_iff_forall_sublist.1 ascending
        (part.trans (List.filter_sublist.trans List.filter_sublist))
      exact .inr ⟨level, order⟩

end Listing

/-! ## Rules -/

namespace RuleFamily

/-- A step adds the rule. -/
def Enters (family : RuleFamily) (store : Store) (step : Store.Step)
    (rule : Rule family.Content) : Prop :=
  step = family.addStep rule ∧ store.Accepts (family.adding rule)

/-- A step deletes the rule by its identifier, or its transition. -/
def Leaves (family : RuleFamily) (store : Store) (step : Store.Step)
    (rule : Rule family.Content) : Prop :=
  (step = family.deleteStep rule.id ∧ store.Accepts (family.deleting rule.id)) ∨
    ∃ edge ∈ store.tables.graph.transitions.rows,
      edge.id = rule.transitionId ∧ store.Deletes edge step

variable {store : Store} {family : RuleFamily}

private theorem adding_injective {rule other : Rule family.Content}
    (same : family.adding rule = family.adding other) : rule = other := by
  cases family <;> cases same <;> rfl

private theorem deleting_injective {id other : RuleId}
    (same : family.deleting id = family.deleting other) :
    id = other := by
  cases family <;> cases same <;> rfl

private theorem adding_ne_deleting (rule : Rule family.Content) (id : RuleId) :
    family.adding rule ≠ family.deleting id := by
  cases family <;> rintro ⟨⟩

private theorem adding_ne_deletion (rule : Rule family.Content) (d : Deletion) :
    family.adding rule ≠ d.operation := by
  cases family <;> cases d <;> rintro ⟨⟩

private theorem deleting_ne_deletion (id : RuleId) (d : Deletion) :
    family.deleting id ≠ d.operation := by
  cases family <;> cases d <;> rintro ⟨⟩

private theorem takesRule_iff {d : Deletion} {t : Graph} {rule : Rule family.Content} :
    d.takesRule t rule = true ↔
      ∃ edge ∈ t.transitions.rows, edge.id = rule.transitionId ∧ d.takesEdge edge = true := by
  simp only [Deletion.takesRule, List.any_eq_true, Bool.and_eq_true, beq_iff_eq, and_comm]

/-- The table of a family appends the rules that enter and drops those that leave. -/
private theorem appends (reached : store.Reachable) (step : Store.Step) (family : RuleFamily) :
    Store.Appends family.Enters family.Leaves store step (family.rows store.tables.graph)
      (family.rows (store.step step).tables.graph) := by
  rcases Store.step_deletion_cases reached.linked step with
    ⟨d, rfl, found, left⟩ | ⟨op, kept, rfl, accepts, changes⟩ | ⟨same, unfound, idle⟩
  · rw [left, rows_without]
    refine Store.appends_drop (fun rule _ => ?_) fun rule ⟨same, _⟩ => ?_
    · rw [Bool.not_eq_true', ← Bool.not_eq_true, takesRule_iff]
      refine not_congr ⟨?_, ?_⟩
      · rintro ⟨edge, stored, owns, takes⟩
        exact .inr ⟨edge, stored, owns, d, rfl, takes, found⟩
      · rintro (⟨same, -⟩ | ⟨edge, stored, owns, e, same, takes, -⟩)
        · exact absurd (Store.operation_eq same).symm (deleting_ne_deletion _ d)
        · exact ⟨edge, stored, owns, Deletion.step_injective same ▸ takes⟩
    · exact adding_ne_deletion rule d (Store.operation_eq same).symm
  · have spared : ∀ edge, ¬ store.Deletes edge (.operation (.onGraph op)) :=
      fun edge ⟨d, same, _⟩ => kept d (Store.operation_eq same)
    rcases rows_cases changes kept family with
      ⟨rule, rfl, after⟩ | ⟨id, rfl, after⟩ | ⟨after, notAdding, notDeleting⟩
    · rw [after]
      refine Store.appends_entry ?_ fun other => ⟨?_, ?_⟩
      · rintro other - (⟨same, -⟩ | ⟨edge, -, -, deletes⟩)
        · exact adding_ne_deleting rule _ (Store.operation_eq same)
        · exact spared edge deletes
      · rintro rfl
        exact ⟨rfl, accepts⟩
      · rintro ⟨same, -⟩
        exact adding_injective (Store.operation_eq same)
    · rw [after]
      refine Store.appends_drop (fun rule _ => ?_) fun rule ⟨same, _⟩ => ?_
      · rw [Bool.not_eq_true', beq_eq_false_iff_ne]
        refine not_congr ⟨?_, ?_⟩
        · rintro rfl
          exact .inl ⟨rfl, accepts⟩
        · rintro (⟨same, -⟩ | ⟨edge, -, -, deletes⟩)
          · exact (deleting_injective (Store.operation_eq same)).symm
          · exact absurd deletes (spared edge)
      · exact adding_ne_deleting rule id (Store.operation_eq same).symm
    · rw [after]
      refine Store.appends_idle ?_ fun rule ⟨same, _⟩ => notAdding rule (Store.operation_eq same)
      rintro rule - (⟨same, -⟩ | ⟨edge, -, -, deletes⟩)
      · exact notDeleting _ (Store.operation_eq same)
      · exact spared edge deletes
  · rw [same]
    refine Store.appends_idle ?_ fun rule ⟨named, accepts⟩ =>
      idle _ (adding_ne_deletion rule) named accepts
    rintro rule - (⟨named, accepts⟩ | ⟨edge, -, -, d, named, -, found⟩)
    · exact idle _ (deleting_ne_deletion _) named accepts
    · exact unfound d named found

/-- The rules of a transition are listed as they entered. -/
private theorem lists_listing (steps : List Store.Step) (family : RuleFamily) (id : TransitionId) :
    Lists (fun place rule => Store.Lives family.Enters family.Leaves steps place rule ∧
        rule.transitionId = id) Rule.position
      (family.listing (({} : Store).after steps).tables.graph id) := by
  have empty : family.rows ({} : Store).tables.graph = [] := by
    cases family <;> rfl
  obtain ⟨record, records⟩ := Store.exists_record (fun store => family.rows store.tables.graph)
    empty (fun reached step => family.appends reached step) steps
  have listed := lists_byPosition Rule.position records.rows records.mem records.ascending
    fun rule => rule.transitionId == id
  simp only [beq_iff_eq] at listed
  rw [listing_eq]
  exact listed

end RuleFamily

/-! ## Screen fields -/

namespace Store

/-- A step puts the field. -/
def PutsField (store : Store) (step : Step) (row : ScreenField) : Prop :=
  step = .operation (.onGraph (.putScreenField row)) ∧ store.Accepts (.putScreenField row)

/-- A step takes the field off the screen. -/
def RemovesField (store : Store) (step : Step) (key : ScreenId × FieldRef) : Prop :=
  step = .operation (.onGraph (.removeScreenField key.1 key.2)) ∧
    store.Accepts (.removeScreenField key.1 key.2)

/-- A step puts a field that the screen does not have. -/
def BringsField (store : Store) (step : Step) (key : ScreenId × FieldRef) : Prop :=
  ∃ row, store.PutsField step row ∧ Keyed.key row = key ∧
    ∀ other ∈ store.tables.graph.screenFields, Keyed.key other ≠ key

/-- A step puts the field anew or takes it off the screen. -/
def ReplacesField (store : Store) (step : Step) (row : ScreenField) : Prop :=
  (∃ other, store.PutsField step other ∧ Keyed.key other = Keyed.key row) ∨
    store.RemovesField step (Keyed.key row)

/-- The row was put and not replaced since, and its field has been on the screen since the step that
has the place. -/
def FieldLives (steps : List Step) (place : Nat) (row : ScreenField) : Prop :=
  Lives BringsField RemovesField steps place (Keyed.key row) ∧
    ∃ put, Lives PutsField ReplacesField steps put row

theorem fields_of_changes {op : Graph.Operation} {t after : Graph}
    (changes : Graph.Changes t after op) :
    (∃ row, op = .putScreenField row ∧
        after.screenFields = Table.putRow row t.screenFields) ∨
      (∃ key : ScreenId × FieldRef, op = .removeScreenField key.1 key.2 ∧
        after.screenFields = t.screenFields.filter fun row => !(Keyed.key row == key)) ∨
      after.screenFields = t.screenFields ∧ (∀ row, op ≠ .putScreenField row) ∧
        ∀ key : ScreenId × FieldRef, op ≠ .removeScreenField key.1 key.2 := by
  cases changes with
  | putScreenField row owned => exact .inl ⟨row, rfl, Graph.putScreenFieldRow_eq row _⟩
  | removedScreenField screen field =>
    refine .inr (.inl ⟨(screen, field), rfl, List.filter_congr fun row _ => ?_⟩)
    have same : (row.screenId == screen && row.field == field) =
        (Keyed.key row == (screen, field)) := by
      rw [Bool.eq_iff_iff]
      simp [Keyed.key]
    rw [same]
  | _ => exact .inr (.inr ⟨rfl, by rintro _ ⟨⟩, by rintro _ ⟨⟩⟩)

/-- A step puts a field, takes one off its screen, or does neither. -/
theorem step_fields_cases {store : Store} (step : Step) :
    (∃ row, store.PutsField step row ∧ (store.step step).tables.graph.screenFields =
        Table.putRow row store.tables.graph.screenFields) ∨
      (∃ key, store.RemovesField step key ∧ (store.step step).tables.graph.screenFields =
        store.tables.graph.screenFields.filter fun row => !(Keyed.key row == key)) ∨
      (store.step step).tables.graph.screenFields = store.tables.graph.screenFields ∧
        (∀ row, ¬ store.PutsField step row) ∧ ∀ key, ¬ store.RemovesField step key := by
  rcases store.step_accepts_cases step with ⟨same, idle⟩ | ⟨op, rfl, accepts, changes⟩
  · exact .inr (.inr ⟨by rw [same], fun row ⟨named, accepts⟩ => idle _ named accepts,
      fun key ⟨named, accepts⟩ => idle _ named accepts⟩)
  · rcases fields_of_changes changes with
      ⟨row, rfl, after⟩ | ⟨key, rfl, after⟩ | ⟨after, puts, removes⟩
    · exact .inl ⟨row, ⟨rfl, accepts⟩, after⟩
    · exact .inr (.inl ⟨key, ⟨rfl, accepts⟩, after⟩)
    · exact .inr (.inr ⟨after, fun row put => puts row (operation_eq put.1),
        fun key removed => removes key (operation_eq removed.1)⟩)

/-- A step that puts a field takes none off its screen. -/
private theorem PutsField.not_removes {store : Store} {step : Step} {row : ScreenField}
    (put : store.PutsField step row) (key : ScreenId × FieldRef) :
    ¬ store.RemovesField step key := by
  rintro ⟨removed, -⟩
  cases operation_eq (put.1.symm.trans removed)

private theorem PutsField.unique {store : Store} {step : Step} {row other : ScreenField}
    (put : store.PutsField step row) (too : store.PutsField step other) : row = other := by
  cases operation_eq (put.1.symm.trans too.1)
  rfl

private theorem RemovesField.not_puts {store : Store} {step : Step} {key : ScreenId × FieldRef}
    (removed : store.RemovesField step key) (row : ScreenField) : ¬ store.PutsField step row :=
  fun put => put.not_removes key removed

private theorem RemovesField.unique {store : Store} {step : Step} {key other : ScreenId × FieldRef}
    (removed : store.RemovesField step key) (too : store.RemovesField step other) :
    key = other := by
  obtain ⟨screen, field⟩ := key
  cases operation_eq (removed.1.symm.trans too.1)
  rfl

/-- Putting a row in the place of one with its key changes no key. -/
private theorem keys_putRow {row : ScreenField} {rows : List ScreenField}
    (there : ∃ other ∈ rows, Keyed.key other = Keyed.key row) :
    (Table.putRow row rows).map Keyed.key = rows.map Keyed.key := by
  induction rows with
  | nil => exact absurd there (by simp)
  | cons first rest ih =>
    rw [Table.putRow]
    by_cases same : Keyed.key first = Keyed.key row
    · rw [if_pos same, List.map_cons, List.map_cons, same]
    · obtain ⟨other, stored, fits⟩ := there
      have later : other ∈ rest := by
        refine (List.mem_cons.1 stored).resolve_left ?_
        rintro rfl
        exact same fits
      rw [if_neg same, List.map_cons, List.map_cons, ih ⟨other, later, fits⟩]

/-- The keys of the fields enter at the end and leave where the fields are taken off. -/
private theorem appends_fields {store : Store} (step : Step) :
    Appends BringsField RemovesField store step
      (store.tables.graph.screenFields.map Keyed.key)
      ((store.step step).tables.graph.screenFields.map Keyed.key) := by
  rcases store.step_fields_cases step with
    ⟨row, put, after⟩ | ⟨key, removed, after⟩ | ⟨after, puts, removes⟩
  · rw [after]
    by_cases there : ∃ other ∈ store.tables.graph.screenFields, Keyed.key other = Keyed.key row
    · rw [keys_putRow there]
      refine appends_idle (fun key _ => put.not_removes key) ?_
      rintro key ⟨other, putToo, rfl, fresh⟩
      obtain ⟨stored, member, same⟩ := there
      rw [put.unique putToo] at same
      exact fresh stored member same
    · have fresh : ∀ other ∈ store.tables.graph.screenFields, Keyed.key other ≠ Keyed.key row :=
        fun other stored same => there ⟨other, stored, same⟩
      rw [Table.putRow_of_fresh fresh, List.map_append]
      refine appends_entry (fun key _ => put.not_removes key) fun key => ⟨?_, ?_⟩
      · rintro rfl
        exact ⟨row, put, rfl, fresh⟩
      · rintro ⟨other, putToo, rfl, -⟩
        rw [put.unique putToo]
  · have dropped : (store.step step).tables.graph.screenFields.map Keyed.key =
        (store.tables.graph.screenFields.map Keyed.key).filter fun other => !(other == key) := by
      rw [after, List.filter_map]
      rfl
    rw [dropped]
    refine appends_drop (fun other _ => ?_) ?_
    · rw [Bool.not_eq_true', beq_eq_false_iff_ne]
      refine not_congr ⟨?_, fun too => (removed.unique too).symm⟩
      rintro rfl
      exact removed
    · rintro other ⟨row, put, -⟩
      exact removed.not_puts row put
  · rw [after]
    refine appends_idle (fun key _ => removes key) ?_
    rintro key ⟨row, put, -⟩
    exact puts row put

/-- The rows of the screens are those that were put and not replaced since. -/
private theorem mem_fields_step {store : Store} (reached : store.Reachable) (step : Step)
    (row : ScreenField) : row ∈ (store.step step).tables.graph.screenFields ↔
      row ∈ store.tables.graph.screenFields ∧ ¬ store.ReplacesField step row ∨
        store.PutsField step row := by
  rcases store.step_fields_cases step with
    ⟨other, put, after⟩ | ⟨key, removed, after⟩ | ⟨after, puts, removes⟩
  · have replaced : store.ReplacesField step row ↔ Keyed.key row = Keyed.key other := by
      constructor
      · rintro (⟨again, too, same⟩ | removed)
        · rw [← same, put.unique too]
        · exact absurd removed (put.not_removes _)
      · exact fun same => .inl ⟨other, put, same.symm⟩
    have putIff : store.PutsField step row ↔ row = other :=
      ⟨fun too => too.unique put, fun same => same ▸ put⟩
    let table : Table ScreenField :=
      ⟨store.tables.graph.screenFields, reached.naturalKeys.graph.screenField⟩
    have member : row ∈ (table.put other).rows ↔
        row = other ∨ row ∈ table.rows ∧ Keyed.key row ≠ Keyed.key other := Table.mem_put
    rw [after, replaced, putIff]
    exact member.trans or_comm
  · have replaced : store.ReplacesField step row ↔ Keyed.key row = key := by
      constructor
      · rintro (⟨other, put, -⟩ | too)
        · exact absurd put (removed.not_puts other)
        · exact too.unique removed
      · rintro rfl
        exact .inr removed
    rw [after, List.mem_filter, replaced, or_iff_left (removed.not_puts row), Bool.not_eq_true',
      beq_eq_false_iff_ne]
  · have kept : ¬ store.ReplacesField step row := by
      rintro (⟨other, put, -⟩ | removed)
      · exact puts other put
      · exact removes _ removed
    rw [after, and_iff_left kept, or_iff_left (puts row)]

/-- Rows whose keys are in a record are in one of the same places. -/
private theorem exists_record_of_keys {α κ : Type} {key : α → κ} {rows : List α}
    {record : List (Nat × κ)} (same : record.map Prod.snd = rows.map key) :
    ∃ placed : List (Nat × α), placed.map Prod.snd = rows ∧
      placed.map (fun entry => (entry.1, key entry.2)) = record := by
  induction record generalizing rows with
  | nil =>
    cases rows with
    | nil => exact ⟨[], rfl, rfl⟩
    | cons row rest => cases same
  | cons entry record ih =>
    cases rows with
    | nil => cases same
    | cons row rest =>
      obtain ⟨fits, others⟩ := List.cons.inj same
      obtain ⟨placed, listed, keys⟩ := ih others
      refine ⟨(entry.1, row) :: placed, by rw [List.map_cons, listed], ?_⟩
      rw [List.map_cons, keys, ← fits]

/-- The fields of all screens, in the order in which they came there. -/
private theorem exists_field_record (steps : List Step) : ∃ record : List (Nat × ScreenField),
    record.map Prod.snd = (({} : Store).after steps).tables.graph.screenFields ∧
      (∀ place row, (place, row) ∈ record ↔ FieldLives steps place row) ∧
      record.Pairwise fun a b => a.1 < b.1 := by
  have reached : (({} : Store).after steps).Reachable := ⟨steps, rfl⟩
  have distinct := reached.naturalKeys.graph.screenField
  have put : ∀ row, row ∈ (({} : Store).after steps).tables.graph.screenFields ↔
      ∃ place, Lives PutsField ReplacesField steps place row :=
    mem_iff_lives (fun store => store.tables.graph.screenFields) rfl mem_fields_step steps
  obtain ⟨keys, records⟩ := exists_record
    (fun store => store.tables.graph.screenFields.map Keyed.key) rfl
    (fun _ step => appends_fields step) steps
  obtain ⟨record, listed, rfl⟩ := exists_record_of_keys records.rows
  have stored : ∀ {entry}, entry ∈ record →
      entry.2 ∈ (({} : Store).after steps).tables.graph.screenFields := by
    intro entry member
    rw [← listed]
    exact List.mem_map.2 ⟨entry, member, rfl⟩
  refine ⟨record, listed, fun place row => ⟨fun member => ?_, ?_⟩, ?_⟩
  · exact ⟨(records.mem place _).1 (List.mem_map.2 ⟨_, member, rfl⟩), (put row).1 (stored member)⟩
  · rintro ⟨brought, lives⟩
    obtain ⟨entry, member, same⟩ := List.mem_map.1 ((records.mem place _).2 brought)
    obtain ⟨rfl, fits⟩ := Prod.mk.inj same
    have equal : entry.2 = row :=
      List.inj_on_of_nodup_map distinct (stored member) ((put row).2 lives) fits
    rwa [← equal]
  · have ascending := List.pairwise_map.1 records.ascending
    exact ascending

/-- The fields of a screen are listed as they came there. -/
private theorem lists_screenFieldsOf (steps : List Step) (screen : ScreenId) :
    Lists (fun place row => FieldLives steps place row ∧ row.screenId = screen)
      ScreenField.position ((({} : Store).after steps).tables.graph.screenFieldsOf screen) := by
  obtain ⟨record, same, mem, ascending⟩ := exists_field_record steps
  have listed := lists_byPosition ScreenField.position same mem ascending
    fun row => row.screenId == screen
  simp only [beq_iff_eq] at listed
  exact listed

/-! ## Statuses -/

/-- A step puts the status. -/
def PutsStatus (store : Store) (step : Step) (status : Status) : Prop :=
  step = .operation (.onGraph (.putStatus status)) ∧ store.Accepts (.putStatus status)

/-- A step puts the status anew, or deletes it or its workflow. -/
def ReplacesStatus (store : Store) (step : Step) (status : Status) : Prop :=
  (∃ other, store.PutsStatus step other ∧ other.id = status.id) ∨
    ∃ d : Deletion, step = d.step ∧ d.takesStatus status = true ∧
      (store.update d.carryOut).1 = .ok true

theorem statuses_of_changes {op : Graph.Operation} {t after : Graph}
    (changes : Graph.Changes t after op) (kept : ∀ d : Deletion, op ≠ d.operation) :
    (∃ status, op = .putStatus status ∧ after.statuses = t.statuses.put status) ∨
      after.statuses = t.statuses ∧ ∀ status, op ≠ .putStatus status := by
  cases changes with
  | putStatus status => exact .inl ⟨status, rfl, rfl⟩
  | deletedWorkflow id | noWorkflow id => exact absurd rfl (kept (.workflow id))
  | deletedStatus id | noStatus id => exact absurd rfl (kept (.status id))
  | deletedTransition id => exact absurd rfl (kept (.transition id))
  | _ => exact .inr ⟨rfl, by rintro _ ⟨⟩⟩

private theorem putStatus_ne_deletion (status : Status) (d : Deletion) :
    .putStatus status ≠ d.operation := by
  cases d <;> rintro ⟨⟩

/-- The statuses are those that were put and not replaced since. -/
private theorem mem_statuses_step {store : Store} (reached : store.Reachable) (step : Step)
    (status : Status) : status ∈ (store.step step).tables.graph.statuses.rows ↔
      status ∈ store.tables.graph.statuses.rows ∧ ¬ store.ReplacesStatus step status ∨
        store.PutsStatus step status := by
  rcases step_deletion_cases reached.linked step with
    ⟨d, rfl, found, left⟩ | ⟨op, kept, rfl, accepts, changes⟩ | ⟨same, unfound, idle⟩
  · have replaced : store.ReplacesStatus d.step status ↔ d.takesStatus status = true := by
      constructor
      · rintro (⟨other, ⟨put, -⟩, -⟩ | ⟨e, named, takes, -⟩)
        · exact absurd (operation_eq put).symm (putStatus_ne_deletion other d)
        · exact Deletion.step_injective named ▸ takes
      · exact fun takes => .inr ⟨d, rfl, takes, found⟩
    have still : ¬ store.PutsStatus d.step status :=
      fun put => putStatus_ne_deletion status d (operation_eq put.1).symm
    rw [left, replaced, or_iff_left still, Bool.not_eq_true]
    show status ∈ (store.tables.graph.statuses.filter fun row => !d.takesStatus row).rows ↔ _
    rw [Table.mem_filter, Bool.not_eq_true']
  · have spared : ∀ d : Deletion, Step.operation (.onGraph op) ≠ d.step :=
      fun d same => kept d (operation_eq same)
    rcases statuses_of_changes changes kept with ⟨other, rfl, after⟩ | ⟨after, puts⟩
    · have replaced : store.ReplacesStatus (.operation (.onGraph (.putStatus other))) status ↔
          status.id = other.id := by
        constructor
        · rintro (⟨again, ⟨named, -⟩, same⟩ | ⟨d, named, -⟩)
          · cases operation_eq named
            exact same.symm
          · exact absurd named (spared d)
        · exact fun same => .inl ⟨other, ⟨rfl, accepts⟩, same.symm⟩
      have putIff : store.PutsStatus (.operation (.onGraph (.putStatus other))) status ↔
          status = other := by
        constructor
        · rintro ⟨named, -⟩
          cases operation_eq named
          rfl
        · rintro rfl
          exact ⟨rfl, accepts⟩
      rw [after, replaced, putIff, Table.mem_put]
      exact or_comm
    · have still : ∀ other, ¬ store.PutsStatus (.operation (.onGraph op)) other :=
        fun other put => puts other (operation_eq put.1)
      have stays : ¬ store.ReplacesStatus (.operation (.onGraph op)) status := by
        rintro (⟨other, put, -⟩ | ⟨d, named, -⟩)
        · exact still other put
        · exact spared d named
      rw [after, and_iff_left stays, or_iff_left (still status)]
  · have still : ∀ other, ¬ store.PutsStatus step other :=
      fun other ⟨named, accepts⟩ => idle _ (putStatus_ne_deletion other) named accepts
    have stays : ¬ store.ReplacesStatus step status := by
      rintro (⟨other, put, -⟩ | ⟨d, named, -, found⟩)
      · exact still other put
      · exact unfound d named found
    rw [same, and_iff_left stays, or_iff_left (still status)]

/-- The listing of a workflow has the statuses that were put there and not replaced since. -/
private theorem mem_statusesOf_iff (steps : List Step) (workflow : WorkflowId) (status : Status) :
    status ∈ (({} : Store).after steps).tables.graph.statusesOf workflow ↔
      (∃ place, Lives PutsStatus ReplacesStatus steps place status) ∧
        status.workflowId = workflow := by
  rw [Graph.statusesOf, mem_sortBy, List.mem_filter, beq_iff_eq, ← mem_iff_lives
    (fun store => store.tables.graph.statuses.rows) rfl mem_statuses_step steps]

end Store

namespace Graph

variable (t : Graph) (workflow : WorkflowId)

private theorem nodup_statusesOf : (t.statusesOf workflow).Nodup := by
  rw [statusesOf, (sortBy_perm _ _).nodup_iff]
  exact (List.Nodup.of_map _ t.statuses.distinct).filter _

/-- The statuses of a workflow are listed by position, and at one position by name. -/
private theorem pairwise_statusesOf : (t.statusesOf workflow).Pairwise fun a b =>
    a.position.value < b.position.value ∨ a.position = b.position ∧ a.name ≤ b.name := by
  have level : Std.TransOrd Position := inferInstanceAs (Std.TransCmp (compareOn Position.value))
  have transitive : Std.TransCmp fun a b : Status =>
      (compare a.position b.position).then (compare a.name b.name) :=
    inferInstanceAs (Std.TransCmp (compareLex (compareOn Status.position) (compareOn Status.name)))
  refine (pairwise_sortBy _).imp ?_
  intro a b le
  rcases Ordering.isLE_then_iff_or.1 le with less | ⟨same, le⟩
  · have less : compare a.position.value b.position.value = .lt := less
    exact .inl (Std.compare_eq_lt.1 less)
  · have same : compare a.position.value b.position.value = .eq := same
    refine .inr ⟨Position.eq_of_value (Std.LawfulEqCmp.eq_of_compare same), ?_⟩
    rcases Ordering.isLE_iff_eq_lt_or_eq_eq.1 le with below | equal
    · exact le_of_lt (text_lt_of_compare below)
    · exact le_of_eq (Std.LawfulEqCmp.eq_of_compare equal)

end Graph

section InitialStatus

variable {store : Store} {workflow : WorkflowId}

private theorem initialStatus_run_eq_ok_iff {status : Status} :
    (Route.initialStatus workflow).run store = .ok status ↔
      store.unavailable = false ∧
        (store.tables.graph.statusesOf workflow).head? = some status := by
  constructor
  · exact Query.lookFor_run_ok
  · rintro ⟨available, first⟩
    exact (Query.lookFor_run_eq_ok_iff available).2 first

/-- There is no initial status where a workflow has no status. -/
private theorem initialStatus_run_eq_notFound_iff :
    (∃ what, (Route.initialStatus workflow).run store = .error (.notFound what)) ↔
      store.unavailable = false ∧ store.tables.graph.statusesOf workflow = [] := by
  cases switch : store.unavailable with
  | true =>
    have failed : (Route.initialStatus workflow).run store = .error (.storage .outage) := by
      rw [Route.initialStatus, Query.lookFor, Query.run_bind, Query.run_look, Store.read,
        if_pos switch]
      rfl
    rw [failed]
    exact iff_of_false (by rintro ⟨what, ⟨⟩⟩) (by rintro ⟨⟨⟩, -⟩)
  | false =>
    rw [Route.initialStatus, Query.lookFor_run switch, ← List.head?_eq_none_iff]
    cases (store.tables.graph.statusesOf workflow).head? with
    | none => exact iff_of_true ⟨_, rfl⟩ ⟨rfl, rfl⟩
    | some status => exact iff_of_false (by rintro ⟨what, ⟨⟩⟩) (by rintro ⟨-, ⟨⟩⟩)

/-- The initial status is at the lowest position. -/
private theorem initialStatus_lowest {status : Status}
    (first : (store.tables.graph.statusesOf workflow).head? = some status) :
    status ∈ store.tables.graph.statusesOf workflow ∧
      ∀ other ∈ store.tables.graph.statusesOf workflow,
        status.position.value ≤ other.position.value := by
  obtain ⟨rest, listed⟩ := List.head?_eq_some_iff.1 first
  have ascending : (store.tables.graph.statusesOf workflow).Pairwise fun a b =>
      a.position.value ≤ b.position.value := by
    refine (store.tables.graph.pairwise_statusesOf workflow).imp ?_
    rintro a b (less | ⟨level, -⟩)
    · exact Int.le_of_lt less
    · rw [level]
  rw [listed] at ascending ⊢
  exact ⟨List.mem_cons_self, fun other member => least_of_ascending ascending member⟩

end InitialStatus

/-- How a workflow is listed after a run. -/
structure Store.ListsStatuses (steps : List Store.Step) (workflow : WorkflowId) : Prop where
  once : ((({} : Store).after steps).tables.graph.statusesOf workflow).Nodup
  mem : ∀ status, status ∈ (({} : Store).after steps).tables.graph.statusesOf workflow ↔
    (∃ place, Store.Lives Store.PutsStatus Store.ReplacesStatus steps place status) ∧
      status.workflowId = workflow
  ascending : ((({} : Store).after steps).tables.graph.statusesOf workflow).Pairwise fun a b =>
    a.position.value < b.position.value ∨ a.position = b.position ∧ a.name ≤ b.name
  /-- The initial status is the first of them, and so at the lowest position. -/
  initial : ∀ status, (Route.initialStatus workflow).run (({} : Store).after steps) = .ok status →
    status ∈ (({} : Store).after steps).tables.graph.statusesOf workflow ∧
      ∀ other ∈ (({} : Store).after steps).tables.graph.statusesOf workflow,
        status.position.value ≤ other.position.value
  /-- Outages aside there is an initial status unless there is no status at all. -/
  found : (∃ status, (Route.initialStatus workflow).run (({} : Store).after steps) = .ok status) ↔
    (({} : Store).after steps).unavailable = false ∧
      (({} : Store).after steps).tables.graph.statusesOf workflow ≠ []
  missing : (∃ what, (Route.initialStatus workflow).run (({} : Store).after steps) =
      .error (.notFound what)) ↔
    (({} : Store).after steps).unavailable = false ∧
      (({} : Store).after steps).tables.graph.statusesOf workflow = []

/-- After every run the rules of a transition and the fields of a screen are listed by position, and
at one position in the order in which they came in: all that were added and not ended since, each
once. A field that is put again keeps its place. The statuses of a workflow are listed by position
and name, and the first of them is its initial status. -/
theorem listings_ordered (steps : List Store.Step) :
    (∀ (family : RuleFamily) (id : TransitionId),
      Lists (fun place rule => Store.Lives family.Enters family.Leaves steps place rule ∧
          rule.transitionId = id) Rule.position
        (family.listing (({} : Store).after steps).tables.graph id)) ∧
    (∀ screen : ScreenId,
      Lists (fun place row => Store.FieldLives steps place row ∧ row.screenId = screen)
        ScreenField.position ((({} : Store).after steps).tables.graph.screenFieldsOf screen)) ∧
    ∀ workflow : WorkflowId, Store.ListsStatuses steps workflow := by
  refine ⟨RuleFamily.lists_listing steps, Store.lists_screenFieldsOf steps, fun workflow => ?_⟩
  refine ⟨Graph.nodup_statusesOf _ workflow, Store.mem_statusesOf_iff steps workflow,
    Graph.pairwise_statusesOf _ workflow, ?_, ?_, initialStatus_run_eq_notFound_iff⟩
  · intro status answered
    exact initialStatus_lowest (initialStatus_run_eq_ok_iff.1 answered).2
  · simp only [initialStatus_run_eq_ok_iff, exists_and_left, ← Option.isSome_iff_exists,
      List.isSome_head?, ne_eq]

/-- A field that is put again stays before one that came to the same position later. -/
example : (({} : Store).after [
    .operation (.onGraph (.createScreen ⟨⟨"S"⟩, "Close", none⟩)),
    .operation (.onGraph (.putScreenField ⟨⟨"S"⟩, .standard .summary, false, Sample.position 1⟩)),
    .operation (.onGraph (.putScreenField ⟨⟨"S"⟩, .standard .labels, false, Sample.position 1⟩)),
    .operation (.onGraph (.putScreenField
      ⟨⟨"S"⟩, .standard .priority, true, Sample.position (-1)⟩)),
    .operation (.onGraph (.putScreenField ⟨⟨"S"⟩, .standard .summary, true, Sample.position 1⟩))
    ]).tables.graph.screenFieldsOf ⟨"S"⟩ = [
      ⟨⟨"S"⟩, .standard .priority, true, Sample.position (-1)⟩,
      ⟨⟨"S"⟩, .standard .summary, true, Sample.position 1⟩,
      ⟨⟨"S"⟩, .standard .labels, false, Sample.position 1⟩] :=
  byPosition_eq (by decide +kernel)

end IssueFlow
