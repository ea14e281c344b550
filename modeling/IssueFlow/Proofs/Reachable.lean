import IssueFlow.Proofs.Operations

/-!
# Reachable stores

A run of the store is a list of steps. A step carries out an operation, throws the switch or lets
time pass. A store is reachable when steps lead to it from the empty store. What each step
preserves, every run preserves (`Store.Leads.preserves`), and a run has a past: every store that it
passed through.
-/

namespace IssueFlow

namespace Store

inductive Step where
  | operation (op : Tables.Operation)
  /-- Takes the tables out of reach, or brings them back. -/
  | switch (unavailable : Bool)
  | tick (now : Timestamp)

/-- The store after a step. -/
def step (store : Store) : Step → Store
  | .operation op => (store.update (op.apply store.now)).2
  | .switch unavailable => { store with unavailable }
  | .tick now => { store with now }

/-- The store after some steps, one after the other. -/
def after (store : Store) (steps : List Step) : Store :=
  steps.foldl step store

/-- Steps lead from one store to another. -/
def Leads (store later : Store) : Prop :=
  ∃ steps, later = store.after steps

/-- Steps lead to the store from the empty one. -/
def Reachable (store : Store) : Prop :=
  Leads {} store

theorem after_append (store : Store) (first second : List Step) :
    store.after (first ++ second) = (store.after first).after second :=
  List.foldl_append

theorem after_concat (store : Store) (steps : List Step) (step : Step) :
    store.after (steps ++ [step]) = (store.after steps).step step :=
  after_append ..

/-- At no step of a run it happens. -/
def Never (happens : Store → Step → Prop) : Store → List Step → Prop
  | _, [] => True
  | store, step :: steps => ¬ happens store step ∧ Never happens (store.step step) steps

theorem never_concat {happens : Store → Step → Prop} {store : Store} {steps : List Step}
    {step : Step} : Never happens store (steps ++ [step]) ↔
      Never happens store steps ∧ ¬ happens (store.after steps) step := by
  induction steps generalizing store with
  | nil => exact and_comm
  | cons first steps ih => exact (and_congr_right fun _ => ih).trans and_assoc.symm

instance : IsPreorder Store Leads where
  refl _ := ⟨[], rfl⟩
  trans := by
    rintro first second third ⟨before, rfl⟩ ⟨later, rfl⟩
    exact ⟨before ++ later, (after_append ..).symm⟩

/-- Steps of one kind lead from one store to another. -/
def LeadsBy (Allowed : Step → Prop) (store later : Store) : Prop :=
  ∃ steps, (∀ step ∈ steps, Allowed step) ∧ later = store.after steps

instance (Allowed : Step → Prop) : IsPreorder Store (LeadsBy Allowed) where
  refl _ := ⟨[], by simp, rfl⟩
  trans := by
    rintro first second third ⟨before, allowed, rfl⟩ ⟨later, allowedLater, rfl⟩
    refine ⟨before ++ later, ?_, (after_append ..).symm⟩
    intro step member
    rcases List.mem_append.1 member with first | second
    · exact allowed step first
    · exact allowedLater step second

theorem LeadsBy.leads {Allowed : Step → Prop} {store later : Store}
    (led : LeadsBy Allowed store later) : Leads store later := by
  obtain ⟨steps, -, same⟩ := led
  exact ⟨steps, same⟩

/-- A relation that holds across every step of a kind holds across every run of such steps. -/
theorem LeadsBy.related {Allowed : Step → Prop} {R : Store → Store → Prop} [IsPreorder Store R]
    (stepped : ∀ store step, Allowed step → R store (store.step step)) {store later : Store}
    (led : LeadsBy Allowed store later) : R store later := by
  obtain ⟨steps, allowed, rfl⟩ := led
  induction steps generalizing store with
  | nil => exact Std.Refl.refl store
  | cons step steps ih =>
    obtain ⟨first, rest⟩ := List.forall_mem_cons.1 allowed
    exact IsTrans.trans _ _ _ (stepped store step first) (ih rest)

/-- A relation that holds across every step holds across every run. -/
theorem Leads.related {R : Store → Store → Prop} [IsPreorder Store R]
    (stepped : ∀ store step, R store (store.step step)) {store later : Store}
    (led : Leads store later) : R store later := by
  obtain ⟨steps, same⟩ := led
  exact LeadsBy.related (fun store step _ => stepped store step)
    ⟨steps, fun _ _ => trivial, same⟩

/-- What every step preserves, every run preserves. -/
theorem Leads.preserves {Holds : Store → Prop}
    (stepped : ∀ store step, Holds store → Holds (store.step step)) {store later : Store}
    (led : Leads store later) (holds : Holds store) : Holds later := by
  obtain ⟨steps, rfl⟩ := led
  induction steps generalizing store with
  | nil => exact holds
  | cons step steps ih => exact ih (stepped store step holds)

theorem update_of_available {α : Type} {store : Store} (available : store.unavailable = false)
    (op : Change Tables α) : store.update op =
      ((op.run store.tables).1, { store with tables := (op.run store.tables).2 }) := by
  rw [update, available]
  rfl

theorem update_of_run {α : Type} {store : Store} (available : store.unavailable = false)
    {op : Change Tables α} {answer : Except StorageError α} {tables : Tables}
    (done : op.run store.tables = (answer, tables)) :
    store.update op = (answer, { store with tables }) := by
  rw [update_of_available available, done]

theorem update_within {σ α : Type} {store : Store} (available : store.unavailable = false)
    {part : Tables → σ} {put : σ → Tables → Tables} {op : Change σ α}
    {answer : Except StorageError α} {inner : σ}
    (done : op.run (part store.tables) = (answer, inner)) :
    store.update (op.within part put) =
      (answer, { store with tables := put inner store.tables }) := by
  rw [update_of_available available, within_run, done]

section Groups

variable {α : Type} {store : Store} (available : store.unavailable = false)
  {answer : Except StorageError α}

include available

theorem update_onGrants {op : Change Grants α} {grants : Grants}
    (done : op.run store.tables.grants = (answer, grants)) :
    store.update (Tables.onGrants op) = (answer, { store with tables.grants := grants }) :=
  update_within available done

theorem update_onMembership {op : Change Membership α} {membership : Membership}
    (done : op.run store.tables.membership = (answer, membership)) :
    store.update (Tables.onMembership op) =
      (answer, { store with tables.membership := membership }) :=
  update_within available done

theorem update_onGraph {op : Change Graph α} {graph : Graph}
    (done : op.run store.tables.graph = (answer, graph)) :
    store.update (Tables.onGraph op) = (answer, { store with tables.graph := graph }) :=
  update_within available done

theorem update_onIssueLog {op : Change IssueLog α} {log : IssueLog}
    (done : op.run store.tables.issueLog = (answer, log)) :
    store.update (Tables.onIssueLog op) = (answer, { store with tables.issueLog := log }) :=
  update_within available done

end Groups

/-- What is answered makes no difference to what is written. -/
theorem update_answering {σ α : Type} (store : Store) (wrap : α → Answer) {part : Tables → σ}
    {put : σ → Tables → Tables} (op : Change σ α) :
    (store.update ((answering wrap op).within part put)).2 =
      (store.update (op.within part put)).2 := by
  cases available : store.unavailable with
  | true => rw [update, update, if_pos available, if_pos available]
  | false =>
    rw [update_of_available available, update_of_available available]
    show ({ store with
      tables := put ((answering wrap op).run (part store.tables)).2 store.tables } : Store) = _
    rw [answering, map_run]
    rfl

/-- An operation fails and leaves the store, or answers and changes nothing but its tables. -/
theorem update_cases {α : Type} (store : Store) {op : Change Tables α} (clean : FailsClean op) :
    (∃ e, store.update op = (.error e, store)) ∨
      ∃ answer tables, store.unavailable = false ∧ op.run store.tables = (.ok answer, tables) ∧
        store.update op = (.ok answer, { store with tables }) := by
  rcases Bool.eq_false_or_eq_true store.unavailable with unavailable | available
  · exact .inl ⟨.outage, by rw [update, if_pos unavailable]⟩
  · rcases done : op.run store.tables with ⟨e | answer, tables⟩
    · rw [update_of_run available done, clean _ _ _ done]
      exact .inl ⟨e, rfl⟩
    · exact .inr ⟨answer, tables, available, rfl, update_of_run available done⟩

/-- A step changes tables by an operation that answers, or not at all. -/
theorem step_cases (store : Store) (step : Step) :
    (store.step step).tables = store.tables ∨
      ∃ op answer, step = .operation op ∧
        (op.apply store.now).run store.tables = (.ok answer, (store.step step).tables) := by
  cases step with
  | switch unavailable => exact .inl rfl
  | tick now => exact .inl rfl
  | operation op =>
    rcases update_cases store (op.failsClean store.now) with
      ⟨e, failed⟩ | ⟨answer, tables, -, done, updated⟩
    · exact .inl (by rw [Store.step, failed])
    · exact .inr ⟨op, answer, rfl, by rw [Store.step, updated]; exact done⟩

end Store

/-! ## A small store -/

namespace Sample

def reporter : User :=
  ⟨⟨"ann"⟩, "ann", "Ann", false, true, ⟨0, 0⟩⟩

def issue : Issue where
  id := ⟨"I1"⟩
  key := "WEB-1"
  projectId := ⟨"P1"⟩
  issueTypeId := ⟨"task"⟩
  statusId := ⟨"open"⟩
  parentId := none
  summary := "Move the sign"
  description := none
  priority := none
  reporterId := reporter.id
  assigneeId := none
  resolution := none
  dueDate := none
  labels := []
  customFields := .empty
  createdAt := ⟨0, 0⟩
  updatedAt := ⟨0, 0⟩

/-- One issue in a workflow of two statuses. Its only edge is open to the reporter and asks for a
comment; the post-function behind it fails, for the project has no lead. -/
def steps : List Store.Step := [
  .operation (.onAccounts (.putUser reporter)),
  .operation (.onGrants (.createScheme ⟨⟨"PS"⟩, "rights", none, true, ⟨0, 0⟩⟩)),
  .operation (.onGrants (.grant ⟨"PS"⟩ .transitionIssues (.user reporter.id))),
  .operation (.onGraph (.createWorkflow ⟨⟨"W"⟩, "flow", none, true, ⟨0, 0⟩⟩)),
  .operation (.onGraph (.putStatus ⟨⟨"open"⟩, ⟨"W"⟩, "Open", .todo, ⟨0, by decide⟩⟩)),
  .operation (.onGraph (.putStatus ⟨⟨"done"⟩, ⟨"W"⟩, "Done", .done, ⟨1, by decide⟩⟩)),
  .operation (.onGraph (.putTransition ⟨⟨"W"⟩, ⟨"open"⟩, ⟨"done"⟩, "Finish", none⟩)),
  .operation (.onGraph (.addCondition ⟨⟨"R1"⟩, ⟨"T1"⟩, .onlyReporter, ⟨0, by decide⟩⟩)),
  .operation (.onGraph (.addValidator
    ⟨⟨"R2"⟩, ⟨"T1"⟩, ⟨.commentRequired, none⟩, ⟨0, by decide⟩⟩)),
  .operation (.onGraph (.addPostFunction ⟨⟨"R3"⟩, ⟨"T1"⟩, .assignToLead, ⟨0, by decide⟩⟩)),
  .operation (.onGraph (.createScheme ⟨⟨"WS"⟩, "work", none, ⟨0, 0⟩⟩)),
  .operation (.onGraph (.putMapping ⟨⟨"WS"⟩, none, ⟨"W"⟩⟩)),
  .operation (.onProjects (.create
    ⟨⟨"P1"⟩, "WEB", "Web", none, ⟨"PS"⟩, some ⟨"WS"⟩, ⟨0, 0⟩⟩)),
  .operation (.onIssueLog (.createIssue issue reporter.id))]

def store : Store :=
  ({} : Store).after steps

def edge : Transition :=
  ⟨⟨"T1"⟩, ⟨"W"⟩, ⟨"open"⟩, ⟨"done"⟩, "Finish", none⟩

def world : World :=
  ⟨store, .ofCapacity 4, []⟩

def submission : Submission :=
  { comment := some "done and dusted" }

/-- The position of that number, or 0 where it does not have 32 bits. -/
def position (n : Int) : Position :=
  (Position.ofInt? n).getD ⟨0, by decide⟩

end Sample

end IssueFlow
