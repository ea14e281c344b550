import IssueFlow.Store.Basic

/-!
# Queries

A query looks at the tables one reading at a time and never changes them. It can be run on a store,
or with an outage that begins at any of its readings.
-/

namespace IssueFlow

/-- An error type in which the failure of a reading can be told. -/
class OfStorage (ε : Type) where
  ofStorage : StorageError → ε

/-- Readings of the tables, each answered before the next is chosen. A reading that fails ends the
query with the error that stands beside it. -/
inductive Query (ε α : Type) : Type 1 where
  | done (result : Except ε α)
  | reading {β : Type} (look : Tables → β) (refused : StorageError → ε) (next : β → Query ε α)

namespace Query

variable {ε ε' α β : Type}

/-- Runs a second query on the answer of the first. -/
def bind : Query ε α → (α → Query ε β) → Query ε β
  | .done (.ok a), next => next a
  | .done (.error e), _ => .done (.error e)
  | .reading look refused more, next => .reading look refused fun b => (more b).bind next

instance : Monad (Query ε) where
  pure a := .done (.ok a)
  bind := bind

/-- Ends with an error. -/
def fail (e : ε) : Query ε α :=
  .done (.error e)

/-- One reading of the tables. -/
def look [OfStorage ε] (look : Tables → α) : Query ε α :=
  .reading look OfStorage.ofStorage fun a => .done (.ok a)

/-- A reading whose answer must be there. -/
def lookFor [OfStorage ε] (find : Tables → Option α) (missing : ε) : Query ε α := do
  match ← look find with
  | some a => pure a
  | none => fail missing

/-- Tells every error in another type. -/
def mapError (f : ε → ε') : Query ε α → Query ε' α
  | .done result => .done (result.mapError f)
  | .reading look refused next => .reading look (fun e => f (refused e)) fun b =>
    (next b).mapError f

/-- The answer that a store gives. -/
def run (store : Store) : Query ε α → Except ε α
  | .done result => result
  | .reading look refused next =>
    match store.read look with
    | .ok b => (next b).run store
    | .error e => .error (refused e)

/-- The answer when readings fail as a schedule says; after its end they succeed. -/
def runScheduled (tables : Tables) : List Bool → Query ε α → Except ε α
  | _, .done result => result
  | [], .reading look _ next => (next (look tables)).runScheduled tables []
  | true :: _, .reading _ refused _ => .error (refused .outage)
  | false :: later, .reading look _ next => (next (look tables)).runScheduled tables later

@[simp] theorem run_done (store : Store) (result : Except ε α) :
    (Query.done result).run store = result := rfl

@[simp] theorem run_pure (store : Store) (a : α) : (pure a : Query ε α).run store = .ok a := rfl

@[simp] theorem run_fail (store : Store) (e : ε) : (fail e : Query ε α).run store = .error e := rfl

theorem run_bind (store : Store) (query : Query ε α) (next : α → Query ε β) :
    (query >>= next).run store = (query.run store).bind fun a => (next a).run store := by
  show (query.bind next).run store = _
  induction query with
  | done result => cases result <;> rfl
  | reading look refused more ih =>
    simp only [bind, run]
    cases store.read look with
    | ok b => exact ih b
    | error e => rfl

theorem run_look [OfStorage ε] (store : Store) (f : Tables → α) :
    (look f : Query ε α).run store = (store.read f).mapError OfStorage.ofStorage := by
  simp only [look, run]
  cases store.read f <;> rfl

end Query

end IssueFlow
