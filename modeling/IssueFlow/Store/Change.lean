import IssueFlow.Store.Error

/-!
# Changes

A change of some tables looks at them, refuses or writes, and leaves them as they are then. That a
refusal comes before the first write is not built in: what is written before an error stays.
-/

namespace IssueFlow

/-- Answers or fails, and leaves the tables in some state either way. -/
abbrev Change (tables answer : Type) := ExceptT StorageError (StateM tables) answer

/-- Carries out a change on a part of some tables. -/
def Change.within {σ τ α : Type} (part : τ → σ) (put : σ → τ → τ) (op : Change σ α) : Change τ α :=
  ExceptT.mk fun t =>
    let (answer, inner) := op.run (part t)
    (answer, put inner t)

end IssueFlow
