import IssueFlow.Query

/-!
# Programs on the store

A program runs queries and operations on the store one after the other. An error ends it; what was
written before stays.
-/

namespace IssueFlow

/-- A computation that may change the store and may fail. -/
abbrev Program (ε : Type) := ExceptT ε (StateM Store)

namespace Program

variable {ε α : Type}

/-- Runs a query. -/
def ask (query : Query ε α) : Program ε α :=
  ExceptT.mk fun store => (query.run store, store)

/-- Carries out an operation of the store. -/
def write [OfStorage ε] (op : Timestamp → Change Tables α) : Program ε α :=
  ExceptT.mk fun store =>
    let (answer, store) := store.update (op store.now)
    (answer.mapError OfStorage.ofStorage, store)

/-- Ends with an error when an answer is false. -/
def orElseFail (answer : Bool) (e : ε) : Program ε Unit :=
  if answer then pure () else throw e

end Program

end IssueFlow
