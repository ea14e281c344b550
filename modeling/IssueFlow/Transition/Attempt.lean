import IssueFlow.Transition.Plan
import IssueFlow.Transition.Submission

/-!
# Attempts

An attempt is one user's try to take one issue along one edge. It runs in a world of the store, the
outbox and a record of the evaluators that were called.
-/

namespace IssueFlow

structure Attempt where
  /-- The issue as it was read; post-functions see it as it was committed and since changed. -/
  issue : Issue
  actor : UserId
  transition : Transition
  submission : Submission
  deriving DecidableEq

structure World where
  store : Store
  outbox : Outbox
  /-- The tags that evaluators have put on record, the earliest first. -/
  calls : List String := []
  deriving DecidableEq

/-- A computation that may change the world and may fail. -/
abbrev Run := ExceptT TransitionError (StateM World)

namespace Run

variable {α : Type}

/-- Runs a program on the store. -/
def onStore (program : Program TransitionError α) : Run α :=
  ExceptT.mk fun world =>
    let (answer, store) := program.run world.store
    (answer, { world with store })

/-- Runs a query. -/
def ask (query : Query TransitionError α) : Run α :=
  ExceptT.mk fun world => (query.run world.store, world)

/-- Carries out an operation of the store. -/
def write (op : Timestamp → Change Tables α) : Run α :=
  onStore (Program.write op)

/-- Puts a notification into the outbox. -/
def send (notification : Notification) : Run Unit :=
  ExceptT.mk fun world =>
    match world.outbox.send notification with
    | .ok outbox => (.ok (), { world with outbox })
    | .error refusal => (.error (.dispatch refusal), world)

/-- Puts a tag on record. -/
def record (tag : String) : Run Unit :=
  ExceptT.mk fun world => (.ok (), { world with calls := world.calls ++ [tag] })

end Run

end IssueFlow
