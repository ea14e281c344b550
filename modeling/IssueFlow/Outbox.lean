import IssueFlow.Ident
import IssueFlow.Json.Basic

/-!
# The outbox

Rules only enqueue notifications; whoever reads the outbox delivers them. An outbox holds a bounded
number of them in the order of sending, until its reader goes away.
-/

namespace IssueFlow

inductive Notification where
  /-- An event that some users hear of. -/
  | event (event : String) (issueId : IssueId) (issueKey : String) (transitionId : TransitionId)
      (actor : UserId) (recipients : List UserId)
  /-- A call of another system. -/
  | webhook (url : String) (payload : Json)
  deriving DecidableEq

inductive DispatchError where
  | outboxFull
  | closed
  deriving DecidableEq, Repr

def DispatchError.message : DispatchError → String
  | outboxFull => "notification outbox is full"
  | closed => "notification outbox is closed"

structure Outbox where
  capacity : Nat
  queue : List Notification := []
  isOpen : Bool := true
  /-- There is room for one notification at least, and never more queued than there is room for. -/
  bounded : 0 < capacity ∧ queue.length ≤ capacity
  deriving DecidableEq

namespace Outbox

/-- An empty outbox; a capacity of nothing counts as one. -/
def ofCapacity (capacity : Nat) : Outbox :=
  { capacity := max capacity 1
    bounded := ⟨Nat.lt_of_lt_of_le Nat.one_pos (Nat.le_max_right ..), Nat.zero_le _⟩ }

/-- Appends a notification, when there is a reader and room. -/
def send (notification : Notification) (outbox : Outbox) : Except DispatchError Outbox :=
  if !outbox.isOpen then .error .closed
  else if h : outbox.queue.length < outbox.capacity then
    .ok { outbox with
      queue := outbox.queue ++ [notification]
      bounded := ⟨outbox.bounded.1, by rw [List.length_append]; exact h⟩ }
  else .error .outboxFull

/-- Takes the first notification. -/
def receive (outbox : Outbox) : Option Notification × Outbox :=
  match h : outbox.queue with
  | [] => (none, outbox)
  | first :: rest =>
    (some first, { outbox with
      queue := rest
      bounded := ⟨outbox.bounded.1, Nat.le_trans (by simp [h]) outbox.bounded.2⟩ })

/-- Takes all notifications. -/
def drain (outbox : Outbox) : List Notification × Outbox :=
  (outbox.queue, { outbox with queue := [], bounded := ⟨outbox.bounded.1, Nat.zero_le _⟩ })

/-- The reader goes away, and with it all that waits. -/
def close (outbox : Outbox) : Outbox :=
  { outbox with queue := [], isOpen := false, bounded := ⟨outbox.bounded.1, Nat.zero_le _⟩ }

end Outbox

end IssueFlow
