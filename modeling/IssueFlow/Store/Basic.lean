import IssueFlow.Store.Accounts
import IssueFlow.Store.Grants
import IssueFlow.Store.IssueLog
import IssueFlow.Store.Membership
import IssueFlow.Store.Projects
import IssueFlow.Store.Screens

/-!
# The store

The store is its tables, a switch that takes all of them out of reach, and the time that new rows
are stamped with.
-/

namespace IssueFlow

structure Tables where
  accounts : Accounts := {}
  projects : Projects := {}
  grants : Grants := {}
  membership : Membership := {}
  graph : Graph := {}
  issueLog : IssueLog := {}
  deriving DecidableEq

structure Store where
  tables : Tables := {}
  /-- While set, every operation fails. -/
  unavailable : Bool := false
  now : Timestamp := ⟨0, 0⟩
  deriving DecidableEq

namespace Tables

variable {α : Type}

def onAccounts : Change Accounts α → Change Tables α :=
  Change.within (·.accounts) fun accounts t => { t with accounts }

def onProjects : Change Projects α → Change Tables α :=
  Change.within (·.projects) fun projects t => { t with projects }

def onGrants : Change Grants α → Change Tables α :=
  Change.within (·.grants) fun grants t => { t with grants }

def onMembership : Change Membership α → Change Tables α :=
  Change.within (·.membership) fun membership t => { t with membership }

def onGraph : Change Graph α → Change Tables α :=
  Change.within (·.graph) fun graph t => { t with graph }

def onIssueLog : Change IssueLog α → Change Tables α :=
  Change.within (·.issueLog) fun issueLog t => { t with issueLog }

end Tables

namespace Store

/-- What the tables hold, unless they are out of reach. -/
def read {α : Type} (store : Store) (look : Tables → α) : Except StorageError α :=
  if store.unavailable then .error .outage else .ok (look store.tables)

/-- Carries out an operation on the tables. What it leaves stays, also when it fails. -/
def update {α : Type} (store : Store) (op : Change Tables α) : Except StorageError α × Store :=
  if store.unavailable then (.error .outage, store)
  else
    let (answer, tables) := op.run store.tables
    (answer, { store with tables })

@[simp] theorem read_of_available {α : Type} {store : Store} (h : store.unavailable = false)
    (look : Tables → α) : store.read look = .ok (look store.tables) := by
  simp [read, h]

end Store

end IssueFlow
