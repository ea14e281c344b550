import IssueFlow.Rule
import IssueFlow.Store.Change
import IssueFlow.Store.Table
import IssueFlow.Workflow

/-!
# Workflow tables

Workflows own statuses, statuses bound transitions, and transitions own rules. Deleting a row
deletes what it owns. A transition gets its key from a running number, and the number of a deleted
one is not used again.
-/

namespace IssueFlow

instance : Keyed Workflow WorkflowId := ⟨Workflow.id⟩
instance : Keyed Status StatusId := ⟨Status.id⟩
instance : Keyed Transition TransitionId := ⟨Transition.id⟩
instance : Keyed Screen ScreenId := ⟨Screen.id⟩
instance : Keyed WorkflowScheme WorkflowSchemeId := ⟨WorkflowScheme.id⟩

structure Graph where
  workflows : Table Workflow := {}
  statuses : Table Status := {}
  transitions : Table Transition := {}
  conditions : List ConditionRule := []
  validators : List ValidatorRule := []
  postFunctions : List PostFunctionRule := []
  screens : Table Screen := {}
  screenFields : List ScreenField := []
  schemes : Table WorkflowScheme := {}
  mappings : List SchemeMapping := []
  /-- How many transitions have been made. -/
  transitionCount : Nat := 0
  deriving DecidableEq

namespace Graph

def requireWorkflow (t : Graph) (id : WorkflowId) : Except StorageError Unit :=
  require (t.workflows.contains id) (.notFound s!"workflow {id.text} not found")

def requireTransition (t : Graph) (id : TransitionId) : Except StorageError Unit :=
  require (t.transitions.contains id) (.notFound s!"transition {id.text} not found")

def requireScreen (t : Graph) (id : ScreenId) : Except StorageError Unit :=
  require (t.screens.contains id) (.notFound s!"screen {id.text} not found")

def hasStatus (t : Graph) (workflow : WorkflowId) (status : StatusId) : Bool :=
  (t.statuses.get? status).any (·.workflowId == workflow)

/-- Removes the transitions that satisfy a predicate on their keys, together with their rules. -/
def dropTransitions (t : Graph) (p : TransitionId → Bool) : Graph :=
  { t with
    transitions := t.transitions.filter fun row => !p row.id
    conditions := t.conditions.filter fun rule => !p rule.transitionId
    validators := t.validators.filter fun rule => !p rule.transitionId
    postFunctions := t.postFunctions.filter fun rule => !p rule.transitionId }

/-- Whether a key is that of a stored transition that satisfies a predicate. -/
def transitionIs (t : Graph) (p : Transition → Bool) (id : TransitionId) : Bool :=
  (t.transitions.get? id).any p

def createWorkflow (workflow : Workflow) : Change Graph Unit := do
  let t ← get
  require (!t.workflows.contains workflow.id)
    (.conflict s!"workflow {workflow.id.text} already exists")
  set { t with workflows := t.workflows.put workflow }

def listWorkflows (t : Graph) : List Workflow :=
  sortBy (defaultThenName (·.isDefault) (·.name)) t.workflows.rows

/-- Deletes a workflow that no scheme maps to, with its statuses and transitions. -/
def deleteWorkflow (id : WorkflowId) : Change Graph Bool := do
  let t ← get
  require (!t.mappings.any (·.workflowId == id))
    (.conflict s!"workflow {id.text} is still mapped by a workflow scheme")
  if !t.workflows.contains id then return false
  let rest := t.dropTransitions (t.transitionIs (·.workflowId == id))
  set { rest with
    workflows := t.workflows.erase id
    statuses := t.statuses.filter (·.workflowId != id) }
  return true

/-- A status stays in the workflow where it was made. -/
def putStatus (status : Status) : Change Graph Unit := do
  let t ← get
  t.requireWorkflow status.workflowId
  (t.statuses.get? status.id).forM fun existing =>
    require (existing.workflowId == status.workflowId)
      (.invalidInput s!"status {status.id.text} belongs to workflow {existing.workflowId.text}")
  set { t with statuses := t.statuses.put status }

/-- The statuses of a workflow by position, then by name. -/
def statusesOf (t : Graph) (workflow : WorkflowId) : List Status :=
  sortBy (fun a b => (compare a.position b.position).then (compare a.name b.name))
    (t.statuses.rows.filter (·.workflowId == workflow))

/-- Deletes a status with the transitions that start or end there. -/
def deleteStatus (id : StatusId) : Change Graph Bool := do
  let t ← get
  if !t.statuses.contains id then return false
  let rest := t.dropTransitions (t.transitionIs fun e => e.fromStatus == id || e.toStatus == id)
  set { rest with statuses := t.statuses.erase id }
  return true

def edge? (t : Graph) (workflow : WorkflowId) (source target : StatusId) : Option Transition :=
  t.transitions.rows.find? fun e =>
    e.workflowId == workflow && e.fromStatus == source && e.toStatus == target

def requireStatus (t : Graph) (workflow : WorkflowId) (status : StatusId) :
    Except StorageError Unit :=
  require (t.hasStatus workflow status)
    (.invalidInput s!"status {status.text} is not part of workflow {workflow.text}")

/-- Makes an edge, or gives the edge that is there the name and screen of the draft. -/
def putTransition (draft : TransitionDraft) : Change Graph Transition := do
  let t ← get
  t.requireWorkflow draft.workflowId
  t.requireStatus draft.workflowId draft.fromStatus
  t.requireStatus draft.workflowId draft.toStatus
  draft.screenId.forM fun screen => t.requireScreen screen
  match t.edge? draft.workflowId draft.fromStatus draft.toStatus with
  | some existing =>
    let row := { existing with name := draft.name, screenId := draft.screenId }
    set { t with transitions := t.transitions.put row }
    return row
  | none =>
    let row : Transition := ⟨⟨s!"T{t.transitionCount + 1}"⟩, draft.workflowId, draft.fromStatus,
      draft.toStatus, draft.name, draft.screenId⟩
    set { t with
      transitions := t.transitions.put row, transitionCount := t.transitionCount + 1 }
    return row

/-- The transitions of a workflow by name, then by key. -/
def transitionsOf (t : Graph) (workflow : WorkflowId) : List Transition :=
  sortBy (fun a b => (compare a.name b.name).then (compare a.id b.id))
    (t.transitions.rows.filter (·.workflowId == workflow))

def deleteTransition (id : TransitionId) : Change Graph Bool := do
  let t ← get
  set (t.dropTransitions (· == id))
  return t.transitions.contains id

end Graph

end IssueFlow
