import IssueFlow.Store.Program
import IssueFlow.Transition.Error

/-!
# From an issue to an edge and its rules

A project's workflow scheme and the type of an issue lead to a workflow, the issue's status to the
edges out of it, and an edge to its plan: all that is attached to it.
-/

namespace IssueFlow

/-- An edge with its rules, each family in the order in which it runs, and its screen. -/
structure Plan where
  transition : Transition
  conditions : List ConditionRule
  validators : List ValidatorRule
  postFunctions : List PostFunctionRule
  screen : Option Screen
  screenFields : List ScreenField
  deriving DecidableEq

/-- The screen fields that must be filled in. -/
def Plan.requiredFields (plan : Plan) : List ScreenField :=
  plan.screenFields.filter (·.isRequired)

namespace Route

def workflow (id : WorkflowId) : Query TransitionError Workflow :=
  .lookFor (fun t => t.graph.workflows.get? id) (.notFound s!"workflow {id}")

/-- The workflow of an issue type in a scheme. No workflow stands in for a missing mapping. -/
def workflowForIssueType (scheme : WorkflowSchemeId) (issueType : IssueTypeId) :
    Query TransitionError Workflow := do
  let mapping ← Query.lookFor (fun t => selectMapping? (t.graph.mappingsOf scheme) issueType)
    (TransitionError.notFound s!"workflow for issue type {issueType} in scheme {scheme}")
  workflow mapping.workflowId

/-- The workflow of an issue type under the scheme of a project. -/
def workflowForProject (projectId : ProjectId) (issueType : IssueTypeId) :
    Query TransitionError Workflow := do
  let project ← Query.lookFor (fun t => t.projects.get? projectId)
    (TransitionError.notFound s!"project {projectId}")
  match project.workflowSchemeId with
  | some scheme => workflowForIssueType scheme issueType
  | none => .fail (.notFound s!"workflow scheme for project {projectId}")

def edge? (workflow : WorkflowId) (source target : StatusId) :
    Query TransitionError (Option Transition) :=
  .look fun t => t.graph.edge? workflow source target

def statuses (workflow : WorkflowId) : Query TransitionError (List Status) :=
  .look fun t => t.graph.statusesOf workflow

/-- The status of the lowest position. -/
def initialStatus (workflow : WorkflowId) : Query TransitionError Status :=
  .lookFor (fun t => (t.graph.statusesOf workflow).head?)
    (.notFound s!"initial status of workflow {workflow}")

def isTerminal (id : StatusId) : Query TransitionError Bool := do
  let status ← Query.lookFor (fun t => t.graph.statuses.get? id)
    (TransitionError.notFound s!"status {id}")
  return status.isTerminal

/-- The edges out of a status, by name. -/
def edgesFrom (workflow : WorkflowId) (source : StatusId) :
    Query TransitionError (List Transition) :=
  .look fun t => (t.graph.transitionsOf workflow).filter (·.fromStatus == source)

/-- The plan of a transition. -/
def plan (transition : Transition) : Query TransitionError Plan := do
  let conditions ← Query.look fun t => t.graph.conditionsOf transition.id
  let validators ← Query.look fun t => t.graph.validatorsOf transition.id
  let postFunctions ← Query.look fun t => t.graph.postFunctionsOf transition.id
  match transition.screenId with
  | none =>
    return ⟨transition, conditions, validators, postFunctions, none, []⟩
  | some screenId =>
    let screen ← Query.lookFor (fun t => t.graph.screens.get? screenId)
      (TransitionError.notFound s!"screen {screenId}")
    let screenFields ← Query.look fun t => t.graph.screenFieldsOf screenId
    return ⟨transition, conditions, validators, postFunctions, some screen, screenFields⟩

/-- The plan of the transition with that key. -/
def planFor (id : TransitionId) : Query TransitionError Plan := do
  let transition ← Query.lookFor (fun t => t.graph.transitions.get? id)
    (TransitionError.notFound s!"transition {id}")
  plan transition

/-- Points an issue type, or the default of a scheme, at a workflow. -/
def mapIssueType (mapping : SchemeMapping) : Program TransitionError Unit := do
  let _ ← Program.ask (Query.lookFor (fun t => t.graph.schemes.get? mapping.schemeId)
    (TransitionError.notFound s!"workflow scheme {mapping.schemeId}"))
  let _ ← Program.ask (workflow mapping.workflowId)
  Program.write fun _ => Tables.onGraph (Graph.putMapping mapping)

/-- Removes a mapping, which must be there. -/
def unmapIssueType (scheme : WorkflowSchemeId) (issueType : Option IssueTypeId) :
    Program TransitionError Unit := do
  let removed ← Program.write fun _ => Tables.onGraph (Graph.removeMapping scheme issueType)
  Program.orElseFail removed (.notFound s!"mapping in workflow scheme {scheme}")

end Route

end IssueFlow
