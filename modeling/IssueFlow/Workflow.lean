import IssueFlow.Issue.Field
import IssueFlow.Position
import IssueFlow.Timestamp

/-!
# Workflows

A workflow is a graph of statuses. An edge of it, a transition, may have a screen that asks for
fields. A workflow scheme maps issue types to workflows.
-/

namespace IssueFlow

structure Workflow where
  id : WorkflowId
  name : String
  description : Option String
  isDefault : Bool
  createdAt : Timestamp
  deriving DecidableEq, Repr

inductive StatusCategory where
  | todo
  | inProgress
  | done
  deriving DecidableEq, Repr

namespace StatusCategory

def name : StatusCategory → String
  | todo => "todo"
  | inProgress => "in_progress"
  | done => "done"

instance : Enumeration StatusCategory where
  all := [todo, inProgress, done]
  name := name
  find_name a := by cases a <;> decide

instance : Ord StatusCategory := ⟨Enumeration.compare⟩

def parse : String → Except ParseError StatusCategory :=
  Enumeration.parse .unknownStatusCategory

/-- Work in a terminal status is done, though edges may still lead out of it. -/
def isTerminal (category : StatusCategory) : Bool :=
  category == done

end StatusCategory

structure Status where
  id : StatusId
  workflowId : WorkflowId
  name : String
  category : StatusCategory
  position : Position
  deriving DecidableEq, Repr

def Status.isTerminal (status : Status) : Bool :=
  status.category.isTerminal

/-- An edge from one status to another in one workflow. -/
structure Transition where
  id : TransitionId
  workflowId : WorkflowId
  fromStatus : StatusId
  toStatus : StatusId
  name : String
  screenId : Option ScreenId
  deriving DecidableEq, Repr

/-- An edge as it is asked for, before it has a key. -/
structure TransitionDraft where
  workflowId : WorkflowId
  fromStatus : StatusId
  toStatus : StatusId
  name : String
  screenId : Option ScreenId
  deriving DecidableEq, Repr

structure Screen where
  id : ScreenId
  name : String
  description : Option String
  deriving DecidableEq, Repr

structure ScreenField where
  screenId : ScreenId
  field : FieldRef
  isRequired : Bool
  position : Position
  deriving DecidableEq, Repr

structure WorkflowScheme where
  id : WorkflowSchemeId
  name : String
  description : Option String
  createdAt : Timestamp
  deriving DecidableEq, Repr

/-- The workflow of an issue type, or of all types without a mapping of their own. -/
structure SchemeMapping where
  schemeId : WorkflowSchemeId
  issueTypeId : Option IssueTypeId
  workflowId : WorkflowId
  deriving DecidableEq, Repr

def SchemeMapping.isDefault (mapping : SchemeMapping) : Bool :=
  mapping.issueTypeId.isNone

/-- The mapping for an issue type: its own if there is one, else the default. -/
def selectMapping? (mappings : List SchemeMapping) (issueType : IssueTypeId) :
    Option SchemeMapping :=
  (mappings.find? (·.issueTypeId == some issueType)).or (mappings.find? (·.isDefault))

end IssueFlow
