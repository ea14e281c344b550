import IssueFlow.Store.Rules

/-!
# Screen and scheme tables

A screen lists fields by position and holds each field once. A workflow scheme holds one mapping
for each issue type and one for all others.
-/

namespace IssueFlow.Graph

def createScreen (screen : Screen) : Change Graph Unit := do
  let t ← get
  require (!t.screens.contains screen.id) (.conflict s!"screen {screen.id.text} already exists")
  set { t with screens := t.screens.put screen }

/-- Puts a field in the place of the one it replaces, or at the end. -/
def putScreenFieldRow (field : ScreenField) : List ScreenField → List ScreenField
  | [] => [field]
  | f :: rest =>
    if f.screenId == field.screenId && f.field == field.field then field :: rest
    else f :: putScreenFieldRow field rest

def putScreenField (field : ScreenField) : Change Graph Unit := do
  let t ← get
  t.requireScreen field.screenId
  set { t with screenFields := putScreenFieldRow field t.screenFields }

def removeScreenField (screen : ScreenId) (field : FieldRef) : Change Graph Bool := do
  let t ← get
  let (found, rest) := removeWhere
    (fun row : ScreenField => row.screenId == screen && row.field == field) t.screenFields
  set { t with screenFields := rest }
  return found

/-- The fields of a screen by position. -/
def screenFieldsOf (t : Graph) (screen : ScreenId) : List ScreenField :=
  byPosition ScreenField.position (t.screenFields.filter (·.screenId == screen))

def createScheme (scheme : WorkflowScheme) : Change Graph Unit := do
  let t ← get
  require (!t.schemes.contains scheme.id)
    (.conflict s!"workflow scheme {scheme.id.text} already exists")
  set { t with schemes := t.schemes.put scheme }

/-- Gives the mapping of an issue type its workflow, in its place or at the end. -/
def putMappingRow (mapping : SchemeMapping) : List SchemeMapping → List SchemeMapping
  | [] => [mapping]
  | m :: rest =>
    if m.schemeId == mapping.schemeId && m.issueTypeId == mapping.issueTypeId then mapping :: rest
    else m :: putMappingRow mapping rest

def putMapping (mapping : SchemeMapping) : Change Graph Unit := do
  let t ← get
  require (t.schemes.contains mapping.schemeId)
    (.notFound s!"workflow scheme {mapping.schemeId.text} not found")
  t.requireWorkflow mapping.workflowId
  set { t with mappings := putMappingRow mapping t.mappings }

/-- Answers whether there was such a mapping. -/
def removeMapping (scheme : WorkflowSchemeId) (issueType : Option IssueTypeId) :
    Change Graph Bool := do
  let t ← get
  let (found, rest) := removeWhere
    (fun m : SchemeMapping => m.schemeId == scheme && m.issueTypeId == issueType) t.mappings
  set { t with mappings := rest }
  return found

/-- The mappings of a scheme in the order in which their keys were first given. -/
def mappingsOf (t : Graph) (scheme : WorkflowSchemeId) : List SchemeMapping :=
  t.mappings.filter (·.schemeId == scheme)

end IssueFlow.Graph
