import IssueFlow.Directory
import IssueFlow.Store.Change
import IssueFlow.Store.Table

/-!
# Projects

Projects have distinct keys for their issues as well as distinct identifiers.
-/

namespace IssueFlow

instance : Keyed Project ProjectId := ⟨Project.id⟩

abbrev Projects := Table Project

namespace Projects

/-- A project needs a new identifier and a key that is not in use. -/
def create (project : Project) : Change Projects Unit := do
  let t ← get
  require (!t.contains project.id) (.conflict s!"project {project.id.text} already exists")
  require (!t.rows.any (·.key == project.key))
    (.conflict s!"project key {project.key} already in use")
  set (t.put project)

/-- Changes a project that must exist. -/
def alter (id : ProjectId) (change : Project → Project) : Change Projects Unit := do
  let t ← get
  match t.get? id with
  | some project => set (t.put { change project with id })
  | none => throw (.notFound s!"project {id.text} not found")

def setPermissionScheme (id : ProjectId) (scheme : PermissionSchemeId) : Change Projects Unit :=
  alter id ({ · with permissionSchemeId := scheme })

def setWorkflowScheme (id : ProjectId) (scheme : Option WorkflowSchemeId) :
    Change Projects Unit :=
  alter id ({ · with workflowSchemeId := scheme })

end Projects

end IssueFlow
