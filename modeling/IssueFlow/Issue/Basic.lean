import IssueFlow.Issue.Field
import IssueFlow.Timestamp

/-!
# Issues

Standard fields have typed columns and custom fields a map. Every field is read and written as a
JSON value: an unset field reads as null, and null clears a field that may be unset.
-/

namespace IssueFlow

structure Issue where
  id : IssueId
  key : String
  projectId : ProjectId
  issueTypeId : IssueTypeId
  statusId : StatusId
  parentId : Option IssueId
  summary : String
  description : Option String
  priority : Option String
  reporterId : UserId
  assigneeId : Option UserId
  resolution : Option String
  dueDate : Option String
  labels : List String
  customFields : SortedMap CustomFieldId Json
  createdAt : Timestamp
  updatedAt : Timestamp
  deriving DecidableEq

namespace Issue

def standardValue (issue : Issue) : StandardField → Json
  | .summary => .string issue.summary
  | .description => .ofOption issue.description
  | .priority => .ofOption issue.priority
  | .assignee => .ofOption (issue.assigneeId.map Ident.text)
  | .reporter => .string issue.reporterId.text
  | .resolution => .ofOption issue.resolution
  | .dueDate => .ofOption issue.dueDate
  | .labels => .array (issue.labels.map .string)

/-- The value of a field; null when it is unset. -/
def fieldValue (issue : Issue) : FieldRef → Json
  | .standard field => issue.standardValue field
  | .custom id => (issue.customFields.get? id).getD .null

/-- The text for a field that must be set. -/
def requiredText (field : StandardField) : Json → Except ParseError String
  | .string s => .ok s
  | other => .error (.fieldType field.name other)

/-- The text for a field that may be unset; a number is taken by its text. -/
def optionalText (field : StandardField) : Json → Except ParseError (Option String)
  | .null => .ok none
  | .string s => .ok (some s)
  | .number n => .ok (some n.text)
  | other => .error (.fieldType field.name other)

/-- The labels of a list of texts; the first item that is no text is reported. -/
def labelTexts : List Json → Except ParseError (List String)
  | [] => .ok []
  | .string s :: items => do return s :: (← labelTexts items)
  | other :: _ => .error (.fieldType StandardField.labels.name other)

/-- The labels that a value stands for. -/
def labelList : Json → Except ParseError (List String)
  | .null => .ok []
  | .array items => labelTexts items
  | other => .error (.fieldType StandardField.labels.name other)

/-- Writes a column of the issue at hand once its content has been read off the value. -/
def writeColumn {α : Type} (content : Except ParseError α) (put : Issue → α → Issue) :
    ExceptT ParseError (StateM Issue) Unit := do
  let content ← content
  modify (put · content)

def writeStandard (field : StandardField) (value : Json) : ExceptT ParseError (StateM Issue) Unit :=
  match field with
  | .summary => writeColumn (requiredText field value) ({ · with summary := · })
  | .description => writeColumn (optionalText field value) ({ · with description := · })
  | .priority => writeColumn (optionalText field value) ({ · with priority := · })
  | .assignee => writeColumn (optionalText field value) fun issue text =>
    { issue with assigneeId := text.map Ident.mk }
  | .reporter => writeColumn (requiredText field value) ({ · with reporterId := ⟨·⟩ })
  | .resolution => writeColumn (optionalText field value) ({ · with resolution := · })
  | .dueDate => writeColumn (optionalText field value) ({ · with dueDate := · })
  | .labels => writeColumn (labelList value) ({ · with labels := · })

/-- Null removes a custom field; any other value is kept as it is. -/
def setCustom (issue : Issue) (id : CustomFieldId) (value : Json) : Issue :=
  { issue with
    customFields := match value with
      | .null => issue.customFields.erase id
      | value => issue.customFields.insert id value }

/-- Writes a field of the issue at hand, or says why the field has no room for the value. -/
def write (field : FieldRef) (value : Json) : ExceptT ParseError (StateM Issue) Unit :=
  match field with
  | .standard field => writeStandard field value
  | .custom id => modify (setCustom · id value)

/-- The issue that a write leaves when it goes through. -/
def setField (issue : Issue) (field : FieldRef) (value : Json) : Except ParseError Issue :=
  let (answer, next) := (write field value).run issue
  answer.map fun () => next

end Issue

/-- One write of a field. -/
structure FieldUpdate where
  field : FieldRef
  value : Json
  deriving DecidableEq, Repr

/-- Carries out writes on a copy, in order; the first refusal ends them. -/
def Issue.applyUpdates (issue : Issue) : List FieldUpdate → Except ParseError Issue
  | [] => .ok issue
  | update :: updates => do (← issue.setField update.field update.value).applyUpdates updates

structure Comment where
  id : CommentId
  issueId : IssueId
  authorId : UserId
  body : String
  createdAt : Timestamp
  deriving DecidableEq, Repr

/-- An entry of the status history; the entry of the creation has no earlier status. -/
structure StatusChange where
  issueId : IssueId
  fromStatus : Option StatusId
  toStatus : StatusId
  changedBy : UserId
  changedAt : Timestamp
  deriving DecidableEq, Repr

end IssueFlow
