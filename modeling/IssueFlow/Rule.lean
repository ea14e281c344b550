import IssueFlow.Issue.Field
import IssueFlow.Permission
import IssueFlow.Position

/-!
# Rules of a transition

Conditions decide who may take a transition, validators whether what is submitted with it will do,
and post-functions what follows it. Each family is a closed set of kinds with their settings.
-/

namespace IssueFlow

/-- A rule that is attached to a transition. Rules run in ascending position. -/
structure Rule (κ : Type) where
  id : RuleId
  transitionId : TransitionId
  content : κ
  position : Position
  deriving DecidableEq

inductive ConditionType where
  | userInRole
  | userInGroup
  | userHasPermission
  | onlyReporter
  | onlyAssignee
  | subtasksResolved
  | fieldValue
  deriving DecidableEq, Repr

namespace ConditionType

def name : ConditionType → String
  | userInRole => "user_in_role"
  | userInGroup => "user_in_group"
  | userHasPermission => "user_has_permission"
  | onlyReporter => "only_reporter"
  | onlyAssignee => "only_assignee"
  | subtasksResolved => "subtasks_resolved"
  | fieldValue => "field_value"

instance : Enumeration ConditionType where
  all := [userInRole, userInGroup, userHasPermission, onlyReporter, onlyAssignee,
    subtasksResolved, fieldValue]
  name := name
  find_name a := by cases a <;> decide

instance : Ord ConditionType := ⟨Enumeration.compare⟩

end ConditionType

inductive Condition where
  | userInRole (role : RoleId)
  | userInGroup (group : GroupId)
  | userHasPermission (permission : Permission)
  | onlyReporter
  | onlyAssignee
  /-- Every sub-task is in a status of the category `done`. -/
  | subtasksResolved
  | fieldValue (field : FieldRef) (equals : Json)
  deriving DecidableEq

def Condition.type : Condition → ConditionType
  | userInRole _ => .userInRole
  | userInGroup _ => .userInGroup
  | userHasPermission _ => .userHasPermission
  | onlyReporter => .onlyReporter
  | onlyAssignee => .onlyAssignee
  | subtasksResolved => .subtasksResolved
  | fieldValue _ _ => .fieldValue

abbrev ConditionRule := Rule Condition

inductive ValidatorType where
  | fieldRequired
  | fieldNotEmpty
  | regex
  | previousStatus
  | parentStatus
  | permission
  | commentRequired
  | resolutionSet
  deriving DecidableEq, Repr

namespace ValidatorType

def name : ValidatorType → String
  | fieldRequired => "field_required"
  | fieldNotEmpty => "field_not_empty"
  | regex => "regex"
  | previousStatus => "previous_status"
  | parentStatus => "parent_status"
  | permission => "permission"
  | commentRequired => "comment_required"
  | resolutionSet => "resolution_set"

instance : Enumeration ValidatorType where
  all := [fieldRequired, fieldNotEmpty, regex, previousStatus, parentStatus, permission,
    commentRequired, resolutionSet]
  name := name
  find_name a := by cases a <;> decide

instance : Ord ValidatorType := ⟨Enumeration.compare⟩

end ValidatorType

inductive Validator where
  /-- The field is submitted with the transition. -/
  | fieldRequired (field : FieldRef)
  /-- The field has a value once the submission is applied. -/
  | fieldNotEmpty (field : FieldRef)
  | regex (field : FieldRef) (pattern : String)
  /-- The issue has been in the status before. -/
  | previousStatus (status : StatusId)
  /-- The parent, if there is one, is in one of the statuses. -/
  | parentStatus (statuses : List StatusId)
  | permission (permission : Permission)
  | commentRequired
  | resolutionSet
  deriving DecidableEq

def Validator.type : Validator → ValidatorType
  | fieldRequired _ => .fieldRequired
  | fieldNotEmpty _ => .fieldNotEmpty
  | regex _ _ => .regex
  | previousStatus _ => .previousStatus
  | parentStatus _ => .parentStatus
  | permission _ => .permission
  | commentRequired => .commentRequired
  | resolutionSet => .resolutionSet

/-- A validator and the message that is shown in place of its own when it fails. -/
structure Validation where
  validator : Validator
  errorMessage : Option String
  deriving DecidableEq

abbrev ValidatorRule := Rule Validation

inductive PostFunctionType where
  | updateField
  | assignToReporter
  | assignToLead
  | clearField
  | copyFieldValue
  | addComment
  | sendNotification
  | triggerWebhook
  | updateParent
  deriving DecidableEq, Repr

namespace PostFunctionType

def name : PostFunctionType → String
  | updateField => "update_field"
  | assignToReporter => "assign_to_reporter"
  | assignToLead => "assign_to_lead"
  | clearField => "clear_field"
  | copyFieldValue => "copy_field_value"
  | addComment => "add_comment"
  | sendNotification => "send_notification"
  | triggerWebhook => "trigger_webhook"
  | updateParent => "update_parent"

instance : Enumeration PostFunctionType where
  all := [updateField, assignToReporter, assignToLead, clearField, copyFieldValue, addComment,
    sendNotification, triggerWebhook, updateParent]
  name := name
  find_name a := by cases a <;> decide

instance : Ord PostFunctionType := ⟨Enumeration.compare⟩

end PostFunctionType

/-- The issue that a copied value is written to. -/
inductive CopyTarget where
  | thisIssue
  | parent
  deriving DecidableEq, Repr

namespace CopyTarget

def name : CopyTarget → String
  | thisIssue => "this_issue"
  | parent => "parent"

instance : Enumeration CopyTarget where
  all := [thisIssue, parent]
  name := name
  find_name a := by cases a <;> decide

end CopyTarget

/-- Whom a notification goes to. -/
inductive Recipient where
  | reporter
  | assignee
  | projectLead
  | user (id : UserId)
  deriving DecidableEq, Repr

inductive PostFunction where
  | updateField (field : FieldRef) (value : Json)
  | assignToReporter
  | assignToLead
  | clearField (field : FieldRef)
  | copyFieldValue (fromField toField : FieldRef) (target : CopyTarget)
  | addComment (body : String)
  | sendNotification (event : String) (recipients : List Recipient)
  | triggerWebhook (url : String)
  | updateParent (field : FieldRef) (value : Json)
  deriving DecidableEq

def PostFunction.type : PostFunction → PostFunctionType
  | updateField _ _ => .updateField
  | assignToReporter => .assignToReporter
  | assignToLead => .assignToLead
  | clearField _ => .clearField
  | copyFieldValue _ _ _ => .copyFieldValue
  | addComment _ => .addComment
  | sendNotification _ _ => .sendNotification
  | triggerWebhook _ => .triggerWebhook
  | updateParent _ _ => .updateParent

abbrev PostFunctionRule := Rule PostFunction

end IssueFlow
