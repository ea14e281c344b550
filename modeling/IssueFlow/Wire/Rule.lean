import IssueFlow.Rule
import IssueFlow.Wire.Access
import IssueFlow.Wire.Issue

/-!
# Wire forms of rules

A kind of rule is written by its type and its settings. A rule is an object in which the keys of its
kind stand beside its own.
-/

namespace IssueFlow

open Wire

instance : Wire ConditionType := .enumeration
instance : Wire ValidatorType := .enumeration
instance : Wire PostFunctionType := .enumeration
instance : Wire CopyTarget := .enumeration

namespace Wire

/-- The fields that write a type and its settings. -/
def kindFields (type : String) (settings : Option (List (String × Json))) :
    List (String × Json) :=
  ("type", .string type) :: (settings.map fun fields => ("config", Json.ofFields fields)).toList

/-- The settings of a kind by their names, from content that may have been set aside. -/
structure Settings where
  entries : List (String × Json)
  isSetAside : Bool

/-- The settings that a content holds. They are named: no array writes them. -/
def Content.settings? (content : Content) : Option Settings :=
  match content.json? with
  | some (.object entries) => some ⟨entries, content.isSetAside⟩
  | _ => none

namespace Settings

def find? (settings : Settings) (name : String) : Option Json :=
  EntryList.find? name settings.entries

/-- A setting that must be there. -/
def required {α : Type} [Wire α] (settings : Settings) (name : String) : Option α :=
  (settings.find? name).bind Wire.decode

/-- A field reference among the settings. -/
def field (settings : Settings) (name : String) : Option FieldRef :=
  (settings.find? name).bind (FieldRef.ofWire settings.isSetAside)

/-- A value of an enumeration among the settings. -/
def named {α : Type} [Enumeration α] (settings : Settings) (name : String) : Option α :=
  (settings.find? name).bind (named? settings.isSetAside)

/-- A setting that stands for a default when it is absent. -/
def withDefault {α : Type} (settings : Settings) (name : String) (default : α)
    (read : Json → Option α) : Option α :=
  match settings.find? name with
  | none => some default
  | some json => read json

end Settings

end Wire

namespace Condition

/-- The settings of a condition; a condition without any has no content. -/
def settings : Condition → Option (List (String × Json))
  | userInRole role => some [("role_id", encode role)]
  | userInGroup group => some [("group_id", encode group)]
  | userHasPermission permission => some [("permission", encode permission)]
  | onlyReporter => none
  | onlyAssignee => none
  | subtasksResolved => none
  | fieldValue field value => some [("field", encode field), ("equals", value)]

/-- The condition of a type whose settings a content holds. -/
def ofContent (content : Content) : ConditionType → Option Condition
  | .userInRole => do return userInRole (← (← content.settings?).required "role_id")
  | .userInGroup => do return userInGroup (← (← content.settings?).required "group_id")
  | .userHasPermission => do
    return userHasPermission (← (← content.settings?).named "permission")
  | .onlyReporter => content.nothing.map fun () => onlyReporter
  | .onlyAssignee => content.nothing.map fun () => onlyAssignee
  | .subtasksResolved => content.nothing.map fun () => subtasksResolved
  | .fieldValue => do
    let settings ← content.settings?
    return fieldValue (← settings.field "field") (← settings.required "equals")

/-- The fields that write a condition. -/
def fields (condition : Condition) : List (String × Json) :=
  kindFields condition.type.name condition.settings

/-- The condition that a value writes, in content that was set aside or not. -/
def ofWire (isSetAside : Bool) (json : Json) : Option Condition := do
  let (tag, content) ← tagged? "type" "config" isSetAside json
  ofContent content (← Enumeration.ofName? tag)

instance : Wire Condition where
  encode condition := .ofFields condition.fields
  decode := ofWire false

end Condition

namespace Validator

/-- The settings of a validator; a validator without any has no content. -/
def settings : Validator → Option (List (String × Json))
  | fieldRequired field => some [("field", encode field)]
  | fieldNotEmpty field => some [("field", encode field)]
  | regex field pattern => some [("field", encode field), ("pattern", encode pattern)]
  | previousStatus status => some [("status_id", encode status)]
  | parentStatus statuses => some [("status_ids", encode statuses)]
  | permission right => some [("permission", encode right)]
  | commentRequired => none
  | resolutionSet => none

/-- The validator of a type whose settings a content holds. -/
def ofContent (content : Content) : ValidatorType → Option Validator
  | .fieldRequired => do return fieldRequired (← (← content.settings?).field "field")
  | .fieldNotEmpty => do return fieldNotEmpty (← (← content.settings?).field "field")
  | .regex => do
    let settings ← content.settings?
    return regex (← settings.field "field") (← settings.required "pattern")
  | .previousStatus => do
    return previousStatus (← (← content.settings?).required "status_id")
  | .parentStatus => do return parentStatus (← (← content.settings?).required "status_ids")
  | .permission => do return permission (← (← content.settings?).named "permission")
  | .commentRequired => content.nothing.map fun () => commentRequired
  | .resolutionSet => content.nothing.map fun () => resolutionSet

/-- The fields that write a validator. -/
def fields (validator : Validator) : List (String × Json) :=
  kindFields validator.type.name validator.settings

/-- The validator that a value writes, in content that was set aside or not. -/
def ofWire (isSetAside : Bool) (json : Json) : Option Validator := do
  let (tag, content) ← tagged? "type" "config" isSetAside json
  ofContent content (← Enumeration.ofName? tag)

instance : Wire Validator where
  encode validator := .ofFields validator.fields
  decode := ofWire false

end Validator

namespace Recipient

/-- The recipient that a value writes. A user's parts are named, and may be placed in content that
was set aside. -/
def ofWire (isSetAside : Bool) : Json → Option Recipient
  | .object [("user", .object fields)] => do
    return user (← (Parts.named fields).required 0 "user_id")
  | .object [("user", json)] => do
    guard isSetAside
    return user (← (← parts? 1 json).required 0 "user_id")
  | json => do
    match ← tag? isSetAside json with
    | "reporter" => return reporter
    | "assignee" => return assignee
    | "project_lead" => return projectLead
    | _ => none

/-- The recipients of a list. -/
def listOfWire (isSetAside : Bool) : Json → Option (List Recipient)
  | .array items => items.mapM (ofWire isSetAside)
  | _ => none

/-- A role is written by its name, a user by an object under the name `user`. -/
instance : Wire Recipient where
  encode
    | .reporter => .string "reporter"
    | .assignee => .string "assignee"
    | .projectLead => .string "project_lead"
    | .user id => .ofFields [("user", .ofFields [("user_id", encode id)])]
  decode := ofWire false

end Recipient

namespace PostFunction

/-- The settings of a post-function; a post-function without any has no content. -/
def settings : PostFunction → Option (List (String × Json))
  | updateField field value => some [("field", encode field), ("value", value)]
  | assignToReporter => none
  | assignToLead => none
  | clearField field => some [("field", encode field)]
  | copyFieldValue fromField toField target => some [
    ("from_field", encode fromField), ("to_field", encode toField), ("target", encode target)]
  | addComment body => some [("body", encode body)]
  | sendNotification event recipients => some [
    ("event", encode event), ("recipients", encode recipients)]
  | triggerWebhook url => some [("url", encode url)]
  | updateParent field value => some [("field", encode field), ("value", value)]

/-- The post-function of a type whose settings a content holds. A copy goes to the issue itself
unless another target is given, and a notification to nobody unless recipients are. -/
def ofContent (content : Content) : PostFunctionType → Option PostFunction
  | .updateField => do
    let settings ← content.settings?
    return updateField (← settings.field "field") (← settings.required "value")
  | .assignToReporter => content.nothing.map fun () => assignToReporter
  | .assignToLead => content.nothing.map fun () => assignToLead
  | .clearField => do return clearField (← (← content.settings?).field "field")
  | .copyFieldValue => do
    let settings ← content.settings?
    return copyFieldValue (← settings.field "from_field") (← settings.field "to_field")
      (← settings.withDefault "target" .thisIssue (named? settings.isSetAside))
  | .addComment => do return addComment (← (← content.settings?).required "body")
  | .sendNotification => do
    let settings ← content.settings?
    return sendNotification (← settings.required "event")
      (← settings.withDefault "recipients" [] (Recipient.listOfWire settings.isSetAside))
  | .triggerWebhook => do return triggerWebhook (← (← content.settings?).required "url")
  | .updateParent => do
    let settings ← content.settings?
    return updateParent (← settings.field "field") (← settings.required "value")

/-- The fields that write a post-function. -/
def fields (postFunction : PostFunction) : List (String × Json) :=
  kindFields postFunction.type.name postFunction.settings

/-- The post-function that a value writes, in content that was set aside or not. -/
def ofWire (isSetAside : Bool) (json : Json) : Option PostFunction := do
  let (tag, content) ← tagged? "type" "config" isSetAside json
  ofContent content (← Enumeration.ofName? tag)

instance : Wire PostFunction where
  encode postFunction := .ofFields postFunction.fields
  decode := ofWire false

end PostFunction

namespace Rule

/-- The object of a rule, given the fields that write its content. -/
def toWire {κ : Type} (rule : Rule κ) (content : List (String × Json)) : Json :=
  .ofFields <| content ++ [
    ("id", encode rule.id),
    ("transition_id", encode rule.transitionId),
    ("position", encode rule.position)]

/-- The rule that an object writes, given a reader of its content. No array writes a rule; all
fields are set aside before the content is read from them. -/
def ofWire {κ : Type} (content : Json → Option κ) : Json → Option (Rule κ)
  | .object fields => do
    let parts := Parts.named fields
    return {
      id := ← parts.required 0 "id"
      transitionId := ← parts.required 1 "transition_id"
      content := ← content (.object fields)
      position := ← parts.required 2 "position" }
  | _ => none

end Rule

instance : Wire ConditionRule where
  encode rule := rule.toWire rule.content.fields
  decode := Rule.ofWire (Condition.ofWire true)

instance : Wire ValidatorRule where
  encode rule := rule.toWire <|
    rule.content.validator.fields ++ [("error_message", encode rule.content.errorMessage)]
  decode := Rule.ofWire fun json => do
    let parts ← parts? 0 json
    return {
      validator := ← Validator.ofWire true json
      errorMessage := ← parts.optional 3 "error_message" }

instance : Wire PostFunctionRule where
  encode rule := rule.toWire rule.content.fields
  decode := Rule.ofWire (PostFunction.ofWire true)

end IssueFlow
