import IssueFlow.Issue.Basic
import IssueFlow.Store.IssueLog
import IssueFlow.Wire.Basic

/-!
# Wire forms of issues
-/

namespace IssueFlow

open Wire

instance : Wire StandardField := .enumeration

namespace FieldRef

/-- The reference that a value writes, in content that was set aside or not. -/
def ofWire (isSetAside : Bool) (json : Json) : Option FieldRef := do
  let (tag, parts) ← taggedParts? "field_type" ["standard", "custom"] isSetAside json
  let parts ← parts.upTo 1
  match tag with
  | "standard" => return .standard (← named? true (← parts.find? 0 "field_name"))
  | "custom" => return .custom (← parts.required 0 "field_id")
  | _ => none

instance : Wire FieldRef where
  encode
    | .standard field => .ofFields [
      ("field_type", .string "standard"),
      ("field_name", encode field)]
    | .custom id => .ofFields [
      ("field_type", .string "custom"),
      ("field_id", encode id)]
  decode := ofWire false

end FieldRef

instance : Wire FieldUpdate where
  encode update := .ofFields [
    ("field", encode update.field),
    ("value", update.value)]
  decode json := do
    let parts ← parts? 2 json
    return {
      field := ← parts.required 0 "field"
      value := ← parts.required 1 "value" }

/-- Custom fields are the fields of an object. -/
instance : Wire (SortedMap CustomFieldId Json) where
  encode map := .ofFields (map.entries.map fun (id, value) => (id.text, value))
  decode
    | .object fields => some (.ofList (fields.map fun (id, value) => (⟨id⟩, value)))
    | _ => none

instance : Wire Issue where
  encode issue := .ofFields [
    ("id", encode issue.id),
    ("key", encode issue.key),
    ("project_id", encode issue.projectId),
    ("issue_type_id", encode issue.issueTypeId),
    ("status_id", encode issue.statusId),
    ("parent_id", encode issue.parentId),
    ("summary", encode issue.summary),
    ("description", encode issue.description),
    ("priority", encode issue.priority),
    ("reporter_id", encode issue.reporterId),
    ("assignee_id", encode issue.assigneeId),
    ("resolution", encode issue.resolution),
    ("due_date", encode issue.dueDate),
    ("labels", encode issue.labels),
    ("custom_fields", encode issue.customFields),
    ("created_at", encode issue.createdAt),
    ("updated_at", encode issue.updatedAt)]
  decode json := do
    let parts ← parts? 17 json
    return {
      id := ← parts.required 0 "id"
      key := ← parts.required 1 "key"
      projectId := ← parts.required 2 "project_id"
      issueTypeId := ← parts.required 3 "issue_type_id"
      statusId := ← parts.required 4 "status_id"
      parentId := ← parts.optional 5 "parent_id"
      summary := ← parts.required 6 "summary"
      description := ← parts.optional 7 "description"
      priority := ← parts.optional 8 "priority"
      reporterId := ← parts.required 9 "reporter_id"
      assigneeId := ← parts.optional 10 "assignee_id"
      resolution := ← parts.optional 11 "resolution"
      dueDate := ← parts.optional 12 "due_date"
      labels := ← parts.required 13 "labels"
      customFields := ← parts.required 14 "custom_fields"
      createdAt := ← parts.required 15 "created_at"
      updatedAt := ← parts.required 16 "updated_at" }

instance : Wire Comment where
  encode comment := .ofFields [
    ("id", encode comment.id),
    ("issue_id", encode comment.issueId),
    ("author_id", encode comment.authorId),
    ("body", encode comment.body),
    ("created_at", encode comment.createdAt)]
  decode json := do
    let parts ← parts? 5 json
    return {
      id := ← parts.required 0 "id"
      issueId := ← parts.required 1 "issue_id"
      authorId := ← parts.required 2 "author_id"
      body := ← parts.required 3 "body"
      createdAt := ← parts.required 4 "created_at" }

instance : Wire StatusChange where
  encode change := .ofFields [
    ("issue_id", encode change.issueId),
    ("from_status", encode change.fromStatus),
    ("to_status", encode change.toStatus),
    ("changed_by", encode change.changedBy),
    ("changed_at", encode change.changedAt)]
  decode json := do
    let parts ← parts? 5 json
    return {
      issueId := ← parts.required 0 "issue_id"
      fromStatus := ← parts.optional 1 "from_status"
      toStatus := ← parts.required 2 "to_status"
      changedBy := ← parts.required 3 "changed_by"
      changedAt := ← parts.required 4 "changed_at" }

instance : Wire TransitionCommit where
  encode commit := .ofFields [
    ("issue_id", encode commit.issueId),
    ("expected_status", encode commit.expectedStatus),
    ("new_status", encode commit.newStatus),
    ("actor", encode commit.actor),
    ("field_updates", encode commit.fieldUpdates),
    ("resolution", encode commit.resolution),
    ("comment", encode commit.comment),
    ("committed_at", encode commit.committedAt)]
  decode json := do
    let parts ← parts? 8 json
    return {
      issueId := ← parts.required 0 "issue_id"
      expectedStatus := ← parts.required 1 "expected_status"
      newStatus := ← parts.required 2 "new_status"
      actor := ← parts.required 3 "actor"
      fieldUpdates := ← parts.required 4 "field_updates"
      resolution := ← parts.optional 5 "resolution"
      comment := ← parts.optional 6 "comment"
      committedAt := ← parts.required 7 "committed_at" }

end IssueFlow
