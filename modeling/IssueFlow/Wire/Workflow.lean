import IssueFlow.Wire.Issue
import IssueFlow.Workflow

/-!
# Wire forms of workflows
-/

namespace IssueFlow

open Wire

instance : Wire StatusCategory := .enumeration

instance : Wire Workflow where
  encode workflow := .ofFields [
    ("id", encode workflow.id),
    ("name", encode workflow.name),
    ("description", encode workflow.description),
    ("is_default", encode workflow.isDefault),
    ("created_at", encode workflow.createdAt)]
  decode json := do
    let parts ← parts? 5 json
    return {
      id := ← parts.required 0 "id"
      name := ← parts.required 1 "name"
      description := ← parts.optional 2 "description"
      isDefault := ← parts.required 3 "is_default"
      createdAt := ← parts.required 4 "created_at" }

instance : Wire Status where
  encode status := .ofFields [
    ("id", encode status.id),
    ("workflow_id", encode status.workflowId),
    ("name", encode status.name),
    ("category", encode status.category),
    ("position", encode status.position)]
  decode json := do
    let parts ← parts? 5 json
    return {
      id := ← parts.required 0 "id"
      workflowId := ← parts.required 1 "workflow_id"
      name := ← parts.required 2 "name"
      category := ← parts.required 3 "category"
      position := ← parts.required 4 "position" }

instance : Wire Transition where
  encode transition := .ofFields [
    ("id", encode transition.id),
    ("workflow_id", encode transition.workflowId),
    ("from_status", encode transition.fromStatus),
    ("to_status", encode transition.toStatus),
    ("name", encode transition.name),
    ("screen_id", encode transition.screenId)]
  decode json := do
    let parts ← parts? 6 json
    return {
      id := ← parts.required 0 "id"
      workflowId := ← parts.required 1 "workflow_id"
      fromStatus := ← parts.required 2 "from_status"
      toStatus := ← parts.required 3 "to_status"
      name := ← parts.required 4 "name"
      screenId := ← parts.optional 5 "screen_id" }

instance : Wire TransitionDraft where
  encode draft := .ofFields [
    ("workflow_id", encode draft.workflowId),
    ("from_status", encode draft.fromStatus),
    ("to_status", encode draft.toStatus),
    ("name", encode draft.name),
    ("screen_id", encode draft.screenId)]
  decode json := do
    let parts ← parts? 5 json
    return {
      workflowId := ← parts.required 0 "workflow_id"
      fromStatus := ← parts.required 1 "from_status"
      toStatus := ← parts.required 2 "to_status"
      name := ← parts.required 3 "name"
      screenId := ← parts.optional 4 "screen_id" }

instance : Wire Screen where
  encode screen := .ofFields [
    ("id", encode screen.id),
    ("name", encode screen.name),
    ("description", encode screen.description)]
  decode json := do
    let parts ← parts? 3 json
    return {
      id := ← parts.required 0 "id"
      name := ← parts.required 1 "name"
      description := ← parts.optional 2 "description" }

instance : Wire ScreenField where
  encode row := .ofFields [
    ("screen_id", encode row.screenId),
    ("field", encode row.field),
    ("is_required", encode row.isRequired),
    ("position", encode row.position)]
  decode json := do
    let parts ← parts? 4 json
    return {
      screenId := ← parts.required 0 "screen_id"
      field := ← parts.required 1 "field"
      isRequired := ← parts.required 2 "is_required"
      position := ← parts.required 3 "position" }

instance : Wire WorkflowScheme where
  encode scheme := .ofFields [
    ("id", encode scheme.id),
    ("name", encode scheme.name),
    ("description", encode scheme.description),
    ("created_at", encode scheme.createdAt)]
  decode json := do
    let parts ← parts? 4 json
    return {
      id := ← parts.required 0 "id"
      name := ← parts.required 1 "name"
      description := ← parts.optional 2 "description"
      createdAt := ← parts.required 3 "created_at" }

instance : Wire SchemeMapping where
  encode mapping := .ofFields [
    ("scheme_id", encode mapping.schemeId),
    ("issue_type_id", encode mapping.issueTypeId),
    ("workflow_id", encode mapping.workflowId)]
  decode json := do
    let parts ← parts? 3 json
    return {
      schemeId := ← parts.required 0 "scheme_id"
      issueTypeId := ← parts.optional 1 "issue_type_id"
      workflowId := ← parts.required 2 "workflow_id" }

end IssueFlow
