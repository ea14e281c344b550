import IssueFlow.Directory
import IssueFlow.Grant
import IssueFlow.Role
import IssueFlow.Wire.Basic

/-!
# Wire forms of users, projects, grants and roles
-/

namespace IssueFlow

open Wire

instance : Wire Permission := .enumeration
instance : Wire GlobalPermission := .enumeration
instance : Wire GranteeType := .enumeration
instance : Wire ActorType := .enumeration
instance : Wire GlobalRoleKind := .enumeration

instance : Wire User where
  encode user := .ofFields [
    ("id", encode user.id),
    ("username", encode user.username),
    ("display_name", encode user.displayName),
    ("is_admin", encode user.isAdmin),
    ("is_active", encode user.isActive),
    ("created_at", encode user.createdAt)]
  decode json := do
    let parts ← parts? 6 json
    return {
      id := ← parts.required 0 "id"
      username := ← parts.required 1 "username"
      displayName := ← parts.required 2 "display_name"
      isAdmin := ← parts.required 3 "is_admin"
      isActive := ← parts.required 4 "is_active"
      createdAt := ← parts.required 5 "created_at" }

instance : Wire Group where
  encode group := .ofFields [
    ("id", encode group.id),
    ("name", encode group.name),
    ("description", encode group.description),
    ("created_at", encode group.createdAt)]
  decode json := do
    let parts ← parts? 4 json
    return {
      id := ← parts.required 0 "id"
      name := ← parts.required 1 "name"
      description := ← parts.optional 2 "description"
      createdAt := ← parts.required 3 "created_at" }

instance : Wire Project where
  encode project := .ofFields [
    ("id", encode project.id),
    ("key", encode project.key),
    ("name", encode project.name),
    ("lead_id", encode project.leadId),
    ("permission_scheme_id", encode project.permissionSchemeId),
    ("workflow_scheme_id", encode project.workflowSchemeId),
    ("created_at", encode project.createdAt)]
  decode json := do
    let parts ← parts? 7 json
    return {
      id := ← parts.required 0 "id"
      key := ← parts.required 1 "key"
      name := ← parts.required 2 "name"
      leadId := ← parts.optional 3 "lead_id"
      permissionSchemeId := ← parts.required 4 "permission_scheme_id"
      workflowSchemeId := ← parts.optional 5 "workflow_scheme_id"
      createdAt := ← parts.required 6 "created_at" }

/-- A subject of grants is written by its type and, unless it is everyone, its key. -/
instance : Wire Grantee where
  encode grantee := .ofFields <| ("grantee_type", encode grantee.type) ::
    (grantee.id?.map fun id => ("grantee_id", Json.string id)).toList
  decode json := do
    let (tag, content) ← tagged? "grantee_type" "grantee_id" false json
    match ← Enumeration.ofName? tag with
    | GranteeType.user => return .user (← decode (← content.json?))
    | GranteeType.group => return .group (← decode (← content.json?))
    | GranteeType.projectRole => return .projectRole (← decode (← content.json?))
    | GranteeType.anyone =>
      content.nothing
      return .anyone

instance : Wire PermissionScheme where
  encode scheme := .ofFields [
    ("id", encode scheme.id),
    ("name", encode scheme.name),
    ("description", encode scheme.description),
    ("is_default", encode scheme.isDefault),
    ("created_at", encode scheme.createdAt)]
  decode json := do
    let parts ← parts? 5 json
    return {
      id := ← parts.required 0 "id"
      name := ← parts.required 1 "name"
      description := ← parts.optional 2 "description"
      isDefault := ← parts.required 3 "is_default"
      createdAt := ← parts.required 4 "created_at" }

instance : Wire SchemeGrant where
  encode grant := .ofFields [
    ("id", encode grant.id),
    ("scheme_id", encode grant.schemeId),
    ("permission", encode grant.permission),
    ("grantee", encode grant.grantee),
    ("created_at", encode grant.createdAt)]
  decode json := do
    let parts ← parts? 5 json
    return {
      id := ← parts.required 0 "id"
      schemeId := ← parts.required 1 "scheme_id"
      permission := ← parts.required 2 "permission"
      grantee := ← parts.required 3 "grantee"
      createdAt := ← parts.required 4 "created_at" }

instance : Wire GlobalGrant where
  encode grant := .ofFields [
    ("id", encode grant.id),
    ("permission", encode grant.permission),
    ("global_role_id", encode grant.globalRoleId),
    ("group_id", encode grant.groupId),
    ("created_at", encode grant.createdAt)]
  decode json := do
    let parts ← parts? 5 json
    return {
      id := ← parts.required 0 "id"
      permission := ← parts.required 1 "permission"
      globalRoleId := ← parts.optional 2 "global_role_id"
      groupId := ← parts.optional 3 "group_id"
      createdAt := ← parts.required 4 "created_at" }

instance : Wire ProjectRole where
  encode role := .ofFields [
    ("id", encode role.id),
    ("name", encode role.name),
    ("description", encode role.description),
    ("created_at", encode role.createdAt)]
  decode json := do
    let parts ← parts? 4 json
    return {
      id := ← parts.required 0 "id"
      name := ← parts.required 1 "name"
      description := ← parts.optional 2 "description"
      createdAt := ← parts.required 3 "created_at" }

/-- An actor is written by its type and its key. -/
instance : Wire Actor where
  encode actor := .ofFields [
    ("actor_type", encode actor.type),
    ("actor_id", .string actor.id)]
  decode json := do
    let (tag, content) ← tagged? "actor_type" "actor_id" false json
    match ← Enumeration.ofName? tag with
    | ActorType.user => return .user (← decode (← content.json?))
    | ActorType.group => return .group (← decode (← content.json?))

instance : Wire RoleActor where
  encode row := .ofFields [
    ("project_id", encode row.projectId),
    ("role_id", encode row.roleId),
    ("actor", encode row.actor),
    ("created_at", encode row.createdAt)]
  decode json := do
    let parts ← parts? 4 json
    return {
      projectId := ← parts.required 0 "project_id"
      roleId := ← parts.required 1 "role_id"
      actor := ← parts.required 2 "actor"
      createdAt := ← parts.required 3 "created_at" }

instance : Wire DefaultActor where
  encode row := .ofFields [
    ("role_id", encode row.roleId),
    ("actor", encode row.actor),
    ("created_at", encode row.createdAt)]
  decode json := do
    let parts ← parts? 3 json
    return {
      roleId := ← parts.required 0 "role_id"
      actor := ← parts.required 1 "actor"
      createdAt := ← parts.required 2 "created_at" }

instance : Wire GlobalRole where
  encode role := .ofFields [
    ("id", encode role.id),
    ("kind", encode role.kind),
    ("name", encode role.name)]
  decode json := do
    let parts ← parts? 3 json
    return {
      id := ← parts.required 0 "id"
      kind := ← parts.required 1 "kind"
      name := ← parts.required 2 "name" }

end IssueFlow
