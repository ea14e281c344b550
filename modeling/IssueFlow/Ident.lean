/-!
# Identifiers

Every row has an opaque key. Keys of different kinds of rows are different types.
-/

namespace IssueFlow

/-- What an identifier names. -/
inductive Entity where
  | user
  | group
  | project
  | issue
  | issueType
  | permissionScheme
  | grant
  | projectRole
  | globalRole
  | globalGrant
  | workflow
  | status
  | transition
  | workflowScheme
  | screen
  | customField
  | rule
  | comment
  deriving DecidableEq, Repr

/-- The key of a row. -/
structure Ident (entity : Entity) where
  text : String
  deriving DecidableEq, Repr

namespace Ident

variable {entity : Entity}

/-- The first eight characters, for display. -/
def short (id : Ident entity) : String :=
  String.ofList (id.text.toList.take 8)

/-- Identifiers are ordered as their texts, by code point. -/
instance : Ord (Ident entity) where
  compare := compareOn text

instance : Std.TransOrd (Ident entity) :=
  inferInstanceAs (Std.TransCmp (compareOn (Ident.text : Ident entity → String)))

instance : Std.LawfulEqOrd (Ident entity) where
  compare_self {a} := by
    show compare a.text a.text = .eq
    simp
  eq_of_compare {a b} h := by
    have h : compare a.text b.text = .eq := h
    cases a
    cases b
    simp_all

instance : ToString (Ident entity) where
  toString id := id.text

end Ident

abbrev UserId := Ident .user
abbrev GroupId := Ident .group
abbrev ProjectId := Ident .project
abbrev IssueId := Ident .issue
abbrev IssueTypeId := Ident .issueType
abbrev PermissionSchemeId := Ident .permissionScheme
abbrev GrantId := Ident .grant
abbrev RoleId := Ident .projectRole
abbrev GlobalRoleId := Ident .globalRole
abbrev GlobalGrantId := Ident .globalGrant
abbrev WorkflowId := Ident .workflow
abbrev StatusId := Ident .status
abbrev TransitionId := Ident .transition
abbrev WorkflowSchemeId := Ident .workflowScheme
abbrev ScreenId := Ident .screen
abbrev CustomFieldId := Ident .customField
abbrev RuleId := Ident .rule
abbrev CommentId := Ident .comment

end IssueFlow
