import IssueFlow.ParseError

/-!
# Permissions

The closed sets of rights: those within a project and those of the whole installation.
-/

namespace IssueFlow

/-- A right within a project. -/
inductive Permission where
  | browseProjects
  | administerProjects
  | manageSprintsBacklog
  | createIssues
  | editIssues
  | deleteIssues
  | assignIssues
  | assignableUser
  | closeIssues
  | resolveIssues
  | transitionIssues
  | scheduleIssues
  | modifyReporter
  | linkIssues
  | moveIssues
  | setIssueSecurity
  | addComments
  | editAllComments
  | editOwnComments
  | deleteAllComments
  | deleteOwnComments
  | manageWatchers
  | viewWatchers
  | viewVoters
  | workOnIssues
  | editOwnWorkLogs
  | editAllWorkLogs
  | deleteOwnWorkLogs
  | deleteAllWorkLogs
  deriving DecidableEq, Repr

namespace Permission

def name : Permission → String
  | browseProjects => "browse_projects"
  | administerProjects => "administer_projects"
  | manageSprintsBacklog => "manage_sprints_backlog"
  | createIssues => "create_issues"
  | editIssues => "edit_issues"
  | deleteIssues => "delete_issues"
  | assignIssues => "assign_issues"
  | assignableUser => "assignable_user"
  | closeIssues => "close_issues"
  | resolveIssues => "resolve_issues"
  | transitionIssues => "transition_issues"
  | scheduleIssues => "schedule_issues"
  | modifyReporter => "modify_reporter"
  | linkIssues => "link_issues"
  | moveIssues => "move_issues"
  | setIssueSecurity => "set_issue_security"
  | addComments => "add_comments"
  | editAllComments => "edit_all_comments"
  | editOwnComments => "edit_own_comments"
  | deleteAllComments => "delete_all_comments"
  | deleteOwnComments => "delete_own_comments"
  | manageWatchers => "manage_watchers"
  | viewWatchers => "view_watchers"
  | viewVoters => "view_voters"
  | workOnIssues => "work_on_issues"
  | editOwnWorkLogs => "edit_own_work_logs"
  | editAllWorkLogs => "edit_all_work_logs"
  | deleteOwnWorkLogs => "delete_own_work_logs"
  | deleteAllWorkLogs => "delete_all_work_logs"

def all : List Permission :=
  [browseProjects, administerProjects, manageSprintsBacklog, createIssues, editIssues,
    deleteIssues, assignIssues, assignableUser, closeIssues, resolveIssues, transitionIssues,
    scheduleIssues, modifyReporter, linkIssues, moveIssues, setIssueSecurity, addComments,
    editAllComments, editOwnComments, deleteAllComments, deleteOwnComments, manageWatchers,
    viewWatchers, viewVoters, workOnIssues, editOwnWorkLogs, editAllWorkLogs, deleteOwnWorkLogs,
    deleteAllWorkLogs]

instance : Enumeration Permission where
  all := all
  name := name
  find_name a := by cases a <;> decide

instance : Ord Permission := ⟨Enumeration.compare⟩

def parse : String → Except ParseError Permission :=
  Enumeration.parse .unknownPermission

end Permission

/-- A right of the whole installation. -/
inductive GlobalPermission where
  | administerSystem
  | administerJira
  | manageUsers
  | manageGroups
  | createProjects
  | browseUsers
  | shareDashboards
  | manageFilters
  | bulkChange
  deriving DecidableEq, Repr

namespace GlobalPermission

def name : GlobalPermission → String
  | administerSystem => "administer_system"
  | administerJira => "administer_jira"
  | manageUsers => "manage_users"
  | manageGroups => "manage_groups"
  | createProjects => "create_projects"
  | browseUsers => "browse_users"
  | shareDashboards => "share_dashboards"
  | manageFilters => "manage_filters"
  | bulkChange => "bulk_change"

def all : List GlobalPermission :=
  [administerSystem, administerJira, manageUsers, manageGroups, createProjects, browseUsers,
    shareDashboards, manageFilters, bulkChange]

instance : Enumeration GlobalPermission where
  all := all
  name := name
  find_name a := by cases a <;> decide

instance : Ord GlobalPermission := ⟨Enumeration.compare⟩

def parse : String → Except ParseError GlobalPermission :=
  Enumeration.parse .unknownPermission

end GlobalPermission

end IssueFlow
