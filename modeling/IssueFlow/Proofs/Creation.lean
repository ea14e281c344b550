import IssueFlow.Proofs.Reachable
import IssueFlow.Proofs.TableLaws

/-!
# Creation

Nine operations of the store create a row. A row whose key is new is added behind the others and
changes none of them (`Creation.Adds`). All nine but one ask for a new key. A global role is asked
for a new kind only, and takes the place of a role of another kind that has its key
(`Creation.Overwrites`).
-/

namespace IssueFlow

namespace Table

variable {α κ : Type} [Keyed α κ] [DecidableEq κ]

/-- A table gains a row under a new key. All rows that it had stay, in their places. -/
structure Gains (table : Table α) (row : α) (after : Table α) : Prop where
  fresh : table.contains (Keyed.key row) = false
  rows : after.rows = table.rows ++ [row]

theorem putRow_of_fresh {row : α} {rows : List α}
    (fresh : ∀ r ∈ rows, Keyed.key r ≠ Keyed.key row) : putRow row rows = rows ++ [row] := by
  induction rows with
  | nil => rfl
  | cons r rows ih =>
    obtain ⟨differs, others⟩ := List.forall_mem_cons.1 fresh
    rw [putRow, if_neg differs, ih others, List.cons_append]

theorem gains_put {table : Table α} {row : α} (fresh : table.contains (Keyed.key row) = false) :
    table.Gains row (table.put row) := by
  refine ⟨fresh, putRow_of_fresh ?_⟩
  intro r member same
  rw [contains_iff.2 ⟨r, member, same⟩] at fresh
  cases fresh

private theorem get?_put_self (table : Table α) (row : α) :
    (table.put row).get? (Keyed.key row) = some row := by
  rw [get?_put, if_pos rfl]

end Table

/-- A row to be created. -/
inductive Creation where
  | permissionScheme (row : PermissionScheme)
  | projectRole (row : ProjectRole)
  | globalRole (row : GlobalRole)
  | group (row : Group)
  | project (row : Project)
  | workflow (row : Workflow)
  | screen (row : Screen)
  | workflowScheme (row : WorkflowScheme)
  | issue (row : Issue) (createdBy : UserId)

namespace Creation

def carryOut : Creation → Change Tables Unit
  | permissionScheme row => Tables.onGrants (Grants.createScheme row)
  | projectRole row => Tables.onMembership (Membership.createRole row)
  | globalRole row => Tables.onMembership (Membership.createGlobalRole row)
  | group row => Tables.onAccounts (Accounts.createGroup row)
  | project row => Tables.onProjects (Projects.create row)
  | workflow row => Tables.onGraph (Graph.createWorkflow row)
  | screen row => Tables.onGraph (Graph.createScreen row)
  | workflowScheme row => Tables.onGraph (Graph.createScheme row)
  | issue row createdBy => Tables.onIssueLog (IssueLog.createIssue row createdBy)

theorem failsClean (c : Creation) : FailsClean c.carryOut := by
  cases c with
  | permissionScheme row => exact (Grants.createScheme_failsClean row).onGrants
  | projectRole row => exact (Membership.createRole_failsClean row).onMembership
  | globalRole row => exact (Membership.createGlobalRole_failsClean row).onMembership
  | group row => exact (Accounts.createGroup_failsClean row).onAccounts
  | project row => exact (Projects.create_failsClean row).onProjects
  | workflow row => exact (Graph.createWorkflow_failsClean row).onGraph
  | screen row => exact (Graph.createScreen_failsClean row).onGraph
  | workflowScheme row => exact (Graph.createScheme_failsClean row).onGraph
  | issue row createdBy => exact (IssueLog.createIssue_failsClean row createdBy).onIssueLog

/-- A row with the key is there. -/
def IsUsed (t : Tables) : Creation → Prop
  | permissionScheme row => t.grants.schemes.contains row.id = true
  | projectRole row => t.membership.roles.contains row.id = true
  | globalRole row => t.membership.globalRoles.contains row.id = true
  | group row => t.accounts.groups.contains row.id = true
  | project row => t.projects.contains row.id = true
  | workflow row => t.graph.workflows.contains row.id = true
  | screen row => t.graph.screens.contains row.id = true
  | workflowScheme row => t.graph.schemes.contains row.id = true
  | issue row _ => t.issueLog.issues.contains row.id = true

/-- A row is there that agrees in something else that tells the rows of the table apart. -/
def Clashes (t : Tables) : Creation → Prop
  | permissionScheme row => (∃ other ∈ t.grants.schemes.rows, other.name = row.name) ∨
    row.isDefault = true ∧ ∃ other ∈ t.grants.schemes.rows, other.isDefault = true
  | projectRole row => ∃ other ∈ t.membership.roles.rows, other.name = row.name
  | globalRole row => ∃ other ∈ t.membership.globalRoles.rows, other.kind = row.kind
  | group row => ∃ other ∈ t.accounts.groups.rows, other.name = row.name
  | project row => ∃ other ∈ t.projects.rows, other.key = row.key
  | workflow _ | screen _ | workflowScheme _ | issue _ _ => False

/-- The key is looked at before the row is put. -/
def ChecksKey : Creation → Prop
  | globalRole _ => False
  | _ => True

/-- The tables once the row was put. -/
def put (t : Tables) : Creation → Tables
  | permissionScheme row => { t with grants.schemes := t.grants.schemes.put row }
  | projectRole row => { t with membership.roles := t.membership.roles.put row }
  | globalRole row => { t with membership.globalRoles := t.membership.globalRoles.put row }
  | group row => { t with accounts.groups := t.accounts.groups.put row }
  | project row => { t with projects := t.projects.put row }
  | workflow row => { t with graph.workflows := t.graph.workflows.put row }
  | screen row => { t with graph.screens := t.graph.screens.put row }
  | workflowScheme row => { t with graph.schemes := t.graph.schemes.put row }
  | issue row createdBy => { t with
      issueLog.issues := t.issueLog.issues.put row
      issueLog.history :=
        t.issueLog.history ++ [⟨row.id, none, row.statusId, createdBy, row.createdAt⟩] }

/-- The table of the row gains it and all other tables stay, but for the history, which gains the
first entry of an issue. -/
def Adds (t after : Tables) : Creation → Prop
  | permissionScheme row => t.grants.schemes.Gains row after.grants.schemes ∧
    after = { t with grants.schemes := after.grants.schemes }
  | projectRole row => t.membership.roles.Gains row after.membership.roles ∧
    after = { t with membership.roles := after.membership.roles }
  | globalRole row => t.membership.globalRoles.Gains row after.membership.globalRoles ∧
    after = { t with membership.globalRoles := after.membership.globalRoles }
  | group row => t.accounts.groups.Gains row after.accounts.groups ∧
    after = { t with accounts.groups := after.accounts.groups }
  | project row => t.projects.Gains row after.projects ∧
    after = { t with projects := after.projects }
  | workflow row => t.graph.workflows.Gains row after.graph.workflows ∧
    after = { t with graph.workflows := after.graph.workflows }
  | screen row => t.graph.screens.Gains row after.graph.screens ∧
    after = { t with graph.screens := after.graph.screens }
  | workflowScheme row => t.graph.schemes.Gains row after.graph.schemes ∧
    after = { t with graph.schemes := after.graph.schemes }
  | issue row createdBy => t.issueLog.issues.Gains row after.issueLog.issues ∧
    after = { t with
      issueLog.issues := after.issueLog.issues
      issueLog.history :=
        t.issueLog.history ++ [⟨row.id, none, row.statusId, createdBy, row.createdAt⟩] }

/-- The store answers the row when it is asked for it: a global role by its kind, any other row by
its key. -/
def Shows (store : Store) : Creation → Prop
  | permissionScheme row => store.read (·.grants.schemes.get? row.id) = .ok (some row)
  | projectRole row => store.read (·.membership.roles.get? row.id) = .ok (some row)
  | globalRole row => store.read (·.membership.globalRole? row.kind) = .ok (some row)
  | group row => store.read (·.accounts.groups.get? row.id) = .ok (some row)
  | project row => store.read (·.projects.get? row.id) = .ok (some row)
  | workflow row => store.read (·.graph.workflows.get? row.id) = .ok (some row)
  | screen row => store.read (·.graph.screens.get? row.id) = .ok (some row)
  | workflowScheme row => store.read (·.graph.schemes.get? row.id) = .ok (some row)
  | issue row _ => store.read (·.issueLog.issues.get? row.id) = .ok (some row)

variable {c : Creation} {t after : Tables}

/-- A creation is carried out when what it looks at is new. -/
private theorem carryOut_eq_ok_iff {u : Unit} :
    c.carryOut.run t = (.ok u, after) ↔
      (c.ChecksKey → ¬ c.IsUsed t) ∧ ¬ c.Clashes t ∧ c.put t = after := by
  -- What a creation asks for stands in its function, and each of the functions ends with a put.
  cases c <;> simp only [carryOut, Tables.onAccounts, Tables.onProjects, Tables.onGrants,
    Tables.onMembership, Tables.onGraph, Tables.onIssueLog, within_eq_ok_iff, Grants.createScheme,
    Membership.createRole, Membership.createGlobalRole, Accounts.createGroup, Projects.create,
    Graph.createWorkflow, Graph.createScreen, Graph.createScheme, IssueLog.createIssue,
    run_get_bind, require_bind_eq_ok_iff, set_run_eq_ok_iff]
  case permissionScheme row =>
    cases byDefault : row.isDefault <;>
      simp [ChecksKey, IsUsed, Clashes, put, and_assoc, byDefault]
  all_goals simp [ChecksKey, IsUsed, Clashes, put, and_assoc, and_left_comm]

/-- Under a new key the row is added. -/
private theorem adds_put_iff : c.Adds t (c.put t) ↔ ¬ c.IsUsed t := by
  cases c <;> simp only [Adds, put, IsUsed, Bool.not_eq_true, and_true]
  all_goals exact ⟨Table.Gains.fresh, Table.gains_put⟩

/-- The only role of a kind is the one that is found. -/
private theorem globalRole?_of_gains {m : Membership} {row : GlobalRole} {roles : Table GlobalRole}
    (gains : m.globalRoles.Gains row roles) (apart : ∀ r ∈ m.globalRoles.rows, r.kind ≠ row.kind) :
    { m with globalRoles := roles }.globalRole? row.kind = some row := by
  have absent : m.globalRoles.rows.find? (·.kind == row.kind) = none := by
    simpa using apart
  rw [Membership.globalRole?, gains.rows, List.find?_append, absent, Option.none_or]
  simp

/-- A row that was added is answered. -/
private theorem shows_put {store : Store} (available : store.unavailable = false)
    (written : store.tables = c.put t) (fresh : ¬ c.IsUsed t) (apart : ¬ c.Clashes t) :
    c.Shows store := by
  cases c <;> simp only [Shows, Store.read_of_available available, written, put, Except.ok.injEq]
  case globalRole row =>
    refine globalRole?_of_gains (Table.gains_put (Bool.not_eq_true _ ▸ fresh)) ?_
    simpa [Clashes] using apart
  all_goals exact Table.get?_put_self ..

/-- A creation fails and leaves the store, or it adds its row, which is answered from then on. -/
def FailsOrAdds (store : Store) (c : Creation) : Prop :=
  (∃ e, store.update c.carryOut = (.error e, store)) ∨
    ∃ tables, store.update c.carryOut = (.ok (), { store with tables }) ∧
      c.Adds store.tables tables ∧ c.Shows { store with tables }

/-- A creation goes through though the key is in use, so that the row which has it is lost. -/
structure Overwrites (store : Store) (c : Creation) : Prop where
  available : store.unavailable = false
  unchecked : ¬ c.ChecksKey
  used : c.IsUsed store.tables
  apart : ¬ c.Clashes store.tables

/-- A creation never changes a row that is there, except for a role of a new kind under a key in
use. -/
theorem failsOrAdds_iff (store : Store) (c : Creation) :
    c.FailsOrAdds store ↔ ¬ c.Overwrites store := by
  constructor
  · rintro outcome ⟨available, unchecked, used, apart⟩
    have done : c.carryOut.run store.tables = (.ok (), c.put store.tables) :=
      carryOut_eq_ok_iff.2 ⟨fun checks => absurd checks unchecked, apart, rfl⟩
    have updated : store.update c.carryOut =
        (.ok (), { store with tables := c.put store.tables }) := by
      simp [Store.update, available, done]
    rcases outcome with ⟨e, failed⟩ | ⟨tables, wrote, adds, -⟩
    · rw [updated] at failed
      cases failed
    · rw [updated] at wrote
      cases wrote
      exact adds_put_iff.1 adds used
  · intro kept
    rcases Store.update_cases store c.failsClean with
      ⟨e, failed⟩ | ⟨_, tables, available, done, wrote⟩
    · exact .inl ⟨e, failed⟩
    · obtain ⟨checked, apart, rfl⟩ := carryOut_eq_ok_iff.1 done
      have fresh : ¬ c.IsUsed store.tables := fun used =>
        kept ⟨available, fun checks => checked checks used, used, apart⟩
      exact .inr ⟨_, wrote, adds_put_iff.2 fresh, shows_put available rfl fresh apart⟩

end Creation

/-- The role of users is there under the key `staff`. -/
def Sample.rolled : Store :=
  store.after [.operation (.onMembership (.createGlobalRole (.ofKind ⟨"staff"⟩ .user)))]

/-- The role of system administrators takes the key, and the role of users is gone. -/
theorem role_overwritten :
    Sample.rolled.Reachable ∧
      Sample.rolled.read (·.membership.globalRole? .user) =
        .ok (some (.ofKind ⟨"staff"⟩ .user)) ∧
      (Sample.rolled.update (Creation.globalRole (.ofKind ⟨"staff"⟩ .systemAdmin)).carryOut).2.read
        (·.membership.globalRole? .user) = .ok none ∧
      ¬ (Creation.globalRole (.ofKind ⟨"staff"⟩ .systemAdmin)).FailsOrAdds Sample.rolled := by
  have reached : Sample.rolled.Reachable :=
    IsTrans.trans (r := Store.Leads) _ _ _ ⟨Sample.steps, rfl⟩ ⟨_, rfl⟩
  refine ⟨reached, rfl, rfl, ?_⟩
  rintro (⟨e, failed⟩ | ⟨tables, -, ⟨gains, -⟩, -⟩)
  · have done : (Sample.rolled.update
        (Creation.globalRole (.ofKind ⟨"staff"⟩ .systemAdmin)).carryOut).1.isOk = true := by
      decide +kernel
    rw [failed] at done
    cases done
  · have used : Sample.rolled.tables.membership.globalRoles.contains ⟨"staff"⟩ = true := by
      decide +kernel
    cases used.symm.trans gains.fresh

end IssueFlow
