import IssueFlow.Proofs.Deletion
import IssueFlow.Proofs.StatusLog

/-!
# Truthful answers

What the answer of an operation says about the rows of the store (`Answer.Truthful`). An operation
that answers a flag compares no tables: it looks for the row before it writes. That the flag tells
whether rows were added or removed is shown for each way of writing (`truthful_of_removal`,
`truthful_of_erase`, `truthful_of_put`, `truthful_of_append`) and then for each operation. For the
deletions it rests on the references between rows: where a row is not there, nothing hangs on it.
-/

namespace IssueFlow

theorem Table.put_of_mem {α κ : Type} [Keyed α κ] [DecidableEq κ] {table : Table α} {row : α}
    (stored : row ∈ table.rows) : table.put row = table := by
  obtain ⟨rows, distinct⟩ := table
  have same : putRow row rows = rows := by
    induction rows with
    | nil => cases stored
    | cons first rest ih =>
      obtain ⟨apart, tail⟩ := List.nodup_cons.1 distinct
      rcases List.mem_cons.1 stored with rfl | later
      · rw [putRow, if_pos rfl]
      · have differs : Keyed.key first ≠ Keyed.key row :=
          fun equal => apart (equal ▸ List.mem_map.2 ⟨row, later, rfl⟩)
        rw [putRow, if_neg differs, ih tail later]
  simp only [put, same]

/-- A row of some table. -/
inductive Row where
  | user (row : User)
  | group (row : Group)
  | groupMember (row : GroupId × UserId)
  | project (row : Project)
  | permissionScheme (row : PermissionScheme)
  | grant (row : SchemeGrant)
  | globalGrant (row : GlobalGrant)
  | role (row : ProjectRole)
  | actor (row : RoleActor)
  | defaultActor (row : DefaultActor)
  | globalRole (row : GlobalRole)
  | globalMember (row : GlobalRoleId × UserId)
  | workflow (row : Workflow)
  | status (row : Status)
  | transition (row : Transition)
  | condition (row : ConditionRule)
  | validator (row : ValidatorRule)
  | postFunction (row : PostFunctionRule)
  | screen (row : Screen)
  | screenField (row : ScreenField)
  | workflowScheme (row : WorkflowScheme)
  | mapping (row : SchemeMapping)
  | issue (row : Issue)
  | statusChange (row : StatusChange)
  | comment (row : Comment)

/-- The row is in its table. -/
def Tables.Has (t : Tables) : Row → Prop
  | .user row => row ∈ t.accounts.users.rows
  | .group row => row ∈ t.accounts.groups.rows
  | .groupMember row => row ∈ t.accounts.members.rows
  | .project row => row ∈ t.projects.rows
  | .permissionScheme row => row ∈ t.grants.schemes.rows
  | .grant row => row ∈ t.grants.grants
  | .globalGrant row => row ∈ t.grants.globalGrants
  | .role row => row ∈ t.membership.roles.rows
  | .actor row => row ∈ t.membership.actors
  | .defaultActor row => row ∈ t.membership.defaults
  | .globalRole row => row ∈ t.membership.globalRoles.rows
  | .globalMember row => row ∈ t.membership.globalMembers.rows
  | .workflow row => row ∈ t.graph.workflows.rows
  | .status row => row ∈ t.graph.statuses.rows
  | .transition row => row ∈ t.graph.transitions.rows
  | .condition row => row ∈ t.graph.conditions
  | .validator row => row ∈ t.graph.validators
  | .postFunction row => row ∈ t.graph.postFunctions
  | .screen row => row ∈ t.graph.screens.rows
  | .screenField row => row ∈ t.graph.screenFields
  | .workflowScheme row => row ∈ t.graph.schemes.rows
  | .mapping row => row ∈ t.graph.mappings
  | .issue row => row ∈ t.issueLog.issues.rows
  | .statusChange row => row ∈ t.issueLog.history
  | .comment row => row ∈ t.issueLog.comments

/-- What an answer says is so. A flag is raised when a row was added or removed, and else nothing
has changed; a count is the number of actors that projects have gained; a row that is answered is
stored. -/
def Answer.Truthful (t after : Tables) : Answer → Prop
  | .done => True
  | .flag changed => (changed = true ↔ ∃ row, ¬ (t.Has row ↔ after.Has row)) ∧
    (changed = false → after = t)
  | .count number => ∃ new, new.length = number ∧
    after = { t with membership.actors := t.membership.actors ++ new }
  | .edge row => after.Has (.transition row)
  | .grant row => after.Has (.grant row)
  | .globalGrant row => after.Has (.globalGrant row)
  | .issue row => after.Has (.issue row)

section Ways

variable {α : Type} {t after : Tables}

private theorem truthful_flag {changed : Bool}
    (differs : changed = true → ∃ row, ¬ (t.Has row ↔ after.Has row))
    (same : changed = false → after = t) : (Answer.flag changed).Truthful t after := by
  refine ⟨⟨differs, ?_⟩, same⟩
  rintro ⟨row, differs⟩
  by_contra lowered
  rw [same (Bool.eq_false_iff.2 lowered)] at differs
  exact differs Iff.rfl

/-- Rows that fit are dropped from a list, and the flag says whether there were any. -/
theorem truthful_of_removal {p : α → Bool} {rows : List α} (row : α → Row)
    (before : ∀ r, t.Has (row r) ↔ r ∈ rows)
    (later : ∀ r, after.Has (row r) ↔ r ∈ rows.filter fun r => !p r)
    (same : (rows.filter fun r => !p r) = rows → after = t) :
    (Answer.flag (rows.any p)).Truthful t after := by
  refine truthful_flag ?_ ?_
  · intro found
    obtain ⟨r, member, fits⟩ := List.any_eq_true.1 found
    refine ⟨row r, ?_⟩
    simp [before, later, member, fits]
  · intro absent
    refine same (List.filter_eq_self.2 fun r member => ?_)
    simpa using List.any_eq_false.1 absent r member

/-- A row is erased, and the flag says whether it was there. -/
theorem truthful_of_erase {κ : Type} [Keyed α κ] [DecidableEq κ] {table : Table α} {erased : κ}
    (row : α → Row) (before : ∀ r, t.Has (row r) ↔ r ∈ table.rows)
    (later : ∀ r, after.Has (row r) ↔ r ∈ (table.erase erased).rows)
    (same : table.erase erased = table → after = t) :
    (Answer.flag (table.contains erased)).Truthful t after := by
  refine truthful_flag ?_ ?_
  · intro found
    obtain ⟨r, member, named⟩ := Table.contains_iff.1 found
    refine ⟨row r, ?_⟩
    simp [before, later, member, named]
  · intro absent
    refine same (Table.filter_eq_self fun r member => ?_)
    have differs : Keyed.key r ≠ erased := by
      intro named
      cases absent.symm.trans (Table.contains_iff.2 ⟨r, member, named⟩)
    simpa using differs

/-- A row that is its own key is put, and the flag says whether it is new. -/
theorem truthful_of_put [Keyed α α] [DecidableEq α] (self : ∀ r : α, Keyed.key r = r)
    {table : Table α} {new : α} (row : α → Row) (before : ∀ r, t.Has (row r) ↔ r ∈ table.rows)
    (later : ∀ r, after.Has (row r) ↔ r ∈ (table.put new).rows)
    (same : table.put new = table → after = t) :
    (Answer.flag (!table.contains new)).Truthful t after := by
  refine truthful_flag ?_ ?_
  · intro fresh
    refine ⟨row new, ?_⟩
    have absent : new ∉ table.rows := by
      intro member
      rw [Table.contains_iff.2 ⟨new, member, self new⟩] at fresh
      cases fresh
    rw [before, later, Table.mem_put]
    simp [absent]
  · intro stored
    have stored : table.contains new = true := by simpa using stored
    obtain ⟨r, member, named⟩ := Table.contains_iff.1 stored
    rw [self] at named
    subst named
    exact same (Table.put_of_mem member)

/-- A row is appended unless one like it is there, and the flag says whether it was. -/
theorem truthful_of_append {rows : List α} {new : α} (row : α → Row)
    (before : ∀ r, t.Has (row r) ↔ r ∈ rows)
    (later : ∀ r, after.Has (row r) ↔ r ∈ rows ++ [new]) (fresh : new ∉ rows) :
    (Answer.flag true).Truthful t after := by
  refine truthful_flag (fun _ => ⟨row new, ?_⟩) (by rintro ⟨⟩)
  rw [before, later]
  simp [fresh]

private theorem truthful_unchanged (t : Tables) : (Answer.flag false).Truthful t t :=
  truthful_flag (by rintro ⟨⟩) fun _ => rfl

end Ways

/-! ## Operations -/

section Operations

variable {now : Timestamp} {t : Tables} {answer : Answer}

private theorem Accounts.Operation.truthful {op : Accounts.Operation} {part : Accounts}
    (done : op.apply.run t.accounts = (.ok answer, part)) :
    answer.Truthful t { t with accounts := part } := by
  cases op with
  | putUser | createGroup =>
    rw [Operation.apply, answering_eq_ok_iff] at done
    obtain ⟨_, -, rfl⟩ := done
    trivial
  | addMember group user =>
    rw [Operation.apply, answering_eq_ok_iff] at done
    obtain ⟨_, done, rfl⟩ := done
    obtain ⟨-, done⟩ := require_bind_eq_ok_iff.1 (looked done)
    cases done
    exact truthful_of_put (fun _ => rfl) .groupMember (fun _ => .rfl) (fun _ => .rfl)
      fun kept => by rw [kept]
  | removeMember group user =>
    rw [Operation.apply, answering_eq_ok_iff] at done
    obtain ⟨_, done, rfl⟩ := done
    cases done
    exact truthful_of_erase .groupMember (fun _ => .rfl) (fun _ => .rfl) fun kept => by rw [kept]

private theorem Projects.Operation.truthful {op : Projects.Operation} {part : Projects}
    (done : op.apply.run t.projects = (.ok answer, part)) :
    answer.Truthful t { t with projects := part } := by
  cases op with
  | create | setPermissionScheme | setWorkflowScheme =>
    rw [Operation.apply, answering_eq_ok_iff] at done
    obtain ⟨_, -, rfl⟩ := done
    trivial

private theorem Grants.Operation.truthful {op : Grants.Operation} {part : Grants}
    (done : (op.apply now).run t.grants = (.ok answer, part)) :
    answer.Truthful t { t with grants := part } := by
  cases op with
  | createScheme =>
    rw [Operation.apply, answering_eq_ok_iff] at done
    obtain ⟨_, -, rfl⟩ := done
    trivial
  | grant scheme permission grantee =>
    rw [Operation.apply, answering_eq_ok_iff] at done
    obtain ⟨row, done, rfl⟩ := done
    obtain ⟨-, done⟩ := require_bind_eq_ok_iff.1 (looked done)
    split at done
    · next existing found =>
      cases done
      exact List.mem_of_find?_eq_some found
    · cases done
      exact List.mem_concat_self
  | revoke scheme permission grantee =>
    rw [Operation.apply, answering_eq_ok_iff] at done
    obtain ⟨_, done, rfl⟩ := done
    cases done
    exact truthful_of_removal .grant (fun _ => .rfl) (fun _ => .rfl) fun kept => by rw [kept]
  | grantGlobal permission role group =>
    rw [Operation.apply, answering_eq_ok_iff] at done
    obtain ⟨row, done, rfl⟩ := done
    replace done := looked done
    split at done
    · next existing found =>
      cases done
      exact List.mem_of_find?_eq_some found
    · cases done
      exact List.mem_concat_self
  | revokeGlobal id =>
    rw [Operation.apply, answering_eq_ok_iff] at done
    obtain ⟨_, done, rfl⟩ := done
    cases done
    exact truthful_of_removal .globalGrant (fun _ => .rfl) (fun _ => .rfl) fun kept => by rw [kept]

private theorem Membership.Operation.truthful {op : Membership.Operation} {part : Membership}
    (done : (op.apply now).run t.membership = (.ok answer, part)) :
    answer.Truthful t { t with membership := part } := by
  cases op with
  | createRole | createGlobalRole =>
    rw [Operation.apply, answering_eq_ok_iff] at done
    obtain ⟨_, -, rfl⟩ := done
    trivial
  | addActor project role actor =>
    rw [Operation.apply, answering_eq_ok_iff] at done
    obtain ⟨_, done, rfl⟩ := done
    obtain ⟨-, done⟩ := require_bind_eq_ok_iff.1 (looked done)
    split at done
    · cases done
      exact truthful_unchanged t
    · next absent =>
      cases done
      refine truthful_of_append .actor (fun _ => .rfl) (fun _ => .rfl) fun member => absent ?_
      exact List.any_eq_true.2 ⟨_, member, by simp [RoleActor.isFor]⟩
  | removeActor project role actor =>
    rw [Operation.apply, answering_eq_ok_iff] at done
    obtain ⟨_, done, rfl⟩ := done
    cases done
    exact truthful_of_removal .actor (fun _ => .rfl) (fun _ => .rfl) fun kept => by rw [kept]
  | addDefault role actor =>
    rw [Operation.apply, answering_eq_ok_iff] at done
    obtain ⟨_, done, rfl⟩ := done
    obtain ⟨-, done⟩ := require_bind_eq_ok_iff.1 (looked done)
    split at done
    · cases done
      exact truthful_unchanged t
    · next absent =>
      cases done
      refine truthful_of_append .defaultActor (fun _ => .rfl) (fun _ => .rfl)
        fun member => absent ?_
      exact List.any_eq_true.2 ⟨_, member, by simp [DefaultActor.isFor]⟩
  | removeDefault role actor =>
    rw [Operation.apply, answering_eq_ok_iff] at done
    obtain ⟨_, done, rfl⟩ := done
    cases done
    exact truthful_of_removal .defaultActor (fun _ => .rfl) (fun _ => .rfl)
      fun kept => by rw [kept]
  | copyDefaults project =>
    rw [Operation.apply, answering_eq_ok_iff] at done
    obtain ⟨_, done, rfl⟩ := done
    cases done
    exact ⟨_, rfl, rfl⟩
  | addGlobalMember role user =>
    rw [Operation.apply, answering_eq_ok_iff] at done
    obtain ⟨_, done, rfl⟩ := done
    obtain ⟨-, done⟩ := require_bind_eq_ok_iff.1 (looked done)
    cases done
    exact truthful_of_put (fun _ => rfl) .globalMember (fun _ => .rfl) (fun _ => .rfl)
      fun kept => by rw [kept]
  | removeGlobalMember role user =>
    rw [Operation.apply, answering_eq_ok_iff] at done
    obtain ⟨_, done, rfl⟩ := done
    cases done
    exact truthful_of_erase .globalMember (fun _ => .rfl) (fun _ => .rfl) fun kept => by rw [kept]

/-- A deletion is flagged when the row is there. Where it is not, nothing hangs on it. -/
private theorem Deletion.truthful (linked : t.graph.Linked) (d : Deletion) {found : Bool}
    {part : Graph} (done : d.apply.run t.graph = (.ok found, part)) :
    (Answer.flag found).Truthful t { t with graph := part } := by
  rcases apply_cases linked d with ⟨-, what, refused⟩ | ⟨-, carriedOut⟩
  · cases refused.symm.trans done
  · cases carriedOut.symm.trans done
    refine truthful_flag ?_ fun absent => by rw [without_of_absent linked absent]
    intro stored
    cases d with
    | workflow id =>
      obtain ⟨row, member, rfl⟩ := Table.contains_iff.1 stored
      refine ⟨.workflow row, fun kept => ?_⟩
      simpa [takesWorkflow, Keyed.key] using (Table.mem_filter.1 (kept.1 member)).2
    | status id =>
      obtain ⟨row, member, rfl⟩ := Table.contains_iff.1 stored
      refine ⟨.status row, fun kept => ?_⟩
      simpa [takesStatus, Keyed.key] using (Table.mem_filter.1 (kept.1 member)).2
    | transition id =>
      obtain ⟨row, member, rfl⟩ := Table.contains_iff.1 stored
      refine ⟨.transition row, fun kept => ?_⟩
      simpa [takesEdge, Keyed.key] using (Table.mem_filter.1 (kept.1 member)).2

private theorem Graph.Operation.truthful (linked : t.graph.Linked) {op : Graph.Operation}
    {part : Graph} (done : op.apply.run t.graph = (.ok answer, part)) :
    answer.Truthful t { t with graph := part } := by
  cases op with
  | createWorkflow | putStatus | addCondition | addValidator | addPostFunction | createScreen
    | putScreenField | createScheme | putMapping =>
    rw [Operation.apply, answering_eq_ok_iff] at done
    obtain ⟨_, -, rfl⟩ := done
    trivial
  | deleteWorkflow id =>
    rw [Operation.apply, answering_eq_ok_iff] at done
    obtain ⟨_, done, rfl⟩ := done
    exact Deletion.truthful linked (.workflow id) done
  | deleteStatus id =>
    rw [Operation.apply, answering_eq_ok_iff] at done
    obtain ⟨_, done, rfl⟩ := done
    exact Deletion.truthful linked (.status id) done
  | deleteTransition id =>
    rw [Operation.apply, answering_eq_ok_iff] at done
    obtain ⟨_, done, rfl⟩ := done
    exact Deletion.truthful linked (.transition id) done
  | putTransition draft =>
    rw [Operation.apply, answering_eq_ok_iff] at done
    obtain ⟨row, done, rfl⟩ := done
    obtain ⟨-, -, -, -, placed⟩ := putTransition_eq_ok done
    rw [placeEdge] at placed
    split at placed <;>
    · cases placed
      exact Table.mem_put.2 (.inl rfl)
  | deleteCondition id =>
    rw [Operation.apply, answering_eq_ok_iff] at done
    obtain ⟨_, done, rfl⟩ := done
    cases done
    exact truthful_of_removal .condition (fun _ => .rfl) (fun _ => .rfl) fun kept => by rw [kept]
  | deleteValidator id =>
    rw [Operation.apply, answering_eq_ok_iff] at done
    obtain ⟨_, done, rfl⟩ := done
    cases done
    exact truthful_of_removal .validator (fun _ => .rfl) (fun _ => .rfl) fun kept => by rw [kept]
  | deletePostFunction id =>
    rw [Operation.apply, answering_eq_ok_iff] at done
    obtain ⟨_, done, rfl⟩ := done
    cases done
    exact truthful_of_removal .postFunction (fun _ => .rfl) (fun _ => .rfl)
      fun kept => by rw [kept]
  | removeScreenField screen field =>
    rw [Operation.apply, answering_eq_ok_iff] at done
    obtain ⟨_, done, rfl⟩ := done
    cases done
    exact truthful_of_removal .screenField (fun _ => .rfl) (fun _ => .rfl) fun kept => by rw [kept]
  | removeMapping scheme issueType =>
    rw [Operation.apply, answering_eq_ok_iff] at done
    obtain ⟨_, done, rfl⟩ := done
    cases done
    exact truthful_of_removal .mapping (fun _ => .rfl) (fun _ => .rfl) fun kept => by rw [kept]

private theorem IssueLog.Operation.truthful {op : IssueLog.Operation} {part : IssueLog}
    (done : (op.apply now).run t.issueLog = (.ok answer, part)) :
    answer.Truthful t { t with issueLog := part } := by
  cases op with
  | createIssue | addComment =>
    rw [Operation.apply, answering_eq_ok_iff] at done
    obtain ⟨_, -, rfl⟩ := done
    trivial
  | commitTransition commit =>
    rw [Operation.apply, answering_eq_ok_iff] at done
    obtain ⟨row, done, rfl⟩ := done
    obtain ⟨_, _, _, _, issues, _⟩ := commitTransition_eq_ok done
    show row ∈ part.issues.rows
    rw [issues]
    exact Table.mem_put.2 (.inl rfl)
  | updateFields id updates =>
    rw [Operation.apply, answering_eq_ok_iff] at done
    obtain ⟨row, done, rfl⟩ := done
    obtain ⟨_, _, _, _, _, rfl⟩ := updateFields_eq_ok done
    exact Table.mem_put.2 (.inl rfl)

private theorem Tables.Operation.truthful (linked : t.graph.Linked) {op : Tables.Operation}
    {after : Tables} (done : (op.apply now).run t = (.ok answer, after)) :
    answer.Truthful t after := by
  cases changes_of_apply done with
  | onAccounts applied => exact Accounts.Operation.truthful applied
  | onProjects applied => exact Projects.Operation.truthful applied
  | onGrants applied => exact Grants.Operation.truthful applied
  | onMembership applied => exact Membership.Operation.truthful applied
  | onGraph applied => exact Graph.Operation.truthful linked applied
  | onIssueLog applied => exact IssueLog.Operation.truthful applied

end Operations

/-- The writes of fields that an operation carries out one after the other. -/
def Tables.Operation.fieldWrites : Tables.Operation → List FieldUpdate
  | .onIssueLog (.commitTransition commit) => commit.fieldUpdates
  | .onIssueLog (.updateFields _ updates) => updates
  | _ => []

/-- An operation with a write that is refused does not answer, wherever the write stands. -/
private theorem Tables.Operation.accepts_of_ok {now : Timestamp} {t after : Tables}
    {answer : Answer} {op : Tables.Operation} (done : (op.apply now).run t = (.ok answer, after))
    (issue : Issue) :
    ∀ update ∈ op.fieldWrites, issue.Accepts update := by
  cases op with
  | onIssueLog op =>
    rw [apply] at done
    obtain ⟨part, applied, -⟩ := within_eq_ok_iff.1 done
    cases op with
    | commitTransition commit =>
      rw [IssueLog.Operation.apply, answering_eq_ok_iff] at applied
      obtain ⟨row, applied, -⟩ := applied
      obtain ⟨current, -, -, written, -⟩ := IssueLog.commitTransition_eq_ok applied
      obtain ⟨next, wrote, -⟩ := IssueLog.rowOver_eq_ok_iff.1 written
      intro update member
      exact (Issue.applyUpdates_ok_iff.1 ⟨next, wrote⟩ update member).transfer issue
    | updateFields id updates =>
      rw [IssueLog.Operation.apply, answering_eq_ok_iff] at applied
      obtain ⟨row, applied, -⟩ := applied
      obtain ⟨current, next, -, wrote, -⟩ := IssueLog.updateFields_eq_ok applied
      intro update member
      exact (Issue.applyUpdates_ok_iff.1 ⟨next, wrote⟩ update member).transfer issue
    | createIssue | addComment => exact List.forall_mem_nil _
  | onAccounts | onProjects | onGrants | onMembership | onGraph => exact List.forall_mem_nil _

/-- In a reachable store an operation that fails changes nothing, and it does fail while the tables
are out of reach and when one of the fields that it writes has no room for the value, wherever the
write stands among the others. An operation that answers tells the truth: its flag is raised exactly
when it has added or removed a row, it counts the actors that it has added, and a row that it
answers is stored. -/
theorem operations_answer_truthfully {store : Store} (reached : store.Reachable)
    (op : Tables.Operation) :
    (∀ e next, store.update (op.apply store.now) = (.error e, next) → next = store) ∧
    (store.unavailable = true → store.update (op.apply store.now) = (.error .outage, store)) ∧
    (∀ issue : Issue, (∃ update ∈ op.fieldWrites, ¬ issue.Accepts update) →
      ∃ e, store.update (op.apply store.now) = (.error e, store)) ∧
    ∀ answer next, store.update (op.apply store.now) = (.ok answer, next) →
      next = { store with tables := next.tables } ∧
        answer.Truthful store.tables next.tables := by
  refine ⟨?_, ?_, ?_, ?_⟩
  · intro e next failed
    rcases store.update_cases (op.failsClean store.now) with
      ⟨cause, left⟩ | ⟨answer, tables, -, -, updated⟩
    · cases left.symm.trans failed
      rfl
    · cases updated.symm.trans failed
  · intro unavailable
    rw [Store.update, if_pos unavailable]
  · rintro issue ⟨update, member, refused⟩
    rcases store.update_cases (op.failsClean store.now) with failed | ⟨answer, tables, -, done, -⟩
    · exact failed
    · exact absurd (op.accepts_of_ok done issue update member) refused
  · intro answer next answered
    rcases store.update_cases (op.failsClean store.now) with
      ⟨e, failed⟩ | ⟨answer, tables, -, done, updated⟩
    · cases failed.symm.trans answered
    · cases updated.symm.trans answered
      exact ⟨rfl, Tables.Operation.truthful reached.linked done⟩

/-- Two writes to the sample issue, the second of which has no room for its value, change nothing.
The edge is deleted, and deleting it again is answered by a lowered flag. -/
theorem sample_truthful_answers :
    Sample.store.Reachable ∧
      (∃ e, Sample.store.update ((Tables.Operation.onIssueLog (.updateFields ⟨"I1"⟩
        [⟨.standard .priority, .string "high"⟩, ⟨.standard .summary, .null⟩])).apply
          Sample.store.now) = (.error e, Sample.store)) ∧
      (∃ next, Sample.store.update ((Tables.Operation.onGraph (.deleteTransition ⟨"T1"⟩)).apply
          Sample.store.now) = (.ok (.flag true), next) ∧
        ∃ row, ¬ (Sample.store.tables.Has row ↔ next.tables.Has row)) ∧
      ∃ next, Sample.store.update ((Tables.Operation.onGraph (.deleteTransition ⟨"T2"⟩)).apply
        Sample.store.now) = (.ok (.flag false), next) ∧ next.tables = Sample.store.tables := by
  have reached : Sample.store.Reachable := ⟨Sample.steps, rfl⟩
  refine ⟨reached, ?_, ?_, ?_⟩
  · obtain ⟨-, -, refuses, -⟩ := operations_answer_truthfully reached (.onIssueLog (.updateFields
      ⟨"I1"⟩ [⟨.standard .priority, .string "high"⟩, ⟨.standard .summary, .null⟩]))
    refine refuses Sample.issue ⟨⟨.standard .summary, .null⟩, ?_, ?_⟩
    · simp [Tables.Operation.fieldWrites]
    · rintro ⟨next, ⟨⟩⟩
  · obtain ⟨-, -, -, answers⟩ :=
      operations_answer_truthfully reached (.onGraph (.deleteTransition ⟨"T1"⟩))
    obtain ⟨-, truth, -⟩ := answers (.flag true) _ rfl
    exact ⟨_, rfl, truth.1 rfl⟩
  · obtain ⟨-, -, -, answers⟩ :=
      operations_answer_truthfully reached (.onGraph (.deleteTransition ⟨"T2"⟩))
    obtain ⟨-, -, same⟩ := answers (.flag false) _ rfl
    exact ⟨_, rfl, same rfl⟩

end IssueFlow
