import IssueFlow.Proofs.Computation

/-!
# Operations

The operations of the store as data, one constructor for each. One that answers changes its group of
tables and no other (`Tables.changes_of_apply`). Every operation checks before it writes, so one that
fails leaves the tables (`Tables.Operation.failsClean`).
-/

namespace IssueFlow

/-- What an operation answers. -/
inductive Answer where
  | done
  | flag (holds : Bool)
  | count (number : Nat)
  | edge (row : Transition)
  | grant (row : SchemeGrant)
  | globalGrant (row : GlobalGrant)
  | issue (row : Issue)

/-- Tells what an operation answers as an `Answer`. -/
def answering {α τ : Type} (wrap : α → Answer) (op : Change τ α) : Change τ Answer :=
  wrap <$> op

theorem answering_eq_ok_iff {α τ : Type} {wrap : α → Answer} {op : Change τ α} {answer : Answer}
    {t after : τ} : (answering wrap op).run t = (.ok answer, after) ↔
      ∃ a, op.run t = (.ok a, after) ∧ wrap a = answer :=
  map_run_eq_ok_iff

theorem within_run {σ τ α : Type} (part : τ → σ) (put : σ → τ → τ) (op : Change σ α) (t : τ) :
    (op.within part put).run t = ((op.run (part t)).1, put (op.run (part t)).2 t) := rfl

theorem within_eq_ok_iff {σ τ α : Type} {part : τ → σ} {put : σ → τ → τ} {op : Change σ α}
    {t after : τ} {a : α} : (op.within part put).run t = (.ok a, after) ↔
      ∃ inner, op.run (part t) = (.ok a, inner) ∧ put inner t = after := by
  rw [within_run, Prod.mk.injEq]
  constructor
  · rintro ⟨answered, left⟩
    exact ⟨_, Prod.ext answered rfl, left⟩
  · rintro ⟨inner, done, left⟩
    rw [done]
    exact ⟨rfl, left⟩

inductive Accounts.Operation where
  | putUser (user : User)
  | createGroup (group : Group)
  | addMember (group : GroupId) (user : UserId)
  | removeMember (group : GroupId) (user : UserId)

def Accounts.Operation.apply : Accounts.Operation → Change Accounts Answer
  | .putUser user => answering (fun _ => .done) (Accounts.putUser user)
  | .createGroup group => answering (fun _ => .done) (Accounts.createGroup group)
  | .addMember group user => answering .flag (Accounts.addMember group user)
  | .removeMember group user => answering .flag (Accounts.removeMember group user)

inductive Projects.Operation where
  | create (project : Project)
  | setPermissionScheme (id : ProjectId) (scheme : PermissionSchemeId)
  | setWorkflowScheme (id : ProjectId) (scheme : Option WorkflowSchemeId)

def Projects.Operation.apply : Projects.Operation → Change Projects Answer
  | .create project => answering (fun _ => .done) (Projects.create project)
  | .setPermissionScheme id scheme =>
    answering (fun _ => .done) (Projects.setPermissionScheme id scheme)
  | .setWorkflowScheme id scheme =>
    answering (fun _ => .done) (Projects.setWorkflowScheme id scheme)

inductive Grants.Operation where
  | createScheme (scheme : PermissionScheme)
  | grant (scheme : PermissionSchemeId) (permission : Permission) (grantee : Grantee)
  | revoke (scheme : PermissionSchemeId) (permission : Permission) (grantee : Grantee)
  | grantGlobal (permission : GlobalPermission) (role : Option GlobalRoleId)
      (group : Option GroupId)
  | revokeGlobal (id : GlobalGrantId)

def Grants.Operation.apply (now : Timestamp) : Grants.Operation → Change Grants Answer
  | .createScheme scheme => answering (fun _ => .done) (Grants.createScheme scheme)
  | .grant scheme permission grantee =>
    answering .grant (Grants.grant scheme permission grantee now)
  | .revoke scheme permission grantee => answering .flag (Grants.revoke scheme permission grantee)
  | .grantGlobal permission role group =>
    answering .globalGrant (Grants.grantGlobal permission role group now)
  | .revokeGlobal id => answering .flag (Grants.revokeGlobal id)

inductive Membership.Operation where
  | createRole (role : ProjectRole)
  | addActor (project : ProjectId) (role : RoleId) (actor : Actor)
  | removeActor (project : ProjectId) (role : RoleId) (actor : Actor)
  | addDefault (role : RoleId) (actor : Actor)
  | removeDefault (role : RoleId) (actor : Actor)
  | copyDefaults (project : ProjectId)
  | createGlobalRole (role : GlobalRole)
  | addGlobalMember (role : GlobalRoleId) (user : UserId)
  | removeGlobalMember (role : GlobalRoleId) (user : UserId)

def Membership.Operation.apply (now : Timestamp) : Membership.Operation → Change Membership Answer
  | .createRole role => answering (fun _ => .done) (Membership.createRole role)
  | .addActor project role actor => answering .flag (Membership.addActor project role actor now)
  | .removeActor project role actor => answering .flag (Membership.removeActor project role actor)
  | .addDefault role actor => answering .flag (Membership.addDefault role actor now)
  | .removeDefault role actor => answering .flag (Membership.removeDefault role actor)
  | .copyDefaults project => answering .count (Membership.copyDefaults project now)
  | .createGlobalRole role => answering (fun _ => .done) (Membership.createGlobalRole role)
  | .addGlobalMember role user => answering .flag (Membership.addGlobalMember role user)
  | .removeGlobalMember role user => answering .flag (Membership.removeGlobalMember role user)

inductive Graph.Operation where
  | createWorkflow (workflow : Workflow)
  | deleteWorkflow (id : WorkflowId)
  | putStatus (status : Status)
  | deleteStatus (id : StatusId)
  | putTransition (draft : TransitionDraft)
  | deleteTransition (id : TransitionId)
  | addCondition (rule : ConditionRule)
  | deleteCondition (id : RuleId)
  | addValidator (rule : ValidatorRule)
  | deleteValidator (id : RuleId)
  | addPostFunction (rule : PostFunctionRule)
  | deletePostFunction (id : RuleId)
  | createScreen (screen : Screen)
  | putScreenField (field : ScreenField)
  | removeScreenField (screen : ScreenId) (field : FieldRef)
  | createScheme (scheme : WorkflowScheme)
  | putMapping (mapping : SchemeMapping)
  | removeMapping (scheme : WorkflowSchemeId) (issueType : Option IssueTypeId)

def Graph.Operation.apply : Graph.Operation → Change Graph Answer
  | .createWorkflow workflow => answering (fun _ => .done) (Graph.createWorkflow workflow)
  | .deleteWorkflow id => answering .flag (Graph.deleteWorkflow id)
  | .putStatus status => answering (fun _ => .done) (Graph.putStatus status)
  | .deleteStatus id => answering .flag (Graph.deleteStatus id)
  | .putTransition draft => answering .edge (Graph.putTransition draft)
  | .deleteTransition id => answering .flag (Graph.deleteTransition id)
  | .addCondition rule => answering (fun _ => .done) (Graph.addCondition rule)
  | .deleteCondition id => answering .flag (Graph.deleteCondition id)
  | .addValidator rule => answering (fun _ => .done) (Graph.addValidator rule)
  | .deleteValidator id => answering .flag (Graph.deleteValidator id)
  | .addPostFunction rule => answering (fun _ => .done) (Graph.addPostFunction rule)
  | .deletePostFunction id => answering .flag (Graph.deletePostFunction id)
  | .createScreen screen => answering (fun _ => .done) (Graph.createScreen screen)
  | .putScreenField field => answering (fun _ => .done) (Graph.putScreenField field)
  | .removeScreenField screen field => answering .flag (Graph.removeScreenField screen field)
  | .createScheme scheme => answering (fun _ => .done) (Graph.createScheme scheme)
  | .putMapping mapping => answering (fun _ => .done) (Graph.putMapping mapping)
  | .removeMapping scheme issueType => answering .flag (Graph.removeMapping scheme issueType)

inductive IssueLog.Operation where
  | createIssue (issue : Issue) (createdBy : UserId)
  | commitTransition (commit : TransitionCommit)
  | updateFields (issue : IssueId) (updates : List FieldUpdate)
  | addComment (issue : IssueId) (author : UserId) (body : String) (time : Timestamp)

def IssueLog.Operation.apply (now : Timestamp) : IssueLog.Operation → Change IssueLog Answer
  | .createIssue issue createdBy =>
    answering (fun _ => .done) (IssueLog.createIssue issue createdBy)
  | .commitTransition commit => answering .issue (IssueLog.commitTransition commit)
  | .updateFields issue updates => answering .issue (IssueLog.updateFields issue updates now)
  | .addComment issue author body time =>
    answering (fun _ => .done) (IssueLog.addComment issue author body time)

/-- An operation of the store. -/
inductive Tables.Operation where
  | onAccounts (op : Accounts.Operation)
  | onProjects (op : Projects.Operation)
  | onGrants (op : Grants.Operation)
  | onMembership (op : Membership.Operation)
  | onGraph (op : Graph.Operation)
  | onIssueLog (op : IssueLog.Operation)

def Tables.Operation.apply (now : Timestamp) : Tables.Operation → Change Tables Answer
  | .onAccounts op => Tables.onAccounts op.apply
  | .onProjects op => Tables.onProjects op.apply
  | .onGrants op => Tables.onGrants (op.apply now)
  | .onMembership op => Tables.onMembership (op.apply now)
  | .onGraph op => Tables.onGraph op.apply
  | .onIssueLog op => Tables.onIssueLog (op.apply now)

/-- What an operation that answers does: it changes its group of tables and no other. -/
inductive Tables.Changes (t : Tables) (now : Timestamp) :
    Tables.Operation → Answer → Tables → Prop where
  | onAccounts {op : Accounts.Operation} {answer : Answer} {accounts : Accounts}
      (applied : op.apply.run t.accounts = (.ok answer, accounts)) :
      Changes t now (.onAccounts op) answer { t with accounts }
  | onProjects {op : Projects.Operation} {answer : Answer} {projects : Projects}
      (applied : op.apply.run t.projects = (.ok answer, projects)) :
      Changes t now (.onProjects op) answer { t with projects }
  | onGrants {op : Grants.Operation} {answer : Answer} {grants : Grants}
      (applied : (op.apply now).run t.grants = (.ok answer, grants)) :
      Changes t now (.onGrants op) answer { t with grants }
  | onMembership {op : Membership.Operation} {answer : Answer} {membership : Membership}
      (applied : (op.apply now).run t.membership = (.ok answer, membership)) :
      Changes t now (.onMembership op) answer { t with membership }
  | onGraph {op : Graph.Operation} {answer : Answer} {graph : Graph}
      (applied : op.apply.run t.graph = (.ok answer, graph)) :
      Changes t now (.onGraph op) answer { t with graph }
  | onIssueLog {op : IssueLog.Operation} {answer : Answer} {issueLog : IssueLog}
      (applied : (op.apply now).run t.issueLog = (.ok answer, issueLog)) :
      Changes t now (.onIssueLog op) answer { t with issueLog }

theorem Tables.changes_of_apply {now : Timestamp} {op : Tables.Operation} {t after : Tables}
    {answer : Answer} (done : (op.apply now).run t = (.ok answer, after)) :
    t.Changes now op answer after := by
  cases op <;>
  · rw [Operation.apply] at done
    obtain ⟨part, applied, rfl⟩ := within_eq_ok_iff.1 done
    constructor
    exact applied

/-- An operation changes the issue tables as one of theirs, or not at all. -/
theorem Tables.Operation.issueLog_cases {now : Timestamp} {op : Tables.Operation}
    {t after : Tables} {answer : Answer} (done : (op.apply now).run t = (.ok answer, after)) :
    after.issueLog = t.issueLog ∨
      ∃ inner, op = .onIssueLog inner ∧
        (inner.apply now).run t.issueLog = (.ok answer, after.issueLog) := by
  cases changes_of_apply done with
  | onIssueLog applied => exact .inr ⟨_, rfl, applied⟩
  | onAccounts | onProjects | onGrants | onMembership | onGraph => exact .inl rfl

/-- An operation changes the workflow tables as one of theirs, or not at all. -/
theorem Tables.Operation.graph_cases {now : Timestamp} {op : Tables.Operation}
    {t after : Tables} {answer : Answer} (done : (op.apply now).run t = (.ok answer, after)) :
    after.graph = t.graph ∨
      ∃ inner, op = .onGraph inner ∧ inner.apply.run t.graph = (.ok answer, after.graph) := by
  cases changes_of_apply done with
  | onGraph applied => exact .inr ⟨_, rfl, applied⟩
  | onAccounts | onProjects | onGrants | onMembership | onIssueLog => exact .inl rfl

/-- An operation changes the role tables as one of theirs, or not at all. -/
theorem Tables.Operation.membership_cases {now : Timestamp} {op : Tables.Operation}
    {t after : Tables} {answer : Answer} (done : (op.apply now).run t = (.ok answer, after)) :
    after.membership = t.membership ∨
      ∃ inner, op = .onMembership inner ∧
        (inner.apply now).run t.membership = (.ok answer, after.membership) := by
  cases changes_of_apply done with
  | onMembership applied => exact .inr ⟨_, rfl, applied⟩
  | onAccounts | onProjects | onGrants | onGraph | onIssueLog => exact .inl rfl

/-! ## Operations that fail -/

private theorem FailsClean.answering {α τ : Type} {op : Change τ α} (clean : FailsClean op)
    (wrap : α → Answer) : FailsClean (answering wrap op) :=
  clean.map wrap

theorem failsClean_of_answering {α τ : Type} {wrap : α → Answer} {op : Change τ α}
    (clean : FailsClean (answering wrap op)) : FailsClean op := by
  intro t after e failed
  refine clean t after e ?_
  rw [IssueFlow.answering, map_run, failed]
  rfl

/-- A part that is put back as it was makes no difference to the whole. -/
private theorem FailsClean.within {σ τ α : Type} {part : τ → σ} {put : σ → τ → τ} {op : Change σ α}
    (clean : FailsClean op) (same : ∀ t, put (part t) t = t) :
    FailsClean (op.within part put) := by
  intro t after e failed
  obtain ⟨refused, left⟩ := Prod.mk.inj ((within_run part put op t).symm.trans failed)
  have kept := clean _ _ _ (Prod.ext refused rfl)
  exact left.symm.trans ((congrArg (put · t) kept).trans (same t))

section Groups

variable {α : Type}

theorem FailsClean.onAccounts {op : Change Accounts α} (clean : FailsClean op) :
    FailsClean (Tables.onAccounts op) :=
  clean.within fun _ => rfl

theorem FailsClean.onProjects {op : Change Projects α} (clean : FailsClean op) :
    FailsClean (Tables.onProjects op) :=
  clean.within fun _ => rfl

theorem FailsClean.onGrants {op : Change Grants α} (clean : FailsClean op) :
    FailsClean (Tables.onGrants op) :=
  clean.within fun _ => rfl

theorem FailsClean.onMembership {op : Change Membership α} (clean : FailsClean op) :
    FailsClean (Tables.onMembership op) :=
  clean.within fun _ => rfl

theorem FailsClean.onGraph {op : Change Graph α} (clean : FailsClean op) :
    FailsClean (Tables.onGraph op) :=
  clean.within fun _ => rfl

theorem FailsClean.onIssueLog {op : Change IssueLog α} (clean : FailsClean op) :
    FailsClean (Tables.onIssueLog op) :=
  clean.within fun _ => rfl

end Groups

section Writes

variable {σ α : Type}

private theorem failsClean_set (t : σ) : FailsClean (set t : Change σ PUnit) :=
  (answers_set t).failsClean

private theorem failsClean_set_return (t : σ) (a : α) :
    FailsClean (do set t; return a : Change σ α) :=
  (answers_set t).failsClean.bind fun _ => answers_pure a

end Writes

namespace Accounts

theorem putUser_failsClean (user : User) : FailsClean (putUser user) :=
  (answers_modify _).failsClean

theorem createGroup_failsClean (group : Group) : FailsClean (createGroup group) :=
  .look fun _ => .check fun _ => .check fun _ => failsClean_set _

theorem addMember_failsClean (group : GroupId) (user : UserId) :
    FailsClean (addMember group user) :=
  .look fun _ => .check fun _ => failsClean_set_return _ _

theorem removeMember_failsClean (group : GroupId) (user : UserId) :
    FailsClean (removeMember group user) :=
  .look fun _ => failsClean_set_return _ _

theorem Operation.failsClean (op : Operation) : FailsClean op.apply := by
  cases op with
  | putUser => exact (putUser_failsClean _).answering _
  | createGroup => exact (createGroup_failsClean _).answering _
  | addMember => exact (addMember_failsClean _ _).answering _
  | removeMember => exact (removeMember_failsClean _ _).answering _

end Accounts

namespace Projects

theorem create_failsClean (project : Project) : FailsClean (create project) :=
  .look fun _ => .check fun _ => .check fun _ => failsClean_set _

theorem alter_failsClean (id : ProjectId) (change : Project → Project) :
    FailsClean (alter id change) := by
  refine .look fun t => ?_
  split
  · exact failsClean_set _
  · exact failsClean_throw _

theorem Operation.failsClean (op : Operation) : FailsClean op.apply := by
  cases op with
  | create => exact (create_failsClean _).answering _
  | setPermissionScheme | setWorkflowScheme => exact (alter_failsClean _ _).answering _

end Projects

namespace Grants

theorem createScheme_failsClean (scheme : PermissionScheme) : FailsClean (createScheme scheme) :=
  .look fun _ => .check fun _ => .check fun _ => .check fun _ => failsClean_set _

theorem grant_failsClean (scheme : PermissionSchemeId) (permission : Permission)
    (grantee : Grantee) (now : Timestamp) :
    FailsClean (grant scheme permission grantee now) := by
  refine .look fun _ => .check fun _ => ?_
  split
  · exact (answers_pure _).failsClean
  · exact failsClean_set_return _ _

theorem revoke_failsClean (scheme : PermissionSchemeId) (permission : Permission)
    (grantee : Grantee) :
    FailsClean (revoke scheme permission grantee) :=
  .look fun _ => failsClean_set_return _ _

theorem grantGlobal_failsClean (permission : GlobalPermission) (role : Option GlobalRoleId)
    (group : Option GroupId) (now : Timestamp) :
    FailsClean (grantGlobal permission role group now) := by
  refine .look fun _ => ?_
  split
  · exact (answers_pure _).failsClean
  · exact failsClean_set_return _ _

theorem revokeGlobal_failsClean (id : GlobalGrantId) : FailsClean (revokeGlobal id) :=
  .look fun _ => failsClean_set_return _ _

theorem Operation.failsClean (now : Timestamp) (op : Operation) : FailsClean (op.apply now) := by
  cases op with
  | createScheme => exact (createScheme_failsClean _).answering _
  | grant => exact (grant_failsClean _ _ _ _).answering _
  | revoke => exact (revoke_failsClean _ _ _).answering _
  | grantGlobal => exact (grantGlobal_failsClean _ _ _ _).answering _
  | revokeGlobal => exact (revokeGlobal_failsClean _).answering _

end Grants

namespace Membership

theorem createRole_failsClean (role : ProjectRole) : FailsClean (createRole role) :=
  .look fun _ => .check fun _ => failsClean_set _

theorem addActor_failsClean (project : ProjectId) (role : RoleId) (actor : Actor)
    (now : Timestamp) :
    FailsClean (addActor project role actor now) := by
  refine .look fun _ => .check fun _ => ?_
  split
  · exact (answers_pure _).failsClean
  · exact failsClean_set_return _ _

theorem removeActor_failsClean (project : ProjectId) (role : RoleId) (actor : Actor) :
    FailsClean (removeActor project role actor) :=
  .look fun _ => failsClean_set_return _ _

theorem addDefault_failsClean (role : RoleId) (actor : Actor) (now : Timestamp) :
    FailsClean (addDefault role actor now) := by
  refine .look fun _ => .check fun _ => ?_
  split
  · exact (answers_pure _).failsClean
  · exact failsClean_set_return _ _

theorem removeDefault_failsClean (role : RoleId) (actor : Actor) :
    FailsClean (removeDefault role actor) :=
  .look fun _ => failsClean_set_return _ _

theorem copyDefaults_failsClean (project : ProjectId) (now : Timestamp) :
    FailsClean (copyDefaults project now) :=
  .look fun _ => failsClean_set_return _ _

theorem createGlobalRole_failsClean (role : GlobalRole) : FailsClean (createGlobalRole role) :=
  .look fun _ => .check fun _ => failsClean_set _

theorem addGlobalMember_failsClean (role : GlobalRoleId) (user : UserId) :
    FailsClean (addGlobalMember role user) :=
  .look fun _ => .check fun _ => failsClean_set_return _ _

theorem removeGlobalMember_failsClean (role : GlobalRoleId) (user : UserId) :
    FailsClean (removeGlobalMember role user) :=
  .look fun _ => failsClean_set_return _ _

theorem Operation.failsClean (now : Timestamp) (op : Operation) : FailsClean (op.apply now) := by
  cases op with
  | createRole => exact (createRole_failsClean _).answering _
  | addActor => exact (addActor_failsClean _ _ _ _).answering _
  | removeActor => exact (removeActor_failsClean _ _ _).answering _
  | addDefault => exact (addDefault_failsClean _ _ _).answering _
  | removeDefault => exact (removeDefault_failsClean _ _).answering _
  | copyDefaults => exact (copyDefaults_failsClean _ _).answering _
  | createGlobalRole => exact (createGlobalRole_failsClean _).answering _
  | addGlobalMember => exact (addGlobalMember_failsClean _ _).answering _
  | removeGlobalMember => exact (removeGlobalMember_failsClean _ _).answering _

end Membership

namespace Graph

theorem createWorkflow_failsClean (workflow : Workflow) : FailsClean (createWorkflow workflow) :=
  .look fun _ => .check fun _ => failsClean_set _

theorem deleteWorkflow_failsClean (id : WorkflowId) : FailsClean (deleteWorkflow id) := by
  refine .look fun _ => .check fun _ => ?_
  split
  · exact (answers_pure _).failsClean
  · exact failsClean_set_return _ _

theorem putStatus_failsClean (status : Status) : FailsClean (putStatus status) :=
  .look fun _ => .check fun _ => .checkSome fun _ => failsClean_set _

theorem deleteStatus_failsClean (id : StatusId) : FailsClean (deleteStatus id) := by
  refine .look fun _ => ?_
  split
  · exact (answers_pure _).failsClean
  · exact failsClean_set_return _ _

theorem putTransition_failsClean (draft : TransitionDraft) : FailsClean (putTransition draft) := by
  refine .look fun t => .check fun _ => .check fun _ => .check fun _ => .checkSome fun _ => ?_
  split <;> exact failsClean_set_return _ _

theorem deleteTransition_failsClean (id : TransitionId) : FailsClean (deleteTransition id) :=
  .look fun _ => failsClean_set_return _ _

theorem addCondition_failsClean (rule : ConditionRule) : FailsClean (addCondition rule) :=
  .look fun _ => .check fun _ => failsClean_set _

theorem deleteCondition_failsClean (id : RuleId) : FailsClean (deleteCondition id) :=
  .look fun _ => failsClean_set_return _ _

theorem addValidator_failsClean (rule : ValidatorRule) : FailsClean (addValidator rule) :=
  .look fun _ => .check fun _ => failsClean_set _

theorem deleteValidator_failsClean (id : RuleId) : FailsClean (deleteValidator id) :=
  .look fun _ => failsClean_set_return _ _

theorem addPostFunction_failsClean (rule : PostFunctionRule) : FailsClean (addPostFunction rule) :=
  .look fun _ => .check fun _ => failsClean_set _

theorem deletePostFunction_failsClean (id : RuleId) : FailsClean (deletePostFunction id) :=
  .look fun _ => failsClean_set_return _ _

theorem createScreen_failsClean (screen : Screen) : FailsClean (createScreen screen) :=
  .look fun _ => .check fun _ => failsClean_set _

theorem putScreenField_failsClean (field : ScreenField) : FailsClean (putScreenField field) :=
  .look fun _ => .check fun _ => failsClean_set _

theorem removeScreenField_failsClean (screen : ScreenId) (field : FieldRef) :
    FailsClean (removeScreenField screen field) :=
  .look fun _ => failsClean_set_return _ _

theorem createScheme_failsClean (scheme : WorkflowScheme) : FailsClean (createScheme scheme) :=
  .look fun _ => .check fun _ => failsClean_set _

theorem putMapping_failsClean (mapping : SchemeMapping) : FailsClean (putMapping mapping) :=
  .look fun _ => .check fun _ => .check fun _ => failsClean_set _

theorem removeMapping_failsClean (scheme : WorkflowSchemeId) (issueType : Option IssueTypeId) :
    FailsClean (removeMapping scheme issueType) :=
  .look fun _ => failsClean_set_return _ _

theorem Operation.failsClean (op : Operation) : FailsClean op.apply := by
  cases op with
  | createWorkflow => exact (createWorkflow_failsClean _).answering _
  | deleteWorkflow => exact (deleteWorkflow_failsClean _).answering _
  | putStatus => exact (putStatus_failsClean _).answering _
  | deleteStatus => exact (deleteStatus_failsClean _).answering _
  | putTransition => exact (putTransition_failsClean _).answering _
  | deleteTransition => exact (deleteTransition_failsClean _).answering _
  | addCondition => exact (addCondition_failsClean _).answering _
  | deleteCondition => exact (deleteCondition_failsClean _).answering _
  | addValidator => exact (addValidator_failsClean _).answering _
  | deleteValidator => exact (deleteValidator_failsClean _).answering _
  | addPostFunction => exact (addPostFunction_failsClean _).answering _
  | deletePostFunction => exact (deletePostFunction_failsClean _).answering _
  | createScreen => exact (createScreen_failsClean _).answering _
  | putScreenField => exact (putScreenField_failsClean _).answering _
  | removeScreenField => exact (removeScreenField_failsClean _ _).answering _
  | createScheme => exact (createScheme_failsClean _).answering _
  | putMapping => exact (putMapping_failsClean _).answering _
  | removeMapping => exact (removeMapping_failsClean _ _).answering _

end Graph

namespace IssueLog

theorem createIssue_failsClean (issue : Issue) (createdBy : UserId) :
    FailsClean (createIssue issue createdBy) :=
  .look fun _ => .check fun _ => failsClean_set _

/-- All that can fail stands in front of the first write of a commit. -/
theorem commitTransition_failsClean (commit : TransitionCommit) :
    FailsClean (commitTransition commit) := by
  refine .look fun t => .check fun _ => .check fun _ => .check fun _ => Answers.failsClean ?_
  refine .bind (answers_modify _) fun _ => .bind ?_ fun _ => ?_
  · exact answers_forM fun body => answers_modify _
  · exact .bind (answers_modify _) fun _ => answers_pure _

theorem updateFields_failsClean (id : IssueId) (updates : List FieldUpdate) (now : Timestamp) :
    FailsClean (updateFields id updates now) :=
  .look fun _ => .check fun _ => .check fun _ => failsClean_set_return _ _

theorem addComment_failsClean (issue : IssueId) (author : UserId) (body : String)
    (time : Timestamp) :
    FailsClean (addComment issue author body time) :=
  .look fun _ => .check fun _ => failsClean_set _

theorem Operation.failsClean (now : Timestamp) (op : Operation) : FailsClean (op.apply now) := by
  cases op with
  | createIssue => exact (createIssue_failsClean _ _).answering _
  | commitTransition => exact (commitTransition_failsClean _).answering _
  | updateFields => exact (updateFields_failsClean _ _ _).answering _
  | addComment => exact (addComment_failsClean _ _ _ _).answering _

end IssueLog

theorem Tables.Operation.failsClean (now : Timestamp) (op : Tables.Operation) :
    FailsClean (op.apply now) := by
  cases op with
  | onAccounts op => exact op.failsClean.onAccounts
  | onProjects op => exact op.failsClean.onProjects
  | onGrants op => exact (op.failsClean now).onGrants
  | onMembership op => exact (op.failsClean now).onMembership
  | onGraph op => exact op.failsClean.onGraph
  | onIssueLog op => exact (op.failsClean now).onIssueLog

end IssueFlow
