import IssueFlow.Proofs.PermissionMeaning
import IssueFlow.Proofs.Stages

/-!
# The meaning of the gates

What conditions, validators and screens ask for, said of the rows of the tables and of what is
submitted, and the evaluators of the library that answer just that.
-/

namespace IssueFlow

/-- The status of an issue is there and in the category `done`. -/
def Tables.IsResolved (t : Tables) (issue : Issue) : Prop :=
  ∃ status ∈ t.graph.statuses.rows, status.id = issue.statusId ∧ status.category = .done

/-- The user has the permission in the project of the issue. -/
def Tables.MayOn (t : Tables) (user : UserId) (issue : Issue) (permission : Permission) : Prop :=
  ∃ project ∈ t.projects.rows, project.id = issue.projectId ∧ t.MayIn user project permission

/-- What a condition says of an issue and an actor. -/
def Condition.Holds (t : Tables) (issue : Issue) (actor : UserId) : Condition → Prop
  | .userInRole role => t.HoldsRole issue.projectId role actor
  | .userInGroup group => t.IsMember actor group
  | .userHasPermission permission => t.MayOn actor issue permission
  | .onlyReporter => issue.reporterId = actor
  | .onlyAssignee => issue.assigneeId = some actor
  | .subtasksResolved => ∀ subtask ∈ t.issueLog.issues.rows, subtask.parentId = some issue.id →
    t.IsResolved subtask
  | .fieldValue field value => (issue.fieldValue field).sameValue value = true

/-- A text that was handed in and is not blank. -/
def IsGiven (text : Option String) : Prop :=
  ∃ given, text = some given ∧ Text.isBlank given = false

/-- What a validator says of an issue, an actor and a submission. -/
def Validator.Passes (matcher : Matcher) (t : Tables) (issue : Issue) (actor : UserId)
    (submission : Submission) : Validator → Prop
  | .fieldRequired field => ∃ value, submission.submitted field = some value ∧
    value.isUnfilled = false
  | .fieldNotEmpty field => (submission.effective issue field).isUnfilled = false
  | .regex field pattern => ∃ isMatch, matcher.compile pattern = .ok isMatch ∧
    isMatch (submission.effective issue field).subject = true
  | .previousStatus status => ∃ entry ∈ t.issueLog.history, entry.issueId = issue.id ∧
    entry.toStatus = status
  | .parentStatus statuses => ∀ id, issue.parentId = some id →
    ∃ parent ∈ t.issueLog.issues.rows, parent.id = id ∧ parent.statusId ∈ statuses
  | .permission right => t.MayOn actor issue right
  | .commentRequired => IsGiven submission.comment
  | .resolutionSet => IsGiven submission.resolution ∨ issue.resolution ≠ none

/-- A field has a value once the submission is applied. A resolution may be handed in by itself. -/
def Submission.Supplies (submission : Submission) (issue : Issue) (field : FieldRef) : Prop :=
  field = .standard .resolution ∧ IsGiven submission.resolution ∨
    (submission.effective issue field).isUnfilled = false

theorem isGiven_iff {text : Option String} :
    (text.filter fun s => !Text.isBlank s).isSome = true ↔ IsGiven text := by
  cases text <;> simp [IsGiven]

private theorem any_isTerminal_iff {t : Tables} {issue : Issue} :
    (t.graph.statuses.get? issue.statusId).any (·.isTerminal) = true ↔ t.IsResolved issue := by
  simp only [Option.any_eq_true, Table.get?_eq_some_iff, Status.isTerminal,
    StatusCategory.isTerminal, beq_iff_eq, Tables.IsResolved, and_assoc]
  rfl

/-- A field of a screen is filled in when the submission supplies it. -/
theorem fillsIn_iff {attempt : Attempt} {row : ScreenField} :
    attempt.fillsIn row = true ↔ attempt.submission.Supplies attempt.issue row.field := by
  simp only [Attempt.fillsIn, Bool.or_eq_true, Bool.and_eq_true, beq_iff_eq,
    Submission.resolutionText, isGiven_iff, Bool.not_eq_true', Submission.Supplies]

theorem openField?_eq_none_iff {attempt : Attempt} {plan : Plan} :
    attempt.openField? plan = none ↔ ∀ row ∈ plan.screenFields, row.isRequired = true →
      attempt.submission.Supplies attempt.issue row.field := by
  simp only [Attempt.openField?, Plan.requiredFields, List.find?_eq_none, List.mem_filter,
    Bool.not_eq_true', Bool.not_eq_false, fillsIn_iff, and_imp]

section Available

variable {store : Store} (available : store.unavailable = false)

include available

private theorem allResolved_run_iff {issues : List Issue} :
    (allResolved issues).run store = .ok true ↔
      ∀ issue ∈ issues, store.tables.IsResolved issue := by
  induction issues with
  | nil => simp [allResolved]
  | cons issue issues ih =>
    rw [allResolved, Query.bind_run_of_ok (Query.look_run available _), List.forall_mem_cons, ← ih,
      ← any_isTerminal_iff]
    cases (store.tables.graph.statuses.get? issue.statusId).any (·.isTerminal) <;> simp

private theorem mayOn_iff {user : UserId} {issue : Issue} {permission : Permission} :
    ((Authority.hasProject user issue.projectId permission).mapError TransitionError.access).run
        store = .ok true ↔ store.tables.MayOn user issue permission := by
  rw [Query.mapError_run, Except.mapError_eq_ok_iff, hasProject_run_iff available]
  simp only [Table.get?_eq_some_iff, Tables.MayOn, and_assoc]
  rfl

/-- A condition of the library is met when what it says holds. -/
theorem isMet_run_iff {attempt : Attempt} {condition : Condition} :
    (condition.isMet attempt).run store = .ok true ↔
      condition.Holds store.tables attempt.issue attempt.actor := by
  cases condition with
  | userInRole role =>
    rw [Condition.isMet, Query.mapError_run, Except.mapError_eq_ok_iff,
      isUserInRole_run_iff available]
    rfl
  | userInGroup group =>
    rw [Condition.isMet, Query.look_run available, Except.ok.injEq, List.contains_iff_mem,
      mem_groupsOf]
    rfl
  | userHasPermission permission => exact mayOn_iff available
  | onlyReporter => simp [Condition.isMet, Condition.Holds]
  | onlyAssignee => simp [Condition.isMet, Condition.Holds]
  | subtasksResolved =>
    rw [Condition.isMet, Query.bind_run_of_ok (Query.look_run available _),
      allResolved_run_iff available]
    simp [Condition.Holds, IssueLog.subtasksOf]
  | fieldValue field value => simp [Condition.isMet, Condition.Holds]

/-- A validator of the library passes when what it says holds. -/
theorem judge_run_iff {matcher : Matcher} {attempt : Attempt} {validator : Validator} :
    (validator.judge matcher attempt).run store = .ok .pass ↔
      validator.Passes matcher store.tables attempt.issue attempt.actor attempt.submission := by
  cases validator with
  | fieldRequired field =>
    rw [Validator.judge, Query.run_pure, Except.ok.injEq, Verdict.check_eq_pass_iff,
      Option.any_eq_true]
    simp only [Bool.not_eq_true', Validator.Passes]
  | fieldNotEmpty field => simp [Validator.judge, Validator.Passes]
  | regex field pattern =>
    rw [Validator.judge]
    cases parsed : matcher.compile pattern with
    | error diagnostic => simp [Validator.Passes, parsed]
    | ok isMatch => simp [Validator.Passes, parsed]
  | previousStatus status =>
    rw [Validator.judge, Query.bind_run_of_ok (Query.look_run available _)]
    simp [Validator.Passes, IssueLog.historyOf]
  | parentStatus statuses =>
    rw [Validator.judge]
    cases parent : attempt.issue.parentId with
    | none => simp [Validator.Passes, parent]
    | some id =>
      show Query.run store (_ >>= _) = _ ↔ _
      rw [Query.bind_run_eq_ok_iff]
      simp only [Query.lookFor_run_eq_ok_iff available, Table.get?_eq_some_iff, Query.run_pure,
        Except.ok.injEq, Verdict.check_eq_pass_iff, List.contains_iff_mem, Validator.Passes, parent,
        Option.some.injEq, forall_eq']
      simp only [and_assoc]
      rfl
  | permission right =>
    rw [Validator.judge, Query.bind_run_eq_ok_iff]
    simp only [Query.run_pure, Except.ok.injEq, Verdict.check_eq_pass_iff, exists_eq_right]
    exact mayOn_iff available
  | commentRequired =>
    rw [Validator.judge, Query.run_pure, Except.ok.injEq, Verdict.check_eq_pass_iff]
    exact isGiven_iff
  | resolutionSet =>
    rw [Validator.judge, Query.run_pure, Except.ok.injEq, Verdict.check_eq_pass_iff,
      Bool.or_eq_true, Submission.resolutionText, isGiven_iff, Option.isSome_iff_ne_none]
    rfl

end Available

namespace Executor

variable {executor : Executor} {matcher : Matcher} (standard : executor.registry = .builtIn matcher)

include standard

theorem failedCondition?_cons (attempt : Attempt) (rule : ConditionRule)
    (rules : List ConditionRule) (world : World) :
    (executor.failedCondition? attempt (rule :: rules)).run world =
      match (rule.content.isMet attempt).run world.store with
      | .ok true => (executor.failedCondition? attempt rules).run world
      | .ok false => (.ok (some rule), world)
      | .error e => (.error e, world) := by
  have found : executor.registry.condition rule.content.type = .ok evaluateCondition := by
    rw [standard]
    rfl
  rw [failedCondition?, found, run_lift_ok_bind, run_bind, evaluateCondition, Query.run_ask]
  rcases (rule.content.isMet attempt).run world.store with e | _ | _ <;> rfl

theorem validate_cons (attempt : Attempt) (rule : ValidatorRule) (rules : List ValidatorRule)
    (world : World) :
    (executor.validate attempt (rule :: rules)).run world =
      match (rule.content.validator.judge matcher attempt).run world.store with
      | .ok .pass => (executor.validate attempt rules).run world
      | .ok (.fail reason) => (.error (.rejected (.validationFailed rule.content.validator.type.name
        (rule.content.errorMessage.getD reason))), world)
      | .error e => (.error e, world) := by
  have found : executor.registry.validator rule.content.validator.type =
      .ok (evaluateValidator matcher) := by
    rw [standard]
    rfl
  rw [validate, found, run_lift_ok_bind, run_bind, evaluateValidator, Query.run_ask]
  rcases (rule.content.validator.judge matcher attempt).run world.store with e | _ | reason <;> rfl

variable {world : World} (available : world.store.unavailable = false)

include available

/-- No condition fails when each of them holds. -/
theorem failedCondition?_none_iff {attempt : Attempt} {rules : List ConditionRule} :
    (executor.failedCondition? attempt rules).run world = (.ok none, world) ↔
      ∀ rule ∈ rules, rule.content.Holds world.store.tables attempt.issue attempt.actor := by
  induction rules with
  | nil => exact ⟨fun _ => List.forall_mem_nil _, fun _ => rfl⟩
  | cons rule rules ih =>
    rw [failedCondition?_cons standard, List.forall_mem_cons, ← ih, ← isMet_run_iff available]
    rcases (rule.content.isMet attempt).run world.store with e | _ | _
    · exact iff_of_false (by rintro ⟨⟩) (by rintro ⟨⟨⟩, -⟩)
    · exact iff_of_false (by rintro ⟨⟩) (by rintro ⟨⟨⟩, -⟩)
    · exact ⟨fun rest => ⟨rfl, rest⟩, And.right⟩

private theorem validate_ok_iff {attempt : Attempt} {rules : List ValidatorRule} :
    (executor.validate attempt rules).run world = (.ok (), world) ↔
      ∀ rule ∈ rules, rule.content.validator.Passes matcher world.store.tables attempt.issue
        attempt.actor attempt.submission := by
  induction rules with
  | nil => exact ⟨fun _ => List.forall_mem_nil _, fun _ => rfl⟩
  | cons rule rules ih =>
    rw [validate_cons standard, List.forall_mem_cons, ← ih, ← judge_run_iff available]
    rcases (rule.content.validator.judge matcher attempt).run world.store with e | _ | reason
    · exact iff_of_false (by rintro ⟨⟩) (by rintro ⟨⟨⟩, -⟩)
    · exact ⟨fun rest => ⟨rfl, rest⟩, And.right⟩
    · exact iff_of_false (by rintro ⟨⟩) (by rintro ⟨⟨⟩, -⟩)

omit standard available in
theorem checkScreen_ok_iff {attempt : Attempt} {plan : Plan} {world : World} :
    (checkScreen attempt plan).run world = (.ok (), world) ↔
      ∀ row ∈ plan.screenFields, row.isRequired = true →
        attempt.submission.Supplies attempt.issue row.field := by
  rw [← openField?_eq_none_iff, checkScreen]
  cases attempt.openField? plan with
  | none => exact ⟨fun _ => rfl, fun _ => rfl⟩
  | some row => exact iff_of_false (by rintro ⟨⟩) (by rintro ⟨⟩)

/-- An attempt passes the gates when all conditions hold, all validators pass and all required
fields are supplied. -/
theorem passGates_ok_iff {attempt : Attempt} {plan : Plan} :
    (executor.passGates attempt plan).run world = (.ok (), world) ↔
      (∀ rule ∈ plan.conditions,
        rule.content.Holds world.store.tables attempt.issue attempt.actor) ∧
      (∀ rule ∈ plan.validators, rule.content.validator.Passes matcher world.store.tables
        attempt.issue attempt.actor attempt.submission) ∧
      ∀ row ∈ plan.screenFields, row.isRequired = true →
        attempt.submission.Supplies attempt.issue row.field := by
  have kept : executor.registry.GatesKeep Eq := standard ▸ Registry.builtIn_gatesKeep
  rw [← failedCondition?_none_iff standard available, ← validate_ok_iff standard available,
    ← checkScreen_ok_iff, passGates, run_bind_eq_ok_iff (failedCondition?_keeps kept _ _)]
  constructor
  · rintro ⟨_ | rule, none, rest⟩
    · obtain ⟨_, passed, screened⟩ := (run_bind_eq_ok_iff (validate_keeps kept _ _)).1 rest
      exact ⟨none, passed, screened⟩
    · cases rest
  · rintro ⟨none, passed, screened⟩
    refine ⟨_, none, ?_⟩
    exact (run_bind_eq_ok_iff (validate_keeps kept _ _)).2 ⟨(), passed, screened⟩

end Executor

end IssueFlow
