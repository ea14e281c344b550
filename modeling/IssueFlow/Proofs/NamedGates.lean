import IssueFlow.Proofs.CommitContents
import IssueFlow.Proofs.FirstFailure

/-!
# Named gates

A validation failure names what found fault. The tag of a validator and that of the screen lead to
a gate of the transition (`Tables.NamesGate`). A value that its field has no room for is noticed
only when the fields are written, behind all gates (`Store.RefusesAtCommit`), and the tag of that
failure leads nowhere.
-/

namespace IssueFlow

section BuiltIn

variable (matcher : Matcher) (world : World) (attempt : Attempt)

private theorem conditionAnswer?_builtIn (rule : ConditionRule) :
    conditionAnswer? (.builtIn matcher) world attempt rule =
      some ((rule.content.isMet attempt).run world.store) := by
  show some ((Run.ask (rule.content.isMet attempt)).run world).1 = _
  rw [Query.run_ask]

private theorem validatorAnswer?_builtIn (rule : ValidatorRule) :
    validatorAnswer? (.builtIn matcher) world attempt rule =
      some ((rule.content.validator.judge matcher attempt).run world.store) := by
  show some ((Run.ask (rule.content.validator.judge matcher attempt)).run world).1 = _
  rw [Query.run_ask]

end BuiltIn

/-- A tag leads to a gate that an attempt has to pass: to the screen, or to a validator of the
transition to the target. -/
def Tables.NamesGate (t : Tables) (issue : Issue) (target : StatusId) (tag : String) : Prop :=
  tag = "screen_required" ∨ ∃ edge, t.Leaves issue edge ∧ edge.toStatus = target ∧
    ∃ rule ∈ t.graph.validators, rule.transitionId = edge.id ∧
      rule.content.validator.type.name = tag

/-- The tag of a value that does not fit is that of no validator. -/
private theorem Tables.not_namesGate_fieldValue (t : Tables) (issue : Issue) (target : StatusId) :
    ¬ t.NamesGate issue target "field_value" := by
  rintro (screen | ⟨edge, -, -, rule, -, -, named⟩)
  · exact absurd screen (by decide)
  · revert named
    cases rule.content.validator.type <;> decide

/-- A failure at the gates of an edge leads to one of them. -/
private theorem namesGate_of_passage {matcher : Matcher} {world : World} {issue : Issue}
    {target : StatusId} {actor : UserId} {submission : Submission} {edge : Transition}
    {calls : List RuleCall} {answer : Except TransitionError Unit} {tag message : String}
    (leaves : world.store.tables.Leaves issue edge) (arrives : edge.toStatus = target)
    (passage : Passage (.builtIn matcher) world ⟨issue, actor, edge, submission⟩
      (world.store.tables.graph.planOf edge) calls answer)
    (failed : answer = .error (.rejected (.validationFailed tag message))) :
    world.store.tables.NamesGate issue target tag := by
  cases passage with
  | conditionUnregistered passed rule stops absent => cases failed
  | conditionErred passed rule e stops erred =>
    rw [conditionAnswer?_builtIn, Option.some.injEq] at erred
    have fault : e.rejection? = none := isMet_onlyFaults _ _ _ _ erred
    cases failed
    cases fault
  | conditionNotMet passed rule stops notMet => cases failed
  | validatorUnregistered passed rule met stops absent => cases failed
  | validatorErred passed rule e met stops erred =>
    rw [validatorAnswer?_builtIn, Option.some.injEq] at erred
    have fault : e.rejection? = none := judge_onlyFaults _ _ _ _ _ erred
    cases failed
    cases fault
  | validatorFailed passed rule reason met stops verdict =>
    cases failed
    have member : rule ∈ world.store.tables.graph.validatorsOf edge.id := stops.mem
    obtain ⟨stored, ofEdge⟩ := mem_rulesOf.1 member
    exact .inr ⟨edge, leaves, arrives, rule, stored, ofEdge, rfl⟩
  | screenOpen filled row met passed stops leftOpen =>
    cases failed
    exact .inl rfl
  | through met passed filled => cases failed

/-- An attempt passes all gates with a value that its field has no room for, while the issue is
where it was read. -/
structure Store.RefusesAtCommit (matcher : Matcher) (store : Store) (issue : Issue)
    (target : StatusId) (actor : UserId) (submission : Submission) : Prop where
  available : store.unavailable = false
  cleared : ∃ edge, edge.toStatus = target ∧
    ∃ project, store.tables.projects.get? issue.projectId = some project ∧
      store.tables.Clears matcher ⟨issue, actor, edge, submission⟩ project
  stands : store.IsIn issue.id issue.statusId
  unfit : ¬ submission.Fits

/-- What passes the gates of an edge clears the rules of that edge. -/
private theorem clears_of_passage {matcher : Matcher} {world : World}
    (available : world.store.unavailable = false) {attempt : Attempt}
    (leaves : world.store.tables.Leaves attempt.issue attempt.transition)
    {calls : List RuleCall} (passage : Passage (.builtIn matcher) world attempt
      (world.store.tables.graph.planOf attempt.transition) calls (.ok ())) :
    ∃ project, world.store.tables.projects.get? attempt.issue.projectId = some project ∧
      world.store.tables.Clears matcher attempt project := by
  obtain ⟨project, found, mapped⟩ := leaves.mapped
  cases passage with
  | through met passed filled =>
    refine ⟨project, found, mapped, leaves.stored, leaves.source, ?_, ?_, ?_⟩
    · intro rule stored ofEdge
      have isMet := met rule (mem_rulesOf.2 ⟨stored, ofEdge⟩)
      rw [IsMet, conditionAnswer?_builtIn, Option.some.injEq] at isMet
      exact (isMet_run_iff available).1 isMet
    · intro rule stored ofEdge
      have isPassed := passed rule (mem_rulesOf.2 ⟨stored, ofEdge⟩)
      rw [IsPassed, validatorAnswer?_builtIn, Option.some.injEq] at isPassed
      exact (judge_run_iff available).1 isPassed
    · intro row stored onScreen
      exact filled row (mem_planOf_screenFields.2 ⟨stored, onScreen⟩)

/-- A commit calls a value invalid only on an issue that is stored in the expected status. -/
private theorem IssueLog.stored_of_invalidInput {commit : TransitionCommit} {t after : IssueLog}
    {message : String}
    (refused : (commitTransition commit).run t = (.error (.invalidInput message), after)) :
    ∃ current, t.issues.get? commit.issueId = some current ∧
      current.statusId = commit.expectedStatus := by
  cases stored : t.issues.get? commit.issueId with
  | none =>
    rw [commitTransition, run_get_bind, requireIssue, stored] at refused
    cases refused
  | some current =>
    by_cases expected : current.statusId = commit.expectedStatus
    · exact ⟨current, rfl, expected⟩
    · rw [commitTransition_of_moved stored expected] at refused
      cases refused

namespace Executor

/-- A commit fails validation only for a value that does not fit, on an issue that is where it was
read. -/
private theorem commit_validationFailed {attempt : Attempt} {target : StatusId}
    {world after : World} {tag message : String} (failed : (commit attempt target).run world =
      (.error (.rejected (.validationFailed tag message)), after)) :
    world.store.unavailable = false ∧
      world.store.IsIn attempt.issue.id attempt.issue.statusId ∧ ¬ attempt.submission.Fits := by
  obtain ⟨-, ⟨-, ⟨⟩⟩ | ⟨cause, available, refused, same⟩⟩ := commit_eq_error failed
  obtain ⟨-, rfl⟩ := commitFailure_eq_validationFailed_iff.1 same.symm
  obtain ⟨current, stored, expected⟩ := IssueLog.stored_of_invalidInput refused
  refine ⟨available, ⟨current, stored, expected⟩, fun fits => ?_⟩
  obtain ⟨row, done⟩ := commit_of_fits target available stored expected fits
  rw [failed] at done
  cases done

/-- An attempt that is refused at the commit is told of a field with a value that does not fit. -/
private theorem take_of_refusesAtCommit {executor : Executor} {matcher : Matcher}
    (standard : executor.registry = .builtIn matcher) {world : World}
    (linked : world.store.tables.graph.Linked) (distinct : world.store.tables.graph.Distinct)
    {issue : Issue} {target : StatusId} {actor : UserId} {submission : Submission}
    (refuses : world.store.RefusesAtCommit matcher issue target actor submission) :
    ∃ field value found, submission.submitted field = some value ∧ ¬ field.Takes value ∧
      (executor.take issue target actor submission).run world =
        (.error (.rejected (.validationFailed "field_value"
          (ParseError.fieldType field.display found).message)), world) := by
  obtain ⟨available, ⟨edge, cleared⟩, ⟨current, stored, expected⟩, unfit⟩ := refuses
  obtain ⟨plan, prepared⟩ := (prepare_ok_iff standard available linked distinct).2 cleared
  obtain ⟨field, value, found, submitted, full, answered⟩ :=
    @commit_of_not_fits ⟨issue, actor, edge, submission⟩ target world current available stored
      expected unfit
  rcases failed : (commit ⟨issue, actor, edge, submission⟩ target).run world with ⟨answer, after⟩
  rw [failed] at answered
  cases answered
  obtain ⟨left, -⟩ := commit_eq_error failed
  refine ⟨field, value, found, submitted, full, ?_⟩
  rw [take_eq, run_bind_of_ok prepared, finish_run, failed, left]

/-- A failure of an attempt that is not one of the commit leads to a gate. -/
private theorem namesGate_of_take {executor : Executor}
    {matcher : Matcher} (standard : executor.registry = .builtIn matcher)
    {world after : World} (linked : world.store.tables.graph.Linked)
    (distinct : world.store.tables.graph.Distinct) {issue : Issue} {target : StatusId}
    {actor : UserId} {submission : Submission} {tag message : String}
    (failed : (executor.take issue target actor submission).run world =
      (.error (.rejected (.validationFailed tag message)), after))
    (stops : ¬ world.store.RefusesAtCommit matcher issue target actor submission) :
    world.store.tables.NamesGate issue target tag := by
  have silent : executor.registry.Silent := standard ▸ Registry.builtIn_silent
  obtain ⟨calls, answer, left, course, run⟩ :=
    take_calls silent linked distinct issue target actor submission
  -- Nothing is noted of the calls: the attempt is the one that nobody observes.
  have run := run fun _ => []
  rw [observed_nothing, failed] at run
  obtain rfl := (Prod.mk.inj run).1
  cases course with
  | lost e nowhere kind =>
    rcases kind with fault | same
    · cases fault
    · cases same
  | stopped edge leaves arrives calls e passage =>
    rw [standard] at passage
    exact namesGate_of_passage leaves arrives passage rfl
  | refused edge leaves arrives calls e passage commitRefused =>
    rw [standard] at passage
    obtain ⟨available, stands, unfit⟩ := commit_validationFailed commitRefused
    have cleared := clears_of_passage available leaves passage
    exact absurd ⟨available, ⟨edge, arrives, cleared⟩, stands, unfit⟩ stops

end Executor

/-- A validation failure leads to a gate of the transition, unless the attempt passes all gates with
a value that does not fit. It is then told of the field, under a tag that leads nowhere. -/
theorem failure_names_gate_iff (executor : Executor) {matcher : Matcher}
    (standard : executor.registry = .builtIn matcher) (world : World)
    (reached : world.store.Reachable) (issue : Issue) (target : StatusId) (actor : UserId)
    (submission : Submission) :
    ((∀ tag message after, (executor.take issue target actor submission).run world =
        (.error (.rejected (.validationFailed tag message)), after) →
      world.store.tables.NamesGate issue target tag) ↔
      ¬ world.store.RefusesAtCommit matcher issue target actor submission) ∧
    (world.store.RefusesAtCommit matcher issue target actor submission →
      ∃ field value found, submission.submitted field = some value ∧ ¬ field.Takes value ∧
        (executor.take issue target actor submission).run world =
          (.error (.rejected (.validationFailed "field_value"
            (ParseError.fieldType field.display found).message)), world)) := by
  have told := fun refuses : world.store.RefusesAtCommit matcher issue target actor submission =>
    Executor.take_of_refusesAtCommit standard reached.linked reached.distinct refuses
  refine ⟨⟨?_, ?_⟩, told⟩
  · intro named refuses
    obtain ⟨field, value, found, -, -, failed⟩ := told refuses
    exact world.store.tables.not_namesGate_fieldValue issue target (named _ _ _ failed)
  · intro stops tag message after failed
    exact Executor.namesGate_of_take standard reached.linked reached.distinct failed stops

/-- The sample form with its summary taken out. -/
def Sample.untitled : Submission :=
  { submission with fields := .ofList [(.standard .summary, .null)] }

private theorem Sample.untitled_fails : ∃ after,
    (Executor.take {} issue ⟨"done"⟩ reporter.id untitled).run world =
      (.error (.rejected (.validationFailed "field_value"
        "field summary cannot hold value null")), after) := by
  refine ⟨_, Prod.ext ?_ rfl⟩
  decide +kernel

/-- Without a comment the sample issue is refused by the validator of its edge. With one, and
without a summary, it is refused at the commit. -/
theorem sample_failures :
    ({} : Executor).registry = .builtIn ∧ Sample.world.store.Reachable ∧
      (∃ message after,
        (Executor.take {} Sample.issue ⟨"done"⟩ Sample.reporter.id {}).run Sample.world =
          (.error (.rejected (.validationFailed "comment_required" message)), after) ∧
        Sample.world.store.tables.NamesGate Sample.issue ⟨"done"⟩ "comment_required") ∧
      Sample.world.store.RefusesAtCommit .builtIn Sample.issue ⟨"done"⟩ Sample.reporter.id
        Sample.untitled := by
  have reached : Sample.world.store.Reachable := ⟨Sample.steps, rfl⟩
  have failures := fun submission => (failure_names_gate_iff {} rfl Sample.world reached
    Sample.issue ⟨"done"⟩ Sample.reporter.id submission).1
  refine ⟨rfl, reached, ?_, ?_⟩
  · have failed : ∃ after, (Executor.take {} Sample.issue ⟨"done"⟩ Sample.reporter.id {}).run
        Sample.world = (.error (.rejected (.validationFailed "comment_required"
          "a comment is required")), after) := by
      refine ⟨_, Prod.ext ?_ rfl⟩
      decide +kernel
    obtain ⟨after, failed⟩ := failed
    have stops : ¬ Sample.world.store.RefusesAtCommit .builtIn Sample.issue ⟨"done"⟩
        Sample.reporter.id {} := by
      rintro ⟨-, -, -, unfit⟩
      exact unfit fun field value submitted => nomatch submitted
    exact ⟨_, after, failed, (failures {}).2 stops _ _ _ failed⟩
  · by_contra stops
    obtain ⟨after, failed⟩ := Sample.untitled_fails
    have named := (failures Sample.untitled).2 stops _ _ _ failed
    exact Tables.not_namesGate_fieldValue _ _ _ named

/-- The failure for the summary has a tag that leads to no gate. -/
theorem summary_failure_unnamed :
    ({} : Executor).registry = .builtIn ∧ Sample.world.store.Reachable ∧
      ∃ after, (Executor.take {} Sample.issue ⟨"done"⟩ Sample.reporter.id Sample.untitled).run
          Sample.world = (.error (.rejected (.validationFailed "field_value"
            "field summary cannot hold value null")), after) ∧
        ¬ Sample.world.store.tables.NamesGate Sample.issue ⟨"done"⟩ "field_value" := by
  obtain ⟨after, failed⟩ := Sample.untitled_fails
  refine ⟨rfl, ⟨Sample.steps, rfl⟩, after, failed, ?_⟩
  exact Tables.not_namesGate_fieldValue _ _ _

end IssueFlow
