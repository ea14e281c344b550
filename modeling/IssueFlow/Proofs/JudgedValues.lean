import IssueFlow.Proofs.WorkflowReferences
import IssueFlow.Proofs.WrittenValues

/-!
# Judged values

What a gate says of a field that it looked at and what the commit then writes there
(`Submission.written`). The screen asks for just what will be written. The validators look at the
fields of the submission and of the issue alone: they overlook a resolution that is handed in by
itself, and a pattern takes labels that are cleared for no text.
-/

namespace IssueFlow

namespace Submission

variable {submission : Submission} {issue : Issue} {field : FieldRef}

theorem resolutionText_eq_some_iff {text : String} :
    submission.resolutionText = some text ↔
      submission.resolution = some text ∧ Text.isBlank text = false := by
  simp [resolutionText, Option.filter_eq_some_iff]

theorem isGiven_resolution_iff :
    IsGiven submission.resolution ↔ ∃ text, submission.resolutionText = some text := by
  simp only [IsGiven, resolutionText_eq_some_iff]

/-- A submission supplies what will be written, so the screen asks for the fields of the row. -/
theorem supplies_iff :
    submission.Supplies issue field ↔ (submission.written issue field).isUnfilled = false := by
  rw [Supplies, isGiven_resolution_iff]
  unfold written
  split
  · next text given =>
    obtain ⟨-, visible⟩ := resolutionText_eq_some_iff.1 given
    exact iff_of_true (.inl ⟨rfl, text, given⟩) visible
  · next absent =>
    rw [FieldRef.isUnfilled_readBack, or_iff_right]
    rintro ⟨rfl, text, given⟩
    exact absent text rfl given

/-- A resolution is handed in by itself, and neither the fields of the submission nor the issue fill
one in. -/
structure HidesResolution (submission : Submission) (issue : Issue) (field : FieldRef) : Prop where
  resolution : field = .standard .resolution
  apart : IsGiven submission.resolution
  unfilled : (submission.effective issue field).isUnfilled = true

private theorem judged_iff_written :
    ((submission.effective issue field).isUnfilled = false ↔
      (submission.written issue field).isUnfilled = false) ↔
      ¬ submission.HidesResolution issue field := by
  rw [← supplies_iff, Supplies]
  constructor
  · rintro same ⟨rfl, apart, unfilled⟩
    have filled := same.2 (.inl ⟨rfl, apart⟩)
    rw [unfilled] at filled
    cases filled
  · intro shown
    refine ⟨.inr, ?_⟩
    rintro (⟨rfl, apart⟩ | filled)
    · by_contra unfilled
      exact shown ⟨rfl, apart, by simpa using unfilled⟩
    · exact filled

/-- What a commit writes over the value that was held against a pattern, and does not match. -/
inductive Evades (submission : Submission) (isMatch : String → Bool) : FieldRef → Prop where
  /-- A resolution that is handed in by itself is written over that of the fields. -/
  | overridden (text : String) (given : submission.resolutionText = some text)
      (unmatched : isMatch text = false) : Evades submission isMatch (.standard .resolution)
  /-- Labels that are cleared are held against the pattern as null and written as a list. -/
  | cleared (given : submission.submitted (.standard .labels) = some .null)
      (unmatched : isMatch "[]" = false) : Evades submission isMatch (.standard .labels)

/-- Only null is taken for cleared labels, and only a submission can hand it in. -/
private theorem effective_labels_eq_null_iff :
    submission.effective issue (.standard .labels) = .null ↔
      submission.submitted (.standard .labels) = some .null := by
  rw [effective]
  cases submission.submitted (.standard .labels) <;> simp [Issue.fieldValue, Issue.standardValue]

/-- What is written matches a pattern that the judged value matches, unless it evades it. -/
private theorem written_matches_iff {isMatch : String → Bool}
    (judged : isMatch (submission.effective issue field).subject = true) :
    isMatch (submission.written issue field).subject = true ↔
      ¬ submission.Evades isMatch field := by
  unfold written
  split
  · next text given =>
    show isMatch text = true ↔ _
    constructor
    · rintro matched ⟨other, givenToo, unmatched⟩
      cases given.symm.trans givenToo
      rw [matched] at unmatched
      cases unmatched
    · intro shown
      by_contra unmatched
      exact shown (.overridden text given (by simpa using unmatched))
  · next absent =>
    rw [FieldRef.subject_readBack]
    split
    · next cleared =>
      obtain ⟨rfl, null⟩ := cleared
      have given := effective_labels_eq_null_iff.1 null
      constructor
      · rintro matched (_ | ⟨-, unmatched⟩)
        rw [matched] at unmatched
        cases unmatched
      · intro shown
        by_contra unmatched
        exact shown (.cleared given (by simpa using unmatched))
    · next kept =>
      refine iff_of_true judged ?_
      rintro (⟨text, given, -⟩ | ⟨given, -⟩)
      · exact absent text rfl given
      · exact kept ⟨rfl, effective_labels_eq_null_iff.2 given⟩

end Submission

/-- The check for a field that must not be empty judges what the commit writes there, except for a
resolution that it is not shown. -/
theorem fieldNotEmpty_agrees_iff (matcher : Matcher) {store : Store} {attempt : Attempt}
    {target : StatusId} {time : Timestamp} {row : Issue} {log : IssueLog}
    (stored : store.tables.issueLog.issues.get? attempt.issue.id = some attempt.issue)
    (accepted : (IssueLog.commitTransition (Executor.commitOf attempt target time)).run
      store.tables.issueLog = (.ok row, log)) (field : FieldRef) :
    (((Validator.fieldNotEmpty field).judge matcher attempt).run store = .ok .pass ↔
      (row.fieldValue field).isUnfilled = false) ↔
      ¬ attempt.submission.HidesResolution attempt.issue field := by
  have judged : ((Validator.fieldNotEmpty field).judge matcher attempt).run store = .ok .pass ↔
      (attempt.submission.effective attempt.issue field).isUnfilled = false := by
    simp [Validator.judge]
  rw [judged, Submission.fieldValue_of_commitTransition stored accepted]
  exact Submission.judged_iff_written

namespace Sample

/-- The reporter finishes the sample issue and hands in these values. -/
def finishing (submission : Submission) : Attempt :=
  ⟨issue, reporter.id, edge, submission⟩

/-- Resolutions by a field and by itself. -/
def resolutions (field : List Json) (apart : String) : Submission where
  fields := .ofList (field.map fun value => (.standard .resolution, value))
  resolution := some apart

end Sample

/-- A number is taken for a description, and judged as the text that is written. -/
theorem sample_number_agrees :
    let attempt := Sample.finishing
      { fields := .ofList [(.standard .description, .number (.whole 5))] }
    Sample.store.tables.issueLog.issues.get? attempt.issue.id = some attempt.issue ∧
      ∃ row log, (IssueLog.commitTransition (Executor.commitOf attempt ⟨"done"⟩ ⟨7, 0⟩)).run
          Sample.store.tables.issueLog = (.ok row, log) ∧
        ((Validator.fieldNotEmpty (.standard .description)).judge .builtIn attempt).run
          Sample.store = .ok .pass ∧
        (row.fieldValue (.standard .description)).isUnfilled = false := by
  intro attempt
  have stored : Sample.store.tables.issueLog.issues.get? attempt.issue.id = some attempt.issue := by
    decide +kernel
  have accepted : ((IssueLog.commitTransition (Executor.commitOf attempt ⟨"done"⟩ ⟨7, 0⟩)).run
      Sample.store.tables.issueLog).1.toOption.map (·.id) = some attempt.issue.id := by
    decide +kernel
  obtain ⟨row, log, commit, -⟩ := ok_of_answer accepted
  have passes : ((Validator.fieldNotEmpty (.standard .description)).judge .builtIn attempt).run
      Sample.store = .ok .pass := rfl
  have agrees := (fieldNotEmpty_agrees_iff .builtIn stored commit (.standard .description)).2
    fun hidden => by cases hidden.resolution
  exact ⟨stored, row, log, commit, passes, agrees.1 passes⟩

/-- A resolution that is handed in by itself is said to be empty, and is written. -/
theorem resolution_overlooked :
    let attempt := Sample.finishing (Sample.resolutions [] "Fixed")
    Sample.store.tables.issueLog.issues.get? attempt.issue.id = some attempt.issue ∧
      ∃ row log, (IssueLog.commitTransition (Executor.commitOf attempt ⟨"done"⟩ ⟨7, 0⟩)).run
          Sample.store.tables.issueLog = (.ok row, log) ∧
        ((Validator.fieldNotEmpty (.standard .resolution)).judge .builtIn attempt).run
          Sample.store = .ok (.fail "resolution must not be empty") ∧
        (row.fieldValue (.standard .resolution)).isUnfilled = false := by
  intro attempt
  have accepted : ((IssueLog.commitTransition (Executor.commitOf attempt ⟨"done"⟩ ⟨7, 0⟩)).run
      Sample.store.tables.issueLog).1.toOption.map
        (fun row => (row.fieldValue (.standard .resolution)).isUnfilled) = some false := by
    decide +kernel
  obtain ⟨row, log, commit, filled⟩ := ok_of_answer accepted
  exact ⟨by decide +kernel, row, log, commit, by decide +kernel, filled⟩

private theorem regex_judge_pass {matcher : Matcher} {attempt : Attempt} {field : FieldRef}
    {pattern : String} {store : Store}
    (passed : ((Validator.regex field pattern).judge matcher attempt).run store = .ok .pass) :
    ∃ isMatch, matcher.compile pattern = .ok isMatch ∧
      isMatch (attempt.submission.effective attempt.issue field).subject = true := by
  rw [Validator.judge] at passed
  cases compiled : matcher.compile pattern with
  | error diagnostic => simp [compiled] at passed
  | ok isMatch =>
    refine ⟨isMatch, rfl, ?_⟩
    simpa [compiled] using passed

private theorem ok_of_ask_bind {α β : Type} {query : Query TransitionError α} {next : α → Run β}
    {world final : World} {b : β} (done : (Run.ask query >>= next).run world = (.ok b, final)) :
    ∃ a, query.run world.store = .ok a ∧ (next a).run world = (.ok b, final) := by
  obtain ⟨a, asked, rest⟩ := (run_bind_eq_ok_iff (keeps_ask query)).1 done
  exact ⟨a, ask_run_eq_ok_iff.1 asked, rest⟩

namespace Executor

variable {executor : Executor} {matcher : Matcher}

/-- A validator that the library evaluates has passed in some store on the way. -/
private theorem judge_pass_of_validate {type : ValidatorType}
    (usual : executor.registry.validator? type = some (evaluateValidator matcher))
    {attempt : Attempt} {rules : List ValidatorRule} {world after : World}
    (passed : (executor.validate attempt rules).run world = (.ok (), after)) :
    ∀ rule ∈ rules, rule.content.validator.type = type →
      ∃ store, (rule.content.validator.judge matcher attempt).run store = .ok .pass := by
  induction rules generalizing world with
  | nil => exact List.forall_mem_nil _
  | cons rule rules ih =>
    rw [validate] at passed
    cases found : executor.registry.validator rule.content.validator.type with
    | error e =>
      rw [found] at passed
      cases passed
    | ok evaluate =>
      rw [found, run_lift_ok_bind] at passed
      obtain ⟨verdict, later, judged, passed⟩ := ok_of_run_bind passed
      cases verdict with
      | fail reason => cases passed
      | pass =>
        refine List.forall_mem_cons.2 ⟨?_, ih passed⟩
        rintro rfl
        cases usual.symm.trans (Registry.find_eq_ok_iff.1 found)
        exact ⟨world.store, congrArg Prod.fst judged⟩

/-- An attempt that is ready has passed the gates of the plan of its edge. -/
theorem gates_of_prepare {issue : Issue} {target : StatusId} {actor : UserId}
    {submission : Submission} {world ready : World} {attempt : Attempt} {plan : Plan}
    (prepared : (executor.prepare issue target actor submission).run world =
      (.ok (attempt, plan), ready)) :
    (Route.plan attempt.transition).run world.store = .ok plan ∧
      (executor.passGates attempt plan).run world = (.ok (), ready) := by
  obtain ⟨workflow, -, prepared⟩ := ok_of_ask_bind prepared
  obtain ⟨edge, -, prepared⟩ := ok_of_ask_bind prepared
  cases edge with
  | none => cases prepared
  | some transition =>
    obtain ⟨_, planned, prepared⟩ := ok_of_ask_bind prepared
    obtain ⟨_, _, passed, prepared⟩ := ok_of_run_bind prepared
    cases prepared
    exact ⟨planned, passed⟩

/-- Gates that are passed are the validators and, behind them, the screen. -/
theorem stages_of_passGates {attempt : Attempt} {plan : Plan} {world ready : World}
    (passed : (executor.passGates attempt plan).run world = (.ok (), ready)) :
    ∃ met judged, (executor.validate attempt plan.validators).run met = (.ok (), judged) ∧
      (checkScreen attempt plan).run judged = (.ok (), ready) := by
  obtain ⟨failed, met, -, passed⟩ := ok_of_run_bind passed
  cases failed with
  | some rule => cases passed
  | none =>
    obtain ⟨_, judged, validated, screened⟩ := ok_of_run_bind passed
    exact ⟨met, judged, validated, screened⟩

/-- The validators that the library evaluates have each passed in some store on the way. -/
theorem judge_pass_of_prepare {type : ValidatorType}
    (usual : executor.registry.validator? type = some (evaluateValidator matcher))
    {issue : Issue} {target : StatusId} {actor : UserId}
    {submission : Submission} {world ready : World} {attempt : Attempt} {plan : Plan}
    (prepared : (executor.prepare issue target actor submission).run world =
      (.ok (attempt, plan), ready)) :
    ∀ rule ∈ world.store.tables.graph.validatorsOf attempt.transition.id,
      rule.content.validator.type = type →
        ∃ store, (rule.content.validator.judge matcher attempt).run store = .ok .pass := by
  obtain ⟨planned, passed⟩ := gates_of_prepare prepared
  obtain rfl := planOf_of_plan (available_of_prepare executor prepared) planned
  obtain ⟨_, _, validated, -⟩ := stages_of_passGates passed
  exact judge_pass_of_validate usual validated

/-- The row of a commit that goes through reads as its submission says. -/
theorem fieldValue_of_commit {attempt : Attempt} {target : StatusId} {world after : World}
    {row : Issue}
    (stored : world.store.tables.issueLog.issues.get? attempt.issue.id = some attempt.issue)
    (done : (commit attempt target).run world = (.ok row, after)) (field : FieldRef) :
    row.fieldValue field = attempt.submission.written attempt.issue field := by
  rcases commit_cases attempt target world with
    ⟨e, failed⟩ | ⟨committed, log, -, logged, executed⟩
  · rw [failed] at done
    cases done
  · rw [executed] at done
    cases done
    exact Submission.fieldValue_of_commitTransition stored logged field

/-- The row that the commit of an attempt writes, if the attempt comes to a commit that goes
through. -/
def row? (executor : Executor) (issue : Issue) (target : StatusId) (actor : UserId)
    (submission : Submission) (world : World) : Option Issue :=
  match (executor.prepare issue target actor submission).run world with
  | (.error _, _) => none
  | (.ok (attempt, _), ready) => ((commit attempt target).run ready).1.toOption

end Executor

/-- What a pattern was held against is what the commit writes, unless the submission evades it. -/
theorem regex_holds_iff (executor : Executor) (harmless : executor.registry.Harmless)
    {matcher : Matcher}
    (usual : executor.registry.validator? .regex = some (evaluateValidator matcher))
    {world after : World} {id : IssueId} {target : StatusId} {actor : UserId}
    {submission : Submission} {taken : Taken}
    (served : (Service.transition executor id target actor submission).run world =
      (.ok taken, after)) :
    ∃ issue row, world.store.tables.issueLog.issues.get? id = some issue ∧
      executor.row? issue target actor submission world = some row ∧
      ∀ rule ∈ world.store.tables.graph.validatorsOf taken.transition.id,
        ∀ field pattern, rule.content.validator = .regex field pattern →
          ∃ isMatch, matcher.compile pattern = .ok isMatch ∧
            (isMatch (row.fieldValue field).subject = true ↔
              ¬ submission.Evades isMatch field) := by
  obtain ⟨issue, stored, -, attempted⟩ := Service.take_of_transition served
  have judged := Executor.prepare_keeps harmless.gatesKeep issue target actor submission world
  cases executor.course_of_take attempted with
  | taken attempt plan ready row committed after followed prepared done behind =>
    rw [prepared] at judged
    have passed := Executor.judge_pass_of_prepare usual prepared
    obtain ⟨rfl, rfl, rfl⟩ := Executor.prepare_ok executor prepared
    obtain rfl := Table.key_of_get? stored
    -- Gates write nothing, so the row that is written over is the one that was judged.
    have standing : ready.store.tables.issueLog.issues.get? attempt.issue.id =
        some attempt.issue := judged.tables ▸ stored
    refine ⟨attempt.issue, row, stored, ?_, ?_⟩
    · simp only [Executor.row?, prepared, done, Except.toOption]
    · intro rule member field pattern asked
      obtain ⟨store, pass⟩ := passed rule member (by rw [asked]; rfl)
      rw [asked] at pass
      obtain ⟨isMatch, compiled, matched⟩ := regex_judge_pass pass
      refine ⟨isMatch, compiled, ?_⟩
      rw [Executor.fieldValue_of_commit standing done]
      exact Submission.written_matches_iff matched

namespace Sample

def fixedOnly : ValidatorRule :=
  ⟨⟨"R4"⟩, edge.id, ⟨.regex (.standard .resolution) "^Fixed$", none⟩, position 0⟩

/-- At the sample edge a comment is no longer asked for, but a resolution of one text. -/
def strict : World where
  store := store.after [
    .operation (.onGraph (.deleteValidator ⟨"R2"⟩)),
    .operation (.onGraph (.addValidator fixedOnly))]
  outbox := .ofCapacity 4

end Sample

/-- A resolution that is handed in alike both ways is written as it was judged. -/
theorem sample_regex_holds :
    Registry.builtIn.Harmless ∧
      Registry.builtIn.validator? .regex = some (evaluateValidator .builtIn) ∧
      ∃ taken after, (Service.transition {} Sample.issue.id ⟨"done"⟩ Sample.reporter.id
        (Sample.resolutions [.string "Fixed"] "Fixed")).run Sample.strict = (.ok taken, after) ∧
      ∃ row isMatch, Executor.row? {} Sample.issue ⟨"done"⟩ Sample.reporter.id
          (Sample.resolutions [.string "Fixed"] "Fixed") Sample.strict = some row ∧
        Matcher.builtIn.compile "^Fixed$" = .ok isMatch ∧
        isMatch (row.fieldValue (.standard .resolution)).subject = true := by
  have answered : ((Service.transition {} Sample.issue.id ⟨"done"⟩ Sample.reporter.id
      (Sample.resolutions [.string "Fixed"] "Fixed")).run Sample.strict).1.toOption.map
        (·.transition) = some Sample.edge := by
    decide +kernel
  have matched : (Matcher.builtIn.compile "^Fixed$").toOption.map (· "Fixed") = some true := by
    decide +kernel
  refine ⟨.builtIn, rfl, ?_⟩
  rcases run : (Service.transition {} Sample.issue.id ⟨"done"⟩ Sample.reporter.id
    (Sample.resolutions [.string "Fixed"] "Fixed")).run Sample.strict with ⟨e | taken, after⟩
  · rw [run] at answered
    cases answered
  · rw [run] at answered
    have along : taken.transition = Sample.edge := Option.some.inj answered
    obtain ⟨issue, row, stored, wrote, holds⟩ := regex_holds_iff {} .builtIn rfl run
    have same : Sample.strict.store.tables.issueLog.issues.get? Sample.issue.id =
        some Sample.issue := by
      decide +kernel
    cases same.symm.trans stored
    have member : Sample.fixedOnly ∈
        Sample.strict.store.tables.graph.validatorsOf Sample.edge.id := by
      decide +kernel
    rw [along] at holds
    obtain ⟨isMatch, compiled, shown⟩ := holds Sample.fixedOnly member _ _ rfl
    refine ⟨taken, after, rfl, row, isMatch, wrote, compiled, shown.2 ?_⟩
    rintro (⟨text, given, unmatched⟩ | _)
    obtain ⟨given, -⟩ := Submission.resolutionText_eq_some_iff.1 given
    cases given
    rw [compiled] at matched
    cases (Option.some.inj matched).symm.trans unmatched

/-- A resolution that is handed in by itself gets past the pattern for resolutions. -/
theorem resolution_evades :
    (∃ taken after, (Service.transition {} Sample.issue.id ⟨"done"⟩ Sample.reporter.id
        (Sample.resolutions [.string "Fixed"] "Ignored")).run Sample.strict = (.ok taken, after) ∧
      ∃ rule ∈ Sample.strict.store.tables.graph.validatorsOf taken.transition.id,
        rule.content.validator = .regex (.standard .resolution) "^Fixed$") ∧
    ∃ row isMatch, Executor.row? {} Sample.issue ⟨"done"⟩ Sample.reporter.id
        (Sample.resolutions [.string "Fixed"] "Ignored") Sample.strict = some row ∧
      Matcher.builtIn.compile "^Fixed$" = .ok isMatch ∧
      isMatch (row.fieldValue (.standard .resolution)).subject = false := by
  have answered : ((Service.transition {} Sample.issue.id ⟨"done"⟩ Sample.reporter.id
      (Sample.resolutions [.string "Fixed"] "Ignored")).run Sample.strict).1.toOption.map
        (·.transition) = some Sample.edge := by
    decide +kernel
  have wrote : (Executor.row? {} Sample.issue ⟨"done"⟩ Sample.reporter.id
      (Sample.resolutions [.string "Fixed"] "Ignored") Sample.strict).map
        (fun row => (row.fieldValue (.standard .resolution)).subject) = some "Ignored" := by
    decide +kernel
  have unmatched : (Matcher.builtIn.compile "^Fixed$").toOption.map (· "Ignored") =
      some false := by
    decide +kernel
  constructor
  · rcases run : (Service.transition {} Sample.issue.id ⟨"done"⟩ Sample.reporter.id
      (Sample.resolutions [.string "Fixed"] "Ignored")).run Sample.strict with ⟨e | taken, after⟩
    · rw [run] at answered
      cases answered
    · rw [run] at answered
      have along : taken.transition = Sample.edge := Option.some.inj answered
      refine ⟨taken, after, rfl, Sample.fixedOnly, ?_, rfl⟩
      rw [along]
      decide +kernel
  · obtain ⟨row, found, reads⟩ := Option.map_eq_some_iff.1 wrote
    rcases compiled : Matcher.builtIn.compile "^Fixed$" with e | isMatch <;>
      rw [compiled] at unmatched
    · cases unmatched
    · exact ⟨row, isMatch, found, rfl, reads ▸ Option.some.inj unmatched⟩

end IssueFlow
