import IssueFlow.Proofs.JudgedValues

/-!
# Committed rows

What the gates of a transition make sure of on the row that its commit writes. The screen and the
validator for a required field leave their fields filled in. The validator for a resolution looks at
the one that is stored and at the one that is handed in by itself. It overlooks the fields of the
submission, which may clear the one and stand in for the other.
-/

namespace IssueFlow

namespace Executor

variable {executor : Executor}

/-- An attempt that is ready supplies the required fields of the screen of its edge. -/
private theorem supplies_of_prepare {issue : Issue} {target : StatusId} {actor : UserId}
    {submission : Submission} {world ready : World} {attempt : Attempt} {plan : Plan}
    (prepared : (executor.prepare issue target actor submission).run world =
      (.ok (attempt, plan), ready)) :
    ∀ field ∈ world.store.tables.graph.screenFields,
      attempt.transition.screenId = some field.screenId → field.isRequired = true →
        attempt.submission.Supplies attempt.issue field.field := by
  obtain ⟨planned, passed⟩ := gates_of_prepare prepared
  obtain rfl := planOf_of_plan (available_of_prepare executor prepared) planned
  obtain ⟨_, _, -, screened⟩ := stages_of_passGates passed
  intro field member ofScreen
  refine openField?_eq_none_iff.1 ?_ field (mem_planOf_screenFields.2 ⟨member, ofScreen⟩)
  rw [checkScreen] at screened
  cases opened : attempt.openField? (world.store.tables.graph.planOf attempt.transition) with
  | none => rfl
  | some unfilled =>
    rw [opened] at screened
    cases screened

/-- What lies behind a transition along an edge that goes through: the row that the commit writes
over the issue reads as the submission says, and the submission has passed the validators and the
screen of the edge. -/
structure Commits (executor : Executor) (world : World) (issue : Issue) (target : StatusId)
    (actor : UserId) (submission : Submission) (edge : Transition) (row : Issue) : Prop where
  writes : executor.row? issue target actor submission world = some row
  reads : ∀ field, row.fieldValue field = submission.written issue field
  judged : ∀ {type matcher},
    executor.registry.validator? type = some (evaluateValidator matcher) →
    ∀ rule ∈ world.store.tables.graph.validatorsOf edge.id, rule.content.validator.type = type →
      ∃ store, (rule.content.validator.judge matcher ⟨issue, actor, edge, submission⟩).run store =
        .ok .pass
  screened : ∀ field ∈ world.store.tables.graph.screenFields,
    edge.screenId = some field.screenId → field.isRequired = true →
      submission.Supplies issue field.field

private theorem commits_of_transition (harmless : executor.registry.Harmless) {world after : World}
    {issue : Issue} (stored : world.store.tables.issueLog.issues.get? issue.id = some issue)
    {target : StatusId} {actor : UserId} {submission : Submission} {taken : Taken}
    (served : (Service.transition executor issue.id target actor submission).run world =
      (.ok taken, after)) :
    ∃ row, executor.Commits world issue target actor submission taken.transition row := by
  obtain ⟨other, storedToo, -, attempted⟩ := Service.take_of_transition served
  cases stored.symm.trans storedToo
  have kept := prepare_keeps harmless.gatesKeep issue target actor submission world
  cases executor.course_of_take attempted with
  | taken attempt plan ready row committed after followed prepared done behind =>
    rw [prepared] at kept
    have judged := fun type matcher
        (usual : executor.registry.validator? type = some (evaluateValidator matcher)) =>
      judge_pass_of_prepare usual prepared
    have screened := supplies_of_prepare prepared
    obtain ⟨rfl, rfl, rfl⟩ := prepare_ok executor prepared
    -- Gates write nothing, so the row that is written over is the one that was judged.
    have standing : ready.store.tables.issueLog.issues.get? attempt.issue.id =
        some attempt.issue := kept.tables ▸ stored
    refine ⟨row, ?_, fieldValue_of_commit standing done, judged _ _, screened⟩
    simp only [row?, prepared, done, Except.toOption]

end Executor

/-- A field that was required and handed in is filled in on the row. -/
private theorem Submission.isUnfilled_written_of_required {matcher : Matcher} {attempt : Attempt}
    {field : FieldRef} {store : Store}
    (passed : ((Validator.fieldRequired field).judge matcher attempt).run store = .ok .pass) :
    (attempt.submission.written attempt.issue field).isUnfilled = false := by
  rw [Validator.judge, Query.run_pure, Except.ok.injEq, Verdict.check_eq_pass_iff,
    Option.any_eq_true] at passed
  obtain ⟨value, given, filled⟩ := passed
  refine Submission.supplies_iff.1 (.inr ?_)
  rw [Submission.effective, given]
  simpa using filled

/-- The screen lets pass just the attempts whose commit fills in all its required fields. So behind
a transition that goes through none of them is empty, and no field that a validator of the edge
requires. -/
theorem screen_judges_row (world : World) (issue : Issue)
    (stored : world.store.tables.issueLog.issues.get? issue.id = some issue) (target : StatusId)
    (actor : UserId) (submission : Submission) :
    (∀ edge plan time row log, (IssueLog.commitTransition
        (Executor.commitOf ⟨issue, actor, edge, submission⟩ target time)).run
          world.store.tables.issueLog = (.ok row, log) →
      ((Executor.checkScreen ⟨issue, actor, edge, submission⟩ plan).run world = (.ok (), world) ↔
        ∀ field ∈ plan.screenFields, field.isRequired = true →
          (row.fieldValue field.field).isUnfilled = false)) ∧
    ∀ executor : Executor, executor.registry.Harmless → ∀ taken after,
      (Service.transition executor issue.id target actor submission).run world =
        (.ok taken, after) →
      ∃ row, executor.row? issue target actor submission world = some row ∧
        (∀ field ∈ world.store.tables.graph.screenFields,
          taken.transition.screenId = some field.screenId → field.isRequired = true →
            (row.fieldValue field.field).isUnfilled = false) ∧
        ∀ matcher, executor.registry.validator? .fieldRequired = some (evaluateValidator matcher) →
          ∀ rule ∈ world.store.tables.graph.validatorsOf taken.transition.id, ∀ field,
            rule.content.validator = .fieldRequired field →
              (row.fieldValue field).isUnfilled = false := by
  refine ⟨?_, ?_⟩
  · intro edge plan time row log accepted
    have reads := Submission.fieldValue_of_commitTransition stored accepted
    rw [Executor.checkScreen_ok_iff]
    simp only [reads, Submission.supplies_iff]
  · intro executor harmless taken after served
    obtain ⟨row, commits⟩ := Executor.commits_of_transition harmless stored served
    refine ⟨row, commits.writes, ?_, ?_⟩
    · intro field member ofScreen required
      rw [commits.reads]
      exact Submission.supplies_iff.1 (commits.screened field member ofScreen required)
    · intro matcher usual rule member field asks
      obtain ⟨store, passed⟩ := commits.judged usual rule member (by rw [asks]; rfl)
      rw [asks] at passed
      rw [commits.reads]
      exact Submission.isUnfilled_written_of_required passed

namespace Sample

/-- The edge of the reworked store, which has a screen. -/
def form : Transition :=
  ⟨⟨"T2"⟩, ⟨"W"⟩, ⟨"open"⟩, ⟨"done"⟩, "Finish", some ⟨"S"⟩⟩

def describedOnly : ValidatorRule :=
  ⟨⟨"R5"⟩, form.id, ⟨.fieldRequired (.standard .description), none⟩, position 0⟩

/-- The edge with a screen also asks for a description among the fields. -/
def screened : World where
  store := reworked.after [.operation (.onGraph (.addValidator describedOnly))]
  outbox := .ofCapacity 4

/-- A resolution by itself and a number for the description. -/
def described : Submission where
  fields := .ofList [(.standard .description, .number (.whole 5))]
  resolution := some "Fixed"

end Sample

/-- The resolution that the sample screen requires is handed in by itself, and the description that
the validator requires is a number. Both are filled in on the row. -/
theorem sample_screen_judges :
    let attempt : Attempt := ⟨Sample.issue, Sample.reporter.id, Sample.form, Sample.described⟩
    let plan := Sample.screened.store.tables.graph.planOf Sample.form
    Sample.screened.store.tables.issueLog.issues.get? Sample.issue.id = some Sample.issue ∧
    (∃ row log, (IssueLog.commitTransition (Executor.commitOf attempt ⟨"done"⟩ ⟨7, 0⟩)).run
        Sample.screened.store.tables.issueLog = (.ok row, log) ∧
      (Executor.checkScreen attempt plan).run Sample.screened = (.ok (), Sample.screened) ∧
      plan.screenFields = [⟨⟨"S"⟩, .standard .resolution, true, Sample.position 0⟩] ∧
      (row.fieldValue (.standard .resolution)).isUnfilled = false) ∧
    Registry.builtIn.Harmless ∧
    Registry.builtIn.validator? .fieldRequired = some (evaluateValidator .builtIn) ∧
    ∃ taken after, (Service.transition {} Sample.issue.id ⟨"done"⟩ Sample.reporter.id
        Sample.described).run Sample.screened = (.ok taken, after) ∧
      ∃ row, Executor.row? {} Sample.issue ⟨"done"⟩ Sample.reporter.id Sample.described
          Sample.screened = some row ∧
        (row.fieldValue (.standard .resolution)).isUnfilled = false ∧
        (row.fieldValue (.standard .description)).isUnfilled = false := by
  intro attempt plan
  have stored : Sample.screened.store.tables.issueLog.issues.get? Sample.issue.id =
      some Sample.issue := by
    decide +kernel
  obtain ⟨judges, guarantees⟩ := screen_judges_row Sample.screened Sample.issue stored ⟨"done"⟩
    Sample.reporter.id Sample.described
  refine ⟨stored, ?_, .builtIn, rfl, ?_⟩
  · have accepted : ((IssueLog.commitTransition (Executor.commitOf attempt ⟨"done"⟩ ⟨7, 0⟩)).run
        Sample.screened.store.tables.issueLog).1.toOption.map (·.id) =
          some Sample.issue.id := by
      decide +kernel
    have fields : plan.screenFields =
        [⟨⟨"S"⟩, .standard .resolution, true, Sample.position 0⟩] := by
      decide +kernel
    have passes : (Executor.checkScreen attempt plan).run Sample.screened =
        (.ok (), Sample.screened) := by
      rw [Executor.checkScreen_ok_iff, ← openField?_eq_none_iff]
      decide +kernel
    obtain ⟨row, log, commit, -⟩ := ok_of_answer accepted
    have filled := (judges Sample.form plan _ row log commit).1 passes
    rw [fields] at filled
    exact ⟨row, log, commit, passes, fields, filled _ (List.mem_singleton_self _) rfl⟩
  · have answered : ((Service.transition {} Sample.issue.id ⟨"done"⟩ Sample.reporter.id
        Sample.described).run Sample.screened).1.toOption.map (·.transition) =
          some Sample.form := by
      decide +kernel
    obtain ⟨taken, after, run, along⟩ := ok_of_answer answered
    obtain ⟨row, wrote, filled, handedIn⟩ := guarantees {} .builtIn taken after run
    rw [along] at filled handedIn
    refine ⟨taken, after, run, row, wrote, ?_, ?_⟩
    · exact filled ⟨⟨"S"⟩, .standard .resolution, true, Sample.position 0⟩ (by decide +kernel) rfl
        rfl
    · exact handedIn _ rfl Sample.describedOnly (by decide +kernel) _ rfl

private theorem Issue.resolution_eq_none_iff {issue : Issue} :
    issue.resolution = none ↔ issue.fieldValue (.standard .resolution) = .null := by
  cases text : issue.resolution <;>
    simp [Issue.fieldValue, Issue.standardValue, text, Json.ofOption]

private theorem Issue.isGiven_resolution_iff {issue : Issue} :
    IsGiven issue.resolution ↔ (issue.fieldValue (.standard .resolution)).isUnfilled = false := by
  cases text : issue.resolution <;>
    simp [IsGiven, Issue.fieldValue, Issue.standardValue, text, Json.ofOption, Json.isUnfilled]

private theorem FieldRef.readBack_resolution_eq_null_iff {value : Json} :
    (FieldRef.standard .resolution).readBack value = .null ↔ value = .null := by
  cases value <;> simp [readBack]

private theorem resolutionSet_judge_pass_iff {matcher : Matcher} {attempt : Attempt}
    {store : Store} :
    (Validator.resolutionSet.judge matcher attempt).run store = .ok .pass ↔
      IsGiven attempt.submission.resolution ∨ attempt.issue.resolution ≠ none := by
  rw [Validator.judge, Query.run_pure, Except.ok.injEq, Verdict.check_eq_pass_iff,
    Bool.or_eq_true, Submission.resolutionText, isGiven_iff, Option.isSome_iff_ne_none]

namespace Submission

variable {submission : Submission} {issue : Issue}

/-- The fields of a submission clear the resolution, and none is handed in by itself. -/
structure ClearsResolution (submission : Submission) : Prop where
  cleared : submission.submitted (.standard .resolution) = some .null
  alone : ¬ IsGiven submission.resolution

/-- An issue without a resolution gets one from the fields of a submission, and none is handed in by
itself. -/
structure FillsResolution (submission : Submission) (issue : Issue) : Prop where
  unresolved : issue.resolution = none
  alone : ¬ IsGiven submission.resolution
  filled : (submission.effective issue (.standard .resolution)).isUnfilled = false

private theorem written_resolution_eq_null_iff :
    submission.written issue (.standard .resolution) = .null ↔
      ¬ IsGiven submission.resolution ∧
        submission.effective issue (.standard .resolution) = .null := by
  rw [isGiven_resolution_iff]
  cases given : submission.resolutionText with
  | some text => simp [written, given]
  | none => simp [written, given, FieldRef.readBack_resolution_eq_null_iff]

/-- With a resolution stored or handed in by itself, none is written just where it is cleared. -/
private theorem written_resolution_iff
    (shown : IsGiven submission.resolution ∨ issue.resolution ≠ none) :
    submission.written issue (.standard .resolution) ≠ .null ↔ ¬ submission.ClearsResolution := by
  rw [not_iff_not, written_resolution_eq_null_iff]
  constructor
  · rintro ⟨alone, null⟩
    refine ⟨?_, alone⟩
    have resolved := shown.resolve_left alone
    rw [ne_eq, Issue.resolution_eq_none_iff] at resolved
    rw [effective] at null
    cases given : submission.submitted (.standard .resolution) with
    | none =>
      rw [given] at null
      exact absurd null resolved
    | some value =>
      rw [given] at null
      exact congrArg some null
  · rintro ⟨cleared, alone⟩
    refine ⟨alone, ?_⟩
    rw [effective, cleared]
    rfl

end Submission

/-- Behind a transition along an edge that asks for a resolution the row has one, unless the fields
of the submission clear it. And the check turns nothing away that leaves the issue with a
resolution, unless only the fields fill it in. -/
theorem resolutionSet_guarantees_iff (executor : Executor) (harmless : executor.registry.Harmless)
    {matcher : Matcher}
    (usual : executor.registry.validator? .resolutionSet = some (evaluateValidator matcher))
    (world : World) (issue : Issue)
    (stored : world.store.tables.issueLog.issues.get? issue.id = some issue) (target : StatusId)
    (actor : UserId) (submission : Submission) :
    (∀ taken after, (Service.transition executor issue.id target actor submission).run world =
        (.ok taken, after) →
      ∀ rule ∈ world.store.tables.graph.validatorsOf taken.transition.id,
        rule.content.validator = .resolutionSet →
        ∃ row, executor.row? issue target actor submission world = some row ∧
          (row.resolution ≠ none ↔ ¬ submission.ClearsResolution)) ∧
    ∀ edge time row log, (IssueLog.commitTransition
        (Executor.commitOf ⟨issue, actor, edge, submission⟩ target time)).run
          world.store.tables.issueLog = (.ok row, log) →
      ((IsGiven row.resolution → (Validator.resolutionSet.judge matcher
          ⟨issue, actor, edge, submission⟩).run world.store = .ok .pass) ↔
        ¬ submission.FillsResolution issue) := by
  refine ⟨?_, ?_⟩
  · intro taken after served rule member asks
    obtain ⟨row, commits⟩ := Executor.commits_of_transition harmless stored served
    obtain ⟨store, passed⟩ := commits.judged usual rule member (by rw [asks]; rfl)
    rw [asks, resolutionSet_judge_pass_iff] at passed
    refine ⟨row, commits.writes, ?_⟩
    rw [← Submission.written_resolution_iff passed, ← commits.reads, ne_eq,
      Issue.resolution_eq_none_iff]
  · intro edge time row log accepted
    rw [Issue.isGiven_resolution_iff, Submission.fieldValue_of_commitTransition stored accepted,
      ← Submission.supplies_iff, resolutionSet_judge_pass_iff]
    constructor
    · rintro passes ⟨unresolved, alone, filled⟩
      rcases passes (.inr filled) with given | resolved
      · exact alone given
      · exact resolved unresolved
    · rintro shown (⟨-, given⟩ | filled)
      · exact .inl given
      · by_contra neither
        rw [not_or, not_not] at neither
        exact shown ⟨neither.2, neither.1, filled⟩

namespace Sample

def resolvedOnly : ValidatorRule :=
  ⟨⟨"R6"⟩, edge.id, ⟨.resolutionSet, none⟩, position 0⟩

/-- The sample issue has a resolution, and at its edge one is asked for instead of a comment. -/
def settled : World where
  store := store.after [
    .operation (.onGraph (.deleteValidator ⟨"R2"⟩)),
    .operation (.onGraph (.addValidator resolvedOnly)),
    .operation (.onIssueLog (.updateFields issue.id
      [⟨.standard .resolution, .string "Fixed"⟩]))]
  outbox := .ofCapacity 4

/-- The sample issue once it has a resolution. -/
def settledIssue : Issue :=
  { issue with resolution := some "Fixed" }

/-- The resolution as a field of the submission. -/
def resolvedBy (value : Json) : Submission where
  fields := .ofList [(.standard .resolution, value)]

end Sample

/-- A resolution that is cleared among the fields and handed in by itself is there on the row, and
the check lets it pass. -/
theorem sample_resolution_guaranteed :
    let submission := Sample.resolutions [.null] "Done"
    let attempt : Attempt := ⟨Sample.settledIssue, Sample.reporter.id, Sample.edge, submission⟩
    Registry.builtIn.Harmless ∧
    Registry.builtIn.validator? .resolutionSet = some (evaluateValidator .builtIn) ∧
    Sample.settled.store.tables.issueLog.issues.get? Sample.settledIssue.id =
      some Sample.settledIssue ∧
    (∃ taken after, (Service.transition {} Sample.settledIssue.id ⟨"done"⟩ Sample.reporter.id
        submission).run Sample.settled = (.ok taken, after) ∧
      Sample.resolvedOnly ∈ Sample.settled.store.tables.graph.validatorsOf taken.transition.id ∧
      ∃ row, Executor.row? {} Sample.settledIssue ⟨"done"⟩ Sample.reporter.id submission
          Sample.settled = some row ∧
        row.resolution ≠ none) ∧
    ∃ row log, (IssueLog.commitTransition (Executor.commitOf attempt ⟨"done"⟩ ⟨7, 0⟩)).run
        Sample.settled.store.tables.issueLog = (.ok row, log) ∧
      IsGiven row.resolution ∧
      (Validator.resolutionSet.judge .builtIn attempt).run Sample.settled.store = .ok .pass := by
  intro submission attempt
  have stored : Sample.settled.store.tables.issueLog.issues.get? Sample.settledIssue.id =
      some Sample.settledIssue := by
    decide +kernel
  obtain ⟨guarantees, shown⟩ := resolutionSet_guarantees_iff {} .builtIn rfl Sample.settled
    Sample.settledIssue stored ⟨"done"⟩ Sample.reporter.id submission
  have apart : IsGiven submission.resolution := ⟨"Done", rfl, by decide⟩
  refine ⟨.builtIn, rfl, stored, ?_, ?_⟩
  · have answered : ((Service.transition {} Sample.settledIssue.id ⟨"done"⟩ Sample.reporter.id
        submission).run Sample.settled).1.toOption.map (·.transition) = some Sample.edge := by
      decide +kernel
    obtain ⟨taken, after, run, along⟩ := ok_of_answer answered
    have member : Sample.resolvedOnly ∈
        Sample.settled.store.tables.graph.validatorsOf taken.transition.id := by
      rw [along]
      decide +kernel
    obtain ⟨row, wrote, resolved⟩ := guarantees taken after run Sample.resolvedOnly member rfl
    exact ⟨taken, after, run, member, row, wrote, resolved.2 fun clears => clears.alone apart⟩
  · have accepted : ((IssueLog.commitTransition (Executor.commitOf attempt ⟨"done"⟩ ⟨7, 0⟩)).run
        Sample.settled.store.tables.issueLog).1.toOption.map (·.resolution) =
          some (some "Done") := by
      decide +kernel
    obtain ⟨row, log, commit, resolved⟩ := ok_of_answer accepted
    have given : IsGiven row.resolution := ⟨"Done", resolved, by decide⟩
    exact ⟨row, log, commit, given,
      (shown Sample.edge _ row log commit).2 (fun fills => fills.alone apart) given⟩

/-- The fields clear the resolution that the check was shown. And a resolution that they fill in is
overlooked. -/
theorem resolution_unguarded :
    (∃ taken after, (Service.transition {} Sample.issue.id ⟨"done"⟩ Sample.reporter.id
        (Sample.resolvedBy .null)).run Sample.settled = (.ok taken, after) ∧
      (∃ rule ∈ Sample.settled.store.tables.graph.validatorsOf taken.transition.id,
        rule.content.validator = .resolutionSet) ∧
      (Executor.row? {} Sample.settledIssue ⟨"done"⟩ Sample.reporter.id
        (Sample.resolvedBy .null) Sample.settled).map (·.resolution) = some none) ∧
    let attempt := Sample.finishing (Sample.resolvedBy (.string "Fixed"))
    ∃ row log, (IssueLog.commitTransition (Executor.commitOf attempt ⟨"done"⟩ ⟨7, 0⟩)).run
        Sample.store.tables.issueLog = (.ok row, log) ∧
      row.resolution = some "Fixed" ∧
      (Validator.resolutionSet.judge .builtIn attempt).run Sample.store =
        .ok (.fail "a resolution is required") := by
  refine ⟨?_, ?_⟩
  · have answered : ((Service.transition {} Sample.issue.id ⟨"done"⟩ Sample.reporter.id
        (Sample.resolvedBy .null)).run Sample.settled).1.toOption.map (·.transition) =
          some Sample.edge := by
      decide +kernel
    have cleared : (Executor.row? {} Sample.settledIssue ⟨"done"⟩ Sample.reporter.id
        (Sample.resolvedBy .null) Sample.settled).map (·.resolution) = some none := by
      decide +kernel
    obtain ⟨taken, after, run, along⟩ := ok_of_answer answered
    refine ⟨taken, after, run, ⟨Sample.resolvedOnly, ?_, rfl⟩, cleared⟩
    rw [along]
    decide +kernel
  · intro attempt
    have accepted : ((IssueLog.commitTransition (Executor.commitOf attempt ⟨"done"⟩ ⟨7, 0⟩)).run
        Sample.store.tables.issueLog).1.toOption.map (·.resolution) =
          some (some "Fixed") := by
      decide +kernel
    obtain ⟨row, log, commit, resolved⟩ := ok_of_answer accepted
    exact ⟨row, log, commit, resolved, by decide +kernel⟩

end IssueFlow
