import IssueFlow.Proofs.FieldLaws

/-!
# The contents of a commit

The fields of a submission are different ones, so that they can be written in any order
(`Issue.applyUpdates_perm`) and all of them are there in the end (`Issue.column_applyUpdates`). A
commit on an issue in the status that was read stands or falls with the row that it writes
(`Executor.commit_run_of_expected`), and a row falls through only for a value that its field has no
room for.
-/

namespace IssueFlow

namespace Issue

variable {updates others : List FieldUpdate} {issue next : Issue}

/-- Different fields can be written in any order. -/
theorem applyUpdates_perm (perm : updates.Perm others) (distinct : (updates.map (·.field)).Nodup)
    (written : issue.applyUpdates updates = .ok next) : issue.applyUpdates others = .ok next := by
  induction perm generalizing issue with
  | nil => exact written
  | cons update _ ih =>
    obtain ⟨middle, first, rest⟩ := ok_of_bind written
    rw [applyUpdates, first]
    exact ih (List.nodup_cons.1 distinct).2 rest
  | swap second first updates =>
    obtain ⟨left, wroteFirst, written⟩ := ok_of_bind written
    obtain ⟨both, wroteSecond, rest⟩ := ok_of_bind written
    have differs : second.field ≠ first.field := by
      intro same
      refine (List.nodup_cons.1 distinct).1 ?_
      exact List.mem_map.2 ⟨second, List.mem_cons_self, same⟩
    -- The second write can go first, and behind the two of them the issue is the same.
    obtain ⟨right, alone⟩ := exists_setField_of_ok wroteSecond issue
    obtain ⟨bothToo, behind, behindToo⟩ := setField_comm differs wroteFirst alone
    cases wroteSecond.symm.trans behind
    rw [applyUpdates, alone]
    show right.applyUpdates (first :: updates) = _
    rw [applyUpdates, behindToo]
    exact rest
  | trans before _ ih ihToo =>
    exact ihToo ((before.map _).nodup_iff.1 distinct) (ih distinct written)

/-- Different fields that are written in turn all hold what was written. -/
theorem column_applyUpdates (distinct : (updates.map (·.field)).Nodup)
    (written : issue.applyUpdates updates = .ok next) {update : FieldUpdate}
    (member : update ∈ updates) : next.column update.field = update.field.kept update.value := by
  induction updates generalizing issue with
  | nil => cases member
  | cons first updates ih =>
    obtain ⟨once, distinct⟩ := List.nodup_cons.1 distinct
    obtain ⟨middle, wrote, rest⟩ := ok_of_bind written
    rcases List.mem_cons.1 member with rfl | later
    · -- No later write reaches the field of the first one.
      have same : SameBut (updates.map (·.field)) middle next :=
        sameBut_of_applyUpdates rest fun _ member => List.mem_map_of_mem member
      rw [same.column _ once, column_setField wrote]
    · exact ih distinct rest later

/-- Writes fail at a value that its field has no room for, and the refusal names that field. -/
private theorem applyUpdates_eq_error {e : ParseError}
    (refused : issue.applyUpdates updates = .error e) :
    ∃ update ∈ updates, ¬ update.field.Takes update.value ∧
      ∃ found, e = .fieldType update.field.display found := by
  induction updates generalizing issue with
  | nil => cases refused
  | cons update updates ih =>
    rcases Except.bind_eq_error_iff.1 refused with unread | ⟨middle, -, refused⟩
    · refine ⟨update, List.mem_cons_self, ?_, setField_eq_error unread⟩
      intro takes
      obtain ⟨next, written⟩ := exists_setField_iff.2 takes
      cases unread.symm.trans written
    · obtain ⟨later, member, unfit⟩ := ih refused
      exact ⟨later, List.mem_cons_of_mem _ member, unfit⟩

end Issue

namespace Submission

variable {submission : Submission}

/-- The updates of a submission are the values that it has for fields. -/
private theorem mem_updates_iff {update : FieldUpdate} :
    update ∈ submission.updates ↔ submission.submitted update.field = some update.value := by
  obtain ⟨field, value⟩ := update
  rw [submitted, SortedMap.get?, EntryList.find?_eq_some_iff submission.fields.ascending, updates,
    List.mem_map]
  constructor
  · rintro ⟨entry, member, same⟩
    cases same
    exact member
  · exact fun member => ⟨_, member, rfl⟩

/-- No field is submitted twice. -/
private theorem nodup_updates (submission : Submission) :
    (submission.updates.map (·.field)).Nodup := by
  rw [updates, List.map_map, List.nodup_iff_pairwise_ne, List.pairwise_map]
  refine submission.fields.ascending.imp ?_
  rintro ⟨field, _⟩ ⟨other, _⟩ before same
  cases (show field = other from same)
  exact absurd before (by simp)

/-- Each value of a submission finds room in its field. -/
def Fits (submission : Submission) : Prop :=
  ∀ field value, submission.submitted field = some value → field.Takes value

private theorem fits_iff_applyUpdates {issue : Issue} :
    (∃ next, issue.applyUpdates submission.updates = .ok next) ↔ submission.Fits := by
  rw [Issue.applyUpdates_ok_iff]
  constructor
  · intro accepted field value submitted
    exact Issue.exists_setField_iff.1 (accepted ⟨field, value⟩ (mem_updates_iff.2 submitted))
  · intro fits update member
    exact Issue.exists_setField_iff.2 (fits _ _ (mem_updates_iff.1 member))

/-- The field of a resolution that is handed in by itself as well. -/
def Overrides (submission : Submission) (field : FieldRef) : Prop :=
  field = .standard .resolution ∧ IsGiven submission.resolution

end Submission

namespace IssueLog

variable {commit : TransitionCommit} {t : IssueLog} {issue row : Issue}

/-- The order of the updates does not show in what a commit does. -/
private theorem commitTransition_perm {updates : List FieldUpdate}
    (perm : updates.Perm commit.fieldUpdates)
    (distinct : (commit.fieldUpdates.map (·.field)).Nodup) {after : IssueLog} :
    (IssueLog.commitTransition { commit with fieldUpdates := updates }).run t = (.ok row, after) ↔
      (IssueLog.commitTransition commit).run t = (.ok row, after) := by
  have rows : ∀ {issue row}, rowOver { commit with fieldUpdates := updates } issue = .ok row ↔
      rowOver commit issue = .ok row := by
    intro issue row
    have either : ∀ {written}, issue.applyUpdates updates = .ok written ↔
        issue.applyUpdates commit.fieldUpdates = .ok written :=
      ⟨Issue.applyUpdates_perm perm ((perm.map _).nodup_iff.2 distinct),
        Issue.applyUpdates_perm perm.symm distinct⟩
    simp only [rowOver_eq_ok_iff, either]
  rw [commitTransition_eq_ok_iff, commitTransition_eq_ok_iff]
  constructor
  · rintro ⟨current, stored, expected, wrote, same⟩
    exact ⟨current, stored, expected, rows.1 wrote, same⟩
  · rintro ⟨current, stored, expected, wrote, same⟩
    exact ⟨current, stored, expected, rows.2 wrote, same⟩

/-- Past the writes of its fields a commit changes only the column of the resolution, and that only
when one is handed in by itself. -/
private theorem column_rowOver (done : rowOver commit issue = .ok row) {field : FieldRef}
    (apart : field = .standard .resolution → commit.resolution = none) :
    ∃ written, issue.applyUpdates commit.fieldUpdates = .ok written ∧
      row.column field = written.column field := by
  obtain ⟨written, wrote, rfl⟩ := rowOver_eq_ok_iff.1 done
  refine ⟨written, wrote, ?_⟩
  cases field with
  | custom id => rfl
  | standard field =>
    cases field with
    | resolution =>
      show some (Json.ofOption (commit.resolution.or written.resolution)) = _
      rw [apart rfl]
      rfl
    | summary | description | priority | assignee | reporter | dueDate | labels => rfl

end IssueLog

namespace Submission

variable {attempt : Attempt} {target : StatusId} {time : Timestamp} {issue row : Issue}
  {field : FieldRef}

private theorem resolutionText_eq_none_iff {submission : Submission} :
    submission.resolutionText = none ↔ ¬ IsGiven submission.resolution := by
  rw [isGiven_resolution_iff]
  cases submission.resolutionText <;> simp

private theorem commentText_eq_some_iff {submission : Submission} {text : String} :
    submission.commentText = some text ↔
      submission.comment = some text ∧ Text.isBlank text = false := by
  simp [commentText, Option.filter_eq_some_iff]

private theorem commentText_eq_none_iff {submission : Submission} :
    submission.commentText = none ↔ ¬ IsGiven submission.comment := by
  simp only [IsGiven, ← commentText_eq_some_iff]
  cases submission.commentText <;> simp

/-- What is submitted is there on the row. -/
private theorem column_of_submitted
    (done : IssueLog.rowOver (Executor.commitOf attempt target time) issue = .ok row)
    {value : Json} (submitted : attempt.submission.submitted field = some value)
    (apart : ¬ attempt.submission.Overrides field) : row.column field = field.kept value := by
  have alone : field = .standard .resolution → attempt.submission.resolutionText = none :=
    fun same => resolutionText_eq_none_iff.2 fun given => apart ⟨same, given⟩
  obtain ⟨written, wrote, same⟩ := IssueLog.column_rowOver done alone
  have member : (⟨field, value⟩ : FieldUpdate) ∈ attempt.submission.updates :=
    mem_updates_iff.2 submitted
  exact same.trans (Issue.column_applyUpdates attempt.submission.nodup_updates wrote member)

/-- What is not submitted is there as it was. -/
private theorem column_of_not_submitted
    (done : IssueLog.rowOver (Executor.commitOf attempt target time) issue = .ok row)
    (absent : attempt.submission.submitted field = none)
    (apart : ¬ attempt.submission.Overrides field) : row.column field = issue.column field := by
  refine (sameBut_of_rowOver done).column field ?_
  rw [named, List.mem_append, List.mem_map, Option.mem_toList, Option.map_eq_some_iff]
  rintro (⟨update, member, rfl⟩ | ⟨text, given, rfl⟩)
  · cases absent.symm.trans (mem_updates_iff.1 member)
  · exact apart ⟨rfl, isGiven_resolution_iff.2 ⟨text, given⟩⟩

end Submission

/-! ## The commit -/

namespace Executor

section Commit

variable {attempt : Attempt} (target : StatusId) {world : World} {current : Issue}
  (available : world.store.unavailable = false)
  (stored : world.store.tables.issueLog.issues.get? attempt.issue.id = some current)

include available stored

/-- A commit on an issue in the status that was read stands or falls with its row. -/
theorem commit_run_of_expected (expected : current.statusId = attempt.issue.statusId) :
    (commit attempt target).run world =
      match IssueLog.rowOver (commitOf attempt target world.store.now) current with
      | .ok row => (.ok row, { world with
          store.tables.issueLog := world.store.tables.issueLog.recorded
            (commitOf attempt target world.store.now) row })
      | .error e => (.error (commitFailure attempt target e), world) := by
  let commitment := commitOf attempt target world.store.now
  have done : (IssueLog.commitTransition commitment).run world.store.tables.issueLog = _ :=
    IssueLog.commitTransition_of_expected stored expected
  cases wrote : IssueLog.rowOver commitment current <;>
  · rw [wrote] at done
    rw [commit_run, Store.update_onIssueLog available done]
    rfl

theorem commit_of_fits (expected : current.statusId = attempt.issue.statusId)
    (fits : attempt.submission.Fits) : ∃ row, ((commit attempt target).run world).1 = .ok row := by
  obtain ⟨written, wrote⟩ := Submission.fits_iff_applyUpdates.2 fits
  rw [commit_run_of_expected target available stored expected,
    IssueLog.rowOver_eq_ok_iff.2 ⟨_, wrote, rfl⟩]
  exact ⟨_, rfl⟩

/-- A value that does not fit is refused, and its field is named. -/
theorem commit_of_not_fits (expected : current.statusId = attempt.issue.statusId)
    (unfit : ¬ attempt.submission.Fits) :
    ∃ field value found, attempt.submission.submitted field = some value ∧ ¬ field.Takes value ∧
      ((commit attempt target).run world).1 = .error (.rejected
        (.validationFailed "field_value" (ParseError.fieldType field.display found).message)) := by
  rw [commit_run_of_expected target available stored expected]
  rcases wrote : current.applyUpdates attempt.submission.updates with refusal | written
  · obtain ⟨⟨field, value⟩, member, full, found, rfl⟩ := Issue.applyUpdates_eq_error wrote
    refine ⟨field, value, found, Submission.mem_updates_iff.1 member, full, ?_⟩
    rw [IssueLog.rowOver_eq_error_iff.2 ⟨_, wrote, rfl⟩]
    rfl
  · exact absurd (Submission.fits_iff_applyUpdates.1 ⟨written, wrote⟩) unfit

end Commit

/-- What a commit of an attempt has written when it goes through: a row over the one that was
stored, one entry, and the comment unless it is blank. -/
structure Contents (attempt : Attempt) (target : StatusId) (world : World) (current row : Issue)
    (after : World) : Prop where
  submitted : ∀ field value, attempt.submission.submitted field = some value →
    ¬ attempt.submission.Overrides field →
    row.fieldValue field = field.readBack value ∧ row.column field = field.kept value
  unsubmitted : ∀ field, attempt.submission.submitted field = none →
    ¬ attempt.submission.Overrides field →
    row.fieldValue field = current.fieldValue field ∧ row.column field = current.column field
  resolution : ∀ text, attempt.submission.resolution = some text → Text.isBlank text = false →
    row.resolution = some text
  status : row.statusId = target
  time : row.updatedAt = world.store.now
  origin : row.origin = current.origin
  rows : ∀ id, after.store.tables.issueLog.issues.get? id =
    if attempt.issue.id = id then some row else world.store.tables.issueLog.issues.get? id
  history : after.store.tables.issueLog.history = world.store.tables.issueLog.history ++
    [⟨attempt.issue.id, some attempt.issue.statusId, target, attempt.actor, world.store.now⟩]
  comment : ∀ text, attempt.submission.comment = some text → Text.isBlank text = false →
    ∃ id, after.store.tables.issueLog.comments = world.store.tables.issueLog.comments ++
      [⟨id, attempt.issue.id, attempt.actor, text, world.store.now⟩]
  silent : ¬ IsGiven attempt.submission.comment →
    after.store.tables.issueLog.comments = world.store.tables.issueLog.comments
  rest : ∃ log, after = { world with store.tables.issueLog := log }

/-- When the issue stands where it was read and when the submitted values fit decide what a commit
answers. -/
structure Answers (attempt : Attempt) (target : StatusId) (current : Issue)
    (answer : Except TransitionError Issue) : Prop where
  done : (∃ row, answer = .ok row) ↔
    current.statusId = attempt.issue.statusId ∧ attempt.submission.Fits
  moved : answer = .error (.rejected (.noSuchTransition attempt.issue.statusId target)) ↔
    current.statusId ≠ attempt.issue.statusId
  unfit : (∃ message, answer = .error (.rejected (.validationFailed "field_value" message))) ↔
    current.statusId = attempt.issue.statusId ∧ ¬ attempt.submission.Fits
  named : ∀ message, answer = .error (.rejected (.validationFailed "field_value" message)) →
    ∃ field value found, attempt.submission.submitted field = some value ∧
      ¬ field.Takes value ∧ message = (ParseError.fieldType field.display found).message

private theorem answers_of_available {attempt : Attempt} {target : StatusId} {world : World}
    {current : Issue} (available : world.store.unavailable = false)
    (stored : world.store.tables.issueLog.issues.get? attempt.issue.id = some current) :
    Answers attempt target current ((commit attempt target).run world).1 := by
  by_cases expected : current.statusId = attempt.issue.statusId
  · by_cases fits : attempt.submission.Fits
    · obtain ⟨row, answered⟩ := commit_of_fits target available stored expected fits
      rw [answered]
      constructor <;> simp [expected, fits]
    · obtain ⟨field, value, found, submitted, full, answered⟩ :=
        commit_of_not_fits target available stored expected fits
      rw [answered]
      constructor
      · simp [fits]
      · simp [expected]
      · simp [expected, fits]
      · rintro message ⟨⟩
        exact ⟨field, value, found, submitted, full, rfl⟩
  · rw [commit_of_moved available ⟨current, stored, rfl⟩ expected]
    constructor <;> simp [expected]

private theorem contents_of_commit {attempt : Attempt} {target : StatusId} {world after : World}
    {current row : Issue}
    (stored : world.store.tables.issueLog.issues.get? attempt.issue.id = some current)
    (done : (commit attempt target).run world = (.ok row, after)) :
    Contents attempt target world current row after := by
  rcases commit_cases attempt target world with ⟨e, failed⟩ | ⟨committed, log, -, logged, executed⟩
  · cases failed.symm.trans done
  · cases executed.symm.trans done
    obtain ⟨found, storedToo, -, wrote, rfl⟩ := IssueLog.commitTransition_eq_ok_iff.1 logged
    cases storedToo.symm.trans stored
    have origin : row.origin = current.origin := (Submission.sameBut_of_rowOver wrote).origin
    have id : row.id = attempt.issue.id :=
      (Issue.id_of_origin origin).trans (Table.key_of_get? stored)
    obtain ⟨written, -, same⟩ := IssueLog.rowOver_eq_ok_iff.1 wrote
    exact {
      submitted := fun field value submitted apart => by
        have column := Submission.column_of_submitted wrote submitted apart
        exact ⟨by rw [Issue.fieldValue_eq_column, column, FieldRef.kept_getD_null], column⟩
      unsubmitted := fun field absent apart => by
        have column := Submission.column_of_not_submitted wrote absent apart
        exact ⟨by rw [Issue.fieldValue_eq_column, column, Issue.fieldValue_eq_column], column⟩
      resolution := fun text given visible => by
        have alone := Submission.resolutionText_eq_some_iff.2 ⟨given, visible⟩
        rw [same]
        show (attempt.submission.resolutionText.or written.resolution) = some text
        rw [alone]
        rfl
      status := by rw [same]; rfl
      time := by rw [same]; rfl
      origin := origin
      rows := fun other => by
        show (IssueLog.recorded _ row _).issues.get? other = _
        rw [IssueLog.get?_of_put IssueLog.issues_recorded, id]
      history := IssueLog.history_recorded
      comment := fun text given visible =>
        IssueLog.comments_recorded_of_some (Submission.commentText_eq_some_iff.2 ⟨given, visible⟩)
      silent := fun silent =>
        IssueLog.comments_recorded_of_none (Submission.commentText_eq_none_iff.2 silent)
      rest := ⟨_, rfl⟩ }

/-- A commit that goes through writes the submission over the stored row and logs the move. One that
fails writes nothing: the issue has moved on, or else a submitted value does not fit. In what order
the fields are written does not show. -/
theorem commit_contents (attempt : Attempt) (target : StatusId) (world : World) (current : Issue)
    (stored : world.store.tables.issueLog.issues.get? attempt.issue.id = some current) :
    (∀ row after, (commit attempt target).run world = (.ok row, after) →
      Contents attempt target world current row after) ∧
    (∀ e after, (commit attempt target).run world = (.error e, after) → after = world) ∧
    (world.store.unavailable = true →
      (commit attempt target).run world = (.error (.storage .outage), world)) ∧
    (world.store.unavailable = false →
      Answers attempt target current ((commit attempt target).run world).1) ∧
    ∀ updates, updates.Perm attempt.submission.updates → ∀ time row log,
      (IssueLog.commitTransition { commitOf attempt target time with fieldUpdates := updates }).run
          world.store.tables.issueLog = (.ok row, log) ↔
        (IssueLog.commitTransition (commitOf attempt target time)).run world.store.tables.issueLog =
          (.ok row, log) := by
  refine ⟨?_, ?_, ?_, ?_, ?_⟩
  · exact fun row after done => contents_of_commit stored done
  · intro e after refused
    rcases commit_cases attempt target world with ⟨_, failed⟩ | ⟨_, _, -, -, executed⟩
    · cases failed.symm.trans refused
      rfl
    · cases executed.symm.trans refused
  · intro out
    rw [commit_run, Store.update, if_pos out]
    rfl
  · exact fun available => answers_of_available available stored
  · intro updates perm time row log
    exact IssueLog.commitTransition_perm perm attempt.submission.nodup_updates

end Executor

namespace Sample

/-- A number for the description, null for the labels and a custom field, a resolution among the
fields and one by itself, and a comment. -/
def filled : Submission where
  fields := .ofList [
    (.standard .description, .number (.whole 5)),
    (.standard .labels, .null),
    (.custom ⟨"points"⟩, .null),
    (.standard .resolution, .string "Later")]
  comment := some " done "
  resolution := some "Fixed"

/-- An attempt from a status that the sample issue is not in. -/
def stale : Attempt :=
  { finishing submission with issue := { issue with statusId := ⟨"done"⟩ } }

end Sample

/-- The form goes through: the number is there as its text, and the resolution is the one that was
handed in by itself. A summary cannot be cleared, and from another status there is no edge. -/
theorem sample_contents :
    Sample.world.store.tables.issueLog.issues.get? Sample.issue.id = some Sample.issue ∧
    (∃ row after, (Executor.commit (Sample.finishing Sample.filled) ⟨"done"⟩).run Sample.world =
        (.ok row, after) ∧
      row.fieldValue (.standard .description) = .string "5" ∧
      row.fieldValue (.standard .labels) = .array [] ∧
      row.column (.custom ⟨"points"⟩) = none ∧
      row.fieldValue (.standard .summary) = .string "Move the sign" ∧
      row.resolution = some "Fixed" ∧
      ∃ id, after.store.tables.issueLog.comments =
        [⟨id, Sample.issue.id, Sample.reporter.id, " done ", Sample.store.now⟩]) ∧
    (∃ message, ((Executor.commit (Sample.finishing
        { fields := .ofList [(.standard .summary, .null)] }) ⟨"done"⟩).run Sample.world).1 =
      .error (.rejected (.validationFailed "field_value" message))) ∧
    ((Executor.commit Sample.stale ⟨"done"⟩).run Sample.world).1 =
      .error (.rejected (.noSuchTransition ⟨"done"⟩ ⟨"done"⟩)) := by
  have stored : Sample.world.store.tables.issueLog.issues.get? Sample.issue.id =
      some Sample.issue := by
    decide +kernel
  have available : Sample.world.store.unavailable = false := by decide +kernel
  have silent : Sample.world.store.tables.issueLog.comments = [] := by decide +kernel
  refine ⟨stored, ?_, ?_, ?_⟩
  · have answered : ((Executor.commit (Sample.finishing Sample.filled) ⟨"done"⟩).run
        Sample.world).1.toOption.map (·.resolution) = some (some "Fixed") := by
      decide +kernel
    obtain ⟨row, after, done, -⟩ := ok_of_answer answered
    have contents := (Executor.commit_contents (Sample.finishing Sample.filled) ⟨"done"⟩
      Sample.world Sample.issue stored).1 row after done
    have apart : ∀ field, field ≠ .standard .resolution → ¬ Sample.filled.Overrides field :=
      fun field differs overrides => differs overrides.1
    have submitted := fun field value given differs =>
      contents.submitted field value given (apart field differs)
    refine ⟨row, after, done, ?_, ?_, ?_, ?_, ?_, ?_⟩
    · exact (submitted _ (.number (.whole 5)) (by decide +kernel) (by decide)).1
    · exact (submitted _ .null (by decide +kernel) (by decide)).1
    · exact (submitted _ .null (by decide +kernel) (by decide)).2
    · exact (contents.unsubmitted (.standard .summary) (by decide +kernel) (apart _ (by decide))).1
    · exact contents.resolution "Fixed" rfl (by decide)
    · have said := contents.comment " done " rfl (by decide)
      rwa [silent] at said
  · have answers := (Executor.commit_contents (Sample.finishing
      { fields := .ofList [(.standard .summary, .null)] }) ⟨"done"⟩ Sample.world Sample.issue
      stored).2.2.2.1 available
    refine answers.unfit.2 ⟨rfl, fun fits => ?_⟩
    obtain ⟨text, same⟩ := fits (.standard .summary) .null (by decide +kernel)
    cases same
  · have answers := (Executor.commit_contents Sample.stale ⟨"done"⟩ Sample.world Sample.issue
      stored).2.2.2.1 available
    exact answers.moved.2 (by decide)

end IssueFlow
