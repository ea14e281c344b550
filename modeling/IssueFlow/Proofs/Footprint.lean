import IssueFlow.Proofs.LibraryRuns
import IssueFlow.Proofs.TransitionFrame

/-!
# The footprint of a transition

What a transition may write can be read off its submission and the post-functions of its edge before
it runs (`Executor.footprint`): some fields of the issue and some of its parent. The commit and
every effect of a post-function stay inside it (`Store.Confined`), and so does the run.
-/

namespace IssueFlow

namespace Issue

/-- What an issue stores for a field; a custom field that is not set differs from null. -/
def column (issue : Issue) : FieldRef → Option Json
  | .standard field => some (issue.standardValue field)
  | .custom id => issue.customFields.get? id

private theorem customFields_setStandard {issue next : Issue} {field : StandardField} {value : Json}
    (written : issue.setField (.standard field) value = .ok next) :
    next.customFields = issue.customFields := by
  cases field <;>
  · obtain ⟨content, -, same⟩ := (setField_standard_eq_ok_iff rfl).1 written
    cases same
    rfl

/-- A write of a field leaves the columns of all others. -/
theorem column_setField_of_ne {issue next : Issue} {field other : FieldRef} {value : Json}
    (written : issue.setField field value = .ok next) (differs : other ≠ field) :
    next.column other = issue.column other := by
  cases other with
  | standard other => exact congrArg some (fieldValue_setField_of_ne written differs)
  | custom other =>
    cases field with
    | standard field => rw [column, customFields_setStandard written, column]
    | custom id =>
      cases written
      have apart : compare other id ≠ .eq := fun same =>
        differs (congrArg _ (Std.LawfulEqCmp.eq_of_compare same))
      cases value <;> simp [setCustom, column, SortedMap.get?_erase, SortedMap.get?_insert, apart]

/-- One row may have come from the other by writes to the named fields, to the status and to the
time of the last update. -/
structure SameBut (named : List FieldRef) (issue later : Issue) : Prop where
  origin : later.origin = issue.origin
  column : ∀ field, field ∉ named → later.column field = issue.column field

namespace SameBut

variable {named more : List FieldRef} {issue middle later : Issue}

private theorem refl (named : List FieldRef) (issue : Issue) : SameBut named issue issue :=
  ⟨rfl, fun _ _ => rfl⟩

private theorem trans (before : SameBut named issue middle) (behind : SameBut named middle later) :
    SameBut named issue later where
  origin := behind.origin.trans before.origin
  column field other := (behind.column field other).trans (before.column field other)

private theorem trans_rel {a b c : Option Issue} (before : Option.Rel (SameBut named) a b)
    (behind : Option.Rel (SameBut named) b c) : Option.Rel (SameBut named) a c := by
  cases before with
  | none => exact behind
  | some same =>
    cases behind with
    | some sameToo => exact .some (same.trans sameToo)

private theorem mono (same : SameBut named issue later) (sub : named ⊆ more) :
    SameBut more issue later where
  origin := same.origin
  column field other := same.column field fun member => other (sub member)

/-- Nothing escapes the columns: where no field is named, rows differ at most in the status and in
the time of the last update. -/
theorem eq_of_nil (same : SameBut [] issue later) :
    later = { issue with statusId := later.statusId, updatedAt := later.updatedAt } := by
  have texts : ∀ {a b : Option String}, Json.ofOption a = Json.ofOption b → a = b := by
    rintro (_ | a) (_ | b) <;> simp [Json.ofOption]
  have idents : Function.Injective (Ident.text : UserId → String) := by
    rintro ⟨a⟩ ⟨b⟩ rfl
    rfl
  have standard := fun field => Option.some.inj (same.column (.standard field) List.not_mem_nil)
  have reporter := idents (Json.string.inj (standard .reporter))
  have labels : later.labels = issue.labels :=
    List.map_injective_iff.2 (fun _ _ => Json.string.inj) (Json.array.inj (standard .labels))
  have customFields : later.customFields = issue.customFields :=
    SortedMap.ext fun id => same.column (.custom id) List.not_mem_nil
  have summary := Json.string.inj (standard .summary)
  have description := texts (standard .description)
  have priority := texts (standard .priority)
  have assignee := Option.map_injective idents (texts (standard .assignee))
  have resolution := texts (standard .resolution)
  have dueDate := texts (standard .dueDate)
  obtain ⟨id, key, project, type, parent, created⟩ := by
    simpa only [Issue.origin, Prod.mk.injEq] using same.origin
  cases issue with | mk => cases later with | mk => simp_all

end SameBut

private theorem sameBut_of_setField {issue next : Issue} {field : FieldRef} {value : Json}
    {named : List FieldRef} (written : issue.setField field value = .ok next)
    (member : field ∈ named) : SameBut named issue next where
  origin := (setField_fixed written).1
  column _ outside := column_setField_of_ne written fun same => outside (same ▸ member)

/-- Writes in turn stay inside the fields that they name. -/
theorem sameBut_of_applyUpdates {updates : List FieldUpdate} {issue next : Issue}
    {named : List FieldRef} (written : issue.applyUpdates updates = .ok next)
    (sub : ∀ update ∈ updates, update.field ∈ named) : SameBut named issue next := by
  induction updates generalizing issue with
  | nil =>
    cases written
    exact .refl named _
  | cons update updates ih =>
    obtain ⟨middle, first, rest⟩ := ok_of_bind written
    obtain ⟨member, others⟩ := List.forall_mem_cons.1 sub
    exact (sameBut_of_setField first member).trans (ih rest others)

private theorem SameBut.touched {named : List FieldRef} {issue later : Issue}
    (same : SameBut named issue later) (time : Timestamp) :
    SameBut named issue { later with updatedAt := time } where
  origin := same.origin
  column field outside := by
    rw [← same.column field outside]
    cases field with
    | custom id => rfl
    | standard field => cases field <;> rfl

end Issue

/-- The fields that a submission names: those it has values for, and the resolution when it is
handed in by itself. -/
def Submission.named (submission : Submission) : List FieldRef :=
  submission.updates.map (·.field) ++
    (submission.resolutionText.map fun _ => FieldRef.standard .resolution).toList

/-- The row of a commit stays inside the fields that the submission names. -/
theorem Submission.sameBut_of_rowOver {attempt : Attempt} {target : StatusId} {time : Timestamp}
    {issue row : Issue}
    (done : IssueLog.rowOver (Executor.commitOf attempt target time) issue = .ok row) :
    Issue.SameBut attempt.submission.named issue row := by
  obtain ⟨next, wrote, rfl⟩ := IssueLog.rowOver_eq_ok_iff.1 done
  have fields : Issue.SameBut attempt.submission.named issue next :=
    Issue.sameBut_of_applyUpdates wrote fun update member =>
      List.mem_append_left _ (List.mem_map_of_mem member)
  refine ⟨fields.origin, fun field outside => ?_⟩
  rw [← fields.column field outside]
  cases field with
  | custom id => rfl
  | standard field =>
    cases field with
    | resolution =>
      have alone : attempt.submission.resolutionText = none := by
        cases text : attempt.submission.resolutionText with
        | none => rfl
        | some text => exact absurd (by simp [Submission.named, text]) outside
      show some (Json.ofOption (attempt.submission.resolutionText.or next.resolution)) = _
      rw [alone]
      rfl
    | summary | description | priority | assignee | reporter | dueDate | labels => rfl

/-! ## Inside a footprint -/

/-- Fields of one issue and fields of its parent. -/
structure Footprint where
  issue : IssueId
  parent : Option IssueId
  own : List FieldRef
  ofParent : List FieldRef

namespace Footprint

/-- The issues that a footprint reaches; the parent is one of them where it has fields in it. -/
def Reaches (print : Footprint) (id : IssueId) : Prop :=
  id = print.issue ∨ print.parent = some id ∧ print.ofParent ≠ []

/-- The fields of an issue that lie in a footprint. An issue that is its own parent has both
kinds. -/
def fields (print : Footprint) (id : IssueId) : List FieldRef :=
  (if id = print.issue then print.own else []) ++
    if print.parent = some id then print.ofParent else []

end Footprint

/-- Nothing has changed outside of a footprint. Issues that it does not reach are the same, in those
that it reaches only its fields have changed, with the time of the last update. Only its issue may
have moved, and only that has new entries and new comments. -/
structure IssueLog.Confined (print : Footprint) (t later : IssueLog) : Prop where
  rows : ∀ id, ¬ print.Reaches id → later.issues.get? id = t.issues.get? id
  columns : ∀ id, Option.Rel (Issue.SameBut (print.fields id)) (t.issues.get? id)
    (later.issues.get? id)
  status : ∀ id, id ≠ print.issue →
    (later.issues.get? id).map (·.statusId) = (t.issues.get? id).map (·.statusId)
  history : ∃ entries, later.history = t.history ++ entries ∧
    ∀ entry ∈ entries, entry.issueId = print.issue
  comments : ∃ comments, later.comments = t.comments ++ comments ∧
    ∀ comment ∈ comments, comment.issueId = print.issue

def Store.Confined (print : Footprint) (store later : Store) : Prop :=
  store.tables.issueLog.Confined print later.tables.issueLog

instance (print : Footprint) : IsPreorder Store (Store.Confined print) where
  refl store := {
    rows := fun _ _ => rfl
    columns := fun id => by
      cases store.tables.issueLog.issues.get? id with
      | none => exact .none
      | some row => exact .some (.refl _ row)
    status := fun _ _ => rfl
    history := ⟨[], (List.append_nil _).symm, List.forall_mem_nil _⟩
    comments := ⟨[], (List.append_nil _).symm, List.forall_mem_nil _⟩ }
  trans _ _ _ before behind := {
    rows := fun id outside => (behind.rows id outside).trans (before.rows id outside)
    columns := fun id => Issue.SameBut.trans_rel (before.columns id) (behind.columns id)
    status := fun id other => (behind.status id other).trans (before.status id other)
    history := by
      obtain ⟨first, appended, own⟩ := before.history
      obtain ⟨second, appendedToo, ownToo⟩ := behind.history
      refine ⟨first ++ second, by rw [appendedToo, appended, List.append_assoc], ?_⟩
      exact List.forall_mem_append.2 ⟨own, ownToo⟩
    comments := by
      obtain ⟨first, appended, own⟩ := before.comments
      obtain ⟨second, appendedToo, ownToo⟩ := behind.comments
      refine ⟨first ++ second, by rw [appendedToo, appended, List.append_assoc], ?_⟩
      exact List.forall_mem_append.2 ⟨own, ownToo⟩ }

section Write

variable {print : Footprint} {t later : IssueLog} {current row : Issue}

/-- A row that is put over a stored one inside the footprint leaves the issues confined. -/
private theorem IssueLog.confined_of_put (stored : t.issues.get? current.id = some current)
    (reached : print.Reaches current.id)
    (same : Issue.SameBut (print.fields current.id) current row)
    (status : current.id ≠ print.issue → row.statusId = current.statusId)
    (issues : later.issues = t.issues.put row)
    (history : ∃ entries, later.history = t.history ++ entries ∧
      ∀ entry ∈ entries, entry.issueId = print.issue)
    (comments : ∃ comments, later.comments = t.comments ++ comments ∧
      ∀ comment ∈ comments, comment.issueId = print.issue) : t.Confined print later := by
  have found := IssueLog.get?_of_put issues
  have id : row.id = current.id := Issue.id_of_origin same.origin
  refine ⟨?_, ?_, ?_, history, comments⟩
  · intro other outside
    rw [found, if_neg]
    rintro rfl
    exact outside (id ▸ reached)
  · intro other
    rw [found]
    split
    · next own =>
      obtain rfl : current.id = other := id.symm.trans own
      rw [stored]
      exact .some same
    · cases t.issues.get? other with
      | none => exact .none
      | some kept => exact .some (.refl _ kept)
  · intro other apart
    rw [found]
    split
    · next own =>
      obtain rfl : current.id = other := id.symm.trans own
      rw [stored, Option.map_some, Option.map_some, status apart]
    · rfl

end Write

/-- A write of one field, inside the footprint. -/
private theorem Store.confined_of_over {print : Footprint} {world : World} {current written : Issue}
    {field : FieldRef} {value : Json}
    (stored : world.store.tables.issueLog.issues.get? current.id = some current)
    (taken : current.setField field value = .ok written) (reached : print.Reaches current.id)
    (member : field ∈ print.fields current.id) (time : Timestamp) :
    world.store.Confined print (world.over { written with updatedAt := time }).store :=
  IssueLog.confined_of_put stored reached ((Issue.sameBut_of_setField taken member).touched time)
    (fun _ => (Issue.setField_fixed taken).2) rfl
    ⟨[], (List.append_nil _).symm, List.forall_mem_nil _⟩
    ⟨[], (List.append_nil _).symm, List.forall_mem_nil _⟩

/-- A post-function that names fields of a footprint stays inside it. -/
private theorem PostFunction.Effect.confined {print : Footprint} {attempt : Attempt}
    {postFunction : PostFunction} {world after : World} {answer : Except TransitionError Issue}
    (effect : Effect attempt world postFunction answer after)
    (issue : attempt.issue.id = print.issue) (parent : attempt.issue.parentId = print.parent)
    (own : ∀ field, postFunction.ownField? = some field → field ∈ print.own)
    (ofParent : ∀ field, postFunction.parentField? = some field → field ∈ print.ofParent) :
    world.store.Confined print after.store := by
  cases effect with
  | failed | refused | sent | orphan => exact Std.Refl.refl world.store
  | wrote _ field value current written names stored taken =>
    have id : current.id = print.issue := (Table.key_of_get? stored).trans issue
    refine Store.confined_of_over (id ▸ issue ▸ stored) taken (.inl id) ?_ _
    rw [Footprint.fields, if_pos id]
    exact List.mem_append_left _ (own field names)
  | wroteParent _ field value found written names child stored taken =>
    -- The parent may be the issue itself; its fields lie in the footprint either way.
    have named : print.parent = some found.id := parent.symm.trans child
    have member := ofParent field names
    refine Store.confined_of_over stored taken (.inr ⟨named, List.ne_nil_of_mem member⟩) ?_ _
    rw [Footprint.fields, if_pos named]
    exact List.mem_append_right _ member
  | commented body =>
    have same := Std.Refl.refl (r := Store.Confined print) world.store
    exact ⟨same.rows, same.columns, same.status, same.history,
      [_], rfl, List.forall_mem_singleton.2 issue⟩

/-- A commit makes at most one comment, on its issue. -/
private theorem IssueLog.comments_of_commitTransition {commit : TransitionCommit}
    {t after : IssueLog} {next : Issue}
    (done : (IssueLog.commitTransition commit).run t = (.ok next, after)) :
    ∃ comments, after.comments = t.comments ++ comments ∧
      ∀ comment ∈ comments, comment.issueId = commit.issueId := by
  obtain ⟨current, -, -, -, rfl⟩ := commitTransition_eq_ok_iff.1 done
  cases comment : commit.comment with
  | none =>
    refine ⟨[], ?_, List.forall_mem_nil _⟩
    rw [comments_recorded_of_none comment, List.append_nil]
  | some body =>
    obtain ⟨id, appended⟩ : ∃ id, (t.recorded commit next).comments = t.comments ++
        [⟨id, commit.issueId, commit.actor, body, commit.committedAt⟩] :=
      comments_recorded_of_some comment
    exact ⟨_, appended, List.forall_mem_singleton.2 rfl⟩

/-- A commit whose submission names fields of a footprint stays inside it. -/
private theorem Executor.confined_of_commit {print : Footprint} {attempt : Attempt}
    {target : StatusId} {world committed : World} {row : Issue}
    (done : (commit attempt target).run world = (.ok row, committed))
    (issue : attempt.issue.id = print.issue) (own : attempt.submission.named ⊆ print.own) :
    world.store.Confined print committed.store := by
  rcases commit_cases attempt target world with ⟨e, failed⟩ | ⟨next, log, -, logged, executed⟩
  · cases failed.symm.trans done
  · cases executed.symm.trans done
    obtain ⟨current, stored, -, overwrote, issues, history⟩ :=
      IssueLog.commitTransition_eq_ok logged
    obtain ⟨comments, appended, commented⟩ := IssueLog.comments_of_commitTransition logged
    have id : current.id = print.issue := (Table.key_of_get? stored).trans issue
    refine IssueLog.confined_of_put (id ▸ issue ▸ stored) (.inl id) ?_ (absurd id) issues ?_ ?_
    · refine (Submission.sameBut_of_rowOver overwrote).mono fun field member => ?_
      rw [Footprint.fields, if_pos id]
      exact List.mem_append_left _ (own member)
    · exact ⟨_, history, List.forall_mem_singleton.2 issue⟩
    · exact ⟨comments, appended, fun comment member => (commented comment member).trans issue⟩

/-- What an attempt may write: of its issue what is submitted and what the post-functions name, and
of the parent what those name of it. -/
def Attempt.footprint (attempt : Attempt) (rules : List PostFunctionRule) : Footprint where
  issue := attempt.issue.id
  parent := attempt.issue.parentId
  own := attempt.submission.named ++ rules.filterMap (·.content.ownField?)
  ofParent := rules.filterMap (·.content.parentField?)

namespace Executor

variable {executor : Executor}

/-- The post-functions behind a commit stay inside the footprint of the attempt. -/
private theorem visits_confined {matcher : Matcher}
    (standard : executor.registry = .builtIn matcher) (attempt : Attempt)
    {rules : List PostFunctionRule} {row : Issue} {world : World}
    (origin : row.origin = attempt.issue.origin) (shown : world.store.Shows row) :
    ∀ visit ∈ executor.visits { attempt with issue := row } rules world,
      visit.before.store.Confined (attempt.footprint rules) visit.after.store := by
  refine forall_visits_standard standard (fun seen world =>
    seen.origin = attempt.issue.origin ∧ world.store.Shows seen) ?_ ⟨origin, shown⟩
  rintro seen world answer after ⟨origin, shown⟩ rule member effect
  refine ⟨effect.confined ?_ ?_ ?_ ?_, (effect.origin shown).trans origin, effect.shows shown⟩
  · exact Issue.id_of_origin origin
  -- Rules find the parent through the issue that they see, which has the parent of the stored one.
  · exact congrArg (·.2.2.2.2.1) origin
  · exact fun field names =>
      List.mem_append_right _ (List.mem_filterMap.2 ⟨rule, member, names⟩)
  · exact fun field names => List.mem_filterMap.2 ⟨rule, member, names⟩

/-- A transition leaves all tables but those of the issues. -/
private theorem take_sharesRest {matcher : Matcher}
    (standard : executor.registry = .builtIn matcher) (issue : Issue) (target : StatusId)
    (actor : UserId) (submission : Submission) :
    Keeps (World.Along Store.SharesRest)
      (executor.take issue target actor submission).run := by
  have harmless : executor.registry.Harmless := standard ▸ .builtIn
  exact take_keeps harmless.postFunctionsShareRest harmless.gatesShareRest commit_sharesRest issue
    target actor submission

end Executor

/-- The frame of a transition. One that fails writes nothing. One that is taken leaves all tables
but those of the issues, and there it stays inside the footprint of the attempt. No issue but its
own and the parent of that is written. Of the parent only the fields change that post-functions of
the edge name for it, and of the issue only those that were submitted or that post-functions name,
with the resolution if it was handed in. Only its own issue moves, and only that gets entries and
comments. -/
theorem transition_frame (executor : Executor) {matcher : Matcher}
    (standard : executor.registry = .builtIn matcher) (issue : Issue) (target : StatusId)
    (actor : UserId) (submission : Submission) (world : World) :
    (∀ e after, (executor.take issue target actor submission).run world = (.error e, after) →
      world.Untouched after) ∧
    ∀ taken after, (executor.take issue target actor submission).run world = (.ok taken, after) →
      world.store.SharesRest after.store ∧
      ∃ stored, world.store.tables.issueLog.issues.get? issue.id = some stored ∧
        world.store.Confined
          (Attempt.footprint ⟨stored, actor, taken.transition, submission⟩
            (world.store.tables.graph.postFunctionsOf taken.transition.id)) after.store := by
  refine ⟨?_, ?_⟩
  · intro e after failed
    exact Executor.untouched_of_take_error standard failed
  · intro taken after run
    have shared := Executor.take_sharesRest standard issue target actor submission world
    rw [run] at shared
    obtain ⟨row, committed, trail⟩ := Executor.trail_of_take standard run
    obtain ⟨shown, stored, found, created⟩ := Executor.shows_of_commit trail.commit
    have id : issue.id = stored.id := (Table.key_of_get? found).symm
    refine ⟨shared, stored, found, ?_⟩
    refine IsTrans.trans _ committed.store _ ?_ ?_
    · exact Executor.confined_of_commit trail.commit id (List.subset_append_left _ _)
    · refine Executor.related_of_chained (R := World.Along (Store.Confined _)) trail.chained ?_
      rw [trail.followers]
      exact Executor.visits_confined standard ⟨stored, actor, taken.transition, submission⟩ created
        shown

/-- A sub-task of the sample issue. -/
def Sample.subtask : Issue :=
  { issue with id := ⟨"I2"⟩, key := "WEB-2", parentId := some issue.id }

/-- Behind the edge of the sample the priority of the parent is raised. -/
def Sample.nested : World where
  store := store.after [
    .operation (.onIssueLog (.createIssue subtask reporter.id)),
    .operation (.onGraph (.deletePostFunction ⟨"R3"⟩)),
    .operation (.onGraph (.addPostFunction ⟨⟨"R7"⟩, ⟨"T1"⟩,
      .updateParent (.standard .priority) (.string "high"), position 0⟩))]
  outbox := .ofCapacity 4

/-- The sub-task has moved and is otherwise the same. Its parent has a new priority, and is the same
but for that. -/
theorem sample_frame :
    ({} : Executor).registry = .builtIn ∧ ∃ taken after subtask parent,
      (({} : Executor).take Sample.subtask ⟨"done"⟩ Sample.reporter.id Sample.submission).run
        Sample.nested = (.ok taken, after) ∧
      after.store.tables.issueLog.issues.get? Sample.subtask.id = some subtask ∧
      subtask = { Sample.subtask with
        statusId := subtask.statusId, updatedAt := subtask.updatedAt } ∧
      after.store.tables.issueLog.issues.get? Sample.issue.id = some parent ∧
      parent.priority = some "high" ∧ parent.statusId = Sample.issue.statusId ∧
      Issue.SameBut [.standard .priority] Sample.issue parent := by
  have answered : ((({} : Executor).take Sample.subtask ⟨"done"⟩ Sample.reporter.id
      Sample.submission).run Sample.nested).1.toOption.map (·.transition) = some Sample.edge := by
    decide +kernel
  have raised : (((({} : Executor).take Sample.subtask ⟨"done"⟩ Sample.reporter.id
      Sample.submission).run Sample.nested).2.store.tables.issueLog.issues.get?
        Sample.issue.id).map (·.priority) = some (some "high") := by
    decide +kernel
  have stored : Sample.nested.store.tables.issueLog.issues.get? Sample.issue.id =
      some Sample.issue := by
    decide +kernel
  have storedToo : Sample.nested.store.tables.issueLog.issues.get? Sample.subtask.id =
      some Sample.subtask := by
    decide +kernel
  have fields : ∀ id ∈ [Sample.issue.id, Sample.subtask.id], (Attempt.footprint
      ⟨Sample.subtask, Sample.reporter.id, Sample.edge, Sample.submission⟩
      (Sample.nested.store.tables.graph.postFunctionsOf Sample.edge.id)).fields id =
        if id = Sample.issue.id then [.standard .priority] else [] := by
    decide +kernel
  obtain ⟨taken, after, run, along⟩ := ok_of_answer answered
  obtain ⟨-, row, found, confined⟩ :=
    (transition_frame {} rfl Sample.subtask ⟨"done"⟩ Sample.reporter.id Sample.submission
      Sample.nested).2 taken after run
  cases storedToo.symm.trans found
  rw [along] at confined
  rw [run, Option.map_eq_some_iff] at raised
  obtain ⟨parent, written, high⟩ := raised
  have other : Sample.issue.id ≠ Sample.subtask.id := by decide
  have status := confined.status Sample.issue.id other
  have same := confined.columns Sample.issue.id
  have sameToo := confined.columns Sample.subtask.id
  rw [fields _ (by simp), if_pos rfl, stored, written] at same
  rw [fields _ (by simp), if_neg other.symm, storedToo] at sameToo
  rw [stored, written] at status
  cases same with
  | some same =>
    cases moved : after.store.tables.issueLog.issues.get? Sample.subtask.id with
    | none =>
      rw [moved] at sameToo
      cases sameToo
    | some subtask =>
      rw [moved] at sameToo
      cases sameToo with
      | some sameToo =>
        exact ⟨rfl, taken, after, subtask, parent, run, moved, sameToo.eq_of_nil, written, high,
          Option.some.inj status, same⟩

end IssueFlow
