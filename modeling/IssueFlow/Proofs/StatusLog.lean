import IssueFlow.Proofs.Reachable
import Mathlib.Data.List.Chain

/-!
# The log of statuses

What each operation of the issue tables does (`IssueLog.Changes`), and what follows for the status
history: it tells the truth of every stored issue (`IssueLog.Logged`), it only grows, and an issue
stays the one that was created (`Store.Grows`). The statuses in the history of an issue are those
that it has been in at some point of the run (`mem_history_iff_past`).
-/

namespace IssueFlow

namespace Issue

/-- The columns that are set at creation for good. -/
def origin (issue : Issue) :
    IssueId × String × ProjectId × IssueTypeId × Option IssueId × Timestamp :=
  (issue.id, issue.key, issue.projectId, issue.issueTypeId, issue.parentId, issue.createdAt)

theorem id_of_origin {a b : Issue} (same : a.origin = b.origin) : a.id = b.id :=
  congrArg Prod.fst same

theorem setField_eq_ok_iff {issue next : Issue} {field : FieldRef} {value : Json} :
    issue.setField field value = .ok next ↔ (write field value).run issue = (.ok (), next) := by
  rw [setField]
  rcases (write field value).run issue with ⟨e | u, later⟩
  · exact iff_of_false (by rintro ⟨⟩) (by rintro ⟨⟩)
  · constructor <;>
    · rintro ⟨⟩
      rfl

section Column

variable {α : Type} {content : Except ParseError α} {put : Issue → α → Issue} {issue next : Issue}
variable {field : StandardField} {value : Json}

/-- A write of a standard field puts what it reads off the value into one column. -/
theorem setField_standard_eq_ok_iff (column : writeStandard field value = writeColumn content put) :
    issue.setField (.standard field) value = .ok next ↔
      ∃ a, content = .ok a ∧ put issue a = next := by
  rw [setField_eq_ok_iff, write, column]
  constructor
  · intro written
    obtain ⟨a, read, done⟩ := ok_of_check written
    cases done
    exact ⟨a, read, rfl⟩
  · rintro ⟨a, rfl, rfl⟩
    rfl

theorem exists_setField_standard_iff
    (column : writeStandard field value = writeColumn content put) :
    (∃ next, issue.setField (.standard field) value = .ok next) ↔ ∃ a, content = .ok a := by
  simp only [setField_standard_eq_ok_iff column]
  constructor
  · rintro ⟨next, a, read, -⟩
    exact ⟨a, read⟩
  · rintro ⟨a, read⟩
    exact ⟨put issue a, a, read, rfl⟩

theorem setField_standard_eq_error_iff
    (column : writeStandard field value = writeColumn content put) {e : ParseError} :
    issue.setField (.standard field) value = .error e ↔ content = .error e := by
  rw [setField, write, column]
  cases content with
  | ok a => exact iff_of_false (by rintro ⟨⟩) (by rintro ⟨⟩)
  | error cause =>
    constructor <;>
    · rintro ⟨⟩
      rfl

end Column

private theorem setStandard_fixed {issue next : Issue} {field : StandardField} {value : Json}
    (written : issue.setField (.standard field) value = .ok next) :
    next.origin = issue.origin ∧ next.statusId = issue.statusId := by
  cases field <;>
  · obtain ⟨text, -, same⟩ := (setField_standard_eq_ok_iff rfl).1 written
    cases same
    exact ⟨rfl, rfl⟩

/-- A write of a field reaches neither the columns of the creation nor the status. -/
theorem setField_fixed {issue next : Issue} {field : FieldRef} {value : Json}
    (written : issue.setField field value = .ok next) :
    next.origin = issue.origin ∧ next.statusId = issue.statusId := by
  cases field with
  | standard field => exact setStandard_fixed written
  | custom id =>
    cases written
    exact ⟨rfl, rfl⟩

theorem applyUpdates_fixed {updates : List FieldUpdate} {issue next : Issue}
    (written : issue.applyUpdates updates = .ok next) :
    next.origin = issue.origin ∧ next.statusId = issue.statusId := by
  induction updates generalizing issue with
  | nil =>
    cases written
    exact ⟨rfl, rfl⟩
  | cons update updates ih =>
    obtain ⟨middle, first, rest⟩ := ok_of_bind written
    obtain ⟨origin, status⟩ := setField_fixed first
    obtain ⟨laterOrigin, laterStatus⟩ := ih rest
    exact ⟨laterOrigin.trans origin, laterStatus.trans status⟩

/-- A field of the issue has room for the value of a write. -/
def Accepts (issue : Issue) (update : FieldUpdate) : Prop :=
  ∃ next, issue.setField update.field update.value = .ok next

/-- What a field has room for does not depend on what the issue holds. -/
theorem Accepts.transfer {issue : Issue} {update : FieldUpdate} (accepts : issue.Accepts update)
    (other : Issue) : other.Accepts update := by
  obtain ⟨next, written⟩ := accepts
  obtain ⟨field, value⟩ := update
  cases field with
  | custom id => exact ⟨_, rfl⟩
  | standard field =>
    cases field <;>
    · have read := (exists_setField_standard_iff rfl).1 ⟨next, written⟩
      exact (exists_setField_standard_iff rfl).2 read

/-- Writes go through when the issue accepts each of them. -/
theorem applyUpdates_ok_iff {updates : List FieldUpdate} {issue : Issue} :
    (∃ next, issue.applyUpdates updates = .ok next) ↔ ∀ update ∈ updates, issue.Accepts update := by
  induction updates generalizing issue with
  | nil => exact ⟨fun _ => List.forall_mem_nil _, fun _ => ⟨issue, rfl⟩⟩
  | cons update updates ih =>
    rw [List.forall_mem_cons]
    constructor
    · rintro ⟨next, written⟩
      obtain ⟨middle, first, rest⟩ := ok_of_bind written
      refine ⟨⟨middle, first⟩, ?_⟩
      intro later member
      exact (ih.1 ⟨next, rest⟩ later member).transfer issue
    · rintro ⟨⟨middle, first⟩, rest⟩
      obtain ⟨next, written⟩ := ih.2 fun later member => (rest later member).transfer middle
      refine ⟨next, ?_⟩
      rw [applyUpdates, first]
      exact written

end Issue

namespace IssueLog

/-! ## Operations -/

theorem requireIssue_eq_ok_iff {t : IssueLog} {id : IssueId} {issue : Issue} :
    t.requireIssue id = .ok issue ↔ t.issues.get? id = some issue := by
  rw [requireIssue]
  cases t.issues.get? id <;> simp

private theorem updated_eq_ok_iff {issue next : Issue} {updates : List FieldUpdate} :
    updated issue updates = .ok next ↔ issue.applyUpdates updates = .ok next := by
  rw [updated]
  cases issue.applyUpdates updates <;> simp

theorem rowOver_eq_ok_iff {commit : TransitionCommit} {issue next : Issue} :
    rowOver commit issue = .ok next ↔
      ∃ written, issue.applyUpdates commit.fieldUpdates = .ok written ∧
        next = { written with
          resolution := commit.resolution.or written.resolution
          statusId := commit.newStatus
          updatedAt := commit.committedAt } := by
  constructor
  · intro done
    obtain ⟨written, wrote, same⟩ := ok_of_bind done
    cases same
    exact ⟨written, updated_eq_ok_iff.1 wrote, rfl⟩
  · rintro ⟨written, wrote, rfl⟩
    rw [rowOver, updated_eq_ok_iff.2 wrote]
    rfl

theorem rowOver_eq_error_iff {commit : TransitionCommit} {issue : Issue} {e : StorageError} :
    rowOver commit issue = .error e ↔
      ∃ refusal, issue.applyUpdates commit.fieldUpdates = .error refusal ∧
        e = .invalidInput refusal.message := by
  rw [rowOver, updated]
  cases issue.applyUpdates commit.fieldUpdates with
  | ok next => exact iff_of_false (by rintro ⟨⟩) (by rintro ⟨_, ⟨⟩, -⟩)
  | error refusal =>
    constructor
    · rintro ⟨⟩
      exact ⟨refusal, rfl, rfl⟩
    · rintro ⟨_, ⟨⟩, rfl⟩
      rfl

/-- The entry that a commit makes. -/
def entryOf (commit : TransitionCommit) : StatusChange :=
  ⟨commit.issueId, some commit.expectedStatus, commit.newStatus, commit.actor, commit.committedAt⟩

/-- The issue tables when a commit is through with that row. -/
def recorded (commit : TransitionCommit) (row : Issue) (t : IssueLog) : IssueLog :=
  let logged := { t with issues := t.issues.put row, history := t.history ++ [entryOf commit] }
  match commit.comment with
  | none => logged
  | some body => logged.pushComment commit.issueId commit.actor body commit.committedAt

section Recorded

variable {commit : TransitionCommit} {t : IssueLog} {row : Issue}

theorem issues_recorded : (t.recorded commit row).issues = t.issues.put row := by
  rw [recorded]
  cases commit.comment <;> rfl

theorem history_recorded : (t.recorded commit row).history = t.history ++ [entryOf commit] := by
  rw [recorded]
  cases commit.comment <;> rfl

theorem comments_recorded_of_some {body : String} (said : commit.comment = some body) :
    ∃ id, (t.recorded commit row).comments =
      t.comments ++ [⟨id, commit.issueId, commit.actor, body, commit.committedAt⟩] := by
  rw [recorded, said]
  exact ⟨_, rfl⟩

theorem comments_recorded_of_none (silent : commit.comment = none) :
    (t.recorded commit row).comments = t.comments := by
  rw [recorded, silent]

end Recorded

/-- A commit on an issue in the expected status stands or falls with its row. -/
theorem commitTransition_of_expected {commit : TransitionCommit} {t : IssueLog} {current : Issue}
    (stored : t.issues.get? commit.issueId = some current)
    (expected : current.statusId = commit.expectedStatus) :
    (commitTransition commit).run t = match rowOver commit current with
      | .ok row => (.ok row, t.recorded commit row)
      | .error e => (.error e, t) := by
  rw [commitTransition, run_get_bind, requireIssue_eq_ok_iff.2 stored, run_lift_ok_bind,
    require_bind_run, if_pos (beq_iff_eq.2 expected)]
  cases rowOver commit current with
  | error e => rfl
  | ok row =>
    show _ = (Except.ok row, t.recorded commit row)
    rw [run_lift_ok_bind, recorded]
    cases commit.comment <;> rfl

theorem commitTransition_eq_ok_iff {commit : TransitionCommit} {t after : IssueLog} {next : Issue} :
    (commitTransition commit).run t = (.ok next, after) ↔
      ∃ current, t.issues.get? commit.issueId = some current ∧
        current.statusId = commit.expectedStatus ∧ rowOver commit current = .ok next ∧
        after = t.recorded commit next := by
  constructor
  · intro done
    obtain ⟨current, found, rest⟩ := ok_of_check (looked done)
    obtain ⟨passed, rest⟩ := require_bind_eq_ok_iff.1 rest
    obtain ⟨row, wrote, -⟩ := ok_of_check rest
    have stored := requireIssue_eq_ok_iff.1 found
    have expected : current.statusId = commit.expectedStatus := by simpa using passed
    rw [commitTransition_of_expected stored expected, wrote] at done
    cases done
    exact ⟨current, stored, expected, wrote, rfl⟩
  · rintro ⟨current, stored, expected, wrote, rfl⟩
    rw [commitTransition_of_expected stored expected, wrote]

/-- A commit finds the issue in the expected status, writes the row over it and one entry. -/
theorem commitTransition_eq_ok {commit : TransitionCommit} {t after : IssueLog} {next : Issue}
    (done : (commitTransition commit).run t = (.ok next, after)) :
    ∃ current, t.issues.get? commit.issueId = some current ∧
      current.statusId = commit.expectedStatus ∧ rowOver commit current = .ok next ∧
      after.issues = t.issues.put next ∧ after.history = t.history ++ [entryOf commit] := by
  obtain ⟨current, stored, expected, written, rfl⟩ := commitTransition_eq_ok_iff.1 done
  exact ⟨current, stored, expected, written, issues_recorded, history_recorded⟩

/-- A commit on an issue in the expected status goes through when the issue accepts its writes. -/
theorem commitTransition_of_current {commit : TransitionCommit} {t : IssueLog} {current : Issue}
    (stored : t.issues.get? commit.issueId = some current)
    (expected : current.statusId = commit.expectedStatus)
    (accepted : ∀ update ∈ commit.fieldUpdates, current.Accepts update) :
    ∃ next after, (commitTransition commit).run t = (.ok next, after) := by
  obtain ⟨written, wrote⟩ := Issue.applyUpdates_ok_iff.2 accepted
  have done := rowOver_eq_ok_iff.2 ⟨written, wrote, rfl⟩
  exact ⟨_, _, commitTransition_eq_ok_iff.2 ⟨current, stored, expected, done, rfl⟩⟩

/-- A commit on an issue in another status is refused. -/
theorem commitTransition_of_moved {commit : TransitionCommit} {t : IssueLog} {current : Issue}
    (stored : t.issues.get? commit.issueId = some current)
    (moved : current.statusId ≠ commit.expectedStatus) :
    (commitTransition commit).run t =
      (.error (.statusMismatch commit.issueId commit.expectedStatus current.statusId), t) := by
  rw [commitTransition, run_get_bind, requireIssue_eq_ok_iff.2 stored, run_lift_ok_bind,
    require_bind_run, if_neg (mt beq_iff_eq.1 moved)]

theorem updateFields_eq_ok {id : IssueId} {updates : List FieldUpdate} {now : Timestamp}
    {t after : IssueLog} {next : Issue}
    (done : (updateFields id updates now).run t = (.ok next, after)) :
    ∃ current written, t.issues.get? id = some current ∧
      current.applyUpdates updates = .ok written ∧ next = { written with updatedAt := now } ∧
      after = { t with issues := t.issues.put next } := by
  obtain ⟨current, stored, done⟩ := ok_of_check (looked done)
  obtain ⟨written, wrote, done⟩ := ok_of_check done
  cases done
  exact ⟨current, written, requireIssue_eq_ok_iff.1 stored, updated_eq_ok_iff.1 wrote, rfl, rfl⟩

/-- What an operation can do to the issues and their history. -/
inductive Changes (t after : IssueLog) : IssueLog.Operation → Prop where
  | created (issue : Issue) (createdBy : UserId) (fresh : t.issues.get? issue.id = none)
      (issues : after.issues = t.issues.put issue)
      (history : after.history =
        t.history ++ [⟨issue.id, none, issue.statusId, createdBy, issue.createdAt⟩]) :
      Changes t after (.createIssue issue createdBy)
  | committed (commit : TransitionCommit) (current next : Issue)
      (stored : t.issues.get? commit.issueId = some current)
      (expected : current.statusId = commit.expectedStatus)
      (origin : next.origin = current.origin) (status : next.statusId = commit.newStatus)
      (issues : after.issues = t.issues.put next)
      (history : after.history = t.history ++ [entryOf commit]) :
      Changes t after (.commitTransition commit)
  | written (id : IssueId) (updates : List FieldUpdate) (current next : Issue)
      (stored : t.issues.get? id = some current)
      (origin : next.origin = current.origin) (status : next.statusId = current.statusId)
      (issues : after.issues = t.issues.put next) (history : after.history = t.history) :
      Changes t after (.updateFields id updates)
  | commented (issue : IssueId) (author : UserId) (body : String) (time : Timestamp)
      (issues : after.issues = t.issues) (history : after.history = t.history) :
      Changes t after (.addComment issue author body time)

private theorem changes_of_apply {now : Timestamp} {op : IssueLog.Operation} {t after : IssueLog}
    {answer : Answer} (done : (op.apply now).run t = (.ok answer, after)) : Changes t after op := by
  cases op with
  | createIssue issue createdBy =>
    rw [Operation.apply, answering_eq_ok_iff] at done
    obtain ⟨_, created, -⟩ := done
    obtain ⟨fresh, same⟩ := require_bind_eq_ok_iff.1 (looked created)
    cases same
    exact .created issue createdBy (by simpa [Table.contains] using fresh) rfl rfl
  | commitTransition commit =>
    rw [Operation.apply, answering_eq_ok_iff] at done
    obtain ⟨next, committed, -⟩ := done
    obtain ⟨current, stored, expected, written, issues, history⟩ :=
      commitTransition_eq_ok committed
    obtain ⟨row, wrote, rfl⟩ := rowOver_eq_ok_iff.1 written
    have origin := (Issue.applyUpdates_fixed wrote).1
    exact .committed commit current _ stored expected (by exact origin) (by rfl) issues history
  | updateFields id updates =>
    rw [Operation.apply, answering_eq_ok_iff] at done
    obtain ⟨next, executed, -⟩ := done
    obtain ⟨current, written, stored, wrote, same, rfl⟩ := updateFields_eq_ok executed
    obtain ⟨origin, status⟩ := Issue.applyUpdates_fixed wrote
    exact .written id updates current next stored (by rw [same]; exact origin)
      (by rw [same]; exact status) rfl rfl
  | addComment issue author body time =>
    rw [Operation.apply, answering_eq_ok_iff] at done
    obtain ⟨_, added, -⟩ := done
    obtain ⟨-, same⟩ := require_bind_eq_ok_iff.1 (looked added)
    cases same
    exact .commented issue author body time rfl rfl

/-! ## Faithful histories -/

/-- The history of an issue that is in a status now: it begins with the creation, every change
starts where the one before it ended, and the last one ends in that status. -/
structure Faithful (history : List StatusChange) (status : StatusId) : Prop where
  begins : ∃ creation, history.head? = some creation ∧ creation.fromStatus = none
  chained : history.IsChain fun earlier later => later.fromStatus = some earlier.toStatus
  ends : history.getLast?.map StatusChange.toStatus = some status

private theorem faithful_creation {creation : StatusChange} (first : creation.fromStatus = none) :
    Faithful [creation] creation.toStatus :=
  ⟨⟨creation, rfl, first⟩, List.isChain_singleton _, rfl⟩

private theorem Faithful.append {history : List StatusChange} {status : StatusId}
    (faithful : Faithful history status) {entry : StatusChange}
    (linked : entry.fromStatus = some status) : Faithful (history ++ [entry]) entry.toStatus := by
  obtain ⟨⟨creation, head, first⟩, chained, ends⟩ := faithful
  refine ⟨⟨creation, ?_, first⟩, ?_, by simp⟩
  · rw [List.head?_append, head]
    rfl
  · refine chained.append (List.isChain_singleton _) ?_
    intro last isLast next isNext
    rw [Option.mem_def.1 isLast] at ends
    cases Option.mem_def.1 isNext
    exact linked.trans ends.symm

private theorem Faithful.mem {history : List StatusChange} {status : StatusId}
    (faithful : Faithful history status) : ∃ entry ∈ history, entry.toStatus = status := by
  obtain ⟨entry, isLast, same⟩ := Option.map_eq_some_iff.1 faithful.ends
  exact ⟨entry, List.mem_of_getLast? isLast, same⟩

/-- The history of every stored issue is faithful, and nothing else has one. -/
structure Logged (t : IssueLog) : Prop where
  stored : ∀ {id : IssueId} {issue : Issue}, t.issues.get? id = some issue →
    Faithful (t.historyOf id) issue.statusId
  unstored : ∀ {id : IssueId}, t.issues.get? id = none → t.historyOf id = []

private theorem logged_empty : Logged {} := by
  constructor
  · intro id issue found
    cases (show none = some issue from found)
  · intro id absent
    rfl

theorem historyOf_append {t after : IssueLog} {new : List StatusChange}
    (history : after.history = t.history ++ new) (id : IssueId) :
    after.historyOf id = t.historyOf id ++ new.filter (·.issueId == id) := by
  rw [historyOf, history, List.filter_append, historyOf]

theorem get?_of_put {t after : IssueLog} {row : Issue} (issues : after.issues = t.issues.put row)
    (id : IssueId) :
    after.issues.get? id = if row.id = id then some row else t.issues.get? id := by
  rw [issues]
  exact Table.get?_put ..

/-- Histories stay faithful when a row is put together with entries of its own. -/
private theorem Logged.of_put {t after : IssueLog} {row : Issue} {new : List StatusChange}
    (logged : Logged t) (issues : after.issues = t.issues.put row)
    (history : after.history = t.history ++ new) (own : ∀ entry ∈ new, entry.issueId = row.id)
    (faithful : Faithful (t.historyOf row.id ++ new) row.statusId) : Logged after := by
  have other : ∀ {id}, row.id ≠ id → after.historyOf id = t.historyOf id := by
    intro id differs
    have none : new.filter (·.issueId == id) = [] := by
      rw [List.filter_eq_nil_iff]
      intro entry member
      simpa [own entry member] using differs
    rw [historyOf_append history, none, List.append_nil]
  constructor
  · intro id issue found
    rw [get?_of_put issues] at found
    by_cases same : row.id = id
    · subst same
      rw [if_pos rfl] at found
      cases found
      have all : new.filter (·.issueId == row.id) = new := by
        rw [List.filter_eq_self]
        intro entry member
        simpa using own entry member
      rwa [historyOf_append history, all]
    · rw [if_neg same] at found
      rw [other same]
      exact logged.stored found
  · intro id absent
    rw [get?_of_put issues] at absent
    by_cases same : row.id = id
    · rw [if_pos same] at absent
      cases absent
    · rw [if_neg same] at absent
      rw [other same]
      exact logged.unstored absent

theorem Logged.of_changes {op : IssueLog.Operation} {t after : IssueLog} (logged : Logged t)
    (changes : Changes t after op) : Logged after := by
  cases changes with
  | created issue createdBy fresh issues history =>
    refine logged.of_put issues history (by simp) ?_
    rw [logged.unstored fresh]
    exact faithful_creation rfl
  | committed commit current next stored expected origin status issues history =>
    have nextId : next.id = commit.issueId :=
      (Issue.id_of_origin origin).trans (Table.key_of_get? stored)
    refine logged.of_put issues history (by simp [entryOf, nextId]) ?_
    rw [nextId, status]
    exact (logged.stored stored).append (congrArg some expected.symm)
  | written id updates current next stored origin status issues history =>
    have nextId : next.id = id := (Issue.id_of_origin origin).trans (Table.key_of_get? stored)
    refine logged.of_put issues (history.trans (List.append_nil _).symm) (by simp) ?_
    rw [List.append_nil, nextId, status]
    exact logged.stored stored
  | commented issue author body time issues history =>
    have same : ∀ id, after.historyOf id = t.historyOf id := by
      intro id
      rw [historyOf, history, historyOf]
    exact ⟨fun found => by rw [same]; exact logged.stored (by rwa [issues] at found),
      fun absent => by rw [same]; exact logged.unstored (by rwa [issues] at absent)⟩

/-- Histories only grow, and stored issues stay as they were created. -/
structure Grows (t later : IssueLog) : Prop where
  history : ∀ id, t.historyOf id <+: later.historyOf id
  rows : ∀ {id issue}, t.issues.get? id = some issue →
    ∃ row, later.issues.get? id = some row ∧ row.origin = issue.origin

instance : IsPreorder IssueLog Grows where
  refl t := ⟨fun _ => List.prefix_refl _, fun stored => ⟨_, stored, rfl⟩⟩
  trans := by
    intro first second third before later
    constructor
    · intro id
      exact (before.history id).trans (later.history id)
    · intro id issue stored
      obtain ⟨middle, found, origin⟩ := before.rows stored
      obtain ⟨row, foundLater, originLater⟩ := later.rows found
      exact ⟨row, foundLater, originLater.trans origin⟩

private theorem grows_of_put {t after : IssueLog} {row : Issue} {new : List StatusChange}
    (issues : after.issues = t.issues.put row) (history : after.history = t.history ++ new)
    (origin : ∀ {issue}, t.issues.get? row.id = some issue → row.origin = issue.origin) :
    Grows t after := by
  constructor
  · intro id
    rw [historyOf_append history]
    exact List.prefix_append _ _
  · intro id issue stored
    rw [get?_of_put issues]
    by_cases same : row.id = id
    · subst same
      exact ⟨row, if_pos rfl, origin stored⟩
    · exact ⟨issue, by rwa [if_neg same], rfl⟩

theorem Changes.grows {op : IssueLog.Operation} {t after : IssueLog}
    (changes : Changes t after op) : Grows t after := by
  cases changes with
  | created issue createdBy fresh issues history =>
    refine grows_of_put issues history ?_
    intro present stored
    rw [fresh] at stored
    cases stored
  | committed commit current next stored expected origin status issues history =>
    have nextId : next.id = commit.issueId :=
      (Issue.id_of_origin origin).trans (Table.key_of_get? stored)
    refine grows_of_put issues history ?_
    intro present found
    rw [nextId, stored] at found
    cases found
    exact origin
  | written id updates current next stored origin status issues history =>
    have nextId : next.id = id := (Issue.id_of_origin origin).trans (Table.key_of_get? stored)
    refine grows_of_put issues (history.trans (List.append_nil _).symm) ?_
    intro present found
    rw [nextId, stored] at found
    cases found
    exact origin
  | commented issue author body time issues history =>
    have same : ∀ id, t.historyOf id = after.historyOf id := by
      intro id
      rw [historyOf, historyOf, history]
    exact ⟨fun id => same id ▸ List.prefix_refl _, fun stored => ⟨_, by rwa [issues], rfl⟩⟩

/-- A new entry of the history names the status that the issue is in then. -/
theorem Changes.entry {op : IssueLog.Operation} {t after : IssueLog} (changes : Changes t after op)
    {id : IssueId} {entry : StatusChange} (member : entry ∈ after.historyOf id) :
    entry ∈ t.historyOf id ∨
      ∃ row, after.issues.get? id = some row ∧ row.statusId = entry.toStatus := by
  obtain ⟨member, own⟩ := List.mem_filter.1 member
  have own : entry.issueId = id := by simpa using own
  cases changes with
  | created issue createdBy fresh issues history =>
    rw [history, List.mem_append, List.mem_singleton] at member
    rcases member with old | rfl
    · exact .inl (List.mem_filter.2 ⟨old, by simpa using own⟩)
    · refine .inr ⟨issue, ?_, rfl⟩
      rw [get?_of_put issues, if_pos own]
  | committed commit current next stored expected origin status issues history =>
    rw [history, List.mem_append, List.mem_singleton] at member
    rcases member with old | rfl
    · exact .inl (List.mem_filter.2 ⟨old, by simpa using own⟩)
    · have nextId : next.id = commit.issueId :=
        (Issue.id_of_origin origin).trans (Table.key_of_get? stored)
      refine .inr ⟨next, ?_, status⟩
      rw [get?_of_put issues, if_pos (nextId.trans own)]
  | written id updates current next stored origin status issues history =>
    rw [history] at member
    exact .inl (List.mem_filter.2 ⟨member, by simpa using own⟩)
  | commented issue author body time issues history =>
    rw [history] at member
    exact .inl (List.mem_filter.2 ⟨member, by simpa using own⟩)

end IssueLog

/-! ## Runs -/

namespace Store

/-- Histories of one store only grow to those of another, and issues stay as they were created. -/
def Grows (store later : Store) : Prop :=
  IssueLog.Grows store.tables.issueLog later.tables.issueLog

instance : IsPreorder Store Grows where
  refl store := Std.Refl.refl store.tables.issueLog
  trans _ _ _ := IsTrans.trans (r := IssueLog.Grows) _ _ _

/-- The issue tables change by one operation of theirs, or not at all. -/
theorem step_issueLog_cases (store : Store) (step : Step) :
    (store.step step).tables.issueLog = store.tables.issueLog ∨
      ∃ op, step = .operation (.onIssueLog op) ∧
        IssueLog.Changes store.tables.issueLog (store.step step).tables.issueLog op := by
  rcases step_cases store step with same | ⟨op, answer, rfl, done⟩
  · exact .inl (congrArg Tables.issueLog same)
  · rcases Tables.Operation.issueLog_cases done with same | ⟨inner, rfl, applied⟩
    · exact .inl same
    · exact .inr ⟨inner, rfl, IssueLog.changes_of_apply applied⟩

theorem step_grows (store : Store) (step : Step) : Grows store (store.step step) := by
  rcases step_issueLog_cases store step with same | ⟨op, -, changes⟩
  · rw [Grows, same]
    exact Std.Refl.refl _
  · exact changes.grows

theorem Leads.grows {store later : Store} (led : Leads store later) : Grows store later :=
  led.related step_grows

theorem step_logged (store : Store) (step : Step) (logged : store.tables.issueLog.Logged) :
    (store.step step).tables.issueLog.Logged := by
  rcases step_issueLog_cases store step with same | ⟨op, -, changes⟩
  · rwa [same]
  · exact logged.of_changes changes

theorem Reachable.logged {store : Store} (reached : store.Reachable) :
    store.tables.issueLog.Logged :=
  Leads.preserves step_logged reached IssueLog.logged_empty

/-- Whether an issue is stored in a status. -/
def IsIn (store : Store) (id : IssueId) (status : StatusId) : Prop :=
  ∃ row, store.tables.issueLog.issues.get? id = some row ∧ row.statusId = status

theorem IsIn.unique {store : Store} {id : IssueId} {status other : StatusId}
    (stands : store.IsIn id status) (too : store.IsIn id other) : status = other := by
  obtain ⟨row, stored, rfl⟩ := stands
  obtain ⟨same, found, rfl⟩ := too
  rw [stored] at found
  cases found
  rfl

/-- An issue that is stored stays in its status and keeps its history. -/
def KeepsStatus (id : IssueId) (store later : Store) : Prop :=
  ∀ status, store.IsIn id status → later.IsIn id status ∧
    later.tables.issueLog.historyOf id = store.tables.issueLog.historyOf id

instance (id : IssueId) : IsPreorder Store (KeepsStatus id) where
  refl _ _ stands := ⟨stands, rfl⟩
  trans := by
    intro first second third before later status stands
    obtain ⟨middle, same⟩ := before status stands
    obtain ⟨last, sameLater⟩ := later status middle
    exact ⟨last, sameLater.trans same⟩

/-- A step commits a status of an issue. -/
def Step.Commits (id : IssueId) (step : Step) : Prop :=
  ∃ commit : TransitionCommit, commit.issueId = id ∧
    step = .operation (.onIssueLog (.commitTransition commit))

/-- Only a commit on an issue changes its status or its history. -/
theorem step_keepsStatus {id : IssueId} {step : Step} (other : ¬ step.Commits id)
    (store : Store) : KeepsStatus id store (store.step step) := by
  rintro _ ⟨row, stored, rfl⟩
  rcases step_issueLog_cases store step with same | ⟨op, rfl, changes⟩
  · rw [IsIn, same]
    exact ⟨⟨row, stored, rfl⟩, rfl⟩
  · cases changes with
    | created issue createdBy fresh issues history =>
      have differs : issue.id ≠ id := by
        rintro rfl
        rw [fresh] at stored
        cases stored
      refine ⟨⟨row, ?_, rfl⟩, ?_⟩
      · rw [IssueLog.get?_of_put issues, if_neg differs]
        exact stored
      · rw [IssueLog.historyOf_append history]
        simp [differs]
    | committed commit current next found expected origin status issues history =>
      have differs : commit.issueId ≠ id := fun same => other ⟨commit, same, rfl⟩
      have nextId : next.id = commit.issueId :=
        (Issue.id_of_origin origin).trans (Table.key_of_get? found)
      refine ⟨⟨row, ?_, rfl⟩, ?_⟩
      · rw [IssueLog.get?_of_put issues, nextId, if_neg differs]
        exact stored
      · rw [IssueLog.historyOf_append history]
        simp [IssueLog.entryOf, differs]
    | written writtenId updates current next found origin status issues history =>
      have nextId : next.id = writtenId :=
        (Issue.id_of_origin origin).trans (Table.key_of_get? found)
      refine ⟨?_, by rw [IssueLog.historyOf, history, IssueLog.historyOf]⟩
      by_cases same : writtenId = id
      · subst same
        rw [stored] at found
        cases found
        exact ⟨next, by rw [IssueLog.get?_of_put issues, if_pos nextId], status⟩
      · refine ⟨row, ?_, rfl⟩
        rw [IssueLog.get?_of_put issues, nextId, if_neg same]
        exact stored
    | commented issue author body time issues history =>
      refine ⟨⟨row, by rw [issues]; exact stored, rfl⟩, ?_⟩
      rw [IssueLog.historyOf, history, IssueLog.historyOf]

/-- The statuses in the history of an issue are those that it has been in at some point of the
run. -/
theorem mem_history_iff_past (steps : List Step) (id : IssueId) (status : StatusId) :
    (∃ entry ∈ (({} : Store).after steps).tables.issueLog.historyOf id,
        entry.toStatus = status) ↔
      ∃ past later, steps = past ++ later ∧ (({} : Store).after past).IsIn id status := by
  constructor
  · -- The last step either found the entry in the history or has just made it.
    induction steps using List.reverseRecOn with
    | nil =>
      rintro ⟨entry, member, -⟩
      cases (show entry ∈ [] from member)
    | append_singleton steps step ih =>
      rintro ⟨entry, member, rfl⟩
      have last : ({} : Store).after (steps ++ [step]) = (({} : Store).after steps).step step :=
        after_append ..
      have old : entry ∈ (({} : Store).after steps).tables.issueLog.historyOf id →
          ∃ past later, steps ++ [step] = past ++ later ∧
            (({} : Store).after past).IsIn id entry.toStatus := by
        intro earlier
        obtain ⟨past, later, rfl, there⟩ := ih ⟨entry, earlier, rfl⟩
        exact ⟨past, later ++ [step], List.append_assoc .., there⟩
      rw [last] at member
      rcases step_issueLog_cases (({} : Store).after steps) step with same | ⟨op, -, changes⟩
      · rw [same] at member
        exact old member
      · rcases changes.entry member with earlier | ⟨row, stored, status⟩
        · exact old earlier
        · exact ⟨steps ++ [step], [], (List.append_nil _).symm, row, by rw [last]; exact stored,
            status⟩
  · rintro ⟨past, later, rfl, row, stored, rfl⟩
    have reached : (({} : Store).after past).Reachable := ⟨past, rfl⟩
    obtain ⟨entry, member, same⟩ := (reached.logged.stored stored).mem
    have grown : Grows (({} : Store).after past) (({} : Store).after (past ++ later)) := by
      rw [after_append]
      exact Leads.grows ⟨later, rfl⟩
    exact ⟨entry, (grown.history id).subset member, same⟩

end Store

end IssueFlow
