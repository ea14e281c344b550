import IssueFlow.Proofs.Footprint

/-!
# Laws of fields

An issue is its columns: one for each field, and those that no field reaches
(`Issue.eq_of_columns`). The value alone decides whether a field has room for it
(`FieldRef.Takes`). A write puts the normal form of the value into the column of its field and
leaves all others, so it can be read back, a later write of the field replaces it, and writes of
different fields commute.
-/

namespace IssueFlow

/-- The values that a field has room for. -/
def FieldRef.Takes : FieldRef → Json → Prop
  | .standard .summary, value => ∃ text, value = .string text
  | .standard .reporter, value => ∃ text, value = .string text
  | .standard .labels, value =>
    value = .null ∨ ∃ texts : List String, value = .array (texts.map .string)
  | .standard _, value => value = .null ∨ (∃ text, value = .string text) ∨ ∃ n, value = .number n
  | .custom _, _ => True

/-- What the column of a field holds once the field has taken a value. -/
def FieldRef.kept : FieldRef → Json → Option Json
  | .custom _, .null => none
  | field, value => some (field.readBack value)

theorem FieldRef.kept_getD_null (field : FieldRef) (value : Json) :
    (field.kept value).getD .null = field.readBack value := by
  cases field with
  | standard field => rfl
  | custom id => cases value <;> rfl

namespace Issue

private theorem requiredText_eq_ok_iff {field : StandardField} {value : Json} {text : String} :
    requiredText field value = .ok text ↔ value = .string text := by
  cases value <;> simp [requiredText]

private theorem exists_optionalText_iff {field : StandardField} {value : Json} :
    (∃ text, optionalText field value = .ok text) ↔
      value = .null ∨ (∃ text, value = .string text) ∨ ∃ n, value = .number n := by
  cases value <;> simp [optionalText]

private theorem labelTexts_map_string (texts : List String) :
    labelTexts (texts.map .string) = .ok texts := by
  induction texts with
  | nil => rfl
  | cons text texts ih =>
    rw [List.map_cons, labelTexts, ih]
    rfl

private theorem exists_labelList_iff {value : Json} :
    (∃ texts, labelList value = .ok texts) ↔
      value = .null ∨ ∃ texts : List String, value = .array (texts.map .string) := by
  cases value with
  | array items =>
    constructor
    · rintro ⟨texts, read⟩
      exact .inr ⟨texts, congrArg _ (labelTexts_eq_ok read)⟩
    · rintro (absent | ⟨texts, same⟩)
      · cases absent
      · cases same
        exact ⟨texts, labelTexts_map_string texts⟩
  | null | bool | number | string | object => simp [labelList]

/-- A write goes through when the field has room for the value, whatever the issue holds. -/
theorem exists_setField_iff {issue : Issue} {field : FieldRef} {value : Json} :
    (∃ next, issue.setField field value = .ok next) ↔ field.Takes value := by
  cases field with
  | custom id => exact iff_of_true ⟨_, rfl⟩ trivial
  | standard field =>
    cases field with
    | summary | reporter =>
      refine (exists_setField_standard_iff rfl).trans ?_
      simp only [requiredText_eq_ok_iff, FieldRef.Takes]
    | description | priority | assignee | resolution | dueDate =>
      exact (exists_setField_standard_iff rfl).trans exists_optionalText_iff
    | labels => exact (exists_setField_standard_iff rfl).trans exists_labelList_iff

theorem exists_setField_of_ok {issue next : Issue} {field : FieldRef} {value : Json}
    (written : issue.setField field value = .ok next) (other : Issue) :
    ∃ nextToo, other.setField field value = .ok nextToo :=
  exists_setField_iff.2 (exists_setField_iff.1 ⟨next, written⟩)

/-- The columns that no field reaches: those of the creation, the status and the time of the last
update. -/
def unreached (issue : Issue) :=
  (issue.origin, issue.statusId, issue.updatedAt)

private theorem updatedAt_setField {issue next : Issue} {field : FieldRef} {value : Json}
    (written : issue.setField field value = .ok next) : next.updatedAt = issue.updatedAt := by
  cases field with
  | custom id =>
    cases written
    rfl
  | standard field =>
    cases field <;>
    · obtain ⟨content, -, same⟩ := (setField_standard_eq_ok_iff rfl).1 written
      cases same
      rfl

private theorem unreached_setField {issue next : Issue} {field : FieldRef} {value : Json}
    (written : issue.setField field value = .ok next) : next.unreached = issue.unreached := by
  obtain ⟨origin, status⟩ := setField_fixed written
  rw [unreached, origin, status, updatedAt_setField written, unreached]

/-- A field that took a value holds its normal form; null leaves a custom field unset. -/
theorem column_setField {issue next : Issue} {field : FieldRef} {value : Json}
    (written : issue.setField field value = .ok next) : next.column field = field.kept value := by
  cases field with
  | standard field => exact congrArg some (standardValue_setStandard written)
  | custom id =>
    cases written
    cases value <;> simp [setCustom, column, FieldRef.kept, FieldRef.readBack]

/-- A column that is not set reads as null. -/
theorem fieldValue_eq_column (issue : Issue) (field : FieldRef) :
    issue.fieldValue field = (issue.column field).getD .null := by
  cases field <;> rfl

/-- An issue is its columns. -/
theorem eq_of_columns {issue other : Issue}
    (columns : ∀ field, other.column field = issue.column field)
    (unreached : other.unreached = issue.unreached) : other = issue := by
  simp only [Issue.unreached, Prod.mk.injEq] at unreached
  obtain ⟨origin, status, updated⟩ := unreached
  have same : SameBut [] issue other := ⟨origin, fun field _ => columns field⟩
  rw [same.eq_of_nil, status, updated]

/-- A refusal goes by the value alone. -/
private theorem setField_refused {issue : Issue} {field : FieldRef} {value : Json} {e : ParseError}
    (refused : issue.setField field value = .error e) (other : Issue) :
    other.setField field value = .error e := by
  cases field with
  | custom id => cases refused
  | standard field =>
    cases field <;>
    exact (setField_standard_eq_error_iff rfl).2 ((setField_standard_eq_error_iff rfl).1 refused)

private theorem labelTexts_eq_error {items : List Json} {e : ParseError}
    (refused : labelTexts items = .error e) :
    ∃ found ∈ items, e = .fieldType StandardField.labels.name found := by
  induction items with
  | nil => cases refused
  | cons item items ih =>
    cases item with
    | string text =>
      rcases Except.bind_eq_error_iff.1 refused with unread | ⟨texts, -, read⟩
      · obtain ⟨found, member, same⟩ := ih unread
        exact ⟨found, List.mem_cons_of_mem _ member, same⟩
      · cases read
    | null | bool | number | array | object =>
      cases refused
      exact ⟨_, List.mem_cons_self, rfl⟩

/-- A refusal names the field. -/
theorem setField_eq_error {issue : Issue} {field : FieldRef} {value : Json} {e : ParseError}
    (refused : issue.setField field value = .error e) :
    ∃ found, e = .fieldType field.display found := by
  cases field with
  | custom id => cases refused
  | standard field =>
    cases field with
    | labels =>
      have unread := (setField_standard_eq_error_iff rfl).1 refused
      cases value with
      | array items =>
        obtain ⟨found, -, same⟩ := labelTexts_eq_error unread
        exact ⟨found, same⟩
      | null => cases unread
      | bool | number | string | object =>
        cases unread
        exact ⟨_, rfl⟩
    | summary | description | priority | assignee | reporter | resolution | dueDate =>
      have unread := (setField_standard_eq_error_iff rfl).1 refused
      cases value <;> cases unread <;> exact ⟨_, rfl⟩

/-- Issues that differ only in the column of a field are the same after a write of that field. -/
private theorem setField_congr {issue other : Issue} {field : FieldRef} (value : Json)
    (columns : ∀ g, g ≠ field → other.column g = issue.column g)
    (unreached : other.unreached = issue.unreached) :
    other.setField field value = issue.setField field value := by
  rcases written : issue.setField field value with e | next
  · exact setField_refused written other
  · obtain ⟨nextToo, writtenToo⟩ := exists_setField_of_ok written other
    refine writtenToo.trans (congrArg Except.ok (eq_of_columns (fun g => ?_) ?_))
    · by_cases same : g = field
      · rw [same, column_setField writtenToo, column_setField written]
      · rw [column_setField_of_ne writtenToo same, column_setField_of_ne written same,
          columns g same]
    · rw [unreached_setField writtenToo, unreached_setField written, unreached]

/-- A later write of a field replaces the earlier one. -/
private theorem setField_setField {issue middle : Issue} {field : FieldRef} {value : Json}
    (first : issue.setField field value = .ok middle) (later : Json) :
    middle.setField field later = issue.setField field later :=
  setField_congr later (fun _ other => column_setField_of_ne first other) (unreached_setField first)

/-- Writes of different fields commute. -/
theorem setField_comm {issue left right : Issue} {field other : FieldRef} {value second : Json}
    (differs : other ≠ field) (first : issue.setField field value = .ok left)
    (firstToo : issue.setField other second = .ok right) :
    ∃ both, left.setField other second = .ok both ∧ right.setField field value = .ok both := by
  obtain ⟨both, behindLeft⟩ := exists_setField_of_ok firstToo left
  obtain ⟨bothToo, behindRight⟩ := exists_setField_of_ok first right
  refine ⟨both, behindLeft, behindRight.trans (congrArg Except.ok ?_)⟩
  refine eq_of_columns (fun g => ?_) ?_
  · by_cases same : g = field
    · rw [same, column_setField behindRight, column_setField_of_ne behindLeft differs.symm,
        column_setField first]
    · rw [column_setField_of_ne behindRight same]
      by_cases sameToo : g = other
      · rw [sameToo, column_setField firstToo, column_setField behindLeft]
      · rw [column_setField_of_ne firstToo sameToo, column_setField_of_ne behindLeft sameToo,
          column_setField_of_ne first same]
  · rw [unreached_setField behindRight, unreached_setField firstToo, unreached_setField behindLeft,
      unreached_setField first]

/-- No custom field is stored as null. -/
def Plain (issue : Issue) : Prop :=
  ∀ id, issue.customFields.get? id ≠ some .null

private theorem ofOption_cases (text : Option String) : Json.ofOption text = .null ∨
    (∃ t, Json.ofOption text = .string t) ∨ ∃ n, Json.ofOption text = .number n := by
  cases text with
  | none => exact .inl rfl
  | some t => exact .inr (.inl ⟨t, rfl⟩)

/-- A field has room for what it reads. -/
private theorem takes_fieldValue (issue : Issue) (field : FieldRef) :
    field.Takes (issue.fieldValue field) := by
  cases field with
  | custom id => trivial
  | standard field =>
    cases field with
    | summary | reporter => exact ⟨_, rfl⟩
    | labels => exact .inr ⟨_, rfl⟩
    | description | priority | assignee | resolution | dueDate => exact ofOption_cases _

private theorem exists_setField_fieldValue (issue : Issue) (field : FieldRef) :
    ∃ next, issue.setField field (issue.fieldValue field) = .ok next :=
  exists_setField_iff.2 (takes_fieldValue issue field)

private theorem kept_fieldValue {issue : Issue} (plain : issue.Plain) (field : FieldRef) :
    field.kept (issue.fieldValue field) = issue.column field := by
  cases field with
  | standard field =>
    exact congrArg some (issue.readBack_fieldValue (.standard field))
  | custom id =>
    rw [fieldValue, column]
    cases stored : issue.customFields.get? id with
    | none => rfl
    | some value =>
      cases value with
      | null => exact absurd stored (plain id)
      | bool | number | string | array | object => rfl

/-- Writing back what is read changes nothing, unless a custom field is stored as null. -/
private theorem setField_fieldValue_iff {issue : Issue} :
    (∀ field, issue.setField field (issue.fieldValue field) = .ok issue) ↔ issue.Plain := by
  constructor
  · intro same id null
    have unset := column_setField (same (.custom id))
    rw [fieldValue, null] at unset
    exact absurd (null.symm.trans unset) (by simp [FieldRef.kept])
  · intro plain field
    obtain ⟨next, written⟩ := exists_setField_fieldValue issue field
    rw [written, eq_of_columns (fun g => ?_) (unreached_setField written)]
    by_cases same : g = field
    · rw [same, column_setField written, kept_fieldValue plain]
    · exact column_setField_of_ne written same

/-- What a write reads off the value it reads before it touches the issue. -/
theorem write_failsClean (field : FieldRef) (value : Json) : FailsClean (write field value) := by
  cases field with
  | custom id => exact (answers_modify _).failsClean
  | standard field => cases field <;> exact .check fun _ => (answers_modify _).failsClean

/-- A write that is refused leaves the issue. -/
private theorem write_run_of_error {issue : Issue} {field : FieldRef} {value : Json}
    {e : ParseError} (refused : issue.setField field value = .error e) :
    (write field value).run issue = (.error e, issue) := by
  rw [setField] at refused
  rcases done : (write field value).run issue with ⟨cause | u, next⟩ <;> rw [done] at refused
  · cases refused
    rw [write_failsClean field value _ _ _ done]
  · cases refused

end Issue

/-- A write of a stored issue that is refused leaves the store. -/
private theorem Store.update_of_refused {store : Store} (available : store.unavailable = false)
    {issue : Issue} (stored : store.tables.issueLog.issues.get? issue.id = some issue)
    {field : FieldRef} {value : Json} {e : ParseError}
    (refused : issue.setField field value = .error e) (now : Timestamp) :
    store.update (Tables.onIssueLog (IssueLog.updateFields issue.id [⟨field, value⟩] now)) =
      (.error (.invalidInput e.message), store) := by
  refine Store.update_onIssueLog available ?_
  rw [IssueLog.updateFields, run_get_bind, IssueLog.requireIssue_eq_ok_iff.2 stored,
    run_lift_ok_bind, IssueLog.updated, Issue.applyUpdates, refused]
  rfl

/-- What a write that goes through has done: the field reads the normal form of the value, and every
other column is as it was. -/
structure Issue.Wrote (issue : Issue) (field : FieldRef) (value : Json) (next : Issue) : Prop where
  reads : next.fieldValue field = field.readBack value
  holds : next.column field = field.kept value
  others : ∀ other, other ≠ field → next.fieldValue other = issue.fieldValue other
  columns : ∀ other, other ≠ field → next.column other = issue.column other
  unreached : next.unreached = issue.unreached

/-- Fields are read and written by the laws of a lens, up to the normal form of what is written. A
write that is refused leaves the issue, in place and in the store. -/
theorem field_access_lawful (issue : Issue) :
    (∀ field value next, issue.setField field value = .ok next →
      (Issue.write field value).run issue = (.ok (), next) ∧ issue.Wrote field value next ∧
      (∀ later, next.setField field later = issue.setField field later) ∧
      ∀ other second nextToo, other ≠ field → issue.setField other second = .ok nextToo →
        ∃ both, next.setField other second = .ok both ∧
          nextToo.setField field value = .ok both) ∧
    ((∀ field, issue.setField field (issue.fieldValue field) = .ok issue) ↔ issue.Plain) ∧
    ∀ field value e, issue.setField field value = .error e →
      (∃ found, e = .fieldType field.display found) ∧
      (Issue.write field value).run issue = (.error e, issue) ∧
      ∀ store : Store, store.unavailable = false →
        store.tables.issueLog.issues.get? issue.id = some issue → ∀ now,
          store.update (Tables.onIssueLog
            (IssueLog.updateFields issue.id [⟨field, value⟩] now)) =
              (.error (.invalidInput e.message), store) := by
  refine ⟨?_, Issue.setField_fieldValue_iff, ?_⟩
  · intro field value next written
    refine ⟨Issue.setField_eq_ok_iff.1 written, ?_, Issue.setField_setField written, ?_⟩
    · exact {
        reads := Issue.fieldValue_setField written
        holds := Issue.column_setField written
        others := fun _ differs => Issue.fieldValue_setField_of_ne written differs
        columns := fun _ differs => Issue.column_setField_of_ne written differs
        unreached := Issue.unreached_setField written }
    · intro other second nextToo differs writtenToo
      exact Issue.setField_comm differs written writtenToo
  · intro field value e refused
    refine ⟨Issue.setField_eq_error refused, Issue.write_run_of_error refused, ?_⟩
    intro store available stored now
    exact Store.update_of_refused available stored refused now

/-- The sample issue with a custom field. -/
def Sample.pointed : Issue :=
  Sample.issue.setCustom ⟨"points"⟩ (.number (.whole 3))

/-- A number becomes the description and the custom field is unset, in either order. The summary
cannot be. -/
theorem sample_field_access :
    ∃ described unset both e,
      Sample.pointed.setField (.standard .description) (.number (.whole 5)) = .ok described ∧
      described.fieldValue (.standard .description) = .string "5" ∧
      Sample.pointed.setField (.custom ⟨"points"⟩) .null = .ok unset ∧
      unset.column (.custom ⟨"points"⟩) = none ∧
      described.setField (.custom ⟨"points"⟩) .null = .ok both ∧
      unset.setField (.standard .description) (.number (.whole 5)) = .ok both ∧
      Sample.pointed.setField (.standard .summary) .null = .error e ∧
      (Issue.write (.standard .summary) .null).run Sample.pointed = (.error e, Sample.pointed) := by
  obtain ⟨written, -, refused⟩ := field_access_lawful Sample.pointed
  obtain ⟨described, first⟩ : ∃ described, Sample.pointed.setField (.standard .description)
      (.number (.whole 5)) = .ok described :=
    Issue.exists_setField_iff.2 (.inr (.inr ⟨_, rfl⟩))
  obtain ⟨unset, second⟩ : ∃ unset, Sample.pointed.setField (.custom ⟨"points"⟩) .null =
      .ok unset :=
    Issue.exists_setField_iff.2 trivial
  obtain ⟨-, describes, -, commute⟩ := written _ _ _ first
  obtain ⟨-, unsets, -, -⟩ := written _ _ _ second
  obtain ⟨both, behind, behindToo⟩ := commute _ _ _ (by decide) second
  have cannot : Sample.pointed.setField (.standard .summary) .null =
      .error (.fieldType "summary" .null) := rfl
  obtain ⟨-, stays, -⟩ := refused _ _ _ cannot
  exact ⟨described, unset, both, _, first, describes.reads, second, unsets.holds, behind, behindToo,
    cannot, stays⟩

end IssueFlow
