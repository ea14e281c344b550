import IssueFlow.Proofs.Stages
import Mathlib.Tactic.SplitIfs

/-!
# Written values

A field that takes a value reads back its normal form (`FieldRef.readBack`) and no other field
changes. A commit writes the fields that are submitted and, last, the resolution that is handed in
by itself, so that each field of its row reads as `Submission.written` says. The normal form is
filled in where the value is.
-/

namespace IssueFlow

private theorem Text.isBlank_eq_false_iff {s : String} :
    Text.isBlank s = false ↔ ∃ c ∈ s.toList, Text.isBlankChar c = false := by
  simp [Text.isBlank]

private theorem Text.isBlank_append {s t : String} (visible : Text.isBlank t = false) :
    Text.isBlank (s ++ t) = false := by
  obtain ⟨c, member, visible⟩ := Text.isBlank_eq_false_iff.1 visible
  rw [Text.isBlank_eq_false_iff, String.toList_append]
  exact ⟨c, List.mem_append_right _ member, visible⟩

private theorem Text.isBlankChar_of_isDigit {c : Char} (digit : c.isDigit = true) :
    Text.isBlankChar c = false := by
  have bounds : 48 ≤ c.toNat ∧ c.toNat ≤ 57 := by
    simpa [Char.isDigit, UInt32.le_iff_toNat_le] using digit
  simp only [Text.isBlankChar]
  grind

/-- The digits of a number begin with one that can be seen. -/
private theorem exists_leading_digit (n : Nat) :
    ∃ c rest, Nat.toDigits 10 n = c :: rest ∧ Text.isBlankChar c = false := by
  obtain ⟨c, rest, split⟩ := List.exists_cons_of_ne_nil (Nat.toDigits_ne_nil (n := n) (b := 10))
  refine ⟨c, rest, split, Text.isBlankChar_of_isDigit ?_⟩
  exact Nat.isDigit_of_mem_toDigits (by decide) (by decide) (split ▸ List.mem_cons_self)

private theorem Text.isBlank_repr (n : Nat) : Text.isBlank n.repr = false := by
  obtain ⟨c, rest, split, visible⟩ := exists_leading_digit n
  rw [Text.isBlank_eq_false_iff, Nat.repr, String.toList_ofList, split]
  exact ⟨c, List.mem_cons_self, visible⟩

private theorem Binary64.Decimal.isBlank_text (d : Binary64.Decimal) :
    Text.isBlank d.text = false := by
  obtain ⟨c, rest, split, visible⟩ := exists_leading_digit d.digits
  rw [Text.isBlank_eq_false_iff, Decimal.text, String.toList_ofList]
  refine ⟨c, ?_, visible⟩
  simp only [split]
  split_ifs <;> simp

private theorem Number.isBlank_text (n : Number) : Text.isBlank n.text = false := by
  cases n with
  | whole value =>
    show Text.isBlank value.repr = false
    rw [Int.repr_eq_if]
    split_ifs
    · exact Text.isBlank_repr _
    · exact Text.isBlank_append (Text.isBlank_repr _)
  | binary x =>
    have magnitude : Text.isBlank (if x.isZero then "0.0" else x.shortest.text) = false := by
      split_ifs
      · exact Text.isBlank_eq_false_iff.2 ⟨'0', by decide, by decide⟩
      · exact x.shortest.isBlank_text
    show Text.isBlank (if x.negative then "-" ++ _ else _) = false
    cases x.negative with
    | true => exact Text.isBlank_append magnitude
    | false => exact magnitude

/-- How a value reads once a field has taken it: a text takes a number by the number's text, and
labels take null for none. -/
def FieldRef.readBack : FieldRef → Json → Json
  | .standard .labels, .null => .array []
  | .standard _, .number n => .string n.text
  | _, value => value

/-- Normal forms are filled in alike. -/
@[simp] theorem FieldRef.isUnfilled_readBack (field : FieldRef) (value : Json) :
    (field.readBack value).isUnfilled = value.isUnfilled := by
  cases field with
  | custom id => rfl
  | standard field =>
    cases value with
    | number n => cases field <;> exact n.isBlank_text
    | null | bool | string | array | object => cases field <;> rfl

/-- A pattern is held against the same text; only labels that were cleared read as a list. -/
theorem FieldRef.subject_readBack (field : FieldRef) (value : Json) :
    (field.readBack value).subject =
      if field = .standard .labels ∧ value = .null then "[]" else value.subject := by
  cases field with
  | custom id => simp [readBack]
  | standard field => cases value <;> cases field <;> simp [readBack, Json.subject] <;> rfl

namespace Issue

theorem labelTexts_eq_ok {items : List Json} {texts : List String}
    (read : labelTexts items = .ok texts) : items = texts.map .string := by
  induction items generalizing texts with
  | nil =>
    cases read
    rfl
  | cons item items ih =>
    cases item with
    | string s =>
      obtain ⟨rest, readRest, same⟩ := ok_of_bind read
      cases same
      rw [ih readRest, List.map_cons]
    | null | bool | number | array | object => cases read

/-- A standard field that took a value reads it back. -/
theorem standardValue_setStandard {issue next : Issue} {field : StandardField} {value : Json}
    (written : issue.setField (.standard field) value = .ok next) :
    next.standardValue field = (FieldRef.standard field).readBack value := by
  cases field with
  | labels =>
    obtain ⟨texts, read, same⟩ := (setField_standard_eq_ok_iff rfl).1 written
    cases same
    cases value with
    | null =>
      cases read
      rfl
    | array items => exact congrArg Json.array (labelTexts_eq_ok read).symm
    | bool | number | string | object => cases read
  | summary | description | priority | assignee | reporter | resolution | dueDate =>
    obtain ⟨text, read, same⟩ := (setField_standard_eq_ok_iff rfl).1 written
    cases same
    cases value <;> cases read <;> rfl

private theorem fieldValue_setCustom (issue : Issue) (id : CustomFieldId) (value : Json) :
    (issue.setCustom id value).fieldValue (.custom id) = value := by
  cases value <;> simp [setCustom, fieldValue]

/-- A field that took a value reads it back. -/
theorem fieldValue_setField {issue next : Issue} {field : FieldRef} {value : Json}
    (written : issue.setField field value = .ok next) :
    next.fieldValue field = field.readBack value := by
  cases field with
  | standard field => exact standardValue_setStandard written
  | custom id =>
    cases written
    exact fieldValue_setCustom issue id value

/-- A write of a field leaves all others. -/
theorem fieldValue_setField_of_ne {issue next : Issue} {field other : FieldRef} {value : Json}
    (written : issue.setField field value = .ok next) (differs : other ≠ field) :
    next.fieldValue other = issue.fieldValue other := by
  cases field with
  | standard field =>
    cases other with
    | custom id =>
      cases field <;>
      · obtain ⟨text, -, same⟩ := (setField_standard_eq_ok_iff rfl).1 written
        cases same
        rfl
    | standard other =>
      have differs : other ≠ field := fun same => differs (congrArg _ same)
      cases field <;>
      · obtain ⟨text, -, same⟩ := (setField_standard_eq_ok_iff rfl).1 written
        cases same
        cases other <;> first | rfl | exact absurd rfl differs
  | custom id =>
    cases written
    cases other with
    | standard other => cases other <;> rfl
    | custom other =>
      have differs : compare other id ≠ .eq := fun same =>
        differs (congrArg _ (Std.LawfulEqCmp.eq_of_compare same))
      cases value <;> simp [setCustom, fieldValue, SortedMap.get?_erase, SortedMap.get?_insert,
        differs]

private theorem readBack_ofOption {field : StandardField} (text : Option String)
    (single : field ≠ .labels) :
    (FieldRef.standard field).readBack (.ofOption text) = .ofOption text := by
  cases text with
  | none => cases field <;> first | rfl | exact absurd rfl single
  | some s => cases field <;> rfl

/-- What a field holds is in normal form already. -/
theorem readBack_fieldValue (issue : Issue) (field : FieldRef) :
    field.readBack (issue.fieldValue field) = issue.fieldValue field := by
  cases field with
  | custom id => rfl
  | standard field =>
    cases field with
    | summary | reporter | labels => rfl
    | description | priority | assignee | resolution | dueDate =>
      exact readBack_ofOption _ (by decide)

/-- After writes to distinct fields each of them reads what was written to it. -/
private theorem fieldValue_applyUpdates {entries : List (FieldRef × Json)}
    (ascending : EntryList.Ascending entries) {issue next : Issue}
    (written : issue.applyUpdates (entries.map fun (field, value) => ⟨field, value⟩) = .ok next)
    (field : FieldRef) :
    next.fieldValue field =
      ((EntryList.find? field entries).map field.readBack).getD (issue.fieldValue field) := by
  induction entries generalizing issue with
  | nil =>
    cases written
    rfl
  | cons entry entries ih =>
    obtain ⟨key, value⟩ := entry
    obtain ⟨behind, ascending⟩ := List.pairwise_cons.1 ascending
    obtain ⟨middle, first, rest⟩ := ok_of_bind written
    rw [ih ascending rest, EntryList.find?]
    -- Keys ascend, so no later entry writes the first field again.
    by_cases same : field = key
    · subst same
      have itself : compare field field = .eq := Std.ReflCmp.compare_self
      rw [EntryList.find?_eq_none_of_lt behind, itself]
      exact fieldValue_setField first
    · rw [fieldValue_setField_of_ne first same]
      split
      · next equal => exact absurd (Std.LawfulEqCmp.eq_of_compare equal) same
      · rfl

end Issue

namespace Submission

/-- What a field reads once a submission is committed: a resolution that is handed in by itself is
written over what the fields say of it. -/
def written (submission : Submission) (issue : Issue) (field : FieldRef) : Json :=
  match field, submission.resolutionText with
  | .standard .resolution, some text => .string text
  | field, _ => field.readBack (submission.effective issue field)

private theorem fieldValue_of_updates {submission : Submission} {issue next : Issue}
    (written : issue.applyUpdates submission.updates = .ok next) (field : FieldRef) :
    next.fieldValue field = field.readBack (submission.effective issue field) := by
  rw [Issue.fieldValue_applyUpdates submission.fields.ascending written, effective, submitted,
    SortedMap.get?]
  cases EntryList.find? field submission.fields.entries with
  | none => exact (issue.readBack_fieldValue field).symm
  | some value => rfl

/-- The row that a commit writes over an issue reads as its submission says. -/
private theorem fieldValue_of_rowOver {attempt : Attempt} {target : StatusId} {time : Timestamp}
    {issue row : Issue}
    (done : IssueLog.rowOver (Executor.commitOf attempt target time) issue = .ok row)
    (field : FieldRef) : row.fieldValue field = attempt.submission.written issue field := by
  obtain ⟨next, wrote, rfl⟩ := IssueLog.rowOver_eq_ok_iff.1 done
  have read := fieldValue_of_updates wrote field
  cases field with
  | custom id => exact read
  | standard field =>
    cases field with
    | resolution =>
      have resolution : (Executor.commitOf attempt target time).resolution =
          attempt.submission.resolutionText := rfl
      cases text : attempt.submission.resolutionText with
      | none => simpa [Issue.fieldValue, Issue.standardValue, written, resolution, text] using read
      | some text =>
        simp [Issue.fieldValue, Issue.standardValue, Json.ofOption, written, resolution, text]
    | summary | description | priority | assignee | reporter | dueDate | labels => exact read

/-- The row of a commit reads as its submission says. -/
theorem fieldValue_of_commitTransition {attempt : Attempt} {target : StatusId} {time : Timestamp}
    {t log : IssueLog} {row : Issue} (stored : t.issues.get? attempt.issue.id = some attempt.issue)
    (done : (IssueLog.commitTransition (Executor.commitOf attempt target time)).run t =
      (.ok row, log))
    (field : FieldRef) :
    row.fieldValue field = attempt.submission.written attempt.issue field := by
  obtain ⟨current, found, -, written, -⟩ := IssueLog.commitTransition_eq_ok done
  have same : some attempt.issue = some current := stored.symm.trans found
  cases same
  exact fieldValue_of_rowOver written field

end Submission

end IssueFlow
