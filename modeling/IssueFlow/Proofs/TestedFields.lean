import IssueFlow.Proofs.FieldLaws

/-!
# Fields that are tested

A condition compares a value with the one that a field reads, and a field that a post-function wrote
reads the normal form of what was written. So the condition finds the value again, unless it was a
number and the field keeps texts: there it finds the text of the number. Labels that were cleared
read as the empty list, and so they do not test as null.
-/

namespace IssueFlow

/-- The text that a field keeps of a number. -/
def FieldRef.textOf? : FieldRef → Json → Option String
  | .standard _, .number n => some n.text
  | _, _ => none

private theorem FieldRef.readBack_of_textOf? {field : FieldRef} {value : Json} {text : String}
    (kept : field.textOf? value = some text) :
    field.readBack value = .string text ∧ ∃ n, value = .number n := by
  cases field with
  | custom id => cases kept
  | standard field =>
    cases value with
    | number n =>
      cases kept
      exact ⟨by cases field <;> rfl, n, rfl⟩
    | null | bool | string | array | object => cases kept

/-- All other values are read as they were written, but for labels that are cleared. -/
private theorem FieldRef.readBack_eq_self {field : FieldRef} {value : Json}
    (other : field.textOf? value = none) (filled : field = .standard .labels → value ≠ .null) :
    field.readBack value = value := by
  cases field with
  | custom id => rfl
  | standard field =>
    cases value with
    | number n => cases other
    | null => cases field <;> first | rfl | exact absurd rfl (filled rfl)
    | bool | string | array | object => cases field <;> rfl

/-- What a condition says of an issue, whoever acts and whatever is stored. -/
def Condition.Judges (condition : Condition) (issue : Issue) (answer : Bool) : Prop :=
  ∀ attempt : Attempt, attempt.issue = issue → ∀ store,
    (condition.isMet attempt).run store = .ok answer

/-- A field is compared as it reads. -/
private theorem Condition.fieldValue_judges {issue : Issue} {field : FieldRef} {read : Json}
    (reads : issue.fieldValue field = read) (value : Json) :
    (Condition.fieldValue field value).Judges issue (read.sameValue value) := by
  rintro attempt rfl store
  rw [← reads]
  rfl

private theorem Condition.fieldValue_holds {issue : Issue} {field : FieldRef} {value : Json}
    (reads : issue.fieldValue field = value) :
    (Condition.fieldValue field value).Judges issue true := by
  have judged := fieldValue_judges reads value
  rwa [Json.sameValue_refl] at judged

private theorem Issue.fieldValue_touched (issue : Issue) (time : Timestamp) (field : FieldRef) :
    { issue with updatedAt := time }.fieldValue field = issue.fieldValue field := by
  cases field with
  | custom id => rfl
  | standard field => cases field <;> rfl

/-- A write that goes through answers with the row that it has stored, where the field reads the
normal form of the value. -/
private theorem writeField_ok {id : IssueId} {field : FieldRef} {value : Json} {world after : World}
    {issue : Issue} (done : (writeField id field value).run world = (.ok issue, after)) :
    after.store.tables.issueLog.issues.get? id = some issue ∧
      issue.fieldValue field = field.readBack value := by
  rcases writeField_cases id field value world with
    ⟨e, failed⟩ | ⟨current, written, stored, taken, executed⟩
  · cases failed.symm.trans done
  · cases executed.symm.trans done
    have own : written.id = id :=
      (Issue.id_of_origin (Issue.setField_fixed taken).1).trans (Table.key_of_get? stored)
    constructor
    · exact (World.get?_over world _ id).trans (if_pos own)
    · rw [Issue.fieldValue_touched, Issue.fieldValue_setField taken]

/-- What a post-function has written into a field, a condition on that field finds there: the value
itself, or its text where the field keeps the text of a number. A field that was cleared tests as
null. -/
theorem written_field_tests (attempt : Attempt) (field : FieldRef) (world : World) :
    (∀ value issue after,
      ((PostFunction.updateField field value).apply attempt).run world = (.ok issue, after) →
      after.store.tables.issueLog.issues.get? attempt.issue.id = some issue ∧
      (field.textOf? value = none → (field = .standard .labels → value ≠ .null) →
        (Condition.fieldValue field value).Judges issue true) ∧
      ∀ text, field.textOf? value = some text →
        (Condition.fieldValue field value).Judges issue false ∧
        (Condition.fieldValue field (.string text)).Judges issue true) ∧
    ∀ issue after,
      ((PostFunction.clearField field).apply attempt).run world = (.ok issue, after) →
      after.store.tables.issueLog.issues.get? attempt.issue.id = some issue ∧
      (field ≠ .standard .labels → (Condition.fieldValue field .null).Judges issue true) := by
  constructor
  · intro value issue after done
    obtain ⟨stored, reads⟩ := writeField_ok done
    refine ⟨stored, ?_, ?_⟩
    · intro other filled
      rw [FieldRef.readBack_eq_self other filled] at reads
      exact Condition.fieldValue_holds reads
    · intro text kept
      obtain ⟨asText, n, rfl⟩ := FieldRef.readBack_of_textOf? kept
      rw [asText] at reads
      exact ⟨Condition.fieldValue_judges reads (.number n), Condition.fieldValue_holds reads⟩
  · intro issue after done
    obtain ⟨stored, reads⟩ := writeField_ok done
    refine ⟨stored, fun other => ?_⟩
    have unset : field.textOf? .null = none := by cases field <;> rfl
    rw [FieldRef.readBack_eq_self unset fun labels => absurd labels other] at reads
    exact Condition.fieldValue_holds reads

/-- Labels that were cleared, or set to null, test as the empty list and not as null. -/
private theorem cleared_labels_test {attempt : Attempt} {clears : PostFunction}
    (kind : clears = .clearField (.standard .labels) ∨
      clears = .updateField (.standard .labels) .null) {world after : World} {issue : Issue}
    (done : (clears.apply attempt).run world = (.ok issue, after)) :
    (Condition.fieldValue (.standard .labels) (.array [])).Judges issue true ∧
      (Condition.fieldValue (.standard .labels) .null).Judges issue false := by
  have written : (writeField attempt.issue.id (.standard .labels) .null).run world =
      (.ok issue, after) := by
    rcases kind with rfl | rfl <;> exact done
  have reads : issue.fieldValue (.standard .labels) = .array [] := (writeField_ok written).2
  exact ⟨Condition.fieldValue_holds reads, Condition.fieldValue_judges reads .null⟩

/-- The description of the sample issue takes a number. -/
private theorem sample_description_taken :
    ∃ issue after, ((PostFunction.updateField (.standard .description) (.number (.whole 5))).apply
      (Sample.finishing {})).run Sample.world = (.ok issue, after) := by
  have answered : (((PostFunction.updateField (.standard .description)
      (.number (.whole 5))).apply (Sample.finishing {})).run Sample.world).1.toOption.map (·.id) =
        some Sample.issue.id := by
    decide +kernel
  obtain ⟨issue, after, done, -⟩ := ok_of_answer answered
  exact ⟨issue, after, done⟩

/-- A description that was set to a number tests as its text, a priority as itself, and when it is
cleared as null. -/
theorem sample_field_tests :
    let attempt := Sample.finishing {}
    (∃ issue after, ((PostFunction.updateField (.standard .description) (.number (.whole 5))).apply
        attempt).run Sample.world = (.ok issue, after) ∧
      (Condition.fieldValue (.standard .description) (.string "5")).Judges issue true) ∧
    (∃ issue after, ((PostFunction.updateField (.standard .priority) (.string "high")).apply
        attempt).run Sample.world = (.ok issue, after) ∧
      (Condition.fieldValue (.standard .priority) (.string "high")).Judges issue true) ∧
    ∃ issue after, ((PostFunction.clearField (.standard .priority)).apply attempt).run
        Sample.world = (.ok issue, after) ∧
      (Condition.fieldValue (.standard .priority) .null).Judges issue true := by
  intro attempt
  have ranked : (((PostFunction.updateField (.standard .priority) (.string "high")).apply
      attempt).run Sample.world).1.toOption.map (·.id) = some Sample.issue.id := by
    decide +kernel
  have cleared : (((PostFunction.clearField (.standard .priority)).apply attempt).run
      Sample.world).1.toOption.map (·.id) = some Sample.issue.id := by
    decide +kernel
  obtain ⟨issue, after, done⟩ := sample_description_taken
  obtain ⟨second, afterSecond, doneSecond, -⟩ := ok_of_answer ranked
  obtain ⟨third, afterThird, doneThird, -⟩ := ok_of_answer cleared
  refine ⟨⟨issue, after, done, ?_⟩, ⟨second, afterSecond, doneSecond, ?_⟩,
    ⟨third, afterThird, doneThird, ?_⟩⟩
  · exact (((written_field_tests attempt _ Sample.world).1 _ _ _ done).2.2 "5" rfl).2
  · exact ((written_field_tests attempt _ Sample.world).1 _ _ _ doneSecond).2.1 rfl (by decide)
  · exact ((written_field_tests attempt _ Sample.world).2 _ _ doneThird).2 (by decide)

/-- A description that was set to a number does not test as that number. -/
theorem number_tests_as_text :
    let attempt := Sample.finishing {}
    ∃ issue after, ((PostFunction.updateField (.standard .description) (.number (.whole 5))).apply
        attempt).run Sample.world = (.ok issue, after) ∧
      ((Condition.fieldValue (.standard .description) (.number (.whole 5))).isMet
        { attempt with issue }).run after.store = .ok false := by
  intro attempt
  obtain ⟨issue, after, done⟩ := sample_description_taken
  have judged := Condition.fieldValue_judges (writeField_ok done).2 (.number (.whole 5))
  exact ⟨issue, after, done, judged { attempt with issue } rfl after.store⟩

/-- Labels that were cleared do not test as null. -/
theorem cleared_labels_not_null :
    let attempt := Sample.finishing {}
    ∃ issue after, ((PostFunction.clearField (.standard .labels)).apply attempt).run
        Sample.world = (.ok issue, after) ∧
      ((Condition.fieldValue (.standard .labels) .null).isMet { attempt with issue }).run
        after.store = .ok false := by
  intro attempt
  have answered : (((PostFunction.clearField (.standard .labels)).apply attempt).run
      Sample.world).1.toOption.map (·.id) = some Sample.issue.id := by
    decide +kernel
  obtain ⟨issue, after, done, -⟩ := ok_of_answer answered
  exact ⟨issue, after, done,
    (cleared_labels_test (.inl rfl) done).2 { attempt with issue } rfl after.store⟩

end IssueFlow
