import IssueFlow.Ident
import IssueFlow.ParseError
import IssueFlow.Text.Blank

/-!
# Fields

Rules and screens address the fields of an issue by reference: one of the standard fields by its
name, or a custom field by its key.
-/

namespace IssueFlow

inductive StandardField where
  | summary
  | description
  | priority
  | assignee
  | reporter
  | resolution
  | dueDate
  | labels
  deriving DecidableEq, Repr

namespace StandardField

def name : StandardField → String
  | summary => "summary"
  | description => "description"
  | priority => "priority"
  | assignee => "assignee"
  | reporter => "reporter"
  | resolution => "resolution"
  | dueDate => "due_date"
  | labels => "labels"

def all : List StandardField :=
  [summary, description, priority, assignee, reporter, resolution, dueDate, labels]

instance : Enumeration StandardField where
  all := all
  name := name
  find_name a := by cases a <;> decide

def parse : String → Except ParseError StandardField :=
  Enumeration.parse .unknownField

end StandardField

inductive FieldRef where
  | standard (field : StandardField)
  | custom (id : CustomFieldId)
  deriving DecidableEq, Repr

namespace FieldRef

/-- How a field is named in messages. -/
def display : FieldRef → String
  | standard field => field.name
  | custom id => s!"custom:{id.text}"

/-- Standard fields come first, in the order of their declaration; custom ones follow by key. -/
def rank : FieldRef → Nat × String
  | standard field => (Enumeration.index field, "")
  | custom id => (StandardField.all.length, id.text)

theorem rank_injective {a b : FieldRef} (h : a.rank = b.rank) : a = b := by
  cases a with
  | standard f =>
    cases b with
    | standard g => exact congrArg standard (Enumeration.index_injective (congrArg Prod.fst h))
    | custom id => exact absurd (congrArg Prod.fst h) (Nat.ne_of_lt (Enumeration.index_lt_length f))
  | custom id =>
    cases b with
    | standard g =>
      exact absurd (congrArg Prod.fst h).symm (Nat.ne_of_lt (Enumeration.index_lt_length g))
    | custom other =>
      cases id
      cases other
      simpa [rank] using h

instance : Ord FieldRef where
  compare := compareLex (compareOn fun f => f.rank.1) (compareOn fun f => f.rank.2)

instance : Std.TransOrd FieldRef :=
  inferInstanceAs (Std.TransCmp
    (compareLex (compareOn fun f : FieldRef => f.rank.1) (compareOn fun f => f.rank.2)))

instance : Std.LawfulEqOrd FieldRef where
  compare_self {a} := by
    show compareLex (compareOn fun f : FieldRef => f.rank.1) (compareOn fun f => f.rank.2) a a = .eq
    simp [compareLex, compareOn]
  eq_of_compare {a b} h := by
    have h : (compare a.rank.1 b.rank.1).then (compare a.rank.2 b.rank.2) = .eq := h
    obtain ⟨first, second⟩ := Ordering.then_eq_eq.1 h
    exact rank_injective (Prod.ext (Std.LawfulEqCmp.eq_of_compare first)
      (Std.LawfulEqCmp.eq_of_compare second))

end FieldRef

/-- A field with this value counts as not filled in: null, blank text, no items, no fields. -/
def Json.isUnfilled : Json → Bool
  | .null => true
  | .string s => Text.isBlank s
  | .array items => items.isEmpty
  | .object fields => fields.isEmpty
  | .bool _ => false
  | .number _ => false

end IssueFlow
