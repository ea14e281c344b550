/-!
# Named enumerations

A finite type whose values have distinct names. The order of declaration is the order of the type.
-/

namespace IssueFlow

/-- The values of a finite type in order, with a name for each. -/
class Enumeration (α : Type) where
  all : List α
  name : α → String
  /-- The first value that bears the name of `a` is `a`. -/
  find_name : ∀ a, all.find? (fun b => name b == name a) = some a

namespace Enumeration

variable {α : Type} [Enumeration α]

/-- The value of that name. -/
def ofName? (s : String) : Option α :=
  (all : List α).find? fun a => name a == s

/-- The place of a value among all. -/
def index (a : α) : Nat :=
  (all : List α).findIdx fun b => name b == name a

/-- Values are ordered as they are declared. -/
def compare (a b : α) : Ordering :=
  Ord.compare (index a) (index b)

@[simp] theorem ofName?_name (a : α) : ofName? (name a) = some a :=
  find_name a

theorem name_injective {a b : α} (h : name a = name b) : a = b := by
  have := find_name a
  rw [h, find_name b] at this
  exact (Option.some.inj this).symm

theorem mem_all (a : α) : a ∈ (all : List α) :=
  List.mem_of_find?_eq_some (find_name a)

theorem index_lt_length (a : α) : index a < (all : List α).length :=
  List.findIdx_lt_length_of_exists ⟨a, mem_all a, by simp⟩

/-- The value at the place of `a` bears the name of `a`. -/
theorem name_get_index (a : α) :
    name ((all : List α).get ⟨index a, index_lt_length a⟩) = name a := by
  have found : (name ((all : List α).get ⟨index a, index_lt_length a⟩) == name a) = true :=
    List.findIdx_getElem (p := fun b : α => name b == name a) (w := index_lt_length a)
  exact eq_of_beq found

theorem index_injective {a b : α} (h : index a = index b) : a = b := by
  apply name_injective
  rw [← name_get_index a, ← name_get_index b]
  simp only [h]

end Enumeration

end IssueFlow
