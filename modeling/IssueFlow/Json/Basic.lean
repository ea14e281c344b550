import IssueFlow.Number.Shortest
import IssueFlow.SortedMap

/-!
# JSON values

A value keeps whole numbers apart from binary ones: `5` and `5.0` differ. The fields of an object
stand in ascending order of their keys, each key once; `Json.ofFields` puts them so.
-/

namespace IssueFlow

/-- A whole number of 64 bits, signed or not, or a finite binary number. -/
inductive Number where
  | whole (value : Int)
  | binary (value : Binary64)
  deriving DecidableEq, Repr

/-- Numbers are equal when both are whole or both binary and their values agree. -/
def Number.sameValue : Number → Number → Bool
  | .whole a, .whole b => a == b
  | .binary a, .binary b => a.sameValue b
  | _, _ => false

inductive Json where
  | null
  | bool (value : Bool)
  | number (value : Number)
  | string (value : String)
  | array (items : List Json)
  | object (fields : List (String × Json))
  deriving Repr, Inhabited

namespace Json

mutual

/-- Equality of values: numbers by value, so the two zeros of a binary number agree, and all else
by form. -/
def sameValue : Json → Json → Bool
  | .null, .null => true
  | .bool a, .bool b => a == b
  | .number a, .number b => a.sameValue b
  | .string a, .string b => a == b
  | .array a, .array b => sameItems a b
  | .object a, .object b => sameFields a b
  | _, _ => false

def sameItems : List Json → List Json → Bool
  | [], [] => true
  | a :: as, b :: bs => a.sameValue b && sameItems as bs
  | _, _ => false

def sameFields : List (String × Json) → List (String × Json) → Bool
  | [], [] => true
  | (j, a) :: as, (k, b) :: bs => j == k && a.sameValue b && sameFields as bs
  | _, _ => false

end

mutual

/-- Equality of forms. -/
def sameForm : Json → Json → Bool
  | .null, .null => true
  | .bool a, .bool b => a == b
  | .number a, .number b => decide (a = b)
  | .string a, .string b => a == b
  | .array a, .array b => sameFormItems a b
  | .object a, .object b => sameFormFields a b
  | _, _ => false

def sameFormItems : List Json → List Json → Bool
  | [], [] => true
  | a :: as, b :: bs => a.sameForm b && sameFormItems as bs
  | _, _ => false

def sameFormFields : List (String × Json) → List (String × Json) → Bool
  | [], [] => true
  | (j, a) :: as, (k, b) :: bs => j == k && a.sameForm b && sameFormFields as bs
  | _, _ => false

end

theorem Number.sameValue_refl (n : Number) : n.sameValue n = true := by
  cases n <;> simp [Number.sameValue, Binary64.sameValue_refl]

mutual

theorem sameValue_refl : (a : Json) → a.sameValue a = true
  | .null => rfl
  | .bool _ => by simp [sameValue]
  | .number n => by simp [sameValue, Number.sameValue_refl n]
  | .string _ => by simp [sameValue]
  | .array as => by simp [sameValue, sameItems_refl as]
  | .object as => by simp [sameValue, sameFields_refl as]

theorem sameItems_refl : (as : List Json) → sameItems as as = true
  | [] => rfl
  | a :: as => by simp [sameItems, sameValue_refl a, sameItems_refl as]

theorem sameFields_refl : (as : List (String × Json)) → sameFields as as = true
  | [] => rfl
  | (_, a) :: as => by simp [sameFields, sameValue_refl a, sameFields_refl as]

end

mutual

theorem sameForm_iff : (a b : Json) → (a.sameForm b = true ↔ a = b)
  | .null, b => by cases b <;> simp [sameForm]
  | .bool _, b => by cases b <;> simp [sameForm]
  | .number _, b => by cases b <;> simp [sameForm]
  | .string _, b => by cases b <;> simp [sameForm]
  | .array as, b => by
    cases b <;> simp [sameForm]
    exact sameFormItems_iff as _
  | .object as, b => by
    cases b <;> simp [sameForm]
    exact sameFormFields_iff as _

theorem sameFormItems_iff : (as bs : List Json) → (sameFormItems as bs = true ↔ as = bs)
  | [], bs => by cases bs <;> simp [sameFormItems]
  | a :: as, bs => by
    cases bs with
    | nil => simp [sameFormItems]
    | cons b bs => simp [sameFormItems, sameForm_iff a b, sameFormItems_iff as bs]

theorem sameFormFields_iff :
    (as bs : List (String × Json)) → (sameFormFields as bs = true ↔ as = bs)
  | [], bs => by cases bs <;> simp [sameFormFields]
  | (j, a) :: as, bs => by
    cases bs with
    | nil => simp [sameFormFields]
    | cons b bs => simp [sameFormFields, sameForm_iff a b.2, sameFormFields_iff as bs, Prod.ext_iff]

end

instance : DecidableEq Json := fun a b => decidable_of_iff _ (sameForm_iff a b)

/-- The object of the given fields; a later value of a key replaces an earlier one. -/
def ofFields (fields : List (String × Json)) : Json :=
  .object ((SortedMap.ofList fields).entries)

/-- The value under a key of an object. -/
def get? (key : String) : Json → Option Json
  | .object fields => EntryList.find? key fields
  | _ => none

/-- An optional text: null when absent. -/
def ofOption : Option String → Json
  | some s => .string s
  | none => .null

end Json

end IssueFlow
