import IssueFlow.Store.Table
import Mathlib.Data.List.Nodup

/-!
# Laws of tables

Which rows a table has after a row was put or after rows were dropped, and how rows stay told apart
by what they hold, their running numbers among it.
-/

namespace IssueFlow

section Rows

variable {α β : Type} {rows : List α} {f : α → β}

theorem nodup_map_filter (p : α → Bool) (distinct : (rows.map f).Nodup) :
    ((rows.filter p).map f).Nodup :=
  (List.filter_sublist.map f).nodup distinct

theorem nodup_map_concat {row : α} (distinct : (rows.map f).Nodup)
    (fresh : ∀ r ∈ rows, f r ≠ f row) : ((rows ++ [row]).map f).Nodup := by
  rw [List.map_append, List.map_singleton, ← List.concat_eq_append]
  refine List.Nodup.concat (fun member => ?_) distinct
  obtain ⟨r, stored, same⟩ := List.mem_map.1 member
  exact fresh r stored same

/-- Keys made of one label and a running number differ when their numbers do. -/
theorem number_eq_of_key_eq {label : String} {m n : Nat}
    (same : label ++ toString m = label ++ toString n) : m = n := by
  have reprs : m.repr = n.repr := (String.append_right_inj label).1 same
  rw [Nat.repr_eq_ofList_toDigits, Nat.repr_eq_ofList_toDigits] at reprs
  have digits := String.ofList_injective reprs
  calc m = Nat.ofDigitChars 10 (Nat.toDigits 10 m) 0 :=
        (Nat.ofDigitChars_toDigits (by decide) (by decide)).symm
    _ = Nat.ofDigitChars 10 (Nat.toDigits 10 n) 0 := by rw [digits]
    _ = n := Nat.ofDigitChars_toDigits (by decide) (by decide)

/-- Of rows that a key tells apart at most one has a given key. -/
theorem length_filter_le_one {p : α → Bool} {key : β} (distinct : (rows.map f).Nodup)
    (fits : ∀ row, p row = true → f row = key) : (rows.filter p).length ≤ 1 := by
  have kept := nodup_map_filter p distinct
  have same : ∀ row ∈ rows.filter p, f row = key :=
    fun row member => fits row (List.mem_filter.1 member).2
  match rows.filter p, kept, same with
  | [], _, _ => exact Nat.zero_le 1
  | [_], _, _ => exact Nat.le_refl 1
  | first :: second :: _, kept, same =>
    rw [List.map_cons, List.map_cons] at kept
    have equal : f first = f second :=
      (same first (by simp)).trans (same second (by simp)).symm
    exact absurd (equal ▸ List.mem_cons_self) (List.nodup_cons.1 kept).1

/-- A search among rows of which at most one fits answers all that fit. -/
theorem toList_find? {p : α → Bool} (sole : (rows.filter p).length ≤ 1) :
    (rows.find? p).toList = rows.filter p := by
  rw [← List.head?_filter]
  match rows.filter p, sole with
  | [], _ => rfl
  | [row], _ => rfl

/-- A search by a key finds the row that has it. -/
theorem find?_of_mem {p : α → Bool} {row : α} (distinct : (rows.map f).Nodup) (stored : row ∈ rows)
    (fits : ∀ other, p other = true ↔ f other = f row) : rows.find? p = some row := by
  have sole := length_filter_le_one distinct fun other found => (fits other).1 found
  refine Option.mem_toList.1 ?_
  rw [toList_find? sole, List.mem_filter]
  exact ⟨stored, (fits row).2 rfl⟩

/-- Where a filter fixes the rest of the key, what is left of it tells rows apart. -/
theorem nodup_map_of_rest {γ : Type} {g : α → γ} {p : α → Bool} (distinct : (rows.map f).Nodup)
    (rest : ∀ a b, p a = true → p b = true → g a = g b → f a = f b) :
    ((rows.filter p).map g).Nodup := by
  refine List.Nodup.map_on ?_ (distinct.of_map.filter _)
  intro a first b second same
  obtain ⟨storedFirst, fitsFirst⟩ := List.mem_filter.1 first
  obtain ⟨storedSecond, fitsSecond⟩ := List.mem_filter.1 second
  exact List.inj_on_of_nodup_map distinct storedFirst storedSecond
    (rest a b fitsFirst fitsSecond same)

end Rows

namespace Table

variable {α κ : Type} [Keyed α κ] [DecidableEq κ]

theorem mem_iff_get? {table : Table α} {row : α} :
    row ∈ table.rows ↔ table.get? (Keyed.key row) = some row :=
  ⟨get?_of_mem, mem_of_get?⟩

theorem get?_eq_some_iff {table : Table α} {key : κ} {row : α} :
    table.get? key = some row ↔ row ∈ table.rows ∧ Keyed.key row = key := by
  constructor
  · intro found
    exact ⟨mem_of_get? found, key_of_get? found⟩
  · rintro ⟨member, rfl⟩
    exact get?_of_mem member

theorem contains_iff {table : Table α} {key : κ} :
    table.contains key = true ↔ ∃ row ∈ table.rows, Keyed.key row = key := by
  simp only [contains, Option.isSome_iff_exists, get?_eq_some_iff]

theorem mem_put {table : Table α} {row r : α} :
    r ∈ (table.put row).rows ↔ r = row ∨ r ∈ table.rows ∧ Keyed.key r ≠ Keyed.key row := by
  rw [mem_iff_get?, get?_put]
  by_cases same : Keyed.key row = Keyed.key r
  · rw [if_pos same]
    constructor
    · intro found
      exact .inl (Option.some.inj found).symm
    · rintro (rfl | ⟨-, differs⟩)
      · rfl
      · exact absurd same.symm differs
  · rw [if_neg same, ← mem_iff_get?]
    constructor
    · intro member
      exact .inr ⟨member, fun equal => same equal.symm⟩
    · rintro (rfl | ⟨member, -⟩)
      · exact absurd rfl same
      · exact member

theorem contains_put {table : Table α} {row : α} {key : κ} :
    (table.put row).contains key = true ↔ Keyed.key row = key ∨ table.contains key = true := by
  rw [contains, get?_put]
  by_cases same : Keyed.key row = key
  · simp [same]
  · rw [if_neg same, contains]
    simp [same]

omit [DecidableEq κ] in
@[simp] theorem mem_filter {table : Table α} {p : α → Bool} {row : α} :
    row ∈ (table.filter p).rows ↔ row ∈ table.rows ∧ p row = true :=
  List.mem_filter

@[simp] theorem mem_erase {table : Table α} {key : κ} {row : α} :
    row ∈ (table.erase key).rows ↔ row ∈ table.rows ∧ Keyed.key row ≠ key := by
  simp [erase]

theorem contains_filter {table : Table α} {p : α → Bool} {key : κ} :
    (table.filter p).contains key = true ↔
      ∃ row ∈ table.rows, p row = true ∧ Keyed.key row = key := by
  simp only [contains_iff, mem_filter, and_assoc]

theorem contains_erase {table : Table α} {erased key : κ} :
    (table.erase erased).contains key = true ↔ table.contains key = true ∧ key ≠ erased := by
  rw [contains, get?_erase]
  by_cases same : key = erased
  · simp [same]
  · rw [if_neg same, contains]
    simp [same]

variable {β : Type} {table : Table α} {f : α → β}

omit [DecidableEq κ] in
theorem nodup_map_iff : (table.rows.map f).Nodup ↔
    ∀ a ∈ table.rows, ∀ b ∈ table.rows, f a = f b → a = b :=
  List.nodup_map_iff_inj_on (List.Nodup.of_map _ table.distinct)

/-- A row may be put where no row but the one that it replaces agrees with it. -/
theorem nodup_map_put {row : α} (distinct : (table.rows.map f).Nodup)
    (apart : ∀ r ∈ table.rows, f r = f row → Keyed.key r = Keyed.key row) :
    ((table.put row).rows.map f).Nodup := by
  rw [nodup_map_iff] at distinct ⊢
  intro a first b second same
  rcases mem_put.1 first with rfl | ⟨oldFirst, differs⟩
  · rcases mem_put.1 second with rfl | ⟨oldSecond, differs⟩
    · rfl
    · exact absurd (apart b oldSecond same.symm) differs
  · rcases mem_put.1 second with rfl | ⟨oldSecond, -⟩
    · exact absurd (apart a oldFirst same) differs
    · exact distinct a oldFirst b oldSecond same

theorem nodup_map_put_of_fresh {row : α} (distinct : (table.rows.map f).Nodup)
    (fresh : ∀ r ∈ table.rows, f r ≠ f row) : ((table.put row).rows.map f).Nodup :=
  nodup_map_put distinct fun r stored same => absurd same (fresh r stored)

end Table

end IssueFlow
