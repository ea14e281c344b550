import IssueFlow.Sorting

/-!
# Tables

A table is a list of rows with distinct keys, in the order in which the keys were first put. No
answer goes by that order: a row is looked up by what only one row has, and listings are sorted.
-/

namespace IssueFlow

/-- Rows of a type are told apart by a key. -/
class Keyed (α : Type) (κ : outParam Type) where
  key : α → κ

/-- Rows with distinct keys. -/
structure Table (α : Type) {κ : Type} [Keyed α κ] where
  rows : List α
  distinct : (rows.map Keyed.key).Nodup := by exact List.nodup_nil

/-- Drops the rows that satisfy a predicate and says whether there were any. -/
def removeWhere {α : Type} (p : α → Bool) (rows : List α) : Bool × List α :=
  (rows.any p, rows.filter fun row => !p row)

namespace Table

variable {α κ : Type} [Keyed α κ]

instance [DecidableEq α] : DecidableEq (Table α) := fun a b =>
  decidable_of_iff (a.rows = b.rows) (by cases a; cases b; simp)

def empty : Table α := { rows := [] }

instance : Inhabited (Table α) := ⟨empty⟩

instance : EmptyCollection (Table α) := ⟨empty⟩

variable [DecidableEq κ]

/-- The row with that key. -/
def get? (table : Table α) (key : κ) : Option α :=
  table.rows.find? fun row => Keyed.key row == key

def contains (table : Table α) (key : κ) : Bool :=
  (table.get? key).isSome

/-- Replaces the row with the same key, or appends the row. -/
def putRow (row : α) : List α → List α
  | [] => [row]
  | r :: rest => if Keyed.key r = Keyed.key row then row :: rest else r :: putRow row rest

theorem mem_putRow {row r : α} {rows : List α} (h : r ∈ putRow row rows) : r = row ∨ r ∈ rows := by
  induction rows with
  | nil => simpa [putRow] using h
  | cons a rest ih =>
    simp only [putRow] at h
    split at h <;> grind

theorem nodup_putRow {row : α} {rows : List α} (h : (rows.map Keyed.key).Nodup) :
    ((putRow row rows).map Keyed.key).Nodup := by
  induction rows with
  | nil => simp [putRow]
  | cons a rest ih =>
    obtain ⟨fresh, tail⟩ := List.nodup_cons.1 h
    simp only [putRow]
    split
    · next same =>
      rw [List.map_cons, List.nodup_cons, ← same]
      exact ⟨fresh, tail⟩
    · next differs =>
      rw [List.map_cons, List.nodup_cons]
      refine ⟨fun member => ?_, ih tail⟩
      obtain ⟨r, hr, key⟩ := List.mem_map.1 member
      rcases mem_putRow hr with rfl | hr
      · exact differs key.symm
      · exact fresh (List.mem_map.2 ⟨r, hr, key⟩)

/-- Puts a row in the place of the one with its key, or at the end. -/
def put (table : Table α) (row : α) : Table α :=
  ⟨putRow row table.rows, nodup_putRow table.distinct⟩

/-- Keeps the rows that satisfy a predicate. -/
def filter (table : Table α) (p : α → Bool) : Table α :=
  ⟨table.rows.filter p, (List.filter_sublist.map _).nodup table.distinct⟩

/-- Removes the row with that key. -/
def erase (table : Table α) (key : κ) : Table α :=
  table.filter fun row => Keyed.key row != key

theorem find?_putRow (row : α) (rows : List α) (key : κ) :
    (putRow row rows).find? (fun r => Keyed.key r == key) =
      if Keyed.key row = key then some row else rows.find? fun r => Keyed.key r == key := by
  induction rows with
  | nil => by_cases h : Keyed.key row = key <;> simp [putRow, h]
  | cons a rest ih => grind [putRow]

theorem get?_put (table : Table α) (row : α) (key : κ) :
    (table.put row).get? key = if Keyed.key row = key then some row else table.get? key :=
  find?_putRow row table.rows key

theorem get?_erase (table : Table α) (erased key : κ) :
    (table.erase erased).get? key = if key = erased then none else table.get? key := by
  simp only [get?, erase, filter, List.find?_filter]
  split
  · next same => simp [same]
  · next differs =>
    congr 1
    funext row
    by_cases h : Keyed.key row = key <;> simp [h, differs]

theorem key_of_get? {table : Table α} {key : κ} {row : α} (h : table.get? key = some row) :
    Keyed.key row = key := by
  simpa using List.find?_some h

theorem mem_of_get? {table : Table α} {key : κ} {row : α} (h : table.get? key = some row) :
    row ∈ table.rows :=
  List.mem_of_find?_eq_some h

/-- Every row of a table is found under its key. -/
theorem get?_of_mem {table : Table α} {row : α} (h : row ∈ table.rows) :
    table.get? (Keyed.key row) = some row := by
  obtain ⟨rows, distinct⟩ := table
  simp only [get?] at *
  induction rows with
  | nil => simp at h
  | cons a rest ih =>
    obtain ⟨fresh, tail⟩ := List.nodup_cons.1 distinct
    rcases List.mem_cons.1 h with rfl | h
    · simp
    · have : Keyed.key a ≠ Keyed.key row := fun same =>
        fresh (same ▸ List.mem_map.2 ⟨row, h, rfl⟩)
      simp [this, ih tail h]

end Table

end IssueFlow
