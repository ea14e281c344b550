/-!
# Sorting

Listings are sorted by stable merges: rows that compare equal keep their order.
-/

namespace IssueFlow

/-- Sorts by a comparison. -/
def sortBy {α : Type} (cmp : α → α → Ordering) (rows : List α) : List α :=
  rows.mergeSort fun a b => (cmp a b).isLE

/-- The values of a list in ascending order, each once. -/
def sortedSet {α : Type} [Ord α] [BEq α] (values : List α) : List α :=
  (sortBy compare values).eraseDups

/-- The default row first, then by name. -/
def defaultThenName {α : Type} (isDefault : α → Bool) (name : α → String) (a b : α) : Ordering :=
  (compare (!isDefault a) (!isDefault b)).then (compare (name a) (name b))

@[simp] theorem mem_sortBy {α : Type} {cmp : α → α → Ordering} {rows : List α} {a : α} :
    a ∈ sortBy cmp rows ↔ a ∈ rows := by
  simp [sortBy]

theorem sortBy_perm {α : Type} (cmp : α → α → Ordering) (rows : List α) :
    (sortBy cmp rows).Perm rows :=
  List.mergeSort_perm ..

@[simp] theorem mem_sortedSet {α : Type} [Ord α] [BEq α] [LawfulBEq α] {values : List α} {a : α} :
    a ∈ sortedSet values ↔ a ∈ values := by
  simp [sortedSet]

theorem text_lt_of_compare {a b : String} (less : compare a b = .lt) : a < b :=
  compareOfLessAndEq_eq_lt.1 less

section Order

variable {α : Type} {cmp : α → α → Ordering} [Std.TransCmp cmp]

theorem pairwise_sortBy (rows : List α) :
    (sortBy cmp rows).Pairwise fun a b => (cmp a b).isLE = true := by
  refine List.pairwise_mergeSort (fun _ _ _ => Std.TransCmp.isLE_trans) (fun a b => ?_) rows
  by_cases le : (cmp a b).isLE = true
  · simp [le]
  · have lt := Std.OrientedCmp.lt_of_not_isLE le
    simp [lt]

/-- Rows of which no two compare equal are put into strictly ascending order. -/
theorem pairwise_lt_sortBy {rows : List α} (apart : rows.Pairwise fun a b => cmp a b ≠ .eq) :
    (sortBy cmp rows).Pairwise fun a b => cmp a b = .lt := by
  have symmetric : ∀ {a b}, cmp a b ≠ .eq → cmp b a ≠ .eq :=
    fun differ same => differ (Std.OrientedCmp.eq_comm.1 same)
  have apart := ((sortBy_perm cmp rows).pairwise_iff symmetric).2 apart
  refine ((pairwise_sortBy rows).and apart).imp ?_
  rintro a b ⟨le, differ⟩
  exact (Ordering.isLE_iff_eq_lt_or_eq_eq.1 le).resolve_right differ

end Order

theorem nodup_eraseDups {α : Type} [BEq α] [LawfulBEq α] (values : List α) :
    values.eraseDups.Nodup := by
  match values with
  | [] => exact List.nodup_nil
  | a :: rest =>
    rw [List.eraseDups_cons, List.nodup_cons]
    refine ⟨?_, nodup_eraseDups (rest.filter fun b => !b == a)⟩
    rw [List.mem_eraseDups]
    simp
termination_by values.length
decreasing_by exact Nat.lt_succ_of_le (List.length_filter_le _ _)

theorem nodup_sortedSet {α : Type} [Ord α] [BEq α] [LawfulBEq α] (values : List α) :
    (sortedSet values).Nodup :=
  nodup_eraseDups _

end IssueFlow
