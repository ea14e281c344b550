import IssueFlow.Proofs.Reachable

/-!
# Running order

Rules run, and screen fields are asked for, by ascending position; rows at one position keep the
order of their table. There is only one such order.
-/

namespace IssueFlow

variable {α : Type} {position : α → Position} {rows listed other : List α}

/-- A list has the rows of a table by ascending position, and rows at one position as they stand in
the table. -/
structure Ranked (position : α → Position) (rows listed : List α) : Prop where
  perm : listed.Perm rows
  ascending : listed.Pairwise fun a b => (position a).value ≤ (position b).value
  stable : ∀ p, listed.filter (position · = p) = rows.filter (position · = p)

private theorem Position.isLE_compare_iff {p q : Position} :
    (compare p q).isLE = true ↔ p.value ≤ q.value := by
  show (compare p.value q.value).isLE = true ↔ _
  exact Int.isLE_compare

theorem Position.eq_of_value {p q : Position} (same : p.value = q.value) : p = q := by
  cases p
  cases q
  cases same
  rfl

theorem byPosition_ranked (position : α → Position) (rows : List α) :
    Ranked position rows (byPosition position rows) := by
  have transitive : ∀ a b c, (compare (position a) (position b)).isLE = true →
      (compare (position b) (position c)).isLE = true →
      (compare (position a) (position c)).isLE = true := by
    simp only [Position.isLE_compare_iff]
    exact fun _ _ _ => Int.le_trans
  have total : ∀ a b, ((compare (position a) (position b)).isLE ||
      (compare (position b) (position a)).isLE) = true := by
    simp only [Bool.or_eq_true, Position.isLE_compare_iff]
    exact fun _ _ => Int.le_total _ _
  have perm : (byPosition position rows).Perm rows := sortBy_perm _ rows
  refine ⟨perm, ?_, ?_⟩
  · rw [byPosition, sortBy]
    simpa only [Position.isLE_compare_iff] using List.pairwise_mergeSort transitive total rows
  · -- The rows at a position are a sorted part of the table, and so a part of the sorted table.
    intro p
    have level : (rows.filter (position · = p)).Pairwise fun a b =>
        (compare (position a) (position b)).isLE = true := by
      refine List.pairwise_of_forall_mem_list ?_
      intro a first b second
      simp only [List.mem_filter, decide_eq_true_eq] at first second
      have same : (position a).value = (position b).value := by rw [first.2, second.2]
      exact Position.isLE_compare_iff.2 (Int.le_of_eq same)
    have part := (List.sublist_mergeSort transitive total level List.filter_sublist).filter
      (position · = p)
    simp only [List.filter_filter, Bool.and_self] at part
    exact (part.eq_of_length (perm.filter _).length_eq.symm).symm

/-- The first row of a list by ascending position is at the least position. -/
theorem least_of_ascending {a b : α}
    (ascending : (a :: listed).Pairwise fun a b => (position a).value ≤ (position b).value)
    (member : b ∈ a :: listed) : (position a).value ≤ (position b).value := by
  rcases List.mem_cons.1 member with rfl | later
  · exact Int.le_refl _
  · exact (List.pairwise_cons.1 ascending).1 b later

/-- A table has one list by ascending position that keeps the order of rows at one position. -/
private theorem Ranked.unique (ranked : Ranked position rows listed)
    (too : Ranked position rows other) :
    listed = other := by
  induction listed generalizing rows other with
  | nil => exact (ranked.perm.trans too.perm.symm).nil_eq
  | cons a rest ih =>
    have perm := ranked.perm.trans too.perm.symm
    cases other with
    | nil => cases perm.eq_nil
    | cons b more =>
      have level : position a = position b := by
        have below := least_of_ascending ranked.ascending (perm.mem_iff.2 List.mem_cons_self)
        have above := least_of_ascending too.ascending (perm.mem_iff.1 List.mem_cons_self)
        exact Position.eq_of_value (Int.le_antisymm below above)
      have stable := fun p => (ranked.stable p).trans (too.stable p).symm
      have heads := stable (position a)
      rw [List.filter_cons_of_pos (by simp), List.filter_cons_of_pos (by simp [level])] at heads
      obtain ⟨rfl, -⟩ := List.cons.inj heads
      have tails : ∀ p, more.filter (position · = p) = rest.filter (position · = p) := by
        intro p
        have whole := stable p
        rw [List.filter_cons, List.filter_cons] at whole
        split at whole
        · exact (List.cons.inj whole).2.symm
        · exact whole.symm
      have restRanked : Ranked position rest rest :=
        ⟨.refl rest, (List.pairwise_cons.1 ranked.ascending).2, fun _ => rfl⟩
      have moreRanked : Ranked position rest more :=
        ⟨perm.cons_inv.symm, (List.pairwise_cons.1 too.ascending).2, tails⟩
      rw [ih restRanked moreRanked]

theorem byPosition_eq (ranked : Ranked position rows listed) :
    byPosition position rows = listed :=
  (byPosition_ranked position rows).unique ranked

/-- At a position of no row there is nothing to compare. -/
private theorem ranked_iff : Ranked position rows listed ↔
    listed.Perm rows ∧
      (listed.Pairwise fun a b => (position a).value ≤ (position b).value) ∧
      ∀ row ∈ rows, listed.filter (position · = position row) =
        rows.filter (position · = position row) := by
  constructor
  · rintro ⟨perm, ascending, stable⟩
    exact ⟨perm, ascending, fun row _ => stable (position row)⟩
  · rintro ⟨perm, ascending, stable⟩
    refine ⟨perm, ascending, fun p => ?_⟩
    by_cases taken : ∃ row ∈ rows, position row = p
    · obtain ⟨row, member, rfl⟩ := taken
      exact stable row member
    · have free : ∀ row ∈ rows, ¬ decide (position row = p) = true := by
        intro row member here
        exact taken ⟨row, member, of_decide_eq_true here⟩
      rw [List.filter_eq_nil_iff.2 free, List.filter_eq_nil_iff.2]
      exact fun row member => free row (perm.mem_iff.1 member)

instance [DecidableEq α] : Decidable (Ranked position rows listed) :=
  decidable_of_iff' _ ranked_iff

end IssueFlow
