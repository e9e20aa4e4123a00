import PodCache.Cache.Refresh
import PodCache.Proofs.Table

/-!
# The changes of a refresh

A refresh takes down the id of each entry that it adds, and gives the ids in order. Each
added id is new in its table when it is taken down, so none is given twice.
-/

namespace PodCache

/-- What is sorted by a text is in the order of the texts. -/
theorem pairwise_le_mergeSort {α : Type} (key : α → String) (l : List α) :
    (l.mergeSort fun v w => key v ≤ key w).Pairwise fun v w => key v ≤ key w := by
  have ordered : (l.mergeSort fun v w => key v ≤ key w).Pairwise
      fun v w => decide (key v ≤ key w) = true := by
    apply List.pairwise_mergeSort
    · intro u v w
      simp only [decide_eq_true_eq]
      exact String.le_trans
    · intro v w
      simp only [Bool.or_eq_true, decide_eq_true_eq]
      exact String.le_total _ _
  exact ordered.imp of_decide_eq_true

namespace Refresh

/-- Ids without repetition come out of the sorting in strictly increasing order. -/
theorem pairwise_lt_mergeSort {ids : List String} (distinct : ids.Nodup) :
    ids.mergeSort.Pairwise (· < ·) := by
  have ordered : ids.mergeSort.Pairwise (· ≤ ·) := pairwise_le_mergeSort (fun id => id) ids
  have different : ids.mergeSort.Nodup := (List.mergeSort_perm ids _).nodup_iff.2 distinct
  refine (ordered.and different).imp ?_
  rintro a b ⟨le, ne⟩
  by_contra not_lt
  exact ne (String.le_antisymm le (String.not_lt.1 not_lt))

/-- The added ids are those that the table has now and had not before, each once. No id of
    the table is gone. -/
structure Tracks {α : Type} (before now : Table α) (r : Refresh) : Prop where
  distinct : r.added.Nodup
  added : ∀ id : String, id ∈ r.added ↔ id ∈ now ∧ id ∉ before
  grown : ∀ id : String, id ∈ before → id ∈ now

namespace Tracks

variable {α : Type} {before now : Table α} {r : Refresh}

theorem start (before : Table α) : Tracks before before {} := by
  refine ⟨List.nodup_nil, ?_, fun id known => known⟩
  intro id
  simp

/-- An entry for a known id adds nothing. -/
theorem known (tracks : Tracks before now r) {id : String} (present : id ∈ now) (v : α)
    {change : Cache.Change} (other : change ≠ .added) :
    Tracks before (now.insert id v) (r.record id change) := by
  have same : (r.record id change).added = r.added := by
    cases change with
    | added => exact absurd rfl other
    | updated => rfl
    | unchanged => rfl
  have members : ∀ j : String, j ∈ now.insert id v ↔ j ∈ now := by
    intro j
    rw [Table.mem_insert]
    constructor
    · rintro (rfl | member)
      · exact present
      · exact member
    · exact .inr
  refine ⟨same ▸ tracks.distinct, ?_, ?_⟩
  · intro j
    rw [same, tracks.added, members]
  · intro j member
    exact (members j).2 (tracks.grown j member)

/-- An entry for a new id adds the id. -/
theorem new (tracks : Tracks before now r) {id : String} (absent : id ∉ now) (v : α) :
    Tracks before (now.insert id v) (r.record id .added) := by
  have unknown : id ∉ before := fun member => absent (tracks.grown id member)
  refine ⟨?_, ?_, ?_⟩
  · refine List.nodup_cons.2 ⟨?_, tracks.distinct⟩
    intro member
    exact absent ((tracks.added id).1 member).1
  · intro j
    rw [record, List.mem_cons, tracks.added, Table.mem_insert]
    constructor
    · rintro (rfl | ⟨member, fresh⟩)
      · exact ⟨.inl rfl, unknown⟩
      · exact ⟨.inr member, fresh⟩
    · rintro ⟨rfl | member, fresh⟩
      · exact .inl rfl
      · exact .inr ⟨member, fresh⟩
  · intro j member
    exact (Table.mem_insert ..).2 (.inr (tracks.grown j member))

end Tracks

end Refresh

end PodCache
