import PodCache.Cache.Refresh
import PodCache.Proofs.Table

/-!
# Deleting containers

What a cache holds after one container, or each of a list of containers, was deleted.
A container that the cache does not hold leaves no trace when it is deleted, so an id
that is pending without a container stays pending.
-/

namespace PodCache.Cache

/-! ### One container -/

theorem deleteContainer_containers (c : Cache) (id j : String) :
    (c.deleteContainer id).2.containers[j]? = if id = j then none else c.containers[j]? := by
  unfold deleteContainer
  cases found : c.containers[id]? with
  | none =>
    by_cases equal : id = j
    · rw [if_pos equal, ← equal, found]
    · rw [if_neg equal]
  | some container => exact Table.getElem?_erase _ _ _

theorem deleteContainer_pending (c : Cache) (id j : String) :
    (c.deleteContainer id).2.pending[j]? =
      if id = j ∧ j ∈ c.containers then none else c.pending[j]? := by
  unfold deleteContainer
  cases found : c.containers[id]? with
  | none =>
    have absent : ¬ (id = j ∧ j ∈ c.containers) := by
      rintro ⟨rfl, member⟩
      exact (Table.getElem?_eq_none_iff _ _).1 found member
    rw [if_neg absent]
  | some container =>
    have member := Table.mem_of_getElem? found
    rw [Table.getElem?_erase]
    by_cases equal : id = j
    · subst equal
      rw [if_pos rfl, if_pos ⟨rfl, member⟩]
    · rw [if_neg equal, if_neg fun both => equal both.1]

@[simp] theorem deleteContainer_pods (c : Cache) (id : String) :
    (c.deleteContainer id).2.pods = c.pods := by
  unfold deleteContainer
  split <;> rfl

@[simp] theorem deleteContainer_nextProvisional (c : Cache) (id : String) :
    (c.deleteContainer id).2.nextProvisional = c.nextProvisional := by
  unfold deleteContainer
  split <;> rfl

@[simp] theorem deleteContainer_refreshes (c : Cache) (id : String) :
    (c.deleteContainer id).2.refreshes = c.refreshes := by
  unfold deleteContainer
  split <;> rfl

/-! ### A list of containers -/

/-- The cache without the containers of the given ids. -/
def deleteContainers (c : Cache) (ids : List String) : Cache :=
  ids.foldl (fun c id => (c.deleteContainer id).2) c

theorem deleteContainers_cons (c : Cache) (id : String) (ids : List String) :
    c.deleteContainers (id :: ids) = (c.deleteContainer id).2.deleteContainers ids := rfl

/-- Exactly the containers with one of the ids are gone. -/
theorem deleteContainers_containers (c : Cache) (ids : List String) (j : String) :
    (c.deleteContainers ids).containers[j]? = if j ∈ ids then none else c.containers[j]? := by
  induction ids generalizing c with
  | nil => rfl
  | cons id ids ih =>
    rw [deleteContainers_cons, ih, deleteContainer_containers]
    by_cases later : j ∈ ids
    · simp [later]
    · simp [later, eq_comm]

/-- With the containers, exactly their pending creations are gone. -/
theorem deleteContainers_pending (c : Cache) (ids : List String) (j : String) :
    (c.deleteContainers ids).pending[j]? =
      if j ∈ ids ∧ j ∈ c.containers then none else c.pending[j]? := by
  induction ids generalizing c with
  | nil => simp [deleteContainers]
  | cons id ids ih =>
    have left : j ∈ (c.deleteContainer id).2.containers ↔ id ≠ j ∧ j ∈ c.containers := by
      rw [Table.mem_iff, deleteContainer_containers, Table.mem_iff]
      by_cases equal : id = j <;> simp [equal]
    rw [deleteContainers_cons, ih, deleteContainer_pending]
    simp only [left]
    by_cases equal : id = j
    · by_cases member : j ∈ c.containers <;> simp [equal, member]
    · simp [equal, Ne.symm equal]

@[simp] theorem deleteContainers_pods (c : Cache) (ids : List String) :
    (c.deleteContainers ids).pods = c.pods :=
  foldl_keeps Cache.pods deleteContainer_pods c ids

@[simp] theorem deleteContainers_nextProvisional (c : Cache) (ids : List String) :
    (c.deleteContainers ids).nextProvisional = c.nextProvisional :=
  foldl_keeps Cache.nextProvisional deleteContainer_nextProvisional c ids

@[simp] theorem deleteContainers_refreshes (c : Cache) (ids : List String) :
    (c.deleteContainers ids).refreshes = c.refreshes :=
  foldl_keeps Cache.refreshes deleteContainer_refreshes c ids

end PodCache.Cache
