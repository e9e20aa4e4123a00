import PodCache.Proofs.PendingCreation

/-!
# Answered creations

The answer of the runtime to a creation moves the container that waits for it from its
provisional id to the id that the runtime gave it. An answer is rejected for the first of
three reasons that applies, and then changes nothing. One that is accepted settles the
creation: it can be neither answered again nor aborted, under the old id or the new one.
-/

namespace PodCache.Cache

/-! ### Rejected answers -/

/-- Why an answer with the given id is rejected. A reason counts only where those before it
    do not apply. -/
inductive RefusesAnswer (c : Cache) (provisional id : String) : CacheError → Prop where
  /-- The runtime gave no id. -/
  | unnamed (empty : id = "") : RefusesAnswer c provisional id (.emptyContainerId provisional)
  /-- No creation waits under the provisional id. -/
  | settled (named : id ≠ "") (absent : provisional ∉ c.pending) :
      RefusesAnswer c provisional id (.containerNotFound provisional)
  /-- The id is that of a container in the cache, be it the one that waits. -/
  | taken (named : id ≠ "") (waits : provisional ∈ c.pending) (used : id ∈ c.containers) :
      RefusesAnswer c provisional id (.containerIdInUse id)

theorem assignId_of_refused {c : Cache} {provisional : String}
    {response : Cri.CreateContainerResponse} {cause : CacheError}
    (refused : c.RefusesAnswer provisional response.containerId cause) :
    c.assignId provisional response = (.error cause, c) := by
  unfold assignId
  cases refused with
  | unnamed empty => simp [empty]
  | settled named absent => simp [named, absent]
  | taken named waits used => simp [named, waits, used]

/-- Where no creation waits, there is nothing to answer or abort. -/
theorem closed_of_not_pending {c : Cache} {id : String} (absent : id ∉ c.pending) :
    c.abortCreate id = (none, c) ∧
      ∀ response, ∃ cause, c.assignId id response = (.error cause, c) := by
  constructor
  · simp [abortCreate, absent]
  · intro response
    by_cases named : response.containerId = ""
    · exact ⟨_, assignId_of_refused (.unnamed named)⟩
    · exact ⟨_, assignId_of_refused (.settled named absent)⟩

/-! ### Accepted answers -/

/-- The container that waited under the provisional id is stored under the new one, and has
    no other change. Neither id waits for an answer, so that neither can be answered or
    aborted. Whatever has another id is as it was. -/
structure Answered (c : Cache) (provisional id : String) (moved : Container) (after : Cache) :
    Prop where
  container : ∃ k, c.containers[provisional]? = some k ∧ moved = { k with id }
  stored : after.containers[id]? = some moved
  gone : provisional ∉ after.containers
  settled : provisional ∉ after.pending ∧ id ∉ after.pending
  closed : ∀ j, j = provisional ∨ j = id →
    after.abortCreate j = (none, after) ∧
      ∀ response, ∃ cause, after.assignId j response = (.error cause, after)
  otherContainers : ∀ j : String, j ≠ provisional → j ≠ id →
    after.containers[j]? = c.containers[j]?
  otherPending : ∀ j : String, j ≠ provisional → after.pending[j]? = c.pending[j]?
  pods : after.pods = c.pods
  counts : after.counts = c.counts

/-- An answer that no reason speaks against finds its container. -/
theorem assignId_of_free {c : Cache} (valid : c.WellFormed) {provisional : String}
    {response : Cri.CreateContainerResponse} (named : response.containerId ≠ "")
    (waits : provisional ∈ c.pending) (free : response.containerId ∉ c.containers) :
    ∃ k, c.containers[provisional]? = some k ∧
      (c.assignId provisional response).1 = .ok { k with id := response.containerId } := by
  obtain ⟨r, pending⟩ := (Table.mem_iff _ _).1 waits
  have present := valid.pendingContainer provisional r pending
  obtain ⟨k, found⟩ := (Table.mem_iff _ _).1 present
  have pendingKey : c.pending.contains provisional = true :=
    Std.ExtTreeMap.mem_iff_contains.1 waits
  exact ⟨k, found, by simp [assignId, named, pendingKey, free, found]⟩

theorem answered_of_free {c : Cache} (valid : c.WellFormed) {provisional : String}
    {response : Cri.CreateContainerResponse} (named : response.containerId ≠ "")
    (waits : provisional ∈ c.pending) (free : response.containerId ∉ c.containers) :
    ∃ moved, (c.assignId provisional response).1 = .ok moved ∧
      c.Answered provisional response.containerId moved (c.assignId provisional response).2 := by
  obtain ⟨k, found, accepted⟩ := assignId_of_free valid named waits free
  obtain ⟨k', _, _, found', after⟩ := assignId_eq_ok accepted
  rw [found, Option.some.injEq] at found'
  subst found'
  -- The two ids differ, since only the provisional one is in use.
  have different : response.containerId ≠ provisional := by
    intro same
    exact free (same ▸ Table.mem_of_getElem? found)
  have unanswered : response.containerId ∉ c.pending := by
    intro member
    obtain ⟨r, pending⟩ := (Table.mem_iff _ _).1 member
    exact free (valid.pendingContainer _ r pending)
  have settled : provisional ∉ (c.assignId provisional response).2.pending ∧
      response.containerId ∉ (c.assignId provisional response).2.pending := by
    rw [after]
    simp [unanswered]
  refine ⟨_, accepted, ⟨k, found, rfl⟩, ?_, ?_, settled, ?_, ?_, ?_, ?_, ?_⟩
  · rw [after]
    exact Std.ExtTreeMap.getElem?_insert_self
  · rw [after]
    simp [different]
  · intro j either
    rcases either with rfl | rfl
    · exact closed_of_not_pending settled.1
    · exact closed_of_not_pending settled.2
  · intro j other unlike
    rw [after]
    simp only [Table.getElem?_insert, Table.getElem?_erase, other.symm, unlike.symm, if_false]
  · intro j other
    rw [after]
    simp only [Table.getElem?_erase, other.symm, if_false]
  · rw [after]
  · exact c.assignId_counts provisional response

/-! ### Every answer -/

/-- Wherever a run leads, an answer is rejected for the first reason that applies, and then
    leaves the cache as it is. It is accepted if none applies, and then its container is
    moved to the new id, the creation is settled for good, and nothing else changes. -/
theorem run_assignId (steps : List Step) (provisional : String)
    (response : Cri.CreateContainerResponse) :
    let c := run ∅ steps
    let answer := (c.assignId provisional response).1
    let after := (c.assignId provisional response).2
    (∀ cause, answer = .error cause ↔
      c.RefusesAnswer provisional response.containerId cause) ∧
    (∀ cause, answer = .error cause → after = c) ∧
    ((∃ moved, answer = .ok moved) ↔ response.containerId ≠ "" ∧ provisional ∈ c.pending ∧
      response.containerId ∉ c.containers) ∧
    (∀ moved, answer = .ok moved →
      c.Answered provisional response.containerId moved after) := by
  intro c answer after
  have valid : c.WellFormed := WellFormed.run steps
  have outcome : (∃ cause, c.RefusesAnswer provisional response.containerId cause) ∨
      response.containerId ≠ "" ∧ provisional ∈ c.pending ∧
        response.containerId ∉ c.containers := by
    by_cases named : response.containerId = ""
    · exact .inl ⟨_, .unnamed named⟩
    · by_cases waits : provisional ∈ c.pending
      · by_cases free : response.containerId ∈ c.containers
        · exact .inl ⟨_, .taken named waits free⟩
        · exact .inr ⟨named, waits, free⟩
      · exact .inl ⟨_, .settled named waits⟩
  have rejected : ∀ cause, c.RefusesAnswer provisional response.containerId cause →
      answer = .error cause := by
    intro cause refused
    exact congrArg Prod.fst (assignId_of_refused refused)
  refine ⟨?_, ?_, ?_, ?_⟩
  · intro cause
    refine ⟨?_, rejected cause⟩
    intro error
    rcases outcome with ⟨reason, refused⟩ | ⟨named, waits, free⟩
    · have same := (rejected reason refused).symm.trans error
      rw [Except.error.injEq] at same
      exact same ▸ refused
    · obtain ⟨moved, accepted, _⟩ := answered_of_free valid named waits free
      cases error.symm.trans accepted
  · intro cause error
    exact assignId_of_error error
  · constructor
    · rintro ⟨moved, accepted⟩
      refine outcome.resolve_left ?_
      rintro ⟨reason, refused⟩
      cases (rejected reason refused).symm.trans accepted
    · rintro ⟨named, waits, free⟩
      obtain ⟨moved, accepted, _⟩ := answered_of_free valid named waits free
      exact ⟨moved, accepted⟩
  · intro moved accepted
    rcases outcome with ⟨reason, refused⟩ | ⟨named, waits, free⟩
    · cases (rejected reason refused).symm.trans accepted
    · obtain ⟨moved', accepted', answered⟩ := answered_of_free valid named waits free
      have same := accepted.symm.trans accepted'
      rw [Except.ok.injEq] at same
      exact same ▸ answered

end PodCache.Cache
