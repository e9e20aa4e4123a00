import PodCache.Proofs.ContainerRefresh
import PodCache.Proofs.PodRefresh
import PodCache.Proofs.RejectedEvent

/-!
# Pending creations

A creation that begins is noted together with the number of refreshes done. That note stays
for as long as the creation is pending, and an id is never pending a second time. So a
creation that nobody ends lives through one refresh of the containers and is removed by the
next, whatever else happens and whatever the runtime lists.
-/

namespace PodCache

/-! ### When a creation began -/

/-- What is pending after an edit was pending before, or has just been given its id. -/
theorem Edit.pending_cases {brought asked : String → Prop} {c c' : Cache} {id : String} {r : Nat}
    (edit : Edit brought asked c c') (pending : c'.pending[id]? = some r) :
    c.pending[id]? = some r ∨ id = Cache.provisionalId c.nextProvisional ∧ r = c.refreshes := by
  cases edit with
  | runPod | findPod | movePod | notePods | findContainer | moveContainer | endRefresh =>
    exact .inl pending
  | dropPod known =>
    simp only [Std.ExtTreeMap.getElem?_filter', Option.filter_eq_some_iff] at pending
    exact .inl pending.1
  | createContainer owner built =>
    rcases Table.insert_cases pending with ⟨rfl, rfl⟩ | pending
    · exact .inr ⟨rfl, rfl⟩
    · exact .inl pending
  | assignId | dropContainer => exact .inl (Table.of_erase pending).2

namespace Edits

variable {brought asked : String → Prop} {c c' : Cache} {id : String} {r : Nat}

/-- An id that has been given out is pending since then or not at all. -/
theorem pending_of_issued (edits : Edits brought asked c c') (issued : c.Issued id)
    (pending : c'.pending[id]? = some r) : c.pending[id]? = some r := by
  induction edits with
  | refl => exact pending
  | tail before edit ih =>
    rcases edit.pending_cases pending with earlier | ⟨rfl, _⟩
    · exact ih earlier
    · have old := issued.mono (Edits.nextProvisional_le before)
      exact absurd old (Cache.not_issued (Nat.le_refl _))

/-- What was not pending before, is pending since a later time. -/
theorem pending_cases (edits : Edits brought asked c c') (pending : c'.pending[id]? = some r) :
    c.pending[id]? = some r ∨ c.refreshes ≤ r := by
  induction edits with
  | refl => exact .inl pending
  | tail before edit ih =>
    rcases edit.pending_cases pending with earlier | ⟨_, rfl⟩
    · exact ih earlier
    · exact .inr (Edits.refreshes_le before)

end Edits

namespace Cache

theorem run_edits (c : Cache) (steps : List Step) : AnyEdits c (c.run steps) := by
  induction steps generalizing c with
  | nil => exact .refl
  | cons step steps ih => exact (step.anyEdits c).trans (ih _)

/-- The creation under the id is pending and began after the last container refresh of the
    run: since a time at which it was not pending, there has been no refresh. -/
def PendingSinceRefresh (steps : List Step) (id : String) : Prop :=
  id ∈ (run ∅ steps).pending ∧
    ∃ before after, steps = before ++ after ∧ id ∉ (run ∅ before).pending ∧
      ∀ step ∈ after, step.isContainerRefresh = false

/-- After a refresh each pending creation has been spared once. -/
theorem lt_refreshes_of_refresh {c : Cache} (valid : c.WellFormed) {step : Step}
    (refresh : step.isContainerRefresh = true) {id : String} {r : Nat}
    (pending : (step.apply c).pending[id]? = some r) : r < (step.apply c).refreshes := by
  have refreshed : ∃ reply, step.apply c = (c.refreshContainers reply).2 := by
    unfold Step.isContainerRefresh at refresh
    split at refresh
    · exact ⟨_, rfl⟩
    · exact ⟨_, rfl⟩
    · cases refresh
  obtain ⟨reply, refreshed⟩ := refreshed
  rw [refreshed] at pending ⊢
  have counted := c.refreshContainers_counts reply
  simp only [counts, Prod.mk.injEq] at counted
  rw [((refreshContainers_pending valid reply id r).1 pending).2, counted.2]
  exact Nat.lt_succ_self _

theorem pendingSinceRefresh_of_pending {steps : List Step} {id : String}
    (pending : (run ∅ steps).pending[id]? = some (run ∅ steps).refreshes) :
    PendingSinceRefresh steps id := by
  refine ⟨Table.mem_of_getElem? pending, ?_⟩
  induction steps using List.reverseRecOn with
  | nil => cases pending
  | append_singleton steps step ih =>
    have last : run ∅ (steps ++ [step]) = step.apply (run ∅ steps) := run_append ..
    rw [last] at pending
    have calm : step.isContainerRefresh = false := by
      by_contra refresh
      have late := lt_refreshes_of_refresh (WellFormed.run steps) (by simpa using refresh) pending
      exact Nat.lt_irrefl _ late
    have same := step.apply_refreshes (run ∅ steps)
    rw [calm] at same
    by_cases known : id ∈ (run ∅ steps).pending
    · -- The creation was pending before the last step, under the same note.
      have edits := step.anyEdits (run ∅ steps)
      have earlier := edits.pending_of_issued (pending_issued steps known) pending
      rw [same] at earlier
      obtain ⟨before, after, rfl, absent, none⟩ := ih earlier
      refine ⟨before, after ++ [step], by simp, absent, ?_⟩
      intro later member
      rcases List.mem_append.1 member with member | member
      · exact none later member
      · rw [List.mem_singleton.1 member, calm]
    · refine ⟨steps, [step], rfl, known, ?_⟩
      intro later member
      rw [List.mem_singleton.1 member, calm]

theorem PendingSinceRefresh.pending {steps : List Step} {id : String}
    (fresh : PendingSinceRefresh steps id) :
    (run ∅ steps).pending[id]? = some (run ∅ steps).refreshes := by
  obtain ⟨member, before, after, rfl, absent, none⟩ := fresh
  obtain ⟨r, pending⟩ := (Table.mem_iff _ _).1 member
  have since := (WellFormed.run (before ++ after)).pendingSince id r pending
  have counted := run_refreshes after (run ∅ before)
  rw [List.countP_eq_zero.2 (by simpa using none), ← run_append] at counted
  rw [run_append] at pending
  rcases ((run ∅ before).run_edits after).pending_cases pending with earlier | later
  · exact absurd (Table.mem_of_getElem? earlier) absent
  · rw [run_append, pending]
    rw [run_append] at since counted
    congr 1
    omega

theorem pending_eq_refreshes_iff (steps : List Step) (id : String) :
    (run ∅ steps).pending[id]? = some (run ∅ steps).refreshes ↔
      PendingSinceRefresh steps id :=
  ⟨pendingSinceRefresh_of_pending, PendingSinceRefresh.pending⟩

/-- Wherever a run leads, a refresh with any list of containers makes of the cache what the
    list says, and keeps the creations that began after the refresh before it. -/
theorem run_refreshContainers (steps : List Step) (reply : Cri.ListContainersResponse) :
    let c := run ∅ steps
    c.ContainersRefreshed (PendingSinceRefresh steps) reply (c.refreshContainers reply).1
      (c.refreshContainers reply).2 := by
  have refreshed := refreshContainers_refreshed (WellFormed.run steps) reply
  simpa only [pending_eq_refreshes_iff] using refreshed

end Cache

/-! ### What ends a creation -/

/-- The step, taken in the cache, removes the container under the id, moves it to another id,
    or removes its pod. -/
def Step.Ends (c : Cache) (id : String) : Step → Prop
  | call (.deleteContainer k) => k = id ∧ (c.deleteContainer k).1.isSome
  | replay (.removeContainer k) => k = id ∧ (c.deleteContainer k).1.isSome
  | call (.abortCreate k) => k = id ∧ (c.abortCreate k).1.isSome
  | call (.assignId k response) => k = id ∧ ∃ moved, (c.assignId k response).1 = .ok moved
  | call (.deletePod podId) => ∃ k, c.containers[id]? = some k ∧ k.podId = podId
  | replay (.removePodSandbox podId) => ∃ k, c.containers[id]? = some k ∧ k.podId = podId
  | call (.refreshPods reply) | replay (.listPodSandbox reply) =>
    ¬ c.Halts reply ∧ ∃ k, c.containers[id]? = some k ∧ reply.entriesFor k.podId = []
  | _ => False

namespace Cache

/-- None of the steps, taken one after the other from the cache, ends the creation. -/
def Undisturbed (id : String) : Cache → List Step → Prop
  | _, [] => True
  | c, step :: steps => ¬ step.Ends c id ∧ Undisturbed id (step.apply c) steps

/-- The creation that waits for an answer under the id: the pod of its container, and the
    number of refreshes that had been done when it began. -/
def creation (c : Cache) (id : String) : Option (String × Nat) :=
  c.containers[id]?.bind fun k => c.pending[id]?.map fun r => (k.podId, r)

theorem creation_eq_some_iff {c : Cache} {id owner : String} {r : Nat} :
    c.creation id = some (owner, r) ↔
      (∃ k, c.containers[id]? = some k ∧ k.podId = owner) ∧ c.pending[id]? = some r := by
  simp only [creation, Option.bind_eq_some_iff, Option.map_eq_some_iff, Prod.mk.injEq]
  constructor
  · rintro ⟨k, found, _, pending, own, rfl⟩
    exact ⟨⟨k, found, own⟩, pending⟩
  · rintro ⟨⟨k, found, own⟩, pending⟩
    exact ⟨k, found, r, pending, own, rfl⟩

theorem creation_congr {c c' : Cache} (containers : c'.containers = c.containers)
    (pending : c'.pending = c.pending) (id : String) : c'.creation id = c.creation id := by
  rw [creation, creation, containers, pending]

theorem runPod_creation (c : Cache) (podId : String) (request : Cri.RunPodSandboxRequest)
    (id : String) : (c.runPod podId request).2.creation id = c.creation id := by
  unfold runPod
  split <;> rfl

theorem upsertPod_creation (c : Cache) (sandbox : Cri.PodSandbox) (id : String) :
    (c.upsertPod sandbox).2.creation id = c.creation id :=
  creation_congr (upsertPod_containers c sandbox) (upsertPod_pending c sandbox) id

theorem createContainer_creation (c : Cache) (request : Cri.CreateContainerRequest)
    {id : String} (issued : c.Issued id) :
    (c.createContainer request).2.creation id = c.creation id := by
  have other : provisionalId c.nextProvisional ≠ id := by
    rintro rfl
    exact not_issued (Nat.le_refl _) issued
  cases answer : (c.createContainer request).1 with
  | error e => rw [createContainer_of_error answer]
  | ok new =>
    obtain ⟨rfl, _, container, _, _, created⟩ := createContainer_eq_ok answer
    simp only [created, creation, Table.getElem?_insert_of_ne _ _ other]

theorem deleteContainer_creation (c : Cache) {k id : String} (other : k ≠ id) :
    (c.deleteContainer k).2.creation id = c.creation id := by
  simp [creation, deleteContainer_containers, deleteContainer_pending, other]

/-- An answer that is accepted moves its container to an id that was free. -/
theorem assignId_eq_ok {c : Cache} {k : String} {response : Cri.CreateContainerResponse}
    {moved : Container} (accepted : (c.assignId k response).1 = .ok moved) :
    ∃ container, k ∈ c.pending ∧ response.containerId ∉ c.containers ∧
      c.containers[k]? = some container ∧ (c.assignId k response).2 = { c with
        containers := (c.containers.erase k).insert response.containerId
          { container with id := response.containerId }
        pending := c.pending.erase k } := by
  unfold assignId at accepted ⊢
  dsimp only at accepted ⊢
  split at accepted
  · cases accepted
  · split at accepted
    · cases accepted
    · rename_i named pending
      split at accepted
      · cases accepted
      · rename_i free
        split at accepted
        · cases accepted
        · rename_i container found
          refine ⟨container, by simpa using pending, by simpa using free, found, ?_⟩
          simp [named, pending, free]

section Present

variable {c : Cache} {id : String} {container : Container}
  (found : c.containers[id]? = some container)
include found

theorem deletePod_creation {podId : String} (other : container.podId ≠ podId) :
    (c.deletePod podId).2.creation id = c.creation id := by
  unfold deletePod
  split
  · rfl
  · have kept : (c.containers.filter fun _ k => k.podId != podId)[id]? = some container := by
      rw [Table.getElem?_filter_of_forall, found]
      intro k present
      rw [found, Option.some.injEq] at present
      simpa [← present] using other
    have contained := Std.ExtTreeMap.mem_iff_contains.1 (Table.mem_of_getElem? kept)
    simp only [creation, kept, found]
    rw [Table.getElem?_filter_of_forall fun _ _ => contained]

theorem refreshPods_creation (valid : c.WellFormed) {reply : Cri.ListPodSandboxResponse}
    (kept : ¬ c.Halts reply → reply.entriesFor container.podId ≠ []) :
    (c.refreshPods reply).2.creation id = c.creation id := by
  by_cases halts : c.Halts reply
  · obtain ⟨-, _, _, _, -, -, -, taken⟩ := refreshPods_of_halts halts
    exact creation_congr taken.containers taken.pending id
  · have owned := reconcilePods_owned valid reply
    have owner : container.podId ∈ (c.reconcilePods reply).2.pods :=
      (mem_reconcilePods halts _).2 ⟨kept halts, .inl (valid.owner id container found)⟩
    have present : (c.reconcilePods reply).2.containers[id]? = some container := by
      rw [owned.1, Table.getElem?_filter_of_forall, found]
      intro k present
      rw [found, Option.some.injEq] at present
      exact present ▸ Std.ExtTreeMap.mem_iff_contains.1 owner
    have contained := Std.ExtTreeMap.mem_iff_contains.1 (Table.mem_of_getElem? present)
    have pending : (c.reconcilePods reply).2.pending[id]? = c.pending[id]? := by
      rw [owned.2, Table.getElem?_filter_of_forall fun _ _ => contained]
    rw [refreshPods_of_not_halts halts, creation, creation, present, found, pending]

theorem abortCreate_creation {k : String} (waits : id ∈ c.pending)
    (undisturbed : ¬ (k = id ∧ (c.abortCreate k).1.isSome)) :
    (c.abortCreate k).2.creation id = c.creation id := by
  obtain ⟨r, pending⟩ := (Table.mem_iff _ _).1 waits
  have other : k ≠ id := by
    rintro rfl
    simp [abortCreate, pending, found] at undisturbed
  unfold abortCreate
  split
  · rfl
  · simp [creation, Table.getElem?_erase, other]

theorem assignId_creation {k : String} {response : Cri.CreateContainerResponse}
    (undisturbed : ¬ (k = id ∧ ∃ moved, (c.assignId k response).1 = .ok moved)) :
    (c.assignId k response).2.creation id = c.creation id := by
  cases answer : (c.assignId k response).1 with
  | error e => rw [assignId_of_error answer]
  | ok moved =>
    obtain ⟨_, _, free, _, assigned⟩ := assignId_eq_ok answer
    have other : k ≠ id := fun same => undisturbed ⟨same, moved, answer⟩
    have unlike : response.containerId ≠ id := by
      rintro rfl
      exact free (Table.mem_of_getElem? found)
    simp [assigned, creation, Table.getElem?_insert, Table.getElem?_erase, other, unlike]

theorem upsertContainer_creation (entry : Cri.Container) :
    (c.upsertContainer entry).2.creation id = c.creation id := by
  have moved : ∃ k, (c.upsertContainer entry).2.containers[id]? = some k ∧
      k.podId = container.podId := by
    rw [upsertContainer_containers, found]
    split
    · split
      · exact ⟨_, rfl, rfl⟩
      · exact ⟨_, rfl, rfl⟩
    · exact ⟨_, rfl, rfl⟩
  obtain ⟨k, stays, own⟩ := moved
  simp only [creation, stays, found, upsertContainer_pending, Option.bind_some, own]

theorem refreshContainers_creation (valid : c.WellFormed)
    (fresh : c.pending[id]? = some c.refreshes) (reply : Cri.ListContainersResponse) :
    (c.refreshContainers reply).2.creation id = c.creation id := by
  have refreshed := refreshContainers_refreshed valid reply
  obtain ⟨kept, stays⟩ := (Table.mem_iff _ _).1 ((refreshed.cached id).2 (.inl fresh))
  have waits := (refreshed.pending id c.refreshes).2 ⟨fresh, fresh⟩
  rw [creation, creation, stays, waits, fresh, found, refreshed.known id container kept found stays]
  rfl

end Present

end Cache

/-! ### Steps that leave a creation alone -/

section Step

variable {c : Cache} {id owner : String} {r : Nat}

theorem Query.apply_creation (query : Query) : (query.apply c).creation id = c.creation id := by
  cases query with
  | containerClass containerId =>
    simp only [Query.apply, Cache.containerClass]
    split <;> rfl
  | _ => rfl

variable (waits : c.creation id = some (owner, r))
include waits

/-- The answer to one creation leaves every other creation alone. -/
theorem Replay.settleCreate_creation {k : String} (other : k ≠ id)
    (response : Option Cri.CreateContainerResponse) (error : Option String) :
    (settleCreate c k response error).2.creation id = some (owner, r) := by
  obtain ⟨⟨container, found, _⟩, pending⟩ := Cache.creation_eq_some_iff.1 waits
  have aborted := Cache.abortCreate_creation found (Table.mem_of_getElem? pending)
    fun ended => other ended.1
  cases error with
  | some error => exact aborted.trans waits
  | none =>
    cases response with
    | none => exact waits
    | some response =>
      have assigned := @Cache.assignId_creation c id container found k response
        fun ended => other ended.1
      rw [settleCreate_response]
      cases answer : (c.assignId k response).1 with
      | ok moved => exact assigned.trans waits
      | error e =>
        dsimp only
        rw [Cache.assignId_of_error answer]
        exact aborted.trans waits

variable (valid : c.WellFormed) (issued : c.Issued id)
include valid issued

theorem Operation.apply_creation (operation : Operation)
    (undisturbed : ¬ (Step.call operation).Ends c id)
    (fresh : (Step.call operation).isContainerRefresh = true → r = c.refreshes) :
    (operation.apply c).creation id = some (owner, r) := by
  obtain ⟨⟨container, found, own⟩, pending⟩ := Cache.creation_eq_some_iff.1 waits
  rw [← waits]
  cases operation with
  | runPod podId request => exact c.runPod_creation podId request id
  | listPod sandbox =>
    rw [Operation.apply, Cache.listPod_snd]
    exact c.upsertPod_creation sandbox id
  | deletePod podId =>
    exact Cache.deletePod_creation found fun same => undisturbed ⟨container, found, same⟩
  | createContainer request => exact c.createContainer_creation request issued
  | assignId k response => exact Cache.assignId_creation found undisturbed
  | abortCreate k =>
    exact Cache.abortCreate_creation found (Table.mem_of_getElem? pending) undisturbed
  | listContainer entry =>
    rw [Operation.apply, Cache.listContainer_snd]
    exact Cache.upsertContainer_creation found entry
  | deleteContainer k =>
    apply c.deleteContainer_creation
    rintro rfl
    exact undisturbed ⟨rfl, by simp [Cache.deleteContainer, found]⟩
  | refreshPods reply =>
    exact Cache.refreshPods_creation found valid
      fun goes unlisted => undisturbed ⟨goes, container, found, unlisted⟩
  | refreshContainers reply =>
    rw [fresh rfl] at pending
    exact Cache.refreshContainers_creation found valid pending reply

theorem Replay.Event.apply_creation (event : Replay.Event)
    (undisturbed : ¬ (Step.replay event).Ends c id)
    (fresh : (Step.replay event).isContainerRefresh = true → r = c.refreshes) :
    (event.apply c).2.creation id = some (owner, r) := by
  have call := Operation.apply_creation waits valid issued
  cases event with
  | runPodSandbox podId request => exact call (.runPod podId request) undisturbed fresh
  | listPodSandbox reply => exact call (.refreshPods reply) undisturbed fresh
  | removePodSandbox podId => exact call (.deletePod podId) undisturbed fresh
  | createContainer request response error =>
    have created := (c.createContainer_creation request issued).trans waits
    rw [Replay.Event.apply_createContainer]
    cases answer : (c.createContainer request).1 with
    | error e => exact created
    | ok k =>
      refine Replay.settleCreate_creation created ?_ response error
      rintro rfl
      rw [(Cache.createContainer_eq_ok answer).1] at issued
      exact Cache.not_issued (Nat.le_refl _) issued
  | listContainers reply => exact call (.refreshContainers reply) undisturbed fresh
  | removeContainer k => exact call (.deleteContainer k) undisturbed fresh

theorem Step.apply_creation (step : Step) (undisturbed : ¬ step.Ends c id)
    (fresh : step.isContainerRefresh = true → r = c.refreshes) :
    (step.apply c).creation id = some (owner, r) := by
  cases step with
  | call operation =>
    exact operation.apply_creation waits valid issued undisturbed fresh
  | ask query => exact query.apply_creation.trans waits
  | replay event => exact event.apply_creation waits valid issued undisturbed fresh

end Step

namespace Cache

/-- A creation that is not ended stays as it is until the second refresh. -/
theorem run_creation {c : Cache} {id owner : String} {r : Nat} {steps : List Step}
    (valid : c.WellFormed) (issued : c.Issued id) (waits : c.creation id = some (owner, r))
    (undisturbed : Undisturbed id c steps)
    (early : c.refreshes + steps.countP Step.isContainerRefresh ≤ r + 1) :
    (c.run steps).creation id = some (owner, r) := by
  induction steps generalizing c with
  | nil => exact waits
  | cons step steps ih =>
    obtain ⟨kept, undisturbed⟩ := undisturbed
    have edits := step.anyEdits c
    have since := valid.pendingSince id r (creation_eq_some_iff.1 waits).2
    rw [List.countP_cons] at early
    have fresh : step.isContainerRefresh = true → r = c.refreshes := by
      intro refresh
      rw [if_pos refresh] at early
      omega
    have stays := step.apply_creation waits valid issued kept fresh
    apply ih (valid.edits edits) (issued.mono (Edits.nextProvisional_le edits)) stays undisturbed
    rw [step.apply_refreshes]
    omega

/-- A creation that is not pending any more never is again, and cannot be answered. -/
theorem run_settled {c : Cache} {id : String} (issued : c.Issued id) (settled : id ∉ c.pending)
    (steps : List Step) :
    id ∉ (c.run steps).pending ∧
      (∀ response : Cri.CreateContainerResponse, response.containerId ≠ "" →
        ((c.run steps).assignId id response).1 = .error (.containerNotFound id)) ∧
      ((c.run steps).abortCreate id).1 = none := by
  have absent : id ∉ (c.run steps).pending := by
    intro member
    obtain ⟨r, pending⟩ := (Table.mem_iff _ _).1 member
    exact settled (Table.mem_of_getElem? ((c.run_edits steps).pending_of_issued issued pending))
  refine ⟨absent, ?_, ?_⟩
  · intro response named
    have unknown : (c.run steps).pending.contains id = false := by
      simpa [← Bool.not_eq_true] using absent
    simp [assignId, named, unknown]
  · simp [abortCreate, absent]

/-- The second refresh removes a creation that the first one has spared, whatever it lists. -/
theorem refreshContainers_removes {c : Cache} {id owner : String} {r : Nat}
    (valid : c.WellFormed) (waits : c.creation id = some (owner, r)) (late : r < c.refreshes)
    (reply : Cri.ListContainersResponse) :
    id ∈ (c.refreshContainers reply).1.removed ∧ id ∉ (c.refreshContainers reply).2.containers ∧
      id ∉ (c.refreshContainers reply).2.pending := by
  obtain ⟨⟨container, found, _⟩, pending⟩ := creation_eq_some_iff.1 waits
  have refreshed := refreshContainers_refreshed valid reply
  have stale : c.pending[id]? ≠ some c.refreshes := by
    rw [pending, Ne, Option.some.injEq]
    exact Nat.ne_of_lt late
  have present := Table.mem_of_getElem? found
  have gone : id ∉ (c.refreshContainers reply).2.containers := by
    rw [refreshed.cached]
    rintro (fresh | ⟨_, settled, _⟩ | ⟨absent, _⟩)
    · exact stale fresh
    · exact settled (Table.mem_of_getElem? pending)
    · exact absent present
  refine ⟨(refreshed.removed id).2 ⟨present, gone⟩, gone, ?_⟩
  intro member
  obtain ⟨since, still⟩ := (Table.mem_iff _ _).1 member
  exact stale ((refreshed.pending id since).1 still).2

/-- A creation that has been accepted and that no later step ends is pending with its
    container in the cache until the second container refresh from then. That refresh removes
    the container and reports it, whatever it lists. Thereafter the creation can neither be
    answered nor aborted. -/
theorem run_unanswered_creation (steps : List Step) (request : Cri.CreateContainerRequest)
    (id : String) (accepted : ((run ∅ steps).createContainer request).1 = .ok id)
    (later : List Step)
    (undisturbed : Undisturbed id ((run ∅ steps).createContainer request).2 later) :
    let c := ((run ∅ steps).createContainer request).2.run later
    let refreshed := later.countP Step.isContainerRefresh
    (refreshed ≤ 1 → id ∈ c.containers ∧ id ∈ c.pending) ∧
    (refreshed = 1 → ∀ reply : Cri.ListContainersResponse,
      let after := (c.refreshContainers reply).2
      id ∈ (c.refreshContainers reply).1.removed ∧ id ∉ after.containers ∧
      ∀ rest : List Step,
        id ∉ (after.run rest).pending ∧
        (∀ response : Cri.CreateContainerResponse, response.containerId ≠ "" →
          ((after.run rest).assignId id response).1 = .error (.containerNotFound id)) ∧
        ((after.run rest).abortCreate id).1 = none) := by
  intro c refreshed
  have valid := (WellFormed.run steps).edits (createContainer_edits _ request)
  obtain ⟨issued, _, container, _, _, created⟩ := createContainer_eq_ok accepted
  have given : ((run ∅ steps).createContainer request).2.Issued id := by
    rw [created, issued]
    exact ⟨_, Nat.lt_succ_self _, rfl⟩
  have started : ((run ∅ steps).createContainer request).2.creation id =
      some (container.podId, (run ∅ steps).refreshes) := by
    simp [created, creation]
  have same : ((run ∅ steps).createContainer request).2.refreshes = (run ∅ steps).refreshes := by
    rw [created]
  have counted : c.refreshes = (run ∅ steps).refreshes + refreshed := by
    rw [← same]
    exact run_refreshes later _
  have waits : refreshed ≤ 1 → c.creation id = some (container.podId, (run ∅ steps).refreshes) := by
    intro early
    exact run_creation valid given started undisturbed (by omega)
  constructor
  · intro early
    obtain ⟨⟨_, found, _⟩, pending⟩ := creation_eq_some_iff.1 (waits early)
    exact ⟨Table.mem_of_getElem? found, Table.mem_of_getElem? pending⟩
  · intro once reply after
    have wellFormed : c.WellFormed := valid.edits (run_edits _ later)
    have late : (run ∅ steps).refreshes < c.refreshes := by omega
    obtain ⟨reported, gone, settled⟩ :=
      refreshContainers_removes wellFormed (waits (by omega)) late reply
    have edits : AnyEdits ((run ∅ steps).createContainer request).2 after :=
      (run_edits _ later).trans (c.refreshContainers_edits reply fun _ _ => trivial)
    have known : after.Issued id := given.mono (Edits.nextProvisional_le edits)
    exact ⟨reported, gone, fun rest => run_settled known settled rest⟩

/-- A creation under the first provisional id. -/
def firstCreation : Except CacheError String × Cache :=
  (run ∅ runOfPod).createContainer (.named "p" "init")

/-- Steps with one refresh that do not end this creation. -/
def runAroundCreation : List Step :=
  [.call (.listContainer (.named "p" "cache:0" "app")), .replay createC1,
    .call (.refreshContainers {})]

/-- The creation lives through these steps. The next refresh removes it, although the runtime
    lists a container under its id. -/
theorem run_unanswered_creation_listed :
    firstCreation.1 = .ok "cache:0" ∧ Undisturbed "cache:0" firstCreation.2 runAroundCreation ∧
      "cache:0" ∈ (firstCreation.2.run runAroundCreation).pending ∧
      "cache:0" ∈ ((firstCreation.2.run runAroundCreation).refreshContainers
        { containers := [.named "p" "cache:0" "app"] }).1.removed := by
  have accepted : firstCreation.1 = .ok "cache:0" := by rfl
  have undisturbed : Undisturbed "cache:0" firstCreation.2 runAroundCreation := by
    simp [Undisturbed, runAroundCreation, createC1, Step.Ends]
  have once : runAroundCreation.countP Step.isContainerRefresh = 1 := by rfl
  have unanswered := run_unanswered_creation runOfPod _ _ accepted runAroundCreation undisturbed
  have waits := (unanswered.1 (Nat.le_of_eq once)).2
  have removed := (unanswered.2 once { containers := [.named "p" "cache:0" "app"] }).1
  exact ⟨accepted, undisturbed, waits, removed⟩

end Cache

end PodCache
