import PodCache.Proofs.ProvisionalId

/-!
# Rejected events

An event that the cache rejects, and a creation at which the runtime failed, leave
everything in the cache as it was. For a creation this is not immediate: its container
is added, and taken out again. That restores the cache because the provisional id was
free, which it is as long as the runtime does not use ids that look provisional.
-/

namespace PodCache

namespace Cache

/-! ### Ids that the runtime must not use -/

/-- The id starts like a provisional one. -/
def Reserved (id : String) : Prop := id.startsWith provisionalPrefix = true

theorem reserved_provisionalId (n : Nat) : Reserved (provisionalId n) := by
  unfold Reserved provisionalId
  rw [String.startsWith_string_iff, String.toList_append]
  exact List.prefix_append _ _

/-- No step brings a reserved id from the runtime. -/
def Unreserved (steps : List Step) : Prop :=
  ∀ step ∈ steps, ∀ id ∈ step.runtimeIds, ¬ Reserved id

/-- Where no id in the cache looks provisional but those given out, the next one is in no
    use. -/
theorem IdsFrom.next_free {c : Cache} (valid : c.IdsFrom fun id => ¬ Reserved id) :
    provisionalId c.nextProvisional ∉ c.containers ∧
      provisionalId c.nextProvisional ∉ c.pending := by
  have fresh := @not_issued c _ (Nat.le_refl _)
  constructor
  · intro member
    rcases valid.container _ member with named | issued
    · exact named (reserved_provisionalId _)
    · exact fresh issued
  · intro member
    exact fresh (valid.pending _ member)

theorem next_free {steps : List Step} (unreserved : Unreserved steps) :
    let c := run ∅ steps
    provisionalId c.nextProvisional ∉ c.containers ∧
      provisionalId c.nextProvisional ∉ c.pending :=
  (IdsFrom.run unreserved).next_free

/-- There a creation that is accepted adds its container to those of the cache. -/
theorem createContainer_adds {steps : List Step} (unreserved : Unreserved steps)
    {request : Cri.CreateContainerRequest} {id : String}
    (accepted : ((run ∅ steps).createContainer request).1 = .ok id) :
    (run ∅ steps).AddsContainer ((run ∅ steps).createContainer request).2 id := by
  obtain ⟨rfl, _, container, _, _, created⟩ := createContainer_eq_ok accepted
  have free := (next_free unreserved).1
  exact .of_insert free (congrArg containers created) (congrArg pending created)

/-! ### Operations that are accepted or rejected -/

theorem runPod_eq_ok {c : Cache} {id : String} {request : Cri.RunPodSandboxRequest}
    {pod : Pod} (accepted : (c.runPod id request).1 = .ok pod) :
    Pod.ofRunRequest id request = .ok pod ∧
      (c.runPod id request).2 = { c with pods := c.pods.insert id pod } := by
  unfold runPod at accepted ⊢
  cases built : Pod.ofRunRequest id request with
  | ok new =>
    simp only [built, Outcome.ok.injEq] at accepted
    simp [accepted]
  | error e => simp [built] at accepted
  | stop => simp [built] at accepted

/-- A request that makes no pod changes nothing, be it rejected or not settled at all. -/
theorem runPod_of_not_ok {c : Cache} {id : String} {request : Cri.RunPodSandboxRequest}
    (unmade : ∀ pod, (c.runPod id request).1 ≠ .ok pod) : (c.runPod id request).2 = c := by
  unfold runPod at unmade ⊢
  cases built : Pod.ofRunRequest id request with
  | ok pod =>
    rw [built] at unmade
    exact absurd rfl (unmade pod)
  | error e => rfl
  | stop => rfl

theorem createContainer_of_error {c : Cache} {request : Cri.CreateContainerRequest}
    {cause : CacheError} (rejected : (c.createContainer request).1 = .error cause) :
    (c.createContainer request).2 = c := by
  unfold createContainer at rejected ⊢
  split
  · rfl
  · dsimp only
    split
    · rfl
    · simp [*] at rejected

theorem assignId_of_error {c : Cache} {id : String} {response : Cri.CreateContainerResponse}
    {cause : CacheError} (rejected : (c.assignId id response).1 = .error cause) :
    (c.assignId id response).2 = c := by
  unfold assignId at rejected ⊢
  dsimp only at rejected ⊢
  split
  · rfl
  · split
    · rfl
    · split
      · rfl
      · split
        · rfl
        · simp [*] at rejected

/-- Aborting a creation at once takes back all of it but its provisional id. -/
theorem abortCreate_createContainer {c : Cache} {request : Cri.CreateContainerRequest}
    {id : String} (accepted : (c.createContainer request).1 = .ok id)
    (free : id ∉ c.containers) (settled : id ∉ c.pending) :
    ((c.createContainer request).2.abortCreate id).2 =
      { c with nextProvisional := c.nextProvisional + 1 } := by
  obtain ⟨_, _, container, _, _, created⟩ := createContainer_eq_ok accepted
  simp only [created, abortCreate, Std.ExtTreeMap.getElem?_insert_self]
  rw [Table.erase_insert container free, Table.erase_insert c.refreshes settled]

end Cache

namespace Replay

/-- The runtime failed to create the container of the event. -/
def Event.runtimeFailed : Event → Bool
  | createContainer _ _ error => error.isSome
  | _ => false

/-- A creation that failed, or whose answer is rejected, is aborted. -/
theorem settleCreate_of_failed {c : Cache} {id : String}
    {response : Option Cri.CreateContainerResponse} {error : Option String}
    (failed : (∃ cause, (settleCreate c id response error).1 = .error cause) ∨
      error.isSome = true) :
    (settleCreate c id response error).2 = (c.abortCreate id).2 := by
  cases error with
  | some error => rfl
  | none =>
    have rejected := failed.resolve_right (by simp)
    obtain ⟨cause, rejected⟩ := rejected
    cases response with
    | none => cases rejected
    | some response =>
      rw [settleCreate_response] at rejected ⊢
      cases answer : (c.assignId id response).1 with
      | ok container =>
        rw [answer] at rejected
        cases rejected
      | error e =>
        dsimp only
        rw [Cache.assignId_of_error answer]

/-- An event that is rejected, or records that the runtime failed, changes nothing in a
    cache but the number of provisional ids, provided that the next one is in no use. -/
theorem Event.apply_of_failed {c : Cache} {event : Event}
    (free : Cache.provisionalId c.nextProvisional ∉ c.containers)
    (settled : Cache.provisionalId c.nextProvisional ∉ c.pending)
    (failed : (∃ cause, (event.apply c).1 = .error cause) ∨ event.runtimeFailed = true) :
    ∃ n, c.nextProvisional ≤ n ∧ (event.apply c).2 = { c with nextProvisional := n } := by
  cases event with
  | runPodSandbox id request =>
    rcases failed with ⟨cause, rejected⟩ | recorded
    · have unmade : ∀ pod, (c.runPod id request).1 ≠ .ok pod := by
        intro pod accepted
        simp [Event.apply, accepted] at rejected
      exact ⟨c.nextProvisional, Nat.le_refl _, Cache.runPod_of_not_ok unmade⟩
    · cases recorded
  | listPodSandbox reply =>
    rcases failed with ⟨cause, rejected⟩ | recorded
    · simp only [Event.apply] at rejected
      -- No entry of a list is an error.
      cases answer : (c.refreshPods reply).1 with
      | ok changes => simp [answer] at rejected
      | error e => exact e.elim
      | stop => simp [answer] at rejected
    · cases recorded
  | createContainer request response error =>
    rw [Event.apply_createContainer] at failed ⊢
    cases answer : (c.createContainer request).1 with
    | error e =>
      exact ⟨c.nextProvisional, Nat.le_refl _, Cache.createContainer_of_error answer⟩
    | ok id =>
      simp only [answer, Outcome.ofExcept_eq_error_iff] at failed
      have aborted := settleCreate_of_failed failed
      have issued := (Cache.createContainer_eq_ok answer).1
      rw [← issued] at free settled
      refine ⟨c.nextProvisional + 1, Nat.le_succ _, ?_⟩
      exact aborted.trans (Cache.abortCreate_createContainer answer free settled)
  | _ =>
    rcases failed with ⟨cause, rejected⟩ | recorded
    · cases rejected
    · cases recorded

end Replay

namespace Cache

/-- In a run in which the runtime keeps off the ids that start like provisional ones, an
    event that is rejected, or records that the runtime failed to create its container,
    leaves the pods, the containers, the pending creations and the count of refreshes as
    they are. At most the count of provisional ids grows. -/
theorem run_failed_event_keeps (steps : List Step) (unreserved : Unreserved steps)
    (event : Replay.Event)
    (failed : (∃ cause, (event.apply (run ∅ steps)).1 = .error cause) ∨
      event.runtimeFailed = true) :
    let c := run ∅ steps
    let after := (event.apply c).2
    after.pods = c.pods ∧ after.containers = c.containers ∧ after.pending = c.pending ∧
      after.refreshes = c.refreshes ∧ c.nextProvisional ≤ after.nextProvisional := by
  intro c after
  obtain ⟨free, settled⟩ := next_free unreserved
  obtain ⟨n, grown, same⟩ := event.apply_of_failed free settled failed
  have kept : after = { c with nextProvisional := n } := same
  rw [kept]
  exact ⟨rfl, rfl, rfl, rfl, grown⟩

/-- The creation of a container to which the runtime gives the id `c1`. -/
def createC1 : Replay.Event :=
  .createContainer (.named "p" "app") (some { containerId := "c1" }) none

/-- A second container cannot have the id of the first one. It has used up a provisional id
    but is not in the cache. -/
theorem run_failed_event_keeps_first :
    let c := run ∅ (runOfPod ++ [.replay createC1])
    let after := (createC1.apply c).2
    (createC1.apply c).1 = .error (.containerIdInUse "c1") ∧ after.containers = c.containers ∧
      c.nextProvisional = 1 ∧ after.nextProvisional = 2 := by
  have unreserved : Unreserved (runOfPod ++ [.replay createC1]) := by
    simp [Unreserved, Reserved, runOfPod, createC1, Step.runtimeIds, provisionalPrefix]
    decide
  have rejected : (createC1.apply (run ∅ (runOfPod ++ [.replay createC1]))).1 =
      .error (.containerIdInUse "c1") := by
    rfl
  have kept := run_failed_event_keeps _ unreserved createC1 (.inl ⟨_, rejected⟩)
  exact ⟨rejected, kept.2.1, by rfl, by rfl⟩

end Cache

end PodCache
