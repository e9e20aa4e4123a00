import PodCache.Proofs.Edit

/-!
# What a cache counts

A cache counts the provisional ids that it gave out and the container refreshes that it
did. Each operation but the creation of a container and the container refresh leaves
both counts alone, so after a run neither is larger than the number of its steps.
-/

namespace PodCache

namespace Cache

/-- The number of provisional ids given out and of container refreshes done. -/
def counts (c : Cache) : Nat × Nat := (c.nextProvisional, c.refreshes)

theorem refreshes_of_counts {c c' : Cache} (same : c'.counts = c.counts) :
    c'.refreshes = c.refreshes :=
  congrArg Prod.snd same

/-! ### Operations that count nothing -/

@[simp] theorem runPod_counts (c : Cache) (id : String) (request : Cri.RunPodSandboxRequest) :
    (c.runPod id request).2.counts = c.counts := by
  unfold runPod
  split <;> rfl

@[simp] theorem upsertPod_counts (c : Cache) (sandbox : Cri.PodSandbox) :
    (c.upsertPod sandbox).2.counts = c.counts := by
  unfold upsertPod
  split
  · rfl
  · split <;> rfl

@[simp] theorem deletePod_counts (c : Cache) (id : String) :
    (c.deletePod id).2.counts = c.counts := by
  unfold deletePod
  split <;> rfl

@[simp] theorem takePods_counts (c : Cache) (sandboxes : List Cri.PodSandbox) :
    (c.takePods sandboxes).1.counts = c.counts := by
  refine foldl_keeps (fun s : Cache × Refresh => s.1.counts) ?_ (c, {}) sandboxes
  intro s sandbox
  rw [takePod_fst, upsertPod_counts]

@[simp] theorem reconcilePods_counts (c : Cache) (reply : Cri.ListPodSandboxResponse) :
    (c.reconcilePods reply).2.counts = c.counts := by
  have removed := foldl_keeps counts deletePod_counts (c.takePods reply.items).1
  exact (removed _).trans (c.takePods_counts reply.items)

@[simp] theorem refreshPods_counts (c : Cache) (reply : Cri.ListPodSandboxResponse) :
    (c.refreshPods reply).2.counts = c.counts :=
  refreshPods_ends (P := fun after => after.counts = c.counts) c.takePods_counts
    (c.reconcilePods_counts reply)

@[simp] theorem abortCreate_counts (c : Cache) (id : String) :
    (c.abortCreate id).2.counts = c.counts := by
  unfold abortCreate
  split <;> rfl

@[simp] theorem assignId_counts (c : Cache) (id : String)
    (response : Cri.CreateContainerResponse) : (c.assignId id response).2.counts = c.counts := by
  unfold assignId
  dsimp only
  split
  · rfl
  · split
    · rfl
    · split
      · rfl
      · split <;> rfl

@[simp] theorem upsertContainer_counts (c : Cache) (entry : Cri.Container) :
    (c.upsertContainer entry).2.counts = c.counts := by
  unfold upsertContainer
  split
  · rfl
  · split
    · rfl
    · split <;> rfl

@[simp] theorem deleteContainer_counts (c : Cache) (id : String) :
    (c.deleteContainer id).2.counts = c.counts := by
  simp [counts]

/-! ### Operations that count -/

/-- A creation that is accepted gives out one provisional id. -/
theorem createContainer_counts (c : Cache) (request : Cri.CreateContainerRequest) :
    (c.createContainer request).2.counts = c.counts ∨
      (c.createContainer request).2.counts = (c.nextProvisional + 1, c.refreshes) := by
  unfold createContainer
  split
  · exact .inl rfl
  · dsimp only
    split
    · exact .inl rfl
    · exact .inr rfl

@[simp] theorem takeContainers_counts (c : Cache) (entries : List Cri.Container) :
    (c.takeContainers entries).1.counts = c.counts := by
  refine foldl_keeps (fun s : Cache × Refresh => s.1.counts) ?_ (c, {}) entries
  intro s entry
  rw [takeContainer_fst, upsertContainer_counts]

/-- A container refresh counts itself only. -/
theorem refreshContainers_counts (c : Cache) (reply : Cri.ListContainersResponse) :
    (c.refreshContainers reply).2.counts = (c.nextProvisional, c.refreshes + 1) := by
  have removed := foldl_keeps counts deleteContainer_counts (c.takeContainers reply.containers).1
  have both := fun stale => (removed stale).trans (c.takeContainers_counts reply.containers)
  simp only [counts, takeContainers, Prod.mk.injEq] at both
  simp only [refreshContainers, counts, both]

@[simp] theorem noteClass_counts (c : Cache) (podId : String) :
    (c.noteClass podId).counts = c.counts := rfl

/-- The cache counted at most one provisional id and at most one refresh. -/
def CountsOnce (c c' : Cache) : Prop :=
  c'.nextProvisional ≤ c.nextProvisional + 1 ∧ c'.refreshes ≤ c.refreshes + 1

theorem CountsOnce.of_counts {c c' : Cache} (same : c'.counts = c.counts) : c.CountsOnce c' := by
  simp only [counts, Prod.mk.injEq] at same
  constructor <;> omega

theorem createContainer_countsOnce (c : Cache) (request : Cri.CreateContainerRequest) :
    c.CountsOnce (c.createContainer request).2 := by
  rcases c.createContainer_counts request with same | counted
  · exact .of_counts same
  · simp only [counts, Prod.mk.injEq] at counted
    constructor <;> omega

theorem refreshContainers_countsOnce (c : Cache) (reply : Cri.ListContainersResponse) :
    c.CountsOnce (c.refreshContainers reply).2 := by
  have counted := c.refreshContainers_counts reply
  simp only [counts, Prod.mk.injEq] at counted
  constructor <;> omega

end Cache

/-! ### Steps -/

theorem Operation.countsOnce (operation : Operation) (c : Cache) :
    c.CountsOnce (operation.apply c) := by
  cases operation with
  | createContainer request => exact c.createContainer_countsOnce request
  | refreshContainers reply => exact c.refreshContainers_countsOnce reply
  | listPod sandbox => exact .of_counts (by simp [Operation.apply, Cache.listPod_snd])
  | listContainer entry => exact .of_counts (by simp [Operation.apply, Cache.listContainer_snd])
  | _ => exact .of_counts (by simp [Operation.apply])

theorem Query.counts (query : Query) (c : Cache) : (query.apply c).counts = c.counts := by
  cases query with
  | containerClass containerId =>
    simp only [Query.apply, Cache.containerClass]
    split <;> simp
  | _ => rfl

theorem Replay.settleCreate_counts (c : Cache) (id : String)
    (response : Option Cri.CreateContainerResponse) (error : Option String) :
    (settleCreate c id response error).2.counts = c.counts := by
  cases error with
  | some error => exact c.abortCreate_counts id
  | none =>
    cases response with
    | none => rfl
    | some response =>
      have assigned := c.assignId_counts id response
      rw [settleCreate_response]
      cases (c.assignId id response).1 with
      | ok container => exact assigned
      | error e => exact (Cache.abortCreate_counts _ id).trans assigned

theorem Replay.Event.countsOnce (event : Replay.Event) (c : Cache) :
    c.CountsOnce (event.apply c).2 := by
  cases event with
  | createContainer request response error =>
    have created := c.createContainer_countsOnce request
    rw [Replay.Event.apply_createContainer]
    cases (c.createContainer request).1 with
    | error e => exact created
    | ok id =>
      have settled := Replay.settleCreate_counts (c.createContainer request).2 id response error
      simp only [Cache.counts, Prod.mk.injEq] at settled
      unfold Cache.CountsOnce at created ⊢
      dsimp only at created ⊢
      omega
  | listContainers reply => exact c.refreshContainers_countsOnce reply
  | _ => exact .of_counts (by simp [Replay.Event.apply])

theorem Step.countsOnce (step : Step) (c : Cache) : c.CountsOnce (step.apply c) := by
  cases step with
  | call operation => exact operation.countsOnce c
  | ask query => exact .of_counts (query.counts c)
  | replay event => exact event.countsOnce c

/-- A run counts no more than it has steps. -/
theorem Cache.run_counts_le (steps : List Step) (c : Cache) :
    (c.run steps).nextProvisional ≤ c.nextProvisional + steps.length ∧
      (c.run steps).refreshes ≤ c.refreshes + steps.length := by
  induction steps generalizing c with
  | nil => exact ⟨Nat.le_refl _, Nat.le_refl _⟩
  | cons step steps ih =>
    obtain ⟨ids, refreshes⟩ := step.countsOnce c
    have later := ih (step.apply c)
    simp only [run_cons, List.length_cons]
    omega

/-! ### The number of refreshes -/

/-- The step goes through a list of all containers. -/
def Step.isContainerRefresh : Step → Bool
  | call (.refreshContainers _) => true
  | replay (.listContainers _) => true
  | _ => false

theorem Operation.apply_refreshes (operation : Operation) (c : Cache) :
    (operation.apply c).refreshes =
      c.refreshes + if (Step.call operation).isContainerRefresh then 1 else 0 := by
  cases operation with
  | createContainer request =>
    rcases c.createContainer_counts request with counts | counts
    · exact Cache.refreshes_of_counts counts
    · exact congrArg Prod.snd counts
  | refreshContainers reply => exact congrArg Prod.snd (c.refreshContainers_counts reply)
  | listPod sandbox =>
    exact Cache.refreshes_of_counts (by simp [Operation.apply, Cache.listPod_snd])
  | listContainer entry =>
    exact Cache.refreshes_of_counts (by simp [Operation.apply, Cache.listContainer_snd])
  | _ => exact Cache.refreshes_of_counts (by simp [Operation.apply])

theorem Replay.Event.apply_refreshes (event : Replay.Event) (c : Cache) :
    (event.apply c).2.refreshes =
      c.refreshes + if (Step.replay event).isContainerRefresh then 1 else 0 := by
  cases event with
  | createContainer request response error =>
    have created := (Operation.createContainer request).apply_refreshes c
    rw [Replay.Event.apply_createContainer]
    cases (c.createContainer request).1 with
    | error e => exact created
    | ok id =>
      have settled := Replay.settleCreate_counts (c.createContainer request).2 id response error
      exact (Cache.refreshes_of_counts settled).trans created
  | listContainers reply => exact congrArg Prod.snd (c.refreshContainers_counts reply)
  | _ => exact Cache.refreshes_of_counts (by simp [Replay.Event.apply])

theorem Step.apply_refreshes (step : Step) (c : Cache) :
    (step.apply c).refreshes = c.refreshes + if step.isContainerRefresh then 1 else 0 := by
  cases step with
  | call operation => exact operation.apply_refreshes c
  | ask query => exact Cache.refreshes_of_counts (query.counts c)
  | replay event => exact event.apply_refreshes c

/-- A cache counts exactly the container refreshes of a run. -/
theorem Cache.run_refreshes (steps : List Step) (c : Cache) :
    (c.run steps).refreshes = c.refreshes + steps.countP Step.isContainerRefresh := by
  induction steps generalizing c with
  | nil => rfl
  | cons step steps ih =>
    rw [run_cons, ih, step.apply_refreshes, List.countP_cons]
    omega

/-! ### No count goes back -/

theorem Edit.refreshes_le {brought asked : String → Prop} {c c' : Cache}
    (edit : Edit brought asked c c') : c.refreshes ≤ c'.refreshes := by
  cases edit with
  | endRefresh spared => exact Nat.le_succ _
  | _ => exact Nat.le_refl _

theorem Edit.nextProvisional_le {brought asked : String → Prop} {c c' : Cache}
    (edit : Edit brought asked c c') : c.nextProvisional ≤ c'.nextProvisional := by
  cases edit with
  | createContainer owner built => exact Nat.le_succ _
  | _ => exact Nat.le_refl _

theorem Edits.nextProvisional_le {brought asked : String → Prop} {c c' : Cache}
    (edits : Edits brought asked c c') : c.nextProvisional ≤ c'.nextProvisional := by
  induction edits with
  | refl => exact Nat.le_refl _
  | tail _ edit ih => exact Nat.le_trans ih edit.nextProvisional_le

theorem Edits.refreshes_le {brought asked : String → Prop} {c c' : Cache}
    (edits : Edits brought asked c c') : c.refreshes ≤ c'.refreshes := by
  induction edits with
  | refl => exact Nat.le_refl _
  | tail _ edit ih => exact Nat.le_trans ih edit.refreshes_le

theorem Step.nextProvisional_le (step : Step) (c : Cache) :
    c.nextProvisional ≤ (step.apply c).nextProvisional :=
  (step.anyEdits c).nextProvisional_le

end PodCache
