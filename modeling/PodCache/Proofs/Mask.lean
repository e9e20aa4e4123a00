import Mathlib.Tactic.SplitIfs
import PodCache.Proofs.ContainerRefresh
import PodCache.Proofs.PodRefresh

/-!
# Masked caches

No operation of a cache reads the class that is noted for a pod, and only a creation reads
the number of the next provisional id. So it makes no difference to an operation if these
are changed before it or after it: an operation on a masked cache has the same answer, and
leads to the masked cache.
-/

namespace PodCache

/-! ### Pods -/

/-- A change of pods after which all that operations look at is as before. -/
structure Pod.Mask (f : Pod → Pod) : Prop where
  id : ∀ p, (f p).id = p.id
  namespaceName : ∀ p, (f p).namespaceName = p.namespaceName
  resources : ∀ p, (f p).resources = p.resources
  state : ∀ p, (f p).state = p.state
  move : ∀ (p : Pod) (state : Cri.SandboxState), f { p with state } = { f p with state }
  /-- A pod for which no class is noted stays as it is. -/
  unnoted : ∀ p : Pod, p.notedClass = none → f p = p

theorem Pod.Mask.refl : Pod.Mask fun p => p :=
  ⟨fun _ => rfl, fun _ => rfl, fun _ => rfl, fun _ => rfl, fun _ _ => rfl, fun _ _ => rfl⟩

/-- A container takes nothing from its pod that a mask changes. -/
theorem Pod.Mask.ofCreateRequest {f : Pod → Pod} (masks : Pod.Mask f) (id : String)
    (request : Cri.CreateContainerRequest) (pod : Pod) :
    Container.ofCreateRequest id request (f pod) = Container.ofCreateRequest id request pod := by
  unfold Container.ofCreateRequest
  rw [masks.id, masks.namespaceName]

theorem Pod.Mask.ofListEntry {f : Pod → Pod} (masks : Pod.Mask f) (entry : Cri.Container)
    (pod : Pod) : Container.ofListEntry entry (f pod) = Container.ofListEntry entry pod := by
  unfold Container.ofListEntry
  rw [masks.id, masks.namespaceName]

theorem Pod.notedClass_of_ofRunRequest {id : String} {request : Cri.RunPodSandboxRequest}
    {pod : Pod} (built : ofRunRequest id request = .ok pod) : pod.notedClass = none := by
  unfold ofRunRequest at built
  split at built
  · cases built
  · split at built
    · cases built
    · obtain ⟨_, -, made⟩ := Outcome.bind_eq_ok_iff.1 built
      cases made
      rfl

theorem Pod.notedClass_of_ofListEntry {sandbox : Cri.PodSandbox} {pod : Pod}
    (built : ofListEntry sandbox = .ok pod) : pod.notedClass = none := by
  unfold ofListEntry at built
  split at built
  · cases built
  · obtain ⟨_, -, made⟩ := Outcome.bind_eq_ok_iff.1 built
    cases made
    rfl

namespace Cache

/-- The cache with its pods and the number of the next provisional id changed. -/
def mask (f : Pod → Pod) (g : Nat → Nat) (c : Cache) : Cache :=
  { c with pods := c.pods.map fun _ p => f p, nextProvisional := g c.nextProvisional }

@[simp] theorem mask_containers (f : Pod → Pod) (g : Nat → Nat) (c : Cache) :
    (c.mask f g).containers = c.containers := rfl

@[simp] theorem mask_pending (f : Pod → Pod) (g : Nat → Nat) (c : Cache) :
    (c.mask f g).pending = c.pending := rfl

@[simp] theorem getElem?_mask_pods (f : Pod → Pod) (g : Nat → Nat) (c : Cache) (id : String) :
    (c.mask f g).pods[id]? = c.pods[id]?.map f :=
  Std.ExtTreeMap.getElem?_map

/-- With the number alone changed, the pods are the same. -/
theorem mask_pods_id (g : Nat → Nat) (c : Cache) : (c.mask (fun p => p) g).pods = c.pods := by
  apply Table.ext
  intro id
  rw [getElem?_mask_pods, Option.map_id']

variable {f : Pod → Pod} (masks : Pod.Mask f) (g : Nat → Nat) (c : Cache)

/-! ### Operations on pods -/

include masks in
theorem runPod_mask (id : String) (request : Cri.RunPodSandboxRequest) :
    (c.mask f g).runPod id request =
      ((c.runPod id request).1, (c.runPod id request).2.mask f g) := by
  unfold runPod
  cases built : Pod.ofRunRequest id request with
  | ok pod =>
    have new := masks.unnoted pod (Pod.notedClass_of_ofRunRequest built)
    simp only [mask, Table.map_insert, new]
  | error e => rfl
  | stop => rfl

include masks in
theorem upsertPod_mask (sandbox : Cri.PodSandbox) :
    (c.mask f g).upsertPod sandbox =
      (Prod.map f id <$> (c.upsertPod sandbox).1, (c.upsertPod sandbox).2.mask f g) := by
  unfold upsertPod
  rw [getElem?_mask_pods]
  cases known : c.pods[sandbox.id]? with
  | some pod =>
    have moved := masks.move pod sandbox.state
    simp only [Option.map_some, Outcome.map_ok, Prod.map, mask, Table.map_insert, moved,
      masks.state, id]
  | none =>
    cases built : Pod.ofListEntry sandbox with
    | ok pod =>
      have new := masks.unnoted pod (Pod.notedClass_of_ofListEntry built)
      simp only [Option.map_none, Outcome.map_ok, Prod.map, mask, Table.map_insert, new, id]
    | error e => rfl
    | stop => rfl

include masks in
theorem listPod_mask (sandbox : Cri.PodSandbox) :
    (c.mask f g).listPod sandbox =
      (f <$> (c.listPod sandbox).1, (c.listPod sandbox).2.mask f g) := by
  unfold listPod
  rw [upsertPod_mask masks]
  cases c.upsertPod sandbox with
  | mk answer after => cases answer <;> rfl

theorem deletePod_mask (id : String) :
    (c.mask f g).deletePod id = ((c.deletePod id).1.map f, (c.deletePod id).2.mask f g) := by
  unfold deletePod
  rw [getElem?_mask_pods]
  cases c.pods[id]? with
  | none => rfl
  | some pod =>
    simp only [Option.map_some, mask, Table.map_erase]

include masks in
theorem takePod_mask (s : Cache × Refresh) (sandbox : Cri.PodSandbox) :
    takePod (s.1.mask f g, s.2) sandbox =
      ((takePod s sandbox).1.mask f g, (takePod s sandbox).2) := by
  unfold takePod
  dsimp only
  rw [upsertPod_mask masks]
  cases s.1.upsertPod sandbox with
  | mk answer after => cases answer <;> rfl

include masks in
theorem takeSandboxes_mask (s : Cache × Refresh) (sandboxes : List Cri.PodSandbox) :
    takeSandboxes (s.1.mask f g, s.2) sandboxes =
      ((takeSandboxes s sandboxes).1, (takeSandboxes s sandboxes).2.mask f g) := by
  induction sandboxes generalizing s with
  | nil => rfl
  | cons sandbox sandboxes ih =>
    have later := ih (takePod s sandbox)
    rw [← takePod_mask masks] at later
    simp only [takeSandboxes, upsertPod_mask masks]
    cases s.1.upsertPod sandbox with
    | mk answer after =>
      cases answer with
      | ok _ => exact later
      | error e => exact later
      | stop => rfl

theorem deletePods_mask (ids : List String) :
    (c.mask f g).deletePods ids = (c.deletePods ids).mask f g := by
  unfold deletePods
  induction ids generalizing c with
  | nil => rfl
  | cons id ids ih => rw [List.foldl_cons, List.foldl_cons, deletePod_mask, ih]

theorem removeUnlisted_mask (sandboxes : List Cri.PodSandbox) (changes : Refresh) :
    (c.mask f g).removeUnlisted sandboxes changes =
      ((c.removeUnlisted sandboxes changes).1, (c.removeUnlisted sandboxes changes).2.mask f g) := by
  have keys : (c.mask f g).pods.keys = c.pods.keys := Std.ExtTreeMap.keys_map
  unfold removeUnlisted
  rw [keys]
  exact Prod.ext rfl (deletePods_mask g c _)

include masks in
theorem refreshPods_mask (reply : Cri.ListPodSandboxResponse) :
    (c.mask f g).refreshPods reply =
      ((c.refreshPods reply).1, (c.refreshPods reply).2.mask f g) := by
  have taken := takeSandboxes_mask masks g (c, {}) reply.items
  unfold refreshPods
  rw [taken]
  cases takeSandboxes (c, {}) reply.items with
  | mk answer listed =>
    cases answer with
    | ok changes => simp only [removeUnlisted_mask]
    | error e => rfl
    | stop => rfl

/-! ### Operations on containers -/

omit g in
include masks in
/-- A creation reads the number of the next provisional id, so that must be kept. -/
theorem createContainer_mask (request : Cri.CreateContainerRequest) :
    (c.mask f fun n => n).createContainer request =
      ((c.createContainer request).1, (c.createContainer request).2.mask f fun n => n) := by
  unfold createContainer
  rw [getElem?_mask_pods]
  cases c.pods[request.podSandboxId]? with
  | none => rfl
  | some pod =>
    simp only [Option.map_some]
    rw [masks.ofCreateRequest]
    cases built : Container.ofCreateRequest (provisionalId c.nextProvisional) request pod with
    | error e => simp only [mask, built]
    | ok container => simp only [mask, built]

theorem abortCreate_mask (id : String) :
    (c.mask f g).abortCreate id = ((c.abortCreate id).1, (c.abortCreate id).2.mask f g) := by
  unfold abortCreate
  rw [mask_pending]
  cases c.pending[id]? <;> rfl

theorem assignId_mask (id : String) (response : Cri.CreateContainerResponse) :
    (c.mask f g).assignId id response =
      ((c.assignId id response).1, (c.assignId id response).2.mask f g) := by
  unfold assignId mask
  dsimp only
  split
  · rfl
  · split
    · rfl
    · split
      · rfl
      · cases c.containers[id]? <;> rfl

include masks in
theorem upsertContainer_mask (entry : Cri.Container) :
    (c.mask f g).upsertContainer entry =
      ((c.upsertContainer entry).1, (c.upsertContainer entry).2.mask f g) := by
  unfold upsertContainer
  rw [getElem?_mask_pods, mask_containers]
  cases c.pods[entry.podSandboxId]? with
  | none => rfl
  | some pod =>
    cases c.containers[entry.id]? with
    | some container => rfl
    | none =>
      simp only [Option.map_some]
      rw [masks.ofListEntry]
      cases Container.ofListEntry entry pod <;> rfl

include masks in
theorem listContainer_mask (entry : Cri.Container) :
    (c.mask f g).listContainer entry =
      ((c.listContainer entry).1, (c.listContainer entry).2.mask f g) := by
  unfold listContainer
  rw [upsertContainer_mask masks]
  cases c.upsertContainer entry with
  | mk answer after => cases answer <;> rfl

theorem deleteContainer_mask (id : String) :
    (c.mask f g).deleteContainer id =
      ((c.deleteContainer id).1, (c.deleteContainer id).2.mask f g) := by
  unfold deleteContainer
  rw [mask_containers]
  cases c.containers[id]? <;> rfl

include masks in
theorem takeContainers_mask (entries : List Cri.Container) :
    (c.mask f g).takeContainers entries =
      ((c.takeContainers entries).1.mask f g, (c.takeContainers entries).2) := by
  have each : ∀ (s : Cache × Refresh) (entry : Cri.Container),
      takeContainer (s.1.mask f g, s.2) entry =
        ((takeContainer s entry).1.mask f g, (takeContainer s entry).2) := by
    intro s entry
    unfold takeContainer
    dsimp only
    rw [upsertContainer_mask masks]
    cases s.1.upsertContainer entry with
    | mk answer after => cases answer <;> rfl
  unfold takeContainers
  generalize ({} : Refresh) = changes
  induction entries generalizing c changes with
  | nil => rfl
  | cons entry entries ih =>
    rw [List.foldl_cons, List.foldl_cons, each (c, changes) entry, ih]

theorem deleteContainers_mask (ids : List String) :
    (c.mask f g).deleteContainers ids = (c.deleteContainers ids).mask f g := by
  unfold deleteContainers
  induction ids generalizing c with
  | nil => rfl
  | cons id ids ih => rw [List.foldl_cons, List.foldl_cons, deleteContainer_mask, ih]

include masks in
theorem refreshContainers_mask (reply : Cri.ListContainersResponse) :
    (c.mask f g).refreshContainers reply =
      ((c.refreshContainers reply).1, (c.refreshContainers reply).2.mask f g) := by
  have taken := takeContainers_mask masks g c reply.containers
  have removed : (c.mask f g).removedBy reply = c.removedBy reply := by
    unfold removedBy
    rw [taken]
    rfl
  apply Prod.ext
  · change Refresh.sorted { ((c.mask f g).takeContainers reply.containers).2 with
      removed := (c.mask f g).removedBy reply } = _
    rw [taken, removed]
    rfl
  · rw [refreshContainers_snd, refreshContainers_snd, taken, removed, deleteContainers_mask]
    rfl

end Cache

/-! ### Events -/

namespace Replay

variable {f : Pod → Pod} (masks : Pod.Mask f) (g : Nat → Nat) (c : Cache)

theorem settleCreate_mask (id : String) (response : Option Cri.CreateContainerResponse)
    (error : Option String) :
    settleCreate (c.mask f g) id response error =
      ((settleCreate c id response error).1, (settleCreate c id response error).2.mask f g) := by
  cases error with
  | some error => simp only [settleCreate, Cache.abortCreate_mask]
  | none =>
    cases response with
    | none => rfl
    | some response =>
      rw [settleCreate_response, settleCreate_response, Cache.assignId_mask]
      cases (c.assignId id response).1 with
      | ok container => rfl
      | error e => simp only [Cache.abortCreate_mask]

include masks in
/-- An event that is not a creation does not read the number of the next provisional id. -/
theorem Event.apply_mask (event : Event)
    (calm : (∃ request response error, event = createContainer request response error) →
      g = fun n => n) :
    event.apply (c.mask f g) = ((event.apply c).1, (event.apply c).2.mask f g) := by
  cases event with
  | runPodSandbox id request => simp only [Event.apply, Cache.runPod_mask masks]
  | listPodSandbox reply => simp only [Event.apply, Cache.refreshPods_mask masks]
  | removePodSandbox id => simp only [Event.apply, Cache.deletePod_mask]
  | createContainer request response error =>
    cases calm ⟨request, response, error, rfl⟩
    rw [apply_createContainer, apply_createContainer, Cache.createContainer_mask masks]
    cases (c.createContainer request).1 with
    | error e => rfl
    | ok id => simp only [settleCreate_mask]
  | listContainers reply => simp only [Event.apply, Cache.refreshContainers_mask masks]
  | removeContainer id => simp only [Event.apply, Cache.deleteContainer_mask]

end Replay

end PodCache
