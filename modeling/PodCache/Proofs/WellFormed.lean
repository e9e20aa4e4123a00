import PodCache.Cache.Query
import PodCache.Proofs.Counts

/-!
# Well-formed caches

In every cache that a run leads to, each pod and each container is stored under its own
id, each container belongs to a pod that the cache holds, and each pending creation is
that of a container which at most one refresh has spared. Each edit keeps this, and so
each run does.
-/

namespace PodCache

/-! ### Entities -/

theorem Pod.id_of_ofRunRequest {id : String} {request : Cri.RunPodSandboxRequest} {pod : Pod}
    (built : ofRunRequest id request = .ok pod) : pod.id = id := by
  unfold ofRunRequest at built
  split at built
  · cases built
  · split at built
    · cases built
    · obtain ⟨r, -, made⟩ := Outcome.bind_eq_ok_iff.1 built
      cases made
      rfl

theorem Pod.id_of_ofListEntry {sandbox : Cri.PodSandbox} {pod : Pod}
    (built : ofListEntry sandbox = .ok pod) : pod.id = sandbox.id := by
  unfold ofListEntry at built
  split at built
  · cases built
  · obtain ⟨r, -, made⟩ := Outcome.bind_eq_ok_iff.1 built
    cases made
    rfl

/-- A container is built under the given id and for the given pod. -/
theorem Container.ids_of_ofCreateRequest {id : String} {request : Cri.CreateContainerRequest}
    {pod : Pod} {container : Container} (built : ofCreateRequest id request pod = .ok container) :
    container.id = id ∧ container.podId = pod.id := by
  unfold ofCreateRequest at built
  split at built
  · cases built
  · split at built
    · cases built
    · cases built
      exact ⟨rfl, rfl⟩

/-- A container that is being created is in the first state. -/
theorem Container.state_of_ofCreateRequest {id : String} {request : Cri.CreateContainerRequest}
    {pod : Pod} {container : Container}
    (built : ofCreateRequest id request pod = .ok container) :
    container.state = .created := by
  unfold ofCreateRequest at built
  split at built
  · cases built
  · split at built
    · cases built
    · cases built
      rfl

theorem Container.ids_of_ofListEntry {entry : Cri.Container} {pod : Pod} {container : Container}
    (built : ofListEntry entry pod = .ok container) :
    container.id = entry.id ∧ container.podId = pod.id := by
  unfold ofListEntry at built
  split at built
  · cases built
  · cases built
    exact ⟨rfl, rfl⟩

namespace Cache

/-! ### The invariant -/

/-- What holds of a cache at all times. -/
structure WellFormed (c : Cache) : Prop where
  /-- A pod is stored under its own id. -/
  podKey : ∀ (id : String) (pod : Pod), c.pods[id]? = some pod → pod.id = id
  /-- A container is stored under its own id. -/
  containerKey : ∀ (id : String) (k : Container), c.containers[id]? = some k → k.id = id
  /-- The pod of a container is in the cache. -/
  owner : ∀ (id : String) (k : Container), c.containers[id]? = some k → k.podId ∈ c.pods
  /-- A pending creation is that of a container in the cache. -/
  pendingContainer : ∀ (id : String) (r : Nat), c.pending[id]? = some r → id ∈ c.containers
  /-- At most one refresh was done since a pending container was added. -/
  pendingSince : ∀ (id : String) (r : Nat), c.pending[id]? = some r →
    r ≤ c.refreshes ∧ c.refreshes ≤ r + 1

namespace WellFormed

variable {c : Cache}

theorem empty : WellFormed ∅ := by
  constructor <;> intro id _ found <;> cases found

/-- Adding or replacing a pod keeps the owners of all containers. -/
theorem insertPod (valid : c.WellFormed) {id : String} {pod : Pod} (own : pod.id = id) :
    WellFormed { c with pods := c.pods.insert id pod } := by
  refine { valid with podKey := ?_, owner := ?_ }
  · intro j p found
    rcases Table.insert_cases found with ⟨rfl, rfl⟩ | found
    · exact own
    · exact valid.podKey j p found
  · intro j k found
    exact (Table.mem_insert ..).2 (.inr (valid.owner j k found))

/-- With a pod its containers go, and with these their pending creations. -/
theorem dropPod (valid : c.WellFormed) (id : String) :
    WellFormed { c with
      pods := c.pods.erase id
      containers := c.containers.filter fun _ k => k.podId != id
      pending := c.pending.filter fun j _ =>
        (c.containers.filter fun _ k => k.podId != id).contains j } := by
  refine ⟨?_, ?_, ?_, ?_, ?_⟩
  · intro j p found
    exact valid.podKey j p (Table.of_erase found).2
  · intro j k found
    simp only [Std.ExtTreeMap.getElem?_filter', Option.filter_eq_some_iff] at found
    exact valid.containerKey j k found.1
  · intro j k found
    simp only [Std.ExtTreeMap.getElem?_filter', Option.filter_eq_some_iff, bne_iff_ne] at found
    exact (Table.mem_erase ..).2 ⟨found.2, valid.owner j k found.1⟩
  · intro j r found
    simp only [Std.ExtTreeMap.getElem?_filter', Option.filter_eq_some_iff] at found
    exact Std.ExtTreeMap.mem_iff_contains.2 found.2
  · intro j r found
    simp only [Std.ExtTreeMap.getElem?_filter', Option.filter_eq_some_iff] at found
    exact valid.pendingSince j r found.1

/-- Noting a class changes no id. -/
theorem notePods (valid : c.WellFormed) {pods : Table Pod} (noted : ∀ id : String,
    pods[id]? = c.pods[id]? ∨ pods[id]? = c.pods[id]?.map Pod.noteClass) :
    WellFormed { c with pods } := by
  refine { valid with podKey := ?_, owner := ?_ }
  · intro id pod found
    dsimp only at found
    rcases noted id with same | changed
    · exact valid.podKey id pod (same ▸ found)
    · rw [changed, Option.map_eq_some_iff] at found
      obtain ⟨old, found, rfl⟩ := found
      exact valid.podKey id old found
  · intro id k found
    obtain ⟨pod, present⟩ := (Table.mem_iff _ _).1 (valid.owner id k found)
    apply (Table.mem_iff _ _).2
    rcases noted k.podId with same | changed
    · exact ⟨pod, same.trans present⟩
    · exact ⟨pod.noteClass, changed.trans (by rw [present, Option.map_some])⟩

/-- Adding or replacing a container under its own id, for a pod in the cache. -/
theorem insertContainer (valid : c.WellFormed) {id : String} {k : Container} (own : k.id = id)
    (owner : k.podId ∈ c.pods) :
    WellFormed { c with containers := c.containers.insert id k } := by
  refine { valid with containerKey := ?_, owner := ?_, pendingContainer := ?_ }
  · intro j l found
    rcases Table.insert_cases found with ⟨rfl, rfl⟩ | found
    · exact own
    · exact valid.containerKey j l found
  · intro j l found
    rcases Table.insert_cases found with ⟨rfl, rfl⟩ | found
    · exact owner
    · exact valid.owner j l found
  · intro j r found
    exact (Table.mem_insert ..).2 (.inr (valid.pendingContainer j r found))

/-- A container that is in the cache can start to wait for an answer at any time. -/
theorem insertPending (valid : c.WellFormed) {id : String} (present : id ∈ c.containers) :
    WellFormed { c with pending := c.pending.insert id c.refreshes } := by
  refine { valid with pendingContainer := ?_, pendingSince := ?_ }
  · intro j r found
    rcases Table.insert_cases found with ⟨rfl, rfl⟩ | found
    · exact present
    · exact valid.pendingContainer j r found
  · intro j r found
    rcases Table.insert_cases found with ⟨rfl, rfl⟩ | found
    · exact ⟨Nat.le_refl _, Nat.le_succ _⟩
    · exact valid.pendingSince j r found

/-- With a container its pending creation goes. -/
theorem dropContainer (valid : c.WellFormed) (id : String) :
    WellFormed { c with
      containers := c.containers.erase id
      pending := c.pending.erase id } := by
  refine { valid with
    containerKey := ?_, owner := ?_, pendingContainer := ?_, pendingSince := ?_ }
  · intro j k found
    exact valid.containerKey j k (Table.of_erase found).2
  · intro j k found
    exact valid.owner j k (Table.of_erase found).2
  · intro j r found
    obtain ⟨different, found⟩ := Table.of_erase found
    exact (Table.mem_erase ..).2 ⟨different.symm, valid.pendingContainer j r found⟩
  · intro j r found
    exact valid.pendingSince j r (Table.of_erase found).2

/-- Every edit keeps a cache well-formed. -/
theorem edit {brought asked : String → Prop} (c c' : Cache) (edit : Edit brought asked c c')
    (valid : c.WellFormed) : c'.WellFormed := by
  cases edit with
  | runPod built => exact valid.insertPod (Pod.id_of_ofRunRequest built)
  | findPod unknown built => exact valid.insertPod (Pod.id_of_ofListEntry built)
  | @movePod id pod known state =>
    exact valid.insertPod (valid.podKey id pod known)
  | dropPod known => exact valid.dropPod _
  | notePods noted => exact valid.notePods noted
  | @createContainer request pod container owner built =>
    obtain ⟨own, podId⟩ := Container.ids_of_ofCreateRequest built
    have ownerCached : container.podId ∈ c.pods := by
      rw [podId, valid.podKey _ _ owner]
      exact Table.mem_of_getElem? owner
    have added := valid.insertContainer own ownerCached
    exact { added.insertPending ((Table.mem_insert ..).2 (.inl rfl)) with }
  | @assignId provisional id container pending named free found origin =>
    have dropped := valid.dropContainer provisional
    have ownerCached := valid.owner provisional container found
    exact dropped.insertContainer rfl ownerCached
  | @findContainer entry pod container owner unknown built origin =>
    obtain ⟨own, podId⟩ := Container.ids_of_ofListEntry built
    refine valid.insertContainer own ?_
    rw [podId, valid.podKey _ _ owner]
    exact Table.mem_of_getElem? owner
  | @moveContainer id container known state =>
    have ownerCached := valid.owner id container known
    exact valid.insertContainer (valid.containerKey id container known) ownerCached
  | dropContainer id => exact valid.dropContainer id
  | endRefresh spared =>
    refine { valid with pendingSince := ?_ }
    intro id r found
    have late := spared id r found (valid.pendingContainer id r found)
    have early := valid.pendingSince id r found
    dsimp only
    omega

/-- Whatever ids the runtime brings, a sequence of edits keeps a cache well-formed. -/
theorem edits (valid : c.WellFormed) {c' : Cache} (edits : AnyEdits c c') :
    c'.WellFormed :=
  edits.preserves WellFormed.edit valid

/-- Every run from the empty cache leads to a well-formed one. -/
theorem run (steps : List Step) : (Cache.run ∅ steps).WellFormed :=
  run_preserves_of_edits (@edit (fun _ => True) _) (by simp) empty

/-- The containers of the pods, pod by pod, are all containers, each in one place. -/
theorem podContainers_perm (valid : c.WellFormed) :
    (c.pods.keys.flatMap c.podContainers).Perm c.containers.values := by
  refine Table.flatMap_filter_perm _ Std.ExtTreeMap.nodup_keys _ ?_
  intro k member
  obtain ⟨id, found⟩ := (Table.mem_values _ _).1 member
  exact Std.ExtTreeMap.mem_keys.2 (valid.owner id k found)

theorem containers_nodup (valid : c.WellFormed) : c.containers.values.Nodup :=
  Table.values_nodup valid.containerKey

end WellFormed

/-- What holds wherever a run leads. Every pod and every container is stored under its own
    id. Every container belongs to a pod of the cache, and the containers of the pods, pod
    by pod, are all containers without repetition. A pending id is that of a container,
    and was given out at most one refresh ago. Neither count exceeds the number of steps,
    so it fits into 64 bits for as long as that number does. -/
theorem run_consistent (steps : List Step) :
    let c := Cache.run ∅ steps
    (∀ (id : String) (pod : Pod), c.pods[id]? = some pod → pod.id = id) ∧
    (∀ (id : String) (k : Container), c.containers[id]? = some k → k.id = id) ∧
    (∀ (id : String) (k : Container), c.containers[id]? = some k → k.podId ∈ c.pods) ∧
    (c.pods.keys.flatMap c.podContainers).Perm c.containers.values ∧
    c.containers.values.Nodup ∧
    (∀ (id : String) (r : Nat), c.pending[id]? = some r →
      id ∈ c.containers ∧ r ≤ c.refreshes ∧ c.refreshes ≤ r + 1) ∧
    c.nextProvisional ≤ steps.length ∧ c.refreshes ≤ steps.length := by
  intro c
  have valid : c.WellFormed := WellFormed.run steps
  have counted := run_counts_le steps ∅
  refine ⟨valid.podKey, valid.containerKey, valid.owner, valid.podContainers_perm,
    valid.containers_nodup, ?_, ?_, ?_⟩
  · intro id r found
    exact ⟨valid.pendingContainer id r found, valid.pendingSince id r found⟩
  · exact Nat.le_trans counted.1 (Nat.le_of_eq (Nat.zero_add _))
  · exact Nat.le_trans counted.2 (Nat.le_of_eq (Nat.zero_add _))

end Cache

end PodCache
