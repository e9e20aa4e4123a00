import PodCache.Cache.Container

/-!
# The cache

The cache holds all pods and containers, each under its own id. Containers name
their pod by id only. A container that is being created has no id from the runtime
yet: it is stored under a provisional one and counts as pending until the runtime
answers.

An operation that can be rejected returns its answer together with the cache after
it, whether or not it was rejected. One that builds a pod may also stop, which leaves
the cache as it was.
-/

namespace PodCache

/-- All pods and containers that are known. -/
structure Cache where
  pods : Table Pod := ∅
  containers : Table Container := ∅
  /-- The number of the next provisional id. -/
  nextProvisional : Nat := 0
  /-- The provisional ids that wait for an answer, each with the number of container
      refreshes done when it was given out. -/
  pending : Table Nat := ∅
  /-- The number of container refreshes done. -/
  refreshes : Nat := 0
  deriving DecidableEq

namespace Cache

/-- The cache that holds nothing. -/
def empty : Cache := {}

instance : EmptyCollection Cache := ⟨empty⟩

instance : Inhabited Cache := ⟨empty⟩

/-- What every provisional id starts with (`PROVISIONAL_ID_PREFIX`). -/
def provisionalPrefix : String := "cache:"

/-- The provisional id with the given number. -/
def provisionalId (n : Nat) : String := provisionalPrefix ++ toString n

/-- What an entry of a list reply did to the entity that it names (`Change`). -/
inductive Change where
  | added
  | updated
  | unchanged
  deriving DecidableEq, Repr

/-! ### Pods -/

/-- Adds the pod of a request to run a sandbox, in place of any pod with its id
    (`insert_pod_from_run`). -/
def runPod (c : Cache) (id : String) (request : Cri.RunPodSandboxRequest) :
    Outcome CacheError Pod × Cache :=
  match Pod.ofRunRequest id request with
  | .ok pod => (.ok pod, { c with pods := c.pods.insert id pod })
  | .error e => (.error e, c)
  | .stop => (.stop, c)

/-- Adds the pod of an entry of a list reply (`upsert_pod_from_list`). A pod that is known
    only takes over the state of the entry. -/
def upsertPod (c : Cache) (sandbox : Cri.PodSandbox) :
    Outcome CacheError (Pod × Change) × Cache :=
  match c.pods[sandbox.id]? with
  | some pod =>
    let updated := { pod with state := sandbox.state }
    (.ok (updated, if pod.state = sandbox.state then .unchanged else .updated),
      { c with pods := c.pods.insert sandbox.id updated })
  | none =>
    match Pod.ofListEntry sandbox with
    | .ok pod => (.ok (pod, .added), { c with pods := c.pods.insert sandbox.id pod })
    | .error e => (.error e, c)
    | .stop => (.stop, c)

/-- As `upsertPod`, without saying what changed (`insert_pod_from_list`). -/
def listPod (c : Cache) (sandbox : Cri.PodSandbox) : Outcome CacheError Pod × Cache :=
  let (answer, c) := c.upsertPod sandbox
  (Prod.fst <$> answer, c)

/-- Removes a pod and all of its containers (`delete_pod`). -/
def deletePod (c : Cache) (id : String) : Option Pod × Cache :=
  match c.pods[id]? with
  | none => (none, c)
  | some pod =>
    let containers := c.containers.filter fun _ k => k.podId != id
    (some pod, { c with
      pods := c.pods.erase id
      containers
      pending := c.pending.filter fun k _ => containers.contains k })

/-! ### Containers -/

/-- Adds the container of a request to create one under the next provisional id, and
    returns that id (`insert_container_from_create`). -/
def createContainer (c : Cache) (request : Cri.CreateContainerRequest) :
    Except CacheError String × Cache :=
  match c.pods[request.podSandboxId]? with
  | none => (.error (.podNotFound request.podSandboxId), c)
  | some pod =>
    let id := provisionalId c.nextProvisional
    match Container.ofCreateRequest id request pod with
    | .error e => (.error e, c)
    | .ok container => (.ok id, { c with
        nextProvisional := c.nextProvisional + 1
        containers := c.containers.insert id container
        pending := c.pending.insert id c.refreshes })

/-- Drops a container whose creation failed (`abort_container_create`). Only a pending one
    can be dropped. -/
def abortCreate (c : Cache) (provisionalId : String) : Option Container × Cache :=
  match c.pending[provisionalId]? with
  | none => (none, c)
  | some _ =>
    (c.containers[provisionalId]?, { c with
      pending := c.pending.erase provisionalId
      containers := c.containers.erase provisionalId })

/-- Moves a pending container to the id that the runtime assigned to it
    (`update_container_id`). -/
def assignId (c : Cache) (provisionalId : String) (response : Cri.CreateContainerResponse) :
    Except CacheError Container × Cache :=
  let id := response.containerId
  if id.isEmpty then (.error (.emptyContainerId provisionalId), c)
  else if !c.pending.contains provisionalId then (.error (.containerNotFound provisionalId), c)
  else if c.containers.contains id then (.error (.containerIdInUse id), c)
  else match c.containers[provisionalId]? with
    | none => (.error (.containerNotFound provisionalId), c)
    | some container =>
      let container := { container with id }
      (.ok container, { c with
        containers := (c.containers.erase provisionalId).insert id container
        pending := c.pending.erase provisionalId })

/-- Adds the container of an entry of a list reply (`upsert_container_from_list`). A
    container that is known only takes over the state of the entry. -/
def upsertContainer (c : Cache) (entry : Cri.Container) :
    Except CacheError (Container × Change) × Cache :=
  match c.pods[entry.podSandboxId]? with
  | none => (.error (.podNotFound entry.podSandboxId), c)
  | some pod =>
    match c.containers[entry.id]? with
    | some container =>
      let updated := { container with state := entry.state }
      (.ok (updated, if container.state = entry.state then .unchanged else .updated),
        { c with containers := c.containers.insert entry.id updated })
    | none =>
      match Container.ofListEntry entry pod with
      | .error e => (.error e, c)
      | .ok container =>
        (.ok (container, .added), { c with containers := c.containers.insert entry.id container })

/-- As `upsertContainer`, without saying what changed (`insert_container_from_list`). -/
def listContainer (c : Cache) (entry : Cri.Container) : Except CacheError Container × Cache :=
  match c.upsertContainer entry with
  | (.ok (container, _), c) => (.ok container, c)
  | (.error e, c) => (.error e, c)

/-- Removes a container (`delete_container`). -/
def deleteContainer (c : Cache) (id : String) : Option Container × Cache :=
  match c.containers[id]? with
  | none => (none, c)
  | some container =>
    (some container, { c with
      containers := c.containers.erase id
      pending := c.pending.erase id })

end Cache

end PodCache
