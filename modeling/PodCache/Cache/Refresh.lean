import PodCache.Cache.Basic

/-!
# Refreshing the cache

A list reply names all sandboxes, or all containers, that the runtime has. The
cache is brought in line with it: unknown entries are added, known ones take over
their state, and what the reply does not name is removed. Entries that cannot be
added are passed over. The machine may stop while it builds the pod of an entry; then
nothing is removed, and the entries before that one stay taken over.

A pending container is unknown to the runtime and survives the first container
refresh after it was added; it is removed by the second.
-/

namespace PodCache

/-- What a refresh changed, as lists of ids. -/
structure Refresh where
  added : List String := []
  updated : List String := []
  removed : List String := []
  deriving DecidableEq, Repr

namespace Refresh

/-- Whether nothing changed. -/
def isEmpty (r : Refresh) : Bool := r.added.isEmpty && r.updated.isEmpty && r.removed.isEmpty

/-- Takes down what one entry changed (`record`). -/
def record (r : Refresh) (id : String) : Cache.Change → Refresh
  | .added => { r with added := id :: r.added }
  | .updated => { r with updated := id :: r.updated }
  | .unchanged => r

/-- The same changes with each list in order (`sort`). -/
def sorted (r : Refresh) : Refresh where
  added := r.added.mergeSort
  updated := r.updated.mergeSort
  removed := r.removed.mergeSort

end Refresh

namespace Cache

/-- Takes over one entry of a sandbox list. -/
def takePod (s : Cache × Refresh) (sandbox : Cri.PodSandbox) : Cache × Refresh :=
  match s.1.upsertPod sandbox with
  | (.ok (_, change), c) => (c, s.2.record sandbox.id change)
  | (_, c) => (c, s.2)

/-- Takes over the entries of a sandbox list one after another, unless the machine stops at
    one of them. No entry is an error. -/
def takeSandboxes (s : Cache × Refresh) : List Cri.PodSandbox → Outcome Empty Refresh × Cache
  | [] => (.ok s.2, s.1)
  | sandbox :: sandboxes =>
    match s.1.upsertPod sandbox with
    | (.stop, c) => (.stop, c)
    | _ => takeSandboxes (takePod s sandbox) sandboxes

/-- Removes the pods that a sandbox list does not name. -/
def removeUnlisted (c : Cache) (sandboxes : List Cri.PodSandbox) (changes : Refresh) :
    Refresh × Cache :=
  let seen := sandboxes.map (·.id)
  let stale := c.pods.keys.filter fun id => !seen.contains id
  ({ changes with removed := stale }.sorted, stale.foldl (fun c id => (c.deletePod id).2) c)

/-- Brings the pods in line with a sandbox list (`refresh_pods`). -/
def refreshPods (c : Cache) (reply : Cri.ListPodSandboxResponse) :
    Outcome Empty Refresh × Cache :=
  match takeSandboxes (c, {}) reply.items with
  | (.ok changes, listed) =>
    let (changes, kept) := listed.removeUnlisted reply.items changes
    (.ok changes, kept)
  | (answer, listed) => (answer, listed)

/-- Takes over one entry of a container list. -/
def takeContainer (s : Cache × Refresh) (entry : Cri.Container) : Cache × Refresh :=
  match s.1.upsertContainer entry with
  | (.ok (_, change), c) => (c, s.2.record entry.id change)
  | (.error _, c) => (c, s.2)

/-- Whether a container goes when the runtime has listed the containers in `seen`: a
    pending one that an earlier refresh has spared, or another that is not listed. -/
def isStale (c : Cache) (seen : List String) (id : String) : Bool :=
  match c.pending[id]? with
  | some spared => spared < c.refreshes
  | none => !seen.contains id

/-- Brings the containers in line with a container list (`refresh_containers`). -/
def refreshContainers (c : Cache) (reply : Cri.ListContainersResponse) : Refresh × Cache :=
  let (listed, changes) := reply.containers.foldl takeContainer (c, {})
  let seen := reply.containers.map (·.id)
  let stale := listed.containers.keys.filter (listed.isStale seen)
  let kept := stale.foldl (fun c id => (c.deleteContainer id).2) listed
  ({ changes with removed := stale }.sorted, { kept with refreshes := kept.refreshes + 1 })

end Cache

end PodCache
