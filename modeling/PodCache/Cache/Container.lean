import PodCache.Cache.Pod
import PodCache.Cri.Container

/-!
# Containers

A container as the cache keeps it, built from the request to create it or from an
entry of a list reply, in either case for the pod that owns it.
-/

namespace PodCache

/-- A container that the runtime knows or is asked to create. -/
structure Container where
  id : String
  /-- The id of the owning pod. -/
  podId : String
  name : String
  /-- The namespace of the owning pod. -/
  namespaceName : String
  state : Cri.ContainerState
  image : String
  command : List String
  args : List String
  env : List Cri.KeyValue
  labels : Table String
  annotations : Table String
  linuxResources : Option Cri.LinuxContainerResources
  deriving DecidableEq

namespace Container

/-- The container of a request to create one, under the given id
    (`from_create_request`). -/
def ofCreateRequest (id : String) (request : Cri.CreateContainerRequest) (pod : Pod) :
    Except CacheError Container :=
  match request.config with
  | none => .error (.missingContainerConfig id)
  | some config =>
    match config.metadata with
    | none => .error (.missingContainerMetadata id .request)
    | some metadata => .ok {
        id
        podId := pod.id
        name := metadata.name
        namespaceName := pod.namespaceName
        state := .created
        image := Cri.ImageSpec.nameOf config.image
        command := config.command
        args := config.args
        env := config.envs
        labels := config.labels
        annotations := config.annotations
        linuxResources := config.linux.bind (·.resources) }

/-- The container of an entry of a list reply, with the state of the entry
    (`from_list_response`). -/
def ofListEntry (entry : Cri.Container) (pod : Pod) : Except CacheError Container :=
  match entry.metadata with
  | none => .error (.missingContainerMetadata entry.id .reply)
  | some metadata => .ok {
      id := entry.id
      podId := pod.id
      name := metadata.name
      namespaceName := pod.namespaceName
      state := entry.state
      image := Cri.ImageSpec.nameOf entry.image
      command := []
      args := []
      env := []
      labels := entry.labels
      annotations := entry.annotations
      linuxResources := none }

/-- The keys under which a resource model may refer to the container
    (`resource_keys`). -/
def resourceKeys (c : Container) : List String := [c.id, c.name]

/-- The value of an environment variable (`env`); of several with one name the first
    counts. -/
def env? (c : Container) (key : String) : Option String :=
  (c.env.find? (·.key == key)).map (·.value)

end Container

end PodCache
