import PodCache.Cache.Error
import PodCache.Cri.Sandbox
import PodCache.Qos

/-!
# Pods

A pod as the cache keeps it, built from the request to run its sandbox or from an
entry of a list reply. Its resource model is read from an annotation once, when the
pod is built; an annotation that cannot be read counts as none. The machine may stop
while it reads the annotation, and then there is no pod. The class of the pod is noted
when it is first asked for.
-/

namespace PodCache

/-- A pod sandbox that the runtime knows. -/
structure Pod where
  id : String
  /-- What the uid label holds, empty without that label. -/
  uid : String
  name : String
  namespaceName : String
  state : Cri.SandboxState
  labels : Table String
  annotations : Table String
  /-- The parent cgroup, empty if it is not known. -/
  cgroupParent : String
  resources : Option PodResources
  /-- The class of the pod, once it has been asked for. -/
  notedClass : Option QosClass
  deriving DecidableEq

namespace Pod

/-- The annotation that holds the resource model (`KEY_RESOURCE_ANNOTATION`). -/
def modelKey : String := "intel.com/resources"

/-- The label that holds the uid of the pod (`KUBERNETES_POD_UID_LABEL`). -/
def uidLabel : String := "io.kubernetes.pod.uid"

/-- The resource model that the annotations hold, if it can be read
    (`parse_resource_annotations`). -/
def resourcesOf {ε : Type} (annotations : Table String) : Outcome ε (Option PodResources) :=
  match Annotations.lookup annotations modelKey Annotations.resources with
  | .ok r => .ok r
  | .error _ => .ok none
  | .stop => .stop

/-- The uid that the labels hold (`extract_labels`). -/
def uidOf (labels : Table String) : String := labels[uidLabel]?.getD ""

/-- The pod of a request to run a sandbox (`from_run_request`). A sandbox that has just
    been run is ready. -/
def ofRunRequest (id : String) (request : Cri.RunPodSandboxRequest) : Outcome CacheError Pod :=
  match request.config with
  | none => .error (.missingPodConfig id)
  | some config =>
    match config.metadata with
    | none => .error (.missingPodMetadata id .request)
    | some metadata => do
      let resources ← resourcesOf config.annotations
      return {
        id
        uid := uidOf config.labels
        name := metadata.name
        namespaceName := metadata.namespaceName
        state := .ready
        labels := config.labels
        annotations := config.annotations
        cgroupParent := config.cgroupParent
        resources
        notedClass := none }

/-- The pod of an entry of a list reply, with the state of the entry
    (`from_list_response`). -/
def ofListEntry (sandbox : Cri.PodSandbox) : Outcome CacheError Pod :=
  match sandbox.metadata with
  | none => .error (.missingPodMetadata sandbox.id .reply)
  | some metadata => do
    let resources ← resourcesOf sandbox.annotations
    return {
      id := sandbox.id
      uid := uidOf sandbox.labels
      name := metadata.name
      namespaceName := metadata.namespaceName
      state := sandbox.state
      labels := sandbox.labels
      annotations := sandbox.annotations
      cgroupParent := ""
      resources
      notedClass := none }

/-- The resource model, empty if the pod has none (`resource_requirements`). -/
def resourceModel (p : Pod) : PodResources := p.resources.getD {}

/-- The class of the pod: the one noted, or else the one that its model gives
    (`qos_class`). -/
def qosClass (p : Pod) : QosClass := p.notedClass.getD (Qos.classify p.resourceModel)

/-- The pod with its class noted. -/
def noteClass (p : Pod) : Pod := { p with notedClass := some p.qosClass }

@[simp] theorem qosClass_noteClass (p : Pod) : p.noteClass.qosClass = p.qosClass := rfl

end Pod

end PodCache
