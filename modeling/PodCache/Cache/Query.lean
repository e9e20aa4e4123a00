import PodCache.Cache.Basic

/-!
# Queries

What can be asked of the cache about its pods and containers. The class of a pod is
noted in the cache when it is asked for; no other answer depends on that note.
-/

namespace PodCache

namespace Cache

/-- The containers of a pod, in the order of their ids (`pod_containers`). -/
def podContainers (c : Cache) (podId : String) : List Container :=
  c.containers.values.filter (·.podId == podId)

/-- Notes the class of a pod. -/
def noteClass (c : Cache) (podId : String) : Cache :=
  { c with pods := c.pods.modify podId Pod.noteClass }

/-- The class of a pod, which is noted (`qos_class`). -/
def podClass (c : Cache) (podId : String) : Option QosClass × Cache :=
  (c.pods[podId]?.map Pod.qosClass, c.noteClass podId)

end Cache

namespace Pod

/-- The containers of the pod that are not init containers: those with requirements in
    the resource model, or all if the pod has no model (`containers`). -/
def regularContainers (p : Pod) (c : Cache) : List Container :=
  match p.resources with
  | none => c.podContainers p.id
  | some r => (c.podContainers p.id).filter fun k => r.isRegular k.resourceKeys

/-- The init containers of the pod; none without a resource model (`init_containers`). -/
def initContainers (p : Pod) (c : Cache) : List Container :=
  match p.resources with
  | none => []
  | some r => (c.podContainers p.id).filter fun k => r.isInit k.resourceKeys

end Pod

namespace Container

/-- The owning pod. -/
def pod? (k : Container) (c : Cache) : Option Pod := c.pods[k.podId]?

/-- The requirements that the model of the owning pod declares for the container
    (`resource_requirements`). -/
def requirements (k : Container) (c : Cache) : ResourceRequirements :=
  (((k.pod? c).bind (·.resources)).bind (·.container? k.resourceKeys)).getD {}

/-- The class of the owning pod. -/
def qosClass (k : Container) (c : Cache) : QosClass :=
  ((k.pod? c).map Pod.qosClass).getD .bestEffort

end Container

/-- The class of a container, which is noted for its pod. -/
def Cache.containerClass (c : Cache) (id : String) : Option QosClass × Cache :=
  match c.containers[id]? with
  | none => (none, c)
  | some k => (some (k.qosClass c), c.noteClass k.podId)

end PodCache
