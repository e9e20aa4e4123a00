import PodCache.Cache.Query

/-!
# Summaries

What a replay leaves behind: all pods of the cache in the order of their ids, each
with its class and its containers.
-/

namespace PodCache.Replay

/-- A container in a summary. -/
structure ContainerSummary where
  id : String
  name : String
  state : Cri.ContainerState
  image : String
  deriving DecidableEq

namespace ContainerSummary

/-- All fields are required. -/
instance : Codec ContainerSummary where
  encode s := .record [("id", encode s.id), ("name", encode s.name), ("state", encode s.state),
    ("image", encode s.image)]
  decode place v := do
    let [id, name, state, image] ← Record.slots? [["id"], ["name"], ["state"], ["image"]] v | none
    return {
      id := ← Record.required place id
      name := ← Record.required place name
      state := ← Record.required place state
      image := ← Record.required place image }

/-- The summary of a container. -/
def ofContainer (k : Container) : ContainerSummary where
  id := k.id
  name := k.name
  state := k.state
  image := k.image

end ContainerSummary

/-- A pod in a summary. -/
structure PodSummary where
  id : String
  uid : String
  name : String
  namespaceName : String
  state : Cri.SandboxState
  cgroupParent : String
  qosClass : QosClass
  containers : List ContainerSummary
  initContainers : List ContainerSummary
  deriving DecidableEq

namespace PodSummary

/-- All fields are required. -/
instance : Codec PodSummary where
  encode s := .record [("id", encode s.id), ("uid", encode s.uid), ("name", encode s.name),
    ("namespace", encode s.namespaceName), ("state", encode s.state),
    ("cgroupParent", encode s.cgroupParent), ("qosClass", encode s.qosClass),
    ("containers", encode s.containers), ("initContainers", encode s.initContainers)]
  decode place v := do
    let [id, uid, name, namespaceName, state, cgroupParent, qosClass, containers, initContainers] ←
      Record.slots? [["id"], ["uid"], ["name"], ["namespace"], ["state"], ["cgroupParent"],
        ["qosClass"], ["containers"], ["initContainers"]] v | none
    return {
      id := ← Record.required place id
      uid := ← Record.required place uid
      name := ← Record.required place name
      namespaceName := ← Record.required place namespaceName
      state := ← Record.required place state
      cgroupParent := ← Record.required place cgroupParent
      qosClass := ← Record.required place qosClass
      containers := ← Record.required place containers
      initContainers := ← Record.required place initContainers }

/-- The summary of a pod in a cache. -/
def ofPod (c : Cache) (p : Pod) : PodSummary where
  id := p.id
  uid := p.uid
  name := p.name
  namespaceName := p.namespaceName
  state := p.state
  cgroupParent := p.cgroupParent
  qosClass := p.qosClass
  containers := (p.regularContainers c).map .ofContainer
  initContainers := (p.initContainers c).map .ofContainer

end PodSummary

/-- The summaries of all pods (`summarize`). The class of each pod is noted. -/
def summarize (c : Cache) : List PodSummary × Cache :=
  (c.pods.values.map (.ofPod c), { c with pods := c.pods.map fun _ p => p.noteClass })

end PodCache.Replay
