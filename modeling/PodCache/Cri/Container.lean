import PodCache.Cri.Sandbox

/-!
# Messages about containers

The parts of the container runtime interface that deal with containers: the request
to create one, the reply that assigns its id, and the reply that lists all. Every
field of every record may be missing and then has its default.
-/

namespace PodCache.Cri

/-- The identity of a container within its sandbox. -/
structure ContainerMetadata where
  name : String := ""
  attempt : UInt32 := 0
  deriving DecidableEq, Inhabited

instance : Codec ContainerMetadata where
  encode m := .record [("name", encode m.name), ("attempt", encode m.attempt)]
  decode place v := do
    let [name, attempt] ← Record.slots? [["name"], ["attempt"]] v | none
    return {
      name := ← Record.field place "" name
      attempt := ← Record.field place 0 attempt }

/-- The image of a container. -/
structure ImageSpec where
  image : String := ""
  deriving DecidableEq, Inhabited

instance : Codec ImageSpec where
  encode i := .record [("image", encode i.image)]
  decode place v := do
    let [image] ← Record.slots? [["image"]] v | none
    return { image := ← Record.field place "" image }

/-- The name of the image, empty if there is none. -/
def ImageSpec.nameOf : Option ImageSpec → String
  | some spec => spec.image
  | none => ""

/-- An environment variable. -/
structure KeyValue where
  key : String := ""
  value : String := ""
  deriving DecidableEq, Inhabited

instance : Codec KeyValue where
  encode e := .record [("key", encode e.key), ("value", encode e.value)]
  decode place v := do
    let [key, value] ← Record.slots? [["key"], ["value"]] v | none
    return {
      key := ← Record.field place "" key
      value := ← Record.field place "" value }

/-- The control group settings of a container. Times are in microseconds, sizes in
    bytes, and sets of processors and memory nodes are written as lists of ranges. -/
structure LinuxContainerResources where
  cpuPeriod : Int64 := 0
  cpuQuota : Int64 := 0
  cpuShares : Int64 := 0
  memoryLimitInBytes : Int64 := 0
  oomScoreAdj : Int64 := 0
  cpusetCpus : String := ""
  cpusetMems : String := ""
  deriving DecidableEq, Inhabited

instance : Codec LinuxContainerResources where
  encode r := .record [("cpuPeriod", encode r.cpuPeriod), ("cpuQuota", encode r.cpuQuota),
    ("cpuShares", encode r.cpuShares), ("memoryLimitInBytes", encode r.memoryLimitInBytes),
    ("oomScoreAdj", encode r.oomScoreAdj), ("cpusetCpus", encode r.cpusetCpus),
    ("cpusetMems", encode r.cpusetMems)]
  decode place v := do
    let [cpuPeriod, cpuQuota, cpuShares, memoryLimit, oomScoreAdj, cpusetCpus, cpusetMems] ←
      Record.slots? [["cpuPeriod"], ["cpuQuota"], ["cpuShares"], ["memoryLimitInBytes"],
        ["oomScoreAdj"], ["cpusetCpus"], ["cpusetMems"]] v | none
    return {
      cpuPeriod := ← Record.field place 0 cpuPeriod
      cpuQuota := ← Record.field place 0 cpuQuota
      cpuShares := ← Record.field place 0 cpuShares
      memoryLimitInBytes := ← Record.field place 0 memoryLimit
      oomScoreAdj := ← Record.field place 0 oomScoreAdj
      cpusetCpus := ← Record.field place "" cpusetCpus
      cpusetMems := ← Record.field place "" cpusetMems }

/-- The part of a container configuration that is particular to Linux. -/
structure LinuxContainerConfig where
  resources : Option LinuxContainerResources := none
  deriving DecidableEq, Inhabited

instance : Codec LinuxContainerConfig where
  encode c := .record [("resources", encode c.resources)]
  decode place v := do
    let [resources] ← Record.slots? [["resources"]] v | none
    return { resources := ← Record.field place none resources }

/-- The configuration of a container. -/
structure ContainerConfig where
  metadata : Option ContainerMetadata := none
  image : Option ImageSpec := none
  command : List String := []
  args : List String := []
  workingDir : String := ""
  envs : List KeyValue := []
  labels : Table String := ∅
  annotations : Table String := ∅
  linux : Option LinuxContainerConfig := none
  deriving DecidableEq, Inhabited

instance : Codec ContainerConfig where
  encode c := .record [("metadata", encode c.metadata), ("image", encode c.image),
    ("command", encode c.command), ("args", encode c.args), ("workingDir", encode c.workingDir),
    ("envs", encode c.envs), ("labels", encode c.labels),
    ("annotations", encode c.annotations), ("linux", encode c.linux)]
  decode place v := do
    let [metadata, image, command, args, workingDir, envs, labels, annotations, linux] ←
      Record.slots? [["metadata"], ["image"], ["command"], ["args"], ["workingDir"], ["envs"],
        ["labels"], ["annotations"], ["linux"]] v | none
    return {
      metadata := ← Record.field place none metadata
      image := ← Record.field place none image
      command := ← Record.field place [] command
      args := ← Record.field place [] args
      workingDir := ← Record.field place "" workingDir
      envs := ← Record.field place [] envs
      labels := ← Record.field place ∅ labels
      annotations := ← Record.field place ∅ annotations
      linux := ← Record.field place none linux }

/-- The request to create a container in a sandbox. -/
structure CreateContainerRequest where
  podSandboxId : String := ""
  config : Option ContainerConfig := none
  sandboxConfig : Option PodSandboxConfig := none
  deriving DecidableEq, Inhabited

instance : Codec CreateContainerRequest where
  encode r := .record [("podSandboxId", encode r.podSandboxId), ("config", encode r.config),
    ("sandboxConfig", encode r.sandboxConfig)]
  decode place v := do
    let [podSandboxId, config, sandboxConfig] ←
      Record.slots? [["podSandboxId"], ["config"], ["sandboxConfig"]] v | none
    return {
      podSandboxId := ← Record.field place "" podSandboxId
      config := ← Record.field place none config
      sandboxConfig := ← Record.field place none sandboxConfig }

/-- The reply that assigns a created container its id. -/
structure CreateContainerResponse where
  containerId : String := ""
  deriving DecidableEq, Inhabited

instance : Codec CreateContainerResponse where
  encode r := .record [("containerId", encode r.containerId)]
  decode place v := do
    let [containerId] ← Record.slots? [["containerId"]] v | none
    return { containerId := ← Record.field place "" containerId }

/-- A container as a list reply shows it. -/
structure Container where
  id : String := ""
  podSandboxId : String := ""
  metadata : Option ContainerMetadata := none
  image : Option ImageSpec := none
  imageRef : String := ""
  state : ContainerState := .created
  createdAt : Int64 := 0
  labels : Table String := ∅
  annotations : Table String := ∅
  deriving DecidableEq, Inhabited

instance : Codec Container where
  encode c := .record [("id", encode c.id), ("podSandboxId", encode c.podSandboxId),
    ("metadata", encode c.metadata), ("image", encode c.image), ("imageRef", encode c.imageRef),
    ("state", encode c.state), ("createdAt", encode c.createdAt), ("labels", encode c.labels),
    ("annotations", encode c.annotations)]
  decode place v := do
    let [id, podSandboxId, metadata, image, imageRef, state, createdAt, labels, annotations] ←
      Record.slots? [["id"], ["podSandboxId"], ["metadata"], ["image"], ["imageRef"],
        ["state"], ["createdAt"], ["labels"], ["annotations"]] v | none
    return {
      id := ← Record.field place "" id
      podSandboxId := ← Record.field place "" podSandboxId
      metadata := ← Record.field place none metadata
      image := ← Record.field place none image
      imageRef := ← Record.field place "" imageRef
      state := ← Record.field place .created state
      createdAt := ← Record.field place 0 createdAt
      labels := ← Record.field place ∅ labels
      annotations := ← Record.field place ∅ annotations }

/-- The reply that lists all containers. -/
structure ListContainersResponse where
  containers : List Container := []
  deriving DecidableEq, Inhabited

instance : Codec ListContainersResponse where
  encode r := .record [("containers", encode r.containers)]
  decode place v := do
    let [containers] ← Record.slots? [["containers"]] v | none
    return { containers := ← Record.field place [] containers }

end PodCache.Cri
