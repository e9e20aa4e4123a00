import PodCache.Cri.State

/-!
# Messages about pod sandboxes

The parts of the container runtime interface that deal with sandboxes: the request
to run one and the reply that lists all. Every field of every record may be missing
and then has its default.
-/

namespace PodCache.Cri

/-- The identity that the orchestrator gave a sandbox. -/
structure PodSandboxMetadata where
  name : String := ""
  uid : String := ""
  namespaceName : String := ""
  attempt : UInt32 := 0
  deriving DecidableEq, Inhabited

instance : Codec PodSandboxMetadata where
  encode m := .record [("name", encode m.name), ("uid", encode m.uid),
    ("namespace", encode m.namespaceName), ("attempt", encode m.attempt)]
  decode place v := do
    let [name, uid, namespaceName, attempt] ←
      Record.slots? [["name"], ["uid"], ["namespace"], ["attempt"]] v | none
    return {
      name := ← Record.field place "" name
      uid := ← Record.field place "" uid
      namespaceName := ← Record.field place "" namespaceName
      attempt := ← Record.field place 0 attempt }

/-- The part of a sandbox configuration that is particular to Linux. -/
structure LinuxPodSandboxConfig where
  cgroupParent : String := ""
  deriving DecidableEq, Inhabited

instance : Codec LinuxPodSandboxConfig where
  encode c := .record [("cgroupParent", encode c.cgroupParent)]
  decode place v := do
    let [cgroupParent] ← Record.slots? [["cgroupParent"]] v | none
    return { cgroupParent := ← Record.field place "" cgroupParent }

/-- The configuration of a sandbox. -/
structure PodSandboxConfig where
  metadata : Option PodSandboxMetadata := none
  hostname : String := ""
  logDirectory : String := ""
  labels : Table String := ∅
  annotations : Table String := ∅
  linux : Option LinuxPodSandboxConfig := none
  deriving DecidableEq, Inhabited

/-- The parent cgroup of a sandbox, empty if none is configured. -/
def PodSandboxConfig.cgroupParent (c : PodSandboxConfig) : String :=
  match c.linux with
  | some linux => linux.cgroupParent
  | none => ""

instance : Codec PodSandboxConfig where
  encode c := .record [("metadata", encode c.metadata), ("hostname", encode c.hostname),
    ("logDirectory", encode c.logDirectory), ("labels", encode c.labels),
    ("annotations", encode c.annotations), ("linux", encode c.linux)]
  decode place v := do
    let [metadata, hostname, logDirectory, labels, annotations, linux] ←
      Record.slots? [["metadata"], ["hostname"], ["logDirectory"], ["labels"],
        ["annotations"], ["linux"]] v | none
    return {
      metadata := ← Record.field place none metadata
      hostname := ← Record.field place "" hostname
      logDirectory := ← Record.field place "" logDirectory
      labels := ← Record.field place ∅ labels
      annotations := ← Record.field place ∅ annotations
      linux := ← Record.field place none linux }

/-- The request to run a sandbox. -/
structure RunPodSandboxRequest where
  config : Option PodSandboxConfig := none
  runtimeHandler : String := ""
  deriving DecidableEq, Inhabited

instance : Codec RunPodSandboxRequest where
  encode r := .record [("config", encode r.config), ("runtimeHandler", encode r.runtimeHandler)]
  decode place v := do
    let [config, runtimeHandler] ← Record.slots? [["config"], ["runtimeHandler"]] v | none
    return {
      config := ← Record.field place none config
      runtimeHandler := ← Record.field place "" runtimeHandler }

/-- A sandbox as a list reply shows it. -/
structure PodSandbox where
  id : String := ""
  metadata : Option PodSandboxMetadata := none
  state : SandboxState := .ready
  createdAt : Int64 := 0
  labels : Table String := ∅
  annotations : Table String := ∅
  runtimeHandler : String := ""
  deriving DecidableEq, Inhabited

instance : Codec PodSandbox where
  encode s := .record [("id", encode s.id), ("metadata", encode s.metadata),
    ("state", encode s.state), ("createdAt", encode s.createdAt), ("labels", encode s.labels),
    ("annotations", encode s.annotations), ("runtimeHandler", encode s.runtimeHandler)]
  decode place v := do
    let [id, metadata, state, createdAt, labels, annotations, runtimeHandler] ←
      Record.slots? [["id"], ["metadata"], ["state"], ["createdAt"], ["labels"],
        ["annotations"], ["runtimeHandler"]] v | none
    return {
      id := ← Record.field place "" id
      metadata := ← Record.field place none metadata
      state := ← Record.field place .ready state
      createdAt := ← Record.field place 0 createdAt
      labels := ← Record.field place ∅ labels
      annotations := ← Record.field place ∅ annotations
      runtimeHandler := ← Record.field place "" runtimeHandler }

/-- The reply that lists all sandboxes. -/
structure ListPodSandboxResponse where
  items : List PodSandbox := []
  deriving DecidableEq, Inhabited

instance : Codec ListPodSandboxResponse where
  encode r := .record [("items", encode r.items)]
  decode place v := do
    let [items] ← Record.slots? [["items"]] v | none
    return { items := ← Record.field place [] items }

end PodCache.Cri
