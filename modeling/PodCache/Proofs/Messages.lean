import PodCache.Cri.Container
import PodCache.Proofs.Spelling
import PodCache.Replay.Summary

/-!
# The records of messages

The forms of the fields of every record that messages and summaries are made of: the name
that a field is written under, its place among the others, and the default that it has if
it is missing. From them it follows that every record is read back from what is written for
it; that the fields may come in any order, with unknown ones among them and without those
that have their default; and that a list of the fields in their order will do as well, at
every level of a message. The fields of summaries have no defaults.
-/

namespace PodCache

open Record (field_of_spells required_of_spells)

namespace Cri

instance : Message PodSandboxMetadata where
  forms m := [.of "name" "" m.name, .of "uid" "" m.uid, .of "namespace" "" m.namespaceName,
    .of "attempt" 0 m.attempt]
  fields := [["name"], ["uid"], ["namespace"], ["attempt"]]
  decode_of_slots {v slots m} sorted held place := by
    match slots, held with
    | _, .cons name (.cons uid (.cons namespaceName (.cons attempt .nil))) =>
      simp [decode, sorted, field_of_spells name, field_of_spells uid,
        field_of_spells namespaceName, field_of_spells attempt]

instance : Canonical PodSandboxMetadata := Message.canonical fun m => by simp [Message.forms]

instance : Message LinuxPodSandboxConfig where
  forms c := [.of "cgroupParent" "" c.cgroupParent]
  fields := [["cgroupParent"]]
  decode_of_slots {v slots c} sorted held place := by
    match slots, held with
    | _, .cons cgroupParent .nil =>
      simp [decode, sorted, field_of_spells cgroupParent]

instance : Canonical LinuxPodSandboxConfig := Message.canonical fun c => by simp [Message.forms]

instance : Message PodSandboxConfig where
  forms c := [.of "metadata" none c.metadata, .of "hostname" "" c.hostname,
    .of "logDirectory" "" c.logDirectory, .of "labels" ∅ c.labels,
    .of "annotations" ∅ c.annotations, .of "linux" none c.linux]
  fields := [["metadata"], ["hostname"], ["logDirectory"], ["labels"], ["annotations"], ["linux"]]
  decode_of_slots {v slots c} sorted held place := by
    match slots, held with
    | _, .cons metadata (.cons hostname (.cons logDirectory (.cons labels (.cons annotations
        (.cons linux .nil))))) =>
      simp [decode, sorted, field_of_spells metadata, field_of_spells hostname,
        field_of_spells logDirectory, field_of_spells labels, field_of_spells annotations,
        field_of_spells linux]

instance : Canonical PodSandboxConfig := Message.canonical fun c => by simp [Message.forms]

instance : Message RunPodSandboxRequest where
  forms r := [.of "config" none r.config, .of "runtimeHandler" "" r.runtimeHandler]
  fields := [["config"], ["runtimeHandler"]]
  decode_of_slots {v slots r} sorted held place := by
    match slots, held with
    | _, .cons config (.cons runtimeHandler .nil) =>
      simp [decode, sorted, field_of_spells config, field_of_spells runtimeHandler]

instance : Canonical RunPodSandboxRequest := Message.canonical fun r => by simp [Message.forms]

instance : Message PodSandbox where
  forms s := [.of "id" "" s.id, .of "metadata" none s.metadata, .of "state" .ready s.state,
    .of "createdAt" 0 s.createdAt, .of "labels" ∅ s.labels, .of "annotations" ∅ s.annotations,
    .of "runtimeHandler" "" s.runtimeHandler]
  fields := [["id"], ["metadata"], ["state"], ["createdAt"], ["labels"], ["annotations"],
    ["runtimeHandler"]]
  decode_of_slots {v slots s} sorted held place := by
    match slots, held with
    | _, .cons id (.cons metadata (.cons state (.cons createdAt (.cons labels (.cons annotations
        (.cons runtimeHandler .nil)))))) =>
      simp [decode, sorted, field_of_spells id, field_of_spells metadata, field_of_spells state,
        field_of_spells createdAt, field_of_spells labels, field_of_spells annotations,
        field_of_spells runtimeHandler]

instance : Canonical PodSandbox := Message.canonical fun s => by simp [Message.forms]

instance : Message ListPodSandboxResponse where
  forms r := [.of "items" [] r.items]
  fields := [["items"]]
  decode_of_slots {v slots r} sorted held place := by
    match slots, held with
    | _, .cons items .nil =>
      simp [decode, sorted, field_of_spells items]

instance : Canonical ListPodSandboxResponse := Message.canonical fun r => by simp [Message.forms]

instance : Message ContainerMetadata where
  forms m := [.of "name" "" m.name, .of "attempt" 0 m.attempt]
  fields := [["name"], ["attempt"]]
  decode_of_slots {v slots m} sorted held place := by
    match slots, held with
    | _, .cons name (.cons attempt .nil) =>
      simp [decode, sorted, field_of_spells name, field_of_spells attempt]

instance : Canonical ContainerMetadata := Message.canonical fun m => by simp [Message.forms]

instance : Message ImageSpec where
  forms i := [.of "image" "" i.image]
  fields := [["image"]]
  decode_of_slots {v slots i} sorted held place := by
    match slots, held with
    | _, .cons image .nil =>
      simp [decode, sorted, field_of_spells image]

instance : Canonical ImageSpec := Message.canonical fun i => by simp [Message.forms]

instance : Message KeyValue where
  forms e := [.of "key" "" e.key, .of "value" "" e.value]
  fields := [["key"], ["value"]]
  decode_of_slots {v slots e} sorted held place := by
    match slots, held with
    | _, .cons key (.cons value .nil) =>
      simp [decode, sorted, field_of_spells key, field_of_spells value]

instance : Canonical KeyValue := Message.canonical fun e => by simp [Message.forms]

instance : Message LinuxContainerResources where
  forms r := [.of "cpuPeriod" 0 r.cpuPeriod, .of "cpuQuota" 0 r.cpuQuota,
    .of "cpuShares" 0 r.cpuShares, .of "memoryLimitInBytes" 0 r.memoryLimitInBytes,
    .of "oomScoreAdj" 0 r.oomScoreAdj, .of "cpusetCpus" "" r.cpusetCpus,
    .of "cpusetMems" "" r.cpusetMems]
  fields := [["cpuPeriod"], ["cpuQuota"], ["cpuShares"], ["memoryLimitInBytes"], ["oomScoreAdj"],
    ["cpusetCpus"], ["cpusetMems"]]
  decode_of_slots {v slots r} sorted held place := by
    match slots, held with
    | _, .cons cpuPeriod (.cons cpuQuota (.cons cpuShares (.cons memoryLimitInBytes (.cons
        oomScoreAdj (.cons cpusetCpus (.cons cpusetMems .nil)))))) =>
      simp [decode, sorted, field_of_spells cpuPeriod, field_of_spells cpuQuota,
        field_of_spells cpuShares, field_of_spells memoryLimitInBytes,
        field_of_spells oomScoreAdj, field_of_spells cpusetCpus, field_of_spells cpusetMems]

instance : Canonical LinuxContainerResources := Message.canonical fun r => by simp [Message.forms]

instance : Message LinuxContainerConfig where
  forms c := [.of "resources" none c.resources]
  fields := [["resources"]]
  decode_of_slots {v slots c} sorted held place := by
    match slots, held with
    | _, .cons resources .nil =>
      simp [decode, sorted, field_of_spells resources]

instance : Canonical LinuxContainerConfig := Message.canonical fun c => by simp [Message.forms]

instance : Message ContainerConfig where
  forms c := [.of "metadata" none c.metadata, .of "image" none c.image,
    .of "command" [] c.command, .of "args" [] c.args, .of "workingDir" "" c.workingDir,
    .of "envs" [] c.envs, .of "labels" ∅ c.labels, .of "annotations" ∅ c.annotations,
    .of "linux" none c.linux]
  fields := [["metadata"], ["image"], ["command"], ["args"], ["workingDir"], ["envs"], ["labels"],
    ["annotations"], ["linux"]]
  decode_of_slots {v slots c} sorted held place := by
    match slots, held with
    | _, .cons metadata (.cons image (.cons command (.cons args (.cons workingDir (.cons envs
        (.cons labels (.cons annotations (.cons linux .nil)))))))) =>
      simp [decode, sorted, field_of_spells metadata, field_of_spells image,
        field_of_spells command, field_of_spells args, field_of_spells workingDir,
        field_of_spells envs, field_of_spells labels, field_of_spells annotations,
        field_of_spells linux]

instance : Canonical ContainerConfig := Message.canonical fun c => by simp [Message.forms]

instance : Message CreateContainerRequest where
  forms r := [.of "podSandboxId" "" r.podSandboxId, .of "config" none r.config,
    .of "sandboxConfig" none r.sandboxConfig]
  fields := [["podSandboxId"], ["config"], ["sandboxConfig"]]
  decode_of_slots {v slots r} sorted held place := by
    match slots, held with
    | _, .cons podSandboxId (.cons config (.cons sandboxConfig .nil)) =>
      simp [decode, sorted, field_of_spells podSandboxId, field_of_spells config,
        field_of_spells sandboxConfig]

instance : Canonical CreateContainerRequest := Message.canonical fun r => by simp [Message.forms]

instance : Message CreateContainerResponse where
  forms r := [.of "containerId" "" r.containerId]
  fields := [["containerId"]]
  decode_of_slots {v slots r} sorted held place := by
    match slots, held with
    | _, .cons containerId .nil =>
      simp [decode, sorted, field_of_spells containerId]

instance : Canonical CreateContainerResponse := Message.canonical fun r => by simp [Message.forms]

instance : Message Container where
  forms c := [.of "id" "" c.id, .of "podSandboxId" "" c.podSandboxId,
    .of "metadata" none c.metadata, .of "image" none c.image, .of "imageRef" "" c.imageRef,
    .of "state" .created c.state, .of "createdAt" 0 c.createdAt, .of "labels" ∅ c.labels,
    .of "annotations" ∅ c.annotations]
  fields := [["id"], ["podSandboxId"], ["metadata"], ["image"], ["imageRef"], ["state"],
    ["createdAt"], ["labels"], ["annotations"]]
  decode_of_slots {v slots c} sorted held place := by
    match slots, held with
    | _, .cons id (.cons podSandboxId (.cons metadata (.cons image (.cons imageRef (.cons state
        (.cons createdAt (.cons labels (.cons annotations .nil)))))))) =>
      simp [decode, sorted, field_of_spells id, field_of_spells podSandboxId,
        field_of_spells metadata, field_of_spells image, field_of_spells imageRef,
        field_of_spells state, field_of_spells createdAt, field_of_spells labels,
        field_of_spells annotations]

instance : Canonical Container := Message.canonical fun c => by simp [Message.forms]

instance : Message ListContainersResponse where
  forms r := [.of "containers" [] r.containers]
  fields := [["containers"]]
  decode_of_slots {v slots r} sorted held place := by
    match slots, held with
    | _, .cons containers .nil =>
      simp [decode, sorted, field_of_spells containers]

instance : Canonical ListContainersResponse := Message.canonical fun r => by simp [Message.forms]

end Cri

namespace Replay

instance : Message ContainerSummary where
  forms s := [.required "id" s.id, .required "name" s.name, .required "state" s.state,
    .required "image" s.image]
  fields := [["id"], ["name"], ["state"], ["image"]]
  decode_of_slots {v slots s} sorted held place := by
    match slots, held with
    | _, .cons id (.cons name (.cons state (.cons image .nil))) =>
      simp [decode, sorted, required_of_spells id, required_of_spells name,
        required_of_spells state, required_of_spells image]

instance : Canonical ContainerSummary := Message.canonical fun s => by simp [Message.forms]

instance : Message PodSummary where
  forms s := [.required "id" s.id, .required "uid" s.uid, .required "name" s.name,
    .required "namespace" s.namespaceName, .required "state" s.state,
    .required "cgroupParent" s.cgroupParent, .required "qosClass" s.qosClass,
    .required "containers" s.containers, .required "initContainers" s.initContainers]
  fields := [["id"], ["uid"], ["name"], ["namespace"], ["state"], ["cgroupParent"], ["qosClass"],
    ["containers"], ["initContainers"]]
  decode_of_slots {v slots s} sorted held place := by
    match slots, held with
    | _, .cons id (.cons uid (.cons name (.cons namespaceName (.cons state (.cons cgroupParent
        (.cons qosClass (.cons containers (.cons initContainers .nil)))))))) =>
      simp [decode, sorted, required_of_spells id, required_of_spells uid,
        required_of_spells name, required_of_spells namespaceName, required_of_spells state,
        required_of_spells cgroupParent, required_of_spells qosClass,
        required_of_spells containers, required_of_spells initContainers]

instance : Canonical PodSummary := Message.canonical fun s => by simp [Message.forms]

end Replay

open Cri Replay in
/-- Every record of a message, and every summary, is read back, whichever way it is spelled. -/
theorem messages_readBack :
    (ReadsBack PodSandboxMetadata ∧ ReadsBack LinuxPodSandboxConfig ∧
      ReadsBack PodSandboxConfig ∧ ReadsBack RunPodSandboxRequest ∧ ReadsBack PodSandbox ∧
      ReadsBack ListPodSandboxResponse) ∧
    (ReadsBack ContainerMetadata ∧ ReadsBack ImageSpec ∧ ReadsBack KeyValue ∧
      ReadsBack LinuxContainerResources ∧ ReadsBack LinuxContainerConfig ∧
      ReadsBack ContainerConfig ∧ ReadsBack CreateContainerRequest ∧
      ReadsBack CreateContainerResponse ∧ ReadsBack Cri.Container ∧
      ReadsBack ListContainersResponse) ∧
    ReadsBack ContainerSummary ∧ ReadsBack PodSummary :=
  ⟨⟨readsBack _, readsBack _, readsBack _, readsBack _, readsBack _, readsBack _⟩,
    ⟨readsBack _, readsBack _, readsBack _, readsBack _, readsBack _, readsBack _, readsBack _,
      readsBack _, readsBack _, readsBack _⟩,
    readsBack _, readsBack _⟩

/-- A sandbox as a list without its last fields, with its state by the short name. -/
example (place : Place) :
    decode place (.record [("total", .int 1), ("items", .list
      [.list [.text "p1", .record [("uid", .text "u1")], .text "NotReady"]])]) =
    some ({ items := [{ id := "p1", metadata := some { uid := "u1" }, state := .notReady }] } :
      Cri.ListPodSandboxResponse) := by
  cases place <;> rfl

end PodCache
