import PodCache.Cri.Container

/-!
# Recorded events

What is recorded of the traffic between the orchestrator and the runtime: the
requests that were answered, together with the answer, and the replies that list
everything. A recorded event is a map that holds the name of the event under a key
of its own, beside the fields of the event, or a list that starts with the name.
-/

namespace PodCache.Replay

/-- A recorded event. -/
inductive Event where
  /-- A sandbox was run, and the runtime gave it this id. -/
  | runPodSandbox (id : String) (request : Cri.RunPodSandboxRequest)
  | listPodSandbox (reply : Cri.ListPodSandboxResponse)
  | removePodSandbox (id : String)
  /-- A container was to be created, and the runtime responded or failed. Neither may
      be on record. -/
  | createContainer (request : Cri.CreateContainerRequest)
      (response : Option Cri.CreateContainerResponse) (error : Option String)
  | listContainers (reply : Cri.ListContainersResponse)
  | removeContainer (id : String)
  deriving DecidableEq

namespace Event

/-- The name of the event. -/
def name : Event → String
  | runPodSandbox .. => "runPodSandbox"
  | listPodSandbox _ => "listPodSandbox"
  | removePodSandbox _ => "removePodSandbox"
  | createContainer .. => "createContainer"
  | listContainers _ => "listContainers"
  | removeContainer _ => "removeContainer"

/-- Reads the fields of the event with the given name. -/
def ofFields (name : String) (v : Value) : Option Event :=
  match name with
  | "runPodSandbox" => do
    let [id, request] ← Record.slots? [["id"], ["request"]] v | none
    return .runPodSandbox (← Record.required .event id) (← Record.required .event request)
  | "listPodSandbox" => do
    let [reply] ← Record.slots? [["reply"]] v | none
    return .listPodSandbox (← Record.required .event reply)
  | "removePodSandbox" => do
    let [id] ← Record.slots? [["id"]] v | none
    return .removePodSandbox (← Record.required .event id)
  | "createContainer" => do
    let [request, response, error] ← Record.slots? [["request"], ["response"], ["error"]] v | none
    return .createContainer (← Record.required .event request)
      (← Record.field .event none response) (← Record.field .event none error)
  | "listContainers" => do
    let [reply] ← Record.slots? [["reply"]] v | none
    return .listContainers (← Record.required .event reply)
  | "removeContainer" => do
    let [id] ← Record.slots? [["id"]] v | none
    return .removeContainer (← Record.required .event id)
  | _ => none

/-- The key that the name of an event stands under. -/
def nameKey : String := "event"

/-- Whether a map entry holds the name of an event. -/
def isNameEntry : Value × Value → Bool
  | (.text k, _) => k == nameKey
  | _ => false

/-- Reads an event. A map has to name it exactly once. -/
def ofValue : Value → Option Event
  | .map entries =>
    match entries.partition isNameEntry with
    | ([(_, .text name)], fields) => ofFields name (.map fields)
    | _ => none
  | .list (.text name :: fields) => ofFields name (.list fields)
  | _ => none

end Event

end PodCache.Replay
