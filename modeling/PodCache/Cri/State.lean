import PodCache.Codec

/-!
# Runtime states

The states that a container runtime reports for sandboxes and containers. Messages
carry the long names and accept the short ones.
-/

namespace PodCache.Cri

/-- The state of a pod sandbox. -/
inductive SandboxState where
  | ready
  | notReady
  deriving DecidableEq, Repr

namespace SandboxState

instance : Inhabited SandboxState := ⟨ready⟩

/-- The short name of the state. -/
def name : SandboxState → String
  | ready => "Ready"
  | notReady => "NotReady"

/-- The name of the state in messages. -/
def longName : SandboxState → String
  | ready => "SANDBOX_READY"
  | notReady => "SANDBOX_NOTREADY"

/-- The names under which each state is known. -/
def names : List (List String) :=
  [["SANDBOX_READY", "Ready"], ["SANDBOX_NOTREADY", "NotReady"]]

instance : Codec SandboxState where
  encode s := .text s.longName
  decode place v :=
    match Codec.name? names place v with
    | some 0 => some ready
    | some 1 => some notReady
    | _ => none

end SandboxState

/-- The state of a container. -/
inductive ContainerState where
  | created
  | running
  | exited
  | unknown
  deriving DecidableEq, Repr

namespace ContainerState

instance : Inhabited ContainerState := ⟨created⟩

/-- The short name of the state. -/
def name : ContainerState → String
  | created => "Created"
  | running => "Running"
  | exited => "Exited"
  | unknown => "Unknown"

/-- The name of the state in messages. -/
def longName : ContainerState → String
  | created => "CONTAINER_CREATED"
  | running => "CONTAINER_RUNNING"
  | exited => "CONTAINER_EXITED"
  | unknown => "CONTAINER_UNKNOWN"

/-- The names under which each state is known. -/
def names : List (List String) :=
  [["CONTAINER_CREATED", "Created"], ["CONTAINER_RUNNING", "Running"],
    ["CONTAINER_EXITED", "Exited"], ["CONTAINER_UNKNOWN", "Unknown"]]

instance : Codec ContainerState where
  encode s := .text s.longName
  decode place v :=
    match Codec.name? names place v with
    | some 0 => some created
    | some 1 => some running
    | some 2 => some exited
    | some 3 => some unknown
    | _ => none

end ContainerState

end PodCache.Cri
