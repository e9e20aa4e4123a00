import PodCache.Cache.Refresh
import PodCache.Replay.Apply
import PodCache.Replay.Summary

/-!
# Runs of the cache

What can happen to a cache: a call of one of its operations, a question that notes
classes, or a recorded event. A run is any sequence of these, whether each is accepted
or not. The caches that occur are those to which a run leads from the empty one. The machine
may stop in a step. A run goes on all the same with the cache as the step has left it, so what
holds along every run holds of that cache too.
-/

namespace PodCache

/-- A call that can change what the cache holds. -/
inductive Operation where
  | runPod (id : String) (request : Cri.RunPodSandboxRequest)
  | listPod (sandbox : Cri.PodSandbox)
  | deletePod (id : String)
  | createContainer (request : Cri.CreateContainerRequest)
  | assignId (provisionalId : String) (response : Cri.CreateContainerResponse)
  | abortCreate (provisionalId : String)
  | listContainer (entry : Cri.Container)
  | deleteContainer (id : String)
  | refreshPods (reply : Cri.ListPodSandboxResponse)
  | refreshContainers (reply : Cri.ListContainersResponse)

/-- A question about the class of pods. The classes that it asks for are noted. -/
inductive Query where
  | podClass (podId : String)
  | containerClass (containerId : String)
  | summary

/-- Anything that can happen to a cache. -/
inductive Step where
  | call (operation : Operation)
  | ask (query : Query)
  | replay (event : Replay.Event)

/-- The cache after a call, accepted or not. -/
def Operation.apply (c : Cache) : Operation → Cache
  | runPod id request => (c.runPod id request).2
  | listPod sandbox => (c.listPod sandbox).2
  | deletePod id => (c.deletePod id).2
  | createContainer request => (c.createContainer request).2
  | assignId provisionalId response => (c.assignId provisionalId response).2
  | abortCreate provisionalId => (c.abortCreate provisionalId).2
  | listContainer entry => (c.listContainer entry).2
  | deleteContainer id => (c.deleteContainer id).2
  | refreshPods reply => (c.refreshPods reply).2
  | refreshContainers reply => (c.refreshContainers reply).2

/-- The cache after a question. -/
def Query.apply (c : Cache) : Query → Cache
  | podClass podId => (c.podClass podId).2
  | containerClass containerId => (c.containerClass containerId).2
  | summary => (Replay.summarize c).2

namespace Step

/-- The cache after a step. -/
def apply (c : Cache) : Step → Cache
  | call operation => operation.apply c
  | ask query => query.apply c
  | replay event => (event.apply c).2

/-- The container ids that a step brings from the runtime: those of the entries of a
    container list, and the one that answers a creation. -/
def runtimeIds : Step → List String
  | call (.assignId _ response) => [response.containerId]
  | call (.listContainer entry) => [entry.id]
  | call (.refreshContainers reply) => reply.containers.map (·.id)
  | replay (.createContainer _ (some response) _) => [response.containerId]
  | replay (.listContainers reply) => reply.containers.map (·.id)
  | _ => []

/-- The pod that a step reports to have been run, by its id and the request. -/
def runRequest? : Step → Option (String × Cri.RunPodSandboxRequest)
  | call (.runPod id request) | replay (.runPodSandbox id request) => some (id, request)
  | _ => none

theorem apply_of_runRequest {step : Step} {podId : String} {request : Cri.RunPodSandboxRequest}
    (asks : step.runRequest? = some (podId, request)) (c : Cache) :
    step.apply c = (c.runPod podId request).2 := by
  unfold runRequest? at asks
  split at asks
  · cases asks
    rfl
  · cases asks
    rfl
  · cases asks

end Step

namespace Cache

/-- The cache after a sequence of steps. -/
def run (c : Cache) (steps : List Step) : Cache := steps.foldl Step.apply c

@[simp] theorem run_nil (c : Cache) : c.run [] = c := rfl

@[simp] theorem run_cons (c : Cache) (step : Step) (steps : List Step) :
    c.run (step :: steps) = (step.apply c).run steps := rfl

@[simp] theorem run_append (c : Cache) (first second : List Step) :
    c.run (first ++ second) = (c.run first).run second := List.foldl_append

/-- What every step of some kind keeps, every run of such steps keeps. -/
theorem run_preserves {P : Cache → Prop} {allowed : Step → Prop}
    (kept : ∀ c step, allowed step → P c → P (step.apply c)) {c : Cache} {steps : List Step}
    (all : ∀ step ∈ steps, allowed step) (start : P c) : P (c.run steps) := by
  induction steps generalizing c with
  | nil => exact start
  | cons step steps ih =>
    rw [run_cons]
    apply ih
    · intro later member
      exact all later (List.mem_cons_of_mem _ member)
    · exact kept c step (all step List.mem_cons_self) start

end Cache

/-! ### Recorded creations -/

namespace Replay

/-- A creation that is accepted is settled by what is on record. -/
theorem Event.apply_createContainer (c : Cache) (request : Cri.CreateContainerRequest)
    (response : Option Cri.CreateContainerResponse) (error : Option String) :
    (createContainer request response error).apply c =
      match (c.createContainer request).1 with
      | .error e => (.error e, (c.createContainer request).2)
      | .ok id =>
        (.ofExcept (settleCreate (c.createContainer request).2 id response error).1,
          (settleCreate (c.createContainer request).2 id response error).2) := by
  simp only [Event.apply]
  split <;> simp [*]

/-- A response that is rejected ends in an aborted creation. -/
theorem settleCreate_response (c : Cache) (id : String) (response : Cri.CreateContainerResponse) :
    settleCreate c id (some response) none =
      match (c.assignId id response).1 with
      | .ok _ => (.ok (), (c.assignId id response).2)
      | .error e => (.error e, ((c.assignId id response).2.abortCreate id).2) := by
  simp only [settleCreate]
  split <;> simp [*]

end Replay

/-! ### Messages with nothing but names -/

/-- A request to run a sandbox for a pod. -/
def Cri.RunPodSandboxRequest.named (name : String) : Cri.RunPodSandboxRequest :=
  { config := some { metadata := some { name } } }

/-- A request to create a container in a sandbox. -/
def Cri.CreateContainerRequest.named (podId name : String) : Cri.CreateContainerRequest :=
  { podSandboxId := podId, config := some { metadata := some { name } } }

/-- The entry of a running container in a list reply. -/
def Cri.Container.named (podId id name : String) : Cri.Container :=
  { id, podSandboxId := podId, metadata := some { name }, state := .running }

end PodCache
