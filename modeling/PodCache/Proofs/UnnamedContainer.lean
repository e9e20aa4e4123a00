import PodCache.Proofs.AnsweredCreation

/-!
# Containers without an id

A field that is missing from a message is read as the empty text, so the runtime can give an
empty id. As the answer to a creation it is rejected, and the cache itself never gives it out.
But an entry of a container list is taken in whatever its id is. So there is a container under
the empty id exactly if a list has brought one and nothing has removed it since.
-/

namespace PodCache

/-! ### What brings and what removes a container -/

/-- A container can be built from the entry: it names a pod of the cache and has metadata. -/
def Cache.Admits (c : Cache) (entry : Cri.Container) : Prop :=
  entry.podSandboxId ∈ c.pods ∧ entry.metadata.isSome = true

namespace Step

/-- The entries of the container list that the step brings, if it brings one. -/
def containerEntries : Step → List Cri.Container
  | call (.listContainer entry) => [entry]
  | call (.refreshContainers reply) | replay (.listContainers reply) => reply.containers
  | _ => []

/-- The step, taken in the cache, lists a container under the id that can be built. -/
def Finds (c : Cache) (id : String) (step : Step) : Prop :=
  ∃ entry ∈ step.containerEntries, entry.id = id ∧ c.Admits entry

/-- The step, taken in the cache, removes the container under the id or its pod, or lists the
    pods or the containers without it. -/
def Loses (c : Cache) (id : String) : Step → Prop
  | call (.deleteContainer k) | replay (.removeContainer k) => k = id
  | call (.deletePod podId) | replay (.removePodSandbox podId) =>
    ∃ k, c.containers[id]? = some k ∧ k.podId = podId
  | call (.refreshPods reply) | replay (.listPodSandbox reply) =>
    ¬ c.Halts reply ∧ ∃ k, c.containers[id]? = some k ∧ reply.entriesFor k.podId = []
  | call (.refreshContainers reply) | replay (.listContainers reply) =>
    ∀ entry ∈ reply.containers, entry.id ≠ id
  | _ => False

theorem not_finds {c : Cache} {id : String} {step : Step} (none : step.containerEntries = []) :
    ¬ step.Finds c id := by
  simp [Finds, none]

/-- A step that has nothing to do with containers brings none and removes none. -/
theorem idle_iff {c : Cache} {id : String} {step : Step} (kept : ¬ step.Loses c id)
    (none : step.containerEntries = []) :
    id ∈ c.containers ↔ id ∈ c.containers ∧ ¬ step.Loses c id ∨ step.Finds c id := by
  simp [kept, not_finds none]

end Step

namespace Cache

/-! ### The ids after an operation -/

theorem runPod_containers (c : Cache) (podId : String) (request : Cri.RunPodSandboxRequest) :
    (c.runPod podId request).2.containers = c.containers := by
  unfold runPod
  split <;> rfl

section Ids

variable {c : Cache} {id : String}

theorem mem_deleteContainer (k : String) :
    id ∈ (c.deleteContainer k).2.containers ↔ id ∈ c.containers ∧ k ≠ id := by
  rw [Table.mem_iff, deleteContainer_containers, Table.mem_iff]
  by_cases same : k = id
  · simp [same]
  · simp [same]

theorem mem_upsertContainer (entry : Cri.Container) :
    id ∈ (c.upsertContainer entry).2.containers ↔
      id ∈ c.containers ∨ entry.id = id ∧ c.Admits entry := by
  simp only [Std.ExtTreeMap.mem_iff_isSome_getElem?, upsertContainer_containers, Admits]
  by_cases same : entry.id = id
  · rw [if_pos same]
    cases owner : c.pods[entry.podSandboxId]? with
    | none => simp
    | some pod =>
      have step := Container.takeOver_follows.isSome_foldl_iff c.containers[id]? [(entry, pod)]
      simpa [same] using step
  · simp [same]

theorem mem_entriesFor (reply : Cri.ListContainersResponse) :
    (∃ entry ∈ reply.entriesFor c.pods id, entry.1.metadata.isSome = true) ↔
      ∃ entry ∈ reply.containers, entry.id = id ∧ c.Admits entry := by
  simp only [Cri.ListContainersResponse.entriesFor, List.mem_filterMap, List.mem_filter,
    beq_iff_eq, Option.map_eq_some_iff, Admits, Table.mem_iff]
  constructor
  · intro described
    obtain ⟨_, ⟨entry, ⟨listed, named⟩, pod, owner, rfl⟩, readable⟩ := described
    exact ⟨entry, listed, named, ⟨pod, owner⟩, readable⟩
  · intro admitted
    obtain ⟨entry, listed, named, ⟨pod, owner⟩, readable⟩ := admitted
    exact ⟨(entry, pod), ⟨entry, ⟨listed, named⟩, pod, owner, rfl⟩, readable⟩

/-- Of the containers those remain whose pod does. -/
theorem mem_of_owned {after : Cache} (owned : after.containers =
    c.containers.filter fun _ k => after.pods.contains k.podId) {gone : Container → Prop}
    (left : ∀ k, c.containers[id]? = some k → (k.podId ∈ after.pods ↔ ¬ gone k)) :
    id ∈ after.containers ↔
      id ∈ c.containers ∧ ¬ ∃ k, c.containers[id]? = some k ∧ gone k := by
  rw [owned, Table.mem_filter, Table.mem_iff]
  cases found : c.containers[id]? with
  | none => simp
  | some k => simpa using left k found

theorem mem_deletePod (valid : c.WellFormed) (podId : String) :
    id ∈ (c.deletePod podId).2.containers ↔
      id ∈ c.containers ∧ ¬ ∃ k, c.containers[id]? = some k ∧ k.podId = podId := by
  apply mem_of_owned (deletePod_prunes valid podId).containers
  intro k found
  obtain ⟨pod, owner⟩ := (Table.mem_iff _ _).1 (valid.owner id k found)
  rw [Table.mem_iff, deletePod_pods, owner]
  by_cases same : podId = k.podId
  · simp [same]
  · simp [same, eq_comm]

theorem mem_refreshPods_containers (valid : c.WellFormed) (reply : Cri.ListPodSandboxResponse) :
    id ∈ (c.refreshPods reply).2.containers ↔
      id ∈ c.containers ∧ ¬ (¬ c.Halts reply ∧
        ∃ k, c.containers[id]? = some k ∧ reply.entriesFor k.podId = []) := by
  by_cases halts : c.Halts reply
  · obtain ⟨-, _, _, _, -, -, -, taken⟩ := refreshPods_of_halts halts
    rw [taken.containers]
    exact (and_iff_left fun lost => lost.1 halts).symm
  · rw [refreshPods_of_not_halts halts]
    simp only [halts, not_false_eq_true, true_and]
    apply mem_of_owned (reconcilePods_owned valid reply).1
    intro k found
    rw [mem_reconcilePods halts]
    exact and_iff_left (.inl (valid.owner id k found))

/-- A list of the containers keeps a settled container that it names, and brings one that it
    describes. -/
theorem mem_refreshContainers_of_settled (valid : c.WellFormed) (settled : id ∉ c.pending)
    (reply : Cri.ListContainersResponse) :
    id ∈ (c.refreshContainers reply).2.containers ↔
      (id ∈ c.containers ∧ ¬ ∀ entry ∈ reply.containers, entry.id ≠ id) ∨
        ∃ entry ∈ reply.containers, entry.id = id ∧ c.Admits entry := by
  have absent := (Table.getElem?_eq_none_iff _ _).2 settled
  rw [mem_refreshContainers_iff valid, mem_entriesFor, absent]
  simp only [reduceCtorEq, false_or, settled, not_false_eq_true, true_and, not_forall, not_not,
    exists_prop]
  constructor
  · intro either
    rcases either with named | ⟨_, admitted⟩
    · exact .inl named
    · exact .inr admitted
  · intro either
    rcases either with named | admitted
    · exact .inl named
    · by_cases known : id ∈ c.containers
      · obtain ⟨entry, listed, named, _⟩ := admitted
        exact .inl ⟨known, entry, listed, named⟩
      · exact .inr ⟨known, admitted⟩

end Ids

/-! ### Creations -/

theorem provisionalId_ne_empty (n : Nat) : provisionalId n ≠ "" := by
  simp [provisionalId, provisionalPrefix]

/-- No creation waits under the empty id, and a container is under it exactly if one was
    there before. -/
structure LeavesUnnamed (c c' : Cache) : Prop where
  containers : "" ∈ c'.containers ↔ "" ∈ c.containers
  settled : "" ∉ c'.pending

theorem LeavesUnnamed.trans {c₁ c₂ c₃ : Cache} (first : c₁.LeavesUnnamed c₂)
    (second : c₂.LeavesUnnamed c₃) : c₁.LeavesUnnamed c₃ :=
  ⟨second.containers.trans first.containers, second.settled⟩

section Settled

variable {c : Cache} (settled : "" ∉ c.pending)
include settled

theorem createContainer_leavesUnnamed (request : Cri.CreateContainerRequest) :
    c.LeavesUnnamed (c.createContainer request).2 := by
  cases answer : (c.createContainer request).1 with
  | error e =>
    rw [createContainer_of_error answer]
    exact ⟨.rfl, settled⟩
  | ok id =>
    obtain ⟨rfl, _, _, _, _, created⟩ := createContainer_eq_ok answer
    have other := provisionalId_ne_empty c.nextProvisional
    rw [created]
    constructor
    · simp [other]
    · simp [other, settled]

theorem abortCreate_leavesUnnamed (k : String) : c.LeavesUnnamed (c.abortCreate k).2 := by
  unfold abortCreate
  split
  · exact ⟨.rfl, settled⟩
  · rename_i pending
    have other : k ≠ "" := by
      rintro rfl
      exact settled (Table.mem_of_getElem? pending)
    constructor
    · simp [other]
    · simp [settled]

/-- An accepted answer has an id. -/
theorem assignId_leavesUnnamed (k : String) (response : Cri.CreateContainerResponse) :
    c.LeavesUnnamed (c.assignId k response).2 := by
  by_cases named : response.containerId = ""
  · rw [assignId_of_refused (.unnamed named)]
    exact ⟨.rfl, settled⟩
  · cases answer : (c.assignId k response).1 with
    | error e =>
      rw [assignId_of_error answer]
      exact ⟨.rfl, settled⟩
    | ok moved =>
      obtain ⟨_, waits, _, _, assigned⟩ := assignId_eq_ok answer
      have other : k ≠ "" := by
        rintro rfl
        exact settled waits
      rw [assigned]
      constructor
      · simp [named, other]
      · simp [settled]

end Settled

end Cache

/-! ### Steps -/

theorem Query.apply_containers (query : Query) (c : Cache) :
    (query.apply c).containers = c.containers := by
  cases query with
  | podClass | summary => rfl
  | containerClass containerId =>
    simp only [Query.apply, Cache.containerClass]
    split <;> rfl

section Step

variable {c : Cache} (valid : c.WellFormed) (settled : "" ∉ c.pending)
include settled

/-- The answer to a creation, be there one or not, is no way to the empty id. -/
theorem Replay.settleCreate_leavesUnnamed (id : String)
    (response : Option Cri.CreateContainerResponse) (error : Option String) :
    c.LeavesUnnamed (settleCreate c id response error).2 := by
  cases error with
  | some error => exact Cache.abortCreate_leavesUnnamed settled id
  | none =>
    cases response with
    | none => exact ⟨.rfl, settled⟩
    | some response =>
      have assigned := Cache.assignId_leavesUnnamed settled id response
      rw [settleCreate_response]
      cases (c.assignId id response).1 with
      | ok moved => exact assigned
      | error e => exact assigned.trans (Cache.abortCreate_leavesUnnamed assigned.settled id)

include valid

theorem Operation.mem_unnamed (operation : Operation) :
    "" ∈ (operation.apply c).containers ↔
      "" ∈ c.containers ∧ ¬ (Step.call operation).Loses c "" ∨
        (Step.call operation).Finds c "" := by
  cases operation with
  | runPod podId request =>
    rw [Operation.apply, Cache.runPod_containers]
    exact Step.idle_iff not_false rfl
  | listPod sandbox =>
    rw [Operation.apply, Cache.listPod_snd, Cache.upsertPod_containers]
    exact Step.idle_iff not_false rfl
  | deletePod podId =>
    rw [or_iff_left (Step.not_finds rfl)]
    exact Cache.mem_deletePod valid podId
  | createContainer request =>
    have created := Cache.createContainer_leavesUnnamed settled request
    exact created.containers.trans (Step.idle_iff not_false rfl)
  | assignId k response =>
    have assigned := Cache.assignId_leavesUnnamed settled k response
    exact assigned.containers.trans (Step.idle_iff not_false rfl)
  | abortCreate k =>
    have aborted := Cache.abortCreate_leavesUnnamed settled k
    exact aborted.containers.trans (Step.idle_iff not_false rfl)
  | listContainer entry =>
    rw [Operation.apply, Cache.listContainer_snd, Cache.mem_upsertContainer]
    simp [Step.Loses, Step.Finds, Step.containerEntries]
  | deleteContainer k =>
    rw [or_iff_left (Step.not_finds rfl)]
    exact Cache.mem_deleteContainer k
  | refreshPods reply =>
    rw [or_iff_left (Step.not_finds rfl)]
    exact Cache.mem_refreshPods_containers valid reply
  | refreshContainers reply =>
    exact Cache.mem_refreshContainers_of_settled valid settled reply

theorem Replay.Event.mem_unnamed (event : Replay.Event) :
    "" ∈ (event.apply c).2.containers ↔
      "" ∈ c.containers ∧ ¬ (Step.replay event).Loses c "" ∨ (Step.replay event).Finds c "" := by
  have call := Operation.mem_unnamed valid settled
  cases event with
  | runPodSandbox podId request => exact call (.runPod podId request)
  | listPodSandbox reply => exact call (.refreshPods reply)
  | removePodSandbox podId => exact call (.deletePod podId)
  | createContainer request response error =>
    have created := Cache.createContainer_leavesUnnamed settled request
    have after : c.LeavesUnnamed ((createContainer request response error).apply c).2 := by
      rw [Replay.Event.apply_createContainer]
      cases (c.createContainer request).1 with
      | error e => exact created
      | ok id =>
        exact created.trans (Replay.settleCreate_leavesUnnamed created.settled id response error)
    exact after.containers.trans (Step.idle_iff not_false rfl)
  | listContainers reply => exact call (.refreshContainers reply)
  | removeContainer id => exact call (.deleteContainer id)

theorem Step.mem_unnamed (step : Step) :
    "" ∈ (step.apply c).containers ↔
      "" ∈ c.containers ∧ ¬ step.Loses c "" ∨ step.Finds c "" := by
  cases step with
  | call operation => exact operation.mem_unnamed valid settled
  | ask query =>
    rw [Step.apply, query.apply_containers]
    exact Step.idle_iff not_false rfl
  | replay event => exact event.mem_unnamed valid settled

end Step

namespace Cache

/-! ### Runs -/

/-- None of the steps, taken one after the other from the cache, loses the container. -/
def HeldThrough (id : String) : Cache → List Step → Prop
  | _, [] => True
  | c, step :: steps => ¬ step.Loses c id ∧ HeldThrough id (step.apply c) steps

theorem heldThrough_concat {id : String} {c : Cache} {steps : List Step} {last : Step} :
    HeldThrough id c (steps ++ [last]) ↔
      HeldThrough id c steps ∧ ¬ last.Loses (c.run steps) id := by
  induction steps generalizing c with
  | nil => simp [HeldThrough]
  | cons step steps ih => simp only [List.cons_append, HeldThrough, ih, run_cons, and_assoc]

/-- A container list of the run describes a container under the id, and no step since then
    loses it. -/
def HeldFromList (steps : List Step) (id : String) : Prop :=
  ∃ before step after, steps = before ++ step :: after ∧ step.Finds (run ∅ before) id ∧
    HeldThrough id (run ∅ (before ++ [step])) after

theorem heldFromList_concat {steps : List Step} {last : Step} {id : String} :
    HeldFromList (steps ++ [last]) id ↔
      HeldFromList steps id ∧ ¬ last.Loses (run ∅ steps) id ∨ last.Finds (run ∅ steps) id := by
  -- What the steps after the first list lead to is what all steps lead to.
  have reached : ∀ before (step : Step) after,
      (run ∅ (before ++ [step])).run after = run ∅ (before ++ step :: after) := by
    intro before step after
    rw [← run_append, List.append_assoc, List.singleton_append]
  constructor
  · intro origin
    obtain ⟨before, step, after, cut, finds, held⟩ := origin
    cases after using List.reverseRecOn with
    | nil =>
      obtain ⟨rfl, rfl⟩ := List.append_singleton_inj.1 cut
      exact .inr finds
    | append_singleton after final =>
      rw [← List.cons_append, ← List.append_assoc] at cut
      obtain ⟨rfl, rfl⟩ := List.append_singleton_inj.1 cut
      obtain ⟨held, kept⟩ := heldThrough_concat.1 held
      rw [reached] at kept
      exact .inl ⟨⟨before, step, after, rfl, finds, held⟩, kept⟩
  · intro either
    rcases either with ⟨origin, kept⟩ | finds
    · obtain ⟨before, step, after, rfl, finds, held⟩ := origin
      refine ⟨before, step, after ++ [last], by simp, finds, heldThrough_concat.2 ⟨held, ?_⟩⟩
      rw [reached]
      exact kept
    · exact ⟨steps, last, [], rfl, finds, trivial⟩

theorem unnamed_settled (steps : List Step) : "" ∉ (run ∅ steps).pending := by
  intro waits
  obtain ⟨n, _, issued⟩ := pending_issued steps waits
  exact provisionalId_ne_empty n issued.symm

theorem mem_unnamed_iff_held (steps : List Step) :
    "" ∈ (run ∅ steps).containers ↔ HeldFromList steps "" := by
  induction steps using List.reverseRecOn with
  | nil =>
    constructor
    · intro member
      cases Std.ExtTreeMap.not_mem_empty member
    · intro origin
      obtain ⟨before, step, after, cut, _⟩ := origin
      simp at cut
  | append_singleton steps last ih =>
    have final : run ∅ (steps ++ [last]) = last.apply (run ∅ steps) := run_append ..
    rw [final, last.mem_unnamed (WellFormed.run steps) (unnamed_settled steps), ih,
      heldFromList_concat]

/-- Wherever a run leads, no creation waits under the empty id, and there is a container
    under it exactly if a container list has brought one that was never lost. So there is
    none as long as every entry of a container list has an id. -/
theorem run_unnamed (steps : List Step) :
    let c := run ∅ steps
    "" ∉ c.pending ∧ ("" ∈ c.containers ↔ HeldFromList steps "") ∧
    ((∀ step ∈ steps, ∀ entry ∈ step.containerEntries, entry.id ≠ "") →
      "" ∉ c.containers) := by
  intro c
  refine ⟨unnamed_settled steps, mem_unnamed_iff_held steps, ?_⟩
  intro named member
  obtain ⟨before, step, after, rfl, finds, _⟩ := (mem_unnamed_iff_held steps).1 member
  obtain ⟨entry, listed, unnamed, _⟩ := finds
  exact named step (by simp) entry listed unnamed

/-- A container list can bring a container without an id. -/
theorem not_forall_containers_named :
    ¬ ∀ (steps : List Step) (id : String), id ∈ (run ∅ steps).containers → id ≠ "" := by
  intro named
  let steps := runOfPod ++ [.call (.listContainer (.named "p" "" "app"))]
  exact named steps "" (by decide) rfl

end Cache

end PodCache
