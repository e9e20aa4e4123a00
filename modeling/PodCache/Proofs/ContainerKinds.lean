import PodCache.Proofs.ContainerRefresh
import PodCache.Proofs.Summary

/-!
# Kinds of containers

Whether a container of a pod is a regular one and whether it is an init container is read off
two sections of the resource model of the pod, each by the id and the name of the container.
Neither section is looked at for the other kind. So a container that is declared in both, be
it under one key or under two, is of both kinds, and is listed twice in the summary of the
pod. Only a model with an empty section rules that out for all containers.
-/

namespace PodCache

namespace Pod

/-- Both sections of the model of the pod have the container, under its id or its name. -/
def DeclaresTwice (p : Pod) (k : Container) : Prop :=
  ∃ r, p.resources = some r ∧ (k.id ∈ r.containers ∨ k.name ∈ r.containers) ∧
    (k.id ∈ r.initContainers ∨ k.name ∈ r.initContainers)

/-- The model of the pod, if there is one, has nothing in one of its sections. -/
def HasFreeSection (p : Pod) : Prop :=
  ∀ r, p.resources = some r → r.containers = ∅ ∨ r.initContainers = ∅

theorem declaresTwice_iff (p : Pod) (k : Container) :
    p.DeclaresTwice k ↔ p.IsRegular k ∧ p.IsInit k := by
  constructor
  · intro twice
    obtain ⟨r, model, regular, init⟩ := twice
    refine ⟨?_, r, model, init⟩
    intro r' model'
    rw [model, Option.some.injEq] at model'
    exact model' ▸ regular
  · intro kinds
    obtain ⟨regular, r, model, init⟩ := kinds
    exact ⟨r, model, regular r model, init⟩

/-- The containers that are listed as both kinds. -/
theorem mem_both_iff {p : Pod} {c : Cache} {k : Container} :
    k ∈ p.regularContainers c ∧ k ∈ p.initContainers c ↔
      k ∈ c.podContainers p.id ∧ p.DeclaresTwice k := by
  rw [mem_regularContainers, mem_initContainers, declaresTwice_iff]
  exact and_and_left.symm

theorem disjoint_iff (p : Pod) (c : Cache) :
    (p.regularContainers c).Disjoint (p.initContainers c) ↔
      ∀ k ∈ c.podContainers p.id, ¬ p.DeclaresTwice k := by
  rw [List.disjoint_left]
  constructor
  · intro disjoint k member twice
    obtain ⟨regular, init⟩ := mem_both_iff.2 ⟨member, twice⟩
    exact disjoint regular init
  · intro once k regular init
    obtain ⟨member, twice⟩ := mem_both_iff.1 ⟨regular, init⟩
    exact once k member twice

theorem not_declaresTwice_of_free {p : Pod} (free : p.HasFreeSection) (k : Container) :
    ¬ p.DeclaresTwice k := by
  intro twice
  obtain ⟨r, model, regular, init⟩ := twice
  rcases free r model with empty | empty
  · simp [empty] at regular
  · simp [empty] at init

/-- Where both sections have something, a container can be named so that it is in both. -/
theorem exists_declaresTwice {p : Pod} (occupied : ¬ p.HasFreeSection) :
    ∃ id name, ∀ k : Container, k.id = id → k.name = name → p.DeclaresTwice k := by
  simp only [HasFreeSection, not_forall, not_or] at occupied
  obtain ⟨r, model, regular, init⟩ := occupied
  simp only [Std.ExtTreeMap.eq_empty_iff_forall_not_mem, not_forall, not_not] at regular
  simp only [Std.ExtTreeSet.eq_empty_iff_forall_not_mem, not_forall, not_not] at init
  obtain ⟨id, declared⟩ := regular
  obtain ⟨name, declared'⟩ := init
  refine ⟨id, name, ?_⟩
  intro k sameId sameName
  exact ⟨r, model, .inl (sameId ▸ declared), .inr (sameName ▸ declared')⟩

end Pod

namespace Cache

/-- Among the containers of a pod, to share an id is to share a container. -/
theorem WellFormed.disjoint_ids_iff {c : Cache} (valid : c.WellFormed) {podId : String}
    {l l' : List Container} (owned : l ⊆ c.podContainers podId)
    (owned' : l' ⊆ c.podContainers podId) :
    (l.map (·.id)).Disjoint (l'.map (·.id)) ↔ l.Disjoint l' := by
  simp only [List.disjoint_left, List.mem_map, not_exists, not_and]
  constructor
  · intro apart k member member'
    exact apart ⟨k, member, rfl⟩ k member' rfl
  · intro apart id listed k' member' same
    obtain ⟨k, member, rfl⟩ := listed
    have found := (valid.mem_podContainers.1 (owned member)).1
    have found' := (valid.mem_podContainers.1 (owned' member')).1
    rw [same, found, Option.some.injEq] at found'
    exact apart member (found' ▸ member')

/-! ### What the runtime can list -/

/-- Steps after which a pod has a container with the given id and name, whatever was there
    under the id. -/
def listAnew (podId id name : String) : List Step :=
  [.call (.deleteContainer id), .call (.listContainer (.named podId id name))]

theorem run_listAnew {c : Cache} {podId : String} {p : Pod} (found : c.pods[podId]? = some p)
    (id name : String) :
    (c.run (listAnew podId id name)).pods = c.pods ∧
      ∃ k, (c.run (listAnew podId id name)).containers[id]? = some k ∧
        k.id = id ∧ k.name = name ∧ k.podId = p.id := by
  have unfolded : c.run (listAnew podId id name) =
      ((c.deleteContainer id).2.upsertContainer (.named podId id name)).2 := by
    simp only [listAnew, run_cons, run_nil, Step.apply, Operation.apply, listContainer_snd]
  rw [unfolded]
  constructor
  · rw [upsertContainer_pods, deleteContainer_pods]
  · let entry : Cri.Container := .named podId id name
    have listed : ((c.deleteContainer id).2.upsertContainer entry).2.containers[id]? =
        Container.takeOver none (entry, p) := by
      rw [upsertContainer_containers, deleteContainer_containers, deleteContainer_pods]
      simp only [entry, Cri.Container.named, found, if_true]
    exact ⟨_, listed, rfl, rfl, rfl⟩

/-! ### Every pod of a cache -/

/-- Whatever happens to the cache, no container is of both kinds for as long as the pod has
    the model that it has now. -/
def KeepsKindsApart (c : Cache) (podId : String) (p : Pod) : Prop :=
  ∀ (later : List Step) (p' : Pod), (c.run later).pods[podId]? = some p' →
    p'.resources = p.resources →
    (p'.regularContainers (c.run later)).Disjoint (p'.initContainers (c.run later))

/-- A container can be listed under an id of one section and a name of the other, so that
    only an empty section keeps the kinds apart. -/
theorem run_keepsKindsApart_iff (steps : List Step) {podId : String} {p : Pod}
    (found : (run ∅ steps).pods[podId]? = some p) :
    (run ∅ steps).KeepsKindsApart podId p ↔ p.HasFreeSection := by
  constructor
  · intro lasting
    by_contra occupied
    obtain ⟨id, name, twice⟩ := Pod.exists_declaresTwice occupied
    let later := listAnew podId id name
    obtain ⟨pods, k, listed, sameId, sameName, owned⟩ := run_listAnew found id name
    have known : ((run ∅ steps).run later).pods[podId]? = some p := by
      rw [pods]
      exact found
    have once := (p.disjoint_iff _).1 (lasting later p known rfl)
    have valid : ((run ∅ steps).run later).WellFormed := by
      rw [← run_append]
      exact WellFormed.run (steps ++ later)
    refine once k ?_ (twice k sameId sameName)
    rw [valid.mem_podContainers, sameId]
    exact ⟨listed, owned⟩
  · intro free later p' known same
    rw [Pod.disjoint_iff]
    intro k _
    have free' : p'.HasFreeSection := by
      intro r model
      exact free r (same ▸ model)
    exact Pod.not_declaresTwice_of_free free' k

/-- Wherever a run leads, the containers of a pod that are listed as both regular and init
    containers are those that its model declares twice, and the summary of the pod lists an
    id as both exactly if there is such a container. A model keeps the kinds apart whatever
    happens to the cache, for as long as the pod has that model, exactly if one of its
    sections is empty. -/
theorem run_kinds_disjoint (steps : List Step) (podId : String) (p : Pod)
    (found : (run ∅ steps).pods[podId]? = some p) :
    let c := run ∅ steps
    let summary := Replay.PodSummary.ofPod c p
    (∀ k, k ∈ p.regularContainers c ∧ k ∈ p.initContainers c ↔
      k ∈ c.podContainers podId ∧ p.DeclaresTwice k) ∧
    ((p.regularContainers c).Disjoint (p.initContainers c) ↔
      ∀ k ∈ c.podContainers podId, ¬ p.DeclaresTwice k) ∧
    summary ∈ (Replay.summarize c).1 ∧
    ((summary.containers.map (·.id)).Disjoint (summary.initContainers.map (·.id)) ↔
      ∀ k ∈ c.podContainers podId, ¬ p.DeclaresTwice k) ∧
    (c.KeepsKindsApart podId p ↔ p.HasFreeSection) := by
  intro c summary
  have valid : c.WellFormed := WellFormed.run steps
  have own : p.id = podId := valid.podKey podId p found
  have apart := p.disjoint_iff c
  rw [own] at apart
  refine ⟨?_, apart, ?_, ?_, ?_⟩
  · intro k
    rw [Pod.mem_both_iff, own]
  · exact List.mem_map_of_mem ((Table.mem_values _ _).2 ⟨podId, found⟩)
  · rw [← apart, ← valid.disjoint_ids_iff (p.regularContainers_sublist c).subset
      (p.initContainers_sublist c).subset]
    simp only [summary, Replay.PodSummary.ofPod, Replay.ContainerSummary.ofContainer,
      List.map_map, Function.comp_def]
  · exact run_keepsKindsApart_iff steps found

/-- A run of a pod whose model has requirements for one of its init containers. -/
def runOfModel : List Step :=
  let doc := "\x7b\"Containers\": \x7b\"setup\": \x7b\x7d\x7d, " ++
    "\"InitContainers\": \x7b\"setup\": true\x7d\x7d"
  let request : Cri.RunPodSandboxRequest :=
    { config := some {
      metadata := some { name := "web" }
      annotations := (∅ : Table String).insert Pod.modelKey doc } }
  [.call (.runPod "p" request)]

/-- What the text of the model in that run denotes. -/
def modelOfSetup : PodResources where
  containers := (∅ : Table ResourceRequirements).insert "setup" {}
  initContainers := (∅ : TextSet).insert "setup"

theorem runOfModel_pods :
    ∃ p, (run ∅ runOfModel).pods["p"]? = some p ∧ p.resources = some modelOfSetup :=
  ⟨_, rfl, rfl⟩

/-- After that run the kinds of the pod have nothing in common, since it has no containers
    yet, but the model does not keep them apart for good. -/
theorem run_kinds_disjoint_for_now :
    ∃ p, (run ∅ runOfModel).pods["p"]? = some p ∧
      (p.regularContainers (run ∅ runOfModel)).Disjoint (p.initContainers (run ∅ runOfModel)) ∧
      ¬ (run ∅ runOfModel).KeepsKindsApart "p" p := by
  obtain ⟨p, found, model⟩ := runOfModel_pods
  have kinds := run_kinds_disjoint runOfModel "p" p found
  have none : (run ∅ runOfModel).podContainers "p" = [] := rfl
  have occupied : ¬ p.HasFreeSection := by
    intro free
    rcases free modelOfSetup model with empty | empty
    · exact absurd empty (by decide)
    · exact absurd empty (by decide)
  refine ⟨p, found, kinds.2.1.2 ?_, mt kinds.2.2.2.2.1 occupied⟩
  intro k member
  simp [none] at member

/-- The two kinds of containers of a pod can have one in common. -/
theorem not_forall_kinds_disjoint :
    ¬ ∀ (steps : List Step) (podId : String) (p : Pod),
      (run ∅ steps).pods[podId]? = some p →
        (p.regularContainers (run ∅ steps)).Disjoint (p.initContainers (run ∅ steps)) := by
  intro apart
  let steps := runOfModel ++ [.call (.listContainer (.named "p" "c1" "setup"))]
  have listed : ∃ p, (run ∅ steps).pods["p"]? = some p ∧
      ∃ k, k ∈ p.regularContainers (run ∅ steps) ∧ k ∈ p.initContainers (run ∅ steps) :=
    ⟨_, rfl, _, .head _, .head _⟩
  obtain ⟨p, found, k, regular, init⟩ := listed
  exact apart steps "p" p found regular init

end Cache

end PodCache
