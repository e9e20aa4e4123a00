import PodCache.Proofs.Changes
import PodCache.Proofs.Session

/-!
# Summaries

A summary has one entry for each pod of the cache, and in it the regular containers and the
init containers of the pod, all in the order of their ids. It says nothing of the cache but
its pods and containers, so the same entities give the same summary, in whatever order they
are listed.
-/

namespace PodCache

/-! ### Values in the order of their keys -/

section Order

variable {α : Type} {key : α → String}

theorem pairwise_values {t : Table α}
    (keyed : ∀ (k : String) (v : α), t[k]? = some v → key v = k) :
    t.values.Pairwise fun v w => key v < key w := by
  rw [← List.pairwise_map (f := key) (R := (· < ·)), Table.map_values_eq_keys keyed]
  exact t.keys_pairwise_lt

/-- Values in strictly increasing order are what sorting makes of them in any other order. -/
theorem mergeSort_eq_of_perm {l ordered : List α} (perm : l.Perm ordered)
    (increasing : ordered.Pairwise fun v w => key v < key w) :
    l.mergeSort (fun v w => key v ≤ key w) = ordered := by
  have distinct : (ordered.map key).Nodup :=
    (List.pairwise_map.2 increasing).imp String.ne_of_lt
  have again : (l.mergeSort fun v w => key v ≤ key w).Perm ordered :=
    (List.mergeSort_perm l _).trans perm
  refine List.Perm.eq_of_pairwise ?_ (pairwise_le_mergeSort key l)
    (increasing.imp fun less => String.not_lt.1 (String.lt_asymm less)) again
  intro v w member member' le ge
  exact List.inj_on_of_nodup_map distinct (again.subset member) member' (String.le_antisymm le ge)

end Order

/-! ### The containers of a pod -/

namespace Pod

/-- The container is a regular one of a pod: the model, if there is one, has requirements
    under its id or its name. -/
def IsRegular (p : Pod) (k : Container) : Prop :=
  ∀ r, p.resources = some r → k.id ∈ r.containers ∨ k.name ∈ r.containers

/-- The container is an init container of a pod: there is a model, and its id or its name is
    in the set of the model. -/
def IsInit (p : Pod) (k : Container) : Prop :=
  ∃ r, p.resources = some r ∧ (k.id ∈ r.initContainers ∨ k.name ∈ r.initContainers)

theorem mem_regularContainers {p : Pod} {c : Cache} {k : Container} :
    k ∈ p.regularContainers c ↔ k ∈ c.podContainers p.id ∧ p.IsRegular k := by
  unfold regularContainers IsRegular
  cases p.resources with
  | none => simp
  | some r => simp [PodResources.isRegular, Container.resourceKeys]

theorem mem_initContainers {p : Pod} {c : Cache} {k : Container} :
    k ∈ p.initContainers c ↔ k ∈ c.podContainers p.id ∧ p.IsInit k := by
  unfold initContainers IsInit
  cases p.resources with
  | none => simp
  | some r => simp [PodResources.isInit, Container.resourceKeys]

theorem regularContainers_sublist (p : Pod) (c : Cache) :
    (p.regularContainers c).Sublist (c.podContainers p.id) := by
  unfold regularContainers
  split
  · exact .refl _
  · exact List.filter_sublist

theorem initContainers_sublist (p : Pod) (c : Cache) :
    (p.initContainers c).Sublist (c.podContainers p.id) := by
  unfold initContainers
  split
  · exact List.nil_sublist _
  · exact List.filter_sublist

end Pod

namespace Cache.WellFormed

variable {c : Cache} (valid : c.WellFormed)
include valid

theorem mem_podContainers {podId : String} {k : Container} :
    k ∈ c.podContainers podId ↔ c.containers[k.id]? = some k ∧ k.podId = podId := by
  rw [podContainers, List.mem_filter, Table.mem_values, beq_iff_eq]
  refine and_congr_left fun _ => ⟨?_, fun found => ⟨_, found⟩⟩
  rintro ⟨id, found⟩
  rw [valid.containerKey id k found]
  exact found

theorem podContainers_pairwise (podId : String) :
    (c.podContainers podId).Pairwise fun k l => k.id < l.id :=
  (pairwise_values valid.containerKey).sublist List.filter_sublist

end Cache.WellFormed

namespace Replay

open Cache

/-! ### Entries -/

/-- What the entry of a pod says: the data of the pod, and its containers in the cache. -/
structure Summarizes (c : Cache) (p : Pod) (s : PodSummary) : Prop where
  id : s.id = p.id
  uid : s.uid = p.uid
  name : s.name = p.name
  namespaceName : s.namespaceName = p.namespaceName
  state : s.state = p.state
  cgroupParent : s.cgroupParent = p.cgroupParent
  qosClass : s.qosClass = p.qosClass
  containersInOrder : s.containers.Pairwise fun k l => k.id < l.id
  mem_containers : ∀ e, e ∈ s.containers ↔ ∃ k, c.containers[e.id]? = some k ∧
    k.podId = p.id ∧ p.IsRegular k ∧ e = .ofContainer k
  initContainersInOrder : s.initContainers.Pairwise fun k l => k.id < l.id
  mem_initContainers : ∀ e, e ∈ s.initContainers ↔ ∃ k, c.containers[e.id]? = some k ∧
    k.podId = p.id ∧ p.IsInit k ∧ e = .ofContainer k

/-- Some of the containers of a pod, and the entries for them. -/
theorem mem_map_ofContainer {c : Cache} (valid : c.WellFormed) {podId : String}
    {picked : List Container} {P : Container → Prop}
    (picks : ∀ k, k ∈ picked ↔ k ∈ c.podContainers podId ∧ P k) (e : ContainerSummary) :
    e ∈ picked.map .ofContainer ↔ ∃ k, c.containers[e.id]? = some k ∧
      k.podId = podId ∧ P k ∧ e = .ofContainer k := by
  simp only [List.mem_map, picks, valid.mem_podContainers]
  constructor
  · rintro ⟨k, ⟨⟨found, own⟩, holds⟩, rfl⟩
    exact ⟨k, found, own, holds, rfl⟩
  · rintro ⟨k, found, own, holds, rfl⟩
    exact ⟨k, ⟨⟨found, own⟩, holds⟩, rfl⟩

theorem summarizes_ofPod {c : Cache} (valid : c.WellFormed) (p : Pod) :
    Summarizes c p (.ofPod c p) where
  id := rfl
  uid := rfl
  name := rfl
  namespaceName := rfl
  state := rfl
  cgroupParent := rfl
  qosClass := rfl
  containersInOrder :=
    List.pairwise_map.2 ((valid.podContainers_pairwise _).sublist (p.regularContainers_sublist c))
  mem_containers := mem_map_ofContainer valid fun _ => Pod.mem_regularContainers
  initContainersInOrder :=
    List.pairwise_map.2 ((valid.podContainers_pairwise _).sublist (p.initContainers_sublist c))
  mem_initContainers := mem_map_ofContainer valid fun _ => Pod.mem_initContainers

/-! ### Entities listed in any order -/

namespace PodSummary

/-- The entries, in order, for those containers of a list that belong to a pod and have the
    property. -/
def pick (p : Pod) (containers : List Container) (picks : Container → Bool) :
    List ContainerSummary :=
  (((containers.filter (·.podId == p.id)).filter picks).map .ofContainer).mergeSort
    fun k l => k.id ≤ l.id

/-- The summary of a pod, with its containers found in a list. -/
def ofListed (containers : List Container) (p : Pod) : PodSummary where
  id := p.id
  uid := p.uid
  name := p.name
  namespaceName := p.namespaceName
  state := p.state
  cgroupParent := p.cgroupParent
  qosClass := p.qosClass
  containers := pick p containers fun k =>
    match p.resources with
    | none => true
    | some r => r.isRegular k.resourceKeys
  initContainers := pick p containers fun k =>
    match p.resources with
    | none => false
    | some r => r.isInit k.resourceKeys

end PodSummary

/-- The summaries of pods that are listed in any order, as are their containers. -/
def summarizeListed (pods : List Pod) (containers : List Container) : List PodSummary :=
  (pods.map (PodSummary.ofListed containers)).mergeSort fun s t => s.id ≤ t.id

/-- Containers in any order, of which those that are picked are in order in a cache. -/
theorem PodSummary.pick_eq {c : Cache} (valid : c.WellFormed) {p : Pod}
    {containers : List Container} (perm : containers.Perm c.containers.values)
    (picks : Container → Bool) :
    pick p containers picks = ((c.podContainers p.id).filter picks).map .ofContainer := by
  refine mergeSort_eq_of_perm (((perm.filter _).filter _).map _) ?_
  exact List.pairwise_map.2 ((valid.podContainers_pairwise p.id).sublist List.filter_sublist)

theorem PodSummary.ofListed_eq {c : Cache} (valid : c.WellFormed) {containers : List Container}
    (perm : containers.Perm c.containers.values) (p : Pod) :
    ofListed containers p = ofPod c p := by
  unfold ofListed ofPod
  rw [pick_eq valid perm, pick_eq valid perm, Pod.regularContainers, Pod.initContainers]
  cases p.resources with
  | none => simp
  | some r => rfl

theorem summarizeListed_eq {c : Cache} (valid : c.WellFormed) {pods : List Pod}
    {containers : List Container} (podsPerm : pods.Perm c.pods.values)
    (containersPerm : containers.Perm c.containers.values) :
    summarizeListed pods containers = (summarize c).1 := by
  unfold summarizeListed summarize
  rw [List.map_congr_left fun p _ => PodSummary.ofListed_eq valid containersPerm p]
  refine mergeSort_eq_of_perm (podsPerm.map _) ?_
  exact List.pairwise_map.2 (pairwise_values valid.podKey)

/-- Two caches with the same entities and right notes have the same summary. -/
theorem summarize_congr {c c' : Cache} (right : c.RightlyNoted) (right' : c'.RightlyNoted)
    (pods : c.unnote.pods = c'.unnote.pods) (containers : c.containers = c'.containers) :
    (summarize c).1 = (summarize c').1 := by
  have owned : c.unnote.podContainers = c'.unnote.podContainers := by
    funext podId
    exact congrArg (fun t : Table Container => t.values.filter (·.podId == podId)) containers
  have entries : PodSummary.ofPod c.unnote = PodSummary.ofPod c'.unnote := by
    funext p
    unfold PodSummary.ofPod Pod.regularContainers Pod.initContainers
    rw [owned]
  rw [← summarize_unnote right, ← summarize_unnote right', summarize, summarize, pods, entries]

/-- What a summary says wherever a run leads: one entry for each pod, in the order of the ids,
    each with the data of its pod and with exactly the regular and the init containers that
    the pod has in the cache, in the order of their ids too. A cache with the same pods and
    containers has the same summary, whatever classes are noted in it, and it does not matter
    in which order its pods and its containers are listed. -/
theorem run_summarize (steps : List Step) :
    let c := Cache.run ∅ steps
    let summary := (summarize c).1
    summary.map (·.id) = c.pods.keys ∧ summary.Pairwise (fun s t => s.id < t.id) ∧
    (∀ s ∈ summary, ∃ p, c.pods[s.id]? = some p ∧ Summarizes c p s) ∧
    ∀ others : List Step,
      let c' := Cache.run ∅ others
      c'.unnote.pods = c.unnote.pods → c'.containers = c.containers →
      (summarize c').1 = summary ∧
      ∀ (pods : List Pod) (containers : List Container), pods.Perm c'.pods.values →
        containers.Perm c'.containers.values → summarizeListed pods containers = summary := by
  intro c summary
  have valid : c.WellFormed := WellFormed.run steps
  have keys : summary.map (·.id) = c.pods.keys := by
    rw [← Table.map_values_eq_keys valid.podKey]
    exact List.map_map
  refine ⟨keys, ?_, ?_, ?_⟩
  · rw [← List.pairwise_map (f := PodSummary.id) (R := (· < ·)), keys]
    exact c.pods.keys_pairwise_lt
  · intro s member
    obtain ⟨p, listed, rfl⟩ := List.mem_map.1 member
    obtain ⟨id, found⟩ := (Table.mem_values _ _).1 listed
    have own : (PodSummary.ofPod c p).id = id := valid.podKey id p found
    exact ⟨p, own ▸ found, summarizes_ofPod valid p⟩
  · intro others c' samePods sameContainers
    have same : (summarize c').1 = summary :=
      summarize_congr (.run others) (.run steps) samePods sameContainers
    refine ⟨same, ?_⟩
    intro pods containers podsPerm containersPerm
    rw [← same]
    exact summarizeListed_eq (.run others) podsPerm containersPerm

end Replay

end PodCache
