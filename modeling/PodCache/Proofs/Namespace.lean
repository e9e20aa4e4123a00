import PodCache.Proofs.RejectedEvent

/-!
# Namespaces

A container takes the namespace of its pod when it is built, and keeps it. Its pod cannot
get another one, unless it is run a second time: then a new pod takes its place, and the
containers stay with the namespace of the old one. So the namespace of a container says
where its pod was when the container was built, and is that of the pod in the cache unless
such a request has come in between.
-/

namespace PodCache

/-! ### Entities -/

/-- The container is the other one, under any id and in any state. -/
def Container.SameAs (k l : Container) : Prop := k = { l with id := k.id, state := k.state }

theorem Container.SameAs.refl (k : Container) : k.SameAs k := rfl

theorem Container.SameAs.trans {k l m : Container} (first : k.SameAs l) (second : l.SameAs m) :
    k.SameAs m := by
  unfold SameAs at first second ⊢
  rw [first, second]

theorem Container.SameAs.podId {k l : Container} (same : k.SameAs l) : k.podId = l.podId := by
  rw [same]

theorem Container.SameAs.namespaceName {k l : Container} (same : k.SameAs l) :
    k.namespaceName = l.namespaceName := by
  rw [same]

theorem Container.namespaceName_of_ofCreateRequest {id : String}
    {request : Cri.CreateContainerRequest} {pod : Pod} {container : Container}
    (built : ofCreateRequest id request pod = .ok container) :
    container.namespaceName = pod.namespaceName := by
  unfold ofCreateRequest at built
  split at built
  · cases built
  · split at built
    · cases built
    · cases built
      rfl

theorem Container.namespaceName_of_ofListEntry {entry : Cri.Container} {pod : Pod}
    {container : Container} (built : ofListEntry entry pod = .ok container) :
    container.namespaceName = pod.namespaceName := by
  unfold ofListEntry at built
  split at built
  · cases built
  · cases built
    rfl

/-- The namespace of a pod in the cache. -/
def Cache.namespaceOf (c : Cache) (podId : String) : Option String :=
  c.pods[podId]?.map (·.namespaceName)

/-- The container has the namespace that its pod has in the cache. -/
def Container.InNamespace (k : Container) (c : Cache) : Prop :=
  c.namespaceOf k.podId = some k.namespaceName

instance (k : Container) (c : Cache) : Decidable (k.InNamespace c) :=
  inferInstanceAs (Decidable (_ = _))

theorem Container.SameAs.inNamespace_iff {k l : Container} (same : k.SameAs l) (c : Cache) :
    k.InNamespace c ↔ l.InNamespace c := by
  unfold InNamespace
  rw [same.podId, same.namespaceName]

/-! ### Edits -/

namespace Edit

variable {brought asked : String → Prop} {c c' : Cache}

/-- A pod that stays in the cache and is not run again keeps its namespace. -/
theorem namespaceOf_eq (edit : Edit brought asked c c') {podId : String} (spared : ¬ asked podId)
    (before : podId ∈ c.pods) (after : podId ∈ c'.pods) :
    c'.namespaceOf podId = c.namespaceOf podId := by
  unfold Cache.namespaceOf
  cases edit with
  | @runPod id _ _ _ run =>
    have other : id ≠ podId := fun same => spared (same ▸ run)
    rw [Table.getElem?_insert_of_ne _ _ other]
  | @findPod sandbox _ unknown _ =>
    have other : sandbox.id ≠ podId := fun same => unknown (same ▸ before)
    rw [Table.getElem?_insert_of_ne _ _ other]
  | @movePod id pod known state =>
    dsimp only
    rw [Table.getElem?_insert]
    by_cases equal : id = podId
    · rw [if_pos equal, ← equal, known]
      rfl
    · rw [if_neg equal]
  | @dropPod id =>
    have other : id ≠ podId := fun same => ((Table.mem_erase ..).1 after).1 same.symm
    dsimp only
    rw [Table.getElem?_erase, if_neg other]
  | notePods noted =>
    rcases noted podId with same | changed
    · rw [same]
    · dsimp only
      rw [changed, Option.map_map]
      rfl
  | _ => rfl

/-- A container in the cache was there before, or has just got the namespace of its pod. -/
theorem container_cases (valid : c.WellFormed) (edit : Edit brought asked c c') {id : String}
    {k : Container} (found : c'.containers[id]? = some k) :
    (∃ (j : String) (l : Container), c.containers[j]? = some l ∧ k.SameAs l) ∨
      k.InNamespace c' := by
  cases edit with
  | runPod | findPod | movePod | notePods | endRefresh => exact .inl ⟨id, k, found, .refl k⟩
  | dropPod =>
    simp only [Std.ExtTreeMap.getElem?_filter', Option.filter_eq_some_iff] at found
    exact .inl ⟨id, k, found.1, .refl k⟩
  | @createContainer request pod container owner built =>
    rcases Table.insert_cases found with ⟨rfl, rfl⟩ | found
    · have own := (Container.ids_of_ofCreateRequest built).2.trans (valid.podKey _ _ owner)
      have named := Container.namespaceName_of_ofCreateRequest built
      exact .inr (by rw [Container.InNamespace, Cache.namespaceOf, own, owner, named]; rfl)
    · exact .inl ⟨id, k, found, .refl k⟩
  | @assignId provisional new container _ _ _ known _ =>
    rcases Table.insert_cases found with ⟨rfl, rfl⟩ | found
    · exact .inl ⟨provisional, container, known, rfl⟩
    · exact .inl ⟨id, k, (Table.of_erase found).2, .refl k⟩
  | @findContainer entry pod container owner _ built _ =>
    rcases Table.insert_cases found with ⟨rfl, rfl⟩ | found
    · have own := (Container.ids_of_ofListEntry built).2.trans (valid.podKey _ _ owner)
      have named := Container.namespaceName_of_ofListEntry built
      exact .inr (by rw [Container.InNamespace, Cache.namespaceOf, own, owner, named]; rfl)
    · exact .inl ⟨id, k, found, .refl k⟩
  | @moveContainer j container known state =>
    rcases Table.insert_cases found with ⟨rfl, rfl⟩ | found
    · exact .inl ⟨j, container, known, rfl⟩
    · exact .inl ⟨id, k, found, .refl k⟩
  | dropContainer => exact .inl ⟨id, k, (Table.of_erase found).2, .refl k⟩

/-- An edit takes no container out of the namespace of its pod, unless the pod is run again. -/
theorem strays (valid : c.WellFormed) (edit : Edit brought asked c c') {id : String}
    {k : Container} (found : c'.containers[id]? = some k) (spared : ¬ asked k.podId)
    (astray : ¬ k.InNamespace c') :
    ∃ (j : String) (l : Container), c.containers[j]? = some l ∧ k.SameAs l ∧
      ¬ l.InNamespace c := by
  obtain ⟨j, l, known, same⟩ := (edit.container_cases valid found).resolve_right astray
  refine ⟨j, l, known, same, ?_⟩
  have before : k.podId ∈ c.pods := same.podId ▸ valid.owner j l known
  have after : k.podId ∈ c'.pods := (Cache.WellFormed.edit c c' edit valid).owner id k found
  rw [← same.inNamespace_iff, Container.InNamespace, ← edit.namespaceOf_eq spared before after]
  exact astray

end Edit

theorem Edits.strays {brought asked : String → Prop} {c c' : Cache} (valid : c.WellFormed)
    (edits : Edits brought asked c c') {id : String} {k : Container}
    (found : c'.containers[id]? = some k) (spared : ¬ asked k.podId)
    (astray : ¬ k.InNamespace c') :
    ∃ (j : String) (l : Container), c.containers[j]? = some l ∧ k.SameAs l ∧
      ¬ l.InNamespace c := by
  induction edits generalizing id k with
  | refl => exact ⟨id, k, found, .refl k, astray⟩
  | tail before edit ih =>
    have between := Edits.preserves Cache.WellFormed.edit before valid
    obtain ⟨j, l, known, same, earlier⟩ := edit.strays between found spared astray
    obtain ⟨i, m, first, origin, start⟩ := ih known (same.podId ▸ spared) earlier
    exact ⟨i, m, first, same.trans origin, start⟩

/-! ### Steps -/

/-- The step, taken in the cache, puts a pod with another namespace in the place of the pod
    under the id. -/
def Step.Renames (c : Cache) (podId : String) (step : Step) : Prop :=
  ∃ request old new, step.runRequest? = some (podId, request) ∧ c.pods[podId]? = some old ∧
    (c.runPod podId request).1 = .ok new ∧ new.namespaceName ≠ old.namespaceName

/-- Only a request to run the pod again takes a container out of the namespace of its pod. -/
theorem Step.strays {c : Cache} (valid : c.WellFormed) (step : Step) {id : String} {k : Container}
    (found : (step.apply c).containers[id]? = some k) (astray : ¬ k.InNamespace (step.apply c)) :
    ∃ (j : String) (l : Container), c.containers[j]? = some l ∧ k.SameAs l ∧
      (l.InNamespace c → step.Renames c k.podId) := by
  by_cases run : ∃ request, step.runRequest? = some (k.podId, request)
  · obtain ⟨request, asks⟩ := run
    rw [apply_of_runRequest asks] at found astray
    by_cases accepted : ∃ new, (c.runPod k.podId request).1 = .ok new
    · obtain ⟨new, answer⟩ := accepted
      rw [(Cache.runPod_eq_ok answer).2] at found astray
      refine ⟨id, k, found, .refl k, fun agrees => ?_⟩
      obtain ⟨old, known, named⟩ := Option.map_eq_some_iff.1 agrees
      refine ⟨request, old, new, asks, known, answer, fun same => astray ?_⟩
      simp [Container.InNamespace, Cache.namespaceOf, same, named]
    · rw [Cache.runPod_of_not_ok (not_exists.1 accepted)] at found astray
      exact ⟨id, k, found, .refl k, fun agrees => absurd agrees astray⟩
  · have edits : Edits (fun _ => True)
        (fun podId => ∃ request, step.runRequest? = some (podId, request)) c (step.apply c) :=
      step.edits (fun _ _ => trivial) (fun _ request asks => ⟨request, asks⟩) c
    obtain ⟨j, l, known, same, earlier⟩ := edits.strays valid found run astray
    exact ⟨j, l, known, same, fun agrees => absurd agrees earlier⟩

/-- Such a request takes out of it every container that was in it. -/
theorem Step.Renames.strays {c : Cache} {step : Step} {id : String} {k : Container}
    (renames : step.Renames c k.podId) (found : c.containers[id]? = some k)
    (agrees : k.InNamespace c) :
    (step.apply c).containers[id]? = some k ∧ ¬ k.InNamespace (step.apply c) := by
  obtain ⟨request, old, new, asks, known, accepted, different⟩ := renames
  rw [apply_of_runRequest asks, (Cache.runPod_eq_ok accepted).2]
  refine ⟨found, ?_⟩
  simp only [Container.InNamespace, Cache.namespaceOf, known, Option.map_some,
    Option.some.injEq] at agrees
  simp [Container.InNamespace, Cache.namespaceOf, ← agrees, different]

/-! ### Runs -/

namespace Cache

end Cache

end PodCache
