import PodCache.Proofs.Edit
import PodCache.Proofs.StoppedPod

/-!
# Refused insertions

A message adds a pod or a container to the cache, unless it lacks what the new entity is named
by, or its container belongs to a pod that is not cached. Entries of list replies that name a
known entity need not name it again. These are all the reasons, they are looked at in a fixed
order, and a refused message leaves the whole cache as it was.

Labels and annotations are no reason, whatever they hold. But the machine may stop at a message
that would add a pod, namely while it reads the resource model in the annotations. That leaves
the cache as it was, too. All else in the annotations, and the labels, make no difference.
-/

namespace PodCache

/-! ### Insertions -/

/-- A message that adds a pod or a container. -/
inductive Insertion where
  | runPod (id : String) (request : Cri.RunPodSandboxRequest)
  | listPod (sandbox : Cri.PodSandbox)
  | createContainer (request : Cri.CreateContainerRequest)
  | listContainer (entry : Cri.Container)

namespace Cri

/-- The configuration without its labels and annotations. -/
def PodSandboxConfig.bare (config : PodSandboxConfig) : PodSandboxConfig :=
  { config with labels := ∅, annotations := ∅ }

/-- The configuration without its labels and annotations. -/
def ContainerConfig.bare (config : ContainerConfig) : ContainerConfig :=
  { config with labels := ∅, annotations := ∅ }

end Cri

namespace Insertion

/-- The message without any labels and annotations. -/
def bare : Insertion → Insertion
  | runPod id request => .runPod id { request with config := request.config.map (·.bare) }
  | listPod sandbox => .listPod { sandbox with labels := ∅, annotations := ∅ }
  | createContainer request => .createContainer { request with
      config := request.config.map (·.bare)
      sandboxConfig := request.sandboxConfig.map (·.bare) }
  | listContainer entry => .listContainer { entry with labels := ∅, annotations := ∅ }

/-- The text of the resource model that a message about a pod brings. -/
def model? : Insertion → Option String
  | runPod _ request => request.config.bind (·.annotations[Pod.modelKey]?)
  | listPod sandbox => sandbox.annotations[Pod.modelKey]?
  | _ => none

/-- What an operation answers, whatever it answers if it succeeds. -/
def verdict {α : Type} (answer : Outcome CacheError α × Cache) : Outcome CacheError Unit × Cache :=
  ((fun _ => ()) <$> answer.1, answer.2)

@[simp] theorem verdict_error {α : Type} (cause : CacheError) (after : Cache) :
    verdict ((.error cause, after) : Outcome CacheError α × Cache) = (.error cause, after) := rfl

@[simp] theorem verdict_ok {α : Type} (entity : α) (after : Cache) :
    verdict (.ok entity, after) = (.ok (), after) := rfl

@[simp] theorem verdict_stop {α : Type} (after : Cache) :
    verdict ((.stop, after) : Outcome CacheError α × Cache) = (.stop, after) := rfl

/-- Whether the cache takes the message, or why not, and the cache after it. -/
def apply (c : Cache) : Insertion → Outcome CacheError Unit × Cache
  | runPod id request => verdict (c.runPod id request)
  | listPod sandbox => verdict (c.listPod sandbox)
  | createContainer request => verdict (.ofExcept (c.createContainer request).1,
      (c.createContainer request).2)
  | listContainer entry => verdict (.ofExcept (c.listContainer entry).1, (c.listContainer entry).2)

/-- The message has all that a pod needs, and the pod is to be built. -/
def Builds (c : Cache) : Insertion → Prop
  | runPod _ request => ∃ config, request.config = some config ∧ config.metadata.isSome
  | listPod sandbox => sandbox.id ∉ c.pods ∧ sandbox.metadata.isSome
  | _ => False

/-- The machine stops at the message: a pod is to be built, and the machine stops while it
    reads the resource model. -/
def Stops (c : Cache) (insertion : Insertion) : Prop :=
  insertion.Builds c ∧
    ∃ raw, insertion.model? = some raw ∧ Annotations.resources raw = .stop

end Insertion

namespace Cache

/-! ### Reasons -/

/-- Why the cache refuses a message. A reason counts only where those before it do not apply. -/
inductive Refuses (c : Cache) : Insertion → CacheError → Prop where
  /-- The request does not configure its pod. -/
  | podConfig {id : String} {request : Cri.RunPodSandboxRequest}
      (missing : request.config = none) :
      c.Refuses (.runPod id request) (.missingPodConfig id)
  /-- The request does not name its pod. -/
  | podMetadata {id : String} {request : Cri.RunPodSandboxRequest}
      {config : Cri.PodSandboxConfig} (configured : request.config = some config)
      (missing : config.metadata = none) :
      c.Refuses (.runPod id request) (.missingPodMetadata id .request)
  /-- The entry does not name its pod, which is not cached. -/
  | listedPodMetadata {sandbox : Cri.PodSandbox} (unknown : sandbox.id ∉ c.pods)
      (missing : sandbox.metadata = none) :
      c.Refuses (.listPod sandbox) (.missingPodMetadata sandbox.id .reply)
  /-- The request is for a pod that is not cached. -/
  | owner {request : Cri.CreateContainerRequest} (unknown : request.podSandboxId ∉ c.pods) :
      c.Refuses (.createContainer request) (.podNotFound request.podSandboxId)
  /-- The request does not configure its container. -/
  | containerConfig {request : Cri.CreateContainerRequest} (owned : request.podSandboxId ∈ c.pods)
      (missing : request.config = none) :
      c.Refuses (.createContainer request)
        (.missingContainerConfig (provisionalId c.nextProvisional))
  /-- The request does not name its container. -/
  | containerMetadata {request : Cri.CreateContainerRequest} {config : Cri.ContainerConfig}
      (owned : request.podSandboxId ∈ c.pods) (configured : request.config = some config)
      (missing : config.metadata = none) :
      c.Refuses (.createContainer request)
        (.missingContainerMetadata (provisionalId c.nextProvisional) .request)
  /-- The entry is for a pod that is not cached. -/
  | listedOwner {entry : Cri.Container} (unknown : entry.podSandboxId ∉ c.pods) :
      c.Refuses (.listContainer entry) (.podNotFound entry.podSandboxId)
  /-- The entry does not name its container, which is not cached. -/
  | listedContainerMetadata {entry : Cri.Container} (owned : entry.podSandboxId ∈ c.pods)
      (unknown : entry.id ∉ c.containers) (missing : entry.metadata = none) :
      c.Refuses (.listContainer entry) (.missingContainerMetadata entry.id .reply)

theorem apply_of_refused {c : Cache} {insertion : Insertion} {cause : CacheError}
    (refused : c.Refuses insertion cause) : insertion.apply c = (.error cause, c) := by
  cases refused with
  | podConfig missing => simp [Insertion.apply, runPod, Pod.ofRunRequest, missing]
  | podMetadata configured missing =>
    simp [Insertion.apply, runPod, Pod.ofRunRequest, configured, missing]
  | listedPodMetadata unknown missing =>
    simp [Insertion.apply, listPod, upsertPod, Pod.ofListEntry, unknown, missing]
  | owner unknown => simp [Insertion.apply, createContainer, unknown, Outcome.ofExcept]
  | containerConfig owned missing =>
    obtain ⟨pod, found⟩ := (Table.mem_iff _ _).1 owned
    simp [Insertion.apply, createContainer, found, Container.ofCreateRequest, missing,
      Outcome.ofExcept]
  | containerMetadata owned configured missing =>
    obtain ⟨pod, found⟩ := (Table.mem_iff _ _).1 owned
    simp [Insertion.apply, createContainer, found, Container.ofCreateRequest, configured, missing,
      Outcome.ofExcept]
  | listedOwner unknown =>
    simp [Insertion.apply, listContainer, upsertContainer, unknown, Outcome.ofExcept]
  | listedContainerMetadata owned unknown missing =>
    obtain ⟨pod, found⟩ := (Table.mem_iff _ _).1 owned
    simp [Insertion.apply, listContainer, upsertContainer, found, unknown, Container.ofListEntry,
      missing, Outcome.ofExcept]

/-- Where the machine stops, no reason applies, and nothing is changed. -/
theorem apply_of_stops {c : Cache} {insertion : Insertion} (stops : insertion.Stops c) :
    insertion.apply c = (.stop, c) := by
  obtain ⟨builds, raw, model, stops⟩ := stops
  cases insertion with
  | runPod id request =>
    obtain ⟨config, configured, named⟩ := builds
    simp only [Insertion.model?, configured, Option.bind_some] at model
    have answer : Pod.ofRunRequest id request = .stop :=
      Pod.ofRunRequest_eq_stop_iff.2 ⟨config, configured, named, raw, model, stops⟩
    simp [Insertion.apply, runPod, answer]
  | listPod sandbox =>
    obtain ⟨unknown, named⟩ := builds
    have answer : (c.upsertPod sandbox).1 = .stop :=
      (upsertPod_eq_stop_iff ..).2 ⟨unknown, named, raw, model, stops⟩
    simp [Insertion.apply, listPod, answer, upsertPod_of_stop answer]
  | createContainer | listContainer => exact builds.elim

/-- Where no reason applies the message is taken, unless the machine stops. -/
theorem refused_or_taken (c : Cache) (insertion : Insertion) :
    (∃ cause, c.Refuses insertion cause) ∨ insertion.Stops c ∨
      (insertion.apply c).1 = .ok () := by
  cases insertion with
  | runPod id request =>
    rcases Pod.ofRunRequest_cases id request with
      ⟨missing, -⟩ | ⟨config, configured, missing, -⟩ |
      ⟨config, configured, named, ⟨⟨raw, model, stops⟩, -⟩ | ⟨-, pod, built⟩⟩
    · exact .inl ⟨_, .podConfig missing⟩
    · exact .inl ⟨_, .podMetadata configured missing⟩
    · refine .inr (.inl ⟨⟨config, configured, named⟩, raw, ?_, stops⟩)
      simp only [Insertion.model?, configured, Option.bind_some, model]
    · exact .inr (.inr (by simp [Insertion.apply, runPod, built]))
  | listPod sandbox =>
    cases known : c.pods[sandbox.id]? with
    | some pod => exact .inr (.inr (by simp [Insertion.apply, listPod, upsertPod, known]))
    | none =>
      have unknown := (Table.getElem?_eq_none_iff _ _).1 known
      rcases Pod.ofListEntry_cases sandbox with
        ⟨missing, -⟩ | ⟨named, ⟨⟨raw, model, stops⟩, -⟩ | ⟨-, pod, built, -⟩⟩
      · exact .inl ⟨_, .listedPodMetadata unknown missing⟩
      · exact .inr (.inl ⟨⟨unknown, named⟩, raw, model, stops⟩)
      · exact .inr (.inr (by simp [Insertion.apply, listPod, upsertPod, known, built]))
  | createContainer request =>
    cases owner : c.pods[request.podSandboxId]? with
    | none => exact .inl ⟨_, .owner ((Table.getElem?_eq_none_iff _ _).1 owner)⟩
    | some pod =>
      have owned := Table.mem_of_getElem? owner
      cases configured : request.config with
      | none => exact .inl ⟨_, .containerConfig owned configured⟩
      | some config =>
        cases named : config.metadata with
        | none => exact .inl ⟨_, .containerMetadata owned configured named⟩
        | some metadata =>
          exact .inr (.inr (by simp [Insertion.apply, createContainer, owner,
            Container.ofCreateRequest, configured, named, Outcome.ofExcept]))
  | listContainer entry =>
    cases owner : c.pods[entry.podSandboxId]? with
    | none => exact .inl ⟨_, .listedOwner ((Table.getElem?_eq_none_iff _ _).1 owner)⟩
    | some pod =>
      have owned := Table.mem_of_getElem? owner
      cases known : c.containers[entry.id]? with
      | some container =>
        exact .inr (.inr (by simp [Insertion.apply, listContainer, upsertContainer, owner, known,
          Outcome.ofExcept]))
      | none =>
        have unknown := (Table.getElem?_eq_none_iff _ _).1 known
        cases named : entry.metadata with
        | none => exact .inl ⟨_, .listedContainerMetadata owned unknown named⟩
        | some metadata =>
          exact .inr (.inr (by simp [Insertion.apply, listContainer, upsertContainer, owner, known,
            Container.ofListEntry, named, Outcome.ofExcept]))

theorem apply_eq_error_iff (c : Cache) (insertion : Insertion) (cause : CacheError) :
    (insertion.apply c).1 = .error cause ↔ c.Refuses insertion cause := by
  constructor
  · intro answer
    rcases c.refused_or_taken insertion with ⟨reason, refused⟩ | stops | taken
    · rw [apply_of_refused refused, Outcome.error.injEq] at answer
      exact answer ▸ refused
    · rw [apply_of_stops stops] at answer
      cases answer
    · cases taken.symm.trans answer
  · intro refused
    rw [apply_of_refused refused]

theorem apply_insertion_eq_stop_iff (c : Cache) (insertion : Insertion) :
    (insertion.apply c).1 = .stop ↔ insertion.Stops c := by
  constructor
  · intro answer
    rcases c.refused_or_taken insertion with ⟨reason, refused⟩ | stops | taken
    · rw [apply_of_refused refused] at answer
      cases answer
    · exact stops
    · cases taken.symm.trans answer
  · intro stops
    rw [apply_of_stops stops]

/-! ### Labels and annotations -/

/-- The reasons do not look at labels and annotations. -/
theorem refuses_bare_iff (c : Cache) (insertion : Insertion) (cause : CacheError) :
    c.Refuses insertion.bare cause ↔ c.Refuses insertion cause := by
  constructor
  · intro refused
    cases insertion with
    | runPod id request =>
      cases refused with
      | podConfig missing => exact .podConfig (Option.map_eq_none_iff.1 missing)
      | podMetadata configured missing =>
        obtain ⟨config, given, rfl⟩ := Option.map_eq_some_iff.1 configured
        exact .podMetadata given missing
    | listPod sandbox =>
      cases refused with
      | listedPodMetadata unknown missing => exact .listedPodMetadata unknown missing
    | createContainer request =>
      cases refused with
      | owner unknown => exact .owner unknown
      | containerConfig owned missing =>
        exact .containerConfig owned (Option.map_eq_none_iff.1 missing)
      | containerMetadata owned configured missing =>
        obtain ⟨config, given, rfl⟩ := Option.map_eq_some_iff.1 configured
        exact .containerMetadata owned given missing
    | listContainer entry =>
      cases refused with
      | listedOwner unknown => exact .listedOwner unknown
      | listedContainerMetadata owned unknown missing =>
        exact .listedContainerMetadata owned unknown missing
  · intro refused
    cases refused with
    | podConfig missing => exact .podConfig (Option.map_eq_none_iff.2 missing)
    | @podMetadata _ _ config configured missing =>
      exact .podMetadata (Option.map_eq_some_iff.2 ⟨config, configured, rfl⟩) missing
    | listedPodMetadata unknown missing => exact .listedPodMetadata unknown missing
    | owner unknown => exact .owner unknown
    | containerConfig owned missing =>
      exact .containerConfig owned (Option.map_eq_none_iff.2 missing)
    | @containerMetadata _ config owned configured missing =>
      exact .containerMetadata owned (Option.map_eq_some_iff.2 ⟨config, configured, rfl⟩) missing
    | listedOwner unknown => exact .listedOwner unknown
    | listedContainerMetadata owned unknown missing =>
      exact .listedContainerMetadata owned unknown missing

theorem builds_bare_iff (c : Cache) (insertion : Insertion) :
    insertion.bare.Builds c ↔ insertion.Builds c := by
  cases insertion with
  | runPod id request =>
    cases configured : request.config <;>
      simp [Insertion.bare, Insertion.Builds, configured, Cri.PodSandboxConfig.bare]
  | listPod | createContainer | listContainer => exact .rfl

/-- Messages that agree in all but labels and annotations, and in the model, are answered
    alike. -/
theorem stops_iff_of_bare {c : Cache} {insertion other : Insertion}
    (same : other.bare = insertion.bare) (model : other.model? = insertion.model?) :
    other.Stops c ↔ insertion.Stops c := by
  rw [Insertion.Stops, Insertion.Stops, model, ← builds_bare_iff, same, builds_bare_iff]

/-- The cache refuses a message just for the reasons above, and stops at one just if that would
    add a pod with a resource model at which the machine stops. In both cases it is as it was
    before, and in any other it takes the message. Two messages that differ only in labels and
    annotations are refused alike, and the machine stops at both or at neither if they bring the
    same text of a model. -/
theorem insertion_refused_iff (c : Cache) (insertion : Insertion) :
    (∀ cause, (insertion.apply c).1 = .error cause ↔ c.Refuses insertion cause) ∧
    ((insertion.apply c).1 = .stop ↔ insertion.Stops c) ∧
    ((insertion.apply c).1 = .ok () ∨ (insertion.apply c).2 = c) ∧
    (∀ other : Insertion, other.bare = insertion.bare →
      (∀ cause, (other.apply c).1 = .error cause ↔ (insertion.apply c).1 = .error cause) ∧
      (other.model? = insertion.model? →
        ((other.apply c).1 = .stop ↔ (insertion.apply c).1 = .stop))) := by
  refine ⟨c.apply_eq_error_iff insertion, c.apply_insertion_eq_stop_iff insertion, ?_, ?_⟩
  · rcases c.refused_or_taken insertion with ⟨cause, refused⟩ | stops | taken
    · exact .inr (by rw [apply_of_refused refused])
    · exact .inr (by rw [apply_of_stops stops])
    · exact .inl taken
  · intro other same
    refine ⟨fun cause => ?_, fun model => ?_⟩
    · rw [apply_eq_error_iff, apply_eq_error_iff, ← refuses_bare_iff, same, refuses_bare_iff]
    · rw [apply_insertion_eq_stop_iff, apply_insertion_eq_stop_iff, stops_iff_of_bare same model]

/-- Not every message that lacks nothing is taken, and annotations can make the difference. -/
theorem not_forall_taken :
    (¬ ∀ (c : Cache) (insertion : Insertion), (∀ cause, ¬ c.Refuses insertion cause) →
      (insertion.apply c).1 = .ok ()) ∧
    ¬ ∀ (c : Cache) (insertion other : Insertion), other.bare = insertion.bare →
      (other.apply c).1 = (insertion.apply c).1 := by
  let tiny : Insertion := .runPod "p" .tiny
  have stops : tiny.apply ∅ = (.stop, ∅) := apply_of_stops ⟨⟨_, rfl, rfl⟩, Pod.stops_tiny⟩
  constructor
  · intro taken
    have unrefused : ∀ cause, ¬ Refuses ∅ tiny cause := by
      intro cause refused
      have answer := apply_of_refused refused
      rw [stops] at answer
      cases answer
    have answer := taken ∅ tiny unrefused
    rw [stops] at answer
    cases answer
  · intro alike
    have taken : (tiny.bare.apply ∅).1 = .ok () := by rfl
    have answer := alike ∅ tiny.bare tiny rfl
    rw [stops, taken] at answer
    cases answer

end Cache

end PodCache
