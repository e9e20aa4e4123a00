import PodCache.Cache.Basic
import PodCache.Proofs.ReadingOrder
import PodCache.Proofs.Table

/-!
# Pods at which the machine stops

A pod is built from a message that has its metadata, whatever its labels and annotations hold,
unless the machine stops at the resource model in the annotations. It does so for a model that
holds a text whose shift overflows.
-/

namespace PodCache

/-- The machine stops while it reads the resource model that the annotations hold. -/
def Pod.Stops (annotations : Table String) : Prop :=
  ∃ raw, annotations[Pod.modelKey]? = some raw ∧ Annotations.resources raw = .stop

namespace Pod

/-- An annotation that cannot be read is no error, so either there is a result or the machine
    stops. -/
theorem resourcesOf_cases (ε : Type) (annotations : Table String) :
    (Stops annotations ∧ (resourcesOf annotations : Outcome ε _) = .stop) ∨
      (¬ Stops annotations ∧ ∃ r, (resourcesOf annotations : Outcome ε _) = .ok r) := by
  unfold Stops resourcesOf Annotations.lookup
  cases found : annotations[modelKey]? with
  | none => exact .inr ⟨by simp, none, rfl⟩
  | some raw =>
    dsimp only
    cases read : Annotations.resources raw with
    | stop => exact .inl ⟨⟨raw, rfl, read⟩, rfl⟩
    | ok r => exact .inr ⟨by simp [read], some r, rfl⟩
    | error e => exact .inr ⟨by simp [read], none, rfl⟩

/-- Where the machine stops, a text in the annotation overflows. -/
theorem Stops.exists_overflows {annotations : Table String} (stops : Stops annotations) :
    ∃ raw s, annotations[modelKey]? = some raw ∧
      (Json.soFar raw.toList).HasText s ∧ Quantity.Overflows s := by
  obtain ⟨raw, found, stopped⟩ := stops
  obtain ⟨s, held, overflows⟩ := Annotations.exists_overflows_of_stop stopped
  exact ⟨raw, s, found, held, overflows⟩

/-! ### Messages -/

/-- The metadata of a request to run a sandbox, if it has a config with any. -/
theorem ofRunRequest_cases (id : String) (request : Cri.RunPodSandboxRequest) :
    (request.config = none ∧ ofRunRequest id request = .error (.missingPodConfig id)) ∨
    (∃ config, request.config = some config ∧ config.metadata = none ∧
      ofRunRequest id request = .error (.missingPodMetadata id .request)) ∨
    (∃ config, request.config = some config ∧ config.metadata.isSome ∧
      ((Stops config.annotations ∧ ofRunRequest id request = .stop) ∨
        (¬ Stops config.annotations ∧ ∃ pod, ofRunRequest id request = .ok pod))) := by
  unfold ofRunRequest
  cases request.config with
  | none => exact .inl ⟨rfl, rfl⟩
  | some config =>
    refine .inr ?_
    dsimp only
    cases absent : config.metadata with
    | none => exact .inl ⟨config, rfl, absent, rfl⟩
    | some metadata =>
      refine .inr ⟨config, rfl, by rw [absent]; rfl, ?_⟩
      dsimp only
      rcases resourcesOf_cases CacheError config.annotations with
        ⟨stops, stopped⟩ | ⟨reads, r, read⟩
      · exact .inl ⟨stops, by rw [stopped]; rfl⟩
      · exact .inr ⟨reads, _, by rw [read]; rfl⟩

theorem ofListEntry_cases (sandbox : Cri.PodSandbox) :
    (sandbox.metadata = none ∧
      ofListEntry sandbox = .error (.missingPodMetadata sandbox.id .reply)) ∨
    (sandbox.metadata.isSome ∧
      ((Stops sandbox.annotations ∧ ofListEntry sandbox = .stop) ∨
        (¬ Stops sandbox.annotations ∧ ∃ pod, ofListEntry sandbox = .ok pod ∧
          pod.state = sandbox.state))) := by
  unfold ofListEntry
  cases absent : sandbox.metadata with
  | none => exact .inl ⟨rfl, rfl⟩
  | some metadata =>
    refine .inr ⟨rfl, ?_⟩
    dsimp only
    rcases resourcesOf_cases CacheError sandbox.annotations with
      ⟨stops, stopped⟩ | ⟨reads, r, read⟩
    · exact .inl ⟨stops, by rw [stopped]; rfl⟩
    · exact .inr ⟨reads, _, by rw [read]; rfl, rfl⟩

theorem ofRunRequest_eq_stop_iff {id : String} {request : Cri.RunPodSandboxRequest} :
    ofRunRequest id request = .stop ↔
      ∃ config, request.config = some config ∧ config.metadata.isSome ∧
        Stops config.annotations := by
  rcases ofRunRequest_cases id request with
    ⟨absent, built⟩ | ⟨config, present, absent, built⟩ |
    ⟨config, present, metadata, ⟨stops, built⟩ | ⟨reads, pod, built⟩⟩
  · simp [built, absent]
  · simp [built, present, absent]
  · simp [built, present, metadata, stops]
  · simp [built, present, reads]

theorem ofListEntry_eq_stop_iff {sandbox : Cri.PodSandbox} :
    ofListEntry sandbox = .stop ↔ sandbox.metadata.isSome ∧ Stops sandbox.annotations := by
  rcases ofListEntry_cases sandbox with
    ⟨absent, built⟩ | ⟨metadata, ⟨stops, built⟩ | ⟨reads, pod, built, -⟩⟩
  · simp [built, absent]
  · simp [built, metadata, stops]
  · simp [built, reads]

end Pod

namespace Cache

/-! ### Operations -/

theorem runPod_eq_stop_iff (c : Cache) (id : String) (request : Cri.RunPodSandboxRequest) :
    (c.runPod id request).1 = .stop ↔
      ∃ config, request.config = some config ∧ config.metadata.isSome ∧
        Pod.Stops config.annotations := by
  rw [← @Pod.ofRunRequest_eq_stop_iff id]
  unfold runPod
  cases Pod.ofRunRequest id request <;> simp

/-- The machine stops at an entry if that is for a pod to be built and it stops at the model. -/
theorem upsertPod_eq_stop_iff (c : Cache) (sandbox : Cri.PodSandbox) :
    (c.upsertPod sandbox).1 = .stop ↔
      sandbox.id ∉ c.pods ∧ sandbox.metadata.isSome ∧ Pod.Stops sandbox.annotations := by
  rw [← Pod.ofListEntry_eq_stop_iff, ← Table.getElem?_eq_none_iff]
  unfold upsertPod
  cases known : c.pods[sandbox.id]? with
  | some pod => simp
  | none => cases built : Pod.ofListEntry sandbox <;> simp

end Cache

/-! ### A text whose shift overflows -/

/-- A billionth of the smallest power of ten that an exponent can denote. -/
def Quantity.tiny : String := "0.000000001e-2147483648"

/-- A resource model with that amount. -/
def PodResources.tinyDocument : String :=
  "\x7b\"Containers\": \x7b\"app\": \x7b\"Requests\": \x7b\"disk\": \"" ++ Quantity.tiny ++
    "\"\x7d\x7d\x7d\x7d"

/-- A request to run a pod with that model. -/
def Cri.RunPodSandboxRequest.tiny : Cri.RunPodSandboxRequest where
  config := some {
    metadata := some { name := "web" }
    annotations := (∅ : Table String).insert Pod.modelKey PodResources.tinyDocument }

/-- An entry for a pod with that model. -/
def Cri.PodSandbox.tiny : Cri.PodSandbox where
  id := "p"
  metadata := some { name := "web" }
  annotations := (∅ : Table String).insert Pod.modelKey PodResources.tinyDocument

theorem Pod.stops_tiny :
    Stops ((∅ : Table String).insert modelKey PodResources.tinyDocument) :=
  ⟨PodResources.tinyDocument, by simp, by rfl⟩

theorem Pod.ofRunRequest_tiny (id : String) : ofRunRequest id .tiny = .stop :=
  ofRunRequest_eq_stop_iff.2 ⟨_, rfl, rfl, stops_tiny⟩

theorem Pod.ofListEntry_tiny : ofListEntry .tiny = .stop :=
  ofListEntry_eq_stop_iff.2 ⟨rfl, stops_tiny⟩

namespace Quantity

theorem parse_tiny : parse tiny = .stop := by rfl

/-- The machine stops at the texts whose shift overflows, and at no other. So for all other
    texts each step fits that relies on it, and there is an amount or an error. Of the values in
    a document it stops at such texts only. It stops while it builds a pod just if the message
    has all that a pod needs and it stops at the annotation with the resource model, which then
    holds such a text. -/
theorem stops_iff_overflows (value : String) (v : Value) (id : String)
    (request : Cri.RunPodSandboxRequest) (sandbox : Cri.PodSandbox) (annotations : Table String) :
    (parse value = .stop ↔ Overflows value) ∧
    (ofValue v = .stop ↔ ∃ s, v = .text s ∧ Overflows s) ∧
    (Pod.ofRunRequest id request = .stop ↔
      ∃ config, request.config = some config ∧ config.metadata.isSome ∧
        Pod.Stops config.annotations) ∧
    (Pod.ofListEntry sandbox = .stop ↔
      sandbox.metadata.isSome ∧ Pod.Stops sandbox.annotations) ∧
    (Pod.Stops annotations →
      ∃ raw s, annotations[Pod.modelKey]? = some raw ∧
        (Json.soFar raw.toList).HasText s ∧ Overflows s) :=
  ⟨parse_eq_stop_iff value, ofValue_eq_stop_iff v, Pod.ofRunRequest_eq_stop_iff,
    Pod.ofListEntry_eq_stop_iff, Pod.Stops.exists_overflows⟩

/-- The least exponent makes the machine stop, and the next one does not. -/
theorem stops_iff_overflows_tiny :
    parse tiny = .stop ∧ Overflows tiny ∧
      ¬ Overflows "0.000000001e-2147483647" ∧
      ∃ raw s, raw = PodResources.tinyDocument ∧
        (Json.soFar raw.toList).HasText s ∧ Overflows s := by
  let annotations := (∅ : Table String).insert Pod.modelKey PodResources.tinyDocument
  have least := stops_iff_overflows tiny .null "p" .tiny .tiny annotations
  have next := stops_iff_overflows "0.000000001e-2147483647" .null "p" .tiny .tiny annotations
  have steady : parse "0.000000001e-2147483647" ≠ .stop := by
    have read : parse "0.000000001e-2147483647" = .ok (clamp 1) := by rfl
    rw [read]
    exact fun stops => nomatch stops
  obtain ⟨raw, s, found, held⟩ := least.2.2.2.2 Pod.stops_tiny
  refine ⟨parse_tiny, least.1.1 parse_tiny, mt next.1.2 steady, raw, s, ?_, held⟩
  simpa [annotations] using found.symm

/-- Not every text is read to the end, and not every complete request makes a pod. -/
theorem not_forall_settles :
    ¬ (∀ value, parse value ≠ .stop) ∧
      (¬ ∀ id request, Pod.ofRunRequest id request ≠ .stop) ∧
      ¬ ∀ sandbox, Pod.ofListEntry sandbox ≠ .stop :=
  ⟨fun settles => settles tiny parse_tiny,
    fun settles => settles "p" .tiny (Pod.ofRunRequest_tiny "p"),
    fun settles => settles .tiny Pod.ofListEntry_tiny⟩

end Quantity

end PodCache
