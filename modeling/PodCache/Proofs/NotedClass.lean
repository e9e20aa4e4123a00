import PodCache.Proofs.Mask
import PodCache.Proofs.PendingCreation

/-!
# Noted classes

The class of a pod is noted when it is first asked for, and the note is all that such a
question changes. No note is ever wrong: it is made from the resource model of the pod,
which the pod keeps for as long as it is in the cache and is not run again.
-/

namespace PodCache

/-! ### Pods -/

namespace Pod

/-- The class that is noted for the pod, if one is, is that of its resource model. -/
def RightlyNoted (p : Pod) : Prop :=
  ∀ q, p.notedClass = some q → q = Qos.classify p.resourceModel

theorem RightlyNoted.of_none {p : Pod} (unnoted : p.notedClass = none) : p.RightlyNoted := by
  intro q noted
  rw [unnoted] at noted
  cases noted

theorem RightlyNoted.qosClass {p : Pod} (right : p.RightlyNoted) :
    p.qosClass = Qos.classify p.resourceModel := by
  unfold Pod.qosClass
  cases noted : p.notedClass with
  | none => rfl
  | some q => exact right q noted

theorem RightlyNoted.noteClass {p : Pod} (right : p.RightlyNoted) : p.noteClass.RightlyNoted := by
  intro q noted
  cases noted
  exact right.qosClass

/-- The pod is the other one, in any state and with its class noted or not. -/
def SameAs (p q : Pod) : Prop := p = { q with state := p.state, notedClass := p.notedClass }

theorem SameAs.refl (p : Pod) : p.SameAs p := rfl

theorem SameAs.resourceModel {p q : Pod} (same : p.SameAs q) :
    p.resourceModel = q.resourceModel := by
  rw [same]
  rfl

/-- The pod with no class noted. -/
def unnote (p : Pod) : Pod := { p with notedClass := none }

theorem unnote_mask : Pod.Mask unnote where
  id _ := rfl
  namespaceName _ := rfl
  resources _ := rfl
  state _ := rfl
  move _ _ := rfl
  unnoted p unnoted := by
    unfold unnote
    rw [← unnoted]

@[simp] theorem unnote_unnote (p : Pod) : p.unnote.unnote = p.unnote := rfl

@[simp] theorem unnote_noteClass (p : Pod) : p.noteClass.unnote = p.unnote := rfl

/-- Without its note the class of a pod is worked out once more, to the same result. -/
theorem RightlyNoted.qosClass_unnote {p : Pod} (right : p.RightlyNoted) :
    p.unnote.qosClass = p.qosClass :=
  right.qosClass.symm

end Pod

namespace Cache

/-! ### Notes in a cache -/

/-- All notes are right. -/
def RightlyNoted (c : Cache) : Prop :=
  ∀ (id : String) (pod : Pod), c.pods[id]? = some pod → pod.RightlyNoted

namespace RightlyNoted

theorem empty : RightlyNoted ∅ := by
  intro id pod found
  cases found

theorem insertPod {c : Cache} (right : c.RightlyNoted) (id : String) {pod : Pod}
    (noted : pod.RightlyNoted) : RightlyNoted { c with pods := c.pods.insert id pod } := by
  intro j p found
  rcases Table.insert_cases found with ⟨rfl, rfl⟩ | found
  · exact noted
  · exact right j p found

/-- Only notes that are right are made. -/
theorem edit {brought asked : String → Prop} (c c' : Cache) (edit : Edit brought asked c c')
    (right : c.RightlyNoted) : c'.RightlyNoted := by
  cases edit with
  | runPod built =>
    exact right.insertPod _ (.of_none (Pod.notedClass_of_ofRunRequest built))
  | findPod unknown built =>
    exact right.insertPod _ (.of_none (Pod.notedClass_of_ofListEntry built))
  | @movePod id pod known state =>
    exact right.insertPod id (right id pod known)
  | dropPod known =>
    intro id pod found
    exact right id pod (Table.of_erase found).2
  | notePods noted =>
    intro id pod found
    dsimp only at found
    rcases noted id with same | changed
    · exact right id pod (same ▸ found)
    · rw [changed] at found
      obtain ⟨old, known, rfl⟩ := Option.map_eq_some_iff.1 found
      exact (right id old known).noteClass
  | _ => exact right

theorem step {c : Cache} (right : c.RightlyNoted) (step : Step) : (step.apply c).RightlyNoted :=
  (step.anyEdits c).preserves edit right

theorem run (steps : List Step) : (Cache.run ∅ steps).RightlyNoted :=
  run_preserves_of_edits (@edit (fun _ => True) _) (by simp) empty

end RightlyNoted

/-! ### Operations that leave the pods alone -/

@[simp] theorem createContainer_pods (c : Cache) (request : Cri.CreateContainerRequest) :
    (c.createContainer request).2.pods = c.pods := by
  cases answer : (c.createContainer request).1 with
  | error e => rw [createContainer_of_error answer]
  | ok id =>
    obtain ⟨_, _, _, _, _, created⟩ := createContainer_eq_ok answer
    rw [created]

@[simp] theorem abortCreate_pods (c : Cache) (id : String) :
    (c.abortCreate id).2.pods = c.pods := by
  unfold abortCreate
  split <;> rfl

@[simp] theorem assignId_pods (c : Cache) (id : String) (response : Cri.CreateContainerResponse) :
    (c.assignId id response).2.pods = c.pods := by
  cases answer : (c.assignId id response).1 with
  | error e => rw [assignId_of_error answer]
  | ok container =>
    obtain ⟨_, _, _, _, assigned⟩ := assignId_eq_ok answer
    rw [assigned]

@[simp] theorem refreshContainers_pods (c : Cache) (reply : Cri.ListContainersResponse) :
    (c.refreshContainers reply).2.pods = c.pods := by
  rw [refreshContainers_snd]
  simp

@[simp] theorem settleCreate_pods (c : Cache) (id : String)
    (response : Option Cri.CreateContainerResponse) (error : Option String) :
    (Replay.settleCreate c id response error).2.pods = c.pods := by
  cases error with
  | some error => exact c.abortCreate_pods id
  | none =>
    cases response with
    | none => rfl
    | some response =>
      rw [Replay.settleCreate_response]
      cases (c.assignId id response).1 <;> simp

/-! ### What becomes of a pod -/

variable {c : Cache} {id : String} {old new : Pod} (before : c.pods[id]? = some old)
include before

/-- A pod that is in the cache before and after a run request is the same, or is the one that
    the request asks for. -/
theorem runPod_cases {podId : String} {request : Cri.RunPodSandboxRequest}
    (after : (c.runPod podId request).2.pods[id]? = some new) :
    new.SameAs old ∨ podId = id ∧ (c.runPod podId request).1 = .ok new := by
  by_cases accepted : ∃ pod, (c.runPod podId request).1 = .ok pod
  · obtain ⟨pod, answer⟩ := accepted
    rw [(runPod_eq_ok answer).2] at after
    rcases Table.insert_cases after with ⟨equal, rfl⟩ | after
    · exact .inr ⟨equal, answer⟩
    · rw [before] at after
      cases after
      exact .inl (.refl old)
  · rw [runPod_of_not_ok (not_exists.1 accepted), before] at after
    cases after
    exact .inl (.refl old)

theorem upsertPod_sameAs {sandbox : Cri.PodSandbox}
    (after : (c.upsertPod sandbox).2.pods[id]? = some new) : new.SameAs old := by
  rw [upsertPod_pods, before] at after
  split at after
  · cases after
    exact rfl
  · cases after
    exact .refl old

theorem deletePod_sameAs {podId : String}
    (after : (c.deletePod podId).2.pods[id]? = some new) : new.SameAs old := by
  rw [deletePod_pods, before] at after
  split at after
  · cases after
  · cases after
    exact .refl old

theorem takeOver_sameAs {entries : List Cri.PodSandbox}
    (after : entries.foldl Pod.takeOver c.pods[id]? = some new) : new.SameAs old := by
  rw [before, Pod.takeOver_follows.foldl_some, Option.some.injEq] at after
  rw [← after, moveLast]
  split <;> rfl

theorem refreshPods_sameAs {reply : Cri.ListPodSandboxResponse}
    (after : (c.refreshPods reply).2.pods[id]? = some new) : new.SameAs old := by
  refine refreshPods_ends (P := fun c' => c'.pods[id]? = some new → new.SameAs old) ?_ ?_ after
  · intro sandboxes after
    rw [takePods_pods] at after
    exact takeOver_sameAs before after
  · intro after
    rw [reconcilePods_pods] at after
    split at after
    · cases after
    · exact takeOver_sameAs before after

theorem noteClass_sameAs {podId : String}
    (after : (c.noteClass podId).pods[id]? = some new) : new.SameAs old := by
  rw [getElem?_noteClass, before] at after
  split at after
  · cases after
    exact rfl
  · cases after
    exact .refl old

theorem ask_sameAs {query : Query}
    (after : (query.apply c).pods[id]? = some new) : new.SameAs old := by
  cases query with
  | podClass podId => exact noteClass_sameAs before after
  | containerClass containerId =>
    simp only [Query.apply, containerClass] at after
    split at after
    · rw [before] at after
      cases after
      exact .refl old
    · exact noteClass_sameAs before after
  | summary =>
    simp only [Query.apply, Replay.summarize, Std.ExtTreeMap.getElem?_map, before] at after
    cases after
    exact rfl

theorem sameAs_of_pods_eq {c' : Cache} (same : c'.pods = c.pods)
    (after : c'.pods[id]? = some new) : new.SameAs old := by
  rw [same, before] at after
  cases after
  exact .refl old

end Cache

open Cache in
/-- A pod that is in the cache before and after a step is the same, unless the step reports
    that it was run, and is accepted. -/
theorem Step.pod_cases {c : Cache} (step : Step) {id : String} {old new : Pod}
    (before : c.pods[id]? = some old) (after : (step.apply c).pods[id]? = some new) :
    new.SameAs old ∨ ∃ request, step.runRequest? = some (id, request) ∧
      (c.runPod id request).1 = .ok new := by
  have ran : ∀ {podId : String} {request : Cri.RunPodSandboxRequest},
      step.runRequest? = some (podId, request) →
      (c.runPod podId request).2.pods[id]? = some new →
      new.SameAs old ∨ ∃ request, step.runRequest? = some (id, request) ∧
        (c.runPod id request).1 = .ok new := by
    intro podId request asks after
    refine (runPod_cases before after).imp_right ?_
    rintro ⟨rfl, accepted⟩
    exact ⟨request, asks, accepted⟩
  cases step with
  | call operation =>
    cases operation with
    | runPod podId request => exact ran rfl after
    | listPod sandbox =>
      rw [Step.apply, Operation.apply, listPod_snd] at after
      exact .inl (upsertPod_sameAs before after)
    | deletePod podId => exact .inl (deletePod_sameAs before after)
    | refreshPods reply => exact .inl (refreshPods_sameAs before after)
    | listContainer entry =>
      refine .inl (sameAs_of_pods_eq before ?_ after)
      rw [Step.apply, Operation.apply, listContainer_snd, upsertContainer_pods]
    | createContainer | assignId | abortCreate | deleteContainer | refreshContainers =>
      refine .inl (sameAs_of_pods_eq before ?_ after)
      simp [Step.apply, Operation.apply]
  | ask query => exact .inl (ask_sameAs before after)
  | replay event =>
    cases event with
    | runPodSandbox podId request => exact ran rfl after
    | removePodSandbox podId => exact .inl (deletePod_sameAs before after)
    | listPodSandbox reply => exact .inl (refreshPods_sameAs before after)
    | createContainer request response error =>
      refine .inl (sameAs_of_pods_eq before ?_ after)
      rw [Step.apply, Replay.Event.apply_createContainer]
      cases (c.createContainer request).1 <;> simp
    | listContainers | removeContainer =>
      refine .inl (sameAs_of_pods_eq before ?_ after)
      simp [Step.apply, Replay.Event.apply]

/-! ### How long an answer lasts -/

/-- The step, taken in the cache, removes the pod or puts a pod that was run in its place. -/
def Step.Displaces (c : Cache) (podId : String) (step : Step) : Prop :=
  podId ∉ (step.apply c).pods ∨
    ∃ request pod, step.runRequest? = some (podId, request) ∧ (c.runPod podId request).1 = .ok pod

namespace Cache

/-- None of the steps, taken one after the other from the cache, displaces the pod. -/
def Keeps (podId : String) : Cache → List Step → Prop
  | _, [] => True
  | c, step :: steps => ¬ step.Displaces c podId ∧ Keeps podId (step.apply c) steps

theorem podClass_eq {c : Cache} (right : c.RightlyNoted) (podId : String) :
    (c.podClass podId).1 = c.pods[podId]?.map fun p => Qos.classify p.resourceModel := by
  unfold podClass
  cases found : c.pods[podId]? with
  | none => rfl
  | some pod => exact congrArg some (right podId pod found).qosClass

/-- The class of a pod lasts as long as the pod. -/
theorem run_podClass {c : Cache} (right : c.RightlyNoted) {podId : String}
    (known : podId ∈ c.pods) {steps : List Step} (keeps : c.Keeps podId steps) :
    ((c.run steps).podClass podId).1 = (c.podClass podId).1 := by
  induction steps generalizing c with
  | nil => rfl
  | cons step steps ih =>
    obtain ⟨undisplaced, keeps⟩ := keeps
    obtain ⟨stays, unasked⟩ := not_or.1 undisplaced
    have stays := not_not.1 stays
    obtain ⟨old, before⟩ := (Table.mem_iff _ _).1 known
    obtain ⟨new, after⟩ := (Table.mem_iff _ _).1 stays
    have same : new.SameAs old := by
      refine (step.pod_cases before after).resolve_right ?_
      rintro ⟨request, asks, accepted⟩
      exact unasked ⟨request, new, asks, accepted⟩
    rw [run_cons, ih (right.step step) stays keeps, podClass_eq (right.step step),
      podClass_eq right, before, after, Option.map_some, Option.map_some, same.resourceModel]

end Cache

end PodCache
