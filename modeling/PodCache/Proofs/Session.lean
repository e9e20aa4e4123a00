import PodCache.Proofs.NotedClass

/-!
# Sessions

Calls, recorded events and questions in any order, each with its answer. A question leaves
nothing behind but notes of classes, and these show in no answer: whatever questions are
put in between, all other answers stay as they are.
-/

namespace PodCache

/-! ### Answers -/

/-- What comes back from a cache. -/
inductive Answer where
  | pod (answer : Outcome CacheError Pod)
  | provisionalId (answer : Except CacheError String)
  | container (answer : Except CacheError Container)
  | removedPod (pod : Option Pod)
  | removedContainer (container : Option Container)
  | refresh (changes : Outcome Empty Refresh)
  | event (answer : Outcome CacheError Unit)
  | qosClass (q : Option QosClass)
  | summary (pods : List Replay.PodSummary)
  | podData (data : Option (Pod × List Container × List Container))
  | containerData (data : Option (Container × Option Pod × ResourceRequirements))
  | podContainers (containers : List Container)

/-- The answer without the notes of classes in it. -/
def Answer.unnote : Answer → Answer
  | .pod result => .pod (Pod.unnote <$> result)
  | .removedPod p => .removedPod (p.map Pod.unnote)
  | .podData data => .podData (data.map fun (p, regular, init) => (p.unnote, regular, init))
  | .containerData data =>
    .containerData (data.map fun (k, p, needs) => (k, p.map Pod.unnote, needs))
  | other => other

/-- The answer to a call. -/
def Operation.answer (c : Cache) : Operation → Answer
  | runPod id request => .pod (c.runPod id request).1
  | listPod sandbox => .pod (c.listPod sandbox).1
  | deletePod id => .removedPod (c.deletePod id).1
  | createContainer request => .provisionalId (c.createContainer request).1
  | assignId provisionalId response => .container (c.assignId provisionalId response).1
  | abortCreate provisionalId => .removedContainer (c.abortCreate provisionalId).1
  | listContainer entry => .container (c.listContainer entry).1
  | deleteContainer id => .removedContainer (c.deleteContainer id).1
  | refreshPods reply => .refresh (c.refreshPods reply).1
  | refreshContainers reply => .refresh (.ok (c.refreshContainers reply).1)

/-- The answer to a question about the class of pods. -/
def Query.answer (c : Cache) : Query → Answer
  | podClass podId => .qosClass (c.podClass podId).1
  | containerClass containerId => .qosClass (c.containerClass containerId).1
  | summary => .summary (Replay.summarize c).1

/-- A question. All but those about classes leave the cache as it is. -/
inductive Question where
  | ofClass (query : Query)
  /-- A pod with its regular containers and its init containers. -/
  | pod (id : String)
  /-- A container with its pod and its requirements. -/
  | container (id : String)
  | podContainers (podId : String)

namespace Question

/-- The cache after a question. -/
def apply (c : Cache) : Question → Cache
  | ofClass query => query.apply c
  | _ => c

/-- The answer to a question. -/
def answer (c : Cache) : Question → Answer
  | ofClass query => query.answer c
  | pod id => .podData (c.pods[id]?.map fun p => (p, p.regularContainers c, p.initContainers c))
  | container id => .containerData (c.containers[id]?.map fun k => (k, k.pod? c, k.requirements c))
  | podContainers podId => .podContainers (c.podContainers podId)

end Question

/-- Anything that a cache answers. -/
inductive Act where
  | call (operation : Operation)
  | replay (event : Replay.Event)
  | ask (question : Question)

namespace Act

/-- The cache after an act. -/
def apply (c : Cache) : Act → Cache
  | call operation => operation.apply c
  | replay event => (event.apply c).2
  | ask question => question.apply c

/-- The answer to an act. -/
def answer (c : Cache) : Act → Answer
  | call operation => operation.answer c
  | replay event => .event (event.apply c).1
  | ask question => question.answer c

end Act

/-- Acts in order, with further questions put in between them. -/
abbrev Session := List (Act ⊕ Question)

namespace Session

/-- The answers to the acts of a session. -/
def answers (c : Cache) : Session → List Answer
  | [] => []
  | .inl act :: session => act.answer c :: answers (act.apply c) session
  | .inr question :: session => answers (question.apply c) session

/-- The cache after a session. -/
def after (c : Cache) : Session → Cache
  | [] => c
  | .inl act :: session => after (act.apply c) session
  | .inr question :: session => after (question.apply c) session

/-- The session without the further questions. -/
def acts (session : Session) : Session := session.filter Sum.isLeft

end Session

/-! ### Caches without notes -/

namespace Cache

/-- The cache with no class noted. -/
def unnote (c : Cache) : Cache := c.mask Pod.unnote fun n => n

@[simp] theorem unnote_unnote (c : Cache) : c.unnote.unnote = c.unnote := by
  unfold unnote mask
  rw [Std.ExtTreeMap.map_map]
  rfl

@[simp] theorem getElem?_unnote_pods (c : Cache) (id : String) :
    c.unnote.pods[id]? = c.pods[id]?.map Pod.unnote :=
  getElem?_mask_pods ..

theorem unnote_noteClass (c : Cache) (podId : String) : (c.noteClass podId).unnote = c.unnote := by
  have pods : (c.noteClass podId).unnote.pods = c.unnote.pods := by
    apply Table.ext
    intro id
    rw [getElem?_unnote_pods, getElem?_unnote_pods, getElem?_noteClass]
    split
    · rw [Option.map_map]
      rfl
    · rfl
  exact congrArg (fun pods => { c with pods }) pods

theorem unnote_summarize (c : Cache) : (Replay.summarize c).2.unnote = c.unnote := by
  unfold unnote mask Replay.summarize
  dsimp only
  rw [Std.ExtTreeMap.map_map]
  rfl

end Cache

/-! ### Answers of a cache without notes -/

section Unnoted

open Cache

variable {c : Cache}

/-- A call leads to the same cache, be it with notes before it or without. -/
theorem Operation.apply_unnote (c : Cache) (operation : Operation) :
    operation.apply c.unnote = (operation.apply c).unnote := by
  cases operation <;>
    simp only [apply, unnote, runPod_mask Pod.unnote_mask, listPod_mask Pod.unnote_mask,
      deletePod_mask, refreshPods_mask Pod.unnote_mask, createContainer_mask Pod.unnote_mask,
      assignId_mask, abortCreate_mask, listContainer_mask Pod.unnote_mask, deleteContainer_mask,
      refreshContainers_mask Pod.unnote_mask]

/-- And it has the same answer. -/
theorem Operation.answer_unnote (c : Cache) (operation : Operation) :
    (operation.answer c.unnote).unnote = (operation.answer c).unnote := by
  cases operation with
  | listPod sandbox =>
    simp only [answer, unnote, listPod_mask Pod.unnote_mask, Answer.unnote]
    cases (c.listPod sandbox).1 <;> rfl
  | deletePod id =>
    simp only [answer, unnote, deletePod_mask, Answer.unnote, Option.map_map]
    rfl
  | _ =>
    simp only [answer, unnote, runPod_mask Pod.unnote_mask, refreshPods_mask Pod.unnote_mask,
      createContainer_mask Pod.unnote_mask, assignId_mask, abortCreate_mask,
      listContainer_mask Pod.unnote_mask, deleteContainer_mask,
      refreshContainers_mask Pod.unnote_mask]

theorem Replay.Event.apply_unnote (c : Cache) (event : Replay.Event) :
    event.apply c.unnote = ((event.apply c).1, (event.apply c).2.unnote) :=
  event.apply_mask Pod.unnote_mask (fun n => n) c (fun _ => rfl)

end Unnoted

namespace Question

open Cache

/-- A question leaves nothing behind but notes. -/
theorem unnote_apply (c : Cache) (question : Question) : (question.apply c).unnote = c.unnote := by
  cases question with
  | ofClass query =>
    cases query with
    | podClass podId => exact c.unnote_noteClass podId
    | containerClass containerId =>
      simp only [apply, Query.apply, containerClass]
      split
      · rfl
      · exact c.unnote_noteClass _
    | summary => exact c.unnote_summarize
  | pod | container | podContainers => rfl

end Question

/-! ### Questions to a cache without notes -/

section Right

variable {c : Cache} (right : c.RightlyNoted)

theorem Pod.regularContainers_unnote (p : Pod) (c : Cache) :
    p.unnote.regularContainers c.unnote = p.regularContainers c := rfl

theorem Pod.initContainers_unnote (p : Pod) (c : Cache) :
    p.unnote.initContainers c.unnote = p.initContainers c := rfl

theorem Container.pod?_unnote (k : Container) (c : Cache) :
    k.pod? c.unnote = (k.pod? c).map Pod.unnote :=
  c.getElem?_unnote_pods k.podId

theorem Container.requirements_unnote (k : Container) (c : Cache) :
    k.requirements c.unnote = k.requirements c := by
  unfold requirements
  rw [pod?_unnote]
  cases k.pod? c <;> rfl

include right in
theorem Container.qosClass_unnote (k : Container) : k.qosClass c.unnote = k.qosClass c := by
  unfold qosClass
  rw [pod?_unnote]
  cases owner : k.pod? c with
  | none => rfl
  | some pod =>
    have noted : pod.RightlyNoted := right k.podId pod owner
    simp only [Option.map_some, Option.getD_some, noted.qosClass_unnote]

theorem Replay.PodSummary.ofPod_unnote {p : Pod} (noted : p.RightlyNoted) (c : Cache) :
    PodSummary.ofPod c.unnote p.unnote = PodSummary.ofPod c p := by
  unfold ofPod
  rw [Pod.regularContainers_unnote, Pod.initContainers_unnote, noted.qosClass_unnote]
  rfl

include right in
theorem Replay.summarize_unnote : (summarize c.unnote).1 = (summarize c).1 := by
  have pods : c.unnote.pods.values = c.pods.values.map Pod.unnote := Table.values_map ..
  unfold summarize
  rw [pods, List.map_map]
  apply List.map_congr_left
  intro p member
  obtain ⟨id, found⟩ := (Table.mem_values _ _).1 member
  exact PodSummary.ofPod_unnote (right id p found) c

include right in
/-- Where all notes are right, no answer depends on them. -/
theorem Question.answer_unnote (question : Question) :
    (question.answer c.unnote).unnote = (question.answer c).unnote := by
  cases question with
  | ofClass query =>
    cases query with
    | podClass podId =>
      simp only [answer, Query.answer, Cache.podClass, Cache.getElem?_unnote_pods, Option.map_map]
      cases found : c.pods[podId]? with
      | none => rfl
      | some pod =>
        simp only [Option.map_some, Function.comp_apply, (right podId pod found).qosClass_unnote]
    | containerClass containerId =>
      simp only [answer, Query.answer, Cache.containerClass, Cache.unnote, Cache.mask_containers]
      cases c.containers[containerId]? with
      | none => rfl
      | some k =>
        have same := Container.qosClass_unnote right k
        unfold Cache.unnote at same
        simp only [same]
    | summary =>
      simp only [answer, Query.answer, Replay.summarize_unnote right]
  | pod id =>
    simp only [answer, Answer.unnote, Cache.getElem?_unnote_pods, Option.map_map]
    rfl
  | container id =>
    have containers : c.unnote.containers = c.containers := rfl
    simp only [answer, Answer.unnote, containers, Option.map_map, Function.comp_def,
      Container.pod?_unnote, Container.requirements_unnote]
    rfl
  | podContainers podId => rfl

/-! ### Acts -/

include right in
theorem Act.answer_unnote (act : Act) : (act.answer c.unnote).unnote = (act.answer c).unnote := by
  cases act with
  | call operation => exact operation.answer_unnote c
  | replay event => rw [answer, answer, event.apply_unnote]
  | ask question => exact question.answer_unnote right

theorem Act.apply_unnote (c : Cache) (act : Act) :
    (act.apply c.unnote).unnote = (act.apply c).unnote := by
  cases act with
  | call operation => rw [apply, operation.apply_unnote, Cache.unnote_unnote, apply]
  | replay event => rw [apply, event.apply_unnote, Cache.unnote_unnote, apply]
  | ask question =>
    rw [apply, question.unnote_apply, Cache.unnote_unnote, apply, question.unnote_apply]

include right in
theorem Question.rightlyNoted_apply (question : Question) : (question.apply c).RightlyNoted := by
  cases question with
  | ofClass query => exact right.step (.ask query)
  | pod | container | podContainers => exact right

include right in
theorem Act.rightlyNoted_apply (act : Act) : (act.apply c).RightlyNoted := by
  cases act with
  | call operation => exact right.step (.call operation)
  | replay event => exact right.step (.replay event)
  | ask question => exact question.rightlyNoted_apply right

end Right

/-! ### Sessions -/

/-- Of two caches with the same entities and right notes, one may go through a session and
    the other only through its acts: the answers are the same, and the entities in the end. -/
theorem Session.unnote_eq {c c' : Cache} (right : c.RightlyNoted) (right' : c'.RightlyNoted)
    (same : c.unnote = c'.unnote) (session : Session) :
    (session.answers c).map Answer.unnote = (session.acts.answers c').map Answer.unnote ∧
      (session.after c).unnote = (session.acts.after c').unnote := by
  induction session generalizing c c' with
  | nil => exact ⟨rfl, same⟩
  | cons event session ih =>
    cases event with
    | inl act =>
      have applied : (act.apply c).unnote = (act.apply c').unnote := by
        rw [← act.apply_unnote c, ← act.apply_unnote c', same]
      have answered : (act.answer c).unnote = (act.answer c').unnote := by
        rw [← act.answer_unnote right, ← act.answer_unnote right', same]
      obtain ⟨answers, after⟩ :=
        ih (act.rightlyNoted_apply right) (act.rightlyNoted_apply right') applied
      exact ⟨congrArg₂ List.cons answered answers, after⟩
    | inr question =>
      exact ih (question.rightlyNoted_apply right) right' ((question.unnote_apply c).trans same)

namespace Cache

/-- What holds of classes wherever a run leads. A noted class is that of the resource model
    of the pod. The pod of a container is in the cache, and its class is that of the
    container. Whatever questions are put in between the acts of a session, the acts have
    the same answers and lead to the same entities, but for notes of classes. The answer to
    a question about the class of a pod is the same until the pod is displaced. -/
theorem run_noted_classes (steps : List Step) :
    let c := run ∅ steps
    (∀ (id : String) (pod : Pod), c.pods[id]? = some pod →
      (∀ q, pod.notedClass = some q → q = Qos.classify pod.resourceModel) ∧
      (c.podClass id).1 = some (Qos.classify pod.resourceModel)) ∧
    (∀ (id : String) (k : Container), c.containers[id]? = some k →
      ∃ pod, k.pod? c = some pod ∧ k.qosClass c = pod.qosClass ∧
        (c.containerClass id).1 = (c.podClass k.podId).1) ∧
    (∀ session : Session,
      (session.answers c).map Answer.unnote = (session.acts.answers c).map Answer.unnote ∧
      (session.after c).unnote = (session.acts.after c).unnote) ∧
    (∀ (podId : String) (later : List Step), podId ∈ c.pods → c.Keeps podId later →
      ((c.run later).podClass podId).1 = (c.podClass podId).1) := by
  intro c
  have right : c.RightlyNoted := RightlyNoted.run steps
  have valid : c.WellFormed := WellFormed.run steps
  refine ⟨?_, ?_, ?_, ?_⟩
  · intro id pod found
    refine ⟨right id pod found, ?_⟩
    rw [podClass_eq right, found, Option.map_some]
  · intro id k found
    obtain ⟨pod, owner⟩ := (Table.mem_iff _ _).1 (valid.owner id k found)
    have own : k.pod? c = some pod := owner
    have inherited : k.qosClass c = pod.qosClass := by
      rw [Container.qosClass, own, Option.map_some, Option.getD_some]
    refine ⟨pod, own, inherited, ?_⟩
    simp only [containerClass, podClass, found, inherited, owner, Option.map_some]
  · intro session
    exact session.unnote_eq right right rfl
  · intro podId later known keeps
    exact run_podClass right known keeps

/-- Steps that note the class of a pod and then list it in another state. -/
def askThenList : List Step :=
  [.ask (.podClass "p"), .call (.listPod { id := "p", state := .notReady })]

/-- These do not displace the pod, so its class lasts. -/
theorem run_noted_classes_listed :
    (run ∅ runOfPod).Keeps "p" askThenList ∧
      (((run ∅ runOfPod).run askThenList).podClass "p").1 = some .bestEffort := by
  have known : "p" ∈ (run ∅ runOfPod).pods := by decide
  have keeps : (run ∅ runOfPod).Keeps "p" askThenList := by
    refine ⟨?_, ?_, trivial⟩
    · rintro (gone | ⟨_, _, asks, _⟩)
      · exact gone (by decide)
      · cases asks
    · rintro (gone | ⟨_, _, asks, _⟩)
      · exact gone (by decide)
      · cases asks
  have lasting := (run_noted_classes runOfPod).2.2.2 "p" askThenList known keeps
  exact ⟨keeps, lasting.trans (by rfl)⟩

end Cache

end PodCache
