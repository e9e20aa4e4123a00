import Mathlib.Logic.Relation
import PodCache.Proofs.Deletion
import PodCache.Proofs.Run

/-!
# Edits

Every step changes a cache by a sequence of edits, each of which touches one pod or one
container, or ends a refresh. The edits say all that a step can do, with the conditions
under which it does it, so an invariant of all runs has to be checked for edits only.
-/

namespace PodCache

open Relation (ReflTransGen)

/-- A change of a single entity. A container id that the runtime brings into the cache
    satisfies `brought`, and the id of a pod that it has run satisfies `asked`. -/
inductive Edit (brought asked : String → Prop) (c : Cache) : Cache → Prop where
  /-- A pod was run. It takes the place of any pod with its id. -/
  | runPod {id : String} {request : Cri.RunPodSandboxRequest} {pod : Pod}
      (built : Pod.ofRunRequest id request = .ok pod) (run : asked id) :
      Edit brought asked c { c with pods := c.pods.insert id pod }
  /-- An unknown pod was listed. -/
  | findPod {sandbox : Cri.PodSandbox} {pod : Pod} (unknown : sandbox.id ∉ c.pods)
      (built : Pod.ofListEntry sandbox = .ok pod) :
      Edit brought asked c { c with pods := c.pods.insert sandbox.id pod }
  /-- A known pod was listed and takes over the state of the entry. -/
  | movePod {id : String} {pod : Pod} (known : c.pods[id]? = some pod)
      (state : Cri.SandboxState) :
      Edit brought asked c { c with pods := c.pods.insert id { pod with state } }
  /-- A pod was removed together with its containers. -/
  | dropPod {id : String} {pod : Pod} (known : c.pods[id]? = some pod) :
      Edit brought asked c { c with
        pods := c.pods.erase id
        containers := c.containers.filter fun _ k => k.podId != id
        pending := c.pending.filter fun j _ =>
          (c.containers.filter fun _ k => k.podId != id).contains j }
  /-- The classes of some pods were noted. -/
  | notePods {pods : Table Pod} (noted : ∀ id : String,
        pods[id]? = c.pods[id]? ∨ pods[id]? = c.pods[id]?.map Pod.noteClass) :
      Edit brought asked c { c with pods }
  /-- A container is being created and has a provisional id. -/
  | createContainer {request : Cri.CreateContainerRequest} {pod : Pod} {container : Container}
      (owner : c.pods[request.podSandboxId]? = some pod)
      (built : Container.ofCreateRequest (Cache.provisionalId c.nextProvisional) request pod =
        .ok container) :
      Edit brought asked c { c with
        nextProvisional := c.nextProvisional + 1
        containers := c.containers.insert (Cache.provisionalId c.nextProvisional) container
        pending := c.pending.insert (Cache.provisionalId c.nextProvisional) c.refreshes }
  /-- A pending container was moved to the id that the runtime gave it. -/
  | assignId {provisional id : String} {container : Container} (pending : provisional ∈ c.pending)
      (named : id ≠ "") (free : id ∉ c.containers)
      (found : c.containers[provisional]? = some container) (origin : brought id) :
      Edit brought asked c { c with
        containers := (c.containers.erase provisional).insert id { container with id }
        pending := c.pending.erase provisional }
  /-- An unknown container of a known pod was listed. -/
  | findContainer {entry : Cri.Container} {pod : Pod} {container : Container}
      (owner : c.pods[entry.podSandboxId]? = some pod) (unknown : entry.id ∉ c.containers)
      (built : Container.ofListEntry entry pod = .ok container) (origin : brought entry.id) :
      Edit brought asked c { c with containers := c.containers.insert entry.id container }
  /-- A known container was listed and takes over the state of the entry. -/
  | moveContainer {id : String} {container : Container} (known : c.containers[id]? = some container)
      (state : Cri.ContainerState) :
      Edit brought asked c { c with containers := c.containers.insert id { container with state } }
  /-- A container was removed, and its creation is no longer pending. -/
  | dropContainer (id : String) :
      Edit brought asked c { c with
        containers := c.containers.erase id
        pending := c.pending.erase id }
  /-- A container refresh came to its end. All containers whose creation an earlier
      refresh had spared are gone. -/
  | endRefresh (spared : ∀ (id : String) (r : Nat), c.pending[id]? = some r → id ∈ c.containers →
        c.refreshes ≤ r) :
      Edit brought asked c { c with refreshes := c.refreshes + 1 }

/-- One edit after another. -/
abbrev Edits (brought asked : String → Prop) : Cache → Cache → Prop :=
  ReflTransGen (Edit brought asked)

/-- One edit after another, whatever the runtime says. -/
abbrev AnyEdits : Cache → Cache → Prop := Edits (fun _ => True) (fun _ => True)

namespace Edits

variable {brought asked : String → Prop}

/-- A fold whose every step edits the cache in its state edits it as a whole. -/
theorem foldl {σ α : Type} (cache : σ → Cache) {f : σ → α → σ} (s : σ) {l : List α}
    (each : ∀ s, ∀ a ∈ l, Edits brought asked (cache s) (cache (f s a))) :
    Edits brought asked (cache s) (cache (l.foldl f s)) := by
  induction l generalizing s with
  | nil => exact .refl
  | cons a l ih =>
    have head := each s a List.mem_cons_self
    have tail := ih (f s a) (fun s b member => each s b (List.mem_cons_of_mem _ member))
    exact head.trans tail

/-- What every edit keeps, every sequence of edits keeps. -/
theorem preserves {P : Cache → Prop} (kept : ∀ c c', Edit brought asked c c' → P c → P c')
    {c c' : Cache}
    (edits : Edits brought asked c c') (start : P c) : P c' := by
  induction edits with
  | refl => exact start
  | tail _ edit ih => exact kept _ _ edit ih

end Edits

namespace Cache

variable {brought asked : String → Prop}

/-! ### Pods -/

theorem runPod_edits (c : Cache) (id : String) (request : Cri.RunPodSandboxRequest)
    (run : asked id) :
    Edits brought asked c (c.runPod id request).2 := by
  unfold runPod
  cases built : Pod.ofRunRequest id request with
  | ok pod => exact .single (.runPod built run)
  | error e => exact .refl
  | stop => exact .refl

theorem upsertPod_edits (c : Cache) (sandbox : Cri.PodSandbox) :
    Edits brought asked c (c.upsertPod sandbox).2 := by
  unfold upsertPod
  cases known : c.pods[sandbox.id]? with
  | some pod => exact .single (.movePod known _)
  | none =>
    cases built : Pod.ofListEntry sandbox with
    | ok pod => exact .single (.findPod ((Table.getElem?_eq_none_iff _ _).1 known) built)
    | error e => exact .refl
    | stop => exact .refl

theorem listPod_snd (c : Cache) (sandbox : Cri.PodSandbox) :
    (c.listPod sandbox).2 = (c.upsertPod sandbox).2 := rfl

theorem deletePod_edits (c : Cache) (id : String) : Edits brought asked c (c.deletePod id).2 := by
  unfold deletePod
  cases known : c.pods[id]? with
  | none => exact .refl
  | some pod => exact .single (.dropPod known)

theorem takePod_fst (s : Cache × Refresh) (sandbox : Cri.PodSandbox) :
    (takePod s sandbox).1 = (s.1.upsertPod sandbox).2 := by
  unfold takePod
  split <;> simp [*]

/-- The cache with the entries of a sandbox list taken over, and the changes that they
    made. -/
def takePods (c : Cache) (sandboxes : List Cri.PodSandbox) : Cache × Refresh :=
  sandboxes.foldl takePod (c, {})

theorem takePods_edits (c : Cache) (sandboxes : List Cri.PodSandbox) :
    Edits brought asked c (c.takePods sandboxes).1 := by
  apply Edits.foldl Prod.fst (c, ({} : Refresh))
  intro s sandbox _
  rw [takePod_fst]
  exact upsertPod_edits s.1 sandbox

/-- An operation that stops leaves the cache as it was. -/
theorem upsertPod_of_stop {c : Cache} {sandbox : Cri.PodSandbox}
    (stops : (c.upsertPod sandbox).1 = .stop) : (c.upsertPod sandbox).2 = c := by
  unfold upsertPod at stops ⊢
  split
  · rename_i known
    simp [known] at stops
  · rename_i unknown
    rw [unknown] at stops
    cases built : Pod.ofListEntry sandbox <;> simp [built] at stops ⊢

/-- The machine stops at none of the entries as they are taken over one after another. -/
def Steady (s : Cache × Refresh) (sandboxes : List Cri.PodSandbox) : Prop :=
  ∀ before sandbox after, sandboxes = before ++ sandbox :: after →
    ((before.foldl takePod s).1.upsertPod sandbox).1 ≠ .stop

theorem steady_nil (s : Cache × Refresh) : Steady s [] := by
  intro before sandbox after whole
  simp at whole

theorem Steady.cons {s : Cache × Refresh} {sandbox : Cri.PodSandbox}
    {sandboxes : List Cri.PodSandbox} (goes : (s.1.upsertPod sandbox).1 ≠ .stop)
    (steady : Steady (takePod s sandbox) sandboxes) : Steady s (sandbox :: sandboxes) := by
  intro before next after whole
  cases before with
  | nil =>
    cases whole
    exact goes
  | cons first before =>
    cases whole
    exact steady before next after rfl

/-- Either there is a first entry at which the machine stops, with those before it taken over,
    or all entries are taken over. -/
theorem takeSandboxes_cases (s : Cache × Refresh) (sandboxes : List Cri.PodSandbox) :
    (∃ before sandbox after, sandboxes = before ++ sandbox :: after ∧ Steady s before ∧
      ((before.foldl takePod s).1.upsertPod sandbox).1 = .stop ∧
      takeSandboxes s sandboxes = (.stop, (before.foldl takePod s).1)) ∨
    (Steady s sandboxes ∧ takeSandboxes s sandboxes =
      (.ok (sandboxes.foldl takePod s).2, (sandboxes.foldl takePod s).1)) := by
  induction sandboxes generalizing s with
  | nil => exact .inr ⟨steady_nil s, rfl⟩
  | cons sandbox sandboxes ih =>
    by_cases stops : (s.1.upsertPod sandbox).1 = .stop
    · refine .inl ⟨[], sandbox, sandboxes, rfl, steady_nil s, stops, ?_⟩
      have outcome : s.1.upsertPod sandbox = (.stop, s.1) :=
        Prod.ext stops (upsertPod_of_stop stops)
      simp only [takeSandboxes, outcome]
      rfl
    · have step : takeSandboxes s (sandbox :: sandboxes) =
          takeSandboxes (takePod s sandbox) sandboxes := by
        rw [takeSandboxes]
        split
        · rename_i outcome
          exact absurd (congrArg Prod.fst outcome) stops
        · rfl
      rcases ih (takePod s sandbox) with
        ⟨before, next, after, rfl, steady, stopped, taken⟩ | ⟨steady, taken⟩
      · exact .inl ⟨sandbox :: before, next, after, rfl, steady.cons stops, stopped,
          step.trans taken⟩
      · exact .inr ⟨steady.cons stops, step.trans taken⟩

/-- What a sandbox list makes of a cache if the machine stops at none of its entries. -/
def reconcilePods (c : Cache) (reply : Cri.ListPodSandboxResponse) : Refresh × Cache :=
  (c.takePods reply.items).1.removeUnlisted reply.items (c.takePods reply.items).2

/-- A refresh stops at the first entry at which the machine does, with those before it taken
    over, or it comes to its end. -/
theorem refreshPods_cases (c : Cache) (reply : Cri.ListPodSandboxResponse) :
    (∃ before sandbox after, reply.items = before ++ sandbox :: after ∧ Steady (c, {}) before ∧
      ((c.takePods before).1.upsertPod sandbox).1 = .stop ∧
      c.refreshPods reply = (.stop, (c.takePods before).1)) ∨
    (Steady (c, {}) reply.items ∧
      c.refreshPods reply = (.ok (c.reconcilePods reply).1, (c.reconcilePods reply).2)) := by
  rcases takeSandboxes_cases (c, {}) reply.items with
    ⟨before, sandbox, after, whole, steady, stops, taken⟩ | ⟨steady, taken⟩
  · refine .inl ⟨before, sandbox, after, whole, steady, stops, ?_⟩
    rw [refreshPods, taken]
    rfl
  · refine .inr ⟨steady, ?_⟩
    rw [refreshPods, taken]
    rfl

/-- What is true when some entries are taken over, and when all is done, is true after a refresh
    wherever it ends. -/
theorem refreshPods_ends {P : Cache → Prop} {c : Cache} {reply : Cri.ListPodSandboxResponse}
    (taken : ∀ before, P (c.takePods before).1) (reconciled : P (c.reconcilePods reply).2) :
    P (c.refreshPods reply).2 := by
  rcases c.refreshPods_cases reply with ⟨before, _, _, -, -, -, outcome⟩ | ⟨-, outcome⟩
  · rw [outcome]
    exact taken before
  · rw [outcome]
    exact reconciled

theorem reconcilePods_edits (c : Cache) (reply : Cri.ListPodSandboxResponse) :
    Edits brought asked c (c.reconcilePods reply).2 := by
  refine (c.takePods_edits reply.items).trans ?_
  apply Edits.foldl id
  intro c id _
  exact deletePod_edits c id

theorem refreshPods_edits (c : Cache) (reply : Cri.ListPodSandboxResponse) :
    Edits brought asked c (c.refreshPods reply).2 :=
  refreshPods_ends (P := Edits brought asked c) c.takePods_edits (c.reconcilePods_edits reply)

/-! ### Containers -/

theorem createContainer_edits (c : Cache) (request : Cri.CreateContainerRequest) :
    Edits brought asked c (c.createContainer request).2 := by
  unfold createContainer
  cases owner : c.pods[request.podSandboxId]? with
  | none => exact .refl
  | some pod =>
    cases built : Container.ofCreateRequest (provisionalId c.nextProvisional) request pod with
    | error e =>
      simp only [built]
      exact .refl
    | ok container =>
      simp only [built]
      exact .single (.createContainer owner built)

theorem abortCreate_edits (c : Cache) (id : String) :
    Edits brought asked c (c.abortCreate id).2 := by
  unfold abortCreate
  split
  · exact .refl
  · exact .single (.dropContainer id)

theorem assignId_edits (c : Cache) (id : String) (response : Cri.CreateContainerResponse)
    (origin : brought response.containerId) : Edits brought asked c (c.assignId id response).2 := by
  unfold assignId
  dsimp only
  split
  · exact .refl
  · rename_i named
    split
    · exact .refl
    · rename_i pending
      split
      · exact .refl
      · rename_i free
        cases found : c.containers[id]? with
        | none => exact .refl
        | some container =>
          refine .single (.assignId ?_ ?_ ?_ found origin)
          · simpa using pending
          · simpa using named
          · simpa using free

theorem upsertContainer_edits (c : Cache) (entry : Cri.Container) (origin : brought entry.id) :
    Edits brought asked c (c.upsertContainer entry).2 := by
  unfold upsertContainer
  cases owner : c.pods[entry.podSandboxId]? with
  | none => exact .refl
  | some pod =>
    cases known : c.containers[entry.id]? with
    | some container => exact .single (.moveContainer known _)
    | none =>
      cases built : Container.ofListEntry entry pod with
      | error e =>
        simp only [built]
        exact .refl
      | ok container =>
        simp only [built]
        exact .single
          (.findContainer owner ((Table.getElem?_eq_none_iff _ _).1 known) built origin)

theorem listContainer_snd (c : Cache) (entry : Cri.Container) :
    (c.listContainer entry).2 = (c.upsertContainer entry).2 := by
  unfold listContainer
  split <;> simp [*]

theorem deleteContainer_edits (c : Cache) (id : String) :
    Edits brought asked c (c.deleteContainer id).2 := by
  unfold deleteContainer
  split
  · exact .refl
  · exact .single (.dropContainer id)

theorem takeContainer_fst (s : Cache × Refresh) (entry : Cri.Container) :
    (takeContainer s entry).1 = (s.1.upsertContainer entry).2 := by
  unfold takeContainer
  split <;> simp [*]

/-- The cache with the entries of a container list taken over, and the changes that they
    made. -/
def takeContainers (c : Cache) (entries : List Cri.Container) : Cache × Refresh :=
  entries.foldl takeContainer (c, {})

theorem takeContainers_edits (c : Cache) (entries : List Cri.Container)
    (origin : ∀ entry ∈ entries, brought entry.id) :
    Edits brought asked c (c.takeContainers entries).1 := by
  apply Edits.foldl Prod.fst (c, ({} : Refresh))
  intro s entry member
  rw [takeContainer_fst]
  exact upsertContainer_edits s.1 entry (origin entry member)

theorem deleteContainers_edits (c : Cache) (ids : List String) :
    Edits brought asked c (c.deleteContainers ids) := by
  apply Edits.foldl id
  intro c id _
  exact deleteContainer_edits c id

/-- The containers that a refresh removes. -/
def staleContainers (c : Cache) (seen : List String) : List String :=
  c.containers.keys.filter (c.isStale seen)

/-- When the stale containers are gone, no creation that an earlier refresh has spared has
    a container left. -/
theorem spared_of_deleteContainers {c : Cache} {seen : List String} {id : String} {r : Nat}
    (spared : (c.deleteContainers (c.staleContainers seen)).pending[id]? = some r)
    (member : id ∈ (c.deleteContainers (c.staleContainers seen)).containers) :
    c.refreshes ≤ r := by
  obtain ⟨container, found⟩ := (Table.mem_iff _ _).1 member
  rw [deleteContainers_containers] at found
  rw [deleteContainers_pending] at spared
  by_cases gone : id ∈ c.staleContainers seen
  · simp [gone] at found
  · simp only [gone, if_false, false_and] at found spared
    have present : id ∈ c.containers.keys :=
      Std.ExtTreeMap.mem_keys.2 (Table.mem_of_getElem? found)
    have fresh : ¬ c.isStale seen id = true :=
      fun old => gone (List.mem_filter.2 ⟨present, old⟩)
    simpa [isStale, spared] using fresh

/-- A refresh takes over the listed containers, removes the stale ones and counts itself. -/
theorem refreshContainers_edits (c : Cache) (reply : Cri.ListContainersResponse)
    (origin : ∀ entry ∈ reply.containers, brought entry.id) :
    Edits brought asked c (c.refreshContainers reply).2 := by
  have taken : Edits brought asked c _ := c.takeContainers_edits reply.containers origin
  refine (taken.trans (deleteContainers_edits _ _)).tail (.endRefresh ?_)
  intro id r spared member
  rw [deleteContainers_refreshes]
  exact spared_of_deleteContainers spared member

/-! ### Questions -/

theorem getElem?_noteClass (c : Cache) (podId id : String) :
    (c.noteClass podId).pods[id]? =
      if podId = id then c.pods[id]?.map Pod.noteClass else c.pods[id]? := by
  unfold noteClass
  rw [Std.ExtTreeMap.getElem?_modify]
  by_cases equal : podId = id
  · subst equal
    simp
  · simp [equal]

theorem noteClass_edits (c : Cache) (podId : String) :
    Edits brought asked c (c.noteClass podId) := by
  refine .single (.notePods fun id => ?_)
  have noted := c.getElem?_noteClass podId id
  split at noted
  · exact .inr noted
  · exact .inl noted

theorem summarize_edits (c : Cache) : Edits brought asked c (Replay.summarize c).2 := by
  refine .single (.notePods fun id => .inr ?_)
  simp [Std.ExtTreeMap.getElem?_map]

end Cache

/-! ### Steps -/

theorem Operation.edits {brought asked : String → Prop} (operation : Operation)
    (origin : ∀ id ∈ (Step.call operation).runtimeIds, brought id)
    (run : ∀ id request, (Step.call operation).runRequest? = some (id, request) → asked id)
    (c : Cache) : Edits brought asked c (operation.apply c) := by
  cases operation with
  | runPod id request => exact c.runPod_edits id request (run id request rfl)
  | listPod sandbox =>
    rw [Operation.apply, Cache.listPod_snd]
    exact c.upsertPod_edits sandbox
  | deletePod id => exact c.deletePod_edits id
  | createContainer request => exact c.createContainer_edits request
  | assignId provisionalId response =>
    exact c.assignId_edits provisionalId response (origin _ (by simp [Step.runtimeIds]))
  | abortCreate provisionalId => exact c.abortCreate_edits provisionalId
  | listContainer entry =>
    rw [Operation.apply, Cache.listContainer_snd]
    exact c.upsertContainer_edits entry (origin _ (by simp [Step.runtimeIds]))
  | deleteContainer id => exact c.deleteContainer_edits id
  | refreshPods reply => exact c.refreshPods_edits reply
  | refreshContainers reply =>
    apply c.refreshContainers_edits reply
    intro entry member
    exact origin _ (by simpa [Step.runtimeIds] using ⟨entry, member, rfl⟩)

theorem Query.edits {brought asked : String → Prop} (query : Query) (c : Cache) :
    Edits brought asked c (query.apply c) := by
  cases query with
  | podClass podId => exact c.noteClass_edits podId
  | containerClass containerId =>
    simp only [Query.apply, Cache.containerClass]
    split
    · exact .refl
    · exact c.noteClass_edits _
  | summary => exact c.summarize_edits

/-- A creation is settled by the answer on record, if there is one. -/
theorem Replay.settleCreate_edits {brought asked : String → Prop} (c : Cache) (id : String)
    (response : Option Cri.CreateContainerResponse) (error : Option String)
    (origin : ∀ r, response = some r → brought r.containerId) :
    Edits brought asked c (settleCreate c id response error).2 := by
  cases error with
  | some error => exact c.abortCreate_edits id
  | none =>
    cases response with
    | none => exact .refl
    | some response =>
      have assigned : Edits brought asked c _ :=
        c.assignId_edits id response (origin response rfl)
      rw [settleCreate_response]
      cases (c.assignId id response).1 with
      | ok container => exact assigned
      | error e => exact assigned.trans (Cache.abortCreate_edits _ id)

theorem Replay.Event.edits {brought asked : String → Prop} (event : Replay.Event)
    (origin : ∀ id ∈ (Step.replay event).runtimeIds, brought id)
    (run : ∀ id request, (Step.replay event).runRequest? = some (id, request) → asked id)
    (c : Cache) : Edits brought asked c (event.apply c).2 := by
  cases event with
  | runPodSandbox id request => exact c.runPod_edits id request (run id request rfl)
  | listPodSandbox reply => exact c.refreshPods_edits reply
  | removePodSandbox id => exact c.deletePod_edits id
  | createContainer request response error =>
    have created := @Cache.createContainer_edits brought asked c request
    rw [Replay.Event.apply_createContainer]
    cases (c.createContainer request).1 with
    | error e => exact created
    | ok id =>
      refine created.trans (Replay.settleCreate_edits _ id response error ?_)
      rintro r rfl
      exact origin _ (by simp [Step.runtimeIds])
  | listContainers reply =>
    apply c.refreshContainers_edits reply
    intro entry member
    exact origin _ (by simpa [Step.runtimeIds] using ⟨entry, member, rfl⟩)
  | removeContainer id => exact c.deleteContainer_edits id

/-- Whatever happens to a cache is a sequence of edits. -/
theorem Step.edits {brought asked : String → Prop} (step : Step)
    (origin : ∀ id ∈ step.runtimeIds, brought id)
    (run : ∀ id request, step.runRequest? = some (id, request) → asked id) (c : Cache) :
    Edits brought asked c (step.apply c) := by
  cases step with
  | call operation => exact operation.edits origin run c
  | ask query => exact query.edits c
  | replay event => exact event.edits origin run c

theorem Step.anyEdits (step : Step) (c : Cache) : AnyEdits c (step.apply c) :=
  step.edits (fun _ _ => trivial) (fun _ _ _ => trivial) c

/-- What every edit keeps, every run keeps that brings only such ids into the cache. -/
theorem Cache.run_preserves_of_edits {brought : String → Prop} {P : Cache → Prop}
    (kept : ∀ c c', Edit brought (fun _ => True) c c' → P c → P c') {c : Cache}
    {steps : List Step} (origin : ∀ step ∈ steps, ∀ id ∈ step.runtimeIds, brought id)
    (start : P c) : P (c.run steps) := by
  apply run_preserves _ origin start
  intro c step origin start
  exact (step.edits origin (fun _ _ _ => trivial) c).preserves kept start

end PodCache
