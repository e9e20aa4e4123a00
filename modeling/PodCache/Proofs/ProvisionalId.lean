import Mathlib.Data.List.Induction
import Std.Data.String.ToNat
import PodCache.Proofs.WellFormed

/-!
# Provisional ids

Each container in a cache has an id that the runtime brought or one that the cache gave
out itself, and only the latter can be pending. So the next provisional id is free
unless the runtime used it, in which case the next creation takes its container's place.
-/

namespace PodCache.Cache

theorem provisionalId_inj {m n : Nat} (same : provisionalId m = provisionalId n) : m = n := by
  unfold provisionalId at same
  exact Nat.repr_injective ((String.append_right_inj provisionalPrefix).1 same)

/-! ### Where ids come from -/

/-- The cache has given out the id. -/
def Issued (c : Cache) (id : String) : Prop := ∃ n < c.nextProvisional, id = provisionalId n

theorem Issued.mono {c c' : Cache} {id : String} (issued : c.Issued id)
    (le : c.nextProvisional ≤ c'.nextProvisional) : c'.Issued id := by
  obtain ⟨n, below, rfl⟩ := issued
  exact ⟨n, Nat.lt_of_lt_of_le below le, rfl⟩

/-- An id whose number is still to come has not been given out. -/
theorem not_issued {c : Cache} {n : Nat} (unissued : c.nextProvisional ≤ n) :
    ¬ c.Issued (provisionalId n) := by
  rintro ⟨m, below, same⟩
  have := provisionalId_inj same
  omega

/-- The containers have ids that were brought or given out, and pending ones have ids that
    were given out. -/
structure IdsFrom (brought : String → Prop) (c : Cache) : Prop where
  container : ∀ id ∈ c.containers, brought id ∨ c.Issued id
  pending : ∀ id ∈ c.pending, c.Issued id

namespace IdsFrom

variable {brought asked : String → Prop} {c : Cache}

theorem empty : IdsFrom brought ∅ := by
  constructor <;> intro id member <;> cases Std.ExtTreeMap.not_mem_empty member

/-- Fewer containers and fewer pending creations have no new ids. -/
theorem shrink (valid : c.IdsFrom brought) {c' : Cache}
    (next : c'.nextProvisional = c.nextProvisional)
    (containers : ∀ id ∈ c'.containers, id ∈ c.containers)
    (pending : ∀ id ∈ c'.pending, id ∈ c.pending) : c'.IdsFrom brought := by
  have le := Nat.le_of_eq next.symm
  constructor
  · intro id member
    exact (valid.container id (containers id member)).imp_right fun issued => issued.mono le
  · intro id member
    exact (valid.pending id (pending id member)).mono le

/-- A container of a known or brought id may be put in. -/
theorem insertContainer (valid : c.IdsFrom brought) {id : String} (k : Container)
    (origin : id ∈ c.containers ∨ brought id) :
    IdsFrom brought { c with containers := c.containers.insert id k } := by
  refine ⟨?_, valid.pending⟩
  intro j member
  rcases (Table.mem_insert ..).1 member with rfl | member
  · rcases origin with known | named
    · exact valid.container j known
    · exact .inl named
  · exact valid.container j member

theorem createContainer (valid : c.IdsFrom brought) (k : Container) (r : Nat) :
    IdsFrom brought { c with
      nextProvisional := c.nextProvisional + 1
      containers := c.containers.insert (provisionalId c.nextProvisional) k
      pending := c.pending.insert (provisionalId c.nextProvisional) r } := by
  have first := Nat.lt_succ_self c.nextProvisional
  have le := Nat.le_of_lt first
  constructor
  · intro j member
    rcases (Table.mem_insert ..).1 member with rfl | member
    · exact .inr ⟨_, first, rfl⟩
    · exact (valid.container j member).imp_right fun issued => issued.mono le
  · intro j member
    rcases (Table.mem_insert ..).1 member with rfl | member
    · exact ⟨_, first, rfl⟩
    · exact (valid.pending j member).mono le

/-- Every edit puts in brought ids and the next provisional id only. -/
theorem edit (c c' : Cache) (edit : Edit brought asked c c') (valid : c.IdsFrom brought) :
    c'.IdsFrom brought := by
  cases edit with
  | runPod | findPod | movePod | notePods | endRefresh => exact ⟨valid.container, valid.pending⟩
  | dropPod known =>
    refine valid.shrink ?_ ?_ ?_
    · rfl
    · intro id member
      obtain ⟨k, found, _⟩ := (Table.mem_filter ..).1 member
      exact Table.mem_of_getElem? found
    · intro id member
      obtain ⟨r, found, _⟩ := (Table.mem_filter ..).1 member
      exact Table.mem_of_getElem? found
  | createContainer owner built => exact valid.createContainer _ _
  | @assignId provisional id container pending named free found origin =>
    have dropped : IdsFrom brought { c with
        containers := c.containers.erase provisional
        pending := c.pending.erase provisional } := by
      refine valid.shrink ?_ ?_ ?_
      · rfl
      · exact fun _ member => ((Table.mem_erase ..).1 member).2
      · exact fun _ member => ((Table.mem_erase ..).1 member).2
    exact dropped.insertContainer _ (.inr origin)
  | findContainer owner unknown built origin => exact valid.insertContainer _ (.inr origin)
  | moveContainer known state =>
    exact valid.insertContainer _ (.inl (Table.mem_of_getElem? known))
  | dropContainer id =>
    refine valid.shrink ?_ ?_ ?_
    · rfl
    · exact fun _ member => ((Table.mem_erase ..).1 member).2
    · exact fun _ member => ((Table.mem_erase ..).1 member).2

theorem run {steps : List Step}
    (origin : ∀ step ∈ steps, ∀ id ∈ step.runtimeIds, brought id) :
    (Cache.run ∅ steps).IdsFrom brought :=
  run_preserves_of_edits edit origin empty

end IdsFrom

theorem pending_issued (steps : List Step) {id : String} (member : id ∈ (run ∅ steps).pending) :
    (run ∅ steps).Issued id :=
  (IdsFrom.run (fun _ _ _ _ => trivial) : (run ∅ steps).IdsFrom fun _ => True).pending id member

/-! ### Ids of the runtime that look provisional -/

/-- A step of the run brought the id from the runtime, and since then there has always
    been a container under it. -/
def HeldFromRuntime (steps : List Step) (id : String) : Prop :=
  ∃ before step after, steps = before ++ step :: after ∧ id ∈ step.runtimeIds ∧
    ∀ later, later <+: after → id ∈ (run ∅ (before ++ step :: later)).containers

/-- Where the cache has not given out an id, a step that puts a container under it has
    brought it from the runtime. -/
theorem mem_runtimeIds_of_enters (steps : List Step) (step : Step) {n : Nat}
    (unissued : (step.apply (run ∅ steps)).nextProvisional ≤ n)
    (absent : provisionalId n ∉ (run ∅ steps).containers)
    (entered : provisionalId n ∈ (step.apply (run ∅ steps)).containers) :
    provisionalId n ∈ step.runtimeIds := by
  let brought : String → Prop := fun id => id ∈ (run ∅ steps).containers ∨ id ∈ step.runtimeIds
  have start : (run ∅ steps).IdsFrom brought :=
    ⟨fun id member => .inl (.inl member), fun id member => pending_issued steps member⟩
  have edits := step.edits (fun id member => (.inr member : brought id)) (fun _ _ _ => trivial)
    (run ∅ steps)
  have valid := edits.preserves IdsFrom.edit start
  rcases valid.container _ entered with (known | named) | issued
  · exact absurd known absent
  · exact named
  · exact absurd issued (not_issued unissued)

/-- An id that the cache has yet to give out is in use exactly if the runtime brought it
    and it has been held since. -/
theorem mem_containers_iff_held (steps : List Step) {n : Nat}
    (unissued : (run ∅ steps).nextProvisional ≤ n) :
    provisionalId n ∈ (run ∅ steps).containers ↔ HeldFromRuntime steps (provisionalId n) := by
  constructor
  · intro member
    induction steps using List.reverseRecOn with
    | nil => cases Std.ExtTreeMap.not_mem_empty member
    | append_singleton steps step ih =>
      have last : run ∅ (steps ++ [step]) = step.apply (run ∅ steps) := run_append ..
      rw [last] at unissued member
      by_cases known : provisionalId n ∈ (run ∅ steps).containers
      · -- The id was held before the last step, and is held after it as well.
        have earlier := Nat.le_trans (step.nextProvisional_le (run ∅ steps)) unissued
        obtain ⟨before, entering, after, rfl, named, held⟩ := ih earlier known
        refine ⟨before, entering, after ++ [step], by simp, named, ?_⟩
        intro later start
        rcases List.prefix_concat_iff.1 start with rfl | start
        · rw [← last] at member
          simpa using member
        · exact held later start
      · -- The last step is the one that brought it.
        have named := mem_runtimeIds_of_enters steps step unissued known member
        refine ⟨steps, step, [], rfl, named, ?_⟩
        intro later start
        rw [List.prefix_nil.1 start, last]
        exact member
  · rintro ⟨before, step, after, rfl, _, held⟩
    exact held after (List.prefix_refl after)

/-! ### What a creation does to the containers -/

/-- A creation that is accepted puts the container of its request under the next
    provisional id. -/
theorem createContainer_eq_ok {c : Cache} {request : Cri.CreateContainerRequest} {id : String}
    (accepted : (c.createContainer request).1 = .ok id) :
    id = provisionalId c.nextProvisional ∧
    ∃ pod container, c.pods[request.podSandboxId]? = some pod ∧
      Container.ofCreateRequest id request pod = .ok container ∧
      (c.createContainer request).2 = { c with
        nextProvisional := c.nextProvisional + 1
        containers := c.containers.insert id container
        pending := c.pending.insert id c.refreshes } := by
  unfold createContainer at accepted ⊢
  cases owner : c.pods[request.podSandboxId]? with
  | none => simp [owner] at accepted
  | some pod =>
    cases built : Container.ofCreateRequest (provisionalId c.nextProvisional) request pod with
    | error e => simp [owner, built] at accepted
    | ok container =>
      simp only [owner, built, Except.ok.injEq] at accepted
      subst accepted
      exact ⟨rfl, pod, container, rfl, built, by simp only [built]⟩

/-- There is one container more, under an id that was free, and those that were there
    are there unchanged and have not begun to wait for an answer. -/
structure AddsContainer (c c' : Cache) (id : String) : Prop where
  free : id ∉ c.containers
  added : id ∈ c'.containers
  size : c'.containers.size = c.containers.size + 1
  kept : ∀ (j : String) (k : Container), c.containers[j]? = some k → c'.containers[j]? = some k
  waiting : ∀ j ∈ c.containers, c'.pending[j]? = c.pending[j]?

/-- The container under the id was not waiting for an answer and has made place for
    another one that is. There are as many containers as before. -/
structure ReplacesContainer (c c' : Cache) (id : String) : Prop where
  taken : id ∈ c.containers
  settled : id ∉ c.pending
  size : c'.containers.size = c.containers.size
  replaced : ∃ k, c'.containers[id]? = some k ∧ k.state = .created
  waits : c'.pending[id]? = some c.refreshes

theorem AddsContainer.of_insert {c c' : Cache} {id : String} {k : Container} {r : Nat}
    (free : id ∉ c.containers) (containers : c'.containers = c.containers.insert id k)
    (pending : c'.pending = c.pending.insert id r) : AddsContainer c c' id := by
  have other : ∀ j ∈ c.containers, id ≠ j := fun j member same => free (same ▸ member)
  refine ⟨free, ?_, ?_, ?_, ?_⟩
  · rw [containers]
    exact (Table.mem_insert ..).2 (.inl rfl)
  · rw [containers, Table.size_insert_of_not_mem k free]
  · intro j l found
    rw [containers, Table.getElem?_insert_of_ne _ _ (other j (Table.mem_of_getElem? found))]
    exact found
  · intro j member
    rw [pending, Table.getElem?_insert_of_ne _ _ (other j member)]

theorem ReplacesContainer.of_insert {c c' : Cache} {id : String} {k : Container}
    (taken : id ∈ c.containers) (settled : id ∉ c.pending) (state : k.state = .created)
    (containers : c'.containers = c.containers.insert id k)
    (pending : c'.pending = c.pending.insert id c.refreshes) : ReplacesContainer c c' id := by
  refine ⟨taken, settled, ?_, ?_, ?_⟩
  · rw [containers, Table.size_insert_of_mem k taken]
  · exact ⟨k, by rw [containers, Std.ExtTreeMap.getElem?_insert_self], state⟩
  · rw [pending, Std.ExtTreeMap.getElem?_insert_self]

/-- A creation that is accepted adds its container to those of the cache exactly if the
    cache does not hold one from the runtime under the next provisional id. Otherwise the
    new container takes the place of that one, which is lost. -/
theorem createContainer_adds_iff (steps : List Step) (request : Cri.CreateContainerRequest)
    (id : String) (accepted : ((run ∅ steps).createContainer request).1 = .ok id) :
    let c := run ∅ steps
    let created := (c.createContainer request).2
    (c.AddsContainer created id ↔ ¬ HeldFromRuntime steps id) ∧
    (c.ReplacesContainer created id ↔ HeldFromRuntime steps id) := by
  obtain ⟨rfl, pod, container, owner, built, created⟩ := createContainer_eq_ok accepted
  intro c _
  rw [← mem_containers_iff_held steps (Nat.le_refl _)]
  constructor
  · constructor
    · exact fun adds => adds.free
    · exact fun free => .of_insert free (congrArg containers created) (congrArg pending created)
  · constructor
    · exact fun replaces => replaces.taken
    · intro taken
      have settled : provisionalId c.nextProvisional ∉ c.pending :=
        fun member => not_issued (Nat.le_refl _) (pending_issued steps member)
      have state := Container.state_of_ofCreateRequest built
      exact .of_insert taken settled state (congrArg containers created) (congrArg pending created)

/-- A run after which the next provisional id is free. -/
def runOfPod : List Step := [.call (.runPod "p" (.named "web"))]

/-- A run in which the runtime lists a container under the first provisional id. -/
def runOfListed : List Step := runOfPod ++ [.call (.listContainer (.named "p" "cache:0" "app"))]

/-- After one of these runs a creation adds its container, after the other one it replaces
    the container that the runtime has listed. -/
theorem createContainer_adds_and_replaces :
    let request : Cri.CreateContainerRequest := .named "p" "init"
    let added := (run ∅ runOfPod).createContainer request
    let replaced := (run ∅ runOfListed).createContainer request
    (added.1 = .ok "cache:0" ∧ (run ∅ runOfPod).AddsContainer added.2 "cache:0") ∧
    (replaced.1 = .ok "cache:0" ∧
      (run ∅ runOfListed).ReplacesContainer replaced.2 "cache:0") := by
  have free : ¬ HeldFromRuntime runOfPod "cache:0" :=
    mt (@mem_containers_iff_held runOfPod 0 (Nat.le_refl _)).2 (by decide)
  have held : HeldFromRuntime runOfListed "cache:0" :=
    (@mem_containers_iff_held runOfListed 0 (Nat.le_refl _)).1 (by decide)
  have first : ((run ∅ runOfPod).createContainer (.named "p" "init")).1 = .ok "cache:0" := by rfl
  have second : ((run ∅ runOfListed).createContainer (.named "p" "init")).1 = .ok "cache:0" := by
    rfl
  constructor
  · exact ⟨first, (createContainer_adds_iff runOfPod _ _ first).1.2 free⟩
  · exact ⟨second, (createContainer_adds_iff runOfListed _ _ second).2.2 held⟩

/-- Not every creation that is accepted adds a container. -/
theorem not_forall_createContainer_adds :
    ¬ ∀ (steps : List Step) (request : Cri.CreateContainerRequest) (id : String),
      ((run ∅ steps).createContainer request).1 = .ok id →
        (run ∅ steps).AddsContainer ((run ∅ steps).createContainer request).2 id := by
  intro adds
  have created := adds runOfListed (.named "p" "init") "cache:0" (by rfl)
  exact created.free (by decide)

end PodCache.Cache
