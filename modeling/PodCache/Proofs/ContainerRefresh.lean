import PodCache.Proofs.Changes
import PodCache.Proofs.Counts
import PodCache.Proofs.TakeOver
import PodCache.Proofs.WellFormed

/-!
# Refreshing the containers

What a container list makes of a cache, told for each container by the entries for it that
name a known pod: a known container takes over the last state, an unknown one is built from
the first entry that can be read. A container that is not listed goes, and any entry counts
as listing it. Pending creations go by their age alone, listed or not.
-/

namespace PodCache

/-! ### The entries for one container -/

/-- The entries of the list for the container that name a known pod, in their order, each
    with that pod. -/
def Cri.ListContainersResponse.entriesFor (reply : Cri.ListContainersResponse)
    (pods : Table Pod) (id : String) : List (Cri.Container × Pod) :=
  (reply.containers.filter (·.id == id)).filterMap fun entry =>
    pods[entry.podSandboxId]?.map fun pod => (entry, pod)

theorem Cri.ListContainersResponse.mem_of_mem_entriesFor {reply : Cri.ListContainersResponse}
    {pods : Table Pod} {id : String} {entry : Cri.Container × Pod}
    (member : entry ∈ reply.entriesFor pods id) :
    entry.1 ∈ reply.containers ∧ entry.1.id = id := by
  obtain ⟨listed, named, owned⟩ := List.mem_filterMap.1 member
  obtain ⟨pod, _, rfl⟩ := Option.map_eq_some_iff.1 owned
  simpa using List.mem_filter.1 named

namespace Container

/-- What an entry of a list makes of the container that it names, if that is known. -/
def takeOver : Option Container → Cri.Container × Pod → Option Container
  | some k, (entry, _) => some { k with state := entry.state }
  | none, (entry, pod) => (ofListEntry entry pod).toOption

theorem ofListEntry_of_metadata {entry : Cri.Container} (readable : entry.metadata.isSome)
    (pod : Pod) : ∃ k, ofListEntry entry pod = .ok k ∧ k.state = entry.state := by
  obtain ⟨metadata, found⟩ := Option.isSome_iff_exists.1 readable
  simp only [ofListEntry, found]
  exact ⟨_, rfl, rfl⟩

theorem ofListEntry_of_takeOver {entry : Cri.Container} {pod : Pod} {k : Container}
    (entered : takeOver none (entry, pod) = some k) : ofListEntry entry pod = .ok k := by
  cases built : ofListEntry entry pod with
  | error e => simp [takeOver, built, Except.toOption] at entered
  | ok new => simpa [takeOver, built, Except.toOption] using entered

/-- A known container takes over the state of each entry, and an unknown one is built from an
    entry with metadata. -/
theorem takeOver_follows : Follows takeOver (·.1.metadata.isSome)
    fun entry k => { k with state := entry.1.state } := by
  refine ⟨fun _ _ => rfl, ?_, ?_, fun _ _ _ => rfl⟩
  · rintro ⟨entry, pod⟩ malformed
    have absent : entry.metadata = none := by simpa using malformed
    simp [takeOver, ofListEntry, absent, Except.toOption]
  · rintro ⟨entry, pod⟩ readable
    obtain ⟨k, built, state⟩ := ofListEntry_of_metadata readable pod
    refine ⟨k, ?_, ?_⟩
    · simp [takeOver, built, Except.toOption]
    · rw [← state]

end Container

namespace Cache

/-! ### Taking over the entries -/

/-- An entry that names a known pod changes its container, and no other. -/
theorem upsertContainer_containers (c : Cache) (entry : Cri.Container) (id : String) :
    (c.upsertContainer entry).2.containers[id]? =
      if entry.id = id then
        match c.pods[entry.podSandboxId]? with
        | some pod => Container.takeOver c.containers[id]? (entry, pod)
        | none => c.containers[id]?
      else c.containers[id]? := by
  unfold upsertContainer
  cases owner : c.pods[entry.podSandboxId]? with
  | none => simp
  | some pod =>
    by_cases equal : entry.id = id
    · subst equal
      rw [if_pos rfl]
      cases known : c.containers[entry.id]? with
      | some k => simp [Container.takeOver]
      | none =>
        cases built : Container.ofListEntry entry pod with
        | error e => simp [Container.takeOver, built, known, Except.toOption]
        | ok k => simp [Container.takeOver, built, Except.toOption]
    · rw [if_neg equal]
      dsimp only
      split
      · exact Table.getElem?_insert_of_ne _ _ equal
      · split
        · rfl
        · exact Table.getElem?_insert_of_ne _ _ equal

@[simp] theorem upsertContainer_pods (c : Cache) (entry : Cri.Container) :
    (c.upsertContainer entry).2.pods = c.pods := by
  unfold upsertContainer
  split
  · rfl
  · split
    · rfl
    · split <;> rfl

@[simp] theorem upsertContainer_pending (c : Cache) (entry : Cri.Container) :
    (c.upsertContainer entry).2.pending = c.pending := by
  unfold upsertContainer
  split
  · rfl
  · split
    · rfl
    · split <;> rfl

@[simp] theorem takeContainers_pods (c : Cache) (entries : List Cri.Container) :
    (c.takeContainers entries).1.pods = c.pods := by
  refine foldl_keeps (fun s : Cache × Refresh => s.1.pods) ?_ (c, {}) entries
  intro s entry
  rw [takeContainer_fst, upsertContainer_pods]

@[simp] theorem takeContainers_pending (c : Cache) (entries : List Cri.Container) :
    (c.takeContainers entries).1.pending = c.pending := by
  refine foldl_keeps (fun s : Cache × Refresh => s.1.pending) ?_ (c, {}) entries
  intro s entry
  rw [takeContainer_fst, upsertContainer_pending]

/-- What is looked up under an id while a list is taken over comes from the entries for it,
    if no other entry changes it and none that names an unknown pod. -/
theorem takeContainers_lookup {β : Type} (lookup : Cache × Refresh → String → β)
    {change : β → Cri.Container × Pod → β}
    (each : ∀ s (entry : Cri.Container) id, lookup (takeContainer s entry) id =
      if entry.id = id then
        match s.1.pods[entry.podSandboxId]? with
        | some pod => change (lookup s id) (entry, pod)
        | none => lookup s id
      else lookup s id)
    (c : Cache) (reply : Cri.ListContainersResponse) (id : String) :
    lookup (c.takeContainers reply.containers) id =
      (reply.entriesFor c.pods id).foldl change (lookup (c, {}) id) := by
  -- The pods stay as they are while the entries are taken over.
  have fold : ∀ (entries : List Cri.Container) (s : Cache × Refresh), s.1.pods = c.pods →
      lookup (entries.foldl takeContainer s) id =
        ((entries.filter (·.id == id)).filterMap fun entry =>
          c.pods[entry.podSandboxId]?.map fun pod => (entry, pod)).foldl change (lookup s id) := by
    intro entries
    induction entries with
    | nil =>
      intro s _
      rfl
    | cons entry entries ih =>
      intro s same
      have pods : (takeContainer s entry).1.pods = c.pods := by
        rw [takeContainer_fst, upsertContainer_pods, same]
      rw [List.foldl_cons, ih _ pods, each, same]
      by_cases equal : entry.id = id
      · rw [if_pos equal, List.filter_cons_of_pos (by simpa using equal), List.filterMap_cons]
        cases c.pods[entry.podSandboxId]? <;> rfl
      · rw [if_neg equal, List.filter_cons_of_neg (by simpa using equal)]
  exact fold reply.containers (c, {}) rfl

/-- The entries for a container make of it what they do one after the other. -/
theorem takeContainers_containers (c : Cache) (reply : Cri.ListContainersResponse)
    (id : String) :
    (c.takeContainers reply.containers).1.containers[id]? =
      (reply.entriesFor c.pods id).foldl Container.takeOver c.containers[id]? := by
  apply takeContainers_lookup fun s id => s.1.containers[id]?
  intro s entry id
  rw [takeContainer_fst]
  exact upsertContainer_containers s.1 entry id

theorem mem_takeContainers (c : Cache) (reply : Cri.ListContainersResponse) (id : String) :
    id ∈ (c.takeContainers reply.containers).1.containers ↔
      id ∈ c.containers ∨
        ∃ entry ∈ reply.entriesFor c.pods id, entry.1.metadata.isSome = true := by
  rw [Std.ExtTreeMap.mem_iff_isSome_getElem?, takeContainers_containers,
    Container.takeOver_follows.isSome_foldl_iff]
  simp

theorem takeContainer_tracks {before : Table Container} {s : Cache × Refresh}
    (tracks : s.2.Tracks before s.1.containers) (entry : Cri.Container) :
    (takeContainer s entry).2.Tracks before (takeContainer s entry).1.containers := by
  unfold takeContainer upsertContainer
  cases owner : s.1.pods[entry.podSandboxId]? with
  | none => exact tracks
  | some pod =>
    cases known : s.1.containers[entry.id]? with
    | some k =>
      refine tracks.known (Table.mem_of_getElem? known) _ ?_
      split <;> simp
    | none =>
      cases built : Container.ofListEntry entry pod with
      | error e => simpa [built] using tracks
      | ok k => simpa [built] using tracks.new ((Table.getElem?_eq_none_iff _ _).1 known) k

theorem takeContainers_tracks (c : Cache) (entries : List Cri.Container) :
    (c.takeContainers entries).2.Tracks c.containers (c.takeContainers entries).1.containers := by
  let tracked : Cache × Refresh → Prop := fun s => s.2.Tracks c.containers s.1.containers
  have start : tracked (c, {}) := .start c.containers
  exact List.foldlRecOn (motive := tracked) entries takeContainer start
    fun s tracks entry _ => takeContainer_tracks tracks entry

/-! ### The refresh -/

/-- The refresh does not remove the container: its creation began after the last refresh, or
    it is settled and listed. -/
def Spares (c : Cache) (reply : Cri.ListContainersResponse) (id : String) : Prop :=
  c.pending[id]? = some c.refreshes ∨
    id ∉ c.pending ∧ ∃ entry ∈ reply.containers, entry.id = id

/-- The containers that the refresh removes. -/
def removedBy (c : Cache) (reply : Cri.ListContainersResponse) : List String :=
  (c.takeContainers reply.containers).1.staleContainers (reply.containers.map (·.id))

theorem refreshContainers_snd (c : Cache) (reply : Cri.ListContainersResponse) :
    let kept := (c.takeContainers reply.containers).1.deleteContainers (c.removedBy reply)
    (c.refreshContainers reply).2 = { kept with refreshes := kept.refreshes + 1 } := rfl

section Refresh

variable {c : Cache} (valid : c.WellFormed) (reply : Cri.ListContainersResponse) (id : String)
include valid

theorem isStale_iff :
    (c.takeContainers reply.containers).1.isStale (reply.containers.map (·.id)) id = true ↔
      ¬ c.Spares reply id := by
  have counts := c.takeContainers_counts reply.containers
  simp only [Cache.counts, Prod.mk.injEq] at counts
  unfold isStale Spares
  rw [takeContainers_pending, counts.2]
  cases pending : c.pending[id]? with
  | none =>
    have settled := (Table.getElem?_eq_none_iff _ _).1 pending
    simp [settled]
  | some r =>
    have waiting := Table.mem_of_getElem? pending
    have since := valid.pendingSince id r pending
    simp only [decide_eq_true_eq, Option.some.injEq, waiting, not_true_eq_false, false_and,
      or_false]
    omega

theorem mem_removedBy :
    id ∈ c.removedBy reply ↔
      id ∈ (c.takeContainers reply.containers).1.containers ∧ ¬ c.Spares reply id := by
  unfold removedBy staleContainers
  rw [List.mem_filter, Std.ExtTreeMap.mem_keys, isStale_iff valid]

/-- What is under an id after a refresh is made by the entries for it, if it is spared. -/
theorem refreshContainers_eq_some_iff (k : Container) :
    (c.refreshContainers reply).2.containers[id]? = some k ↔
      c.Spares reply id ∧
        (reply.entriesFor c.pods id).foldl Container.takeOver c.containers[id]? = some k := by
  rw [refreshContainers_snd, ← takeContainers_containers]
  dsimp only
  rw [deleteContainers_containers]
  by_cases removed : id ∈ c.removedBy reply
  · have gone := ((mem_removedBy valid reply id).1 removed).2
    simp [removed, gone]
  · rw [if_neg removed]
    constructor
    · intro found
      refine ⟨?_, found⟩
      by_contra gone
      exact removed ((mem_removedBy valid reply id).2 ⟨Table.mem_of_getElem? found, gone⟩)
    · exact fun kept => kept.2

/-- The creations that began after the last refresh, and no others, are still pending. -/
theorem refreshContainers_pending (r : Nat) :
    (c.refreshContainers reply).2.pending[id]? = some r ↔
      c.pending[id]? = some r ∧ r = c.refreshes := by
  rw [refreshContainers_snd]
  dsimp only
  rw [deleteContainers_pending, takeContainers_pending]
  cases pending : c.pending[id]? with
  | none => simp
  | some since =>
    have known := valid.pendingContainer id since pending
    have listed := (c.takeContainers_tracks reply.containers).grown id known
    have waiting := Table.mem_of_getElem? pending
    simp only [mem_removedBy valid, listed, true_and, and_true, Spares, pending, waiting,
      not_true_eq_false, false_and, or_false, Option.some.injEq]
    by_cases fresh : since = c.refreshes
    · simp [fresh, eq_comm]
    · simp only [fresh, not_false_eq_true, if_true]
      constructor
      · intro found
        cases found
      · rintro ⟨rfl, now⟩
        exact absurd now fresh

theorem mem_refreshContainers :
    id ∈ (c.refreshContainers reply).2.containers ↔
      c.Spares reply id ∧ id ∈ (c.takeContainers reply.containers).1.containers := by
  simp only [Table.mem_iff, refreshContainers_eq_some_iff valid, takeContainers_containers]
  exact exists_and_left

/-- A container that the list adds stays. -/
theorem spares_of_added (listed : id ∈ (c.takeContainers reply.containers).1.containers)
    (unknown : id ∉ c.containers) : c.Spares reply id := by
  have settled : id ∉ c.pending := by
    intro waiting
    obtain ⟨r, pending⟩ := (Table.mem_iff _ _).1 waiting
    exact unknown (valid.pendingContainer id r pending)
  obtain ⟨entry, member, _⟩ := ((mem_takeContainers ..).1 listed).resolve_left unknown
  exact .inr ⟨settled, entry.1, reply.mem_of_mem_entriesFor member⟩

theorem mem_refreshContainers_iff :
    id ∈ (c.refreshContainers reply).2.containers ↔
      c.pending[id]? = some c.refreshes ∨
      (id ∈ c.containers ∧ id ∉ c.pending ∧ ∃ entry ∈ reply.containers, entry.id = id) ∨
      (id ∉ c.containers ∧
        ∃ entry ∈ reply.entriesFor c.pods id, entry.1.metadata.isSome = true) := by
  rw [mem_refreshContainers valid, mem_takeContainers]
  constructor
  · rintro ⟨fresh | ⟨settled, listed⟩, origin⟩
    · exact .inl fresh
    · by_cases present : id ∈ c.containers
      · exact .inr (.inl ⟨present, settled, listed⟩)
      · exact .inr (.inr ⟨present, origin.resolve_left present⟩)
  · rintro (fresh | ⟨present, settled, listed⟩ | ⟨absent, readable⟩)
    · exact ⟨.inl fresh, .inl (valid.pendingContainer id _ fresh)⟩
    · exact ⟨.inr ⟨settled, listed⟩, .inl present⟩
    · have listed := (mem_takeContainers c reply id).2 (.inr readable)
      exact ⟨spares_of_added valid reply id listed absent, .inr readable⟩

theorem refreshContainers_known {old k : Container} (present : c.containers[id]? = some old)
    (found : (c.refreshContainers reply).2.containers[id]? = some k) :
    k = { old with
      state := ((reply.entriesFor c.pods id).getLast?.map (·.1.state)).getD old.state } := by
  have outcome := ((refreshContainers_eq_some_iff valid reply id k).1 found).2
  rw [present, Container.takeOver_follows.foldl_some, Option.some.injEq] at outcome
  rw [← outcome, moveLast]
  cases (reply.entriesFor c.pods id).getLast? <;> rfl

theorem refreshContainers_unknown {k : Container} (absent : id ∉ c.containers)
    (found : (c.refreshContainers reply).2.containers[id]? = some k) :
    ∃ first last new, (reply.entriesFor c.pods id).find? (·.1.metadata.isSome) = some first ∧
      (reply.entriesFor c.pods id).getLast? = some last ∧
      Container.ofListEntry first.1 first.2 = .ok new ∧ k = { new with state := last.1.state } := by
  have outcome := ((refreshContainers_eq_some_iff valid reply id k).1 found).2
  rw [(Table.getElem?_eq_none_iff _ _).2 absent] at outcome
  obtain ⟨first, new, readable, entered, moved⟩ :=
    Container.takeOver_follows.eq_of_foldl_none outcome
  have nonempty := List.ne_nil_of_mem (List.mem_of_find?_eq_some readable)
  have ending := List.getLast?_eq_some_getLast nonempty
  refine ⟨first, _, new, readable, ending, Container.ofListEntry_of_takeOver entered, ?_⟩
  rw [moved, moveLast, ending]

theorem mem_added_iff :
    id ∈ (c.refreshContainers reply).1.added ↔
      id ∈ (c.refreshContainers reply).2.containers ∧ id ∉ c.containers := by
  have sorted : id ∈ (c.refreshContainers reply).1.added ↔
      id ∈ (c.takeContainers reply.containers).2.added := List.mem_mergeSort
  have tracks := c.takeContainers_tracks reply.containers
  rw [sorted, tracks.added, mem_refreshContainers valid]
  constructor
  · rintro ⟨listed, absent⟩
    exact ⟨⟨spares_of_added valid reply id listed absent, listed⟩, absent⟩
  · rintro ⟨⟨_, listed⟩, absent⟩
    exact ⟨listed, absent⟩

theorem mem_removed_iff :
    id ∈ (c.refreshContainers reply).1.removed ↔
      id ∈ c.containers ∧ id ∉ (c.refreshContainers reply).2.containers := by
  have sorted : id ∈ (c.refreshContainers reply).1.removed ↔ id ∈ c.removedBy reply :=
    List.mem_mergeSort
  rw [sorted, mem_removedBy valid, mem_refreshContainers valid]
  constructor
  · rintro ⟨listed, gone⟩
    refine ⟨?_, fun kept => gone kept.1⟩
    by_contra absent
    exact gone (spares_of_added valid reply id listed absent)
  · rintro ⟨present, gone⟩
    have listed := (c.takeContainers_tracks reply.containers).grown id present
    exact ⟨listed, fun spared => gone ⟨spared, listed⟩⟩

end Refresh

/-- What a container list makes of a cache. The creations of the ids that are `fresh` began
    after the last refresh. -/
structure ContainersRefreshed (c : Cache) (fresh : String → Prop)
    (reply : Cri.ListContainersResponse) (changes : Refresh) (after : Cache) : Prop where
  /-- A creation has to be fresh. A settled container has to be listed in any way, and an
      unknown one for a known pod and with metadata. -/
  cached : ∀ id : String, id ∈ after.containers ↔
    fresh id ∨
    (id ∈ c.containers ∧ id ∉ c.pending ∧ ∃ entry ∈ reply.containers, entry.id = id) ∨
    (id ∉ c.containers ∧ ∃ entry ∈ reply.entriesFor c.pods id, entry.1.metadata.isSome)
  /-- Of a known container only the state changes, to that of the last entry for it that
      names a known pod. -/
  known : ∀ (id : String) (old k : Container), c.containers[id]? = some old →
    after.containers[id]? = some k →
    k = { old with
      state := ((reply.entriesFor c.pods id).getLast?.map (·.1.state)).getD old.state }
  /-- All else of an unknown container is in the first such entry that has metadata. -/
  unknown : ∀ (id : String) (k : Container), id ∉ c.containers →
    after.containers[id]? = some k →
    ∃ first last new, (reply.entriesFor c.pods id).find? (·.1.metadata.isSome) = some first ∧
      (reply.entriesFor c.pods id).getLast? = some last ∧
      Container.ofListEntry first.1 first.2 = .ok new ∧ k = { new with state := last.1.state }
  pods : after.pods = c.pods
  pending : ∀ (id : String) (r : Nat), after.pending[id]? = some r ↔
    c.pending[id]? = some r ∧ fresh id
  nextProvisional : after.nextProvisional = c.nextProvisional
  refreshes : after.refreshes = c.refreshes + 1
  addedOrder : changes.added.Pairwise (· < ·)
  added : ∀ id : String, id ∈ changes.added ↔ id ∈ after.containers ∧ id ∉ c.containers
  removedOrder : changes.removed.Pairwise (· < ·)
  removed : ∀ id : String, id ∈ changes.removed ↔ id ∈ c.containers ∧ id ∉ after.containers

theorem refreshContainers_refreshed {c : Cache} (valid : c.WellFormed)
    (reply : Cri.ListContainersResponse) :
    c.ContainersRefreshed (fun id => c.pending[id]? = some c.refreshes) reply
      (c.refreshContainers reply).1 (c.refreshContainers reply).2 := by
  have counts := c.refreshContainers_counts reply
  simp only [Cache.counts, Prod.mk.injEq] at counts
  exact {
    cached := mem_refreshContainers_iff valid reply
    known := fun id _ _ => refreshContainers_known valid reply id
    unknown := fun id _ => refreshContainers_unknown valid reply id
    pods := by
      rw [refreshContainers_snd]
      simp
    pending := by
      intro id r
      rw [refreshContainers_pending valid]
      apply and_congr_right
      intro pending
      simp [pending]
    nextProvisional := counts.1
    refreshes := counts.2
    addedOrder :=
      Refresh.pairwise_lt_mergeSort (c.takeContainers_tracks reply.containers).distinct
    added := mem_added_iff valid reply
    removedOrder := Refresh.pairwise_lt_mergeSort (Std.ExtTreeMap.nodup_keys.filter _)
    removed := mem_removed_iff valid reply }

end Cache

end PodCache
