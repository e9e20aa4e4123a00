import Mathlib.Data.List.TakeWhile
import PodCache.Proofs.Changes
import PodCache.Proofs.Counts
import PodCache.Proofs.StoppedPod
import PodCache.Proofs.TakeOver
import PodCache.Proofs.WellFormed

/-!
# Refreshing the pods

What a sandbox list makes of a cache, told for each pod by the entries for it: a known
pod takes over the last state, an unknown one is built from the first entry that can be
read, and a pod without an entry goes together with its containers. A second refresh
with the same list finds nothing to do.

The refresh does not come to its end if the machine stops while it builds a pod. Then the
entries before that one are taken over, and no pod is removed.
-/

namespace PodCache

/-! ### The entries for one pod -/

/-- The entries of the list that name the pod, in their order. -/
def Cri.ListPodSandboxResponse.entriesFor (reply : Cri.ListPodSandboxResponse) (id : String) :
    List Cri.PodSandbox :=
  reply.items.filter (·.id == id)

namespace Pod

/-- What an entry of a list makes of the pod that it names, if that is known. -/
def takeOver : Option Pod → Cri.PodSandbox → Option Pod
  | some pod, sandbox => some { pod with state := sandbox.state }
  | none, sandbox => (ofListEntry sandbox).toOption

/-- A known pod takes over the state of each entry, and an unknown one is built from an entry
    that makes a pod. -/
theorem takeOver_follows : Follows takeOver (fun sandbox => (ofListEntry sandbox).isOk)
    fun sandbox pod => { pod with state := sandbox.state } := by
  refine ⟨fun _ _ => rfl, ?_, ?_, fun _ _ _ => rfl⟩
  · intro sandbox malformed
    rw [takeOver]
    cases built : ofListEntry sandbox with
    | ok pod => simp [built, Outcome.isOk] at malformed
    | error e => rfl
    | stop => rfl
  · intro sandbox readable
    rcases ofListEntry_cases sandbox with
      ⟨-, built⟩ | ⟨-, ⟨-, built⟩ | ⟨-, pod, built, state⟩⟩
    · simp [built, Outcome.isOk] at readable
    · simp [built, Outcome.isOk] at readable
    · exact ⟨pod, Outcome.toOption_eq_some_iff.2 built, by rw [← state]⟩

theorem isOk_ofListEntry_iff (sandbox : Cri.PodSandbox) :
    (ofListEntry sandbox).isOk = true ↔
      sandbox.metadata.isSome ∧ ¬ Stops sandbox.annotations := by
  rcases ofListEntry_cases sandbox with
    ⟨absent, built⟩ | ⟨present, ⟨stops, built⟩ | ⟨reads, pod, built, -⟩⟩
  · simp [built, absent, Outcome.isOk]
  · simp [built, stops, Outcome.isOk]
  · simp [built, present, reads, Outcome.isOk]

end Pod

namespace Cache

/-! ### Taking over the entries -/

/-- An entry changes the pod that it names and no other. -/
theorem upsertPod_pods (c : Cache) (sandbox : Cri.PodSandbox) (id : String) :
    (c.upsertPod sandbox).2.pods[id]? =
      if sandbox.id = id then Pod.takeOver c.pods[id]? sandbox else c.pods[id]? := by
  unfold upsertPod
  by_cases equal : sandbox.id = id
  · subst equal
    rw [if_pos rfl]
    cases known : c.pods[sandbox.id]? with
    | some pod => simp [Pod.takeOver]
    | none =>
      cases built : Pod.ofListEntry sandbox with
      | ok pod => simp [Pod.takeOver, built, Outcome.toOption]
      | error e => simp [Pod.takeOver, built, known, Outcome.toOption]
      | stop => simp [Pod.takeOver, built, known, Outcome.toOption]
  · rw [if_neg equal]
    split
    · exact Table.getElem?_insert_of_ne _ _ equal
    · split
      · exact Table.getElem?_insert_of_ne _ _ equal
      · rfl
      · rfl

@[simp] theorem upsertPod_containers (c : Cache) (sandbox : Cri.PodSandbox) :
    (c.upsertPod sandbox).2.containers = c.containers := by
  unfold upsertPod
  split
  · rfl
  · split <;> rfl

@[simp] theorem upsertPod_pending (c : Cache) (sandbox : Cri.PodSandbox) :
    (c.upsertPod sandbox).2.pending = c.pending := by
  unfold upsertPod
  split
  · rfl
  · split <;> rfl

/-- The entries for a pod make of it what they do one after the other. -/
theorem takePods_pods (c : Cache) (sandboxes : List Cri.PodSandbox) (id : String) :
    (c.takePods sandboxes).1.pods[id]? =
      (sandboxes.filter (·.id == id)).foldl Pod.takeOver c.pods[id]? := by
  let lookup : Cache × Refresh → String → Option Pod := fun s id => s.1.pods[id]?
  have each : ∀ s (sandbox : Cri.PodSandbox) id, lookup (takePod s sandbox) id =
      if sandbox.id = id then Pod.takeOver (lookup s id) sandbox else lookup s id := by
    intro s sandbox id
    simp only [lookup, takePod_fst]
    exact upsertPod_pods s.1 sandbox id
  exact foldl_lookup lookup each (c, {}) sandboxes id

theorem mem_takePods (c : Cache) (sandboxes : List Cri.PodSandbox) (id : String) :
    id ∈ (c.takePods sandboxes).1.pods ↔ id ∈ c.pods ∨
      ∃ sandbox ∈ sandboxes.filter (·.id == id), (Pod.ofListEntry sandbox).isOk = true := by
  rw [Std.ExtTreeMap.mem_iff_isSome_getElem?, takePods_pods, Pod.takeOver_follows.isSome_foldl_iff,
    Std.ExtTreeMap.mem_iff_isSome_getElem?]

@[simp] theorem takePods_containers (c : Cache) (sandboxes : List Cri.PodSandbox) :
    (c.takePods sandboxes).1.containers = c.containers := by
  refine foldl_keeps (fun s : Cache × Refresh => s.1.containers) ?_ (c, {}) sandboxes
  intro s sandbox
  rw [takePod_fst, upsertPod_containers]

@[simp] theorem takePods_pending (c : Cache) (sandboxes : List Cri.PodSandbox) :
    (c.takePods sandboxes).1.pending = c.pending := by
  refine foldl_keeps (fun s : Cache × Refresh => s.1.pending) ?_ (c, {}) sandboxes
  intro s sandbox
  rw [takePod_fst, upsertPod_pending]

theorem takePod_tracks {before : Table Pod} {s : Cache × Refresh}
    (tracks : s.2.Tracks before s.1.pods) (sandbox : Cri.PodSandbox) :
    (takePod s sandbox).2.Tracks before (takePod s sandbox).1.pods := by
  unfold takePod upsertPod
  cases known : s.1.pods[sandbox.id]? with
  | some pod =>
    refine tracks.known (Table.mem_of_getElem? known) _ ?_
    split <;> simp
  | none =>
    cases built : Pod.ofListEntry sandbox with
    | ok pod => exact tracks.new ((Table.getElem?_eq_none_iff _ _).1 known) pod
    | error e => exact tracks
    | stop => exact tracks

theorem takePods_tracks (c : Cache) (sandboxes : List Cri.PodSandbox) :
    (c.takePods sandboxes).2.Tracks c.pods (c.takePods sandboxes).1.pods := by
  let tracked : Cache × Refresh → Prop := fun s => s.2.Tracks c.pods s.1.pods
  have start : tracked (c, {}) := .start c.pods
  exact List.foldlRecOn (motive := tracked) sandboxes takePod start
    fun s tracks sandbox _ => takePod_tracks tracks sandbox

/-! ### Entries at which the machine stops -/

/-- The machine stops at an entry of the list: the first one with metadata for some pod that
    is not cached. -/
def Halts (c : Cache) (reply : Cri.ListPodSandboxResponse) : Prop :=
  ∃ id : String, id ∉ c.pods ∧
    ∃ first, (reply.entriesFor id).find? (·.metadata.isSome) = some first ∧
      Pod.Stops first.annotations

/-- The machine has nothing to stop at in a list whose models can all be read. -/
theorem not_halts_of_forall {c : Cache} {reply : Cri.ListPodSandboxResponse}
    (reads : ∀ sandbox ∈ reply.items, ¬ Pod.Stops sandbox.annotations) : ¬ c.Halts reply := by
  rintro ⟨id, -, first, found, stops⟩
  exact reads first (List.mem_filter.1 (List.mem_of_find?_eq_some found)).1 stops

/-- Unless the machine stops at the first entry with metadata, that entry makes the pod. -/
theorem dropWhile_ofListEntry {entries : List Cri.PodSandbox}
    (reads : ∀ first, entries.find? (·.metadata.isSome) = some first →
      ¬ Pod.Stops first.annotations) :
    (entries.dropWhile fun sandbox => !(Pod.ofListEntry sandbox).isOk) =
      entries.dropWhile fun sandbox => !sandbox.metadata.isSome := by
  induction entries with
  | nil => rfl
  | cons entry entries ih =>
    simp only [List.find?_cons, List.dropWhile_cons] at reads ⊢
    cases present : entry.metadata.isSome with
    | true =>
      rw [present] at reads
      rw [(Pod.isOk_ofListEntry_iff entry).2 ⟨present, reads entry rfl⟩]
      rfl
    | false =>
      rw [present] at reads
      have unmade : (Pod.ofListEntry entry).isOk = false := by
        rw [Bool.eq_false_iff, ne_eq, Pod.isOk_ofListEntry_iff, present]
        simp
      rw [unmade]
      exact ih reads

/-- The machine stops at some entry, as they are taken over one after another, if the list has
    one to stop at. -/
theorem steady_iff (c : Cache) (sandboxes : List Cri.PodSandbox) :
    Steady (c, {}) sandboxes ↔ ¬ c.Halts ⟨sandboxes⟩ := by
  constructor
  · rintro steady ⟨id, absent, first, found, stops⟩
    obtain ⟨present, unread, rest, split, unreadable⟩ := List.find?_eq_some_iff_append.1 found
    -- The entry stands in the whole list after the same entries for the pod.
    obtain ⟨front, back, rfl, taken, remaining⟩ := List.filter_eq_append_iff.1 split
    obtain ⟨others, later, rfl, different, named, -⟩ := List.filter_eq_cons_iff.1 remaining
    obtain rfl : first.id = id := by simpa using named
    apply steady (front ++ others) first later (List.append_assoc ..).symm
    refine (upsertPod_eq_stop_iff ..).2 ⟨?_, present, stops⟩
    intro known
    rcases (c.mem_takePods (front ++ others) first.id).1 known with cached | ⟨entry, member, made⟩
    · exact absent cached
    · have skipped : others.filter (·.id == first.id) = [] := List.filter_eq_nil_iff.2 different
      rw [List.filter_append, taken, skipped, List.append_nil] at member
      have bare := unreadable entry member
      simp [((Pod.isOk_ofListEntry_iff entry).1 made).1] at bare
  · rintro none before sandbox after rfl stopped
    obtain ⟨unknown, present, stops⟩ := (upsertPod_eq_stop_iff ..).1 stopped
    have unmade := mt (c.mem_takePods before sandbox.id).2 unknown
    apply none
    refine ⟨sandbox.id, fun cached => unmade (.inl cached), ?_⟩
    have entries : Cri.ListPodSandboxResponse.entriesFor ⟨before ++ sandbox :: after⟩ sandbox.id =
        before.filter (·.id == sandbox.id) ++
          sandbox :: after.filter (·.id == sandbox.id) := by
      simp [Cri.ListPodSandboxResponse.entriesFor]
    rw [entries, List.find?_append, List.find?_cons, present]
    cases earlier : (before.filter (·.id == sandbox.id)).find? (·.metadata.isSome) with
    | none => exact ⟨sandbox, rfl, stops⟩
    | some entry =>
      refine ⟨entry, rfl, ?_⟩
      by_contra reads
      have named : entry.metadata.isSome = true := (List.find?_eq_some_iff_append.1 earlier).1
      apply unmade
      refine .inr ⟨entry, List.mem_of_find?_eq_some earlier, ?_⟩
      exact (Pod.isOk_ofListEntry_iff entry).2 ⟨named, reads⟩

/-! ### Removing pods -/

/-- The cache without the pods of the given ids. -/
def deletePods (c : Cache) (ids : List String) : Cache :=
  ids.foldl (fun c id => (c.deletePod id).2) c

/-- Some pods are gone, with them exactly the containers that they owned, and with these
    exactly their pending creations. -/
structure Prunes (c c' : Cache) : Prop where
  pods : ∀ id ∈ c'.pods, id ∈ c.pods
  containers : c'.containers = c.containers.filter fun _ k => c'.pods.contains k.podId
  pending : c'.pending = c.pending.filter fun id _ => c'.containers.contains id

namespace Prunes

theorem refl {c : Cache} (valid : c.WellFormed) : c.Prunes c := by
  refine ⟨fun _ known => known, ?_, ?_⟩
  · symm
    apply Table.filter_of_forall
    intro id k found
    exact Std.ExtTreeMap.mem_iff_contains.1 (valid.owner id k found)
  · symm
    apply Table.filter_of_forall
    intro id r found
    exact Std.ExtTreeMap.mem_iff_contains.1 (valid.pendingContainer id r found)

theorem containers_subset {c c' : Cache} (prunes : c.Prunes c') :
    ∀ id ∈ c'.containers, id ∈ c.containers := by
  intro id member
  rw [prunes.containers] at member
  obtain ⟨k, found, _⟩ := (Table.mem_filter ..).1 member
  exact Table.mem_of_getElem? found

theorem trans {c₁ c₂ c₃ : Cache} (first : c₁.Prunes c₂) (second : c₂.Prunes c₃) :
    c₁.Prunes c₃ := by
  refine ⟨fun id member => first.pods id (second.pods id member), ?_, ?_⟩
  · rw [second.containers, first.containers]
    apply Table.filter_filter_of_imp
    intro id k kept
    have known := second.pods k.podId (Std.ExtTreeMap.mem_iff_contains.2 kept)
    exact Std.ExtTreeMap.mem_iff_contains.1 known
  · rw [second.pending, first.pending]
    apply Table.filter_filter_of_imp
    intro id r kept
    have known := second.containers_subset id (Std.ExtTreeMap.mem_iff_contains.2 kept)
    exact Std.ExtTreeMap.mem_iff_contains.1 known

end Prunes

theorem deletePod_pods (c : Cache) (id j : String) :
    (c.deletePod id).2.pods[j]? = if id = j then none else c.pods[j]? := by
  unfold deletePod
  cases found : c.pods[id]? with
  | none =>
    by_cases equal : id = j
    · rw [if_pos equal, ← equal, found]
    · rw [if_neg equal]
  | some pod => exact Table.getElem?_erase _ _ _

theorem deletePod_prunes {c : Cache} (valid : c.WellFormed) (id : String) :
    c.Prunes (c.deletePod id).2 := by
  unfold deletePod
  cases found : c.pods[id]? with
  | none => exact .refl valid
  | some pod =>
    refine ⟨fun j member => ((Table.mem_erase ..).1 member).2, ?_, rfl⟩
    -- Each container has its pod in the cache, so the deleted pod is the only one to miss.
    apply Table.ext
    intro j
    simp only [Std.ExtTreeMap.getElem?_filter']
    cases known : c.containers[j]? with
    | none => rfl
    | some k =>
      have left : (c.pods.erase id).contains k.podId = (k.podId != id) := by
        rw [Bool.eq_iff_iff, ← Std.ExtTreeMap.mem_iff_contains, Table.mem_erase, bne_iff_ne]
        exact and_iff_left (valid.owner j k known)
      rw [Option.filter_some, Option.filter_some, left]

theorem deletePods_pods (c : Cache) (ids : List String) (j : String) :
    (c.deletePods ids).pods[j]? = if j ∈ ids then none else c.pods[j]? := by
  induction ids generalizing c with
  | nil => rfl
  | cons id ids ih =>
    have tail : c.deletePods (id :: ids) = (c.deletePod id).2.deletePods ids := rfl
    rw [tail, ih, deletePod_pods]
    by_cases later : j ∈ ids
    · simp [later]
    · simp [later, eq_comm]

theorem deletePods_prunes {c : Cache} (valid : c.WellFormed) (ids : List String) :
    c.Prunes (c.deletePods ids) := by
  induction ids generalizing c with
  | nil => exact .refl valid
  | cons id ids ih =>
    have after : (c.deletePod id).2.WellFormed := valid.edits (deletePod_edits c id)
    exact (deletePod_prunes valid id).trans (ih after)

/-! ### The refresh -/

/-- The pods that a refresh removes: those without an entry. -/
def stalePods (c : Cache) (reply : Cri.ListPodSandboxResponse) : List String :=
  (c.takePods reply.items).1.pods.keys.filter fun id => !(reply.items.map (·.id)).contains id

theorem mem_stalePods (c : Cache) (reply : Cri.ListPodSandboxResponse) (id : String) :
    id ∈ c.stalePods reply ↔ id ∈ c.pods ∧ reply.entriesFor id = [] := by
  have member : id ∈ c.stalePods reply ↔
      id ∈ (c.takePods reply.items).1.pods ∧ reply.entriesFor id = [] := by
    simp [stalePods, Cri.ListPodSandboxResponse.entriesFor]
  rw [member]
  apply and_congr_left
  intro unnamed
  have listed : (c.takePods reply.items).1.pods[id]? =
      (reply.entriesFor id).foldl Pod.takeOver c.pods[id]? := c.takePods_pods reply.items id
  rw [unnamed, List.foldl_nil] at listed
  rw [Table.mem_iff, Table.mem_iff, listed]

theorem reconcilePods_snd (c : Cache) (reply : Cri.ListPodSandboxResponse) :
    (c.reconcilePods reply).2 = (c.takePods reply.items).1.deletePods (c.stalePods reply) := rfl

theorem mem_reconcilePods_iff_listed (c : Cache) (reply : Cri.ListPodSandboxResponse)
    (id : String) :
    id ∈ (c.reconcilePods reply).2.pods ↔
      id ∈ (c.takePods reply.items).1.pods ∧ id ∉ c.stalePods reply := by
  rw [reconcilePods_snd, Table.mem_iff, deletePods_pods, Table.mem_iff]
  by_cases stale : id ∈ c.stalePods reply <;> simp [stale]

/-- What is under an id in the end is made by the entries with that id. -/
theorem reconcilePods_pods (c : Cache) (reply : Cri.ListPodSandboxResponse) (id : String) :
    (c.reconcilePods reply).2.pods[id]? =
      if reply.entriesFor id = [] then none
      else (reply.entriesFor id).foldl Pod.takeOver c.pods[id]? := by
  have listed : (c.takePods reply.items).1.pods[id]? =
      (reply.entriesFor id).foldl Pod.takeOver c.pods[id]? := c.takePods_pods reply.items id
  rw [reconcilePods_snd, deletePods_pods, listed]
  simp only [mem_stalePods]
  by_cases unnamed : reply.entriesFor id = []
  · by_cases known : id ∈ c.pods
    · simp [unnamed, known]
    · simp [unnamed, known]
  · simp [unnamed]

/-- The containers that remain are exactly those whose pod remains. -/
theorem reconcilePods_owned {c : Cache} (valid : c.WellFormed)
    (reply : Cri.ListPodSandboxResponse) :
    let after := (c.reconcilePods reply).2
    (after.containers = c.containers.filter fun _ k => after.pods.contains k.podId) ∧
    (after.pending = c.pending.filter fun id _ => after.containers.contains id) := by
  have listed : (c.takePods reply.items).1.WellFormed :=
    valid.edits (takePods_edits c reply.items)
  have prunes := deletePods_prunes listed (c.stalePods reply)
  refine ⟨prunes.containers.trans ?_, prunes.pending.trans ?_⟩
  · rw [takePods_containers]
    rfl
  · rw [takePods_pending]
    rfl

/-- What a sandbox list makes of a cache. -/
structure PodsRefreshed (c : Cache) (reply : Cri.ListPodSandboxResponse) (changes : Refresh)
    (after : Cache) : Prop where
  /-- A pod has to be listed, and to have been known or to be listed with metadata. -/
  cached : ∀ id : String, id ∈ after.pods ↔
    reply.entriesFor id ≠ [] ∧
      (id ∈ c.pods ∨ ∃ sandbox ∈ reply.entriesFor id, sandbox.metadata.isSome)
  /-- Every pod has the state of the last entry for it. -/
  state : ∀ (id : String) (pod : Pod), after.pods[id]? = some pod →
    ∃ last, (reply.entriesFor id).getLast? = some last ∧ pod.state = last.state
  /-- Of a known pod nothing else changes. -/
  known : ∀ (id : String) (old pod : Pod), c.pods[id]? = some old →
    after.pods[id]? = some pod → pod = { old with state := pod.state }
  /-- All else of an unknown pod is in the first entry that has metadata. -/
  unknown : ∀ (id : String) (pod : Pod), id ∉ c.pods → after.pods[id]? = some pod →
    ∃ first new, (reply.entriesFor id).find? (·.metadata.isSome) = some first ∧
      Pod.ofListEntry first = .ok new ∧ pod = { new with state := pod.state }
  /-- The containers of the remaining pods remain as they are. -/
  containers : after.containers = c.containers.filter fun _ k => after.pods.contains k.podId
  /-- The creations of the remaining containers remain pending. -/
  pending : after.pending = c.pending.filter fun id _ => after.containers.contains id
  counts : after.counts = c.counts
  addedOrder : changes.added.Pairwise (· < ·)
  added : ∀ id : String, id ∈ changes.added ↔ id ∈ after.pods ∧ id ∉ c.pods
  removedOrder : changes.removed.Pairwise (· < ·)
  removed : ∀ id : String, id ∈ changes.removed ↔ id ∈ c.pods ∧ id ∉ after.pods

/-- An id is cached in the end if it has entries and these make a pod. -/
theorem reconcilePods_eq_some {c : Cache} {reply : Cri.ListPodSandboxResponse} {id : String}
    {pod : Pod} (found : (c.reconcilePods reply).2.pods[id]? = some pod) :
    ∃ last, (reply.entriesFor id).getLast? = some last ∧
      (reply.entriesFor id).foldl Pod.takeOver c.pods[id]? = some pod := by
  rw [reconcilePods_pods] at found
  cases ending : (reply.entriesFor id).getLast? with
  | none =>
    rw [if_pos (List.getLast?_eq_none_iff.1 ending)] at found
    cases found
  | some last =>
    have named : reply.entriesFor id ≠ [] := by
      intro empty
      rw [empty] at ending
      cases ending
    rw [if_neg named] at found
    exact ⟨last, rfl, found⟩

/-- The first entry with metadata makes the pod that is not cached, unless the machine stops. -/
theorem dropWhile_entriesFor {c : Cache} {reply : Cri.ListPodSandboxResponse}
    (goes : ¬ c.Halts reply) {id : String} (absent : id ∉ c.pods) :
    ((reply.entriesFor id).dropWhile fun sandbox => !(Pod.ofListEntry sandbox).isOk) =
      (reply.entriesFor id).dropWhile fun sandbox => !sandbox.metadata.isSome := by
  apply dropWhile_ofListEntry
  intro first found stops
  exact goes ⟨id, absent, first, found, stops⟩

theorem find?_entriesFor {c : Cache} {reply : Cri.ListPodSandboxResponse}
    (goes : ¬ c.Halts reply) {id : String} (absent : id ∉ c.pods) :
    (reply.entriesFor id).find? (fun sandbox => (Pod.ofListEntry sandbox).isOk) =
      (reply.entriesFor id).find? (·.metadata.isSome) := by
  rw [List.find?_eq_head?_dropWhile_not, List.find?_eq_head?_dropWhile_not,
    dropWhile_entriesFor goes absent]

theorem mem_reconcilePods {c : Cache} {reply : Cri.ListPodSandboxResponse}
    (goes : ¬ c.Halts reply) (id : String) :
    id ∈ (c.reconcilePods reply).2.pods ↔ reply.entriesFor id ≠ [] ∧
      (id ∈ c.pods ∨ ∃ sandbox ∈ reply.entriesFor id, sandbox.metadata.isSome) := by
  rw [Std.ExtTreeMap.mem_iff_isSome_getElem?, reconcilePods_pods]
  by_cases unnamed : reply.entriesFor id = []
  · simp [unnamed]
  · rw [if_neg unnamed, Pod.takeOver_follows.isSome_foldl_iff,
      ← Std.ExtTreeMap.mem_iff_isSome_getElem?]
    by_cases known : id ∈ c.pods
    · simp [unnamed, known]
    · rw [← List.find?_isSome, ← List.find?_isSome, find?_entriesFor goes known]
      simp [unnamed]

theorem reconcilePods_refreshed {c : Cache} (valid : c.WellFormed)
    {reply : Cri.ListPodSandboxResponse} (goes : ¬ c.Halts reply) :
    c.PodsRefreshed reply (c.reconcilePods reply).1 (c.reconcilePods reply).2 := by
  have owned := reconcilePods_owned valid reply
  have tracks := c.takePods_tracks reply.items
  exact {
    cached := mem_reconcilePods goes
    state := by
      intro id pod found
      obtain ⟨last, ending, outcome⟩ := reconcilePods_eq_some found
      have moved := Pod.takeOver_follows.move_last_eq outcome ending
      exact ⟨last, ending, (congrArg Pod.state moved).symm⟩
    known := by
      intro id old pod present found
      obtain ⟨last, ending, outcome⟩ := reconcilePods_eq_some found
      rw [present, Pod.takeOver_follows.foldl_some, Option.some.injEq] at outcome
      rw [← outcome, moveLast, ending]
    unknown := by
      intro id pod absent found
      obtain ⟨last, ending, outcome⟩ := reconcilePods_eq_some found
      rw [(Table.getElem?_eq_none_iff _ _).2 absent] at outcome
      obtain ⟨first, new, readable, entered, moved⟩ :=
        Pod.takeOver_follows.eq_of_foldl_none outcome
      refine ⟨first, new, (find?_entriesFor goes absent).symm.trans readable,
        Outcome.toOption_eq_some_iff.1 entered, ?_⟩
      rw [moved, moveLast, ending]
    containers := owned.1
    pending := owned.2
    counts := c.reconcilePods_counts reply
    addedOrder := Refresh.pairwise_lt_mergeSort tracks.distinct
    added := by
      intro id
      have sorted : id ∈ (c.reconcilePods reply).1.added ↔
          id ∈ (c.takePods reply.items).2.added := List.mem_mergeSort
      rw [sorted, tracks.added, mem_reconcilePods_iff_listed]
      apply and_congr_left
      intro absent
      have kept : id ∉ c.stalePods reply := fun stale => absent ((mem_stalePods ..).1 stale).1
      exact (and_iff_left kept).symm
    removedOrder := Refresh.pairwise_lt_mergeSort (Std.ExtTreeMap.nodup_keys.filter _)
    removed := by
      intro id
      have sorted : id ∈ (c.reconcilePods reply).1.removed ↔ id ∈ c.stalePods reply :=
        List.mem_mergeSort
      rw [sorted, mem_stalePods, mem_reconcilePods goes]
      apply and_congr_right
      intro present
      simp [present] }

theorem eq_of_fields {c c' : Cache} (pods : c'.pods = c.pods)
    (containers : c'.containers = c.containers) (pending : c'.pending = c.pending)
    (counts : c'.counts = c.counts) : c' = c := by
  cases c
  cases c'
  simp only [Cache.counts, Prod.mk.injEq] at counts
  obtain ⟨next, refreshes⟩ := counts
  subst pods containers pending next refreshes
  rfl

/-- To do it once more with the same list changes nothing. -/
theorem reconcilePods_idem {c : Cache} (valid : c.WellFormed)
    (reply : Cri.ListPodSandboxResponse) :
    ((c.reconcilePods reply).2.reconcilePods reply).2 = (c.reconcilePods reply).2 := by
  have after : (c.reconcilePods reply).2.WellFormed := valid.edits (reconcilePods_edits c reply)
  have pods : ((c.reconcilePods reply).2.reconcilePods reply).2.pods =
      (c.reconcilePods reply).2.pods := by
    apply Table.ext
    intro id
    simp only [reconcilePods_pods]
    by_cases unnamed : reply.entriesFor id = []
    · simp only [unnamed, if_true]
    · rw [if_neg unnamed, if_neg unnamed, Pod.takeOver_follows.foldl_idem]
  have counts := (c.reconcilePods reply).2.reconcilePods_counts reply
  have owned := reconcilePods_owned after reply
  have same := Prunes.refl after
  have containers : ((c.reconcilePods reply).2.reconcilePods reply).2.containers =
      (c.reconcilePods reply).2.containers := by
    rw [owned.1, pods]
    exact same.containers.symm
  have pending : ((c.reconcilePods reply).2.reconcilePods reply).2.pending =
      (c.reconcilePods reply).2.pending := by
    rw [owned.2, containers]
    exact same.pending.symm
  exact eq_of_fields pods containers pending counts

/-- What the list has no pod for after a refresh, it has no entry for, or none with metadata. So
    the machine has nothing more to stop at. -/
theorem not_halts_reconcilePods {c : Cache} {reply : Cri.ListPodSandboxResponse}
    (goes : ¬ c.Halts reply) : ¬ (c.reconcilePods reply).2.Halts reply := by
  rintro ⟨id, absent, first, found, -⟩
  have member := List.mem_of_find?_eq_some found
  have present : first.metadata.isSome = true := (List.find?_eq_some_iff_append.1 found).1
  exact absent ((mem_reconcilePods goes id).2 ⟨List.ne_nil_of_mem member,
    .inr ⟨first, member, present⟩⟩)

theorem refreshPods_of_not_halts {c : Cache} {reply : Cri.ListPodSandboxResponse}
    (goes : ¬ c.Halts reply) :
    c.refreshPods reply = (.ok (c.reconcilePods reply).1, (c.reconcilePods reply).2) := by
  rcases c.refreshPods_cases reply with ⟨before, sandbox, later, whole, -, stops, -⟩ | ⟨-, outcome⟩
  · exact absurd stops ((steady_iff c reply.items).2 goes before sandbox later whole)
  · exact outcome

/-- The entries of a list are taken over, and nothing is removed. -/
structure PodsTaken (c : Cache) (reply : Cri.ListPodSandboxResponse) (after : Cache) : Prop where
  /-- Under each id is what the entries with that id make of the pod, one after another. -/
  pods : ∀ id : String,
    after.pods[id]? = (reply.entriesFor id).foldl Pod.takeOver c.pods[id]?
  containers : after.containers = c.containers
  pending : after.pending = c.pending
  counts : after.counts = c.counts

/-- If the machine stops, then at the end of the shortest part of the list that makes it stop,
    with all entries before taken over. -/
theorem refreshPods_of_halts {c : Cache} {reply : Cri.ListPodSandboxResponse}
    (halts : c.Halts reply) :
    (c.refreshPods reply).1 = .stop ∧
      ∃ before sandbox later, reply.items = before ++ sandbox :: later ∧
        ¬ c.Halts ⟨before⟩ ∧ c.Halts ⟨before ++ [sandbox]⟩ ∧
        c.PodsTaken ⟨before⟩ (c.refreshPods reply).2 := by
  rcases c.refreshPods_cases reply with
    ⟨before, sandbox, later, whole, steady, stops, outcome⟩ | ⟨steady, -⟩
  · rw [outcome]
    refine ⟨rfl, before, sandbox, later, whole, (steady_iff ..).1 steady, ?_, ?_⟩
    · by_contra goes
      exact (steady_iff ..).2 goes before sandbox [] rfl stops
    · exact ⟨c.takePods_pods before, c.takePods_containers before, c.takePods_pending before,
        c.takePods_counts before⟩
  · exact absurd halts ((steady_iff ..).1 steady)

/-- Wherever a run leads, a refresh with any list of sandboxes comes to its end just if the list
    has no entry at which the machine stops. Then it makes of the cache what the list says, and
    a second refresh with the same list changes nothing. Otherwise it stops at the first such
    entry with those before it taken over. -/
theorem run_refreshPods (steps : List Step) (reply : Cri.ListPodSandboxResponse) :
    let c := run ∅ steps
    let after := (c.refreshPods reply).2
    (¬ c.Halts reply ∧ ∃ changes, (c.refreshPods reply).1 = .ok changes ∧
      c.PodsRefreshed reply changes after ∧
      ∃ changes', after.refreshPods reply = (.ok changes', after)) ∨
    (c.Halts reply ∧ (c.refreshPods reply).1 = .stop ∧
      ∃ before sandbox later, reply.items = before ++ sandbox :: later ∧
        ¬ c.Halts ⟨before⟩ ∧ c.Halts ⟨before ++ [sandbox]⟩ ∧ c.PodsTaken ⟨before⟩ after) := by
  intro c after
  have valid : c.WellFormed := WellFormed.run steps
  by_cases halts : c.Halts reply
  · exact .inr ⟨halts, refreshPods_of_halts halts⟩
  · refine .inl ⟨halts, (c.reconcilePods reply).1, ?_, ?_, ?_⟩
    · rw [refreshPods_of_not_halts halts]
    · simp only [after, refreshPods_of_not_halts halts]
      exact reconcilePods_refreshed valid halts
    · simp only [after, refreshPods_of_not_halts halts,
        refreshPods_of_not_halts (not_halts_reconcilePods halts), reconcilePods_idem valid]
      exact ⟨_, rfl⟩

theorem refreshPods_tiny : (∅ : Cache).refreshPods ⟨[.tiny]⟩ = (.stop, ∅) := by
  have stops : (∅ : Cache).upsertPod .tiny = (.stop, ∅) := by
    have unknown : (∅ : Cache).pods[Cri.PodSandbox.tiny.id]? = none := by rfl
    simp only [upsertPod, unknown, Pod.ofListEntry_tiny]
  simp only [refreshPods, takeSandboxes, stops]

/-- Not every list makes of the cache what it says. A sandbox with metadata can be missing in
    the end. -/
theorem not_forall_podsRefreshed :
    ¬ ∀ (steps : List Step) (reply : Cri.ListPodSandboxResponse), ∃ changes,
      (run ∅ steps).PodsRefreshed reply changes ((run ∅ steps).refreshPods reply).2 := by
  intro refreshed
  obtain ⟨changes, refreshed⟩ := refreshed [] ⟨[.tiny]⟩
  have cached : "p" ∈ ((∅ : Cache).refreshPods ⟨[.tiny]⟩).2.pods :=
    (refreshed.cached "p").2 ⟨by simp [Cri.ListPodSandboxResponse.entriesFor, Cri.PodSandbox.tiny],
      .inr ⟨.tiny, by simp [Cri.ListPodSandboxResponse.entriesFor, Cri.PodSandbox.tiny], rfl⟩⟩
  rw [refreshPods_tiny] at cached
  exact Std.ExtTreeMap.not_mem_empty cached

end Cache

end PodCache
