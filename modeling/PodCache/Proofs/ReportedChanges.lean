import PodCache.Proofs.ContainerRefresh
import PodCache.Proofs.PodRefresh
import PodCache.Proofs.ProvisionalId

/-!
# Reported changes

A refresh reports what it did entry by entry. The ids that it reports as added and as removed
are the difference between the tables before and after it. An id is reported as updated as
often as the state of its entity changes from one entry to the next, so the whole report is
the difference between the tables exactly if no state changes twice, and none changes of an
entity that is new or does not stay.
-/

namespace PodCache

/-! ### The states of one entity -/

section States

variable {ε β σ : Type} [DecidableEq σ]

/-- How often a value changes along a list. -/
def changesAlong : List σ → Nat
  | s :: t :: rest => (if s = t then 0 else 1) + changesAlong (t :: rest)
  | _ => 0

theorem changesAlong_cons_cons (s t : σ) (rest : List σ) :
    changesAlong (s :: t :: rest) = (if s = t then 0 else 1) + changesAlong (t :: rest) := rfl

theorem changesAlong_cons_le (s : σ) (rest : List σ) :
    changesAlong (s :: rest) ≤ rest.length := by
  induction rest generalizing s with
  | nil => exact Nat.le_refl 0
  | cons t rest ih =>
    have later := ih t
    rw [changesAlong_cons_cons, List.length_cons]
    split <;> omega

theorem changesAlong_of_length_le_one {states : List σ} (short : states.length ≤ 1) :
    changesAlong states = 0 := by
  match states, short with
  | [], _ => rfl
  | [s], _ => rfl

theorem getLast?_of_changesAlong_eq_zero {s : σ} {rest : List σ}
    (steady : changesAlong (s :: rest) = 0) : (s :: rest).getLast? = some s := by
  induction rest generalizing s with
  | nil => rfl
  | cons t rest ih =>
    rw [changesAlong_cons_cons] at steady
    by_cases same : s = t
    · subst same
      rw [if_pos rfl, Nat.zero_add] at steady
      rw [List.getLast?_cons_cons]
      exact ih steady
    · rw [if_neg same] at steady
      omega

theorem ne_of_changesAlong_eq_one {s t : σ} {rest : List σ}
    (once : changesAlong (s :: rest) = 1) (ending : (s :: rest).getLast? = some t) : s ≠ t := by
  induction rest generalizing s with
  | nil => simp [changesAlong] at once
  | cons u rest ih =>
    rw [changesAlong_cons_cons] at once
    rw [List.getLast?_cons_cons] at ending
    by_cases same : s = u
    · subst same
      rw [if_pos rfl, Nat.zero_add] at once
      exact ih once ending
    · -- After the only change the list is steady.
      rw [if_neg same] at once
      have steady : changesAlong (u :: rest) = 0 := by omega
      rw [getLast?_of_changesAlong_eq_zero steady, Option.some.injEq] at ending
      exact ending ▸ same

/-- Where a value changes at most once, it changes if the last one differs from the first. -/
theorem changesAlong_ne_zero_iff {states : List σ} {s t : σ} (few : changesAlong states ≤ 1)
    (first : states.head? = some s) (last : states.getLast? = some t) :
    changesAlong states ≠ 0 ↔ s ≠ t := by
  match states, first with
  | s' :: rest, first =>
    rw [List.head?_cons, Option.some.injEq] at first
    subst first
    constructor
    · intro changed
      have once : changesAlong (s' :: rest) = 1 := by omega
      exact ne_of_changesAlong_eq_one once last
    · intro different steady
      rw [getLast?_of_changesAlong_eq_zero steady, Option.some.injEq] at last
      exact different last

/-- The states that an entity has one after the other: the one that it was known with, and
    those of the entries that name it. One that was not known has its first state from the
    first entry that can be read. -/
def statesFrom (readable : ε → Bool) (entryState : ε → σ) (known : Option σ)
    (entries : List ε) : List σ :=
  match known with
  | some s => s :: entries.map entryState
  | none => (entries.dropWhile fun entry => !readable entry).map entryState

/-- How many changes of state an entry makes: one if it finds an entity in another state. -/
def movesBy (state : β → σ) (entryState : ε → σ) (known : Option β) (entry : ε) : Nat :=
  match known with
  | some entity => if state entity = entryState entry then 0 else 1
  | none => 0

/-- Takes over one entry and adds up the changes of state. -/
def tally (takeOver : Option β → ε → Option β) (state : β → σ) (entryState : ε → σ)
    (s : Option β × Nat) (entry : ε) : Option β × Nat :=
  (takeOver s.1 entry, s.2 + movesBy state entryState s.1 entry)

/-- The entries for one entity change it as often as its state changes along them. -/
theorem Follows.foldl_tally {takeOver : Option β → ε → Option β} {readable : ε → Bool}
    {move : ε → β → β} (follows : Follows takeOver readable move) {state : β → σ}
    {entryState : ε → σ} (moved : ∀ entry entity, state (move entry entity) = entryState entry)
    (known : Option β) (n : Nat) (entries : List ε) :
    entries.foldl (tally takeOver state entryState) (known, n) =
      (entries.foldl takeOver known,
        n + changesAlong (statesFrom readable entryState (known.map state) entries)) := by
  induction entries generalizing known n with
  | nil => cases known <;> rfl
  | cons entry entries ih =>
    rw [List.foldl_cons, List.foldl_cons, ih]
    cases known with
    | some entity =>
      simp only [tally, follows.known, movesBy, statesFrom, Option.map_some, moved, List.map_cons,
        changesAlong_cons_cons, Nat.add_assoc]
    | none =>
      cases named : readable entry with
      | true =>
        obtain ⟨entity, built, placed⟩ := follows.built entry named
        have own : state entity = entryState entry := by rw [← placed, moved]
        simp [tally, built, movesBy, statesFrom, own, named]
      | false => simp [tally, follows.malformed entry named, movesBy, statesFrom, named]

/-- An entity with at most one entry changes at most once, and not if it was unknown. -/
theorem changesAlong_statesFrom_le {readable : ε → Bool} {entryState : ε → σ} {known : Option σ}
    {entries : List ε} (single : entries.length ≤ 1) :
    changesAlong (statesFrom readable entryState known entries) ≤
      if known.isSome then entries.length else 0 := by
  cases known with
  | some s =>
    have few := changesAlong_cons_le s (entries.map entryState)
    rw [List.length_map] at few
    exact few
  | none =>
    have short : ((entries.dropWhile fun entry => !readable entry).map entryState).length ≤ 1 := by
      rw [List.length_map]
      exact Nat.le_trans (List.dropWhile_sublist _).length_le single
    exact Nat.le_of_eq (changesAlong_of_length_le_one short)

/-- Of entries with distinct keys at most one has a given key. -/
theorem length_filter_key_le_one {key : ε → String} {entries : List ε}
    (distinct : (entries.map key).Nodup) (k : String) :
    (entries.filter (key · == k)).length ≤ 1 := by
  have once := List.nodup_iff_count_le_one.1 distinct k
  rw [List.count_eq_countP, List.countP_map] at once
  rw [← List.countP_eq_length_filter]
  exact once

end States

namespace Refresh

/-! ### Reports -/

section Reports

variable {α σ : Type} [DecidableEq σ]

/-- The lists say exactly how the tables differ: which ids are new, which are gone, and which
    have stayed and lead to another state. No id is in two of the lists or twice in one. -/
structure IsDifference (state : α → σ) (before after : Table α) (r : Refresh) : Prop where
  addedOnce : r.added.Nodup
  updatedOnce : r.updated.Nodup
  removedOnce : r.removed.Nodup
  addedUpdated : r.added.Disjoint r.updated
  addedRemoved : r.added.Disjoint r.removed
  updatedRemoved : r.updated.Disjoint r.removed
  added : ∀ id : String, id ∈ r.added ↔ id ∈ after ∧ id ∉ before
  removed : ∀ id : String, id ∈ r.removed ↔ id ∈ before ∧ id ∉ after
  updated : ∀ id : String, id ∈ r.updated ↔
    ∃ old new, before[id]? = some old ∧ after[id]? = some new ∧ state old ≠ state new

/-- The lists are in order. The added and the removed ids say exactly which ids are new and
    which are gone. An id is updated as often as the state under it changes. -/
structure Reports (before after : Table α) (states : String → List σ) (r : Refresh) : Prop where
  addedOrder : r.added.Pairwise (· < ·)
  added : ∀ id : String, id ∈ r.added ↔ id ∈ after ∧ id ∉ before
  removedOrder : r.removed.Pairwise (· < ·)
  removed : ∀ id : String, id ∈ r.removed ↔ id ∈ before ∧ id ∉ after
  updatedOrder : r.updated.Pairwise (· ≤ ·)
  updated : ∀ id : String, r.updated.count id = changesAlong (states id)

/-- No state changes twice, and none under an id that is new or does not stay. -/
def Settles (before after : Table α) (states : String → List σ) : Prop :=
  ∀ id : String, changesAlong (states id) ≤ 1 ∧
    (changesAlong (states id) ≠ 0 → id ∈ before ∧ id ∈ after)

/-- Where no entity has two entries, and none with an entry is removed, the states settle. -/
theorem settles_of_single {ε : Type} {readable : ε → Bool} {entryState : ε → σ} {state : α → σ}
    {before after : Table α} {entries : String → List ε}
    (single : ∀ id, (entries id).length ≤ 1)
    (kept : ∀ id ∈ before, entries id ≠ [] → id ∈ after) :
    Settles before after fun id =>
      statesFrom readable entryState (before[id]?.map state) (entries id) := by
  intro id
  have few : changesAlong (statesFrom readable entryState (before[id]?.map state) (entries id)) ≤
      if (before[id]?.map state).isSome then (entries id).length else 0 :=
    changesAlong_statesFrom_le (single id)
  have one := single id
  dsimp only
  cases known : before[id]? with
  | some old =>
    rw [known, Option.map_some, Option.isSome_some, if_pos rfl] at few
    refine ⟨Nat.le_trans few one, fun changed => ?_⟩
    have member := Table.mem_of_getElem? known
    refine ⟨member, kept id member ?_⟩
    intro unnamed
    rw [unnamed, List.length_nil, Nat.le_zero] at few
    exact changed (unnamed ▸ few)
  | none =>
    rw [known, Option.map_none, Option.isSome_none] at few
    have steady := Nat.le_zero.1 few
    exact ⟨Nat.le_trans few (Nat.zero_le 1), fun changed => absurd steady changed⟩

theorem nodup_of_increasing {ids : List String} (order : ids.Pairwise (· < ·)) : ids.Nodup :=
  order.imp String.ne_of_lt

namespace Reports

variable {before after : Table α} {states : String → List σ} {r : Refresh}

theorem mem_updated_iff (reports : r.Reports before after states) (id : String) :
    id ∈ r.updated ↔ changesAlong (states id) ≠ 0 := by
  rw [← reports.updated, ← List.count_pos_iff, Nat.pos_iff_ne_zero]

/-- A report is the difference of the tables exactly if the states settle. The states of an
    entity that stays begin with the state before and end with the state after. -/
theorem isDifference_iff (reports : r.Reports before after states) {state : α → σ}
    (ends : ∀ (id : String) (old new : α), before[id]? = some old → after[id]? = some new →
      (states id).head? = some (state old) ∧ (states id).getLast? = some (state new)) :
    r.IsDifference state before after ↔ Settles before after states := by
  constructor
  · intro difference id
    constructor
    · rw [← reports.updated]
      exact List.nodup_iff_count_le_one.1 difference.updatedOnce id
    · intro changed
      obtain ⟨old, new, known, kept, _⟩ :=
        (difference.updated id).1 ((reports.mem_updated_iff id).2 changed)
      exact ⟨Table.mem_of_getElem? known, Table.mem_of_getElem? kept⟩
  · intro settles
    have stays : ∀ id, id ∈ r.updated → id ∈ before ∧ id ∈ after :=
      fun id member => (settles id).2 ((reports.mem_updated_iff id).1 member)
    refine ⟨nodup_of_increasing reports.addedOrder, ?_, nodup_of_increasing reports.removedOrder,
      ?_, ?_, ?_, reports.added, reports.removed, ?_⟩
    · apply List.nodup_iff_count_le_one.2
      intro id
      rw [reports.updated]
      exact (settles id).1
    · intro id new moved
      exact ((reports.added id).1 new).2 (stays id moved).1
    · intro id new gone
      exact ((reports.added id).1 new).2 ((reports.removed id).1 gone).1
    · intro id moved gone
      exact ((reports.removed id).1 gone).2 (stays id moved).2
    · intro id
      constructor
      · intro member
        obtain ⟨old, known⟩ := (Table.mem_iff _ _).1 (stays id member).1
        obtain ⟨new, kept⟩ := (Table.mem_iff _ _).1 (stays id member).2
        obtain ⟨first, last⟩ := ends id old new known kept
        have changed := (reports.mem_updated_iff id).1 member
        exact ⟨old, new, known, kept,
          (changesAlong_ne_zero_iff (settles id).1 first last).1 changed⟩
      · rintro ⟨old, new, known, kept, different⟩
        obtain ⟨first, last⟩ := ends id old new known kept
        apply (reports.mem_updated_iff id).2
        exact (changesAlong_ne_zero_iff (settles id).1 first last).2 different

end Reports

end Reports

/-! ### Taking down one entry -/

theorem count_record_added (r : Refresh) (id j : String) :
    (r.record id .added).updated.count j = r.updated.count j := rfl

/-- An entry for a known entity is taken down as an update if the state is another one. -/
theorem count_record_known (r : Refresh) (id j : String) (same : Prop) [Decidable same] :
    (r.record id (if same then .unchanged else .updated)).updated.count j =
      r.updated.count j + if id = j then (if same then 0 else 1) else 0 := by
  by_cases steady : same
  · simp [steady, record]
  · simp only [steady, if_false, record, List.count_cons, beq_iff_eq]

theorem count_sorted_updated (r : Refresh) (id : String) :
    r.sorted.updated.count id = r.updated.count id :=
  (List.mergeSort_perm r.updated _).count_eq id

end Refresh

namespace Cache

/-! ### Pods -/

/-- The states that a pod has one after the other while a list is taken over. -/
def podStates (c : Cache) (reply : Cri.ListPodSandboxResponse) (id : String) :
    List Cri.SandboxState :=
  statesFrom (·.metadata.isSome) (·.state) (c.pods[id]?.map Pod.state) (reply.entriesFor id)

theorem takePod_count (s : Cache × Refresh) (sandbox : Cri.PodSandbox) (id : String) :
    (takePod s sandbox).2.updated.count id = s.2.updated.count id +
      if sandbox.id = id then movesBy Pod.state (·.state) s.1.pods[id]? sandbox else 0 := by
  unfold takePod upsertPod
  cases known : s.1.pods[sandbox.id]? with
  | some pod =>
    dsimp only
    rw [Refresh.count_record_known]
    by_cases equal : sandbox.id = id
    · subst equal
      simp [known, movesBy]
    · simp [equal]
  | none =>
    have none_moves : (if sandbox.id = id then
        movesBy Pod.state (·.state) s.1.pods[id]? sandbox else 0) = 0 := by
      by_cases equal : sandbox.id = id
      · subst equal
        simp [known, movesBy]
      · simp [equal]
    rw [none_moves]
    cases Pod.ofListEntry sandbox <;> rfl

theorem takePods_count {c : Cache} {reply : Cri.ListPodSandboxResponse}
    (goes : ¬ c.Halts reply) (id : String) :
    (c.takePods reply.items).2.updated.count id = changesAlong (c.podStates reply id) := by
  let lookup : Cache × Refresh → String → Option Pod × Nat :=
    fun s id => (s.1.pods[id]?, s.2.updated.count id)
  have each : ∀ s (sandbox : Cri.PodSandbox) id, lookup (takePod s sandbox) id =
      if sandbox.id = id then tally Pod.takeOver Pod.state (·.state) (lookup s id) sandbox
      else lookup s id := by
    intro s sandbox id
    simp only [lookup, tally, takePod_fst, upsertPod_pods, takePod_count]
    by_cases equal : sandbox.id = id <;> simp [equal]
  have whole := foldl_lookup lookup each (c, {}) reply.items id
  have counted := congrArg Prod.snd (whole.trans
    (Pod.takeOver_follows.foldl_tally (fun _ _ => rfl) c.pods[id]? 0 (reply.entriesFor id)))
  refine counted.trans ((Nat.zero_add _).trans ?_)
  -- An unknown pod has its first state from an entry that makes a pod, which is the first one
  -- with metadata.
  unfold podStates statesFrom
  cases known : c.pods[id]? with
  | some pod => rfl
  | none =>
    simp only [Option.map_none]
    rw [dropWhile_entriesFor goes ((Table.getElem?_eq_none_iff _ _).1 known)]

theorem reconcilePods_reports {c : Cache} (valid : c.WellFormed)
    {reply : Cri.ListPodSandboxResponse} (goes : ¬ c.Halts reply) :
    (c.reconcilePods reply).1.Reports c.pods (c.reconcilePods reply).2.pods
      (c.podStates reply) := by
  have refreshed := reconcilePods_refreshed valid goes
  refine ⟨refreshed.addedOrder, refreshed.added, refreshed.removedOrder, refreshed.removed,
    ?_, ?_⟩
  · exact pairwise_le_mergeSort (fun id => id) _
  · intro id
    exact (Refresh.count_sorted_updated _ id).trans (takePods_count goes id)

/-- The states of a pod that stays go from the one before the refresh to the one after it. -/
theorem podStates_ends (c : Cache) (reply : Cri.ListPodSandboxResponse)
    (id : String) (old new : Pod) (known : c.pods[id]? = some old)
    (kept : (c.reconcilePods reply).2.pods[id]? = some new) :
    (c.podStates reply id).head? = some old.state ∧
      (c.podStates reply id).getLast? = some new.state := by
  obtain ⟨last, ending, outcome⟩ := reconcilePods_eq_some kept
  have state : last.state = new.state :=
    congrArg Pod.state (Pod.takeOver_follows.move_last_eq outcome ending)
  rw [podStates, known]
  refine ⟨rfl, ?_⟩
  rw [Option.map_some, statesFrom, List.getLast?_cons, List.getLast?_map, ending, ← state]
  rfl

theorem podStates_settle {c : Cache} {reply : Cri.ListPodSandboxResponse}
    (goes : ¬ c.Halts reply) (distinct : (reply.items.map (·.id)).Nodup) :
    Refresh.Settles c.pods (c.reconcilePods reply).2.pods (c.podStates reply) := by
  apply Refresh.settles_of_single
  · intro id
    exact length_filter_key_le_one distinct id
  · intro id present named
    exact (mem_reconcilePods goes id).2 ⟨named, .inl present⟩

/-! ### Containers -/

/-- The states that a container has one after the other while a list is taken over. -/
def containerStates (c : Cache) (reply : Cri.ListContainersResponse) (id : String) :
    List Cri.ContainerState :=
  statesFrom (·.1.metadata.isSome) (·.1.state) (c.containers[id]?.map Container.state)
    (reply.entriesFor c.pods id)

theorem takeContainer_count (s : Cache × Refresh) (entry : Cri.Container) (id : String) :
    (takeContainer s entry).2.updated.count id =
      if entry.id = id then
        match s.1.pods[entry.podSandboxId]? with
        | some pod => s.2.updated.count id +
            movesBy Container.state (·.1.state) s.1.containers[id]? (entry, pod)
        | none => s.2.updated.count id
      else s.2.updated.count id := by
  unfold takeContainer upsertContainer
  cases owner : s.1.pods[entry.podSandboxId]? with
  | none => simp
  | some pod =>
    cases known : s.1.containers[entry.id]? with
    | some k =>
      dsimp only
      rw [Refresh.count_record_known]
      by_cases equal : entry.id = id
      · subst equal
        simp [known, movesBy]
      · simp [equal]
    | none =>
      have none_moves : (if entry.id = id then s.2.updated.count id +
          movesBy Container.state (·.1.state) s.1.containers[id]? (entry, pod)
          else s.2.updated.count id) = s.2.updated.count id := by
        by_cases equal : entry.id = id
        · subst equal
          simp [known, movesBy]
        · simp [equal]
      dsimp only
      rw [none_moves]
      cases built : Container.ofListEntry entry pod with
      | error e => simp
      | ok k => simp [Refresh.count_record_added]

theorem takeContainers_count (c : Cache) (reply : Cri.ListContainersResponse) (id : String) :
    (c.takeContainers reply.containers).2.updated.count id =
      changesAlong (c.containerStates reply id) := by
  let lookup : Cache × Refresh → String → Option Container × Nat :=
    fun s id => (s.1.containers[id]?, s.2.updated.count id)
  have each : ∀ s (entry : Cri.Container) id, lookup (takeContainer s entry) id =
      if entry.id = id then
        match s.1.pods[entry.podSandboxId]? with
        | some pod =>
          tally Container.takeOver Container.state (·.1.state) (lookup s id) (entry, pod)
        | none => lookup s id
      else lookup s id := by
    intro s entry id
    simp only [lookup, tally, takeContainer_fst, upsertContainer_containers, takeContainer_count]
    by_cases equal : entry.id = id
    · simp only [if_pos equal]
      cases s.1.pods[entry.podSandboxId]? <;> rfl
    · simp only [if_neg equal]
  have whole := takeContainers_lookup lookup each c reply id
  have counted := congrArg Prod.snd (whole.trans
    (Container.takeOver_follows.foldl_tally (fun _ _ => rfl) c.containers[id]? 0
      (reply.entriesFor c.pods id)))
  exact counted.trans (Nat.zero_add _)

theorem refreshContainers_reports {c : Cache} (valid : c.WellFormed)
    (reply : Cri.ListContainersResponse) :
    (c.refreshContainers reply).1.Reports c.containers (c.refreshContainers reply).2.containers
      (c.containerStates reply) := by
  have refreshed := refreshContainers_refreshed valid reply
  refine ⟨refreshed.addedOrder, refreshed.added, refreshed.removedOrder, refreshed.removed,
    ?_, ?_⟩
  · exact pairwise_le_mergeSort (fun id => id) _
  · intro id
    exact (Refresh.count_sorted_updated _ id).trans (c.takeContainers_count reply id)

/-- The states of a container that stays go from the one before the refresh to the one after
    it. -/
theorem containerStates_ends {c : Cache} (valid : c.WellFormed)
    (reply : Cri.ListContainersResponse) (id : String) (old new : Container)
    (known : c.containers[id]? = some old)
    (kept : (c.refreshContainers reply).2.containers[id]? = some new) :
    (c.containerStates reply id).head? = some old.state ∧
      (c.containerStates reply id).getLast? = some new.state := by
  have moved := (refreshContainers_refreshed valid reply).known id old new known kept
  rw [containerStates, known]
  refine ⟨rfl, ?_⟩
  rw [Option.map_some, statesFrom, List.getLast?_cons, List.getLast?_map, moved]

theorem containerStates_settle {c : Cache} (valid : c.WellFormed)
    {reply : Cri.ListContainersResponse} (distinct : (reply.containers.map (·.id)).Nodup)
    (kept : (reply.containers.map (·.id)).Disjoint (c.refreshContainers reply).1.removed) :
    Refresh.Settles c.containers (c.refreshContainers reply).2.containers
      (c.containerStates reply) := by
  have reports := refreshContainers_reports valid reply
  apply Refresh.settles_of_single
  · intro id
    exact Nat.le_trans (List.length_filterMap_le _ _) (length_filter_key_le_one distinct id)
  · intro id present named
    by_contra gone
    obtain ⟨entry, member⟩ := List.exists_mem_of_ne_nil _ named
    obtain ⟨listed, own⟩ := Cri.ListContainersResponse.mem_of_mem_entriesFor member
    have ids : id ∈ reply.containers.map (·.id) := List.mem_map.2 ⟨entry.1, listed, own⟩
    exact kept ids ((reports.removed id).2 ⟨present, gone⟩)

/-! ### Every refresh -/

/-- What the refreshes report wherever a run leads, unless the machine stops before there is a
    report. The added and the removed ids are those by which the tables differ, each once, and
    an id is updated as often as its state changes from entry to entry. So a report is the
    difference between the tables exactly if the states settle, which they do if the list names
    no id twice and none that is removed. -/
theorem run_refreshes_report (steps : List Step) :
    let c := run ∅ steps
    (∀ reply : Cri.ListPodSandboxResponse,
      c.Halts reply ∧ (c.refreshPods reply).1 = .stop ∨
      ∃ report, (c.refreshPods reply).1 = .ok report ∧
        let after := (c.refreshPods reply).2
        report.Reports c.pods after.pods (c.podStates reply) ∧
        (report.IsDifference Pod.state c.pods after.pods ↔
          Refresh.Settles c.pods after.pods (c.podStates reply)) ∧
        ((reply.items.map (·.id)).Nodup → report.IsDifference Pod.state c.pods after.pods)) ∧
    (∀ reply : Cri.ListContainersResponse,
      let report := (c.refreshContainers reply).1
      let after := (c.refreshContainers reply).2
      report.Reports c.containers after.containers (c.containerStates reply) ∧
      (report.IsDifference Container.state c.containers after.containers ↔
        Refresh.Settles c.containers after.containers (c.containerStates reply)) ∧
      ((reply.containers.map (·.id)).Nodup →
        (reply.containers.map (·.id)).Disjoint report.removed →
        report.IsDifference Container.state c.containers after.containers)) := by
  intro c
  have valid : c.WellFormed := WellFormed.run steps
  constructor
  · intro reply
    by_cases halts : c.Halts reply
    · exact .inl ⟨halts, (refreshPods_of_halts halts).1⟩
    · have reports := reconcilePods_reports valid halts
      have exactly := reports.isDifference_iff (c.podStates_ends reply)
      rw [refreshPods_of_not_halts halts]
      refine .inr ⟨_, rfl, reports, exactly, ?_⟩
      intro distinct
      exact exactly.2 (podStates_settle halts distinct)
  · intro reply report after
    have reports := refreshContainers_reports valid reply
    have exactly := reports.isDifference_iff (containerStates_ends valid reply)
    refine ⟨reports, exactly, ?_⟩
    intro distinct kept
    exact exactly.2 (containerStates_settle valid distinct kept)

/-- A list that names a pod twice, in another state and in the state that it was in. -/
def replyTwice : Cri.ListPodSandboxResponse :=
  { items := [{ id := "p", state := .notReady }, { id := "p", state := .ready }] }

/-- Not every report is the difference between the tables. -/
theorem not_forall_isDifference :
    ¬ ∀ (steps : List Step) (reply : Cri.ListPodSandboxResponse) (report : Refresh),
      ((run ∅ steps).refreshPods reply).1 = .ok report →
      report.IsDifference Pod.state (run ∅ steps).pods
        ((run ∅ steps).refreshPods reply).2.pods := by
  intro all
  have goes : ¬ (run ∅ runOfPod).Halts replyTwice := by
    apply not_halts_of_forall
    simp [replyTwice, Pod.Stops]
  have difference := all runOfPod replyTwice _ (by rw [refreshPods_of_not_halts goes])
  have counted := (reconcilePods_reports (WellFormed.run runOfPod) goes).updated "p"
  have twice : changesAlong ((run ∅ runOfPod).podStates replyTwice "p") = 2 := by rfl
  have once := List.nodup_iff_count_le_one.1 difference.updatedOnce "p"
  omega

end Cache

end PodCache
