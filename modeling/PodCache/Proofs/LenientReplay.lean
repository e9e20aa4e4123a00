import PodCache.Proofs.Mask
import PodCache.Proofs.PendingCreation
import PodCache.Proofs.StoppedReplay

/-!
# Lenient replays

A lenient replay passes over the events that the cache rejects. It comes to the same as a
replay of the other events alone, of which none is rejected. The two replays differ in the
provisional ids that they give out, since a rejected creation has used up one. But an id
that was given out is gone when its event has been applied, so the number of the next one
makes no difference to what an event does. If the machine stops at an event, so does the
replay, and there is nothing to compare.
-/

namespace PodCache

namespace Cache

/-! ### The number of the next provisional id -/

/-- The cache with another number for the next provisional id. -/
def renumber (m : Nat) (c : Cache) : Cache := { c with nextProvisional := m }

@[simp] theorem renumber_renumber (m n : Nat) (c : Cache) :
    (c.renumber m).renumber n = c.renumber n := rfl

@[simp] theorem renumber_nextProvisional (c : Cache) : c.renumber c.nextProvisional = c := rfl

theorem renumber_eq_mask (m : Nat) (c : Cache) :
    c.renumber m = c.mask (fun p => p) fun _ => m := by
  have pods := c.mask_pods_id fun _ => m
  exact congrArg (fun pods => { c with pods, nextProvisional := m }) pods.symm

/-- The provisional id with the number is in no use. -/
def Unused (c : Cache) (m : Nat) : Prop :=
  provisionalId m ∉ c.containers ∧ provisionalId m ∉ c.pending

end Cache

/-! ### Creations -/

/-- Under another id the same container is built. -/
theorem Container.ofCreateRequest_of_ok {id : String} {request : Cri.CreateContainerRequest}
    {pod : Pod} {container : Container} (built : ofCreateRequest id request pod = .ok container)
    (j : String) : ofCreateRequest j request pod = .ok { container with id := j } := by
  unfold ofCreateRequest at built ⊢
  split at built
  · cases built
  · split at built
    · cases built
    · cases built
      rfl

namespace Cache

/-- The cache in which a container waits for an answer under the provisional id with the
    number. -/
def awaiting (c : Cache) (container : Container) (m : Nat) : Cache :=
  { c with
    nextProvisional := m + 1
    containers := c.containers.insert (provisionalId m) { container with id := provisionalId m }
    pending := c.pending.insert (provisionalId m) c.refreshes }

/-- A creation that is accepted is accepted under any number, and adds the same container
    under the id with that number. -/
theorem createContainer_renumber_of_ok {c : Cache} {request : Cri.CreateContainerRequest}
    {id : String} (accepted : (c.createContainer request).1 = .ok id) :
    ∃ container : Container, ∀ m,
      (c.renumber m).createContainer request = (.ok (provisionalId m), c.awaiting container m) := by
  obtain ⟨_, pod, container, owner, built, _⟩ := createContainer_eq_ok accepted
  refine ⟨container, fun m => ?_⟩
  have again := Container.ofCreateRequest_of_ok built (provisionalId m)
  simp only [createContainer, renumber, owner, again, awaiting]

/-- And one that is rejected is rejected under any number. -/
theorem createContainer_renumber_of_error {c : Cache} {request : Cri.CreateContainerRequest}
    {cause : CacheError} (rejected : (c.createContainer request).1 = .error cause) (m : Nat) :
    ∃ e, ((c.renumber m).createContainer request).1 = .error e := by
  cases answer : ((c.renumber m).createContainer request).1 with
  | error e => exact ⟨e, rfl⟩
  | ok id =>
    obtain ⟨container, created⟩ := createContainer_renumber_of_ok answer
    have accepted := created c.nextProvisional
    rw [renumber_renumber, renumber_nextProvisional] at accepted
    rw [accepted] at rejected
    cases rejected

section Awaiting

variable {c : Cache} {m : Nat} (unused : c.Unused m) (container : Container)
include unused

theorem abortCreate_awaiting :
    ((c.awaiting container m).abortCreate (provisionalId m)).2 = c.renumber (m + 1) := by
  simp only [awaiting, abortCreate, Std.ExtTreeMap.getElem?_insert_self]
  rw [Table.erase_insert _ unused.1, Table.erase_insert _ unused.2]
  rfl

/-- Whether the answer is accepted, and what it leads to, does not depend on the number. -/
theorem assignId_awaiting {response : Cri.CreateContainerResponse}
    (unreserved : ¬ Reserved response.containerId) :
    (c.awaiting container m).assignId (provisionalId m) response =
      if response.containerId.isEmpty then
        (.error (.emptyContainerId (provisionalId m)), c.awaiting container m)
      else if c.containers.contains response.containerId then
        (.error (.containerIdInUse response.containerId), c.awaiting container m)
      else
        (.ok { container with id := response.containerId }, renumber (m + 1) { c with
          containers := c.containers.insert response.containerId
            { container with id := response.containerId } }) := by
  have other : provisionalId m ≠ response.containerId := by
    intro same
    exact unreserved (same ▸ reserved_provisionalId m)
  have taken : (c.awaiting container m).containers.contains response.containerId =
      c.containers.contains response.containerId := by
    rw [Bool.eq_iff_iff, ← Std.ExtTreeMap.mem_iff_contains, ← Std.ExtTreeMap.mem_iff_contains,
      awaiting, Table.mem_insert]
    exact or_iff_right other.symm
  have waits : (c.awaiting container m).pending.contains (provisionalId m) = true :=
    Std.ExtTreeMap.contains_insert_self
  have found : (c.awaiting container m).containers[provisionalId m]? =
      some { container with id := provisionalId m } :=
    Std.ExtTreeMap.getElem?_insert_self
  simp only [assignId, taken, waits, found, Bool.not_true, Bool.false_eq_true, if_false]
  simp only [awaiting, Table.erase_insert _ unused.1, Table.erase_insert _ unused.2, renumber]

end Awaiting

end Cache

namespace Replay

open Cache

/-- If the event is a creation, it is on record how the runtime answered. -/
def Event.isAnswered : Event → Bool
  | createContainer _ response error => response.isSome || error.isSome
  | _ => true

/-- What the answer on record makes of a creation does not depend on the number of its
    provisional id. -/
theorem settleCreate_awaiting {c : Cache} (container : Container)
    {response : Option Cri.CreateContainerResponse} {error : Option String}
    (answered : response.isSome || error.isSome)
    (unreserved : ∀ r, response = some r → ¬ Reserved r.containerId) :
    ∃ (accepted : Bool) (after : Cache), ∀ m, c.Unused m →
      let settled := settleCreate (c.awaiting container m) (provisionalId m) response error
      settled.1.isOk = accepted ∧ settled.2 = after.renumber (m + 1) := by
  cases error with
  | some error => exact ⟨true, c, fun m unused => ⟨rfl, abortCreate_awaiting unused container⟩⟩
  | none =>
    cases response with
    | none => cases answered
    | some response =>
      have named := unreserved response rfl
      let moved : Container := { container with id := response.containerId }
      by_cases refused :
          response.containerId.isEmpty = true ∨ c.containers.contains response.containerId = true
      · refine ⟨false, c, fun m unused => ?_⟩
        have rejected : ∃ e, (c.awaiting container m).assignId (provisionalId m) response =
            (.error e, c.awaiting container m) := by
          rw [assignId_awaiting unused container named]
          split
          · exact ⟨_, rfl⟩
          · rename_i full
            rw [if_pos (refused.resolve_left full)]
            exact ⟨_, rfl⟩
        obtain ⟨e, rejected⟩ := rejected
        rw [settleCreate_response, rejected]
        exact ⟨rfl, abortCreate_awaiting unused container⟩
      · obtain ⟨full, free⟩ := not_or.1 refused
        let containers := c.containers.insert response.containerId moved
        refine ⟨true, { c with containers }, fun m unused => ?_⟩
        have accepted := assignId_awaiting unused container named
        rw [if_neg full, if_neg free] at accepted
        rw [settleCreate_response, accepted]
        exact ⟨rfl, rfl⟩

/-! ### Events -/

/-- Whether an event is accepted, and what it leads to, does not depend on the number of the
    next provisional id, as long as that id is in no use. -/
theorem Event.apply_renumber (c : Cache) {event : Event} (answered : event.isAnswered)
    (unreserved : ∀ id ∈ (Step.replay event).runtimeIds, ¬ Reserved id) :
    ∃ (accepted : Bool) (after : Cache), ∀ m, c.Unused m →
      (event.apply (c.renumber m)).1.isOk = accepted ∧
        ∃ n, (event.apply (c.renumber m)).2 = after.renumber n := by
  by_cases creation : ∃ request response error, event = createContainer request response error
  · obtain ⟨request, response, error, rfl⟩ := creation
    cases answer : (c.createContainer request).1 with
    | error e =>
      refine ⟨false, c, fun m _ => ?_⟩
      obtain ⟨cause, rejected⟩ := createContainer_renumber_of_error answer m
      rw [apply_createContainer, rejected, createContainer_of_error rejected]
      exact ⟨rfl, m, rfl⟩
    | ok id =>
      obtain ⟨container, created⟩ := createContainer_renumber_of_ok answer
      have named : ∀ r, response = some r → ¬ Reserved r.containerId := by
        rintro r rfl
        exact unreserved _ (by simp [Step.runtimeIds])
      obtain ⟨accepted, after, settled⟩ := settleCreate_awaiting container answered named
      refine ⟨accepted, after, fun m unused => ?_⟩
      rw [apply_createContainer, created]
      dsimp only
      rw [Outcome.isOk_ofExcept]
      exact ⟨(settled m unused).1, m + 1, (settled m unused).2⟩
  · refine ⟨(event.apply c).1.isOk, (event.apply c).2, fun m _ => ?_⟩
    have same := event.apply_mask Pod.Mask.refl (fun _ => m) c (fun is => absurd is creation)
    rw [renumber_eq_mask, same]
    exact ⟨rfl, m, (renumber_eq_mask m _).symm⟩

/-- The events that are accepted when all are applied in order. -/
def accepted (c : Cache) : List Event → List Event
  | [] => []
  | event :: events =>
    match event.apply c with
    | (.ok _, c) => event :: accepted c events
    | (_, c) => accepted c events

theorem accepted_cons (c : Cache) (event : Event) (events : List Event) :
    accepted c (event :: events) =
      if (event.apply c).1.isOk then event :: accepted (event.apply c).2 events
      else accepted (event.apply c).2 events := by
  rw [accepted]
  cases event.apply c with
  | mk answer after => cases answer <;> rfl

theorem accepted_sublist (c : Cache) (events : List Event) :
    (accepted c events).Sublist events := by
  induction events generalizing c with
  | nil => exact .slnil
  | cons event events ih =>
    rw [accepted_cons]
    split
    · exact (ih _).cons_cons event
    · exact (ih _).cons event

/-- A lenient replay applies all events that can be decided, and counts the accepted ones and
    the others. -/
theorem applyFrom_lenient (index : Nat) (stats : Stats) {c : Cache} {events : List Event}
    (decides : Decides c events) :
    applyFrom false index stats c events =
      (.ok { applied := stats.applied + (accepted c events).length,
             failed := stats.failed + (events.length - (accepted c events).length) },
        c.run (events.map .replay)) := by
  induction events generalizing index stats c with
  | nil => rfl
  | cons event events ih =>
    obtain ⟨goes, decides⟩ := decides
    have fewer := (accepted_sublist (event.apply c).2 events).length_le
    rw [accepted_cons, List.map_cons, run_cons]
    unfold applyFrom
    rcases Event.apply_eq_ok_or_error goes with answer | ⟨cause, answer⟩
    · have outcome : event.apply c = (.ok (), (event.apply c).2) := Prod.ext answer rfl
      rw [outcome]
      simp only [ih _ _ decides, Step.apply, Outcome.isOk, if_true, List.length_cons]
      congr 3 <;> omega
    · have outcome : event.apply c = (.error cause, (event.apply c).2) := Prod.ext answer rfl
      rw [outcome]
      simp only [ih _ _ decides, Step.apply, Outcome.isOk, Bool.false_eq_true, if_false,
        List.length_cons]
      congr 3
      omega

/-- Where all events are accepted, being strict makes no difference. -/
theorem applyFrom_of_accepted (strict : Bool) (index : Nat) (stats : Stats) {c : Cache}
    {events : List Event} (all : accepted c events = events) :
    applyFrom strict index stats c events =
      (.ok { stats with applied := stats.applied + events.length },
        c.run (events.map .replay)) := by
  induction events generalizing index stats c with
  | nil => rfl
  | cons event events ih =>
    rw [accepted_cons] at all
    have fewer := (accepted_sublist (event.apply c).2 events).length_le
    split at all
    · rename_i taken
      have rest := (List.cons.inj all).2
      unfold applyFrom
      rw [List.map_cons, run_cons]
      cases outcome : event.apply c with
      | mk answer after =>
        rw [outcome] at taken rest
        cases answer with
        | ok _ =>
          simp only [ih _ _ rest, Step.apply, outcome, List.length_cons]
          congr 3
          omega
        | error e => cases taken
        | stop => cases taken
    · -- A list cannot be longer than itself.
      rw [all, List.length_cons] at fewer
      omega

/-! ### The replay of the accepted events -/

theorem Event.idsFrom_apply {c : Cache} (valid : c.IdsFrom fun id => ¬ Reserved id) {event : Event}
    (unreserved : ∀ id ∈ (Step.replay event).runtimeIds, ¬ Reserved id) :
    (event.apply c).2.IdsFrom fun id => ¬ Reserved id :=
  (event.edits unreserved (fun _ _ _ => trivial) c).preserves IdsFrom.edit valid

/-- The events that one replay accepts, another one that gives out provisional ids from a
    different number on accepts as well, and comes to the same cache but for that number. -/
theorem accepted_renumber {c : Cache} {m : Nat} (valid : c.IdsFrom fun id => ¬ Reserved id)
    (valid' : (c.renumber m).IdsFrom fun id => ¬ Reserved id) {events : List Event}
    (decides : Decides c events) (answered : ∀ event ∈ events, event.isAnswered)
    (unreserved : Unreserved (events.map .replay)) :
    accepted (c.renumber m) (accepted c events) = accepted c events ∧
      ∃ n, (c.renumber m).run ((accepted c events).map .replay) =
        (c.run (events.map .replay)).renumber n := by
  induction events generalizing c m with
  | nil => exact ⟨rfl, m, rfl⟩
  | cons event events ih =>
    obtain ⟨goes, decides⟩ := decides
    have named : ∀ id ∈ (Step.replay event).runtimeIds, ¬ Reserved id :=
      unreserved _ List.mem_cons_self
    have later := fun e member => answered e (List.mem_cons_of_mem event member)
    have laterNamed : Unreserved (events.map .replay) :=
      fun step member => unreserved step (List.mem_cons_of_mem _ member)
    have next := Event.idsFrom_apply valid named
    have next' := Event.idsFrom_apply valid' named
    rw [accepted_cons, List.map_cons, run_cons, Step.apply]
    by_cases taken : (event.apply c).1.isOk = true
    · rw [if_pos taken]
      obtain ⟨_, after, outcome⟩ := Event.apply_renumber c (answered event List.mem_cons_self) named
      obtain ⟨same, n, first⟩ := outcome c.nextProvisional valid.next_free
      obtain ⟨same', n', second⟩ := outcome m valid'.next_free
      rw [renumber_nextProvisional] at same first
      -- The caches after the event differ in the number again, and in nothing else.
      have step : (event.apply (c.renumber m)).2 = (event.apply c).2.renumber n' := by
        rw [first, second, renumber_renumber]
      rw [step] at next'
      obtain ⟨kept, k, runs⟩ := ih next next' decides later laterNamed
      rw [accepted_cons, same', ← same, if_pos taken, List.map_cons, run_cons, Step.apply, step]
      exact ⟨congrArg _ kept, k, runs⟩
    · rw [if_neg taken]
      have rejected : ∃ cause, (event.apply c).1 = .error cause := by
        apply (Event.apply_eq_ok_or_error goes).resolve_left
        intro answer
        simp [answer, Outcome.isOk] at taken
      obtain ⟨free, settled⟩ := valid.next_free
      obtain ⟨n, _, unchanged⟩ := Event.apply_of_failed free settled (.inl rejected)
      have same : (event.apply c).2.renumber m = c.renumber m := by
        rw [unchanged]
        rfl
      rw [← same] at valid' ⊢
      exact ih next valid' decides later laterNamed

/-- If for every creation it is on record how the runtime answered, and the runtime keeps off
    the ids that start like provisional ones, then a lenient replay comes to what the run of
    all events comes to, unless the machine stops at one of them. The accepted events alone
    come to the same pods, containers and summary. None of them is rejected, so a strict
    replay of them counts as many. If the machine does stop, so does the lenient replay. -/
theorem applyAll_accepted (events : List Event) (answered : ∀ event ∈ events, event.isAnswered)
    (unreserved : Unreserved (events.map .replay)) :
    let kept := accepted ∅ events
    let lenient := applyAll false ∅ events
    (Decides ∅ events ∧ kept.Sublist events ∧
      lenient = (.ok { applied := kept.length, failed := events.length - kept.length },
        Cache.run ∅ (events.map .replay)) ∧
      ∀ strict : Bool,
        let again := applyAll strict ∅ kept
        again = (.ok { applied := kept.length, failed := 0 },
          Cache.run ∅ (kept.map .replay)) ∧
        again.2.pods = lenient.2.pods ∧ again.2.containers = lenient.2.containers ∧
        (summarize again.2).1 = (summarize lenient.2).1) ∨
    ∃ i, StopsAt ∅ events i ∧
      lenient = (.stop, Cache.run ∅ ((events.take (i + 1)).map .replay)) := by
  intro kept lenient
  rcases decides_or_stopsAt ∅ events with decides | ⟨i, stopped⟩
  · left
    have all : lenient = _ := applyFrom_lenient 0 {} decides
    obtain ⟨same, n, runs⟩ :=
      accepted_renumber (m := 0) IdsFrom.empty IdsFrom.empty decides answered unreserved
    have renumbered : (∅ : Cache).renumber 0 = ∅ := rfl
    rw [renumbered] at same runs
    refine ⟨decides, accepted_sublist ∅ events, ?_, fun strict => ?_⟩
    · rw [all]
      simp [kept]
    · have again : applyAll strict ∅ kept = _ := applyFrom_of_accepted strict 0 {} same
      rw [again, all]
      refine ⟨by simp [kept], ?_⟩
      rw [runs]
      exact ⟨rfl, rfl, rfl⟩
  · right
    exact ⟨i, stopped, applyAll_of_stopsAt false stopped (applyFrom_lenient 0 {} stopped.decides)⟩

/-- Events of which the third is rejected: the runtime gives the id of the first container to
    a second one. -/
def eventsWithRejection : List Event :=
  [.runPodSandbox "p" (.named "web"), createC1, createC1,
    .createContainer (.named "p" "log") (some { containerId := "c2" }) none]

/-- Without it, a strict replay counts three events and comes to the same containers. -/
theorem applyAll_accepted_rejection :
    (applyAll false ∅ eventsWithRejection).1 = .ok { applied := 3, failed := 1 } ∧
    (applyAll true ∅ (accepted ∅ eventsWithRejection)).1 = .ok { applied := 3, failed := 0 } ∧
    (applyAll true ∅ (accepted ∅ eventsWithRejection)).2.containers =
      (applyAll false ∅ eventsWithRejection).2.containers := by
  have answered : ∀ event ∈ eventsWithRejection, event.isAnswered := by decide
  have unreserved : Unreserved (eventsWithRejection.map .replay) := by
    simp [Unreserved, Reserved, eventsWithRejection, createC1, Step.runtimeIds,
      provisionalPrefix]
    decide
  have count : (accepted ∅ eventsWithRejection).length = 3 := by rfl
  rcases applyAll_accepted eventsWithRejection answered unreserved with
    ⟨-, -, lenient, again⟩ | ⟨i, -, stopped⟩
  · obtain ⟨strict, _, containers, _⟩ := again true
    rw [count] at lenient strict
    exact ⟨congrArg Prod.fst lenient, congrArg Prod.fst strict, containers⟩
  · have ended : (applyAll false ∅ eventsWithRejection).1 = .ok { applied := 3, failed := 1 } := by
      rfl
    rw [stopped] at ended
    cases ended

/-- An event at which the machine stops. -/
def Event.tiny : Event := .runPodSandbox "p" .tiny

/-- A replay of that event alone ends there. -/
theorem applyAll_tiny (strict : Bool) : applyAll strict ∅ [.tiny] = (.stop, ∅) := by
  have stops : Event.tiny.Stops ∅ := ⟨_, rfl, rfl, Pod.stops_tiny⟩
  have unchanged : (Event.tiny.apply ∅).2 = ∅ := by
    simp [Event.tiny, Event.apply, runPod, Pod.ofRunRequest_tiny]
  rw [applyAll, applyFrom_of_stops _ _ _ stops, unchanged]

/-- Not every lenient replay comes to the same as one of the accepted events: it need not come
    to an end. -/
theorem not_forall_applyAll_accepted :
    ¬ ∀ events : List Event, (∀ event ∈ events, event.isAnswered) →
      Unreserved (events.map .replay) →
      let again := applyAll true ∅ (accepted ∅ events)
      let lenient := applyAll false ∅ events
      ∃ stats : Stats, lenient.1 = .ok stats ∧ again.1 = .ok { applied := stats.applied } ∧
        again.2.pods = lenient.2.pods ∧ again.2.containers = lenient.2.containers ∧
        (summarize again.2).1 = (summarize lenient.2).1 := by
  intro ends
  have unreserved : Unreserved ([Event.tiny].map .replay) := by
    simp [Unreserved, Event.tiny, Step.runtimeIds]
  obtain ⟨stats, ended, -⟩ := ends [.tiny] (by simp [Event.tiny, Event.isAnswered]) unreserved
  rw [applyAll_tiny] at ended
  cases ended

end Replay

end PodCache
