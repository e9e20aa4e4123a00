import PodCache.Proofs.PodRefresh

/-!
# Events at which the machine stops

An event is accepted or rejected, unless the machine stops at it. It stops at an event that
runs or lists a pod whose resource model makes it stop, and at no other. A replay takes its
events in order up to the first such event, and ends there without a result.
-/

namespace PodCache.Replay

open Cache

/-- The machine stops at the event when it is applied to the cache. -/
def Event.Stops (c : Cache) : Event → Prop
  | runPodSandbox _ request => ∃ config, request.config = some config ∧
      config.metadata.isSome ∧ Pod.Stops config.annotations
  | listPodSandbox reply => c.Halts reply
  | _ => False

theorem Event.apply_eq_stop_iff (event : Event) (c : Cache) :
    (event.apply c).1 = .stop ↔ event.Stops c := by
  cases event with
  | runPodSandbox id request =>
    rw [Stops, ← c.runPod_eq_stop_iff id]
    simp only [apply]
    cases (c.runPod id request).1 <;> simp
  | listPodSandbox reply =>
    simp only [apply, Stops]
    by_cases halts : c.Halts reply
    · simp [(refreshPods_of_halts halts).1, halts]
    · simp [refreshPods_of_not_halts halts, halts]
  | createContainer request response error =>
    rw [apply_createContainer]
    cases (c.createContainer request).1 <;> simp [Stops]
  | removePodSandbox | listContainers | removeContainer => simp [apply, Stops]

/-- Where the machine does not stop, there is an answer. -/
theorem Event.apply_eq_ok_or_error {event : Event} {c : Cache} (goes : ¬ event.Stops c) :
    (event.apply c).1 = .ok () ∨ ∃ cause, (event.apply c).1 = .error cause := by
  cases answer : (event.apply c).1 with
  | ok _ => exact .inl rfl
  | error cause => exact .inr ⟨cause, rfl⟩
  | stop => exact absurd ((event.apply_eq_stop_iff c).1 answer) goes

/-- The machine stops at none of the events, applied one after the other from the cache. So
    each of them is accepted or rejected. -/
def Decides : Cache → List Event → Prop
  | _, [] => True
  | c, event :: events => ¬ event.Stops c ∧ Decides (event.apply c).2 events

/-- The event at the position is the first at which the machine stops. -/
structure StopsAt (c : Cache) (events : List Event) (i : Nat) : Prop where
  decides : Decides c (events.take i)
  stops : ∃ event, events[i]? = some event ∧
    event.Stops (c.run ((events.take i).map .replay))

/-- Either all events can be decided, or there is a first one at which the machine stops. -/
theorem decides_or_stopsAt (c : Cache) (events : List Event) :
    Decides c events ∨ ∃ i, StopsAt c events i := by
  induction events generalizing c with
  | nil => exact .inl trivial
  | cons event events ih =>
    by_cases stops : event.Stops c
    · exact .inr ⟨0, trivial, event, rfl, stops⟩
    · rcases ih (event.apply c).2 with decides | ⟨i, decides, next, at_i, stopped⟩
      · exact .inl ⟨stops, decides⟩
      · exact .inr ⟨i + 1, ⟨stops, decides⟩, next, at_i, stopped⟩

/-! ### Replays that stop -/

/-- A replay takes up the later events where the earlier ones have come to their end. -/
theorem applyFrom_append (strict : Bool) (index : Nat) (stats : Stats) (c : Cache)
    (before after : List Event) :
    applyFrom strict index stats c (before ++ after) =
      match applyFrom strict index stats c before with
      | (.ok stats, c) => applyFrom strict (index + before.length) stats c after
      | (answer, c) => (answer, c) := by
  induction before generalizing index stats c with
  | nil => rfl
  | cons event before ih =>
    rw [List.cons_append, applyFrom, applyFrom, List.length_cons, ← Nat.add_assoc,
      Nat.add_right_comm]
    cases event.apply c with
    | mk answer c' =>
      cases answer with
      | ok _ => exact ih (index + 1) _ c'
      | error cause =>
        cases strict with
        | true => rfl
        | false => exact ih (index + 1) _ c'
      | stop => rfl

theorem applyFrom_of_stops (strict : Bool) (index : Nat) (stats : Stats) {c : Cache}
    {event : Event} (stops : event.Stops c) (events : List Event) :
    applyFrom strict index stats c (event :: events) = (.stop, (event.apply c).2) := by
  have answer := (event.apply_eq_stop_iff c).2 stops
  rw [applyFrom]
  cases outcome : event.apply c with
  | mk given after =>
    rw [outcome] at answer
    cases answer
    rfl

/-- At the first event at which the machine stops a replay ends, if it comes so far. -/
theorem applyAll_of_stopsAt (strict : Bool) {c : Cache} {events : List Event} {i : Nat}
    (stopped : StopsAt c events i) {stats : Stats}
    (before : applyAll strict c (events.take i) =
      (.ok stats, c.run ((events.take i).map .replay))) :
    applyAll strict c events = (.stop, c.run ((events.take (i + 1)).map .replay)) := by
  obtain ⟨event, at_i, stops⟩ := stopped.stops
  obtain ⟨early, rfl⟩ := List.getElem?_eq_some_iff.1 at_i
  have cut : events = events.take i ++ events[i] :: events.drop (i + 1) := by
    rw [← List.drop_eq_getElem_cons early, List.take_append_drop]
  have upTo : events.take (i + 1) = events.take i ++ [events[i]] :=
    (List.take_concat_get' events i early).symm
  rw [applyAll] at before ⊢
  conv_lhs => rw [cut]
  rw [applyFrom_append, before, upTo, List.map_append, run_append]
  exact applyFrom_of_stops _ _ _ stops _

/-- And it ends before that event, if it is not to go on so far. -/
theorem applyAll_of_error_take {strict : Bool} {c after : Cache} {events : List Event} {i : Nat}
    {r : Rejection} (before : applyAll strict c (events.take i) = (.error r, after)) :
    applyAll strict c events = (.error r, after) := by
  rw [applyAll] at before ⊢
  conv_lhs => rw [← List.take_append_drop i events]
  rw [applyFrom_append, before]

end PodCache.Replay
