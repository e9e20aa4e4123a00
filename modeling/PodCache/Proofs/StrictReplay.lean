import PodCache.Proofs.LenientReplay
import PodCache.Replay.Run

/-!
# Strict replays

A strict replay does what a lenient one does until an event is rejected, and ends there. So
it succeeds just where the lenient one rejects nothing; else it names the first event that
the lenient one rejects, and leaves the cache that the lenient one has after that event. A
rejected event ends the replay of a file as well, before anything is written. Both replays
end where the machine stops, the strict one if it comes so far.
-/

namespace PodCache.Replay

open Cache

/-! ### Rejections -/

/-- The rejection is that of the event at its index, by the cache that the events before it
    lead to. -/
def IsRejection (c : Cache) (events : List Event) (r : Rejection) : Prop :=
  ∃ event, events[r.index]? = some event ∧ event.name = r.eventName ∧
    (event.apply (c.run ((events.take r.index).map .replay))).1 = .error r.cause

/-- The rejections of all events that are rejected, from the first to the last. -/
structure AreRejections (c : Cache) (events : List Event) (rejections : List Rejection) :
    Prop where
  order : rejections.Pairwise (·.index < ·.index)
  mem : ∀ r, r ∈ rejections ↔ IsRejection c events r

/-- The rejection is that of the first event which is rejected. -/
structure IsFirstRejection (c : Cache) (events : List Event) (r : Rejection) : Prop where
  rejects : IsRejection c events r
  least : ∀ r', IsRejection c events r' → r.index ≤ r'.index

theorem AreRejections.isFirst {c : Cache} {events : List Event} {r : Rejection}
    {rest : List Rejection} (rejections : AreRejections c events (r :: rest)) :
    IsFirstRejection c events r := by
  refine ⟨(rejections.mem r).1 List.mem_cons_self, fun r' rejects => ?_⟩
  rcases List.mem_cons.1 ((rejections.mem r').2 rejects) with rfl | later
  · exact Nat.le_refl _
  · exact Nat.le_of_lt (List.rel_of_pairwise_cons rejections.order later)

/-- The rejections of the events, the first of which is at position `index`. -/
def rejectionsFrom (index : Nat) (c : Cache) : List Event → List Rejection
  | [] => []
  | event :: events =>
    match event.apply c with
    | (.error cause, c) =>
      { index, eventName := event.name, cause } :: rejectionsFrom (index + 1) c events
    | (_, c) => rejectionsFrom (index + 1) c events

theorem rejectionsFrom_cons_of_ok (index : Nat) {c : Cache} {event : Event}
    (taken : (event.apply c).1 = .ok ()) (events : List Event) :
    rejectionsFrom index c (event :: events) =
      rejectionsFrom (index + 1) (event.apply c).2 events := by
  rw [rejectionsFrom]
  cases outcome : event.apply c with
  | mk answer after =>
    rw [outcome] at taken
    cases taken
    rfl

theorem rejectionsFrom_cons_of_error (index : Nat) {c : Cache} {event : Event}
    {cause : CacheError} (rejected : (event.apply c).1 = .error cause) (events : List Event) :
    rejectionsFrom index c (event :: events) =
      { index, eventName := event.name, cause } ::
        rejectionsFrom (index + 1) (event.apply c).2 events := by
  rw [rejectionsFrom]
  cases outcome : event.apply c with
  | mk answer after =>
    rw [outcome] at rejected
    cases rejected
    rfl

theorem isRejection_zero_iff {c : Cache} {event : Event} {events : List Event} {name : String}
    {cause : CacheError} :
    IsRejection c (event :: events) { index := 0, eventName := name, cause } ↔
      event.name = name ∧ (event.apply c).1 = .error cause := by
  simp [IsRejection]

theorem isRejection_succ_iff {c : Cache} {event : Event} {events : List Event} {i : Nat}
    {name : String} {cause : CacheError} :
    IsRejection c (event :: events) { index := i + 1, eventName := name, cause } ↔
      IsRejection (event.apply c).2 events { index := i, eventName := name, cause } :=
  Iff.rfl

/-- The list holds just the rejections, each with its position. -/
theorem mem_rejectionsFrom_iff {index : Nat} {c : Cache} {events : List Event}
    (decides : Decides c events) {r : Rejection} :
    r ∈ rejectionsFrom index c events ↔
      ∃ i, r.index = index + i ∧ IsRejection c events { r with index := i } := by
  induction events generalizing index c with
  | nil => simp [rejectionsFrom, IsRejection]
  | cons event events ih =>
    obtain ⟨goes, decides⟩ := decides
    -- The first event is rejected, or the rejection is that of a later one.
    have later : (∃ i, r.index = index + i ∧ IsRejection c (event :: events) { r with index := i }) ↔
        (r.index = index ∧ event.name = r.eventName ∧ (event.apply c).1 = .error r.cause) ∨
          r ∈ rejectionsFrom (index + 1) (event.apply c).2 events := by
      rw [ih decides]
      constructor
      · rintro ⟨i, at_i, rejects⟩
        cases i with
        | zero => exact .inl ⟨at_i, isRejection_zero_iff.1 rejects⟩
        | succ i => exact .inr ⟨i, by omega, isRejection_succ_iff.1 rejects⟩
      · rintro (⟨first, rejects⟩ | ⟨i, at_i, rejects⟩)
        · exact ⟨0, first, isRejection_zero_iff.2 rejects⟩
        · exact ⟨i + 1, by omega, isRejection_succ_iff.2 rejects⟩
    rw [later]
    rcases Event.apply_eq_ok_or_error goes with taken | ⟨cause, rejected⟩
    · rw [rejectionsFrom_cons_of_ok index taken, taken]
      simp
    · rw [rejectionsFrom_cons_of_error index rejected, rejected, List.mem_cons]
      cases r
      simp [eq_comm]

theorem index_le_of_mem_rejectionsFrom {index : Nat} {c : Cache} {events : List Event}
    (decides : Decides c events) {r : Rejection} (member : r ∈ rejectionsFrom index c events) :
    index ≤ r.index := by
  obtain ⟨i, at_i, -⟩ := (mem_rejectionsFrom_iff decides).1 member
  omega

theorem rejectionsFrom_pairwise (index : Nat) {c : Cache} {events : List Event}
    (decides : Decides c events) :
    (rejectionsFrom index c events).Pairwise (·.index < ·.index) := by
  induction events generalizing index c with
  | nil => exact .nil
  | cons event events ih =>
    obtain ⟨goes, decides⟩ := decides
    rcases Event.apply_eq_ok_or_error goes with taken | ⟨cause, rejected⟩
    · rw [rejectionsFrom_cons_of_ok index taken]
      exact ih (index + 1) decides
    · rw [rejectionsFrom_cons_of_error index rejected]
      refine .cons (fun r member => ?_) (ih (index + 1) decides)
      exact index_le_of_mem_rejectionsFrom decides member

theorem areRejections {c : Cache} {events : List Event} (decides : Decides c events) :
    AreRejections c events (rejectionsFrom 0 c events) := by
  refine ⟨rejectionsFrom_pairwise 0 decides, fun r => (mem_rejectionsFrom_iff decides).trans ?_⟩
  simp

/-- An event that can be decided is accepted or rejected. -/
theorem length_accepted_add (index : Nat) {c : Cache} {events : List Event}
    (decides : Decides c events) :
    (accepted c events).length + (rejectionsFrom index c events).length = events.length := by
  induction events generalizing index c with
  | nil => rfl
  | cons event events ih =>
    obtain ⟨goes, decides⟩ := decides
    have rest := ih (index + 1) decides
    rcases Event.apply_eq_ok_or_error goes with taken | ⟨cause, rejected⟩
    · rw [rejectionsFrom_cons_of_ok index taken, accepted_cons, taken]
      simp only [Outcome.isOk, if_true, List.length_cons]
      omega
    · rw [rejectionsFrom_cons_of_error index rejected, accepted_cons, rejected]
      simp only [Outcome.isOk, Bool.false_eq_true, if_false, List.length_cons]
      omega

/-! ### The two ways to replay -/

/-- A strict replay ends with the first rejection, if there is one. -/
theorem applyFrom_strict (index : Nat) (stats : Stats) {c : Cache} {events : List Event}
    (decides : Decides c events) :
    applyFrom true index stats c events =
      match (rejectionsFrom index c events).head? with
      | some r => (.error r, c.run ((events.take (r.index + 1 - index)).map .replay))
      | none => applyFrom false index stats c events := by
  induction events generalizing index stats c with
  | nil => rfl
  | cons event events ih =>
    obtain ⟨goes, decides⟩ := decides
    rw [applyFrom, applyFrom]
    rcases Event.apply_eq_ok_or_error goes with taken | ⟨cause, rejected⟩
    · have outcome : event.apply c = (.ok (), (event.apply c).2) := Prod.ext taken rfl
      rw [rejectionsFrom_cons_of_ok index taken, outcome]
      refine (ih (index + 1) _ decides).trans ?_
      cases first : (rejectionsFrom (index + 1) (event.apply c).2 events).head? with
      | none => rfl
      | some r =>
        have later := index_le_of_mem_rejectionsFrom decides (List.mem_of_mem_head? first)
        have count : r.index + 1 - index = r.index + 1 - (index + 1) + 1 := by omega
        simp only [count, List.take_succ_cons, List.map_cons, run_cons]
        rfl
    · have outcome : event.apply c = (.error cause, (event.apply c).2) := Prod.ext rejected rfl
      rw [rejectionsFrom_cons_of_error index rejected, outcome]
      simp [Step.apply]

/-- How the two ways to replay the events compare, if each event is accepted or rejected. -/
structure Compares (c : Cache) (events : List Event) (stats : Stats)
    (rejected : List Rejection) : Prop where
  rejections : AreRejections c events rejected
  /-- A lenient replay ends with the cache that all events lead to. -/
  lenient : applyAll false c events = (.ok stats, c.run (events.map .replay))
  /-- It counts the rejected events as failed, and all others as applied. -/
  failed : stats.failed = rejected.length
  total : stats.applied + stats.failed = events.length
  succeeds : (∃ counted, (applyAll true c events).1 = .ok counted) ↔ stats.failed = 0
  same : stats.failed = 0 → applyAll true c events = applyAll false c events
  /-- A strict replay that fails ends with the cache of the lenient one after the event. -/
  fails : stats.failed ≠ 0 → ∃ r, IsFirstRejection c events r ∧
    applyAll true c events = (.error r, (applyAll false c (events.take (r.index + 1))).2)

theorem applyAll_lenient {c : Cache} {events : List Event} (decides : Decides c events) :
    applyAll false c events =
      (.ok { applied := (accepted c events).length, failed := (rejectionsFrom 0 c events).length },
        c.run (events.map .replay)) := by
  rw [applyAll, applyFrom_lenient 0 {} decides, ← length_accepted_add 0 decides,
    Nat.add_sub_cancel_left, Nat.zero_add, Nat.zero_add]

theorem Decides.take {c : Cache} {events : List Event} (decides : Decides c events) (n : Nat) :
    Decides c (events.take n) := by
  induction events generalizing c n with
  | nil => simp [Decides]
  | cons event events ih =>
    cases n with
    | zero => exact trivial
    | succ n => exact ⟨decides.1, ih decides.2 n⟩

/-- If nothing is rejected, a strict replay comes to the same as a lenient one, else it ends
    with the first rejection. -/
theorem applyAll_strict_cases {c : Cache} {events : List Event} (decides : Decides c events) :
    (rejectionsFrom 0 c events = [] ∧ applyAll true c events = applyAll false c events) ∨
      ∃ r rest, rejectionsFrom 0 c events = r :: rest ∧
        applyAll true c events =
          (.error r, (applyAll false c (events.take (r.index + 1))).2) := by
  have strict : applyAll true c events = _ := applyFrom_strict 0 {} decides
  cases found : rejectionsFrom 0 c events with
  | nil =>
    rw [found] at strict
    exact .inl ⟨rfl, strict⟩
  | cons r rest =>
    rw [found] at strict
    refine .inr ⟨r, rest, rfl, ?_⟩
    rw [strict, applyAll_lenient (decides.take (r.index + 1))]
    rfl

theorem compares {c : Cache} {events : List Event} (decides : Decides c events) :
    ∃ stats rejected, Compares c events stats rejected := by
  have all := areRejections decides
  have lenient := applyAll_lenient decides
  rcases applyAll_strict_cases decides with ⟨none, same⟩ | ⟨r, rest, some, fails⟩
  · have succeeds : ∃ counted, (applyAll true c events).1 = .ok counted :=
      ⟨_, congrArg Prod.fst (same.trans lenient)⟩
    have zero : (rejectionsFrom 0 c events).length = 0 := by rw [none, List.length_nil]
    exact ⟨_, _, all, lenient, rfl, length_accepted_add 0 decides, iff_of_true succeeds zero,
      fun _ => same, fun failed => absurd zero failed⟩
  · have unsuccessful : ¬ ∃ counted, (applyAll true c events).1 = .ok counted := by
      rintro ⟨counted, succeeds⟩
      rw [fails] at succeeds
      cases succeeds
    have positive : (rejectionsFrom 0 c events).length ≠ 0 := by
      rw [some, List.length_cons]
      exact Nat.succ_ne_zero _
    have first : IsFirstRejection c events r := (some ▸ all).isFirst
    exact ⟨_, _, all, lenient, rfl, length_accepted_add 0 decides,
      iff_of_false unsuccessful positive, fun zero => absurd zero positive,
      fun _ => ⟨r, first, fails⟩⟩

theorem applyAll_of_stops {c : Cache} {events : List Event} {i : Nat}
    (stopped : StopsAt c events i) :
    applyAll false c events = (.stop, c.run ((events.take (i + 1)).map .replay)) ∧
      applyAll true c events =
        if (applyAll true c (events.take i)).1.isOk then applyAll false c events
        else applyAll true c (events.take i) := by
  have before := applyAll_lenient stopped.decides
  have lenient := applyAll_of_stopsAt false stopped before
  refine ⟨lenient, ?_⟩
  rcases applyAll_strict_cases stopped.decides with ⟨-, same⟩ | ⟨r, rest, -, fails⟩
  · rw [applyAll_of_stopsAt true stopped (same.trans before), lenient, same.trans before]
    rfl
  · rw [applyAll_of_error_take fails, fails]
    rfl

/-! ### Replays of files -/

/-- An end to a replay that is neither a report nor due to the storage. -/
def Ends : Outcome ReplayError Report → Prop
  | .error (.rejected _) | .stop => True
  | _ => False

theorem replay_eq_rejected_iff {strict : Bool} {events : List Event} {r : Rejection} :
    replay strict events = .error (.rejected r) ↔ (applyAll strict ∅ events).1 = .error r := by
  unfold replay
  rcases applyAll strict ∅ events with ⟨answer, c⟩
  cases answer <;> simp

theorem replay_eq_stop_iff {strict : Bool} {events : List Event} :
    replay strict events = .stop ↔ (applyAll strict ∅ events).1 = .stop := by
  unfold replay
  rcases applyAll strict ∅ events with ⟨answer, c⟩
  cases answer <;> simp

/-- Such an end comes from the events of the document, as one that cannot be read has another. -/
theorem replayDocument_eq_iff {strict : Bool} {text : String}
    {answer : Outcome ReplayError Report} (ends : Ends answer) :
    replayDocument strict text = answer ↔
      ∃ events, readEvents? text = some events ∧ replay strict events = answer := by
  unfold replayDocument
  cases readEvents? text with
  | none =>
    refine iff_of_false ?_ (fun ⟨_, read, _⟩ => nomatch read)
    rintro rfl
    exact ends
  | some events => simp only [Option.some.injEq, exists_eq_left']

section Files

variable {σ : Type} (storage : Storage (StateM σ)) (input : String) (output : Option String)
  (strict : Bool)

theorem bind_apply {α β : Type} (x : StateM σ α) (f : α → StateM σ β) (s : σ) :
    ((x >>= f) s : β × σ) = f (x s : α × σ).1 (x s : α × σ).2 :=
  rfl

/-- What a run does with the text of its file. -/
def conclude (text : String) : StateM σ (Outcome ReplayError Report) :=
  match replayDocument strict text, output with
  | .ok report, some path => do
    if ← storage.write path report.toText then return .ok report
    else return .error (.unwritable path)
  | answer, _ => return answer

theorem run_eq (s : σ) :
    (run storage input output strict s : Outcome ReplayError Report × σ) =
      match (storage.readText input s : Option String × σ) with
      | (none, s) => (.error (.unreadable input), s)
      | (some text, s) => conclude storage output strict text s := by
  unfold run
  rw [bind_apply]
  cases (storage.readText input s : Option String × σ) with
  | mk text s => cases text <;> rfl

/-- An end of this kind is passed on at once, and nothing else comes to it. -/
theorem conclude_eq_iff {answer : Outcome ReplayError Report} (ends : Ends answer) (text : String)
    (s s' : σ) :
    (conclude storage output strict text s : Outcome ReplayError Report × σ) = (answer, s') ↔
      replayDocument strict text = answer ∧ s = s' := by
  unfold conclude
  cases replayed : replayDocument strict text with
  | ok report =>
    have other : Outcome.ok report ≠ answer := by
      rintro rfl
      exact ends
    refine iff_of_false ?_ (fun same => other same.1)
    cases output with
    | none => exact fun same => other (congrArg Prod.fst same)
    | some path =>
      dsimp only
      rw [bind_apply]
      cases (storage.write path report.toText s : Bool × σ).1 with
      | true => exact fun same => other (congrArg Prod.fst same)
      | false =>
        intro same
        obtain rfl : Outcome.error (.unwritable path) = answer := congrArg Prod.fst same
        exact ends
  | error e => exact Prod.mk.injEq .. ▸ .rfl
  | stop => exact Prod.mk.injEq .. ▸ .rfl

/-- So a run comes to such an end just where a replay of its file does, right after the file was
    read. -/
theorem run_eq_iff {answer : Outcome ReplayError Report} (ends : Ends answer) (s s' : σ) :
    (run storage input output strict s : Outcome ReplayError Report × σ) = (answer, s') ↔
      ∃ text, (storage.readText input s : Option String × σ) = (some text, s') ∧
        replayDocument strict text = answer := by
  rw [run_eq]
  cases (storage.readText input s : Option String × σ) with
  | mk text after =>
    cases text with
    | none =>
      refine iff_of_false (fun same => ?_) (fun ⟨_, same, _⟩ => nomatch congrArg Prod.fst same)
      obtain rfl : Outcome.error (.unreadable input) = answer := congrArg Prod.fst same
      exact ends
    | some text =>
      dsimp only
      rw [conclude_eq_iff storage output strict ends]
      constructor
      · rintro ⟨replayed, rfl⟩
        exact ⟨text, rfl, replayed⟩
      · rintro ⟨_, same, replayed⟩
        cases same
        exact ⟨replayed, rfl⟩

end Files

/-! ### Strict and lenient replays -/

/-- Either the machine stops at no event. Then a lenient replay ends with the cache to which all
    events lead, and counts every event, the rejected ones as failed. A strict one comes to the
    same just where none is rejected. Else it ends with the first rejection, and with the cache
    of the lenient one after that event. Or there is a first event at which the machine stops.
    The lenient replay ends there, and so does the strict one, unless it ends before. A strict
    replay of a file is ended by a rejected event, or stops, just where that of the events in
    it does, and the storage is then left as the reading has left it, whatever writing would
    do. -/
theorem applyAll_strict (c : Cache) (events : List Event) :
    ((Decides c events ∧ ∃ stats rejected, Compares c events stats rejected) ∨
      ∃ i, StopsAt c events i ∧
        applyAll false c events = (.stop, c.run ((events.take (i + 1)).map .replay)) ∧
        applyAll true c events =
          if (applyAll true c (events.take i)).1.isOk then applyAll false c events
          else applyAll true c (events.take i)) ∧
    ∀ (σ : Type) (storage : Storage (StateM σ)) (input : String) (output : Option String)
      (s s' : σ),
      (∀ r : Rejection,
        (run storage input output true s : Outcome ReplayError Report × σ) =
            (.error (.rejected r), s') ↔
          ∃ text events, (storage.readText input s : Option String × σ) = (some text, s') ∧
            readEvents? text = some events ∧ (applyAll true ∅ events).1 = .error r) ∧
      ((run storage input output true s : Outcome ReplayError Report × σ) = (.stop, s') ↔
        ∃ text events, (storage.readText input s : Option String × σ) = (some text, s') ∧
          readEvents? text = some events ∧ (applyAll true ∅ events).1 = .stop) := by
  refine ⟨?_, fun σ storage input output s s' => ⟨fun r => ?_, ?_⟩⟩
  · rcases decides_or_stopsAt c events with decides | ⟨i, stopped⟩
    · exact .inl ⟨decides, compares decides⟩
    · exact .inr ⟨i, stopped, applyAll_of_stops stopped⟩
  · have ends : Ends (.error (.rejected r)) := trivial
    rw [run_eq_iff storage input output true ends]
    simp only [replayDocument_eq_iff ends, replay_eq_rejected_iff, exists_and_left]
  · have ends : Ends .stop := trivial
    rw [run_eq_iff storage input output true ends]
    simp only [replayDocument_eq_iff ends, replay_eq_stop_iff, exists_and_left]

/-- Of these events the third is rejected, so a lenient replay counts one, and a strict one ends
    with it. -/
theorem applyAll_strict_rejection :
    ∃ stats r, (applyAll false ∅ eventsWithRejection).1 = .ok stats ∧ stats.failed = 1 ∧
      (applyAll true ∅ eventsWithRejection).1 = .error r ∧ r.index = 2 ∧
      r.eventName = "createContainer" ∧ IsFirstRejection ∅ eventsWithRejection r := by
  have lenient : (applyAll false ∅ eventsWithRejection).1 =
      .ok { applied := 3, failed := 1 } := by rfl
  have strict : (applyAll true ∅ eventsWithRejection).1 =
      .error ⟨2, "createContainer", .containerIdInUse "c1"⟩ := by rfl
  rcases (applyAll_strict ∅ eventsWithRejection).1 with
    ⟨-, stats, rejected, compares⟩ | ⟨i, -, stopped, -⟩
  · rw [compares.lenient] at lenient
    cases lenient
    obtain ⟨r, first, fails⟩ := compares.fails (by decide)
    rw [fails] at strict
    cases strict
    exact ⟨_, _, congrArg Prod.fst compares.lenient, rfl, congrArg Prod.fst fails, rfl, rfl, first⟩
  · rw [stopped] at lenient
    cases lenient

/-- Not every lenient replay succeeds. -/
theorem not_forall_lenient_succeeds :
    ¬ ∀ (c : Cache) (events : List Event), ∃ stats : Stats,
      (applyAll false c events).1 = .ok stats := by
  intro succeeds
  obtain ⟨stats, ended⟩ := succeeds ∅ [.tiny]
  rw [applyAll_tiny] at ended
  cases ended

end PodCache.Replay
