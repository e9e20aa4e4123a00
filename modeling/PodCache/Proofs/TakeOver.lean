import Mathlib.Data.List.Basic

/-!
# Entities that follow a list

The entries of a list that name one entity are taken over one after the other. An entity
that is known moves with each of them; an unknown one is built from the first entry that
can be read, and moves with those after it. In the end it is as that first entry and the
last one of all say, and a second time around nothing changes.
-/

namespace PodCache

variable {ε β : Type}

/-- How an entity follows the entries that name it. An entry moves a known entity, and only
    a readable one makes an entity of nothing. Of two moves the later one counts. -/
structure Follows (takeOver : Option β → ε → Option β) (readable : ε → Bool)
    (move : ε → β → β) : Prop where
  known : ∀ entity entry, takeOver (some entity) entry = some (move entry entity)
  malformed : ∀ entry, readable entry = false → takeOver none entry = none
  built : ∀ entry, readable entry = true →
    ∃ entity, takeOver none entry = some entity ∧ move entry entity = entity
  latest : ∀ entity earlier later, move later (move earlier entity) = move later entity

/-- The entity as the last of the entries moves it. -/
def moveLast (move : ε → β → β) (entries : List ε) (entity : β) : β :=
  match entries.getLast? with
  | some last => move last entity
  | none => entity

namespace Follows

variable {takeOver : Option β → ε → Option β} {readable : ε → Bool} {move : ε → β → β}

theorem moveLast_cons (follows : Follows takeOver readable move) (entry : ε) (entries : List ε)
    (entity : β) :
    moveLast move (entry :: entries) entity = moveLast move entries (move entry entity) := by
  unfold moveLast
  rw [List.getLast?_cons]
  cases entries.getLast? with
  | none => rfl
  | some last => exact (follows.latest entity entry last).symm

/-- A known entity is where the last entry moves it. -/
theorem foldl_some (follows : Follows takeOver readable move) (entity : β) (entries : List ε) :
    entries.foldl takeOver (some entity) = some (moveLast move entries entity) := by
  induction entries generalizing entity with
  | nil => rfl
  | cons entry entries ih => rw [List.foldl_cons, follows.known, ih, follows.moveLast_cons]

/-- An unknown entity is built from the first readable entry, if there is one, and is where
    the last entry moves it. -/
theorem foldl_none (follows : Follows takeOver readable move) (entries : List ε) :
    entries.foldl takeOver none =
      (entries.find? readable).bind fun first =>
        (takeOver none first).map (moveLast move entries) := by
  induction entries with
  | nil => rfl
  | cons entry entries ih =>
    rw [List.foldl_cons, List.find?_cons]
    cases named : readable entry with
    | true =>
      obtain ⟨entity, built, placed⟩ := follows.built entry named
      rw [built, follows.foldl_some]
      simp [built, follows.moveLast_cons, placed]
    | false =>
      rw [follows.malformed entry named, ih]
      cases readableEntry : entries.find? readable with
      | none => rfl
      | some first =>
        obtain ⟨entity, built, _⟩ := follows.built first (List.find?_some readableEntry)
        -- A later entry is the last of all, so the unreadable one has no say.
        have ending : (entry :: entries).getLast? = entries.getLast? := by
          have member := List.mem_of_find?_eq_some readableEntry
          rw [List.getLast?_cons, List.getLast?_eq_some_getLast (List.ne_nil_of_mem member)]
          rfl
        simp [built, moveLast, ending]

/-- There is an entity in the end if there was one, or some entry is readable. -/
theorem isSome_foldl_iff (follows : Follows takeOver readable move) (before : Option β)
    (entries : List ε) :
    (entries.foldl takeOver before).isSome ↔
      before.isSome ∨ ∃ entry ∈ entries, readable entry = true := by
  cases before with
  | some entity => simp [follows.foldl_some]
  | none =>
    rw [follows.foldl_none, ← List.find?_isSome]
    cases first : entries.find? readable with
    | none => simp
    | some entry =>
      obtain ⟨entity, built, _⟩ := follows.built entry (List.find?_some first)
      simp [built]

/-- The first readable entry and the last one say all of an entity that was unknown. -/
theorem eq_of_foldl_none (follows : Follows takeOver readable move) {entries : List ε}
    {entity : β} (outcome : entries.foldl takeOver none = some entity) :
    ∃ first new, entries.find? readable = some first ∧ takeOver none first = some new ∧
      entity = moveLast move entries new := by
  rw [follows.foldl_none, Option.bind_eq_some_iff] at outcome
  obtain ⟨first, found, outcome⟩ := outcome
  obtain ⟨new, built, moved⟩ := Option.map_eq_some_iff.1 outcome
  exact ⟨first, new, found, built, moved.symm⟩

/-- Whatever was known before, the entity is where the last entry moves it. -/
theorem move_last_eq (follows : Follows takeOver readable move) {before : Option β}
    {entries : List ε} {entity : β} {last : ε}
    (outcome : entries.foldl takeOver before = some entity)
    (ending : entries.getLast? = some last) : move last entity = entity := by
  have moved : ∃ old, entity = moveLast move entries old := by
    cases before with
    | some old =>
      rw [follows.foldl_some, Option.some.injEq] at outcome
      exact ⟨old, outcome.symm⟩
    | none =>
      obtain ⟨_, new, _, _, moved⟩ := follows.eq_of_foldl_none outcome
      exact ⟨new, moved⟩
  obtain ⟨old, rfl⟩ := moved
  simp only [moveLast, ending]
  exact follows.latest old last last

/-- Taking over the same entries a second time makes no difference. -/
theorem foldl_idem (follows : Follows takeOver readable move) (before : Option β)
    (entries : List ε) :
    entries.foldl takeOver (entries.foldl takeOver before) = entries.foldl takeOver before := by
  cases outcome : entries.foldl takeOver before with
  | some entity =>
    rw [follows.foldl_some]
    cases ending : entries.getLast? with
    | none => simp [moveLast, ending]
    | some last => simp [moveLast, ending, follows.move_last_eq outcome ending]
  | none =>
    cases before with
    | some entity => simp [follows.foldl_some] at outcome
    | none => exact outcome

end Follows

end PodCache
