import PodCache.Proofs.MachineReader
import PodCache.Resources

/-!
# Reading in order

A visit of a document comes to its end just where the model in it can be read. So a document
at which the machine stops denotes no model, and wherever it stops there is a text in the
document whose shift overflows.
-/

namespace PodCache

/-! ### Records -/

namespace Record

variable {fields : List (List String)} {read : Nat → Value → Outcome Unit Unit}

/-- A slot that is taken stays as it is. -/
theorem getElem?_of_fill {entries : List (Value × Value)} {slots filled : List (Option Value)}
    (sorted : fill fields slots entries = some filled) {i : Nat} {v : Value}
    (taken : slots[i]? = some (some v)) : filled[i]? = some (some v) := by
  induction entries generalizing slots with
  | nil =>
    cases sorted
    exact taken
  | cons entry entries ih =>
    unfold fill at sorted
    split at sorted
    · cases sorted
    · exact ih sorted taken
    · rename_i j _
      split at sorted
      · rename_i free
        have other : j ≠ i := by
          rintro rfl
          cases free.symm.trans taken
        exact ih sorted ((List.getElem?_set_ne other).trans taken)
      · cases sorted

theorem length_of_fill {entries : List (Value × Value)} {slots filled : List (Option Value)}
    (sorted : fill fields slots entries = some filled) : filled.length = slots.length := by
  induction entries generalizing slots with
  | nil =>
    cases sorted
    rfl
  | cons entry entries ih =>
    unfold fill at sorted
    split at sorted
    · cases sorted
    · exact ih sorted
    · split at sorted
      · rw [ih sorted, List.length_set]
      · cases sorted

/-- A visit comes to the end of a map if the entries can be sorted into slots, and each value
    that is new to its slot can be read. -/
theorem visitEntries_eq_ok_iff {entries : List (Value × Value)} {slots : List (Option Value)} :
    visitEntries fields read slots entries = .ok () ↔
      ∃ filled, fill fields slots entries = some filled ∧
        ∀ i v, slots[i]? = some none → filled[i]? = some (some v) → read i v = .ok () := by
  induction entries generalizing slots with
  | nil =>
    simp only [visitEntries, fill, Option.some.injEq, exists_eq_left', true_iff]
    intro i v free taken
    cases free.symm.trans taken
  | cons entry entries ih =>
    unfold visitEntries fill
    cases position? fields entry.1 with
    | none => simp
    | some position =>
      cases position with
      | none => exact ih
      | some i =>
        dsimp only
        cases slot : slots[i]? with
        | none => simp
        | some held =>
          cases held with
          | some w => simp
          | none =>
            have bound := (List.getElem?_eq_some_iff.1 slot).1
            have taken : (slots.set i (some entry.2))[i]? = some (some entry.2) :=
              List.getElem?_set_self bound
            simp only [Outcome.check_bind_eq_ok_iff, ih]
            constructor
            · rintro ⟨first, filled, sorted, later⟩
              refine ⟨filled, sorted, fun j v free held => ?_⟩
              by_cases same : i = j
              · subst same
                cases held.symm.trans (getElem?_of_fill sorted taken)
                exact first
              · exact later j v ((List.getElem?_set_ne same).trans free) held
            · rintro ⟨filled, sorted, each⟩
              refine ⟨each i _ slot (getElem?_of_fill sorted taken), filled, sorted, ?_⟩
              intro j v free held
              by_cases same : i = j
              · subst same
                cases free.symm.trans taken
              · exact each j v ((List.getElem?_set_ne same).symm.trans free) held

theorem visitItems_eq_ok_iff {items : List Value} {i : Nat} :
    visitItems read i items = .ok () ↔
      ∀ j v, items[j]? = some v → read (i + j) v = .ok () := by
  induction items generalizing i with
  | nil => simp [visitItems]
  | cons w items ih =>
    simp only [visitItems, Outcome.check_bind_eq_ok_iff, ih]
    constructor
    · rintro ⟨first, later⟩ j v found
      cases j with
      | zero =>
        cases found
        exact first
      | succ j =>
        rw [Nat.add_comm j 1, ← Nat.add_assoc]
        exact later j v found
    · intro each
      refine ⟨each 0 w rfl, fun j v found => ?_⟩
      rw [Nat.add_assoc, Nat.add_comm 1 j]
      exact each (j + 1) v found

/-- A visit comes to the end of a record if its values can be sorted into slots, and each of
    them can be read. -/
theorem visit_eq_ok_iff {v : Value} :
    visit fields read v = .ok () ↔
      ∃ slots, slots? fields v = some slots ∧
        ∀ i w, slots[i]? = some (some w) → read i w = .ok () := by
  cases v with
  | map entries =>
    rw [visit, visitEntries_eq_ok_iff, slots?]
    refine exists_congr fun filled => and_congr_right fun sorted => forall₂_congr fun i w => ?_
    have length := length_of_fill sorted
    rw [List.length_map] at length
    constructor
    · intro each held
      have bound := length ▸ (List.getElem?_eq_some_iff.1 held).1
      refine each ?_ held
      rw [List.getElem?_map, List.getElem?_eq_getElem bound]
      rfl
    · intro each _ held
      exact each held
  | list items =>
    rw [visit, slots?, Outcome.check_bind_eq_ok_iff]
    by_cases short : items.length ≤ fields.length
    · simp only [short, if_true, Option.some.injEq, exists_eq_left', and_true,
        List.take_of_length_le, visitItems_eq_ok_iff, Nat.zero_add]
      refine forall₂_congr fun i w => ?_
      rw [List.getElem?_append, List.getElem?_map, List.length_map]
      split
      · simp
      · rename_i beyond
        rw [List.getElem?_eq_none (Nat.not_lt.1 beyond)]
        simp [List.getElem?_replicate]
    · simp [short]
  | _ => simp [visit, slots?]

theorem length_of_slots? {v : Value} {slots : List (Option Value)}
    (sorted : slots? fields v = some slots) : slots.length = fields.length := by
  unfold slots? at sorted
  split at sorted
  · rw [length_of_fill sorted, List.length_map]
  · split at sorted
    · cases sorted
      rw [List.length_append, List.length_map, List.length_replicate]
      omega
    · cases sorted
  · cases sorted

/-- The values in two slots, one by one. -/
theorem forall_pair_iff {a b : Option Value} {p : Nat → Value → Prop} :
    (∀ i w, [a, b][i]? = some (some w) → p i w) ↔
      (∀ w, a = some w → p 0 w) ∧ ∀ w, b = some w → p 1 w := by
  constructor
  · intro each
    exact ⟨fun w held => each 0 w (congrArg some held), fun w held => each 1 w (congrArg some held)⟩
  · rintro ⟨first, second⟩ i w held
    match i with
    | 0 => exact first w (Option.some.inj held)
    | 1 => exact second w (Option.some.inj held)

theorem isSome_field_iff {α : Type} [Codec α] {place : Place} (absent : α) {slot : Option Value} :
    (field place absent slot).isSome ↔
      ∀ w, slot = some w → (decode (α := α) place w).isSome := by
  cases slot <;> simp [field]

/-- Two fields make a record if both can be read. -/
theorem isSome_both_iff {α β γ : Type} (a : Option α) (b : Option β) (f : α → β → γ) :
    (do return f (← a) (← b) : Option γ).isSome ↔ a.isSome ∧ b.isSome := by
  cases a <;> cases b <;> simp

end Record

/-! ### Tables -/

section Tables

variable {α : Type} [Codec α] {place : Place} {read : Value → Outcome Unit Unit}
  (reads : ∀ v, read v = .ok () ↔ (decode (α := α) place v).isSome)
include reads

theorem visitTexts_eq_ok_iff {entries : List (Value × Value)} (t : Table α) :
    visitTexts read entries = .ok () ↔ (Codec.decodeEntries place t entries).isSome := by
  induction entries generalizing t with
  | nil => simp [visitTexts, Codec.decodeEntries]
  | cons entry entries ih =>
    obtain ⟨k, v⟩ := entry
    cases k with
    | text k =>
      rw [visitTexts, Codec.decodeEntries, Outcome.check_bind_eq_ok_iff, reads]
      cases decode (α := α) place v with
      | none => simp
      | some a => simpa using ih (t.insert k a)
    | _ => simp [visitTexts, Codec.decodeEntries]

theorem visitTable_eq_ok_iff {v : Value} :
    visitTable read v = .ok () ↔ (decode (α := Table α) place v).isSome := by
  cases v with
  | map entries => exact visitTexts_eq_ok_iff reads ∅
  | _ => simp [visitTable, decode]

end Tables

/-! ### Models -/

namespace PodResources

theorem visitAmount_eq_ok_iff (v : Value) :
    visitAmount v = .ok () ↔ (decode (α := Quantity) .message v).isSome := by
  unfold visitAmount
  change _ ↔ (Quantity.ofValue v).toOption.isSome
  cases Quantity.ofValue v <;> simp [Outcome.toOption]

theorem visitRequirements_eq_ok_iff (v : Value) :
    visitRequirements v = .ok () ↔ (decode (α := ResourceRequirements) .message v).isSome := by
  rw [visitRequirements, Record.visit_eq_ok_iff]
  change _ ↔ (Record.slots? ResourceRequirements.fields v >>= _).isSome
  cases sorted : Record.slots? ResourceRequirements.fields v with
  | none => simp
  | some slots =>
    match slots, Record.length_of_slots? sorted with
    | [requests, limits], _ =>
      simp only [Option.some.injEq, exists_eq_left', Record.forall_pair_iff,
        visitTable_eq_ok_iff visitAmount_eq_ok_iff,
        ← Record.isSome_field_iff (∅ : ResourceList)]
      exact (Record.isSome_both_iff ..).symm

theorem visitSection_eq_ok_iff (v : Value) :
    (visitSection 0 v = .ok () ↔
      (decode (α := Table ResourceRequirements) .message v).isSome) ∧
    (visitSection 1 v = .ok () ↔ (decode (α := TextSet) .message v).isSome) := by
  refine ⟨visitTable_eq_ok_iff visitRequirements_eq_ok_iff, ?_⟩
  change (if (decode (α := TextSet) .message v).isSome then _ else _) = _ ↔ _
  split <;> simp [*]

/-- A visit comes to the end of a model just if the model can be read. -/
theorem visit_eq_ok_iff (v : Value) :
    Record.visit fields visitSection v = .ok () ↔
      (decode (α := PodResources) .message v).isSome := by
  rw [Record.visit_eq_ok_iff]
  change _ ↔ (Record.slots? fields v >>= _).isSome
  cases sorted : Record.slots? fields v with
  | none => simp
  | some slots =>
    match slots, Record.length_of_slots? sorted with
    | [containers, initContainers], _ =>
      simp only [Option.some.injEq, exists_eq_left', Record.forall_pair_iff,
        (visitSection_eq_ok_iff _).1, (visitSection_eq_ok_iff _).2,
        ← Record.isSome_field_iff (∅ : Table ResourceRequirements),
        ← Record.isSome_field_iff (∅ : TextSet)]
      exact (Record.isSome_both_iff ..).symm

/-! ### Documents -/

/-- A document at which a visit stops denotes no model. -/
theorem ofDocument?_of_isStop {doc : String}
    (stops : (Record.visit fields visitSection (Json.soFar doc.toList)).isStop = true) :
    ofDocument? doc = none := by
  rw [Outcome.isStop_iff] at stops
  unfold ofDocument? Json.document?
  cases read : Json.read? doc.toList with
  | none => rfl
  | some found =>
    obtain ⟨v, rest⟩ := found
    rw [Json.soFar_of_read? read] at stops
    have unread : decode (α := PodResources) .message v = none := by
      rw [← Option.not_isSome_iff_eq_none, ← visit_eq_ok_iff, stops]
      simp
    dsimp only
    split
    · exact unread
    · rfl

end PodResources

/-- An annotation is read as the model that its text denotes. If it denotes none, the text is
    refused, unless the machine stops at it. -/
theorem Annotations.resources_cases (raw : String) :
    (∃ r, PodResources.ofDocument? raw = some r ∧ resources raw = .ok r) ∨
      (PodResources.ofDocument? raw = none ∧
        (resources raw = .error .invalidJson ∨ resources raw = .stop)) := by
  unfold resources PodResources.ofDocument
  split
  · rename_i stops
    exact .inr ⟨PodResources.ofDocument?_of_isStop stops, .inr rfl⟩
  · cases PodResources.ofDocument? raw with
    | some r => exact .inl ⟨r, rfl, rfl⟩
    | none => exact .inr ⟨rfl, .inl rfl⟩

/-! ### Texts in a document -/

/-- The values that a list or a map holds directly, the keys of the map aside. -/
def Value.members : Value → List Value
  | .list items => items
  | .map entries => entries.map Prod.snd
  | _ => []

/-- A text stands somewhere in a value. -/
inductive Value.HasText (s : String) : Value → Prop
  | here : HasText s (.text s)
  | inside {v w : Value} : w ∈ v.members → HasText s w → HasText s v

section Stops

variable {v : Value}

theorem Record.visitEntries_eq_stop {fields : List (List String)}
    {read : Nat → Value → Outcome Unit Unit} {entries : List (Value × Value)}
    {slots : List (Option Value)} (stops : visitEntries fields read slots entries = .stop) :
    ∃ i, ∃ w ∈ entries.map Prod.snd, read i w = .stop := by
  induction entries generalizing slots with
  | nil => cases stops
  | cons entry entries ih =>
    have later {slots : List (Option Value)}
        (stops : visitEntries fields read slots entries = .stop) :
        ∃ i, ∃ w ∈ (entry :: entries).map Prod.snd, read i w = .stop := by
      obtain ⟨i, w, member, stopped⟩ := ih stops
      exact ⟨i, w, List.mem_cons_of_mem _ member, stopped⟩
    unfold visitEntries at stops
    split at stops
    · cases stops
    · exact later stops
    · rename_i i _
      split at stops
      · rcases Outcome.bind_eq_stop_iff.1 stops with first | ⟨_, -, rest⟩
        · exact ⟨i, entry.2, List.mem_cons_self, first⟩
        · exact later rest
      · cases stops

theorem Record.visitItems_eq_stop {read : Nat → Value → Outcome Unit Unit} {items : List Value}
    {i : Nat} (stops : visitItems read i items = .stop) : ∃ j, ∃ w ∈ items, read j w = .stop := by
  induction items generalizing i with
  | nil => cases stops
  | cons v items ih =>
    rcases Outcome.bind_eq_stop_iff.1 stops with first | ⟨_, -, rest⟩
    · exact ⟨i, v, List.mem_cons_self, first⟩
    · obtain ⟨j, w, member, stopped⟩ := ih rest
      exact ⟨j, w, List.mem_cons_of_mem _ member, stopped⟩

/-- A visit of a record stops at one of its values. -/
theorem Record.visit_eq_stop {fields : List (List String)}
    {read : Nat → Value → Outcome Unit Unit} (stops : visit fields read v = .stop) :
    ∃ i, ∃ w ∈ v.members, read i w = .stop := by
  cases v with
  | map entries => exact visitEntries_eq_stop stops
  | list items =>
    rcases Outcome.bind_eq_stop_iff.1 stops with first | ⟨_, -, rest⟩
    · obtain ⟨i, w, member, stopped⟩ := visitItems_eq_stop first
      exact ⟨i, w, List.mem_of_mem_take member, stopped⟩
    · split at rest <;> cases rest
  | _ => cases stops

/-- A visit of a table stops at one of its values. -/
theorem visitTable_eq_stop {read : Value → Outcome Unit Unit} (stops : visitTable read v = .stop) :
    ∃ w ∈ v.members, read w = .stop := by
  cases v with
  | map entries =>
    change visitTexts read entries = .stop at stops
    change ∃ w ∈ entries.map Prod.snd, _
    induction entries with
    | nil => cases stops
    | cons entry entries ih =>
      obtain ⟨k, v⟩ := entry
      cases k with
      | text k =>
        rcases Outcome.bind_eq_stop_iff.1 stops with first | ⟨_, -, rest⟩
        · exact ⟨v, List.mem_cons_self, first⟩
        · obtain ⟨w, member, stopped⟩ := ih rest
          exact ⟨w, List.mem_cons_of_mem _ member, stopped⟩
      | _ => cases stops
  | _ => cases stops

namespace PodResources

theorem visitAmount_eq_stop (stops : visitAmount v = .stop) :
    ∃ s, v = .text s ∧ Quantity.Overflows s := by
  rw [← Quantity.ofValue_eq_stop_iff]
  unfold visitAmount at stops
  cases read : Quantity.ofValue v with
  | stop => rfl
  | _ => simp [read] at stops

theorem visitRequirements_eq_stop (stops : visitRequirements v = .stop) :
    ∃ s, v.HasText s ∧ Quantity.Overflows s := by
  obtain ⟨_, list, inside, stopped⟩ := Record.visit_eq_stop stops
  obtain ⟨amount, within, stopped⟩ := visitTable_eq_stop stopped
  obtain ⟨s, rfl, overflows⟩ := visitAmount_eq_stop stopped
  exact ⟨s, .inside inside (.inside within .here), overflows⟩

theorem visitSection_eq_stop {i : Nat} (stops : visitSection i v = .stop) :
    ∃ s, v.HasText s ∧ Quantity.Overflows s := by
  unfold visitSection at stops
  split at stops
  · obtain ⟨requirements, inside, stopped⟩ := visitTable_eq_stop stops
    obtain ⟨s, held, overflows⟩ := visitRequirements_eq_stop stopped
    exact ⟨s, .inside inside held, overflows⟩
  · split at stops <;> cases stops

end PodResources

end Stops

/-- Where the machine stops at an annotation, a text in it overflows, before the point at which
    the reader would have given up. -/
theorem Annotations.exists_overflows_of_stop {raw : String} (stops : resources raw = .stop) :
    ∃ s, (Json.soFar raw.toList).HasText s ∧ Quantity.Overflows s := by
  unfold resources PodResources.ofDocument at stops
  split at stops
  · rename_i stopped
    obtain ⟨_, part, inside, stopped⟩ := Record.visit_eq_stop (Outcome.isStop_iff.1 stopped)
    obtain ⟨s, held, overflows⟩ := PodResources.visitSection_eq_stop stopped
    exact ⟨s, .inside inside held, overflows⟩
  · split at stops <;> cases stops

end PodCache
