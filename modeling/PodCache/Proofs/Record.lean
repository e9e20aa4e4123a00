import Mathlib.Data.List.Forall2
import Mathlib.Data.List.Nodup
import Mathlib.Data.List.Perm.Subperm
import PodCache.Codec
import PodCache.Proofs.JsonText

/-!
# Records as values

The values that stand for a record. A map stands for it if the entries under the names of
each field are one at most, and spell the field; where the others stand does not matter,
nor what else the map holds. A list stands for it if it spells the fields in their order;
fields at its end may be missing. The reader of records sorts the values of either into the
slots of the fields, and rejects a map that gives a field twice.
-/

namespace PodCache.Record

/-- The values under the names of a field, in the order of the entries. -/
def given (names : List String) (entries : List (String × Value)) : List Value :=
  (entries.filter fun e => names.contains e.1).map (·.2)

theorem given_cons (names : List String) (k : String) (v : Value)
    (entries : List (String × Value)) :
    given names ((k, v) :: entries) =
      if k ∈ names then v :: given names entries else given names entries := by
  unfold given
  rw [List.filter_cons]
  simp only [List.contains_iff_mem]
  split <;> rfl

/-- Entries under two names of a field give two values for it. -/
theorem two_le_length_given {names : List String} {entries : List (String × Value)} {j k : String}
    (different : j ≠ k) (named : j ∈ names) (named' : k ∈ names)
    (present : j ∈ entries.map Prod.fst) (present' : k ∈ entries.map Prod.fst) :
    2 ≤ (given names entries).length := by
  obtain ⟨e, member, rfl⟩ := List.mem_map.1 present
  obtain ⟨f, member', rfl⟩ := List.mem_map.1 present'
  have distinct : [e, f].Nodup := by
    simpa using fun same => different (congrArg Prod.fst same)
  have kept : [e, f] ⊆ entries.filter fun e => names.contains e.1 := by
    intro g among
    rcases List.mem_pair.1 among with rfl | rfl
    · exact List.mem_filter.2 ⟨member, List.contains_iff_mem.2 named⟩
    · exact List.mem_filter.2 ⟨member', List.contains_iff_mem.2 named'⟩
  rw [given, List.length_map]
  exact (List.subperm_of_subset distinct kept).length_le

theorem mem_given {names : List String} {k : String} (named : k ∈ names) {v : Value}
    {entries : List (String × Value)} (member : (k, v) ∈ entries) : v ∈ given names entries :=
  List.mem_map.2 ⟨(k, v), List.mem_filter.2 ⟨member, List.contains_iff_mem.2 named⟩, rfl⟩

/-! ### Slots -/

/-- The values in a slot. -/
def slotValues (slots : List (Option Value)) (i : Nat) : List Value := slots[i]?.join.toList

theorem slotValues_set {slots : List (Option Value)} {i : Nat} (present : i < slots.length)
    (v : Value) (j : Nat) :
    slotValues (slots.set i (some v)) j = if i = j then [v] else slotValues slots j := by
  unfold slotValues
  rw [List.getElem?_set]
  split
  · rename_i same
    subst same
    simp
  · rfl

/-- A slot has room for one value. -/
theorem slotValues_ne {slots : List (Option Value)} (i : Nat) (v w : Value) (rest : List Value) :
    v :: w :: rest ≠ slotValues slots i := by
  unfold slotValues
  cases slots[i]?.join <;> simp

theorem eq_of_slotValues {slots filled : List (Option Value)}
    (length : slots.length = filled.length)
    (same : ∀ i, i < slots.length → slotValues slots i = slotValues filled i) : slots = filled := by
  apply List.ext_getElem length
  intro i bound bound'
  have values := same i bound
  unfold slotValues at values
  rw [List.getElem?_eq_getElem bound, List.getElem?_eq_getElem bound'] at values
  simp only [Option.join_some] at values
  cases held : slots[i] <;> cases held' : filled[i] <;> simp_all

section Fill

variable {fields : List (List String)} (distinct : fields.Pairwise List.Disjoint)
include distinct

/-- A key names the field at one position only. -/
theorem position_unique {i j : Nat} {names names' : List String} {k : String}
    (at_i : fields[i]? = some names) (at_j : fields[j]? = some names') (named : k ∈ names)
    (named' : k ∈ names') : i = j := by
  obtain ⟨bound, rfl⟩ := List.getElem?_eq_some_iff.1 at_i
  obtain ⟨bound', rfl⟩ := List.getElem?_eq_some_iff.1 at_j
  rcases Nat.lt_trichotomy i j with before | same | after
  · exact absurd named' (List.pairwise_iff_getElem.1 distinct i j bound bound' before named)
  · exact same
  · exact absurd named (List.pairwise_iff_getElem.1 distinct j i bound' bound after named')

/-- Filling succeeds if each slot gets at most one value, counting the one that it holds, and
    then the slots hold these values. -/
theorem fill_eq_some_iff (entries : List (String × Value)) {slots filled : List (Option Value)}
    (length : slots.length = fields.length) :
    fill fields slots (entries.map fun (k, v) => (.text k, v)) = some filled ↔
      filled.length = fields.length ∧ ∀ i names, fields[i]? = some names →
        slotValues slots i ++ given names entries = slotValues filled i := by
  induction entries generalizing slots with
  | nil =>
    rw [List.map_nil, fill, Option.some.injEq]
    constructor
    · rintro rfl
      exact ⟨length, fun i names _ => List.append_nil _⟩
    · rintro ⟨length', same⟩
      apply eq_of_slotValues (length.trans length'.symm)
      intro i bound
      have found := List.getElem?_eq_getElem (length ▸ bound)
      exact (List.append_nil _).symm.trans (same i _ found)
  | cons entry entries ih =>
    obtain ⟨k, v⟩ := entry
    rw [List.map_cons, fill, position?]
    cases position : fields.findIdx? (·.contains k) with
    | none =>
      have unknown : ∀ (i : Nat) names, fields[i]? = some names →
          given names ((k, v) :: entries) = given names entries := by
        intro i names at_i
        have absent := List.findIdx?_eq_none_iff.1 position names (List.mem_of_getElem? at_i)
        rw [given_cons, if_neg (by simpa using absent)]
      dsimp only
      rw [ih length]
      refine and_congr_right fun _ => forall₃_congr fun i names at_i => ?_
      rw [unknown i names at_i]
    | some i =>
      obtain ⟨bound, named, _⟩ := List.findIdx?_eq_some_iff_getElem.1 position
      have at_i : fields[i]? = some fields[i] := List.getElem?_eq_getElem bound
      have named : k ∈ fields[i] := by simpa using named
      have bound' : i < slots.length := length ▸ bound
      have held := List.getElem?_eq_getElem bound'
      dsimp only
      rw [held]
      cases slot : slots[i] with
      | some w =>
        refine iff_of_false (fun failed => nomatch failed) ?_
        rintro ⟨_, same⟩
        have taken : slotValues slots i = [w] := by rw [slotValues, held, slot]; rfl
        have crowded := same i _ at_i
        rw [given_cons, if_pos named, taken] at crowded
        exact slotValues_ne i w v _ crowded
      | none =>
        dsimp only
        rw [ih (by rw [List.length_set, length])]
        refine and_congr_right fun _ => forall₃_congr fun j names at_j => ?_
        rw [slotValues_set bound', given_cons]
        by_cases same : i = j
        · subst same
          cases at_i.symm.trans at_j
          have free : slotValues slots i = [] := by rw [slotValues, held, slot]; rfl
          rw [if_pos rfl, if_pos named, free]
          rfl
        · have other : k ∉ names := fun named' =>
            same (position_unique distinct at_i at_j named named')
          rw [if_neg same, if_neg other]

/-- A map is sorted into slots just if no field is given twice. -/
theorem slots?_record_eq_some_iff {entries : List (String × Value)}
    {filled : List (Option Value)} :
    slots? fields (.record entries) = some filled ↔
      filled.length = fields.length ∧ ∀ i names, fields[i]? = some names →
        given names entries = slotValues filled i := by
  have empty (i : Nat) : slotValues (fields.map fun _ => none) i = [] := by
    unfold slotValues
    rw [List.getElem?_map]
    cases fields[i]? <;> rfl
  rw [Value.record, slots?, fill_eq_some_iff distinct entries (List.length_map _)]
  simp only [empty, List.nil_append]

/-- Two values are too many for a field. -/
theorem slots?_record_of_twice {entries : List (String × Value)} {names : List String}
    (field : names ∈ fields) (twice : 2 ≤ (given names entries).length) :
    slots? fields (.record entries) = none := by
  obtain ⟨i, at_i⟩ := List.mem_iff_getElem?.1 field
  cases sorted : slots? fields (.record entries) with
  | none => rfl
  | some filled =>
    have crowded := ((slots?_record_eq_some_iff distinct).1 sorted).2 i names at_i
    match values : given names entries with
    | [] => simp [values] at twice
    | [_] => simp [values] at twice
    | v :: w :: rest => exact absurd (values.symm.trans crowded) (slotValues_ne i v w rest)

end Fill

/-! ### Forms -/

/-- How one field of a record is written. It has a value to be written with under its name,
    but may be known under other names as well, and may be spelled by other values or by the
    absence of one. -/
structure FieldForm where
  name : String
  aliases : List String
  written : Value
  printable : Json.Printable written
  Spells : Option Value → Prop

/-- The names that a field is known under. -/
def FieldForm.names (f : FieldForm) : List String := f.name :: f.aliases

theorem FieldForm.name_mem_names (f : FieldForm) : f.name ∈ f.names := List.mem_cons_self

/-- Whether the field is spelled by what it is written as. -/
def FieldForm.Sound (f : FieldForm) : Prop := f.Spells (some f.written)

/-- The values that stand for a record with the given fields. -/
inductive Spells (forms : List FieldForm) : Value → Prop
  /-- In a map, each field is spelled by the only value under its names, or by there being
      none. -/
  | map {entries : List (String × Value)} :
    (∀ f ∈ forms, ∃ slot : Option Value, given f.names entries = slot.toList ∧ f.Spells slot) →
      Spells forms (.record entries)
  /-- In a list, each field is spelled by the value at its position, or by the end of the
      list before it. -/
  | list {items : List Value} : items.length ≤ forms.length →
    (∀ (i : Nat) f, forms[i]? = some f → f.Spells items[i]?) → Spells forms (.list items)

/-- The value that a record is written as. -/
def written (forms : List FieldForm) : Value :=
  .record (forms.map fun f => (f.name, f.written))

theorem printable_written (forms : List FieldForm) : Json.Printable (written forms) := by
  refine .record fun e member => ?_
  obtain ⟨f, -, rfl⟩ := List.mem_map.1 member
  exact f.printable

section Forms

variable {forms : List FieldForm} (distinct : (forms.map (·.names)).Pairwise List.Disjoint)
include distinct

theorem given_written {f : FieldForm} (field : f ∈ forms) :
    given f.names (forms.map fun f => (f.name, f.written)) = [f.written] := by
  induction forms with
  | nil => cases field
  | cons g forms ih =>
    rw [List.map_cons, List.pairwise_cons] at distinct
    obtain ⟨apart, distinct⟩ := distinct
    rw [List.map_cons, given_cons]
    rcases List.mem_cons.1 field with rfl | field
    · have others : given f.names (forms.map fun f => (f.name, f.written)) = [] := by
        rw [given, List.map_eq_nil_iff, List.filter_eq_nil_iff]
        rintro e member named
        obtain ⟨h, field, rfl⟩ := List.mem_map.1 member
        exact apart h.names (List.mem_map_of_mem field) (List.contains_iff_mem.1 named)
          h.name_mem_names
      rw [if_pos f.name_mem_names, others]
    · have other : g.name ∉ f.names :=
        fun named => apart f.names (List.mem_map_of_mem field) g.name_mem_names named
      rw [if_neg other, ih distinct field]

/-- A record is spelled as it is written if its fields are. -/
theorem spells_written (sound : ∀ f ∈ forms, f.Sound) : Spells forms (written forms) :=
  .map fun f field => ⟨some f.written, given_written distinct field, sound f field⟩

/-- The values put into the slots spell the fields. -/
theorem Spells.exists_slots {v : Value} (spells : Spells forms v) :
    ∃ slots, slots? (forms.map (·.names)) v = some slots ∧
      List.Forall₂ FieldForm.Spells forms slots := by
  cases spells with
  | map spelled =>
    choose! slotOf given_eq spelled using spelled
    refine ⟨forms.map slotOf, (slots?_record_eq_some_iff distinct).2 ⟨?_, ?_⟩, ?_⟩
    · simp
    · intro i names at_i
      rw [List.getElem?_map, Option.map_eq_some_iff] at at_i
      obtain ⟨f, at_i, rfl⟩ := at_i
      rw [slotValues, List.getElem?_map, at_i, Option.map_some, Option.join_some]
      exact given_eq f (List.mem_of_getElem? at_i)
    · exact List.forall₂_map_right_iff.2 (List.forall₂_same.2 spelled)
  | @list items length spelled =>
    refine ⟨items.map some ++ List.replicate (forms.length - items.length) none, ?_, ?_⟩
    · rw [slots?, List.length_map, if_pos length]
    · have whole : (items.map some ++ List.replicate (forms.length - items.length) none).length =
          forms.length := by
        rw [List.length_append, List.length_map, List.length_replicate]
        omega
      refine List.forall₂_iff_get.2 ⟨whole.symm, fun i bound bound' => ?_⟩
      have slot := spelled i forms[i] (List.getElem?_eq_getElem bound)
      have at_i : (items.map some ++ List.replicate (forms.length - items.length) none)[i] =
          items[i]? := by
        rw [List.getElem_append]
        split
        · rename_i inside
          rw [List.getElem_map, List.getElem?_eq_getElem]
        · rename_i beyond
          rw [List.length_map] at beyond
          rw [List.getElem_replicate, List.getElem?_eq_none (Nat.not_lt.1 beyond)]
      rwa [List.get_eq_getElem, List.get_eq_getElem, at_i]

end Forms

end PodCache.Record
