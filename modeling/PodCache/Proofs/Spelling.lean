import PodCache.Cri.State
import PodCache.Proofs.Record
import PodCache.Proofs.Table
import PodCache.Qos

/-!
# Spellings

The values that a reader takes for one and the same datum. Scalars have one spelling each,
states two. A list is spelled item by item, a table in any order of its entries, and a
record field by field, by a map or by a list. What is spelled by a value is read from it,
whatever the place; and what the writer writes can be printed.
-/

namespace PodCache

/-- The values that stand for the data of a type. -/
class Spelling (α : Type) [Codec α] where
  Spells : α → Value → Prop
  decode_of_spells : ∀ {a : α} {v : Value}, Spells a v → ∀ place, decode place v = some a
  printable_encode : ∀ a : α, Json.Printable (encode a)

export Spelling (Spells decode_of_spells printable_encode)

/-- What is written is one of the spellings. -/
class Canonical (α : Type) [Codec α] [Spelling α] : Prop where
  spells_encode : ∀ a : α, Spells a (encode a)

export Canonical (spells_encode)

/-! ### Scalars -/

instance : Spelling String where
  Spells s v := v = .text s
  decode_of_spells := by
    rintro s _ rfl place
    rfl
  printable_encode := .text

instance : Canonical String := ⟨fun _ => rfl⟩

instance : Spelling UInt32 where
  Spells n v := v = .int n.toNat
  decode_of_spells := by
    rintro n _ rfl place
    have fits : IntRange.unsigned32.contains n.toNat = true := by
      have := n.toNat_lt
      simp only [IntRange.contains_iff, IntRange.unsigned32]
      omega
    simp [decode, fits]
  printable_encode n := by
    have := n.toNat_lt
    refine .int (.inl ?_)
    simp only [IntRange.contains_iff, IntRange.signed64]
    omega

instance : Canonical UInt32 := ⟨fun _ => rfl⟩

instance : Spelling Int64 where
  Spells n v := v = .int n.toInt
  decode_of_spells := by
    rintro n _ rfl place
    have fits : IntRange.signed64.contains n.toInt = true := by
      have := n.le_toInt
      have := n.toInt_lt
      simp only [IntRange.contains_iff, IntRange.signed64]
      omega
    simp [decode, fits]
  printable_encode n := by
    have := n.le_toInt
    have := n.toInt_lt
    refine .int (.inl ?_)
    simp only [IntRange.contains_iff, IntRange.signed64]
    omega

instance : Canonical Int64 := ⟨fun _ => rfl⟩

/-- A state is spelled by its long name, or by its short one. -/
instance : Spelling Cri.SandboxState where
  Spells s v := v = .text s.longName ∨ v = .text s.name
  decode_of_spells := by
    rintro s _ (rfl | rfl) place <;> cases s <;> rfl
  printable_encode s := .text s.longName

instance : Canonical Cri.SandboxState := ⟨fun _ => .inl rfl⟩

instance : Spelling Cri.ContainerState where
  Spells s v := v = .text s.longName ∨ v = .text s.name
  decode_of_spells := by
    rintro s _ (rfl | rfl) place <;> cases s <;> rfl
  printable_encode s := .text s.longName

instance : Canonical Cri.ContainerState := ⟨fun _ => .inl rfl⟩

instance : Spelling QosClass where
  Spells q v := v = .text q.name
  decode_of_spells := by
    rintro q _ rfl place
    cases q <;> rfl
  printable_encode q := .text q.name

instance : Canonical QosClass := ⟨fun _ => rfl⟩

variable {α : Type} [Codec α] [Spelling α]

/-! ### Lists -/

theorem decode_list_of_spells {l : List α} {items : List Value}
    (spelled : List.Forall₂ Spells l items) (place : Place) :
    items.mapM (decode place) = some l := by
  induction spelled with
  | nil => rfl
  | cons first _ ih => rw [List.mapM_cons, decode_of_spells first place, ih]; rfl

instance : Spelling (List α) where
  Spells l v := ∃ items, v = .list items ∧ List.Forall₂ Spells l items
  decode_of_spells := by
    rintro l _ ⟨items, rfl, spelled⟩ place
    exact decode_list_of_spells spelled place
  printable_encode l := by
    refine .list fun v member => ?_
    obtain ⟨a, -, rfl⟩ := List.mem_map.1 member
    exact printable_encode a

instance [Canonical α] : Canonical (List α) :=
  ⟨fun l => ⟨l.map encode, rfl, List.forall₂_map_right_iff.2
    (List.forall₂_same.2 fun a _ => spells_encode a)⟩⟩

/-! ### Tables -/

/-- A table is spelled by a map if every key has an entry, and every entry spells what is
    under its key. -/
def Table.SpelledBy (t : Table α) (entries : List (String × Value)) : Prop :=
  (∀ k ∈ t, ∃ e ∈ entries, e.1 = k) ∧ ∀ e ∈ entries, ∃ a, t[e.1]? = some a ∧ Spells a e.2

theorem Table.spelledBy_encode {t : Table α}
    (sound : ∀ (k : String) a, t[k]? = some a → Spells a (encode a)) :
    t.SpelledBy (t.toList.map fun (k, a) => (k, encode a)) := by
  constructor
  · intro k member
    obtain ⟨a, found⟩ := (mem_iff t k).1 member
    have listed := Std.ExtTreeMap.mem_toList_iff_getElem?_eq_some.2 found
    exact ⟨_, List.mem_map_of_mem listed, rfl⟩
  · intro e member
    obtain ⟨⟨k, a⟩, listed, rfl⟩ := List.mem_map.1 member
    have found := Std.ExtTreeMap.mem_toList_iff_getElem?_eq_some.1 listed
    exact ⟨a, found, sound k a found⟩

/-- The reader of tables puts in one entry after the other. What is under a key in the end
    is what its entries spell, or was there before. -/
theorem Codec.decodeEntries_of_spells {t : Table α} {entries : List (String × Value)}
    (spelled : ∀ e ∈ entries, ∃ a, t[e.1]? = some a ∧ Spells a e.2) (place : Place)
    (before : Table α) :
    ∃ after, decodeEntries place before (entries.map fun (k, v) => (.text k, v)) = some after ∧
      ∀ k : String, after[k]? = if k ∈ entries.map Prod.fst then t[k]? else before[k]? := by
  induction entries generalizing before with
  | nil => exact ⟨before, rfl, fun k => rfl⟩
  | cons e entries ih =>
    obtain ⟨k, v⟩ := e
    obtain ⟨a, found, first⟩ := spelled (k, v) List.mem_cons_self
    obtain ⟨after, read, lookup⟩ :=
      ih (fun e member => spelled e (List.mem_cons_of_mem _ member)) (before.insert k a)
    refine ⟨after, ?_, fun j => ?_⟩
    · rw [List.map_cons, decodeEntries, decode_of_spells first place]
      exact read
    · rw [lookup j, Table.getElem?_insert, List.map_cons]
      by_cases later : j ∈ entries.map Prod.fst
      · rw [if_pos later, if_pos (List.mem_cons_of_mem k later)]
      · rw [if_neg later]
        by_cases here : k = j
        · subst here
          rw [if_pos rfl, if_pos List.mem_cons_self, found]
        · have absent : j ∉ k :: entries.map Prod.fst :=
            List.not_mem_cons_of_ne_of_not_mem (Ne.symm here) later
          rw [if_neg here, if_neg absent]

omit [Spelling α] in
/-- An entry that cannot be read spoils the table. -/
theorem Codec.decodeEntries_eq_none {entries : List (String × Value)} {e : String × Value}
    (member : e ∈ entries) {place : Place} (unread : decode place e.2 = (none : Option α))
    (before : Table α) :
    decodeEntries place before (entries.map fun (k, v) => (.text k, v)) = none := by
  induction entries generalizing before with
  | nil => cases member
  | cons f entries ih =>
    rw [List.map_cons, decodeEntries]
    rcases List.mem_cons.1 member with rfl | later
    · rw [unread]
      rfl
    · cases first : (decode place f.2 : Option α) with
      | none => rfl
      | some a => exact ih later (before.insert f.1 a)

theorem decode_table_of_spelledBy {t : Table α} {entries : List (String × Value)}
    (spelled : t.SpelledBy entries) (place : Place) :
    decode place (.record entries) = some t := by
  obtain ⟨after, read, lookup⟩ := Codec.decodeEntries_of_spells spelled.2 place ∅
  have same : after = t := by
    apply Table.ext
    intro k
    rw [lookup k]
    by_cases present : k ∈ t
    · obtain ⟨e, member, rfl⟩ := spelled.1 k present
      rw [if_pos (List.mem_map_of_mem member)]
    · have unfound := (Table.getElem?_eq_none_iff t k).2 present
      split
      · rfl
      · rw [unfound]
        exact Std.ExtTreeMap.getElem?_empty
  exact read.trans (congrArg some same)

instance : Spelling (Table α) where
  Spells t v := ∃ entries, v = .record entries ∧ t.SpelledBy entries
  decode_of_spells := by
    rintro t _ ⟨entries, rfl, spelled⟩ place
    exact decode_table_of_spelledBy spelled place
  printable_encode t := by
    refine .record fun e member => ?_
    obtain ⟨⟨k, a⟩, -, rfl⟩ := List.mem_map.1 member
    exact printable_encode a

instance [Canonical α] : Canonical (Table α) :=
  ⟨fun _ => ⟨_, rfl, Table.spelledBy_encode fun _ a _ => spells_encode a⟩⟩

/-! ### Fields -/

namespace Record

/-- A field that may be missing if it has its default. -/
def FieldForm.of (name : String) (absent a : α) : FieldForm where
  name
  aliases := []
  written := encode a
  printable := printable_encode a
  Spells
    | none => a = absent
    | some v => PodCache.Spells a v

/-- A field that may not be missing. -/
def FieldForm.required (name : String) (a : α) : FieldForm where
  name
  aliases := []
  written := encode a
  printable := printable_encode a
  Spells
    | none => False
    | some v => PodCache.Spells a v

/-- A field that has one more name. -/
def FieldForm.orNamed (f : FieldForm) (other : String) : FieldForm :=
  { f with aliases := other :: f.aliases }

theorem FieldForm.spells_orNamed {f : FieldForm} {other : String} {slot : Option Value} :
    (f.orNamed other).Spells slot ↔ f.Spells slot :=
  Iff.rfl

@[simp] theorem FieldForm.sound_of [Canonical α] (name : String) (absent a : α) :
    (FieldForm.of name absent a).Sound :=
  spells_encode a

@[simp] theorem FieldForm.sound_required [Canonical α] (name : String) (a : α) :
    (FieldForm.required name a).Sound :=
  spells_encode a

theorem field_of_spells {name : String} {absent a : α} {slot : Option Value}
    (spelled : (FieldForm.of name absent a).Spells slot) (place : Place) :
    field place absent slot = some a := by
  cases slot with
  | none => exact congrArg some spelled.symm
  | some v => exact decode_of_spells spelled place

theorem required_of_spells {name : String} {a : α} {slot : Option Value}
    (spelled : (FieldForm.required name a).Spells slot) (place : Place) :
    required place slot = some a := by
  cases slot with
  | none => exact spelled.elim
  | some v => exact decode_of_spells spelled place

end Record

/-! ### Records -/

/-- A record that is written and read by its fields. -/
class Message (α : Type) [Codec α] where
  /-- The forms of the fields, in their order. -/
  forms : α → List Record.FieldForm
  /-- The names of the fields. -/
  fields : List (List String)
  names_forms : ∀ a, (forms a).map (·.names) = fields := by intro _; rfl
  distinct : fields.Pairwise List.Disjoint := by simp
  encode_eq : ∀ a, encode a = Record.written (forms a) := by intro _; rfl
  decode_of_slots : ∀ {v : Value} {slots : List (Option Value)} {a : α},
    Record.slots? fields v = some slots → List.Forall₂ Record.FieldForm.Spells (forms a) slots →
    ∀ place, decode place v = some a

namespace Message

variable {β : Type} [Codec β] [Message β]

theorem distinct_forms (b : β) : ((forms b).map (·.names)).Pairwise List.Disjoint :=
  (names_forms b).symm ▸ distinct

/-- A record is spelled by the spellings of its fields. -/
instance : Spelling β where
  Spells b v := Record.Spells (forms b) v
  decode_of_spells {b} v spelled place := by
    obtain ⟨slots, sorted, held⟩ := spelled.exists_slots (distinct_forms b)
    rw [names_forms b] at sorted
    exact decode_of_slots sorted held place
  printable_encode b := (encode_eq b).symm ▸ Record.printable_written (forms b)

theorem spells_encode_of_sound {b : β} (sound : ∀ f ∈ forms b, f.Sound) : Spells b (encode b) :=
  (encode_eq b).symm ▸ Record.spells_written (distinct_forms b) sound

theorem canonical (sound : ∀ b : β, ∀ f ∈ forms b, f.Sound) : Canonical β :=
  ⟨fun b => spells_encode_of_sound (sound b)⟩

theorem ne_null_of_spells {b : β} {v : Value} (spelled : Spells b v) : v ≠ .null := by
  cases (show Record.Spells (forms b) v from spelled) <;> exact Value.noConfusion

/-- A record that may be absent is null if it is. -/
instance : Spelling (Option β) where
  Spells
    | none, v => v = .null
    | some b, v => Spells b v
  decode_of_spells {o} v spelled place := by
    cases o with
    | none => exact spelled ▸ rfl
    | some b =>
      have present : decode place v = (decode place v).map (some : β → Option β) := by
        cases v <;> first | rfl | exact absurd rfl (ne_null_of_spells spelled)
      rw [present, decode_of_spells spelled place, Option.map_some]
  printable_encode
    | none => .null
    | some b => printable_encode b

instance [Canonical β] : Canonical (Option β) where
  spells_encode
    | none => rfl
    | some b => spells_encode b

end Message

/-- Data is read back from what is written for it, as a value and as a document, and is also
    read from every other spelling. -/
structure ReadsBack (α : Type) [Codec α] [Spelling α] : Prop where
  decode_encode : ∀ (a : α) (place : Place), decode place (encode a) = some a
  read_print : ∀ (a : α) (layout : Json.Layout),
    (Json.document? (Json.print layout (encode a))).bind (decode .message) = some a
  decode_spelling : ∀ (a : α) (v : Value), Spells a v → ∀ place, decode place v = some a

theorem readsBack (α : Type) [Codec α] [Spelling α] [Canonical α] : ReadsBack α where
  decode_encode a := decode_of_spells (spells_encode a)
  read_print a layout := by
    rw [Json.document?_print layout (printable_encode a), Option.bind_some]
    exact decode_of_spells (spells_encode a) .message
  decode_spelling _ _ := decode_of_spells

end PodCache
