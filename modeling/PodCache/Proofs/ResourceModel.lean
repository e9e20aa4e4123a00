import PodCache.Proofs.QuantityDisplay
import PodCache.Proofs.ReadingOrder
import PodCache.Proofs.Spelling

/-!
# Resource models in documents

A resource model is read back from the document that it is written as, unless an amount in
it is the least one, whose text is out of range. It is also read from every other spelling
of the same model. A document that gives a field of the model under both of its names is
refused.
-/

namespace PodCache

open Record (field_of_spells FieldForm)
open Record.FieldForm (spells_orNamed)

/-! ### Quantities -/

/-- A quantity is spelled by the values that denote it. -/
instance : Spelling Quantity where
  Spells q v := Quantity.ofValue v = .ok q
  decode_of_spells denotes _ := congrArg Outcome.toOption denotes
  printable_encode q := .text q.display

theorem Quantity.spells_encode_iff (q : Quantity) :
    Spells q (encode q) ↔ q.nanos ≠ Quantity.minNanos := by
  change Quantity.ofText q.display = .ok q ↔ _
  rw [Quantity.ofText, Quantity.parse_display]
  by_cases least : q.nanos = Quantity.minNanos
  · simp [least]
  · simp [least]

/-! ### Sets -/

namespace PodResources

theorem mem_decodeMembers (entries : List (String × Value)) (before : TextSet) :
    ∃ after, decodeMembers before (entries.map fun (k, v) => (.text k, v)) = some after ∧
      ∀ k, k ∈ after ↔ k ∈ before ∨ k ∈ entries.map Prod.fst := by
  induction entries generalizing before with
  | nil => exact ⟨before, rfl, fun k => by simp⟩
  | cons e entries ih =>
    obtain ⟨j, v⟩ := e
    obtain ⟨after, read, members⟩ := ih (before.insert j)
    refine ⟨after, read, fun k => ?_⟩
    rw [members, Std.ExtTreeSet.mem_insert, Std.compare_eq_iff_eq, List.map_cons, List.mem_cons]
    constructor
    · rintro ((same | present) | later)
      · exact .inr (.inl same.symm)
      · exact .inl present
      · exact .inr (.inr later)
    · rintro (present | same | later)
      · exact .inl (.inr present)
      · exact .inl (.inl same.symm)
      · exact .inr later

/-- A set is spelled by a map whose keys are its members, whatever they lead to. The empty set
    may be null. -/
instance : Spelling TextSet where
  Spells s v := (s = ∅ ∧ v = .null) ∨
    ∃ entries, v = .record entries ∧ ∀ k, k ∈ s ↔ k ∈ entries.map Prod.fst
  decode_of_spells := by
    rintro s _ (⟨rfl, rfl⟩ | ⟨entries, rfl, members⟩) place
    · rfl
    · obtain ⟨after, read, members'⟩ := mem_decodeMembers entries ∅
      have same : after = s := by
        apply Std.ExtTreeSet.ext_mem
        intro k
        rw [members', members]
        simp
      exact read.trans (congrArg some same)
  printable_encode s := by
    refine .record fun e member => ?_
    obtain ⟨k, -, rfl⟩ := List.mem_map.1 member
    exact .bool true

instance : Canonical TextSet where
  spells_encode s := by
    refine .inr ⟨s.toList.map (·, .bool true), rfl, fun k => ?_⟩
    rw [List.map_map]
    simp

end PodResources

/-! ### Requirements -/

instance : Message ResourceRequirements where
  forms r := [(.of "Requests" ∅ r.requests : FieldForm).orNamed "requests",
    (.of "Limits" ∅ r.limits : FieldForm).orNamed "limits"]
  fields := ResourceRequirements.fields
  distinct := by simp [ResourceRequirements.fields]
  decode_of_slots {v slots r} sorted held place := by
    match slots, held with
    | _, .cons requests (.cons limits .nil) =>
      simp [decode, sorted, field_of_spells (spells_orNamed.1 requests),
        field_of_spells (spells_orNamed.1 limits)]

instance : Message PodResources where
  forms r := [(.of "Containers" ∅ r.containers : FieldForm).orNamed "containers",
    (.of "InitContainers" ∅ r.initContainers : FieldForm).orNamed "initContainers"]
  fields := PodResources.fields
  distinct := by simp [PodResources.fields]
  decode_of_slots {v slots r} sorted held place := by
    match slots, held with
    | _, .cons containers (.cons initContainers .nil) =>
      simp [decode, sorted, field_of_spells (spells_orNamed.1 containers),
        field_of_spells (spells_orNamed.1 initContainers)]

/-- Whether every amount is other than the least one. -/
def ResourceRequirements.IsWritable (c : ResourceRequirements) : Prop :=
  ∀ list ∈ [c.requests, c.limits], ∀ (name : String) (q : Quantity), list[name]? = some q →
    q.nanos ≠ Quantity.minNanos

/-- Whether every amount of every container is other than the least one. -/
def PodResources.IsWritable (r : PodResources) : Prop :=
  ∀ (id : String) (c : ResourceRequirements), r.containers[id]? = some c → c.IsWritable

theorem ResourceRequirements.IsWritable.spells_encode {c : ResourceRequirements}
    (writable : c.IsWritable) : Spells c (encode c) := by
  have amounts {list : ResourceList} (among : list ∈ [c.requests, c.limits]) :
      Spells list (encode list) :=
    ⟨_, rfl, Table.spelledBy_encode fun name q found =>
      q.spells_encode_iff.2 (writable list among name q found)⟩
  apply Message.spells_encode_of_sound
  intro f field
  rcases List.mem_pair.1 field with rfl | rfl
  · exact amounts List.mem_cons_self
  · exact amounts (List.mem_cons_of_mem _ List.mem_cons_self)

theorem PodResources.IsWritable.spells_encode {r : PodResources} (writable : r.IsWritable) :
    Spells r (encode r) := by
  apply Message.spells_encode_of_sound
  intro f field
  rcases List.mem_pair.1 field with rfl | rfl
  · exact ⟨_, rfl, Table.spelledBy_encode fun id c found => (writable id c found).spells_encode⟩
  · exact Canonical.spells_encode r.initContainers

/-! ### Fields given twice -/

namespace PodResources

/-- The maps in which a field is given under both of its names: a section of the model, or a
    field of the requirements of a container. -/
inductive GivesTwice : Value → Prop
  | topLevel {entries : List (String × Value)} {names : List String} : names ∈ fields →
      names ⊆ entries.map Prod.fst → GivesTwice (.record entries)
  | container {entries containers requirements : List (String × Value)} {key id : String}
      {names : List String} : key ∈ ["Containers", "containers"] →
      (key, .record containers) ∈ entries → (id, .record requirements) ∈ containers →
      names ∈ ResourceRequirements.fields → names ⊆ requirements.map Prod.fst →
      GivesTwice (.record entries)

/-- Every field has two names. -/
theorem exists_ne_of_mem_fields : ∀ names ∈ fields ++ ResourceRequirements.fields,
    ∃ j ∈ names, ∃ k ∈ names, j ≠ k := by
  decide

theorem two_le_length_given {names : List String}
    (field : names ∈ fields ++ ResourceRequirements.fields) {entries : List (String × Value)}
    (both : names ⊆ entries.map Prod.fst) : 2 ≤ (Record.given names entries).length := by
  obtain ⟨j, named, k, named', different⟩ := exists_ne_of_mem_fields names field
  exact Record.two_le_length_given different named named' (both named) (both named')

theorem decode_requirements_of_twice {entries : List (String × Value)} {names : List String}
    (field : names ∈ ResourceRequirements.fields) (both : names ⊆ entries.map Prod.fst)
    (place : Place) : decode place (.record entries) = (none : Option ResourceRequirements) := by
  have crowded : Record.slots? ResourceRequirements.fields (.record entries) = none :=
    Record.slots?_record_of_twice (Message.distinct (α := ResourceRequirements)) field
      (two_le_length_given (List.mem_append_right _ field) both)
  simp [decode, crowded]

/-- A model whose containers cannot be read cannot be read, under either name of the section. -/
theorem decode_of_containers {key : String} (named : key ∈ ["Containers", "containers"])
    {w : Value} {place : Place}
    (unread : decode place w = (none : Option (Table ResourceRequirements)))
    {entries : List (String × Value)} (given : (key, w) ∈ entries) :
    decode place (.record entries) = (none : Option PodResources) := by
  cases sorted : Record.slots? fields (.record entries) with
  | none => simp [decode, sorted]
  | some slots =>
    obtain ⟨length, held⟩ :=
      (Record.slots?_record_eq_some_iff (Message.distinct (α := PodResources))).1 sorted
    have first := held 0 ["Containers", "containers"] rfl
    have member := Record.mem_given named given
    match slots, length with
    | [containers, initContainers], _ =>
      have slot : containers = some w := by
        rw [first] at member
        simpa [Record.slotValues] using member
      have unread : Record.field place (∅ : Table ResourceRequirements) containers = none := by
        rw [slot]
        exact unread
      change (Record.slots? fields (.record entries) >>= _) = none
      rw [sorted]
      change (Record.field place ∅ containers >>= _) = none
      rw [unread]
      rfl

/-- A model with a field given twice is refused. -/
theorem decode_of_givesTwice {v : Value} (twice : GivesTwice v) (place : Place) :
    decode place v = (none : Option PodResources) := by
  cases twice with
  | @topLevel entries names field both =>
    have crowded : Record.slots? fields (.record entries) = none :=
      Record.slots?_record_of_twice (Message.distinct (α := PodResources)) field
        (two_le_length_given (List.mem_append_left _ field) both)
    simp [decode, crowded]
  | @container entries containers requirements key id names named section_ member field both =>
    have unread := decode_requirements_of_twice field both place
    exact decode_of_containers named (Codec.decodeEntries_eq_none member unread ∅) section_

/-! ### A sample -/

/-- A model of one container and one init container. -/
def sample : PodResources where
  containers := (∅ : Table ResourceRequirements).insert "app"
    { requests := (∅ : ResourceList).insert "cpu" ⟨100000000, by decide, by decide⟩ }
  initContainers := (∅ : TextSet).insert "setup"

/-- Another way to write the sample: the names of its fields are spelt with small letters, its
    sections change places, a section is missing and there are unknown fields. -/
def sampleDocument : String :=
  "\x7b\"extra\": [true], \"initContainers\": \x7b\"setup\": null\x7d, \"containers\":" ++
    "\x7b\"app\": \x7b\"note\": 1, \"requests\": \x7b\"cpu\": \"100m\"\x7d\x7d\x7d\x7d"

/-- The value of that document. -/
def sampleValue : Value :=
  .record [("extra", .list [.bool true]), ("initContainers", .record [("setup", .null)]),
    ("containers", .record [("app", .record [("note", .int 1),
      ("requests", .record [("cpu", .text "100m")])])])]

theorem sample_isWritable : sample.IsWritable := by
  intro id c found list among name q found'
  obtain ⟨-, rfl⟩ := Table.singleton_cases found
  rcases List.mem_pair.1 among with rfl | rfl
  · obtain ⟨-, rfl⟩ := Table.singleton_cases found'
    decide
  · cases Std.ExtTreeMap.getElem?_empty.symm.trans found'

theorem spelledBy_singleton {α : Type} [Codec α] [Spelling α] (k : String) {a : α} {v : Value}
    (spelled : Spells a v) : Table.SpelledBy ((∅ : Table α).insert k a) [(k, v)] := by
  constructor
  · intro j present
    obtain ⟨w, found⟩ := (Table.mem_iff _ j).1 present
    exact ⟨(k, v), List.mem_cons_self, (Table.singleton_cases found).1⟩
  · intro e member
    rw [List.mem_singleton.1 member]
    exact ⟨a, by rw [Table.getElem?_insert, if_pos rfl], spelled⟩

theorem spells_sample : Spells sample sampleValue := by
  have amount : Spells (⟨100000000, by decide, by decide⟩ : Quantity) (.text "100m") := rfl
  refine .map fun f field => ?_
  rcases List.mem_pair.1 field with rfl | rfl
  · refine ⟨some (.record [("app", _)]), rfl, _, rfl, spelledBy_singleton "app" ?_⟩
    refine .map fun f field => ?_
    rcases List.mem_pair.1 field with rfl | rfl
    · exact ⟨some (.record [("cpu", _)]), rfl, _, rfl, spelledBy_singleton "cpu" amount⟩
    · exact ⟨none, rfl, rfl⟩
  · refine ⟨some (.record [("setup", .null)]), rfl, .inr ⟨_, rfl, fun k => ?_⟩⟩
    simp only [sample, Std.ExtTreeSet.mem_insert, Std.compare_eq_iff_eq]
    simp [eq_comm]

/-! ### Documents -/

theorem resources_of_ofDocument? {doc : String} {r : PodResources}
    (read : ofDocument? doc = some r) : Annotations.resources doc = .ok r := by
  rcases Annotations.resources_cases doc with ⟨r', found, decoded⟩ | ⟨unread, -⟩
  · cases found.symm.trans read
    exact decoded
  · cases unread.symm.trans read

/-- A text without a model is refused as an annotation, unless it has an amount at which the
    machine stops. -/
theorem resources_of_ofDocument?_eq_none {doc : String} {v : Value}
    (parsed : Json.document? doc = some v) (unread : ofDocument? doc = none) :
    Annotations.resources doc = .error .invalidJson ∨
      (Annotations.resources doc = .stop ∧ ∃ s, v.HasText s ∧ Quantity.Overflows s) := by
  rcases Annotations.resources_cases doc with ⟨r, found, -⟩ | ⟨-, refused | stops⟩
  · cases found.symm.trans unread
  · exact .inl refused
  · have held := Annotations.exists_overflows_of_stop stops
    unfold Json.document? at parsed
    split at parsed
    · rename_i read
      split at parsed
      · cases parsed
        rw [Json.soFar_of_read? read] at held
        exact .inr ⟨stops, held⟩
      · cases parsed
    · cases parsed

/-- A model without a least amount is read back from the document that it is written as. It is
    read from every document that spells it, and from none that gives a field twice. As an
    annotation such a document is refused, unless it also has an amount at which the machine
    stops. -/
theorem ofDocument?_spelling :
    (∀ r : PodResources, r.IsWritable →
      (∀ place, decode place (encode r) = some r) ∧
      ∀ layout, ofDocument? (Json.print layout (encode r)) = some r ∧
        Annotations.resources (Json.print layout (encode r)) = .ok r) ∧
    (∀ (r : PodResources) (v : Value), Spells r v →
      (∀ place, decode place v = some r) ∧
      ∀ doc, Json.document? doc = some v →
        ofDocument? doc = some r ∧ Annotations.resources doc = .ok r) ∧
    (∀ v : Value, GivesTwice v →
      (∀ place, decode place v = (none : Option PodResources)) ∧
      ∀ doc, Json.document? doc = some v →
        ofDocument? doc = none ∧
        (Annotations.resources doc = .error .invalidJson ∨
          (Annotations.resources doc = .stop ∧ ∃ s, v.HasText s ∧ Quantity.Overflows s))) := by
  have read {v : Value} {o : Option PodResources} (decoded : ∀ place, decode place v = o)
      {doc : String} (parsed : Json.document? doc = some v) : ofDocument? doc = o := by
    unfold ofDocument?
    rw [parsed]
    exact decoded .message
  refine ⟨fun r writable => ?_, fun r v spelled => ?_, fun v twice => ?_⟩
  · have decoded := decode_of_spells writable.spells_encode
    refine ⟨decoded, fun layout => ?_⟩
    have found := read decoded (Json.document?_print layout (printable_encode r))
    exact ⟨found, resources_of_ofDocument? found⟩
  · have decoded := decode_of_spells spelled
    refine ⟨decoded, fun doc parsed => ?_⟩
    have found := read decoded parsed
    exact ⟨found, resources_of_ofDocument? found⟩
  · have refused := decode_of_givesTwice twice
    refine ⟨refused, fun doc parsed => ?_⟩
    have unread := read refused parsed
    exact ⟨unread, resources_of_ofDocument?_eq_none parsed unread⟩

-- The two documents are read by evaluation, character by character, which nests deeper than the
-- default bound.
set_option maxRecDepth 10000 in
theorem ofDocument?_spelling_sample :
    (sample.IsWritable ∧ ofDocument? (Json.print .indented (encode sample)) = some sample) ∧
    (Spells sample sampleValue ∧ Json.document? sampleDocument = some sampleValue ∧
      Annotations.resources sampleDocument = .ok sample) ∧
    (GivesTwice (.record [("Containers", .record []), ("containers", .record [])]) ∧
      Json.document? "\x7b\"Containers\": \x7b\x7d, \"containers\": \x7b\x7d\x7d" =
        some (.record [("Containers", .record []), ("containers", .record [])]) ∧
      ofDocument? "\x7b\"Containers\": \x7b\x7d, \"containers\": \x7b\x7d\x7d" = none) := by
  have parsed : Json.document? sampleDocument = some sampleValue := rfl
  have parsed' : Json.document? "\x7b\"Containers\": \x7b\x7d, \"containers\": \x7b\x7d\x7d" =
      some (.record [("Containers", .record []), ("containers", .record [])]) := rfl
  have twice : GivesTwice (.record [("Containers", .record []), ("containers", .record [])]) :=
    .topLevel List.mem_cons_self (by simp)
  exact ⟨⟨sample_isWritable, ((ofDocument?_spelling.1 sample sample_isWritable).2 .indented).1⟩,
    ⟨spells_sample, parsed, ((ofDocument?_spelling.2.1 sample _ spells_sample).2 _ parsed).2⟩,
    ⟨twice, parsed', ((ofDocument?_spelling.2.2 _ twice).2 _ parsed').1⟩⟩

end PodResources

end PodCache
