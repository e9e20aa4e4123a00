import PodCache.IntRange
import PodCache.Outcome
import PodCache.Table
import PodCache.Value

/-!
# Reading and writing values

`Codec α` says how a type is written as a value and read back. Records are written
as maps under their field names. They are read from a map, whose unknown keys are
passed over and whose known keys may each occur once, or from the list of their
fields in order, the last of which may be missing.
-/

namespace PodCache

/-- Where a value stands: in a message of its own, or inside a tagged event. -/
inductive Place where
  | message
  | event
  deriving DecidableEq, Repr

/-- How values of a type are written and read. -/
class Codec (α : Type) where
  encode : α → Value
  decode : Place → Value → Option α

export Codec (encode decode)

namespace Codec

instance : Codec String where
  encode := .text
  decode
    | _, .text s => some s
    | _, _ => none

instance : Codec UInt32 where
  encode n := .int n.toNat
  decode
    | _, .int i => if IntRange.unsigned32.contains i then some (.ofNat i.toNat) else none
    | _, _ => none

instance : Codec Int64 where
  encode n := .int n.toInt
  decode
    | _, .int i => if IntRange.signed64.contains i then some (.ofInt i) else none
    | _, _ => none

variable {α : Type} [Codec α]

instance : Codec (List α) where
  encode l := .list (l.map encode)
  decode
    | place, .list items => items.mapM (decode place)
    | _, _ => none

/-- A part that may be absent is null if it is. -/
instance : Codec (Option α) where
  encode
    | some a => encode a
    | none => .null
  decode
    | _, .null => some none
    | place, v => (decode place v).map some

/-- Reads the entries of a table into `t`. -/
def decodeEntries (place : Place) (t : Table α) : List (Value × Value) → Option (Table α)
  | [] => some t
  | (.text k, v) :: entries => do decodeEntries place (t.insert k (← decode place v)) entries
  | _ => none

instance : Codec (Table α) where
  encode t := .record (t.toList.map fun (k, a) => (k, encode a))
  decode
    | place, .map entries => decodeEntries place ∅ entries
    | _, _ => none

/-- Reads a name, or a map from the name to nothing. Inside an event the map may also
    hold an empty map, and may give the position of the name instead. -/
def name? (names : List (List String)) : Place → Value → Option Nat
  | _, .text s => names.findIdx? (·.contains s)
  | _, .map [(.text s, .null)] => names.findIdx? (·.contains s)
  | .event, .map [(.text s, .map [])] => names.findIdx? (·.contains s)
  | .event, .map [(.int i, .null)] => index? i
  | .event, .map [(.int i, .map [])] => index? i
  | _, _ => none
where
  /-- A position among the names. -/
  index? (i : Int) : Option Nat := if 0 ≤ i ∧ i < names.length then some i.toNat else none

end Codec

/-! ### Records -/

namespace Record

/-- The position of the field that a key names, `some none` for a key that names no
    field, or `none` for a key that cannot name one. -/
def position? (fields : List (List String)) : Value → Option (Option Nat)
  | .text s => some (fields.findIdx? (·.contains s))
  | .int i => if 0 ≤ i then some (if i < fields.length then some i.toNat else none) else none
  | _ => none

/-- Puts each entry of a map into the slot of its field, unless the slot is taken. -/
def fill (fields : List (List String)) (slots : List (Option Value)) :
    List (Value × Value) → Option (List (Option Value))
  | [] => some slots
  | (k, v) :: entries =>
    match position? fields k with
    | none => none
    | some none => fill fields slots entries
    | some (some i) =>
      match slots[i]? with
      | some none => fill fields (slots.set i (some v)) entries
      | _ => none

/-- The values of the fields of a record, in the order of the fields; each field may be
    known by several names. -/
def slots? (fields : List (List String)) : Value → Option (List (Option Value))
  | .map entries => fill fields (fields.map fun _ => none) entries
  | .list items =>
    if items.length ≤ fields.length then
      some (items.map some ++ List.replicate (fields.length - items.length) none)
    else none
  | _ => none

variable {α : Type} [Codec α]

/-- The value of a field, or a default if the field is missing. -/
def field (place : Place) (absent : α) : Option Value → Option α
  | none => some absent
  | some v => decode place v

/-- The value of a field that may not be missing. -/
def required (place : Place) : Option Value → Option α
  | none => none
  | some v => decode place v

/-! ### Visits

A visit reads the parts of a value in the order in which they stand, and ends at the
first that it cannot read, as a reader does that takes the parts from a text. -/

/-- Visits the entries of a map whose keys name fields. -/
def visitEntries (fields : List (List String)) (read : Nat → Value → Outcome Unit Unit)
    (slots : List (Option Value)) : List (Value × Value) → Outcome Unit Unit
  | [] => .ok ()
  | (k, v) :: entries =>
    match position? fields k with
    | none => .error ()
    | some none => visitEntries fields read slots entries
    | some (some i) =>
      match slots[i]? with
      | some none => do
        read i v
        visitEntries fields read (slots.set i (some v)) entries
      | _ => .error ()

/-- Visits the fields of a record from position `i` on. -/
def visitItems (read : Nat → Value → Outcome Unit Unit) (i : Nat) :
    List Value → Outcome Unit Unit
  | [] => .ok ()
  | v :: items => do
    read i v
    visitItems read (i + 1) items

/-- Visits the fields of a record. A list is found to be too long at its end. -/
def visit (fields : List (List String)) (read : Nat → Value → Outcome Unit Unit) :
    Value → Outcome Unit Unit
  | .map entries => visitEntries fields read (fields.map fun _ => none) entries
  | .list items => do
    visitItems read 0 (items.take fields.length)
    if items.length ≤ fields.length then .ok () else .error ()
  | _ => .error ()

end Record

/-- Visits the values of entries whose keys are texts. -/
def visitTexts (read : Value → Outcome Unit Unit) : List (Value × Value) → Outcome Unit Unit
  | [] => .ok ()
  | (.text _, v) :: entries => do
    read v
    visitTexts read entries
  | _ => .error ()

/-- Visits the values of a table. -/
def visitTable (read : Value → Outcome Unit Unit) : Value → Outcome Unit Unit
  | .map entries => visitTexts read entries
  | _ => .error ()

end PodCache
