import PodCache.IntRange
import PodCache.Outcome
import PodCache.Table
import PodCache.Text.Quoted

/-!
# Typed annotations

Annotations are texts. A decoder turns the text of one annotation into a typed
value; a lookup fails only if the annotation is there and its decoder rejects it, and
stops only if its decoder does.
-/

namespace PodCache.Annotations

/-- The integer types that an annotation can be decoded into. Words have 64 bits. -/
inductive IntegerType where
  | signed64
  | unsigned64
  | signedWord
  | unsignedWord
  deriving DecidableEq, Repr

namespace IntegerType

/-- The name of the type in messages. -/
def name : IntegerType → String
  | signed64 => "i64"
  | unsigned64 => "u64"
  | signedWord => "isize"
  | unsignedWord => "usize"

/-- Whether the type has negative values. -/
def isSigned : IntegerType → Bool
  | signed64 | signedWord => true
  | unsigned64 | unsignedWord => false

/-- The values of the type. -/
def range (t : IntegerType) : IntRange := if t.isSigned then .signed64 else .unsigned64

end IntegerType

/-- Why the text of an annotation was rejected. -/
inductive DecodeError where
  | invalidBool (value : String)
  | invalidInteger (value : String)
  | integerOutOfRange (value : String) (target : IntegerType)
  | invalidJson
  /-- A decoder given by the caller failed with a message. -/
  | custom (message : String)
  deriving DecidableEq, Repr

/-- The wording of a decode error. -/
def DecodeError.message : DecodeError → String
  | .invalidBool value => "invalid boolean " ++ Text.quoted value
  | .invalidInteger value => "invalid integer " ++ Text.quoted value
  | .integerOutOfRange value target =>
    "integer " ++ Text.quoted value ++ " out of range for " ++ target.name
  | .invalidJson => "invalid JSON document"
  | .custom message => "custom annotation decoder failed: " ++ message

/-- An annotation whose text was rejected. -/
structure Rejected where
  key : String
  cause : DecodeError
  deriving DecidableEq, Repr

/-- The wording of a rejected annotation, its cause aside. -/
def Rejected.message (r : Rejected) : String := "failed to decode annotation " ++ r.key

/-- What turns the text of an annotation into a value (`decode_annotation`). -/
abbrev Decoder (α : Type) := String → Outcome DecodeError α

/-- Takes the text as it is. -/
def text : Decoder String := .ok

/-- The spellings of the two truth values. -/
def bool : Decoder Bool := fun raw =>
  if raw ∈ ["1", "t", "T", "TRUE", "true", "True"] then .ok true
  else if raw ∈ ["0", "f", "F", "FALSE", "false", "False"] then .ok false
  else .error (.invalidBool raw)

/-- A decoder given by the caller, whose failure is a message. -/
def custom {α : Type} (decode : String → Except String α) : Decoder α := fun raw =>
  match decode raw with
  | .ok a => .ok a
  | .error message => .error (.custom message)

/-- Looks an annotation up and decodes it (`annotation_object`, or with a decoder given
    by the caller `annotation_object_with`). A missing annotation never reaches the
    decoder. -/
def lookup {α : Type} (annotations : Table String) (key : String) (decode : Decoder α) :
    Outcome Rejected (Option α) :=
  match annotations[key]? with
  | none => .ok none
  | some raw => (some <$> decode raw).mapError (⟨key, ·⟩)

theorem lookup_of_not_mem {α : Type} {annotations : Table String} {key : String}
    (missing : key ∉ annotations) (decode : Decoder α) :
    lookup annotations key decode = .ok none := by
  simp [lookup, missing]

end PodCache.Annotations
