import PodCache.Codec
import PodCache.Decimal.Shortest
import PodCache.Json.Reader
import PodCache.Quantity.Reader

/-!
# Quantities in documents

A document gives a quantity as a text or as a number. An integer of 64 bits counts
whole units exactly; any other number is taken as a floating-point number and read
through its shortest decimal text.
-/

namespace PodCache.Quantity

/-- Why a value denotes no quantity. -/
inductive ValueError where
  | quantity (error : QuantityError)
  /-- The value is neither a text nor a number. -/
  | mismatch
  deriving DecidableEq, Repr

/-- The wording of a value error. -/
def ValueError.message : ValueError → String
  | .quantity error => error.message
  | .mismatch => "data did not match any variant of untagged enum StringOrNumber"

/-- The quantity that a text stands for. -/
def ofText (s : String) : Outcome ValueError Quantity := (parse s).mapError .quantity

/-- The quantity that a value denotes. -/
def ofValue : Value → Outcome ValueError Quantity
  | .text s => ofText s
  | .int i =>
    if IntRange.signed64.contains i then .ok (ofUnits (.ofInt i))
    else ofText (String.ofList (Decimal.Binary64.ofInt i).toText)
  | .float x => ofText (String.ofList x.toText)
  | _ => .error .mismatch

instance : Codec Quantity where
  encode q := .text q.display
  decode _ v := (ofValue v).toOption

/-- Why a document denotes no quantity. -/
inductive DocumentError where
  /-- The text is not one document, or a scalar in it is unreadable. -/
  | malformed
  | value (error : ValueError)
  deriving DecidableEq, Repr

/-- The number of lists and maps that may stand one inside the other. -/
def maxNesting : Nat := 127

/-- The quantity that a text denotes as a document. A value that is no quantity is
    reported before anything that follows it. -/
def ofDocument (doc : String) : Outcome DocumentError Quantity :=
  match Json.read? doc.toList with
  | none => .error .malformed
  | some (v, rest) =>
    if !v.isReadable maxNesting then .error .malformed
    else do
      let q ← (ofValue v).mapError .value
      if rest.all Json.isSpace then return q else .error .malformed

end PodCache.Quantity
