import PodCache.Quantity.Machine
import PodCache.Text.Blank
import PodCache.Text.Digits

/-!
# Reading quantities

A quantity text is an optional sign, a decimal number and a suffix. The suffix
names a power of 1024 (`Ki` to `Ei`), a power of ten (`n` to `E`) or a decimal
exponent (`e3`, `E-6`). Amounts finer than one nano-unit are rounded up.

Signs and suffixes are looked at before the size of the number: a text that is
malformed is never reported as out of range. All arithmetic is that of a machine, so
there are texts at which the reader stops.
-/

namespace PodCache

namespace Quantity

/-- What a suffix multiplies by: a power of two and a power of ten, the latter
    given by its exponent. -/
structure Scale where
  binary : Int
  exponent : Int
  deriving DecidableEq, Repr

/-- A decimal exponent of 32 bits with an optional sign. -/
def exponent? (cs : List Char) : Option Int :=
  match Text.readInt? 10 cs with
  | some e => if IntRange.signed32.contains e then some e else none
  | none => none

/-- The scale that a suffix denotes (`parse_suffix`). -/
def Scale.ofSuffix? : List Char → Option Scale
  | [] => some ⟨1, 0⟩
  | ['K', 'i'] => some ⟨1024, 0⟩
  | ['M', 'i'] => some ⟨1048576, 0⟩
  | ['G', 'i'] => some ⟨1073741824, 0⟩
  | ['T', 'i'] => some ⟨1099511627776, 0⟩
  | ['P', 'i'] => some ⟨1125899906842624, 0⟩
  | ['E', 'i'] => some ⟨1152921504606846976, 0⟩
  | ['n'] => some ⟨1, -9⟩
  | ['u'] => some ⟨1, -6⟩
  | ['m'] => some ⟨1, -3⟩
  | ['k'] => some ⟨1, 3⟩
  | ['M'] => some ⟨1, 6⟩
  | ['G'] => some ⟨1, 9⟩
  | ['T'] => some ⟨1, 12⟩
  | ['P'] => some ⟨1, 15⟩
  | ['E'] => some ⟨1, 18⟩
  | 'e' :: digits => (exponent? digits).map (⟨1, ·⟩)
  | 'E' :: digits => (exponent? digits).map (⟨1, ·⟩)
  | _ => none

/-- A quantity text taken apart at the end of its number. -/
structure Parts where
  negative : Bool
  integral : List Char
  /-- What follows the first point of the number. -/
  fraction : List Char
  suffix : List Char
  deriving DecidableEq, Repr

/-- A character of the number in a quantity text. -/
def isNumberChar (c : Char) : Bool := c.isDigit || c == '.'

/-- Takes a text apart: one sign, the longest run of digits and points, the rest. -/
def Parts.ofText (cs : List Char) : Parts :=
  let (negative, unsigned) := match cs with
    | '-' :: rest => (true, rest)
    | '+' :: rest => (false, rest)
    | _ => (false, cs)
  let number := unsigned.takeWhile isNumberChar
  { negative
    integral := number.takeWhile (· != '.')
    fraction := (number.dropWhile (· != '.')).drop 1
    suffix := unsigned.dropWhile isNumberChar }

/-- Whether the number has a digit and at most one point. -/
def Parts.isNumber (p : Parts) : Bool :=
  !(p.integral.isEmpty && p.fraction.isEmpty) && !p.fraction.contains '.'

/-- The quantity of a text in parts whose suffix has the given scale. The whole
    mantissa, and its product with the binary factor, have to fit 127 bits. -/
def ofParts (value : String) (p : Parts) (s : Scale) : Outcome QuantityError Quantity := do
  let digits ← (p.integral ++ p.fraction).foldlM (Machine.appendDigit value) 0
  let product ← Machine.checked value .signed128 (digits * s.binary)
  let mantissa ← Machine.withSign p.negative product
  if mantissa = 0 then return zero
  else do
    let shift ← Machine.shiftOf value s.exponent p.fraction.length
    Machine.amount (← Machine.scale value mantissa shift)

/-- The quantity that a text denotes, blanks at its ends aside (`parse_quantity`). -/
def parse (value : String) : Outcome QuantityError Quantity :=
  match Text.trim value.toList with
  | [] => .error .empty
  | cs =>
    let p := Parts.ofText cs
    if !p.isNumber then .error (.invalidNumber value)
    else match Scale.ofSuffix? p.suffix with
      | none => .error (.invalidSuffix value (String.ofList p.suffix))
      | some s => ofParts value p s

end Quantity

end PodCache
