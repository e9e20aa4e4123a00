import PodCache.IntRange
import PodCache.Outcome
import PodCache.Quantity.Basic
import PodCache.Text.Quoted

/-!
# Arithmetic on a machine

The reader of quantities works with integers of 128 and of 32 bits. Some of its steps
look whether their result fits, and report an amount that is out of range if it does
not. The others rely on it: the machine stops where such a result does not fit.
-/

namespace PodCache

/-- Why a text denotes no quantity. Each cause carries the text as it was given. -/
inductive QuantityError where
  | empty
  | invalidNumber (value : String)
  | invalidSuffix (value suffix : String)
  | outOfRange (value : String)
  deriving DecidableEq, Repr

/-- The wording of a quantity error. -/
def QuantityError.message : QuantityError → String
  | .empty => "empty quantity"
  | .invalidNumber value => "invalid quantity number in " ++ Text.quoted value
  | .invalidSuffix value suffix =>
    "unsupported quantity suffix " ++ Text.quoted suffix ++ " in " ++ Text.quoted value
  | .outOfRange value => "quantity " ++ Text.quoted value ++ " is out of range"

namespace Quantity

/-- The largest exponent whose power of ten fits 128 bits with a sign (`MAX_POW10`). -/
def maxPower : Int := 38

/-- Ten to a power that is not negative. -/
def tenTo (power : Int) : Int := Nat.pow 10 power.toNat

namespace Machine

variable {ε : Type}

/-- The integers of 8 bits without a sign. -/
def byte : IntRange := ⟨0, 255⟩

/-- A result that has to fit. The machine stops if it does not. -/
def unchecked (r : IntRange) (i : Int) : Outcome ε Int :=
  if r.contains i then .ok i else .stop

/-- A result that need not fit. The amount is out of range if it does not. -/
def checked (value : String) (r : IntRange) (i : Int) : Outcome QuantityError Int :=
  if r.contains i then .ok i else .error (.outOfRange value)

/-- The number with one more digit at its end. -/
def appendDigit (value : String) (n : Int) (c : Char) : Outcome QuantityError Int := do
  let tens ← checked value .signed128 (n * 10)
  let digit ← unchecked byte (c.toNat - ('0'.toNat : Int))
  checked value .signed128 (tens + digit)

/-- Ten to a power, which is taken as an integer of 32 bits without a sign. -/
def powerOfTen (power : Int) : Outcome ε Int := do
  let power ← unchecked .unsigned32 power
  unchecked .signed128 (tenTo power)

/-- The quotient rounded up (`ceil_div`). The divisor has to be positive. -/
def quotient (n d : Int) : Outcome ε Int :=
  if d ≤ 0 then .stop
  else do
    let whole ← unchecked .signed128 (n / d)
    let rest ← unchecked .signed128 (n % d)
    unchecked .signed128 (whole + if rest = 0 then 0 else 1)

/-- `mantissa * 10 ^ shift`, rounded up. A shift is negated before its size is looked
    at, which is more than the least shift allows. -/
def scale (value : String) (mantissa shift : Int) : Outcome QuantityError Int :=
  if 0 ≤ shift then
    if maxPower < shift then .error (.outOfRange value)
    else do
      let power ← powerOfTen shift
      checked value .signed128 (mantissa * power)
  else do
    let places ← unchecked .signed32 (-shift)
    if maxPower < places then return if 0 < mantissa then 1 else 0
    else do
      let power ← powerOfTen places
      quotient mantissa power

/-- A number with or without a minus sign. -/
def withSign (negative : Bool) (n : Int) : Outcome ε Int :=
  if negative then unchecked .signed128 (-n) else return n

/-- The power of ten by which a scaled mantissa counts nano-units. -/
def shiftOf (value : String) (exponent : Int) (places : Nat) : Outcome QuantityError Int := do
  let places ← checked value .signed32 places
  let raised ← checked value .signed32 (exponent + 9)
  checked value .signed32 (raised - places)

/-- The quantity of so many nano-units, which have to be within bounds. -/
def amount (n : Int) : Outcome ε Quantity :=
  match ofNanos? n with
  | some q => .ok q
  | none => .stop

end Machine

end Quantity

end PodCache
