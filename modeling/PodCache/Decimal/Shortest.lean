import PodCache.Decimal.Binary64

/-!
# Shortest decimals

The decimal text of a binary number with the fewest digits that still reads back
as that number. Of two such texts of one length the one nearer to the number is
taken, and on an exact tie the larger one. The text never has an exponent:
leading and trailing zeros are written out.
-/

namespace PodCache.Decimal

/-- The decimal `digits * 10 ^ point`. -/
structure Positional where
  digits : Nat
  point : Int
  deriving DecidableEq, Repr

/-- The fractions that round to one magnitude: those between `low` and `high` over
    a common denominator, the ends included iff `closed`. -/
structure RoundingInterval where
  low : Nat
  middle : Nat
  high : Nat
  den : Nat
  closed : Bool

namespace Magnitude

/-- The interval of fractions that round to a nonzero magnitude. The gap below a
    power of two is half as wide as the gap above it. -/
def roundingInterval (m : Magnitude) : RoundingInterval :=
  let half := if m.significand = leastFull ∧ minExponent < m.exponent then 1 else 2
  -- everything in quarters of the unit in the last place
  let (n, d) := toFraction ⟨4 * m.significand, m.exponent - 2⟩
  let (u, _) := toFraction ⟨1, m.exponent - 2⟩
  let u := if 0 ≤ m.exponent - 2 then u else 1
  { low := n - half * u, middle := n, high := n + 2 * u, den := d
    closed := m.significand % 2 == 0 }

end Magnitude

namespace RoundingInterval

/-- Whether the fraction `num / den` rounds to the magnitude of the interval. -/
def contains (i : RoundingInterval) (num den : Nat) : Bool :=
  if i.closed then i.low * den ≤ num * i.den && num * i.den ≤ i.high * den
  else i.low * den < num * i.den && num * i.den < i.high * den

/-- The number of digits before the point of the middle, negative for the zeros
    that follow the point. -/
def point (i : RoundingInterval) : Int :=
  if i.den ≤ i.middle then (Nat.toDigits 10 (i.middle / i.den)).length
  else
    -- the middle is below one: count the zeros after its point
    let k := (Nat.toDigits 10 (i.den / i.middle)).length
    if i.den ≤ i.middle * Nat.pow 10 (k - 1) then -((k : Int) - 2) else -((k : Int) - 1)

/-- The point of the decimal grid of `n` digits that rounds to the magnitude of the
    interval and is nearest to its middle. -/
def onGrid? (i : RoundingInterval) (n : Nat) : Option Positional :=
  let k := i.point - n
  let (num, den) :=
    if 0 ≤ k then (i.middle, i.den * Nat.pow 10 k.toNat) else (i.middle * Nat.pow 10 (-k).toNat, i.den)
  let q := num / den
  let fits (d : Nat) : Bool :=
    if 0 ≤ k then i.contains (d * Nat.pow 10 k.toNat) 1 else i.contains d (Nat.pow 10 (-k).toNat)
  match fits q, fits (q + 1) with
  | true, true => some ⟨if den ≤ 2 * (num % den) then q + 1 else q, k⟩
  | true, false => some ⟨q, k⟩
  | false, true => some ⟨q + 1, k⟩
  | false, false => none

end RoundingInterval

/-- The decimal with the fewest digits that rounds to a nonzero magnitude. Seventeen
    digits tell any two magnitudes apart, so the search ends with a hit. -/
def Magnitude.shortest (m : Magnitude) : Positional :=
  let interval := m.roundingInterval
  match (List.range' 1 17).findSome? interval.onGrid? with
  | some p => p
  | none => ⟨0, 0⟩

/-- A natural number times a power of ten, written without an exponent. -/
def Positional.toText (p : Positional) : List Char :=
  let digits := Nat.toDigits 10 p.digits
  if 0 ≤ p.point then digits ++ List.replicate p.point.toNat '0'
  else
    let places := (-p.point).toNat
    let padded := List.replicate (places + 1 - digits.length) '0' ++ digits
    let (whole, fraction) := padded.splitAt (padded.length - places)
    let fraction := (fraction.reverse.dropWhile (· == '0')).reverse
    if fraction.isEmpty then whole else whole ++ '.' :: fraction

/-- The shortest text of a number. -/
def Binary64.toText : Binary64 → List Char
  | .finite negative m =>
    let text := if m.significand = 0 then ['0'] else m.shortest.toText
    if negative then '-' :: text else text
  | .infinite negative => if negative then ['-', 'i', 'n', 'f'] else ['i', 'n', 'f']
  | .nan => ['N', 'a', 'N']

end PodCache.Decimal
