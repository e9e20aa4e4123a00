/-!
# Binary floating-point numbers

The numbers of the 64-bit binary format as exact integers: a finite magnitude is
a significand below `2 ^ 53` times a power of two, and every operation computes
with unbounded integers and rounds once, to the nearest magnitude and to the even
significand on a tie. Rounding here has no upper end; `Magnitude.isFinite` says
whether the format holds the result.
-/

namespace PodCache.Decimal

/-- A magnitude `significand * 2 ^ exponent`. -/
structure Magnitude where
  significand : Nat
  exponent : Int
  deriving DecidableEq, Repr

namespace Magnitude

/-- `2 ^ 52`, the least significand of 53 bits. -/
def leastFull : Nat := 4503599627370496

/-- `2 ^ 53`, which every significand is below. -/
def significandBound : Nat := 9007199254740992

/-- The least exponent of the format. -/
def minExponent : Int := -1074

/-- Nothing, with the least exponent. -/
def zero : Magnitude := ⟨0, minExponent⟩

/-- Whether the magnitude is below `2 ^ 1024`. -/
def isFinite (m : Magnitude) : Bool :=
  m.significand == 0 || m.significand.log2 + m.exponent < 1024

/-- `num / den * 2 ^ (-e)` as a numerator and a denominator. -/
def scaleBy (num den : Nat) (e : Int) : Nat × Nat :=
  if 0 ≤ e then (num, den * Nat.pow 2 e.toNat) else (num * Nat.pow 2 (-e).toNat, den)

/-- The exponent at which the whole part of `num / den` takes 53 bits, but not less
    than the least exponent. -/
def roundingExponent (num den : Nat) : Int :=
  let e : Int := (num.log2 : Int) - den.log2 - 53
  let (n, d) := scaleBy num den e
  max minExponent (if significandBound ≤ n / d then e + 1 else e)

/-- The magnitude nearest to the fraction `num / den`. -/
def round (num den : Nat) : Magnitude :=
  if num = 0 then zero
  else
    let e := roundingExponent num den
    let (n, d) := scaleBy num den e
    let q := n / d
    let r := n % d
    let s := if d < 2 * r ∨ (d = 2 * r ∧ q % 2 = 1) then q + 1 else q
    if s = significandBound then ⟨leastFull, e + 1⟩ else ⟨s, e⟩

/-- The magnitude nearest to a natural number. -/
def ofNat (n : Nat) : Magnitude := round n 1

/-- The magnitude as a numerator and a denominator. -/
def toFraction (m : Magnitude) : Nat × Nat :=
  if 0 ≤ m.exponent then (m.significand * Nat.pow 2 m.exponent.toNat, 1)
  else (m.significand, Nat.pow 2 (-m.exponent).toNat)

/-- The product, rounded. -/
def mul (a b : Magnitude) : Magnitude :=
  round (a.toFraction.1 * b.toFraction.1) (a.toFraction.2 * b.toFraction.2)

/-- The quotient, rounded; the divisor is not zero. -/
def div (a b : Magnitude) : Magnitude :=
  round (a.toFraction.1 * b.toFraction.2) (a.toFraction.2 * b.toFraction.1)

/-- The power of ten, rounded. -/
def powerOfTen (k : Nat) : Magnitude := ofNat (Nat.pow 10 k)

example : ofNat (significandBound + 1) = ⟨leastFull, 1⟩ := by decide

example : round 1 10 = ⟨7205759403792794, -56⟩ := by decide

end Magnitude

/-- A number of the format. Zero has a sign too. -/
inductive Binary64 where
  | finite (negative : Bool) (magnitude : Magnitude)
  | infinite (negative : Bool)
  | nan
  deriving DecidableEq, Repr

/-- The number nearest to an integer. -/
def Binary64.ofInt (i : Int) : Binary64 := .finite (i < 0) (Magnitude.ofNat i.natAbs)

end PodCache.Decimal
