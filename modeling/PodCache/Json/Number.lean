import PodCache.IntRange
import PodCache.Value
import PodCache.Text.Digits

/-!
# Numbers in JSON documents

A numeral keeps its digits as they were written. It denotes an exact integer if it
has no point and no exponent and fits 64 bits, with or without a sign; any other
numeral denotes a binary floating-point number. That number is computed from the
digits which fit 64 bits: further digits before the point only count towards the
exponent, further digits after it are dropped, and the power of ten is applied in
one or more rounded steps. So the last bits may differ from the nearest number.
-/

namespace PodCache.Json

open Decimal

/-- The exponent part of a numeral. -/
structure Exponent where
  negative : Bool
  digits : List Nat
  deriving DecidableEq, Repr

/-- A JSON number as it is written. -/
structure Numeral where
  negative : Bool
  integral : List Nat
  /-- The digits after the point; empty if there is no point. -/
  fraction : List Nat
  exponent : Option Exponent
  deriving DecidableEq, Repr

namespace Numeral

/-- The largest significand that 64 bits hold. -/
def maxSignificand : Nat := 18446744073709551615

/-- Appends digits to a significand as long as 64 bits hold the result, and returns
    it with the digits that were left. -/
def accumulate (significand : Nat) : List Nat → Nat × List Nat
  | [] => (significand, [])
  | d :: ds =>
    if significand * 10 + d ≤ maxSignificand then accumulate (significand * 10 + d) ds
    else (significand, d :: ds)

/-- A decimal exponent, or `none` if 32 bits with a sign do not hold its digits. -/
def Exponent.value? (e : Exponent) : Option Int :=
  let n := Text.ofDigits 10 e.digits
  if IntRange.signed32.contains n then some (if e.negative then -n else n) else none

/-- A sum held within 32 bits with a sign. -/
def saturate (i : Int) : Int := IntRange.signed32.clamp i

/-- `m * 10 ^ e`, or `none` if that is beyond the format. Very small powers are
    applied in steps of `10 ^ 308`. -/
def scale? (m : Magnitude) (e : Int) : Option Magnitude :=
  if 0 ≤ e then
    if m.significand = 0 then some m
    else if 308 < e then none
    else
      let p := m.mul (.powerOfTen e.toNat)
      if p.isFinite then some p else none
  else go (-e).toNat m
where
  /-- Divides by `10 ^ k`, until nothing is left. -/
  go (k : Nat) (m : Magnitude) : Option Magnitude :=
    if k ≤ 308 then some (m.div (.powerOfTen k))
    else if m.significand = 0 then some m
    else go (k - 308) (m.div (.powerOfTen 308))
  termination_by k

/-- The number that the digits denote as a floating-point number. -/
def toMagnitude? (n : Numeral) : Option Magnitude :=
  let (whole, dropped) := accumulate 0 n.integral
  let (significand, rest) := accumulate whole n.fraction
  let places : Int := (dropped.length : Int) - (n.fraction.length - rest.length)
  match n.exponent with
  | none => scale? (.ofNat significand) places
  | some e => match Exponent.value? e with
    | some k => scale? (.ofNat significand) (saturate (places + k))
    | none =>
      if significand ≠ 0 ∧ !e.negative then none else some .zero

/-- The value of a numeral: an integer if it is written as one and fits 64 bits, and
    unreadable beyond the range of floating-point numbers. The numeral `-0` is not
    an integer, since it has a sign to keep. -/
def toValue (n : Numeral) : Value :=
  let whole := Text.ofDigits 10 n.integral
  let written := n.fraction.isEmpty && n.exponent.isNone
  if written && !n.negative && IntRange.unsigned64.contains whole then .int whole
  else if written && n.negative && 0 < whole && IntRange.signed64.contains (-whole) then
    .int (-whole)
  else match n.toMagnitude? with
    | some m => .float (.finite n.negative m)
    | none => .unreadable

end Numeral

end PodCache.Json
