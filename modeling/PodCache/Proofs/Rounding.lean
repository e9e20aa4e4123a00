import Mathlib.Data.Rat.Floor
import PodCache.Quantity.Basic

/-!
# Rounding up

The quotient rounded up is the least integer whose product with the divisor reaches the
dividend, so it is the ceiling of the exact quotient. Rounding never leaves a range that
holds both the dividend and nothing.
-/

namespace PodCache

variable {n d : Int}

theorem ceilDiv_le_iff (positive : 0 < d) (q : Int) : ceilDiv n d ≤ q ↔ n ≤ q * d := by
  unfold ceilDiv
  by_cases exact : n % d = 0
  · have whole : n / d * d = n := Int.ediv_mul_cancel_of_emod_eq_zero exact
    rw [if_pos exact, Int.add_zero]
    conv_rhs => rw [← whole]
    exact (Int.mul_le_mul_right positive).symm
  · -- Between the quotient and the next integer no product reaches the dividend.
    have apart : n ≠ q * d := by
      rintro rfl
      exact exact (Int.mul_emod_left q d)
    rw [if_neg exact, Int.add_one_le_iff, Int.ediv_lt_iff_lt_mul positive]
    omega

theorem ceilDiv_eq_ceil (positive : 0 < d) : ceilDiv n d = ⌈(n : ℚ) / d⌉ := by
  have rational : (0 : ℚ) < d := Int.cast_pos.2 positive
  apply eq_of_forall_ge_iff
  intro q
  rw [ceilDiv_le_iff positive, Int.ceil_le, div_le_iff₀ rational]
  norm_cast

theorem ceilDiv_le {most : Int} (positive : 0 < d) (nonneg : 0 ≤ most) (bound : n ≤ most) :
    ceilDiv n d ≤ most := by
  rw [ceilDiv_le_iff positive]
  calc n ≤ most * 1 := by omega
    _ ≤ most * d := Int.mul_le_mul_of_nonneg_left positive nonneg

theorem le_ceilDiv {least : Int} (positive : 0 < d) (nonpos : least ≤ 0) (bound : least ≤ n) :
    least ≤ ceilDiv n d := by
  by_contra below
  have reached : n ≤ (least - 1) * d := (ceilDiv_le_iff positive _).1 (by omega)
  have further : (least - 1) * d ≤ (least - 1) * 1 :=
    Int.mul_le_mul_of_nonpos_left (by omega) positive
  omega

/-- A quotient of less than one, in either direction, rounds to one or to nothing. -/
theorem ceilDiv_of_natAbs_lt (small : n.natAbs < d) : ceilDiv n d = if 0 < n then 1 else 0 := by
  have positive : 0 < d := by omega
  split
  · have most := (@ceilDiv_le_iff n d positive 1).2 (by omega)
    have least := mt (@ceilDiv_le_iff n d positive 0).1 (by omega)
    omega
  · have most := (@ceilDiv_le_iff n d positive 0).2 (by omega)
    have least := mt (@ceilDiv_le_iff n d positive (-1)).1 (by omega)
    omega

theorem Quantity.nanos_clamp (least : minNanos ≤ n) (most : n ≤ maxNanos) :
    (clamp n).nanos = n := by
  simp only [clamp]
  omega

end PodCache
