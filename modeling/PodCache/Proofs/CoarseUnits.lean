import Mathlib.Order.Bounds.Defs
import PodCache.Proofs.MachineSteps

/-!
# Amounts in coarser units

Thousandths and whole units are the exact amount rounded up. The rounded quotient is the least
integer that reaches the dividend, and a machine computes it without a step that does not fit,
also at the ends of the range. So the coarser units grow with the amount, and it does not matter
whether the amount is rounded once, or to thousandths first.
-/

namespace PodCache

variable {n d : Int}

/-- The rounded quotient reaches the dividend, and no smaller integer does. -/
theorem ceilDiv_isLeast (positive : 0 < d) : IsLeast {q | n ≤ q * d} (ceilDiv n d) :=
  ⟨(ceilDiv_le_iff positive _).1 (Int.le_refl _), fun q => (ceilDiv_le_iff positive q).2⟩

theorem ceilDiv_mono (positive : 0 < d) {m : Int} (le : m ≤ n) : ceilDiv m d ≤ ceilDiv n d := by
  rw [ceilDiv_le_iff positive]
  exact Int.le_trans le (ceilDiv_isLeast positive).1

/-- Rounding twice comes to the same as rounding once. -/
theorem ceilDiv_ceilDiv (positive : 0 < d) {e : Int} (positive' : 0 < e) :
    ceilDiv (ceilDiv n d) e = ceilDiv n (d * e) := by
  apply eq_of_forall_ge_iff
  intro q
  rw [ceilDiv_le_iff positive', ceilDiv_le_iff positive,
    ceilDiv_le_iff (Int.mul_pos positive positive'), Int.mul_assoc, Int.mul_comm e d]

namespace Quantity

theorem nanosPerUnit_eq : nanosPerUnit = 1000000 * 1000 := by decide

theorem milliValue_eq_ceil (q : Quantity) : q.milliValue = ⌈(q.nanos : ℚ) / 10 ^ 6⌉ := by
  rw [milliValue, ceilDiv_eq_ceil (by decide)]
  norm_num

theorem value_eq_ceil (q : Quantity) : q.value = ⌈(q.nanos : ℚ) / 10 ^ 9⌉ := by
  rw [value, nanosPerUnit, ceilDiv_eq_ceil (by decide)]
  norm_num

theorem value_eq_ceilDiv_milliValue (q : Quantity) : q.value = ceilDiv q.milliValue 1000 := by
  rw [value, milliValue, ceilDiv_ceilDiv (by decide) (by decide), nanosPerUnit_eq]

theorem compare_isLE_iff (p q : Quantity) : (compare p q).isLE = true ↔ p.nanos ≤ q.nanos :=
  Int.isLE_compare

/-- A quotient by a positive integer of 128 bits is computed without a step that does not fit. -/
theorem Machine.quotient_of_contains {ε : Type} (dividend : IntRange.signed128.contains n = true)
    (divisor : IntRange.signed128.contains d = true) (positive : 0 < d) :
    (quotient n d : Outcome ε Int) = .ok (ceilDiv n d) := by
  obtain ⟨least, most⟩ := signed128_contains_iff.1 dividend
  exact quotient_eq positive least most (signed128_contains_iff.1 divisor).2

theorem signed128_contains_nanos (q : Quantity) : IntRange.signed128.contains q.nanos = true :=
  Machine.signed128_contains_iff.2 ⟨q.min_le, q.le_max⟩

/-- For every dividend and every positive divisor of 128 bits, a machine computes the least
    integer whose product with the divisor reaches the dividend, and every step of it fits. So
    thousandths and whole units are exact amounts rounded up, for every quantity; they grow with
    the quantity, and the whole units are the thousandths rounded up once more. -/
theorem rounded_views {ε : Type} :
    (∀ n d : Int, IntRange.signed128.contains n = true → IntRange.signed128.contains d = true →
      0 < d → IsLeast {q | n ≤ q * d} (ceilDiv n d) ∧
        (Machine.quotient n d : Outcome ε Int) = .ok (ceilDiv n d)) ∧
    (∀ q : Quantity,
      q.milliValue = ⌈(q.nanos : ℚ) / 10 ^ 6⌉ ∧ q.value = ⌈(q.nanos : ℚ) / 10 ^ 9⌉ ∧
      (Machine.quotient q.nanos 1000000 : Outcome ε Int) = .ok q.milliValue ∧
      (Machine.quotient q.nanos nanosPerUnit : Outcome ε Int) = .ok q.value) ∧
    (∀ p q : Quantity, (compare p q).isLE = true →
      p.milliValue ≤ q.milliValue ∧ p.value ≤ q.value) ∧
    (∀ q : Quantity, q.value = ceilDiv q.milliValue 1000) := by
  refine ⟨?_, ?_, ?_, value_eq_ceilDiv_milliValue⟩
  · intro n d dividend divisor positive
    exact ⟨ceilDiv_isLeast positive, Machine.quotient_of_contains dividend divisor positive⟩
  · intro q
    have dividend := signed128_contains_nanos q
    refine ⟨milliValue_eq_ceil q, value_eq_ceil q, ?_, ?_⟩
    · exact Machine.quotient_of_contains dividend (by decide) (by decide)
    · exact Machine.quotient_of_contains dividend (by decide) (by decide)
  · intro p q le
    have le := (compare_isLE_iff p q).1 le
    exact ⟨ceilDiv_mono (by decide) le, ceilDiv_mono (by decide) le⟩

example : ceilDiv minNanos nanosPerUnit = -170141183460469231731687303715 := by decide

end Quantity

end PodCache
