import Mathlib.Algebra.Order.Field.Power
import Mathlib.Data.Rat.Cast.Order
import Mathlib.Tactic.NormNum
import Mathlib.Tactic.Positivity
import Mathlib.Tactic.Ring
import PodCache.Decimal.Shortest

/-!
# Large magnitudes

Rounding to the binary format does not go below a power of two that the exact number reaches.
So a number of 63 bits or more stays as large as that through every rounded step, and its
shortest text is that of an integer with two zeros at its end: nineteen digits and more are
written with seventeen of them at most.
-/

namespace PodCache.Decimal

namespace Magnitude

/-- The exact value of a magnitude. -/
def toRat (m : Magnitude) : ℚ := m.significand * 2 ^ m.exponent

theorem significand_ne_zero {m : Magnitude} {j : Nat} (large : (2 : ℚ) ^ j ≤ m.toRat) :
    m.significand ≠ 0 := by
  intro nothing
  have positive : (0 : ℚ) < m.toRat := lt_of_lt_of_le (by positivity) large
  simp [toRat, nothing] at positive

/-! ### Rounding -/

section Fraction

variable {num den : Nat}

theorem scaleBy_ratio (num den : Nat) (e : Int) :
    ((scaleBy num den e).1 : ℚ) / (scaleBy num den e).2 = num / den / 2 ^ e := by
  unfold scaleBy
  split
  · rename_i nonneg
    obtain ⟨k, rfl⟩ := Int.eq_ofNat_of_zero_le nonneg
    simp [div_div]
  · rename_i negative
    obtain ⟨k, rfl⟩ : ∃ k : Nat, e = -k := ⟨(-e).toNat, by omega⟩
    simp [div_eq_mul_inv, mul_right_comm]

theorem scaleBy_pos (positive : 0 < den) (e : Int) : 0 < (scaleBy num den e).2 := by
  unfold scaleBy
  split
  · exact Nat.mul_pos positive (Nat.pow_pos (by decide))
  · exact positive

/-- The whole part of a scaled fraction, in terms of the fraction. -/
theorem le_scaleBy_iff (positive : 0 < den) (e : Int) (k : Nat) :
    k ≤ (scaleBy num den e).1 / (scaleBy num den e).2 ↔ (k : ℚ) * 2 ^ e ≤ num / den := by
  have divisor : 0 < (scaleBy num den e).2 := scaleBy_pos positive e
  have divisor' : (0 : ℚ) < (scaleBy num den e).2 := by exact_mod_cast divisor
  rw [Nat.le_div_iff_mul_le divisor, ← le_div_iff₀ (by positivity), ← scaleBy_ratio,
    le_div_iff₀ divisor']
  exact_mod_cast Iff.rfl

/-- The numbers of binary digits tell a fraction up to a factor of two. -/
theorem pow_log2_le (nonzero : num ≠ 0) (positive : 0 < den) :
    (2 : ℚ) ^ ((num.log2 : Int) - den.log2 - 1) ≤ num / den := by
  have upper : (den : ℚ) ≤ 2 ^ (den.log2 + 1) := by exact_mod_cast Nat.lt_log2_self.le
  have lower : (2 : ℚ) ^ num.log2 ≤ num := by exact_mod_cast Nat.log2_self_le nonzero
  have split : (2 : ℚ) ^ ((num.log2 : Int) - den.log2 - 1) = 2 ^ num.log2 / 2 ^ (den.log2 + 1) := by
    rw [sub_sub, zpow_sub₀ (by norm_num)]
    norm_cast
  rw [split]
  exact div_le_div₀ (by positivity) lower (by exact_mod_cast positive) upper

/-- Above the least exponent, one unit in the last place does not exceed the fraction. -/
theorem pow_roundingExponent_le (nonzero : num ≠ 0) (positive : 0 < den)
    (above : minExponent < roundingExponent num den) :
    (2 : ℚ) ^ roundingExponent num den ≤ num / den := by
  have grow {i j : Int} (le : i ≤ j) : (2 : ℚ) ^ i ≤ 2 ^ j := zpow_le_zpow_right₀ (by norm_num) le
  unfold roundingExponent at above ⊢
  dsimp only at above ⊢
  rw [max_eq_right (by omega)]
  split
  · rename_i full
    -- The whole part takes more than 53 bits, so it is still large when it is halved.
    refine le_trans ?_ ((le_scaleBy_iff positive _ _).1 full)
    rw [zpow_add₀ (by norm_num), mul_comm, zpow_one]
    refine mul_le_mul_of_nonneg_right ?_ (by positivity)
    norm_num [significandBound]
  · exact le_trans (grow (by omega)) (pow_log2_le nonzero positive)

/-- A significand that has grown to the bound is carried over into the exponent. -/
theorem toRat_carry (s : Nat) (e : Int) :
    (if s = significandBound then (⟨leastFull, e + 1⟩ : Magnitude) else ⟨s, e⟩).toRat =
      s * 2 ^ e := by
  split
  · rename_i full
    rw [full, toRat, zpow_add₀ (by norm_num)]
    norm_num [leastFull, significandBound]
    ring
  · rfl

/-- Rounding does not go below the whole part of the scaled fraction. -/
theorem le_round (nonzero : num ≠ 0) :
    ((scaleBy num den (roundingExponent num den)).1 /
        (scaleBy num den (roundingExponent num den)).2 : Nat) *
      (2 : ℚ) ^ roundingExponent num den ≤ (round num den).toRat := by
  unfold round
  rw [if_neg nonzero]
  dsimp only
  rw [toRat_carry]
  refine mul_le_mul_of_nonneg_right ?_ (by positivity)
  norm_cast
  split <;> omega

/-- A fraction that reaches a power of two still does when it is rounded. -/
theorem pow_le_round (positive : 0 < den) {j : Int} (least : minExponent ≤ j)
    (reached : (2 : ℚ) ^ j ≤ num / den) : (2 : ℚ) ^ j ≤ (round num den).toRat := by
  have nonzero : num ≠ 0 := by
    rintro rfl
    have := lt_of_lt_of_le (show (0 : ℚ) < 2 ^ j by positivity) reached
    simp at this
  refine le_trans ?_ (le_round nonzero)
  rcases Int.lt_or_le j (roundingExponent num den) with above | below
  · -- One unit in the last place exceeds the power already.
    have one := (le_scaleBy_iff positive _ 1).2
      (by simpa using pow_roundingExponent_le nonzero positive (Int.lt_of_le_of_lt least above))
    have one' : (1 : ℚ) ≤ ((scaleBy num den (roundingExponent num den)).1 /
        (scaleBy num den (roundingExponent num den)).2 : Nat) := by exact_mod_cast one
    calc (2 : ℚ) ^ j ≤ 1 * 2 ^ roundingExponent num den := by
          rw [one_mul]
          exact zpow_le_zpow_right₀ (by norm_num) above.le
      _ ≤ _ := mul_le_mul_of_nonneg_right one' (by positivity)
  · -- The power is a whole number of units in the last place.
    obtain ⟨k, same⟩ : ∃ k : Nat, j = k + roundingExponent num den :=
      ⟨(j - roundingExponent num den).toNat, by omega⟩
    have power : (2 : ℚ) ^ j = ((2 ^ k : Nat) : ℚ) * 2 ^ roundingExponent num den := by
      rw [same, zpow_add₀ (by norm_num)]
      norm_cast
    rw [power] at reached ⊢
    have whole := (le_scaleBy_iff positive _ _).2 reached
    exact mul_le_mul_of_nonneg_right (by exact_mod_cast whole) (by positivity)

end Fraction

theorem toFraction_ratio (m : Magnitude) : (m.toFraction.1 : ℚ) / m.toFraction.2 = m.toRat := by
  unfold toFraction toRat
  split
  · rename_i nonneg
    obtain ⟨k, same⟩ := Int.eq_ofNat_of_zero_le nonneg
    simp [same]
  · rename_i negative
    obtain ⟨k, same⟩ : ∃ k : Nat, m.exponent = -k := ⟨(-m.exponent).toNat, by omega⟩
    simp [same, div_eq_mul_inv]

theorem toFraction_pos (m : Magnitude) : 0 < m.toFraction.2 := by
  unfold toFraction
  split
  · exact Nat.one_pos
  · exact Nat.pow_pos (by decide)

theorem pow_le_ofNat {n j : Nat} (reached : 2 ^ j ≤ n) : (2 : ℚ) ^ j ≤ (ofNat n).toRat := by
  have reached' : (2 : ℚ) ^ (j : Int) ≤ n / (1 : Nat) := by
    rw [Nat.cast_one, div_one]
    exact_mod_cast reached
  have rounded := pow_le_round Nat.one_pos (by unfold minExponent; omega) reached'
  exact_mod_cast rounded

theorem pow_le_mul {a b : Magnitude} {i j : Nat} (left : (2 : ℚ) ^ i ≤ a.toRat)
    (right : (2 : ℚ) ^ j ≤ b.toRat) : (2 : ℚ) ^ (i + j) ≤ (a.mul b).toRat := by
  have product : (2 : ℚ) ^ ((i + j : Nat) : Int) ≤
      ((a.toFraction.1 * b.toFraction.1 : Nat) : ℚ) / (a.toFraction.2 * b.toFraction.2 : Nat) := by
    rw [Nat.cast_mul, Nat.cast_mul, mul_div_mul_comm, toFraction_ratio, toFraction_ratio,
      zpow_natCast, pow_add]
    exact mul_le_mul left right (by positivity) (le_trans (by positivity) left)
  have rounded := pow_le_round (Nat.mul_pos a.toFraction_pos b.toFraction_pos)
    (by unfold minExponent; omega) product
  exact_mod_cast rounded

/-! ### Texts -/

theorem roundingInterval_ratio (m : Magnitude) :
    (m.roundingInterval.middle : ℚ) / m.roundingInterval.den = m.toRat := by
  have quarters : (⟨4 * m.significand, m.exponent - 2⟩ : Magnitude).toRat = m.toRat := by
    rw [toRat, toRat, zpow_sub₀ (by norm_num)]
    push_cast
    ring
  exact (toFraction_ratio ⟨4 * m.significand, m.exponent - 2⟩).trans quarters

/-- The middle of the interval has a digit more before its point than the power of ten that it
    reaches has zeros. -/
theorem lt_point {m : Magnitude} {k : Nat} (nonzero : 0 < k) (large : 10 ^ k ≤ m.toRat) :
    (k : Int) < m.roundingInterval.point := by
  have positive : 0 < m.roundingInterval.den := toFraction_pos _
  have reached : 10 ^ k * m.roundingInterval.den ≤ m.roundingInterval.middle := by
    rw [← roundingInterval_ratio, le_div_iff₀ (by exact_mod_cast positive)] at large
    exact_mod_cast large
  have whole : 10 ^ k ≤ m.roundingInterval.middle / m.roundingInterval.den :=
    (Nat.le_div_iff_mul_le positive).2 reached
  have above : m.roundingInterval.den ≤ m.roundingInterval.middle :=
    le_trans (Nat.le_mul_of_pos_left _ (Nat.pow_pos (by decide))) reached
  have digits := mt (Nat.length_toDigits_le_iff (by decide) nonzero).1 (Nat.not_lt.2 whole)
  rw [RoundingInterval.point, if_pos above]
  omega

end Magnitude

theorem RoundingInterval.point_of_onGrid? {i : RoundingInterval} {n : Nat} {p : Positional}
    (found : i.onGrid? n = some p) : p.point = i.point - n := by
  unfold onGrid? at found
  dsimp only at found
  split at found <;> cases found <;> rfl

namespace Magnitude

/-- Of nineteen digits at least, seventeen at most are searched for. -/
theorem shortest_point {m : Magnitude} (large : 10 ^ 18 ≤ m.toRat) :
    2 ≤ m.shortest.point ∨ m.shortest = ⟨0, 0⟩ := by
  have digits := lt_point (by decide) large
  unfold shortest
  dsimp only
  split
  · rename_i p found
    obtain ⟨n, member, found⟩ := List.exists_of_findSome?_eq_some found
    have few := (List.mem_range'_1.1 member).2
    have point := RoundingInterval.point_of_onGrid? found
    omega
  · exact .inr rfl

/-- The shortest text of a large magnitude is that of an integer that ends in two zeros. -/
theorem exists_toText_shortest {m : Magnitude} (large : 10 ^ 18 ≤ m.toRat) :
    ∃ d k, m.shortest.toText = Nat.toDigits 10 d ++ List.replicate k '0' ∧ 100 ∣ d * 10 ^ k := by
  have text (p : Positional) (whole : 0 ≤ p.point) :
      p.toText = Nat.toDigits 10 p.digits ++ List.replicate p.point.toNat '0' := by
    unfold Positional.toText
    exact if_pos whole
  rcases shortest_point large with point | nothing
  · refine ⟨_, _, text _ (by omega), Nat.dvd_mul_left_of_dvd ?_ _⟩
    exact Nat.pow_dvd_pow 10 (show 2 ≤ m.shortest.point.toNat by omega)
  · rw [nothing]
    exact ⟨0, 0, text _ (Int.le_refl 0), Nat.dvd_zero _⟩

end Magnitude

end PodCache.Decimal
