import PodCache.Proofs.MachineSteps
import PodCache.Proofs.QuantityGrammar

/-!
# What a quantity text denotes

A quantity text denotes the product of its sign, its number and the factor of its suffix: a
rational number of units. The reader complains of the first part that is malformed, and gives
the nano-units of the product rounded up, whatever road its arithmetic takes.
-/

namespace PodCache.Quantity

open Text (decimalValue)

/-! ### The product -/

theorem isDigit_of_mem_ofText {t : List Char} (number : IsNumber (numberOf t)) :
    ∀ c ∈ (Parts.ofText t).integral ++ (Parts.ofText t).fraction, c.isDigit = true := by
  rw [Parts.ofText_eq]
  exact isDigit_of_mem_parts ((count_point_le_one_iff _).1 number.2)

/-- The digits on both sides of the point count so many decimal places of the number. -/
theorem mantissa_ofText (t : List Char) :
    ((Parts.ofText t).mantissa : ℚ) =
      numberValue (numberOf t) * 10 ^ (fractionOf (numberOf t)).length := by
  rw [Parts.ofText_eq, Parts.mantissa, Text.decimalValue_append, numberValue]
  push_cast
  field_simp

theorem cast_tenTo {power : Int} (nonneg : 0 ≤ power) : (tenTo power : ℚ) = 10 ^ power := by
  obtain ⟨n, rfl⟩ := Int.eq_ofNat_of_zero_le nonneg
  simp [tenTo]

/-- Beyond the greatest power that fits, ten to it exceeds every amount. -/
theorem natAbs_lt_tenTo {n power : Int} (least : minNanos ≤ n) (most : n ≤ maxNanos)
    (far : maxPower < power) : (n.natAbs : Int) < tenTo power := by
  have grows : 10 ^ 39 ≤ 10 ^ power.toNat :=
    Nat.pow_le_pow_right (by decide) (by unfold maxPower at far; omega)
  have exceeds : ((10 ^ 39 : Nat) : Int) ≤ tenTo power := Int.ofNat_le.2 grows
  unfold minNanos at least
  unfold maxNanos at most
  omega

theorem nanos_of_scaled {value : String} {mantissa shift : Int} {q : Quantity}
    (least : minNanos ≤ mantissa) (most : mantissa ≤ maxNanos)
    (read : scaled value mantissa shift = .ok q) :
    q.nanos = ⌈(mantissa : ℚ) * 10 ^ shift⌉ := by
  unfold scaled at read
  split at read
  · rename_i up
    split at read
    · cases read
    · split at read
      · rename_i found
        cases read
        rw [nanos_of_ofNanos? found, ← cast_tenTo up, ← Int.cast_mul, Int.ceil_intCast]
      · cases read
  · rename_i down
    have quotient : (mantissa : ℚ) * 10 ^ shift = mantissa / tenTo (-shift) := by
      rw [cast_tenTo (by omega), zpow_neg, div_inv_eq_mul]
    rw [quotient, ← ceilDiv_eq_ceil (tenTo_pos (-shift))]
    split at read
    · cases read
    · split at read
      · -- The divisor is beyond all amounts, so less than one nano-unit is left.
        rename_i far
        rw [ceilDiv_of_natAbs_lt (natAbs_lt_tenTo least most far)]
        cases read
        split <;> rfl
      · cases read
        exact nanos_clamp (le_ceilDiv (tenTo_pos _) (by decide) least)
          (ceilDiv_le (tenTo_pos _) (by decide) most)

/-- The shift makes up for the decimal places and counts in nano-units. -/
theorem Parts.signed_mul (p : Parts) (s : Scale) :
    (p.signed s : ℚ) * 10 ^ (s.exponent + 9 - p.fraction.length) =
      (if p.negative then -1 else 1) * (p.mantissa / 10 ^ p.fraction.length) * s.factor *
        10 ^ 9 := by
  have power : (10 : ℚ) ^ (s.exponent + 9 - p.fraction.length) =
      10 ^ s.exponent * 10 ^ 9 / 10 ^ p.fraction.length := by
    rw [zpow_sub₀ (by norm_num), zpow_add₀ (by norm_num), zpow_natCast]
    norm_cast
  rw [power, Scale.factor, Parts.signed]
  split
  · push_cast
    ring
  · push_cast
    ring

theorem scaled_error {value : String} {mantissa shift : Int} {e : QuantityError}
    (failed : scaled value mantissa shift = .error e) : e = .outOfRange value := by
  unfold scaled at failed
  split at failed
  · split at failed
    · cases failed
      rfl
    · split at failed
      · cases failed
      · cases failed
        rfl
  · split at failed
    · cases failed
    · split at failed <;> cases failed

section Parts

variable {value : String} {p : Parts} {s : Scale}
  (digits : ∀ c ∈ p.integral ++ p.fraction, c.isDigit = true) (positive : 0 < s.binary)
include digits positive

theorem nanos_of_ofParts {q : Quantity} (read : ofParts value p s = .ok q) :
    q.nanos = ⌈(if p.negative then -1 else 1) *
      (p.mantissa / 10 ^ p.fraction.length : ℚ) * s.factor * 10 ^ 9⌉ := by
  rw [← Parts.signed_mul]
  rw [ofParts_eq value digits positive] at read
  split at read
  · cases read
  · rename_i bound
    obtain ⟨least, most⟩ := Parts.signed_bounds positive (Int.not_lt.1 bound)
    split at read
    · rename_i nothing
      cases read
      simp [nothing, zero]
    · split at read
      · cases read
      · rename_i shift fits
        rw [(shift?_eq_some_iff.1 fits).2.2.2]
        exact nanos_of_scaled least most read

theorem ofParts_error {e : QuantityError} (failed : ofParts value p s = .error e) :
    e = .outOfRange value := by
  rw [ofParts_eq value digits positive] at failed
  split at failed
  · cases failed
    rfl
  · split at failed
    · cases failed
    · split at failed
      · cases failed
        rfl
      · exact scaled_error failed

end Parts

theorem parse_eq {value : String} {t : List Char} (trimmed : Text.trim value.toList = t) :
    parse value =
      if t = [] then .error .empty
      else if (Parts.ofText t).isNumber then
        match Scale.ofSuffix? (suffixOf t) with
        | none => .error (.invalidSuffix value (String.ofList (suffixOf t)))
        | some s => ofParts value (Parts.ofText t) s
      else .error (.invalidNumber value) := by
  have suffix : (Parts.ofText t).suffix = suffixOf t := by rw [Parts.ofText_eq]
  unfold parse
  rw [trimmed]
  cases t with
  | nil => rfl
  | cons c cs =>
    dsimp only
    rw [if_neg (List.cons_ne_nil c cs), suffix]
    cases (Parts.ofText (c :: cs)).isNumber <;> rfl

theorem IsNumber.ne_nil {t : List Char} (number : IsNumber (numberOf t)) : t ≠ [] := by
  rintro rfl
  obtain ⟨⟨c, member, -⟩, -⟩ := number
  cases member

/-- Once the number and the suffix are read, the amount can only be out of range. -/
theorem ofParts_ofText_error {value : String} {t : List Char} {s : Scale} {e : QuantityError}
    (number : IsNumber (numberOf t)) (found : Scale.ofSuffix? (suffixOf t) = some s)
    (failed : ofParts value (Parts.ofText t) s = .error e) : e = .outOfRange value :=
  ofParts_error (isDigit_of_mem_ofText number) (Scale.binary_pos found) failed

section Text

variable {value : String} {t : List Char} (trimmed : Text.trim value.toList = t)
include trimmed

/-- The text is empty, or has no number, or a suffix that denotes nothing, or else its parts
    are multiplied. -/
theorem parse_cases :
    (t = [] ∧ parse value = .error .empty) ∨
    (t ≠ [] ∧ ¬ IsNumber (numberOf t) ∧ parse value = .error (.invalidNumber value)) ∨
    (IsNumber (numberOf t) ∧ (∀ m, ¬ Denotes (suffixOf t) m) ∧
      parse value = .error (.invalidSuffix value (String.ofList (suffixOf t)))) ∨
    (IsNumber (numberOf t) ∧ ∃ s, Scale.ofSuffix? (suffixOf t) = some s ∧
      parse value = ofParts value (Parts.ofText t) s) := by
  have read := parse_eq trimmed
  split at read
  · rename_i empty
    exact .inl ⟨empty, read⟩
  · rename_i filled
    split at read
    · rename_i valid
      have number := (Parts.isNumber_ofText t).1 valid
      split at read
      · rename_i unread
        exact .inr (.inr (.inl ⟨number, ofSuffix?_eq_none unread, read⟩))
      · rename_i s found
        exact .inr (.inr (.inr ⟨number, s, found, read⟩))
    · rename_i invalid
      exact .inr (.inl ⟨filled, mt (Parts.isNumber_ofText t).2 invalid, read⟩)

theorem parse_eq_empty_iff : parse value = .error .empty ↔ t = [] := by
  rcases parse_cases trimmed with
    ⟨empty, read⟩ | ⟨filled, -, read⟩ | ⟨number, -, read⟩ | ⟨number, s, found, read⟩
  · simp [read, empty]
  · simp [read, filled]
  · simp [read, number.ne_nil]
  · rw [read]
    exact iff_of_false (fun failed => nomatch ofParts_ofText_error number found failed)
      number.ne_nil

theorem parse_eq_invalidNumber_iff (v : String) :
    parse value = .error (.invalidNumber v) ↔
      v = value ∧ t ≠ [] ∧ ¬ IsNumber (numberOf t) := by
  rcases parse_cases trimmed with
    ⟨empty, read⟩ | ⟨filled, malformed, read⟩ | ⟨number, -, read⟩ | ⟨number, s, found, read⟩
  · simp [read, empty]
  · simp [read, filled, malformed, eq_comm]
  · simp [read, number]
  · rw [read]
    exact iff_of_false (fun failed => nomatch ofParts_ofText_error number found failed)
      fun refused => refused.2.2 number

theorem parse_eq_invalidSuffix_iff (v s : String) :
    parse value = .error (.invalidSuffix v s) ↔
      (v = value ∧ s = String.ofList (suffixOf t)) ∧
        IsNumber (numberOf t) ∧ ∀ m, ¬ Denotes (suffixOf t) m := by
  rcases parse_cases trimmed with
    ⟨empty, read⟩ | ⟨-, malformed, read⟩ | ⟨number, senseless, read⟩ |
    ⟨number, scale, found, read⟩
  · rw [read]
    exact iff_of_false (by simp) fun refused => refused.2.1.ne_nil empty
  · simp [read, malformed]
  · simp [read, number, senseless, eq_comm]
  · rw [read]
    exact iff_of_false (fun failed => nomatch ofParts_ofText_error number found failed)
      fun refused => refused.2.2 scale.factor ((denotes_iff found _).2 rfl)

theorem nanos_of_parse {q : Quantity} (accepted : parse value = .ok q) :
    ∃ m, (∀ m', Denotes (suffixOf t) m' ↔ m' = m) ∧
      q.nanos = ⌈sign t * numberValue (numberOf t) * m * 10 ^ 9⌉ := by
  rcases parse_cases trimmed with
    ⟨-, read⟩ | ⟨-, -, read⟩ | ⟨-, -, read⟩ | ⟨number, s, found, read⟩
  · simp [read] at accepted
  · simp [read] at accepted
  · simp [read] at accepted
  · rw [read] at accepted
    refine ⟨s.factor, denotes_iff found, ?_⟩
    rw [nanos_of_ofParts (isDigit_of_mem_ofText number) (Scale.binary_pos found) accepted,
      mantissa_ofText]
    simp [Parts.ofText_eq, sign]

end Text

/-- A text is read for what it denotes. It is refused as empty, for its number or for its
    suffix just when that part is amiss and those before it are not; and the amount read
    is the product of sign, number and factor in nano-units, rounded up. -/
theorem parse_denotes (value : String) :
    let t := Text.trim value.toList
    (parse value = .error .empty ↔ t = []) ∧
    (∀ v, parse value = .error (.invalidNumber v) ↔
      v = value ∧ t ≠ [] ∧ ¬ IsNumber (numberOf t)) ∧
    (∀ v s, parse value = .error (.invalidSuffix v s) ↔
      (v = value ∧ s = String.ofList (suffixOf t)) ∧
        IsNumber (numberOf t) ∧ ∀ m, ¬ Denotes (suffixOf t) m) ∧
    (∀ q, parse value = .ok q → ∃ m, (∀ m', Denotes (suffixOf t) m' ↔ m' = m) ∧
      q.nanos = ⌈sign t * numberValue (numberOf t) * m * 10 ^ 9⌉) :=
  ⟨parse_eq_empty_iff rfl, parse_eq_invalidNumber_iff rfl, parse_eq_invalidSuffix_iff rfl,
    fun _ accepted => nanos_of_parse rfl accepted⟩

/-- Minus one and a half nano-units are read, and rounded up to minus one. -/
theorem parse_denotes_negative :
    ∃ q m, parse "-0.0000000015" = .ok q ∧ q.nanos = -1 ∧
      (∀ m', Denotes (suffixOf "-0.0000000015".toList) m' ↔ m' = m) ∧
      q.nanos = ⌈sign "-0.0000000015".toList * numberValue (numberOf "-0.0000000015".toList) *
        m * 10 ^ 9⌉ := by
  have read : parse "-0.0000000015" = .ok (clamp (-1)) := by rfl
  obtain ⟨m, denotes, nanos⟩ := (parse_denotes "-0.0000000015").2.2.2 _ read
  exact ⟨_, m, read, rfl, denotes, nanos⟩

end PodCache.Quantity
