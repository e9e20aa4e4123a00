import PodCache.Proofs.Numerals
import PodCache.Proofs.Rounding
import PodCache.Quantity.Reader

/-!
# The steps of the reader

What the steps of the reader come to, told in integers without bounds. Digits are read until
their number exceeds the amounts, powers of ten and quotients always fit, and a shift can be
negated unless it is the least integer of 32 bits. So the machine can stop at that shift, and
nowhere else.
-/

namespace PodCache.Quantity

open Text (decimalValue)

variable {ε : Type}

namespace Machine

/-! ### Steps that fit -/

theorem unchecked_of_contains {r : IntRange} {i : Int} (fits : r.contains i = true) :
    (unchecked r i : Outcome ε Int) = .ok i :=
  if_pos fits

theorem checked_of_contains {value : String} {r : IntRange} {i : Int}
    (fits : r.contains i = true) : checked value r i = .ok i :=
  if_pos fits

theorem checked_of_not_contains {value : String} {r : IntRange} {i : Int}
    (exceeds : ¬ r.contains i = true) : checked value r i = .error (.outOfRange value) :=
  if_neg exceeds

theorem signed128_contains_iff {i : Int} :
    IntRange.signed128.contains i = true ↔ minNanos ≤ i ∧ i ≤ maxNanos :=
  IntRange.contains_iff

theorem amount_of_bounds {n : Int} (least : minNanos ≤ n) (most : n ≤ maxNanos) :
    (amount n : Outcome ε Quantity) = .ok (clamp n) := by
  have same : (⟨n, least, most⟩ : Quantity) = clamp n :=
    Quantity.ext (nanos_clamp least most).symm
  rw [amount, ofNanos?, dif_pos ⟨least, most⟩, same]

end Machine

/-! ### Powers and quotients -/

theorem tenTo_pos (power : Int) : 0 < tenTo power :=
  Int.natCast_pos.2 (Nat.pow_pos (by decide))

/-- Up to the greatest power that fits, ten to it is an amount. -/
theorem tenTo_le_maxNanos {power : Int} (small : power ≤ maxPower) : tenTo power ≤ maxNanos := by
  have grows : Nat.pow 10 power.toNat ≤ Nat.pow 10 38 :=
    Nat.pow_le_pow_right (by decide) (by unfold maxPower at small; omega)
  exact Int.le_trans (Int.ofNat_le.2 grows) (by decide)

namespace Machine

theorem powerOfTen_eq {power : Int} (nonneg : 0 ≤ power) (small : power ≤ maxPower) :
    (powerOfTen power : Outcome ε Int) = .ok (tenTo power) := by
  have fits : IntRange.unsigned32.contains power = true := by
    rw [IntRange.contains_iff]
    unfold maxPower at small
    exact ⟨nonneg, Int.le_trans small (by decide)⟩
  have least : minNanos ≤ tenTo power := Int.le_trans (by decide) (Int.le_of_lt (tenTo_pos power))
  unfold powerOfTen
  rw [unchecked_of_contains fits, Outcome.ok_bind, unchecked_of_contains]
  exact signed128_contains_iff.2 ⟨least, tenTo_le_maxNanos small⟩

/-- Division by a positive amount stays within the amounts. -/
theorem quotient_eq {n d : Int} (positive : 0 < d) (least : minNanos ≤ n) (most : n ≤ maxNanos)
    (divisor : d ≤ maxNanos) : (quotient n d : Outcome ε Int) = .ok (ceilDiv n d) := by
  have rest := Int.emod_nonneg n (Int.ne_of_gt positive)
  have small := Int.emod_lt_of_pos n positive
  have upper := ceilDiv_le positive (by decide) most
  have lower := le_ceilDiv positive (by decide) least
  have whole : minNanos ≤ n / d ∧ n / d ≤ maxNanos := by
    constructor
    · have scaled : minNanos * d ≤ minNanos * 1 :=
        Int.mul_le_mul_of_nonpos_left (by decide) positive
      exact (Int.le_ediv_iff_mul_le positive).2 (by omega)
    · unfold ceilDiv at upper
      split at upper <;> omega
  unfold quotient
  rw [if_neg (Int.not_le.2 positive), unchecked_of_contains (signed128_contains_iff.2 whole),
    Outcome.ok_bind, unchecked_of_contains, Outcome.ok_bind, unchecked_of_contains]
  · rfl
  · exact signed128_contains_iff.2 ⟨lower, upper⟩
  · rw [signed128_contains_iff]
    unfold minNanos
    constructor <;> omega

end Machine

/-! ### Scaling -/

/-- `mantissa * 10 ^ shift` nano-units, rounded up. The least shift is the only one that the
    machine cannot negate. -/
def scaled (value : String) (mantissa shift : Int) : Outcome QuantityError Quantity :=
  if 0 ≤ shift then
    if maxPower < shift then .error (.outOfRange value)
    else match ofNanos? (mantissa * tenTo shift) with
      | some q => .ok q
      | none => .error (.outOfRange value)
  else if shift = IntRange.signed32.least then .stop
  else if maxPower < -shift then .ok (if 0 < mantissa then clamp 1 else zero)
  else .ok (clamp (ceilDiv mantissa (tenTo (-shift))))

/-- The machine scales an amount by a shift of 32 bits to an amount, and stops at the least
    shift only. -/
theorem Machine.scale_eq {value : String} {mantissa shift : Int} (least : minNanos ≤ mantissa)
    (most : mantissa ≤ maxNanos) (fits : IntRange.signed32.contains shift = true) :
    scale value mantissa shift >>= amount = scaled value mantissa shift := by
  rw [IntRange.contains_iff] at fits
  unfold scale scaled
  by_cases up : 0 ≤ shift
  · rw [if_pos up, if_pos up]
    by_cases far : maxPower < shift
    · rw [if_pos far, if_pos far]
      rfl
    · rw [if_neg far, if_neg far, powerOfTen_eq up (Int.not_lt.1 far), Outcome.ok_bind]
      unfold checked ofNanos?
      by_cases small : minNanos ≤ mantissa * tenTo shift ∧ mantissa * tenTo shift ≤ maxNanos
      · rw [if_pos (signed128_contains_iff.2 small), dif_pos small, Outcome.ok_bind, amount,
          ofNanos?, dif_pos small]
      · rw [if_neg (mt signed128_contains_iff.1 small), dif_neg small]
        rfl
  · rw [if_neg up, if_neg up]
    by_cases lowest : shift = IntRange.signed32.least
    · subst lowest
      rfl
    · have negated : IntRange.signed32.contains (-shift) = true := by
        rw [IntRange.contains_iff]
        unfold IntRange.signed32 at fits lowest ⊢
        dsimp only at fits lowest ⊢
        omega
      rw [if_neg lowest, unchecked_of_contains negated, Outcome.ok_bind]
      by_cases far : maxPower < -shift
      · rw [if_pos far, if_pos far]
        split <;> rfl
      · have places : 0 ≤ -shift := by omega
        rw [if_neg far, if_neg far, powerOfTen_eq places (Int.not_lt.1 far), Outcome.ok_bind,
          quotient_eq (tenTo_pos _) least most (tenTo_le_maxNanos (Int.not_lt.1 far)),
          Outcome.ok_bind]
        exact amount_of_bounds (le_ceilDiv (tenTo_pos _) (by decide) least)
          (ceilDiv_le (tenTo_pos _) (by decide) most)

/-! ### Digits -/

namespace Machine

/-- A digit at the end of a number is read, unless the number becomes too large. -/
theorem appendDigit_eq (value : String) {n : Int} {c : Char} (nonneg : 0 ≤ n)
    (digit : c.isDigit = true) :
    appendDigit value n c =
      if n * 10 + decimalValue [c] ≤ maxNanos then .ok (n * 10 + decimalValue [c])
      else .error (.outOfRange value) := by
  have range := (Text.isDigit_iff c).1 digit
  have digitValue : (decimalValue [c] : Int) = c.toNat - ('0'.toNat : Int) := by
    simp [decimalValue]
    omega
  have small : byte.contains (c.toNat - ('0'.toNat : Int)) = true := by
    rw [IntRange.contains_iff]
    simp [byte]
    omega
  unfold appendDigit
  by_cases tens : IntRange.signed128.contains (n * 10) = true
  · rw [checked_of_contains tens, Outcome.ok_bind, unchecked_of_contains small, Outcome.ok_bind,
      ← digitValue]
    have least : minNanos ≤ n * 10 + decimalValue [c] := by
      unfold minNanos
      omega
    unfold checked
    by_cases most : n * 10 + decimalValue [c] ≤ maxNanos
    · rw [if_pos most, if_pos (signed128_contains_iff.2 ⟨least, most⟩)]
    · rw [if_neg most, if_neg fun fits => most (signed128_contains_iff.1 fits).2]
  · have exceeds : ¬ n * 10 + decimalValue [c] ≤ maxNanos := by
      intro most
      refine tens (signed128_contains_iff.2 ⟨?_, ?_⟩)
      · unfold minNanos
        omega
      · omega
    rw [checked_of_not_contains tens, Outcome.error_bind, if_neg exceeds]

/-- The digits are read one by one, and the number is out of range as soon as it exceeds the
    amounts. -/
theorem foldlM_appendDigit (value : String) {cs : List Char}
    (digits : ∀ c ∈ cs, c.isDigit = true) {n : Int} (nonneg : 0 ≤ n) (most : n ≤ maxNanos) :
    cs.foldlM (appendDigit value) n =
      if n * 10 ^ cs.length + decimalValue cs ≤ maxNanos
      then .ok (n * 10 ^ cs.length + decimalValue cs)
      else .error (.outOfRange value) := by
  induction cs generalizing n with
  | nil => simp [decimalValue, most]
  | cons c cs ih =>
    have whole : n * 10 ^ (c :: cs).length + decimalValue (c :: cs) =
        (n * 10 + decimalValue [c]) * 10 ^ cs.length + decimalValue cs := by
      rw [← List.singleton_append, Text.decimalValue_append, List.length_append]
      push_cast
      simp
      ring
    have positive : 0 < (10 : Int) ^ cs.length := Int.pow_pos (by decide)
    rw [List.foldlM_cons, appendDigit_eq value nonneg (digits c List.mem_cons_self), whole]
    by_cases fits : n * 10 + decimalValue [c] ≤ maxNanos
    · rw [if_pos fits, Outcome.ok_bind]
      exact ih (fun d member => digits d (List.mem_cons_of_mem _ member)) (by omega) fits
    · rw [if_neg fits, Outcome.error_bind, if_neg]
      intro later
      have : n * 10 + decimalValue [c] ≤ (n * 10 + decimalValue [c]) * 10 ^ cs.length :=
        le_mul_of_one_le_right (by omega) positive
      omega

end Machine

/-! ### Shifts -/

/-- The power of ten by which a scaled mantissa counts nano-units, if its steps fit
    32 bits. -/
def shift? (exponent : Int) (places : Nat) : Option Int :=
  let fits := IntRange.signed32.contains
  if fits places && fits (exponent + 9) && fits (exponent + 9 - places) then
    some (exponent + 9 - places)
  else none

theorem shift?_eq_some_iff {exponent shift : Int} {places : Nat} :
    shift? exponent places = some shift ↔
      IntRange.signed32.contains places = true ∧
      IntRange.signed32.contains (exponent + 9) = true ∧
      IntRange.signed32.contains shift = true ∧ exponent + 9 - places = shift := by
  unfold shift?
  simp only [Option.ite_none_right_eq_some, Option.some.injEq, Bool.and_eq_true]
  constructor
  · rintro ⟨⟨⟨places, raised⟩, fits⟩, rfl⟩
    exact ⟨places, raised, fits, rfl⟩
  · rintro ⟨places, raised, fits, rfl⟩
    exact ⟨⟨⟨places, raised⟩, fits⟩, rfl⟩

theorem Machine.shiftOf_eq (value : String) (exponent : Int) (places : Nat) :
    shiftOf value exponent places =
      match shift? exponent places with
      | none => .error (.outOfRange value)
      | some shift => .ok shift := by
  unfold shiftOf shift?
  by_cases counted : IntRange.signed32.contains places = true
  · by_cases raised : IntRange.signed32.contains (exponent + 9) = true
    · rw [checked_of_contains counted, Outcome.ok_bind, checked_of_contains raised,
        Outcome.ok_bind]
      by_cases fits : IntRange.signed32.contains (exponent + 9 - places) = true
      · rw [checked_of_contains fits]
        simp [counted, raised, fits]
      · rw [checked_of_not_contains fits]
        simp [fits]
    · rw [checked_of_contains counted, Outcome.ok_bind, checked_of_not_contains raised]
      simp [raised]
  · rw [checked_of_not_contains counted]
    simp [counted]

/-! ### The parts together -/

/-- The digits on both sides of the point, as one number. -/
def Parts.mantissa (p : Parts) : Int := decimalValue (p.integral ++ p.fraction)

/-- The mantissa with the sign of the text and the binary factor of its suffix. -/
def Parts.signed (p : Parts) (s : Scale) : Int :=
  if p.negative then -(p.mantissa * s.binary) else p.mantissa * s.binary

theorem Parts.signed_bounds {p : Parts} {s : Scale} (positive : 0 < s.binary)
    (bound : p.mantissa * s.binary ≤ maxNanos) :
    minNanos ≤ p.signed s ∧ p.signed s ≤ maxNanos := by
  have nonneg : 0 ≤ p.mantissa * s.binary :=
    Int.mul_nonneg (Int.natCast_nonneg _) (Int.le_of_lt positive)
  unfold Parts.signed minNanos
  unfold maxNanos at bound ⊢
  split <;> omega

theorem Machine.withSign_eq {p : Parts} {s : Scale} (positive : 0 < s.binary)
    (bound : p.mantissa * s.binary ≤ maxNanos) :
    (withSign p.negative (p.mantissa * s.binary) : Outcome ε Int) = .ok (p.signed s) := by
  obtain ⟨lower, upper⟩ := Parts.signed_bounds positive bound
  unfold withSign
  unfold Parts.signed at lower upper ⊢
  split
  · rename_i negative
    rw [if_pos negative] at lower upper
    exact unchecked_of_contains (signed128_contains_iff.2 ⟨lower, upper⟩)
  · rfl

/-- The parts of a text are multiplied, and the product is scaled. -/
theorem ofParts_eq (value : String) {p : Parts} {s : Scale}
    (digits : ∀ c ∈ p.integral ++ p.fraction, c.isDigit = true) (positive : 0 < s.binary) :
    ofParts value p s =
      if maxNanos < p.mantissa * s.binary then .error (.outOfRange value)
      else if p.signed s = 0 then .ok zero
      else match shift? s.exponent p.fraction.length with
        | none => .error (.outOfRange value)
        | some shift => scaled value (p.signed s) shift := by
  have nonneg : 0 ≤ p.mantissa := Int.natCast_nonneg _
  have grows : p.mantissa ≤ p.mantissa * s.binary := le_mul_of_one_le_right nonneg positive
  have read := Machine.foldlM_appendDigit value digits (Int.le_refl 0) (by decide)
  rw [Int.zero_mul, Int.zero_add, ← Parts.mantissa] at read
  unfold ofParts
  rw [read]
  by_cases large : maxNanos < p.mantissa * s.binary
  · rw [if_pos large]
    have exceeds : ¬ IntRange.signed128.contains (p.mantissa * s.binary) = true :=
      fun fits => absurd (Machine.signed128_contains_iff.1 fits).2 (Int.not_le.2 large)
    split
    · rw [Outcome.ok_bind, Machine.checked_of_not_contains exceeds]
      rfl
    · rfl
  · have most := Int.not_lt.1 large
    have product : IntRange.signed128.contains (p.mantissa * s.binary) = true := by
      rw [Machine.signed128_contains_iff]
      unfold minNanos
      omega
    obtain ⟨lower, upper⟩ := Parts.signed_bounds positive most
    rw [if_neg large, if_pos (Int.le_trans grows most), Outcome.ok_bind,
      Machine.checked_of_contains product, Outcome.ok_bind, Machine.withSign_eq positive most,
      Outcome.ok_bind]
    split
    · rfl
    · rw [Machine.shiftOf_eq]
      cases found : shift? s.exponent p.fraction.length with
      | none => rfl
      | some shift => exact Machine.scale_eq lower upper (shift?_eq_some_iff.1 found).2.2.1

end PodCache.Quantity
