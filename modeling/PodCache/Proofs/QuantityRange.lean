import PodCache.Proofs.MachineReader

/-!
# Amounts in range

The reader comes to an amount in steps: first all digits as one number, then its product with
the binary factor, then the shift to nano-units. It refuses a text as out of range as soon as
a step does not fit, so it also refuses texts whose amount is within bounds in the end. The
digits beyond the nano-units take part in the first step, although the amount is rounded there.
-/

namespace PodCache.Quantity

open Text (decimalValue)

/-- The text denotes so many nano-units, exactly. -/
def Amounts (value : String) (a : ℚ) : Prop :=
  let t := Text.trim value.toList
  IsNumber (numberOf t) ∧
    ∃ m, Denotes (suffixOf t) m ∧ a = sign t * numberValue (numberOf t) * m * 10 ^ 9

/-- The count of nano-units is within the bounds of a quantity. -/
def InBounds (n : Int) : Prop := minNanos ≤ n ∧ n ≤ maxNanos

/-- Every step of the reader fits. The digits on both sides of the point, as one number, fit
    127 bits, also when they are multiplied by the binary factor. Unless they are all zero, the
    decimal places and the exponent for nano-units fit 32 bits, and so does their difference,
    with either sign. -/
def HasRoom (value : String) : Prop :=
  let t := Text.trim value.toList
  let places : Int := (fractionOf (numberOf t)).length
  ∃ s, Scale.ofSuffix? (suffixOf t) = some s ∧ digitsOf t * s.binary ≤ maxNanos ∧
    (0 < digitsOf t →
      IntRange.signed32.contains places = true ∧
      IntRange.signed32.contains (s.exponent + 9) = true ∧
      IntRange.signed32.contains (places - (s.exponent + 9)) = true)

/-! ### The steps -/

theorem InBounds.exists_quantity {n : Int} (bounds : InBounds n) : ∃ q : Quantity, q.nanos = n :=
  ⟨⟨n, bounds.1, bounds.2⟩, rfl⟩

theorem inBounds_nanos (q : Quantity) : InBounds q.nanos := ⟨q.min_le, q.le_max⟩

/-- Beyond the greatest power that fits, every amount but nothing is out of bounds. -/
theorem not_inBounds_of_far {mantissa shift : Int} (nonzero : mantissa ≠ 0)
    (far : maxPower < shift) : ¬ InBounds (mantissa * tenTo shift) := by
  intro bounds
  have exceeds : maxNanos + 1 < tenTo shift := by
    have least : ((-maxNanos - 1).natAbs : Int) < tenTo shift :=
      natAbs_lt_tenTo (by decide) (by decide) far
    unfold maxNanos at least ⊢
    omega
  unfold InBounds minNanos at bounds
  unfold maxNanos at bounds exceeds
  rcases Int.lt_or_gt_of_ne nonzero with negative | positive
  · have : mantissa * tenTo shift ≤ -1 * tenTo shift :=
      Int.mul_le_mul_of_nonneg_right (by omega) (by omega)
    omega
  · have : 1 * tenTo shift ≤ mantissa * tenTo shift :=
      Int.mul_le_mul_of_nonneg_right (by omega) (by omega)
    omega

theorem scaled_eq_ok_iff {value : String} {mantissa shift : Int} {q : Quantity}
    (bounds : InBounds mantissa) (nonzero : mantissa ≠ 0) :
    scaled value mantissa shift = .ok q ↔
      shift ≠ IntRange.signed32.least ∧ q.nanos = ⌈(mantissa : ℚ) * 10 ^ shift⌉ := by
  constructor
  · intro read
    refine ⟨?_, nanos_of_scaled bounds.1 bounds.2 read⟩
    rintro rfl
    cases (scaled_eq_stop_iff.2 rfl).symm.trans read
  · rintro ⟨negatable, amount⟩
    -- Whatever is read has the same nano-units, so it is enough that something is read.
    suffices ∃ q', scaled value mantissa shift = .ok q' by
      obtain ⟨q', read⟩ := this
      have same := nanos_of_scaled bounds.1 bounds.2 read
      rw [read, Quantity.ext (same.trans amount.symm)]
    unfold scaled
    by_cases up : 0 ≤ shift
    · have whole : ⌈(mantissa : ℚ) * 10 ^ shift⌉ = mantissa * tenTo shift := by
        rw [← cast_tenTo up, ← Int.cast_mul, Int.ceil_intCast]
      rw [whole] at amount
      have near : ¬ maxPower < shift := fun far =>
        not_inBounds_of_far nonzero far (amount ▸ inBounds_nanos q)
      rw [if_pos up, if_neg near, ← amount, ofNanos?_nanos]
      exact ⟨q, rfl⟩
    · rw [if_neg up, if_neg negatable]
      split
      · exact ⟨_, rfl⟩
      · exact ⟨_, rfl⟩

/-- The amount of a text in parts, in nano-units. -/
def Parts.amount (p : Parts) (s : Scale) : ℚ :=
  p.signed s * 10 ^ (s.exponent + 9 - p.fraction.length)

/-- The steps fit for a text in parts. -/
def Parts.HasRoom (p : Parts) (s : Scale) : Prop :=
  p.mantissa * s.binary ≤ maxNanos ∧
    (p.mantissa ≠ 0 → ∃ shift, shift? s.exponent p.fraction.length = some shift ∧
      shift ≠ IntRange.signed32.least)

theorem ofParts_eq_ok_iff {value : String} {p : Parts} {s : Scale} {q : Quantity}
    (digits : ∀ c ∈ p.integral ++ p.fraction, c.isDigit = true) (positive : 0 < s.binary) :
    ofParts value p s = .ok q ↔ p.HasRoom s ∧ q.nanos = ⌈p.amount s⌉ := by
  have zero_iff := Parts.signed_eq_zero_iff (p := p) positive
  rw [ofParts_eq value digits positive, Parts.HasRoom, Parts.amount]
  by_cases large : maxNanos < p.mantissa * s.binary
  · rw [if_pos large]
    exact iff_of_false (by simp) fun fits => absurd fits.1.1 (Int.not_le.2 large)
  · have most := Int.not_lt.1 large
    rw [if_neg large]
    by_cases nothing : p.signed s = 0
    · have none : (.ok zero : Outcome QuantityError Quantity) = .ok q ↔ q.nanos = 0 := by
        rw [Outcome.ok.injEq, Quantity.ext_iff, eq_comm]
        rfl
      simp [nothing, zero_iff.1 nothing, none, maxNanos]
    · rw [if_neg nothing]
      cases found : shift? s.exponent p.fraction.length with
      | none => simp [mt zero_iff.2 nothing]
      | some shift =>
        have exact := (shift?_eq_some_iff.1 found).2.2.2
        dsimp only
        rw [scaled_eq_ok_iff (Parts.signed_bounds positive most) nothing, exact]
        simp [mt zero_iff.2 nothing, most]

/-! ### Texts -/

section Text

variable {value : String} {s : Scale} {a : ℚ}

theorem hasRoom_iff (found : Scale.ofSuffix? (suffixOf (Text.trim value.toList)) = some s) :
    HasRoom value ↔ (Parts.ofText (Text.trim value.toList)).HasRoom s := by
  have fraction : (Parts.ofText (Text.trim value.toList)).fraction =
      fractionOf (numberOf (Text.trim value.toList)) := by rw [Parts.ofText_eq]
  have steps (places : Nat) :
      (IntRange.signed32.contains places = true ∧
        IntRange.signed32.contains (s.exponent + 9) = true ∧
        IntRange.signed32.contains (places - (s.exponent + 9)) = true) ↔
      ∃ shift, shift? s.exponent places = some shift ∧ shift ≠ IntRange.signed32.least := by
    simp only [shift?_eq_some_iff, IntRange.contains_iff, IntRange.signed32]
    constructor
    · rintro ⟨counted, raised, negatable⟩
      exact ⟨s.exponent + 9 - places, ⟨counted, raised, by omega, rfl⟩, by omega⟩
    · rintro ⟨shift, ⟨counted, raised, fits, rfl⟩, negatable⟩
      exact ⟨counted, raised, by omega⟩
  unfold HasRoom Parts.HasRoom
  rw [Parts.mantissa_ofText_eq, fraction]
  simp only [found, Option.some.injEq, exists_eq_left', steps, Int.natCast_ne_zero,
    Nat.pos_iff_ne_zero]

theorem Parts.amount_ofText (found : Scale.ofSuffix? (suffixOf (Text.trim value.toList)) = some s)
    (amount : Amounts value a) : (Parts.ofText (Text.trim value.toList)).amount s = a := by
  obtain ⟨number, m, denotes, rfl⟩ := amount
  rw [Parts.amount, Parts.signed_mul, mantissa_ofText, (denotes_iff found m).1 denotes]
  simp [Parts.ofText_eq, sign]

/-- A text that denotes an amount is read as that amount rounded up, if all steps fit. -/
theorem parse_eq_ok_iff (amount : Amounts value a) (q : Quantity) :
    parse value = .ok q ↔ HasRoom value ∧ q.nanos = ⌈a⌉ := by
  have ⟨number, m, denotes, _⟩ := amount
  obtain ⟨s, found, positive, -⟩ := denotes.exists_scale
  rw [parse_eq rfl, if_neg number.ne_nil, if_pos ((Parts.isNumber_ofText _).2 number), found]
  dsimp only
  rw [ofParts_eq_ok_iff (isDigit_of_mem_ofText number) positive, hasRoom_iff found,
    Parts.amount_ofText found amount]

/-- Such a text is never refused as malformed. -/
theorem parse_error (amount : Amounts value a) {e : QuantityError}
    (failed : parse value = .error e) : e = .outOfRange value := by
  have ⟨number, m, denotes, _⟩ := amount
  obtain ⟨s, found, positive, -⟩ := denotes.exists_scale
  rw [parse_eq rfl, if_neg number.ne_nil, if_pos ((Parts.isNumber_ofText _).2 number), found]
    at failed
  exact ofParts_ofText_error number found failed

end Text

/-- A text that denotes an amount is read, as that amount rounded up, just when the rounded
    amount is within bounds and every step of the reader fits. Otherwise it is refused as out of
    range, but for the texts whose shift overflows, at which the machine stops. -/
theorem amount_accepted_iff (value : String) (a : ℚ) (amount : Amounts value a) :
    ((∃ q, parse value = .ok q ∧ q.nanos = ⌈a⌉) ↔ InBounds ⌈a⌉ ∧ HasRoom value) ∧
    (parse value = .error (.outOfRange value) ↔
      ¬ (InBounds ⌈a⌉ ∧ HasRoom value) ∧ ¬ Overflows value) := by
  have accepted : (∃ q, parse value = .ok q ∧ q.nanos = ⌈a⌉) ↔
      InBounds ⌈a⌉ ∧ HasRoom value := by
    constructor
    · rintro ⟨q, read, same⟩
      exact ⟨same ▸ inBounds_nanos q, ((parse_eq_ok_iff amount q).1 read).1⟩
    · rintro ⟨bounds, room⟩
      obtain ⟨q, same⟩ := bounds.exists_quantity
      exact ⟨q, (parse_eq_ok_iff amount q).2 ⟨room, same⟩, same⟩
  refine ⟨accepted, ?_⟩
  rw [← accepted]
  have overflow := parse_eq_stop_iff value
  cases outcome : parse value with
  | ok q =>
    have same := ((parse_eq_ok_iff amount q).1 outcome).2
    simp [same]
  | error e =>
    cases parse_error amount outcome
    simp [outcome] at overflow
    simp [overflow]
  | stop =>
    simp [outcome] at overflow
    simp [overflow]

/-- A tenth of a unit, with zeros down to the fortieth decimal place. -/
def longTenth : String := "0.1000000000000000000000000000000000000000"

theorem amounts_longTenth : Amounts longTenth (10 ^ 8) := by
  have fraction : fractionOf (numberOf (Text.trim longTenth.toList)) =
      '1' :: List.replicate 39 '0' := by
    decide
  have tenth : numberValue (numberOf (Text.trim longTenth.toList)) = 1 / 10 := by
    have whole : integralOf (numberOf (Text.trim longTenth.toList)) = ['0'] := by decide
    have digits : decimalValue ('1' :: List.replicate 39 '0') = 10 ^ 39 := by decide
    rw [numberValue, whole, fraction, digits]
    norm_num [decimalValue]
  have positive : sign (Text.trim longTenth.toList) = 1 := by
    rw [sign, if_neg (by decide)]
  refine ⟨⟨⟨'0', by decide, by decide⟩, by decide⟩, 1, .one, ?_⟩
  rw [tenth, positive]
  norm_num

/-- The digits of the text exceed 127 bits, so it is refused, although it is a tenth. -/
theorem amount_accepted_iff_longTenth :
    Amounts longTenth (10 ^ 8) ∧ ¬ HasRoom longTenth ∧
      parse longTenth = .error (.outOfRange longTenth) := by
  have cramped : ¬ HasRoom longTenth := by
    rintro ⟨s, found, most, -⟩
    have plain : s = ⟨1, 0⟩ := (Option.some.inj found).symm
    subst plain
    exact absurd most (by decide)
  have steady : ¬ Overflows longTenth := by
    rintro ⟨-, -, -, mark, -, numeral, e, suffix, -⟩
    cases suffix
  have outcome := amount_accepted_iff longTenth (10 ^ 8) amounts_longTenth
  exact ⟨amounts_longTenth, cramped, outcome.2.2 ⟨fun fits => cramped fits.2, steady⟩⟩

/-- Not every text whose rounded amount is within bounds is read. -/
theorem not_forall_amount_accepted :
    ¬ ∀ value a, Amounts value a → InBounds ⌈a⌉ → ∃ q, parse value = .ok q ∧ q.nanos = ⌈a⌉ := by
  intro accepted
  have whole : ⌈(10 ^ 8 : ℚ)⌉ = 10 ^ 8 := by
    rw [← Int.cast_ofNat, ← Int.cast_pow, Int.ceil_intCast]
  have bounds : InBounds ⌈(10 ^ 8 : ℚ)⌉ := by
    rw [whole]
    exact ⟨by decide, by decide⟩
  obtain ⟨q, read, -⟩ := accepted longTenth (10 ^ 8) amounts_longTenth bounds
  have refused : parse longTenth = .error (.outOfRange longTenth) := by rfl
  cases refused.symm.trans read

end PodCache.Quantity
