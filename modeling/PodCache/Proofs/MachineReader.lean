import PodCache.Proofs.QuantityText
import PodCache.Quantity.Document

/-!
# The texts at which the machine stops

A text may ask for a shift by the least integer of 32 bits, which cannot be negated. There the
machine stops, and at no other text. A document can hold such a text, but it has no number that
leads to one, since numbers are written without an exponent.
-/

namespace PodCache.Quantity

open Text (decimalValue IntNumeral)

/-- The digits of a text on both sides of its point, as one number. -/
def digitsOf (t : List Char) : Nat :=
  decimalValue (integralOf (numberOf t) ++ fractionOf (numberOf t))

/-- The text has a decimal exponent that is so small, against the number of its decimal places,
    that the shift is the least integer of 32 bits. Its digits are not all zero and fit 127
    bits, so that the shift is made use of. -/
def Overflows (value : String) : Prop :=
  let t := Text.trim value.toList
  IsNumber (numberOf t) ∧ 0 < digitsOf t ∧ (digitsOf t : Int) ≤ maxNanos ∧
  ∃ mark ∈ ['e', 'E'], ∃ numeral e, suffixOf t = mark :: numeral ∧ IntNumeral numeral e ∧
    IntRange.signed32.contains e = true ∧
    IntRange.signed32.contains (fractionOf (numberOf t)).length = true ∧
    e + 9 - (fractionOf (numberOf t)).length = IntRange.signed32.least

theorem scaled_eq_stop_iff {value : String} {mantissa shift : Int} :
    scaled value mantissa shift = .stop ↔ shift = IntRange.signed32.least := by
  unfold scaled
  by_cases up : 0 ≤ shift
  · have apart : shift ≠ IntRange.signed32.least := by
      rintro rfl
      exact absurd up (by decide)
    rw [if_pos up]
    refine iff_of_false ?_ apart
    split
    · simp
    · split <;> simp
  · rw [if_neg up]
    by_cases lowest : shift = IntRange.signed32.least
    · simp [lowest]
    · rw [if_neg lowest]
      refine iff_of_false ?_ lowest
      split <;> simp

theorem ofParts_eq_stop_iff {value : String} {p : Parts} {s : Scale}
    (digits : ∀ c ∈ p.integral ++ p.fraction, c.isDigit = true) (positive : 0 < s.binary) :
    ofParts value p s = .stop ↔
      p.mantissa * s.binary ≤ maxNanos ∧ p.signed s ≠ 0 ∧
        shift? s.exponent p.fraction.length = some IntRange.signed32.least := by
  rw [ofParts_eq value digits positive]
  split
  · rename_i large
    simp [Int.not_le.2 large]
  · rename_i fits
    split
    · rename_i nothing
      simp [nothing]
    · rename_i something
      simp only [Int.not_lt.1 fits, something, true_and, ne_eq, not_false_eq_true]
      cases shift? s.exponent p.fraction.length with
      | none => simp
      | some shift => rw [scaled_eq_stop_iff, Option.some.injEq]

/-- Only a decimal exponent can be less than that of the suffix `n`. -/
theorem exponent_of_ofSuffix? {cs : List Char} {s : Scale} (read : Scale.ofSuffix? cs = some s)
    (small : s.exponent < -9) :
    ∃ mark ∈ ['e', 'E'], ∃ numeral, cs = mark :: numeral ∧
      exponent? numeral = some s.exponent ∧ s.binary = 1 := by
  obtain ⟨m, denotes⟩ := exists_denotes read
  cases denotes with
  | one =>
    cases read
    exact absurd small (by decide)
  | @decimal c k unit =>
    rw [ofSuffix?_decimal (c, k) unit, Option.some.injEq] at read
    subst read
    have least : ∀ unit ∈ decimalUnits, -3 ≤ unit.2 := by decide
    have := least _ unit
    dsimp only at small this
    omega
  | @binary c k unit =>
    rw [ofSuffix?_binary (c, k) unit, Option.some.injEq] at read
    subst read
    dsimp only at small
    omega
  | @exponent mark numeral e marked valid fits =>
    have found := exponent?_eq_some_iff.2 ⟨valid, fits⟩
    rw [ofSuffix?_exponent marked found, Option.some.injEq] at read
    subst read
    exact ⟨mark, marked, numeral, rfl, found, rfl⟩

theorem Parts.signed_eq_zero_iff {p : Parts} {s : Scale} (positive : 0 < s.binary) :
    p.signed s = 0 ↔ p.mantissa = 0 := by
  have product : p.mantissa * s.binary = 0 ↔ p.mantissa = 0 := by
    rw [Int.mul_eq_zero, or_iff_left (Int.ne_of_gt positive)]
  rw [← product, signed]
  split
  · exact Int.neg_eq_zero
  · rfl

theorem Parts.mantissa_ofText_eq (t : List Char) : (Parts.ofText t).mantissa = digitsOf t := by
  rw [Parts.ofText_eq]
  rfl

/-- The machine stops just at the texts whose shift overflows. -/
theorem parse_eq_stop_iff (value : String) : parse value = .stop ↔ Overflows value := by
  rcases parse_cases (t := Text.trim value.toList) rfl with
    ⟨empty, read⟩ | ⟨-, malformed, read⟩ | ⟨-, senseless, read⟩ | ⟨number, s, found, read⟩
  · rw [read]
    exact iff_of_false (by simp) fun overflows => overflows.1.ne_nil empty
  · rw [read]
    exact iff_of_false (by simp) fun overflows => malformed overflows.1
  · rw [read]
    refine iff_of_false (by simp) ?_
    rintro ⟨-, -, -, mark, marked, numeral, e, suffix, valid, fits, -⟩
    rw [suffix] at senseless
    exact senseless _ (.exponent marked valid fits)
  · have positive := Scale.binary_pos found
    have fraction : (Parts.ofText (Text.trim value.toList)).fraction =
        fractionOf (numberOf (Text.trim value.toList)) := by rw [Parts.ofText_eq]
    rw [read, ofParts_eq_stop_iff (isDigit_of_mem_ofText number) positive, Ne,
      Parts.signed_eq_zero_iff positive, Parts.mantissa_ofText_eq, shift?_eq_some_iff, fraction]
    constructor
    · rintro ⟨most, nonzero, counted, raised, -, shift⟩
      have places := (IntRange.contains_iff.1 counted).2
      have small : s.exponent < -9 := by
        unfold IntRange.signed32 at places shift
        dsimp only at places shift
        omega
      obtain ⟨mark, marked, numeral, suffix, exponent, binary⟩ :=
        exponent_of_ofSuffix? found small
      obtain ⟨valid, fits⟩ := exponent?_eq_some_iff.1 exponent
      rw [binary, Int.mul_one] at most
      exact ⟨number, by omega, most, mark, marked, numeral, s.exponent, suffix, valid, fits,
        counted, shift⟩
    · rintro ⟨-, something, most, mark, marked, numeral, e, suffix, valid, fits, counted, shift⟩
      have exponent := exponent?_eq_some_iff.2 ⟨valid, fits⟩
      rw [suffix, ofSuffix?_exponent marked exponent, Option.some.injEq] at found
      subst found
      rw [Int.mul_one]
      refine ⟨most, by omega, counted, ?_, ?_, shift⟩
      · have places := (IntRange.contains_iff.1 counted).2
        rw [IntRange.contains_iff]
        unfold IntRange.signed32 at places shift ⊢
        dsimp only at places shift ⊢
        omega
      · decide

/-! ### Texts of numbers -/

theorem mem_of_mem_suffixOf {t : List Char} {c : Char} (member : c ∈ suffixOf t) : c ∈ t := by
  have member := (List.dropWhile_suffix _).subset member
  unfold unsigned at member
  split at member
  · exact List.mem_of_mem_tail member
  · exact member

theorem mem_of_mem_trim {cs : List Char} {c : Char} (member : c ∈ Text.trim cs) : c ∈ cs := by
  unfold Text.trim at member
  have member := (List.dropWhile_suffix _).subset (List.mem_reverse.1 member)
  exact (List.dropWhile_suffix _).subset (List.mem_reverse.1 member)

/-- Without a mark there is no exponent. -/
theorem Overflows.exists_mark {value : String} (overflows : Overflows value) :
    ∃ mark ∈ ['e', 'E'], mark ∈ value.toList := by
  obtain ⟨-, -, -, mark, marked, numeral, e, suffix, -⟩ := overflows
  refine ⟨mark, marked, mem_of_mem_trim (mem_of_mem_suffixOf ?_)⟩
  rw [suffix]
  exact List.mem_cons_self

theorem isDigit_or_eq_of_mem_toText {p : Decimal.Positional} {c : Char} (member : c ∈ p.toText) :
    c.isDigit = true ∨ c = '.' := by
  have digit {c : Char} (member : c ∈ Nat.toDigits 10 p.digits) : c.isDigit = true :=
    Nat.isDigit_of_mem_toDigits (by decide) (by decide) member
  have zero {c : Char} {n : Nat} (member : c ∈ List.replicate n '0') : c.isDigit = true := by
    rw [List.eq_of_mem_replicate member]
    rfl
  unfold Decimal.Positional.toText at member
  dsimp only at member
  split at member
  · exact .inl ((List.mem_append.1 member).elim digit zero)
  · -- What is written is cut out of the padded digits, but for the point.
    rw [List.splitAt_eq] at member
    dsimp only at member
    have padded {c : Char} {places : Nat} (member : c ∈ List.replicate places '0' ++
        Nat.toDigits 10 p.digits) : c.isDigit = true :=
      (List.mem_append.1 member).elim zero digit
    split at member
    · exact .inl (padded (List.mem_of_mem_take member))
    · rcases List.mem_append.1 member with whole | fraction
      · exact .inl (padded (List.mem_of_mem_take whole))
      · rcases List.mem_cons.1 fraction with rfl | fraction
        · exact .inr rfl
        · have kept := (List.dropWhile_suffix _).subset (List.mem_reverse.1 fraction)
          exact .inl (padded (List.mem_of_mem_drop (List.mem_reverse.1 kept)))

/-- The text of a number has no exponent, so its shift does not overflow. -/
theorem not_overflows_toText (x : Decimal.Binary64) : ¬ Overflows (String.ofList x.toText) := by
  intro overflows
  obtain ⟨mark, marked, member⟩ := overflows.exists_mark
  rw [String.toList_ofList] at member
  have letter : mark ≠ '-' ∧ mark ≠ '.' ∧ mark.isDigit = false ∧ mark ∉ ['i', 'n', 'f'] ∧
      mark ∉ ['N', 'a', 'N'] := by
    rcases List.mem_pair.1 marked with rfl | rfl <;> decide
  obtain ⟨minus, point, digit, infinite, nan⟩ := letter
  have unsigned {m : Decimal.Magnitude} (member : mark ∈
      if m.significand = 0 then ['0'] else m.shortest.toText) : False := by
    split at member
    · rw [List.mem_singleton.1 member] at digit
      cases digit
    · rcases isDigit_or_eq_of_mem_toText member with is | is
      · rw [digit] at is
        cases is
      · exact point is
  unfold Decimal.Binary64.toText at member
  split at member
  · dsimp only at member
    split at member
    · exact (List.mem_cons.1 member).elim minus unsigned
    · exact unsigned member
  · split at member
    · exact (List.mem_cons.1 member).elim minus infinite
    · exact infinite member
  · exact nan member

/-! ### Values -/

theorem ofText_eq_stop_iff (s : String) : ofText s = .stop ↔ Overflows s := by
  rw [← parse_eq_stop_iff, ofText]
  cases parse s <;> simp [Outcome.mapError]

/-- A value leads to a stop only if it is a text that does. -/
theorem ofValue_eq_stop_iff (v : Value) : ofValue v = .stop ↔ ∃ s, v = .text s ∧ Overflows s := by
  cases v with
  | text s => simp [ofValue, ofText_eq_stop_iff]
  | int i =>
    refine iff_of_false ?_ (by simp)
    rw [ofValue]
    split
    · simp
    · exact mt (ofText_eq_stop_iff _).1 (not_overflows_toText _)
  | float x => exact iff_of_false (mt (ofText_eq_stop_iff _).1 (not_overflows_toText x)) (by simp)
  | null | bool | list | map | unreadable => simp [ofValue]

end PodCache.Quantity
