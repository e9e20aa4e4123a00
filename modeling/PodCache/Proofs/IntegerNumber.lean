import PodCache.Proofs.LargeMagnitude
import PodCache.Proofs.QuantityReadBack

/-!
# Integers as numbers

A document can give an integer as a number or as a text. The text is read digit by digit, and so
is the number if 64 bits hold it with its sign. Any other number is taken for a floating-point
number first, and the amount is read from the shortest text of that. So the number counts as many
units as the text exactly if it is the shortest text of the floating-point number itself; then it
ends in two zeros.
-/

namespace PodCache

namespace Text

/-! ### Zeros at the end -/

theorem decimalValue_replicate (k : Nat) : decimalValue (List.replicate k '0') = 0 := by
  induction k with
  | zero => rfl
  | succ k ih =>
    rw [List.replicate_succ, ← List.singleton_append, decimalValue_append, ih]
    simp [decimalValue]

theorem decimalValue_toDigits_append (d k : Nat) :
    decimalValue (Nat.toDigits 10 d ++ List.replicate k '0') = d * 10 ^ k := by
  rw [decimalValue_append, decimalValue_toDigits, decimalValue_replicate, List.length_replicate,
    Nat.add_zero]

theorem toDigits_mul_pow {d : Nat} (positive : 0 < d) (k : Nat) :
    Nat.toDigits 10 (d * 10 ^ k) = Nat.toDigits 10 d ++ List.replicate k '0' := by
  induction k with
  | zero => simp
  | succ k ih =>
    have grown : 0 < d * 10 ^ k := Nat.mul_pos positive (Nat.pow_pos (by decide))
    have next : d * 10 ^ (k + 1) = 10 * (d * 10 ^ k) + 0 := by ring
    rw [next, ← Nat.toDigits_append_toDigits (by decide) grown (by decide), ih, List.append_assoc,
      List.replicate_succ', Nat.toDigits_zero]

theorem isDigits_toDigits_append (d k : Nat) :
    IsDigits (Nat.toDigits 10 d ++ List.replicate k '0') := by
  refine ⟨List.append_ne_nil_of_left_ne_nil Nat.toDigits_ne_nil _, ?_⟩
  intro c member
  rcases List.mem_append.1 member with digit | zero
  · exact (isDigits_toDigits d).2 c digit
  · rw [List.eq_of_mem_replicate zero]
    rfl

/-- A text of digits with one sign at most has no blanks to trim. -/
theorem IntNumeral.trim_eq {cs : List Char} {k : Int} (numeral : IntNumeral cs k) :
    trim cs = cs := by
  apply trim_of_forall
  intro c member
  cases numeral with
  | plain digits => exact isBlank_of_isDigit (digits.2 c member)
  | plus digits =>
    rcases List.mem_cons.1 member with rfl | member
    · rfl
    · exact isBlank_of_isDigit (digits.2 c member)
  | minus digits =>
    rcases List.mem_cons.1 member with rfl | member
    · rfl
    · exact isBlank_of_isDigit (digits.2 c member)

end Text

namespace Quantity

open Text (IsDigits IntNumeral decimalValue)

/-! ### Integers as texts -/

/-- Where only digits follow the sign, they are the number, without a fraction or a suffix. -/
theorem parts_of_digits {t ds : List Char} (digits : IsDigits ds) (rest : unsigned t = ds) :
    numberOf t = ds ∧ suffixOf t = [] ∧ integralOf ds = ds ∧ fractionOf ds = [] := by
  have number : ∀ c ∈ ds, isNumberChar c = true := by
    intro c member
    simp [isNumberChar, digits.2 c member]
  have whole : ∀ c ∈ ds, (c != '.') = true := by
    intro c member
    rw [bne_iff_ne]
    rintro rfl
    exact absurd (digits.2 '.' member) (by decide)
  refine ⟨?_, ?_, List.takeWhile_eq_self_iff.2 whole, ?_⟩
  · rw [numberOf, rest, List.takeWhile_eq_self_iff.2 number]
  · rw [suffixOf, rest, List.dropWhile_eq_nil_iff.2 number]
  · rw [fractionOf, List.dropWhile_eq_nil_iff.2 whole, List.drop_nil]

theorem IntNumeral.exists_digits {cs : List Char} {k : Int} (numeral : IntNumeral cs k) :
    ∃ ds, IsDigits ds ∧ unsigned cs = ds ∧ k.natAbs = decimalValue ds ∧
      (k : ℚ) = sign cs * decimalValue ds := by
  cases numeral with
  | plain digits =>
    obtain ⟨c, ds, rfl⟩ := List.exists_cons_of_ne_nil digits.1
    have other := digits.head_ne
    refine ⟨_, digits, ?_, rfl, ?_⟩
    · simp [unsigned, other.1, other.2]
    · simp [sign, other.1]
  | @plus ds digits => exact ⟨ds, digits, by simp [unsigned], rfl, by simp [sign]⟩
  | @minus ds digits => exact ⟨ds, digits, by simp [unsigned], by omega, by simp [sign]⟩

/-- The text of an integer is read as so many units, if they are an amount. -/
theorem parse_intNumeral_iff {cs : List Char} {k : Int} (numeral : IntNumeral cs k) (q : Quantity) :
    parse (String.ofList cs) = .ok q ↔ q.nanos = k * nanosPerUnit := by
  have trimmed : Text.trim (String.ofList cs).toList = cs := by
    rw [String.toList_ofList, numeral.trim_eq]
  obtain ⟨ds, digits, rest, size, value⟩ := IntNumeral.exists_digits numeral
  obtain ⟨number, suffix, whole, fraction⟩ := parts_of_digits digits rest
  have amount : Amounts (String.ofList cs) ((k * nanosPerUnit : Int) : ℚ) := by
    unfold Amounts
    rw [trimmed]
    dsimp only
    rw [number, suffix]
    refine ⟨⟨?_, ?_⟩, 1, .one, ?_⟩
    · obtain ⟨c, member⟩ := List.exists_mem_of_ne_nil _ digits.1
      exact ⟨c, member, digits.2 c member⟩
    · rw [count_point_le_one_iff, fraction]
      exact List.not_mem_nil
    · have nothing : decimalValue [] = 0 := rfl
      rw [numberValue, whole, fraction, Int.cast_mul, value, nanosPerUnit]
      norm_num [nothing]
  have room : q.nanos = k * nanosPerUnit → HasRoom (String.ofList cs) := by
    intro same
    have least := q.min_le
    have most := q.le_max
    unfold HasRoom digitsOf
    rw [trimmed]
    dsimp only
    rw [number, suffix, whole, fraction, List.append_nil, ← size]
    refine ⟨⟨1, 0⟩, rfl, ?_, fun _ => ⟨by decide, by decide, by decide⟩⟩
    rw [Int.mul_one]
    unfold nanosPerUnit at same
    unfold minNanos at least
    unfold maxNanos at most ⊢
    omega
  rw [parse_eq_ok_iff amount, Int.ceil_intCast]
  exact ⟨And.right, fun same => ⟨room same, same⟩⟩

end Quantity

namespace Json

open Decimal (Binary64 Magnitude)
open Text (IsDigits IntNumeral decimalValue)

/-! ### Integers as numbers -/

/-- A minus sign in front, or none. -/
def withMinus (negative : Bool) (cs : List Char) : List Char := if negative then '-' :: cs else cs

/-- An integer, by its sign and its size. -/
def integer (negative : Bool) (n : Nat) : Int := if negative then -n else n

/-- The text of an integer as a number of a document. -/
def integerText (negative : Bool) (n : Nat) : String :=
  String.ofList (withMinus negative (Nat.toDigits 10 n))

/-- The numeral that this text is taken apart into. -/
def integerNumeral (negative : Bool) (n : Nat) : Numeral :=
  ⟨negative, (Nat.toDigits 10 n).map fun c => c.toNat - 48, [], none⟩

/-- The floating-point number that a numeral is taken for where 64 bits with a sign do not hold
    it. -/
def Numeral.toBinary64? (n : Numeral) : Option Binary64 :=
  match n.toValue with
  | .int i => some (.ofInt i)
  | .float x => some x
  | _ => none

theorem intNumeral_withMinus (negative : Bool) {ds : List Char} (digits : IsDigits ds) :
    IntNumeral (withMinus negative ds) (integer negative (decimalValue ds)) := by
  cases negative with
  | false => exact .plain digits
  | true => exact .minus digits

section

variable (negative : Bool) (n : Nat)

theorem ofDigits_integral : Text.ofDigits 10 (integerNumeral negative n).integral = n := by
  rw [integerNumeral, Text.ofDigits_map, Text.decimalValue_toDigits]

theorem next?_integerText :
    Token.next? (integerText negative n).toList =
      some (.scalar (integerNumeral negative n).toValue, []) := by
  have ends : EndsNumeral [] := by rintro c ⟨⟩
  have read := Token.unsignedNumeral?_toDigits negative n ends
  rw [List.append_nil] at read
  have digits := Text.isDigits_toDigits n
  rw [integerText, String.toList_ofList]
  cases negative with
  | true =>
    rw [withMinus, if_pos rfl, Token.next?_cons_of_numeral (.inr rfl), Token.numeral?_minus, read]
    rfl
  | false =>
    rw [withMinus, if_neg (by decide)]
    cases written : Nat.toDigits 10 n with
    | nil => exact absurd written digits.1
    | cons c cs =>
      rw [written] at read digits
      rw [Token.next?_cons_of_numeral (.inl (digits.2 c List.mem_cons_self)),
        Token.numeral?_of_ne digits.head_ne.1, read, integerNumeral, written]
      rfl

theorem read?_integerText :
    read? (integerText negative n).toList = some ((integerNumeral negative n).toValue, []) := by
  apply read?_of_settles
  refine ⟨(⟨[], .value⟩, (integerText negative n).toList), _, .refl, next?_integerText negative n,
    ?_, rfl⟩
  have filled : (integerText negative n).toList ≠ [] := by
    intro empty
    have read := next?_integerText negative n
    rw [empty] at read
    cases read
  exact List.length_pos_iff.2 filled

/-- A numeral without a point and an exponent is an integer, or a floating-point number of the
    same sign. -/
theorem toValue_cases :
    (integerNumeral negative n).toValue = .int (integer negative n) ∨
    (∃ m, (integerNumeral negative n).toMagnitude? = some m ∧
      (integerNumeral negative n).toValue = .float (.finite negative m)) ∨
    (integerNumeral negative n).toValue = .unreadable := by
  unfold Numeral.toValue
  dsimp only
  rw [ofDigits_integral]
  split
  · rename_i plain
    have unsigned : negative = false := by
      simp only [Bool.and_eq_true, Bool.not_eq_true'] at plain
      exact plain.1.2
    subst unsigned
    exact .inl rfl
  · split
    · rename_i minus
      have signed : negative = true := by
        simp only [Bool.and_eq_true] at minus
        exact minus.1.1.2
      subst signed
      exact .inl rfl
    · split
      · rename_i m found
        exact .inr (.inl ⟨m, found, rfl⟩)
      · exact .inr (.inr rfl)

end

namespace Numeral

/-- Either all digits go into the significand, or it grows until 64 bits hold hardly a digit
    more. -/
theorem accumulate_cases {ds : List Nat} (small : ∀ d ∈ ds, d < 10) (start : Nat) :
    accumulate start ds = (ds.foldl (fun n d => n * 10 + d) start, []) ∨
    ∃ w d rest, accumulate start ds = (w, d :: rest) ∧ maxSignificand < w * 10 + 10 := by
  induction ds generalizing start with
  | nil => exact .inl rfl
  | cons d ds ih =>
    have digit := small d List.mem_cons_self
    unfold accumulate
    split
    · exact ih (fun e member => small e (List.mem_cons_of_mem _ member)) _
    · exact .inr ⟨start, d, ds, rfl, by omega⟩

theorem pow_le_scale? {m p : Magnitude} {i j k : Nat} (left : (2 : ℚ) ^ i ≤ m.toRat)
    (right : 2 ^ j ≤ 10 ^ k) (found : scale? m k = some p) : (2 : ℚ) ^ (i + j) ≤ p.toRat := by
  unfold scale? at found
  rw [if_pos (Int.natCast_nonneg k), if_neg (Magnitude.significand_ne_zero left)] at found
  split at found
  · cases found
  · dsimp only at found
    split at found
    · cases found
      exact Magnitude.pow_le_mul left (Magnitude.pow_le_ofNat right)
    · cases found

end Numeral

variable {negative : Bool} {n : Nat}

/-- The floating-point number of a large integer is large: of an integer that 64 bits do not
    hold, the digits that they hold come to more than sixty bits. -/
theorem pow_le_toMagnitude? (large : 2 ^ 63 ≤ n) {m : Magnitude}
    (found : (integerNumeral negative n).toMagnitude? = some m) : (2 : ℚ) ^ 63 ≤ m.toRat := by
  have whole : (integerNumeral negative n).integral.foldl (fun n d => n * 10 + d) 0 = n :=
    ofDigits_integral negative n
  have small : ∀ d ∈ (integerNumeral negative n).integral, d < 10 := by
    intro d member
    obtain ⟨c, written, rfl⟩ := List.mem_map.1 member
    exact Text.digit?_lt (Text.digit?_ten_of_isDigit ((Text.isDigits_toDigits n).2 c written))
  unfold Numeral.toMagnitude? at found
  rcases Numeral.accumulate_cases small 0 with all | ⟨w, d, rest, partly, most⟩
  · rw [all, whole] at found
    exact Numeral.pow_le_scale? (k := 0) (j := 0) (Magnitude.pow_le_ofNat large) (by decide) found
  · rw [partly] at found
    unfold Numeral.maxSignificand at most
    have first : 2 ^ 60 ≤ w := by omega
    have more : 2 ^ 3 ≤ 10 ^ (d :: rest).length := by
      rw [List.length_cons, Nat.pow_succ]
      have := Nat.pow_pos (n := rest.length) (show 0 < 10 by decide)
      omega
    exact Numeral.pow_le_scale? (Magnitude.pow_le_ofNat first) more found

/-- Sixty-four bits hold an integer with its sign exactly, but for the sign of minus zero. -/
theorem toValue_of_contains (signed : negative = true → n ≠ 0)
    (within : IntRange.signed64.contains (integer negative n) = true) :
    (integerNumeral negative n).toValue = .int (integer negative n) := by
  rw [IntRange.contains_iff] at within
  unfold IntRange.signed64 integer at within
  dsimp only at within
  cases negative with
  | false =>
    rw [if_neg (by decide)] at within
    exact Token.toValue_of_nonneg (by omega)
  | true =>
    rw [if_pos rfl] at within
    exact Token.toValue_of_neg (Nat.pos_of_ne_zero (signed rfl)) (by omega)

theorem toText_minusZero :
    (integerNumeral true 0).toValue = .float (.finite true .zero) ∧
      (Binary64.finite true .zero).toText = withMinus true ['0'] :=
  ⟨rfl, rfl⟩

theorem le_of_beyond (beyond : ¬ IntRange.signed64.contains (integer negative n) = true) :
    2 ^ 63 ≤ n := by
  rw [IntRange.contains_iff] at beyond
  unfold IntRange.signed64 integer at beyond
  dsimp only at beyond
  split at beyond <;> omega

/-- An integer that 64 bits do not hold with its sign is taken for a large floating-point
    number of that sign, if any. -/
theorem large_of_toBinary64? (beyond : ¬ IntRange.signed64.contains (integer negative n) = true)
    {x : Binary64} (found : (integerNumeral negative n).toBinary64? = some x) :
    ∃ m, x = .finite negative m ∧ (2 : ℚ) ^ 63 ≤ m.toRat := by
  have large := le_of_beyond beyond
  unfold Numeral.toBinary64? at found
  rcases toValue_cases negative n with whole | ⟨m, magnitude, float⟩ | unreadable
  · rw [whole] at found
    cases found
    refine ⟨.ofNat n, ?_, Magnitude.pow_le_ofNat large⟩
    have sign : decide (integer negative n < 0) = negative := by
      cases negative <;> simp [integer]
      omega
    have size : (integer negative n).natAbs = n := by
      cases negative <;> simp [integer]
    rw [Binary64.ofInt, sign, size]
  · rw [float] at found
    cases found
    exact ⟨m, rfl, pow_le_toMagnitude? large magnitude⟩
  · rw [unreadable] at found
    cases found

theorem integer_inj {i j : Nat} : integer negative i = integer negative j ↔ i = j := by
  cases negative <;> simp [integer]

theorem withMinus_inj {cs ds : List Char} :
    withMinus negative cs = withMinus negative ds ↔ cs = ds := by
  cases negative <;> simp [withMinus]

/-- A text of digits with zeros at the end is the text of an integer just when it has its
    value. -/
theorem withMinus_eq_toList_iff {d k : Nat} (nonzero : n ≠ 0) :
    withMinus negative (Nat.toDigits 10 d ++ List.replicate k '0') =
      (integerText negative n).toList ↔ d * 10 ^ k = n := by
  rw [integerText, String.toList_ofList, withMinus_inj]
  constructor
  · intro same
    have value := congrArg decimalValue same
    rwa [Text.decimalValue_toDigits_append, Text.decimalValue_toDigits] at value
  · rintro rfl
    have positive : 0 < d := Nat.pos_of_ne_zero fun none => nonzero (by rw [none, Nat.zero_mul])
    rw [Text.toDigits_mul_pow positive]

/-- The text of that floating-point number is an integer of the same sign that ends in two
    zeros. -/
theorem exists_numeral_of_toBinary64?
    (beyond : ¬ IntRange.signed64.contains (integer negative n) = true) {x : Binary64}
    (found : (integerNumeral negative n).toBinary64? = some x) :
    ∃ i, IntNumeral x.toText (integer negative i) ∧ 100 ∣ i ∧
      (x.toText = (integerText negative n).toList ↔ i = n) := by
  have nonzero : n ≠ 0 := Nat.ne_of_gt (lt_of_lt_of_le (by decide) (le_of_beyond beyond))
  obtain ⟨m, rfl, large⟩ := large_of_toBinary64? beyond found
  obtain ⟨d, k, text, zeros⟩ := Magnitude.exists_toText_shortest (le_trans (by norm_num) large)
  have shown : (Binary64.finite negative m).toText =
      withMinus negative (Nat.toDigits 10 d ++ List.replicate k '0') := by
    rw [Binary64.toText, if_neg (Magnitude.significand_ne_zero large), text]
    rfl
  have numeral := intNumeral_withMinus negative (Text.isDigits_toDigits_append d k)
  rw [Text.decimalValue_toDigits_append] at numeral
  rw [shown]
  exact ⟨d * 10 ^ k, numeral, zeros, withMinus_eq_toList_iff nonzero⟩

end Json

namespace Quantity

open Decimal (Binary64)
open Json (integer integerText integerNumeral)

variable {negative : Bool} {n : Nat} {q : Quantity}

/-! ### Integers as documents -/

theorem ofDocument_integerText :
    ofDocument (integerText negative n) = .ok q ↔
      ofValue (integerNumeral negative n).toValue = .ok q := by
  unfold ofDocument
  rw [Json.read?_integerText]
  dsimp only
  rcases Json.toValue_cases negative n with read | ⟨m, -, read⟩ | read
  · rw [read]
    cases ofValue (.int (integer negative n)) <;> simp [Value.isReadable]
  · rw [read]
    cases ofValue (.float (.finite negative m)) <;> simp [Value.isReadable]
  · rw [read]
    simp [Value.isReadable, ofValue]

theorem ofText_eq_ok_iff {s : String} : ofText s = .ok q ↔ parse s = .ok q := by
  unfold ofText
  cases parse s <;> simp

theorem ofDocument_integerText_of_beyond
    (beyond : ¬ IntRange.signed64.contains (integer negative n) = true) :
    ofDocument (integerText negative n) = .ok q ↔
      ∃ x, (integerNumeral negative n).toBinary64? = some x ∧
        parse (String.ofList x.toText) = .ok q := by
  rw [ofDocument_integerText]
  unfold Json.Numeral.toBinary64?
  rcases Json.toValue_cases negative n with read | ⟨m, -, read⟩ | read
  · simp [read, ofValue, beyond, ofText_eq_ok_iff]
  · simp [read, ofValue, ofText_eq_ok_iff]
  · simp [read, ofValue]

/-- An integer that 64 bits hold with its sign counts units, and so does minus zero. -/
theorem ofDocument_integerText_of_contains
    (within : IntRange.signed64.contains (integer negative n) = true) :
    ofDocument (integerText negative n) = .ok q ↔
      q.nanos = integer negative n * nanosPerUnit := by
  rw [ofDocument_integerText]
  by_cases minusZero : negative = true ∧ n = 0
  · obtain ⟨rfl, rfl⟩ := minusZero
    have zero : Text.IsDigits ['0'] := Text.isDigits_toDigits 0
    rw [Json.toText_minusZero.1, ofValue, ofText_eq_ok_iff, Json.toText_minusZero.2]
    exact parse_intNumeral_iff (Json.intNumeral_withMinus true zero) q
  · have read := Json.toValue_of_contains (fun minus none => minusZero ⟨minus, none⟩) within
    obtain ⟨least, most⟩ := IntRange.contains_iff.1 within
    have units : (ofUnits (.ofInt (integer negative n))).nanos =
        integer negative n * nanosPerUnit :=
      congrArg (· * nanosPerUnit) (Int64.toInt_ofInt_of_le least (Int.lt_add_one_of_le most))
    rw [read, ofValue, if_pos within, Outcome.ok.injEq, Quantity.ext_iff, units, eq_comm]

theorem parse_integerText_iff :
    parse (integerText negative n) = .ok q ↔ q.nanos = integer negative n * nanosPerUnit := by
  have numeral := Json.intNumeral_withMinus negative (Text.isDigits_toDigits n)
  rw [Text.decimalValue_toDigits] at numeral
  exact parse_intNumeral_iff numeral q

/-- An integer that 64 bits do not hold counts the same as a number and as a text just when the
    floating-point number has that text, and then it ends in two zeros. -/
theorem ofDocument_integerText_iff_of_beyond
    (beyond : ¬ IntRange.signed64.contains (integer negative n) = true)
    (accepted : parse (integerText negative n) = .ok q) :
    (ofDocument (integerText negative n) = .ok q ↔
      ∃ x, (integerNumeral negative n).toBinary64? = some x ∧
        x.toText = (integerText negative n).toList) ∧
    (ofDocument (integerText negative n) = .ok q → 100 ∣ n) := by
  have agrees {x : Binary64} (found : (integerNumeral negative n).toBinary64? = some x) :
      (parse (String.ofList x.toText) = .ok q ↔ x.toText = (integerText negative n).toList) ∧
        (parse (String.ofList x.toText) = .ok q → 100 ∣ n) := by
    obtain ⟨i, numeral, zeros, text⟩ := Json.exists_numeral_of_toBinary64? beyond found
    -- Both texts are integers, so they count the same just when they are the same integer.
    have same : parse (String.ofList x.toText) = .ok q ↔ i = n := by
      rw [parse_intNumeral_iff numeral, parse_integerText_iff.1 accepted,
        mul_left_inj' (by decide), Json.integer_inj, eq_comm]
    rw [same, text]
    exact ⟨Iff.rfl, fun value => value ▸ zeros⟩
  rw [ofDocument_integerText_of_beyond beyond]
  refine ⟨exists_congr fun x => and_congr_right fun found => (agrees found).1, ?_⟩
  rintro ⟨x, found, read⟩
  exact (agrees found).2 read

/-- An integer that is accepted as a text counts as many units as a number if 64 bits hold it
    with its sign. Any other number counts what the shortest text of a floating-point number
    does. That is as much just when this text is the integer itself, which then ends in two
    zeros. -/
theorem number_agrees_iff (negative : Bool) (n : Nat) (q : Quantity)
    (accepted : parse (integerText negative n) = .ok q) :
    (∀ layout, ofDocument (Json.print layout (.text (integerText negative n))) = .ok q) ∧
    (ofDocument (integerText negative n) = .ok q ↔
      IntRange.signed64.contains (integer negative n) = true ∨
        ∃ x, (integerNumeral negative n).toBinary64? = some x ∧
          x.toText = (integerText negative n).toList) ∧
    (¬ IntRange.signed64.contains (integer negative n) = true →
      (∀ p, ofDocument (integerText negative n) = .ok p ↔
        ∃ x, (integerNumeral negative n).toBinary64? = some x ∧
          parse (String.ofList x.toText) = .ok p) ∧
      (ofDocument (integerText negative n) = .ok q → 100 ∣ n)) := by
  refine ⟨fun layout => by rw [ofDocument_print_text, accepted, Outcome.mapError_ok], ?_⟩
  by_cases within : IntRange.signed64.contains (integer negative n) = true
  · have read := (ofDocument_integerText_of_contains within).2 (parse_integerText_iff.1 accepted)
    exact ⟨iff_of_true read (.inl within), fun beyond => absurd within beyond⟩
  · obtain ⟨agrees, zeros⟩ := ofDocument_integerText_iff_of_beyond within accepted
    refine ⟨agrees.trans (by simp [within]), fun _ => ⟨?_, zeros⟩⟩
    exact fun p => ofDocument_integerText_of_beyond within

/-- Ten to the power of 19, which 64 bits do not hold with a sign. -/
def tenPow19 : Quantity := ⟨10000000000000000000000000000, by decide, by decide⟩

theorem number_agrees_tenPow19 :
    parse (integerText false (10 ^ 19)) = .ok tenPow19 ∧
    ¬ IntRange.signed64.contains (integer false (10 ^ 19)) = true ∧
    ofDocument (integerText false (10 ^ 19)) = .ok tenPow19 ∧
    100 ∣ 10 ^ 19 := by
  have accepted : parse (integerText false (10 ^ 19)) = .ok tenPow19 :=
    parse_integerText_iff.2 (by decide)
  have beyond : ¬ IntRange.signed64.contains (integer false (10 ^ 19)) = true := by decide
  obtain ⟨-, agrees, large⟩ := number_agrees_iff false (10 ^ 19) tenPow19 accepted
  have read : ofDocument (integerText false (10 ^ 19)) = .ok tenPow19 :=
    agrees.2 (.inr ⟨.ofInt (10 ^ 19), by decide +kernel, by decide +kernel⟩)
  exact ⟨accepted, beyond, read, (large beyond).2 read⟩

/-- One more than two to the power of 63. -/
def pastPow63 : Quantity := ⟨9223372036854775809000000000, by decide, by decide⟩

/-- What the number one more than two to the power of 63 counts. -/
def roundedPow63 : Quantity := ⟨9223372036854776000000000000, by decide, by decide⟩

theorem ofDocument_pastPow63 :
    ofDocument (integerText false (2 ^ 63 + 1)) = .ok roundedPow63 := by
  rw [ofDocument_integerText_of_beyond (by decide)]
  exact ⟨.ofInt (2 ^ 63 + 1), by decide +kernel, by decide +kernel⟩

/-- Not every integer counts the same as a number and as a text. -/
theorem not_forall_number_agrees :
    ¬ ∀ (layout : Json.Layout) (negative : Bool) (n : Nat) (q : Quantity),
      parse (integerText negative n) = .ok q →
        ofDocument (integerText negative n) =
          ofDocument (Json.print layout (.text (integerText negative n))) := by
  intro agrees
  have accepted : parse (integerText false (2 ^ 63 + 1)) = .ok pastPow63 :=
    parse_integerText_iff.2 (by decide)
  have same := agrees .indented false (2 ^ 63 + 1) pastPow63 accepted
  rw [ofDocument_pastPow63, ofDocument_print_text, accepted] at same
  exact absurd (Outcome.ok.inj same) (by decide)

end Quantity

end PodCache
