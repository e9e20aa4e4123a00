import Mathlib.Data.List.TakeWhile
import Mathlib.Data.Rat.Floor
import PodCache.Proofs.Numerals
import PodCache.Quantity.Reader

/-!
# The grammar of quantity texts

A quantity text has a sign or none, a decimal number and a suffix that stands for a factor.
The reader takes it apart at the same places.
-/

namespace PodCache.Quantity

open Text (decimalValue IntNumeral)

/-! ### The grammar -/

/-- Minus one for a text with a minus sign, one for any other. -/
def sign (t : List Char) : ℚ := if t.head? = some '-' then -1 else 1

/-- The text without its sign. -/
def unsigned (t : List Char) : List Char :=
  if t.head? = some '-' ∨ t.head? = some '+' then t.tail else t

/-- The longest run of digits and points after the sign. -/
def numberOf (t : List Char) : List Char := (unsigned t).takeWhile isNumberChar

/-- What follows the number. -/
def suffixOf (t : List Char) : List Char := (unsigned t).dropWhile isNumberChar

/-- A number has a digit and at most one point. -/
def IsNumber (number : List Char) : Prop :=
  (∃ c ∈ number, c.isDigit = true) ∧ number.count '.' ≤ 1

/-- The digits before the point of a number, all of them if it has none. -/
def integralOf (number : List Char) : List Char := number.takeWhile (· != '.')

/-- The digits after the point of a number. -/
def fractionOf (number : List Char) : List Char := (number.dropWhile (· != '.')).drop 1

/-- The value of a number in decimal notation. -/
def numberValue (number : List Char) : ℚ :=
  decimalValue (integralOf number) +
    decimalValue (fractionOf number) / 10 ^ (fractionOf number).length

/-- The letters that stand for powers of a thousand. -/
def decimalUnits : List (Char × Int) :=
  [('n', -3), ('u', -2), ('m', -1), ('k', 1), ('M', 2), ('G', 3), ('T', 4), ('P', 5), ('E', 6)]

/-- The letters that stand, with an `i` behind them, for powers of 1024. -/
def binaryUnits : List (Char × Nat) :=
  [('K', 1), ('M', 2), ('G', 3), ('T', 4), ('P', 5), ('E', 6)]

/-- The suffixes of quantities and the factors they denote. -/
inductive Denotes : List Char → ℚ → Prop
  | one : Denotes [] 1
  | decimal {c : Char} {k : Int} : (c, k) ∈ decimalUnits → Denotes [c] (1000 ^ k)
  | binary {c : Char} {k : Nat} : (c, k) ∈ binaryUnits → Denotes [c, 'i'] (1024 ^ k)
  | exponent {c : Char} {numeral : List Char} {e : Int} : c ∈ ['e', 'E'] →
      IntNumeral numeral e → IntRange.signed32.contains e = true →
      Denotes (c :: numeral) (10 ^ e)

/-! ### The parts of a text -/

theorem Parts.ofText_eq (t : List Char) :
    Parts.ofText t =
      { negative := decide (t.head? = some '-')
        integral := integralOf (numberOf t)
        fraction := fractionOf (numberOf t)
        suffix := suffixOf t } := by
  unfold Parts.ofText
  split
  rename_i negative rest parted
  have same : negative = decide (t.head? = some '-') ∧ rest = unsigned t := by
    unfold unsigned
    split at parted
    · cases parted
      simp
    · cases parted
      simp
    · rename_i noMinus noPlus
      have minus : t.head? ≠ some '-' := fun marked =>
        have ⟨rest, starts⟩ := List.head?_eq_some_iff.1 marked
        noMinus rest starts
      have plus : t.head? ≠ some '+' := fun marked =>
        have ⟨rest, starts⟩ := List.head?_eq_some_iff.1 marked
        noPlus rest starts
      cases parted
      simp [minus, plus]
  rw [same.1, same.2]
  rfl

/-- A number is its two strings of digits with the point between them, if it has a point. -/
theorem integralOf_append_fractionOf (number : List Char) :
    (fractionOf number = [] ∧ integralOf number = number) ∨
      integralOf number ++ '.' :: fractionOf number = number := by
  have whole := List.takeWhile_append_dropWhile (p := (· != '.')) (l := number)
  have next := List.head?_dropWhile_not (· != '.') number
  unfold integralOf fractionOf
  cases rest : number.dropWhile (· != '.') with
  | nil =>
    rw [rest, List.append_nil] at whole
    exact .inl ⟨rfl, whole⟩
  | cons c rest' =>
    rw [rest] at whole next
    have point : c = '.' := by simpa using next
    subst point
    exact .inr whole

theorem point_notMem_integralOf (number : List Char) : '.' ∉ integralOf number := by
  intro member
  simpa using List.mem_takeWhile_imp member

theorem isDigit_or_eq_of_mem_numberOf {t : List Char} {c : Char} (member : c ∈ numberOf t) :
    c.isDigit = true ∨ c = '.' := by
  simpa [isNumberChar] using List.mem_takeWhile_imp member

theorem mem_parts_iff {c : Char} (other : c ≠ '.') (number : List Char) :
    c ∈ integralOf number ++ fractionOf number ↔ c ∈ number := by
  rcases integralOf_append_fractionOf number with ⟨nothing, whole⟩ | whole
  · rw [nothing, whole, List.append_nil]
  · conv_rhs => rw [← whole]
    simp [other]

/-- A number with one point at most has nothing but digits on the two sides of it. -/
theorem isDigit_of_mem_parts {t : List Char} (single : '.' ∉ fractionOf (numberOf t)) :
    ∀ c ∈ integralOf (numberOf t) ++ fractionOf (numberOf t), c.isDigit = true := by
  intro c member
  have other : c ≠ '.' := by
    rintro rfl
    exact (List.mem_append.1 member).elim (point_notMem_integralOf _) single
  exact (isDigit_or_eq_of_mem_numberOf ((mem_parts_iff other _).1 member)).resolve_right other

theorem count_point_le_one_iff (number : List Char) :
    number.count '.' ≤ 1 ↔ '.' ∉ fractionOf number := by
  have before : (integralOf number).count '.' = 0 :=
    List.count_eq_zero.2 (point_notMem_integralOf number)
  rcases integralOf_append_fractionOf number with ⟨nothing, whole⟩ | whole
  · rw [whole] at before
    simp [before, nothing]
  · conv_lhs => rw [← whole]
    rw [List.count_append, before, List.count_cons_self, ← List.count_eq_zero]
    omega

theorem Parts.isNumber_ofText (t : List Char) :
    (Parts.ofText t).isNumber = true ↔ IsNumber (numberOf t) := by
  rw [Parts.ofText_eq]
  simp only [Parts.isNumber, IsNumber, count_point_le_one_iff, Bool.and_eq_true,
    Bool.not_eq_true', Bool.and_eq_false_iff, List.isEmpty_eq_false_iff, List.contains_eq_mem,
    decide_eq_false_iff_not]
  refine and_congr_left fun single => ?_
  have digits := isDigit_of_mem_parts single
  have other {c : Char} (digit : c.isDigit = true) : c ≠ '.' := by
    rintro rfl
    exact absurd digit (by decide)
  -- With one point at most, there is a digit where the two sides are not both empty.
  have filled : (integralOf (numberOf t) ≠ [] ∨ fractionOf (numberOf t) ≠ []) ↔
      integralOf (numberOf t) ++ fractionOf (numberOf t) ≠ [] :=
    (List.append_eq_nil_iff.not.trans not_and_or).symm
  rw [filled]
  constructor
  · intro nonempty
    obtain ⟨c, member⟩ := List.exists_mem_of_ne_nil _ nonempty
    have digit := digits c member
    exact ⟨c, (mem_parts_iff (other digit) _).1 member, digit⟩
  · rintro ⟨c, member, digit⟩
    exact List.ne_nil_of_mem ((mem_parts_iff (other digit) _).2 member)

/-! ### The suffixes -/

/-- The factor of a scale. -/
def Scale.factor (s : Scale) : ℚ := s.binary * 10 ^ s.exponent

theorem ofSuffix?_decimal : ∀ unit ∈ decimalUnits,
    Scale.ofSuffix? [unit.1] = some ⟨1, 3 * unit.2⟩ := by
  decide

theorem ofSuffix?_binary : ∀ unit ∈ binaryUnits,
    Scale.ofSuffix? [unit.1, 'i'] = some ⟨1024 ^ unit.2, 0⟩ := by
  decide

theorem exponent?_eq_some_iff {numeral : List Char} {e : Int} :
    exponent? numeral = some e ↔
      IntNumeral numeral e ∧ IntRange.signed32.contains e = true := by
  rw [← Text.readInt?_ten_eq_some_iff]
  unfold exponent?
  cases Text.readInt? 10 numeral with
  | none => simp
  | some n =>
    simp only [Option.ite_none_right_eq_some, Option.some.injEq]
    constructor
    · rintro ⟨fits, rfl⟩
      exact ⟨rfl, fits⟩
    · rintro ⟨rfl, fits⟩
      exact ⟨fits, rfl⟩

/-- A numeral is neither empty nor an `i`, so no unit is taken for an exponent. -/
theorem ofSuffix?_exponent {c : Char} {numeral : List Char} {e : Int} (mark : c ∈ ['e', 'E'])
    (read : exponent? numeral = some e) : Scale.ofSuffix? (c :: numeral) = some ⟨1, e⟩ := by
  have filled : numeral ≠ [] := by
    rintro rfl
    cases read
  have unbinary : numeral ≠ ['i'] := by
    rintro rfl
    have unread : exponent? ['i'] = none := by decide
    rw [unread] at read
    cases read
  rcases List.mem_pair.1 mark with rfl | rfl
  · rw [Scale.ofSuffix?, read]
    rfl
  · rw [Scale.ofSuffix?, read]
    · rfl
    · exact unbinary
    · exact filled

theorem Denotes.exists_scale {cs : List Char} {m : ℚ} (denotes : Denotes cs m) :
    ∃ s, Scale.ofSuffix? cs = some s ∧ 0 < s.binary ∧ s.factor = m := by
  cases denotes with
  | one => exact ⟨⟨1, 0⟩, rfl, Int.one_pos, by simp [Scale.factor]⟩
  | @decimal c k unit =>
    refine ⟨⟨1, 3 * k⟩, ofSuffix?_decimal (c, k) unit, Int.one_pos, ?_⟩
    rw [Scale.factor, zpow_mul]
    norm_num
  | @binary c k unit =>
    exact ⟨⟨1024 ^ k, 0⟩, ofSuffix?_binary (c, k) unit, by positivity, by simp [Scale.factor]⟩
  | @exponent c numeral e mark read fits =>
    exact ⟨⟨1, e⟩, ofSuffix?_exponent mark (exponent?_eq_some_iff.2 ⟨read, fits⟩), Int.one_pos,
      by simp [Scale.factor]⟩

theorem exists_denotes {cs : List Char} {s : Scale} (read : Scale.ofSuffix? cs = some s) :
    ∃ m, Denotes cs m := by
  have exponential {c : Char} {numeral : List Char} (mark : c ∈ ['e', 'E'])
      (read : (exponent? numeral).map (⟨1, ·⟩) = some s) : ∃ m, Denotes (c :: numeral) m := by
    obtain ⟨e, found, -⟩ := Option.map_eq_some_iff.1 read
    obtain ⟨valid, fits⟩ := exponent?_eq_some_iff.1 found
    exact ⟨10 ^ e, .exponent mark valid fits⟩
  unfold Scale.ofSuffix? at read
  split at read
  · exact ⟨1, .one⟩
  · exact ⟨_, @Denotes.binary 'K' 1 (by decide)⟩
  · exact ⟨_, @Denotes.binary 'M' 2 (by decide)⟩
  · exact ⟨_, @Denotes.binary 'G' 3 (by decide)⟩
  · exact ⟨_, @Denotes.binary 'T' 4 (by decide)⟩
  · exact ⟨_, @Denotes.binary 'P' 5 (by decide)⟩
  · exact ⟨_, @Denotes.binary 'E' 6 (by decide)⟩
  · exact ⟨_, @Denotes.decimal 'n' (-3) (by decide)⟩
  · exact ⟨_, @Denotes.decimal 'u' (-2) (by decide)⟩
  · exact ⟨_, @Denotes.decimal 'm' (-1) (by decide)⟩
  · exact ⟨_, @Denotes.decimal 'k' 1 (by decide)⟩
  · exact ⟨_, @Denotes.decimal 'M' 2 (by decide)⟩
  · exact ⟨_, @Denotes.decimal 'G' 3 (by decide)⟩
  · exact ⟨_, @Denotes.decimal 'T' 4 (by decide)⟩
  · exact ⟨_, @Denotes.decimal 'P' 5 (by decide)⟩
  · exact ⟨_, @Denotes.decimal 'E' 6 (by decide)⟩
  · exact exponential (by decide) read
  · exact exponential (by decide) read
  · cases read

theorem denotes_iff {cs : List Char} {s : Scale} (read : Scale.ofSuffix? cs = some s) (m : ℚ) :
    Denotes cs m ↔ m = s.factor := by
  have same {m : ℚ} (denotes : Denotes cs m) : m = s.factor := by
    obtain ⟨other, found, -, factor⟩ := denotes.exists_scale
    rw [read, Option.some.injEq] at found
    rw [found, factor]
  constructor
  · exact same
  · rintro rfl
    obtain ⟨m, denotes⟩ := exists_denotes read
    rwa [← same denotes]

theorem Scale.binary_pos {cs : List Char} {s : Scale} (read : ofSuffix? cs = some s) :
    0 < s.binary := by
  obtain ⟨m, denotes⟩ := exists_denotes read
  obtain ⟨other, found, positive, -⟩ := denotes.exists_scale
  rw [read, Option.some.injEq] at found
  rwa [found]

theorem ofSuffix?_eq_none {cs : List Char} (unread : Scale.ofSuffix? cs = none) (m : ℚ) :
    ¬ Denotes cs m := by
  intro denotes
  obtain ⟨s, found, -⟩ := denotes.exists_scale
  rw [unread] at found
  cases found

end PodCache.Quantity
