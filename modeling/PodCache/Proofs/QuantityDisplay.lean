import PodCache.Proofs.QuantityText

/-!
# Displayed quantities

A quantity is displayed as an integer with one of four suffixes, and is read back from
that text: all but the least quantity, whose digits exceed the greatest mantissa.
-/

namespace PodCache

namespace Text

/-- Nothing is trimmed from a text without blanks. -/
theorem trim_of_forall {cs : List Char} (solid : ∀ c ∈ cs, isBlank c = false) : trim cs = cs := by
  have kept {cs : List Char} (solid : ∀ c ∈ cs, isBlank c = false) : cs.dropWhile isBlank = cs := by
    cases cs with
    | nil => rfl
    | cons c cs => exact List.dropWhile_cons_of_neg (by simp [solid c List.mem_cons_self])
  rw [trim, kept solid, kept (fun c member => solid c (List.mem_reverse.1 member)),
    List.reverse_reverse]

theorem isBlank_of_isDigit {c : Char} (digit : c.isDigit = true) : isBlank c = false := by
  have range := (isDigit_iff c).1 digit
  simp only [isBlank, Bool.or_eq_false_iff, Bool.and_eq_false_iff, decide_eq_false_iff_not,
    beq_eq_false_iff_ne]
  omega

theorem isBlank_of_mem_toString {i : Int} {c : Char} (member : c ∈ (toString i).toList) :
    isBlank c = false := by
  have digits := (isDigits_toDigits i.natAbs).2
  rcases Int.lt_or_le i 0 with negative | nonneg
  · rw [toList_toString_of_neg negative] at member
    rcases List.mem_cons.1 member with rfl | member
    · rfl
    · exact isBlank_of_isDigit (digits c member)
  · rw [toList_toString_of_nonneg nonneg] at member
    exact isBlank_of_isDigit (digits c member)

end Text

namespace Quantity

/-- The suffixes of displayed quantities and their decimal exponents. -/
def displayUnits : List (String × Int) := [("", 0), ("m", -3), ("u", -6), ("n", -9)]

theorem display_eq (q : Quantity) : ∃ k unit e, (unit, e) ∈ displayUnits ∧
    q.display = toString k ++ unit ∧ q.nanos = k * tenTo (e + 9) := by
  unfold display
  split
  · rename_i whole
    refine ⟨q.nanos / nanosPerUnit, "", 0, by decide, String.append_empty.symm, ?_⟩
    exact (Int.ediv_mul_cancel (Int.dvd_of_emod_eq_zero whole)).symm
  split
  · rename_i thousandth
    refine ⟨q.nanos / 1000000, "m", -3, by decide, rfl, ?_⟩
    exact (Int.ediv_mul_cancel (Int.dvd_of_emod_eq_zero thousandth)).symm
  split
  · rename_i millionth
    refine ⟨q.nanos / 1000, "u", -6, by decide, rfl, ?_⟩
    exact (Int.ediv_mul_cancel (Int.dvd_of_emod_eq_zero millionth)).symm
  · exact ⟨q.nanos, "n", -9, by decide, rfl, (Int.mul_one _).symm⟩

/-- A displayed quantity comes apart into the sign, the digits and the suffix. -/
theorem Parts.ofText_toString (k : Int) {unit : List Char}
    (other : ∀ c ∈ unit, isNumberChar c = false) :
    Parts.ofText ((toString k).toList ++ unit) =
      ⟨decide (k < 0), Nat.toDigits 10 k.natAbs, [], unit⟩ := by
  have digits := Text.isDigits_toDigits k.natAbs
  have number : ∀ c ∈ Nat.toDigits 10 k.natAbs, isNumberChar c = true := by
    intro c member
    simp [isNumberChar, digits.2 c member]
  have whole : ∀ c ∈ Nat.toDigits 10 k.natAbs, (c != '.') = true := by
    intro c member
    rw [bne_iff_ne]
    rintro rfl
    exact absurd (digits.2 '.' member) (by decide)
  have stop : unit.takeWhile isNumberChar = [] ∧ unit.dropWhile isNumberChar = unit := by
    cases unit with
    | nil => exact ⟨rfl, rfl⟩
    | cons c unit => simp [other c List.mem_cons_self]
  have numberOf_eq : (Nat.toDigits 10 k.natAbs ++ unit).takeWhile isNumberChar =
      Nat.toDigits 10 k.natAbs := by
    rw [List.takeWhile_append_of_pos number, stop.1, List.append_nil]
  have suffixOf_eq : (Nat.toDigits 10 k.natAbs ++ unit).dropWhile isNumberChar = unit := by
    rw [List.dropWhile_append_of_pos number, stop.2]
  have integral : integralOf (Nat.toDigits 10 k.natAbs) = Nat.toDigits 10 k.natAbs :=
    List.takeWhile_eq_self_iff.2 whole
  have fraction : fractionOf (Nat.toDigits 10 k.natAbs) = [] := by
    rw [fractionOf, List.dropWhile_eq_nil_iff.2 whole, List.drop_nil]
  rw [Parts.ofText_eq, numberOf, suffixOf]
  rcases Int.lt_or_le k 0 with negative | nonneg
  · have signed : unsigned ((toString k).toList ++ unit) = Nat.toDigits 10 k.natAbs ++ unit := by
      rw [Text.toList_toString_of_neg negative]
      rfl
    rw [signed, numberOf_eq, suffixOf_eq, integral, fraction, Text.toList_toString_of_neg negative]
    simp [negative]
  · have first : (Nat.toDigits 10 k.natAbs ++ unit).head? ≠ some '-' ∧
        (Nat.toDigits 10 k.natAbs ++ unit).head? ≠ some '+' := by
      cases written : Nat.toDigits 10 k.natAbs with
      | nil => exact absurd written digits.1
      | cons c cs =>
        rw [written] at digits
        simpa using digits.head_ne
    have signed : unsigned ((toString k).toList ++ unit) = Nat.toDigits 10 k.natAbs ++ unit := by
      rw [Text.toList_toString_of_nonneg nonneg, unsigned, if_neg (not_or.2 first)]
    rw [signed, numberOf_eq, suffixOf_eq, integral, fraction, Text.toList_toString_of_nonneg nonneg]
    rw [decide_eq_false first.1, decide_eq_false (Int.not_lt.2 nonneg)]

theorem displayUnits_solid {unit : String} {e : Int} (member : (unit, e) ∈ displayUnits) {c : Char}
    (present : c ∈ unit.toList) : isNumberChar c = false ∧ Text.isBlank c = false := by
  have letters : ∀ u ∈ displayUnits,
      (u.1.toList.all fun c => !isNumberChar c && !Text.isBlank c) = true := by
    decide
  simpa using List.all_eq_true.1 (letters _ member) c present

theorem displayUnits_scale : ∀ u ∈ displayUnits, Scale.ofSuffix? u.1.toList = some ⟨1, u.2⟩ := by
  decide

theorem displayUnits_shift : ∀ u ∈ displayUnits,
    shift? u.2 0 = some (u.2 + 9) ∧ 0 ≤ u.2 + 9 ∧ u.2 + 9 ≤ maxPower := by
  decide

theorem displayUnits_tenTo : ∀ u ∈ displayUnits,
    tenTo (u.2 + 9) ∈ [(1000000000 : Int), 1000000, 1000, 1] := by
  decide

/-- The parts of a displayed quantity are read as any others. -/
theorem parse_toString (k : Int) {unit : String} {e : Int} (member : (unit, e) ∈ displayUnits) :
    parse (toString k ++ unit) = ofParts (toString k ++ unit)
      ⟨decide (k < 0), Nat.toDigits 10 k.natAbs, [], unit.toList⟩ ⟨1, e⟩ := by
  have chars : (toString k ++ unit).toList = (toString k).toList ++ unit.toList :=
    String.toList_append
  have trimmed : Text.trim (toString k ++ unit).toList = (toString k).toList ++ unit.toList := by
    rw [chars]
    apply Text.trim_of_forall
    intro c present
    exact (List.mem_append.1 present).elim Text.isBlank_of_mem_toString fun letter =>
      (displayUnits_solid member letter).2
  have filled : (toString k).toList ++ unit.toList ≠ [] := fun nothing =>
    Text.toList_toString_ne_nil k (List.append_eq_nil_iff.1 nothing).1
  have parts := Parts.ofText_toString k fun c letter => (displayUnits_solid member letter).1
  have suffix : suffixOf ((toString k).toList ++ unit.toList) = unit.toList := by
    have := congrArg Parts.suffix parts
    rwa [Parts.ofText_eq] at this
  rw [parse_eq trimmed, if_neg filled, parts, suffix, displayUnits_scale _ member]
  exact if_pos (by simp [Parts.isNumber])

/-- A quantity is read back from the text that it is displayed as, but for the least one. -/
theorem parse_display (q : Quantity) :
    parse q.display = if q.nanos = minNanos then .error (.outOfRange q.display) else .ok q := by
  obtain ⟨k, unit, e, member, text, amount⟩ := display_eq q
  obtain ⟨shift, up, near⟩ := displayUnits_shift _ member
  have digits : ∀ c ∈ Nat.toDigits 10 k.natAbs ++ [], c.isDigit = true := by
    rw [List.append_nil]
    exact (Text.isDigits_toDigits _).2
  rw [text, parse_toString k member, ofParts_eq _ digits Int.one_pos]
  have mantissa : Parts.mantissa ⟨decide (k < 0), Nat.toDigits 10 k.natAbs, [], unit.toList⟩ *
      1 = k.natAbs := by
    rw [Parts.mantissa, List.append_nil, Text.decimalValue_toDigits, Int.mul_one]
  have signed : Parts.signed ⟨decide (k < 0), Nat.toDigits 10 k.natAbs, [], unit.toList⟩ ⟨1, e⟩ =
      k := by
    rw [Parts.signed, mantissa]
    simp only [decide_eq_true_eq]
    split <;> omega
  rw [mantissa, signed]
  have least : q.nanos = minNanos ↔ maxNanos < k.natAbs := by
    have lower := q.min_le
    have upper := q.le_max
    unfold minNanos at lower ⊢
    unfold maxNanos at upper ⊢
    rw [amount] at lower upper ⊢
    -- The least count of nano-units is no multiple of a thousand, so it has the last suffix.
    have power := displayUnits_tenTo _ member
    simp only [List.mem_cons, List.not_mem_nil, or_false] at power
    rcases power with power | power | power | power <;> rw [power] at lower upper ⊢ <;> omega
  split
  · rename_i huge
    rw [if_pos (least.2 huge)]
  · rename_i fits
    rw [if_neg (mt least.1 fits)]
    split
    · rename_i nothing
      subst nothing
      exact congrArg Outcome.ok (Quantity.ext (by rw [amount, Int.zero_mul]; rfl))
    · rw [List.length_nil, shift]
      dsimp only
      rw [scaled, if_pos up, if_neg (Int.not_lt.2 near), ← amount, ofNanos?_nanos]

end Quantity

end PodCache
