import PodCache.Proofs.IntegerText

/-!
# Refused integers

What the decoder makes of a text that it does not accept. An integer text whose integer is not
of the type is refused as out of range as long as the integer, without its sign, fits 128 bits.
From there on it is refused as an invalid text, although its sign, prefix, digits and
underscores are those of an integer. So the two errors part at the size of the integer, not at
the grammar.
-/

namespace PodCache.Annotations

namespace Numeral

variable {n : Numeral}

theorem value?_of_reads {m : Nat} (reads : n.Reads m) :
    n.value? = if IntRange.unsigned128.contains m then some m else none := by
  unfold value?
  rw [if_pos reads.1, reads.2]

theorem value?_of_not_reads (malformed : ∀ m, ¬ n.Reads m) : n.value? = none := by
  rw [Option.eq_none_iff_forall_ne_some]
  intro m value
  exact malformed m ((value?_eq_some_iff n m).1 value).1

end Numeral

/-- The integer fits 128 bits without its sign. -/
def Fits128 (v : Int) : Prop := v.natAbs < 2 ^ 128

theorem unsigned128_contains_iff (v : Int) :
    IntRange.unsigned128.contains v.natAbs = true ↔ Fits128 v := by
  rw [IntRange.contains_iff, Fits128]
  simp only [IntRange.unsigned128]
  omega

section Outcome

variable {t : IntegerType} {raw : String} {v : Int}

theorem integer_eq (t : IntegerType) (raw : String) :
    integer t raw =
      match (Numeral.ofDigits (splitSign t.isSigned raw.toList).2).value? with
      | none => .error (.invalidInteger raw)
      | some m =>
        let i : Int := if (splitSign t.isSigned raw.toList).1 then -m else m
        if t.range.contains i then .ok i else .error (.integerOutOfRange raw t) :=
  rfl

/-- What an integer text is decoded to, by the size of its integer. -/
theorem integer_of_signed (text : Signed t.isSigned IsNumeral raw.toList v) :
    (Fits128 v → integer t raw =
      if t.range.contains v then .ok v else .error (.integerOutOfRange raw t)) ∧
    (¬ Fits128 v → integer t raw = .error (.invalidInteger raw)) := by
  obtain ⟨m, numeral, rfl⟩ := (numeral_splitSign_iff _ _ v).2 text
  have size : (if (splitSign t.isSigned raw.toList).1 then -(m : Int) else m).natAbs = m := by
    split <;> omega
  rw [integer_eq, Numeral.value?_of_reads ((Numeral.reads_ofDigits_iff _ m).2 numeral),
    ← unsigned128_contains_iff, size]
  constructor
  · intro fits
    rw [if_pos fits]
  · intro large
    rw [if_neg large]

theorem integer_of_not_signed (malformed : ∀ v, ¬ Signed t.isSigned IsNumeral raw.toList v) :
    integer t raw = .error (.invalidInteger raw) := by
  have unread : ∀ m, ¬ (Numeral.ofDigits (splitSign t.isSigned raw.toList).2).Reads m := by
    intro m reads
    have numeral := (Numeral.reads_ofDigits_iff _ m).1 reads
    exact malformed _ ((numeral_splitSign_iff _ _ _).1 ⟨m, numeral, rfl⟩)
  rw [integer_eq, Numeral.value?_of_not_reads unread]

/-- Two integers of one text are the same. -/
theorem Signed.unique {w : Int} (text : Signed t.isSigned IsNumeral raw.toList v)
    (other : Signed t.isSigned IsNumeral raw.toList w) : w = v := by
  obtain ⟨m, numeral, rfl⟩ := (numeral_splitSign_iff _ _ v).2 text
  obtain ⟨k, numeral', rfl⟩ := (numeral_splitSign_iff _ _ w).2 other
  have reads := (Numeral.reads_ofDigits_iff _ m).2 numeral
  have reads' := (Numeral.reads_ofDigits_iff _ k).2 numeral'
  rw [Option.some.inj (reads'.2.symm.trans reads.2)]

/-- The text denotes one integer, so what some integer of it is, that one is. -/
theorem Signed.exists_iff (text : Signed t.isSigned IsNumeral raw.toList v) {p : Int → Prop} :
    (∃ w, Signed t.isSigned IsNumeral raw.toList w ∧ p w) ↔ p v := by
  constructor
  · rintro ⟨w, other, holds⟩
    exact text.unique other ▸ holds
  · exact fun holds => ⟨v, text, holds⟩

end Outcome

/-- A text is decoded or refused with one of two errors, which name the text. An integer text
    is decoded if its integer is of the type, refused as out of range if it is not but fits 128
    bits without its sign, and refused as invalid beyond that. All other texts are refused as
    invalid. -/
theorem integer_refused_iff (t : IntegerType) (raw : String) :
    (∀ v, integer t raw = .ok v ↔
      Signed t.isSigned IsNumeral raw.toList v ∧ t.range.contains v = true) ∧
    (integer t raw = .error (.integerOutOfRange raw t) ↔
      ∃ v, Signed t.isSigned IsNumeral raw.toList v ∧ ¬ t.range.contains v = true ∧ Fits128 v) ∧
    (integer t raw = .error (.invalidInteger raw) ↔
      (∀ v, ¬ Signed t.isSigned IsNumeral raw.toList v) ∨
      ∃ v, Signed t.isSigned IsNumeral raw.toList v ∧ ¬ Fits128 v) ∧
    (∀ e, integer t raw = .error e → e = .integerOutOfRange raw t ∨ e = .invalidInteger raw) := by
  refine ⟨integer_eq_ok_iff t raw, ?_⟩
  by_cases signed : ∃ v, Signed t.isSigned IsNumeral raw.toList v
  · obtain ⟨v, text⟩ := signed
    have formed : ¬ ∀ w, ¬ Signed t.isSigned IsNumeral raw.toList w := fun none => none v text
    rw [text.exists_iff, text.exists_iff]
    by_cases fits : Fits128 v
    · rw [(integer_of_signed text).1 fits]
      by_cases member : t.range.contains v = true <;> simp [fits, member, formed]
    · rw [(integer_of_signed text).2 fits]
      simp [fits]
  · have malformed := not_exists.1 signed
    rw [integer_of_not_signed malformed]
    simp [malformed]

/-- Two to the power of 128, the least number that is too large for 128 bits. -/
def beyond128 : String := "340282366920938463463374607431768211456"

theorem signed_beyond128 (signed : Bool) : Signed signed IsNumeral beyond128.toList (2 ^ 128) := by
  have digits : Text.IsDigits beyond128.toList := ⟨by decide, List.all_eq_true.1 (by decide)⟩
  have first : beyond128.toList.head? ≠ some '0' := by decide
  have value : Text.decimalValue beyond128.toList = 2 ^ 128 := by decide
  have numeral := IsNumeral.decimal digits first
  rw [value] at numeral
  exact .plain numeral

/-- Not every integer text is refused for its integer only. -/
theorem not_forall_integer_valid :
    ¬ ∀ (t : IntegerType) (raw : String) (v : Int), Signed t.isSigned IsNumeral raw.toList v →
      integer t raw ≠ .error (.invalidInteger raw) := by
  intro valid
  have refused : integer .unsigned64 beyond128 = .error (.invalidInteger beyond128) := by rfl
  exact valid .unsigned64 beyond128 (2 ^ 128) (signed_beyond128 _) refused

end PodCache.Annotations
