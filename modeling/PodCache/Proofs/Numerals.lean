import Mathlib.Data.List.Basic
import Mathlib.Data.List.Induction
import Mathlib.Data.Nat.Digits.Defs
import PodCache.Text.Digits

/-!
# Decimal numerals

What the readers of digit strings accept in base ten and the number they give: a nonempty
string of the digits `0` to `9`, with one sign before it at most, in positional notation.
-/

namespace PodCache.Text

theorem ofDigits_eq (base : Nat) (digits : List Nat) :
    ofDigits base digits = Nat.ofDigits base digits.reverse := by
  induction digits using List.reverseRecOn with
  | nil => rfl
  | append_singleton digits d ih =>
    rw [ofDigits_concat, ih, List.reverse_append, List.reverse_singleton, List.singleton_append,
      Nat.ofDigits_cons]
    ring

theorem isDigit_iff (c : Char) : c.isDigit = true ↔ 48 ≤ c.toNat ∧ c.toNat ≤ 57 := by
  simp [Char.isDigit, UInt32.le_iff_toNat_le]

theorem digit?_ten_of_isDigit {c : Char} (digit : c.isDigit = true) :
    digit? 10 c = some (c.toNat - 48) := by
  have range := (isDigit_iff c).1 digit
  have small : c.toNat - 48 < 10 := by omega
  simp [digit?, digitValue?, range, small]

theorem digit?_ten_eq_none {c : Char} (other : c.isDigit = false) : digit? 10 c = none := by
  have outside : ¬ (48 ≤ c.toNat ∧ c.toNat ≤ 57) := by
    rw [← isDigit_iff, other]
    decide
  unfold digit? digitValue?
  simp only [outside, if_false]
  -- A letter counts for ten at least.
  split
  · rename_i d value
    split at value
    · cases value
      exact if_neg (by omega)
    · split at value
      · cases value
        exact if_neg (by omega)
      · cases value
  · rfl

/-- A nonempty string of the digits `0` to `9`. -/
def IsDigits (cs : List Char) : Prop := cs ≠ [] ∧ ∀ c ∈ cs, c.isDigit = true

/-- The number that decimal digits denote, most significant first. -/
def decimalValue (cs : List Char) : Nat :=
  Nat.ofDigits 10 (cs.reverse.map fun c => c.toNat - '0'.toNat)

/-- The strings of digits with one sign at most, and the integers they denote. -/
inductive IntNumeral : List Char → Int → Prop
  | plain {cs : List Char} : IsDigits cs → IntNumeral cs (decimalValue cs)
  | plus {cs : List Char} : IsDigits cs → IntNumeral ('+' :: cs) (decimalValue cs)
  | minus {cs : List Char} : IsDigits cs → IntNumeral ('-' :: cs) (-decimalValue cs)

theorem decimalValue_append (left right : List Char) :
    decimalValue (left ++ right) =
      decimalValue left * 10 ^ right.length + decimalValue right := by
  simp only [decimalValue, List.reverse_append, List.map_append, Nat.ofDigits_append,
    List.length_map, List.length_reverse]
  ring

/-- A sign is no digit, so it starts no string of digits. -/
theorem IsDigits.head_ne {c : Char} {cs : List Char} (digits : IsDigits (c :: cs)) :
    c ≠ '-' ∧ c ≠ '+' := by
  have digit := digits.2 c (List.mem_cons_self)
  constructor <;> rintro rfl <;> exact absurd digit (by decide)

theorem ofDigits_map (cs : List Char) :
    ofDigits 10 (cs.map fun c => c.toNat - 48) = decimalValue cs := by
  rw [ofDigits_eq, ← List.map_reverse]
  rfl

theorem filterMap_digit?_ten {cs : List Char} (digits : ∀ c ∈ cs, c.isDigit = true) :
    cs.filterMap (digit? 10) = cs.map fun c => c.toNat - 48 := by
  rw [← List.filterMap_eq_map]
  exact List.filterMap_congr fun c member => digit?_ten_of_isDigit (digits c member)

theorem digits?_cons (base : Nat) (c : Char) (cs : List Char) :
    digits? base (c :: cs) =
      (digit? base c).bind fun d => (digits? base cs).bind fun ds => some (d :: ds) := by
  unfold digits?
  rw [List.mapM_cons]
  rfl

theorem digits?_ten (cs : List Char) :
    digits? 10 cs =
      if cs.all Char.isDigit then some (cs.map fun c => c.toNat - 48) else none := by
  induction cs with
  | nil => rfl
  | cons c cs ih =>
    rw [digits?_cons, ih, List.all_cons]
    cases digit : c.isDigit with
    | false => simp [digit?_ten_eq_none digit]
    | true =>
      rw [digit?_ten_of_isDigit digit]
      cases cs.all Char.isDigit <;> rfl

theorem readNat?_ten_eq_some_iff {cs : List Char} {n : Nat} :
    readNat? 10 cs = some n ↔ IsDigits cs ∧ n = decimalValue cs := by
  cases cs with
  | nil => simp [readNat?, IsDigits]
  | cons c cs =>
    rw [readNat?, digits?_ten]
    split
    · rename_i digits
      have valid : IsDigits (c :: cs) := ⟨List.cons_ne_nil c cs, List.all_eq_true.1 digits⟩
      rw [Option.map_some, ofDigits_map, Option.some.injEq]
      exact ⟨fun same => ⟨valid, same.symm⟩, fun read => read.2.symm⟩
    · rename_i spoilt
      simp only [Option.map_none, reduceCtorEq, false_iff]
      exact fun read => spoilt (List.all_eq_true.2 read.1.2)

theorem readInt?_ten_eq_some_iff {cs : List Char} {e : Int} :
    readInt? 10 cs = some e ↔ IntNumeral cs e := by
  -- What stands behind the sign is read as a natural number and taken as an integer.
  have unsigned (cs : List Char) (e : Int) :
      ((readNat? 10 cs).bind fun n => some (n : Int)) = some e ↔
        IsDigits cs ∧ e = decimalValue cs := by
    simp only [Option.bind_eq_some_iff, readNat?_ten_eq_some_iff, Option.some.injEq]
    constructor
    · rintro ⟨n, ⟨digits, rfl⟩, rfl⟩
      exact ⟨digits, rfl⟩
    · rintro ⟨digits, rfl⟩
      exact ⟨decimalValue cs, ⟨digits, rfl⟩, rfl⟩
  constructor
  · intro read
    unfold readInt? at read
    split at read
    · obtain ⟨n, value, rfl⟩ := Option.map_eq_some_iff.1 read
      obtain ⟨digits, rfl⟩ := (unsigned _ _).1 value
      exact .minus digits
    · obtain ⟨n, value, rfl⟩ := Option.map_eq_some_iff.1 read
      obtain ⟨digits, rfl⟩ := (unsigned _ _).1 value
      exact .plus digits
    · obtain ⟨n, value, rfl⟩ := Option.map_eq_some_iff.1 read
      obtain ⟨digits, rfl⟩ := (unsigned _ _).1 value
      exact .plain digits
  · intro numeral
    cases numeral with
    | plus digits =>
      exact Option.map_eq_some_iff.2 ⟨_, (unsigned _ _).2 ⟨digits, rfl⟩, rfl⟩
    | minus digits =>
      exact Option.map_eq_some_iff.2 ⟨_, (unsigned _ _).2 ⟨digits, rfl⟩, rfl⟩
    | plain digits =>
      unfold readInt?
      split
      · exact absurd rfl digits.head_ne.1
      · exact absurd rfl digits.head_ne.2
      · exact Option.map_eq_some_iff.2 ⟨_, (unsigned _ _).2 ⟨digits, rfl⟩, rfl⟩

/-! ### Written numbers -/

theorem isDigits_toDigits (n : Nat) : IsDigits (Nat.toDigits 10 n) :=
  ⟨Nat.toDigits_ne_nil, fun _ member => Nat.isDigit_of_mem_toDigits (by decide) (by decide) member⟩

theorem decimalValue_toDigits (n : Nat) : decimalValue (Nat.toDigits 10 n) = n := by
  rw [← ofDigits_map, ofDigits, List.foldl_map]
  conv_rhs => rw [← Nat.ofDigitChars_ten_toDigits (n := n), Nat.ofDigitChars_eq_foldl]
  congr
  funext sum c
  rw [Nat.mul_comm]
  rfl

/-- A number other than zero is written without a leading zero. -/
theorem head?_toDigits_ne {n : Nat} (positive : 0 < n) : (Nat.toDigits 10 n).head? ≠ some '0' := by
  induction n using Nat.strongRecOn with
  | ind n ih =>
    by_cases small : n < 10
    · rw [Nat.toDigits_of_lt_base small]
      have nonzero : ∀ m < 10, 0 < m → [Nat.digitChar m].head? ≠ some '0' := by decide
      exact nonzero n small positive
    · rw [Nat.toDigits_of_base_le (by decide) (Nat.not_lt.1 small),
        List.head?_append_of_ne_nil _ Nat.toDigits_ne_nil]
      exact ih (n / 10) (Nat.div_lt_self positive (by decide)) (by omega)

/-- A zero in front is the whole number. -/
theorem map_toDigits_ne (n d : Nat) (ds : List Nat) :
    (Nat.toDigits 10 n).map (fun c => c.toNat - 48) ≠ 0 :: d :: ds := by
  intro same
  rcases Nat.eq_zero_or_pos n with rfl | positive
  · rw [Nat.toDigits_zero] at same
    cases same
  · cases written : Nat.toDigits 10 n with
    | nil => exact Nat.toDigits_ne_nil written
    | cons c cs =>
      rw [written, List.map_cons] at same
      have digit := (isDigits_toDigits n).2 c (written ▸ List.mem_cons_self)
      have zero : c.toNat = '0'.toNat :=
        Nat.le_antisymm (Nat.sub_eq_zero_iff_le.1 (List.cons.inj same).1)
          ((isDigit_iff c).1 digit).1
      have first := head?_toDigits_ne positive
      rw [written, Char.toNat_inj.1 zero] at first
      exact first rfl

theorem toList_toString_of_nonneg {i : Int} (nonneg : 0 ≤ i) :
    (toString i).toList = Nat.toDigits 10 i.natAbs := by
  obtain ⟨n, rfl⟩ := Int.eq_ofNat_of_zero_le nonneg
  rw [show toString (n : Int) = toString n from rfl, Nat.toString_eq_ofList_toDigits,
    String.toList_ofList]
  rfl

theorem toList_toString_of_neg {i : Int} (negative : i < 0) :
    (toString i).toList = '-' :: Nat.toDigits 10 i.natAbs := by
  rw [show toString i = i.repr from rfl, Int.repr_eq_if, if_neg (Int.not_le.2 negative),
    Nat.repr_eq_ofList_toDigits, String.toList_append, show (-i).toNat = i.natAbs by omega]
  simp

theorem toList_toString_ne_nil (i : Int) : (toString i).toList ≠ [] := by
  rcases Int.lt_or_le i 0 with negative | nonneg
  · rw [toList_toString_of_neg negative]
    exact List.cons_ne_nil _ _
  · rw [toList_toString_of_nonneg nonneg]
    exact Nat.toDigits_ne_nil

end PodCache.Text
