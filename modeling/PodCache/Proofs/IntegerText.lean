import Mathlib.Data.List.Forall2
import Mathlib.Data.List.Induction
import Mathlib.Tactic.IntervalCases
import PodCache.Annotations.Integer
import PodCache.Proofs.Numerals

/-!
# Integer texts

The grammar of the integers in annotations, and that the decoder keeps to it: it accepts the
texts of the grammar whose integer is in the range of the type, and gives that integer. A base
prefix is followed by groups of digits, with single underscores between the groups and maybe
one in front of them. So an integer may be spelled in many ways, and each of them decodes to it.
-/

namespace PodCache

namespace Text

/-! ### Digits -/

/-- The character stands for a digit of the base. Letters may have either case. -/
def IsDigitOf (base : Nat) (c : Char) (d : Nat) : Prop :=
  d < base ∧ (c = Nat.digitChar d ∨ c = (Nat.digitChar d).toUpper)

theorem digitValue?_digitChar : ∀ d < 16,
    digitValue? (Nat.digitChar d) = some d ∧ digitValue? (Nat.digitChar d).toUpper = some d := by
  decide

theorem toNat_digitChar : ∀ d < 16,
    (d < 10 → (Nat.digitChar d).toNat = d + 48) ∧
    (10 ≤ d → (Nat.digitChar d).toNat = d + 87 ∧ (Nat.digitChar d).toUpper.toNat = d + 55) := by
  decide

theorem digitValue?_eq_some {c : Char} {d : Nat} (value : digitValue? c = some d) (small : d < 16) :
    c = Nat.digitChar d ∨ c = (Nat.digitChar d).toUpper := by
  obtain ⟨digit, letter⟩ := toNat_digitChar d small
  simp only [← Char.toNat_inj]
  simp only [digitValue?] at value
  split_ifs at value <;> rw [Option.some.injEq] at value <;> omega

theorem digit?_eq_some_iff {base d : Nat} {c : Char} (small : base ≤ 16) :
    digit? base c = some d ↔ IsDigitOf base c d := by
  constructor
  · intro read
    have below := digit?_lt read
    unfold digit? at read
    split at read
    · rename_i value
      rw [Option.ite_none_right_eq_some, Option.some.injEq] at read
      obtain ⟨-, rfl⟩ := read
      exact ⟨below, digitValue?_eq_some value (Nat.lt_of_lt_of_le below small)⟩
    · cases read
  · rintro ⟨below, rfl | rfl⟩
    · simp [digit?, (digitValue?_digitChar d (Nat.lt_of_lt_of_le below small)).1, below]
    · simp [digit?, (digitValue?_digitChar d (Nat.lt_of_lt_of_le below small)).2, below]

theorem digits?_eq_some_iff {base : Nat} (small : base ≤ 16) {cs : List Char} {ds : List Nat} :
    digits? base cs = some ds ↔ List.Forall₂ (IsDigitOf base) cs ds := by
  induction cs generalizing ds with
  | nil => simp [digits?, eq_comm]
  | cons c cs ih =>
    simp only [digits?_cons, Option.bind_eq_some_iff, Option.some.injEq, digit?_eq_some_iff small,
      ih, List.forall₂_cons_left_iff]
    constructor
    · rintro ⟨d, digit, rest, digits, rfl⟩
      exact ⟨d, rest, digit, digits, rfl⟩
    · rintro ⟨d, rest, digit, digits, rfl⟩
      exact ⟨d, digit, rest, digits, rfl⟩

theorem readNat?_eq_some_iff {base : Nat} (small : base ≤ 16) {cs : List Char} {n : Nat} :
    readNat? base cs = some n ↔
      cs ≠ [] ∧ ∃ ds, List.Forall₂ (IsDigitOf base) cs ds ∧ Nat.ofDigits base ds.reverse = n := by
  cases cs with
  | nil => simp [readNat?]
  | cons c cs => simp [readNat?, digits?_eq_some_iff small, ofDigits_eq]

/-- An underscore is no digit. -/
theorem underscore_notMem_of_digits {base : Nat} (small : base ≤ 16) {cs : List Char}
    {digits : List Nat} (read : List.Forall₂ (IsDigitOf base) cs digits) : '_' ∉ cs := by
  induction read with
  | nil => exact List.not_mem_nil
  | cons digit _ ih =>
    refine List.not_mem_cons_of_ne_of_not_mem ?_ ih
    rintro rfl
    have read := (digit?_eq_some_iff small).2 digit
    simp [digit?, digitValue?] at read

end Text

namespace Annotations

open Text (IsDigitOf IsDigits decimalValue)

/-! ### The grammar -/

/-- The base prefixes and the bases they announce. -/
def basePrefixes : List (List Char × Nat) :=
  [(['0', 'x'], 16), (['0', 'X'], 16), (['0', 'o'], 8), (['0', 'O'], 8), (['0'], 8),
    (['0', 'b'], 2), (['0', 'B'], 2)]

/-- What may follow a base prefix: an underscore or none, and one or more groups of digits that
    are not empty, with single underscores between them. The groups together have the given
    digits. -/
inductive Grouped (base : Nat) : List Char → List Nat → Prop
  | intro {lead : List Char} {groups : List (List Char)} {digits : List Nat} :
      lead = [] ∨ lead = ['_'] → groups ≠ [] → (∀ group ∈ groups, group ≠ []) →
      List.Forall₂ (IsDigitOf base) groups.flatten digits →
      Grouped base (lead ++ ['_'].intercalate groups) digits

/-- The numerals and the numbers they denote. Without a prefix a numeral is decimal; then it is
    a single zero or does not start with one. -/
inductive IsNumeral : List Char → Nat → Prop
  | zero : IsNumeral ['0'] 0
  | decimal {cs : List Char} : IsDigits cs → cs.head? ≠ some '0' → IsNumeral cs (decimalValue cs)
  | prefixed {opening body : List Char} {base : Nat} {digits : List Nat} :
      (opening, base) ∈ basePrefixes → Grouped base body digits →
      IsNumeral (opening ++ body) (Nat.ofDigits base digits.reverse)

/-- The spellings of a number: its decimal digits, or behind a base prefix its digits in that
    base, with any number of zeros in front. -/
inductive Spells : List Char → Nat → Prop
  | decimal (n : Nat) : Spells (Nat.toDigits 10 n) n
  | prefixed {opening body : List Char} {base n : Nat} (zeros : Nat) :
      (opening, base) ∈ basePrefixes →
      Grouped base body (List.replicate zeros 0 ++ (Nat.digits base n).reverse) →
      Spells (opening ++ body) n

/-- A text for a number with one sign at most before it, if signs are allowed, is a text for an
    integer. -/
inductive Signed (signed : Bool) (denotes : List Char → Nat → Prop) : List Char → Int → Prop
  | plain {cs : List Char} {n : Nat} : denotes cs n → Signed signed denotes cs n
  | plus {cs : List Char} {n : Nat} : signed = true → denotes cs n →
      Signed signed denotes ('+' :: cs) n
  | minus {cs : List Char} {n : Nat} : signed = true → denotes cs n →
      Signed signed denotes ('-' :: cs) (-n)

namespace Numeral

/-! ### Underscores -/

theorem hasDoubleUnderscore_cons_of_ne {c : Char} (other : c ≠ '_') (cs : List Char) :
    hasDoubleUnderscore (c :: cs) = hasDoubleUnderscore cs := by
  rw [hasDoubleUnderscore]
  rintro rest rfl
  exact absurd rfl other

theorem hasDoubleUnderscore_underscore_cons (cs : List Char) :
    hasDoubleUnderscore ('_' :: cs) = false ↔
      cs.head? ≠ some '_' ∧ hasDoubleUnderscore cs = false := by
  cases cs with
  | nil => simp [hasDoubleUnderscore]
  | cons c cs =>
    by_cases double : c = '_'
    · simp [hasDoubleUnderscore, double]
    · rw [hasDoubleUnderscore]
      · simp [double]
      · rintro rest - ⟨⟩
        exact double rfl

theorem hasDoubleUnderscore_append {group : List Char} (free : '_' ∉ group) (cs : List Char) :
    hasDoubleUnderscore (group ++ cs) = hasDoubleUnderscore cs := by
  induction group with
  | nil => rfl
  | cons c group ih =>
    obtain ⟨other, free⟩ := not_or.1 (mt List.mem_cons.2 free)
    rw [List.cons_append, hasDoubleUnderscore_cons_of_ne (Ne.symm other), ih free]

theorem intercalate_cons_group (c : Char) (group : List Char) (groups : List (List Char)) :
    ['_'].intercalate ((c :: group) :: groups) = c :: ['_'].intercalate (group :: groups) := by
  cases groups <;> simp [List.intercalate_singleton, List.intercalate_cons_cons]

/-- Where no underscore stands first, last or beside another one, underscores part a text into
    groups that are not empty. -/
theorem exists_groups {body : List Char} (filled : body ≠ []) (first : body.head? ≠ some '_')
    (single : hasDoubleUnderscore body = false) (last : body.getLast? ≠ some '_') :
    ∃ groups, groups ≠ [] ∧ (∀ group ∈ groups, group ≠ [] ∧ '_' ∉ group) ∧
      body = ['_'].intercalate groups := by
  induction body using List.twoStepInduction with
  | nil => exact absurd rfl filled
  | singleton c =>
    refine ⟨[[c]], List.cons_ne_nil _ _, ?_, List.intercalate_singleton.symm⟩
    simpa [eq_comm] using first
  | cons_cons c d rest ihRest ih =>
    have other : c ≠ '_' := by simpa using first
    rw [hasDoubleUnderscore_cons_of_ne other] at single
    rw [List.getLast?_cons_cons] at last
    by_cases parted : d = '_'
    · -- The underscore ends the first group, which is a single character.
      subst parted
      obtain ⟨first, single⟩ := (hasDoubleUnderscore_underscore_cons rest).1 single
      have more : rest ≠ [] := by
        rintro rfl
        exact last rfl
      obtain ⟨e, rest, rfl⟩ := List.exists_cons_of_ne_nil more
      rw [List.getLast?_cons_cons] at last
      obtain ⟨groups, some, each, whole⟩ := ihRest more first single last
      obtain ⟨group, groups, rfl⟩ := List.exists_cons_of_ne_nil some
      refine ⟨[c] :: group :: groups, List.cons_ne_nil _ _, ?_, ?_⟩
      · exact List.forall_mem_cons.2 ⟨⟨List.cons_ne_nil _ _, by simpa using other.symm⟩, each⟩
      · rw [List.intercalate_cons_cons, ← whole]
        rfl
    · obtain ⟨groups, some, each, whole⟩ :=
        ih d (List.cons_ne_nil _ _) (by simpa using parted) single last
      obtain ⟨group, groups, rfl⟩ := List.exists_cons_of_ne_nil some
      obtain ⟨⟨-, free⟩, each⟩ := List.forall_mem_cons.1 each
      refine ⟨(c :: group) :: groups, List.cons_ne_nil _ _, ?_, ?_⟩
      · exact List.forall_mem_cons.2
          ⟨⟨List.cons_ne_nil _ _, List.not_mem_cons_of_ne_of_not_mem other.symm free⟩, each⟩
      · rw [intercalate_cons_group, ← whole]

/-- Groups that are parted by single underscores have them nowhere else. -/
theorem underscores_of_groups {groups : List (List Char)} (filled : groups ≠ [])
    (each : ∀ group ∈ groups, group ≠ [] ∧ '_' ∉ group) :
    let body := ['_'].intercalate groups
    body ≠ [] ∧ body.head? ≠ some '_' ∧ hasDoubleUnderscore body = false ∧
      body.getLast? ≠ some '_' ∧ body.filter (· != '_') = groups.flatten := by
  intro body
  induction groups with
  | nil => exact absurd rfl filled
  | cons group groups ih =>
    obtain ⟨⟨nonempty, free⟩, each⟩ := List.forall_mem_cons.1 each
    have first : group.head? ≠ some '_' := fun head => free (List.mem_of_mem_head? head)
    have single : hasDoubleUnderscore group = false := by
      simpa [hasDoubleUnderscore] using hasDoubleUnderscore_append free []
    have last : group.getLast? ≠ some '_' := fun last => free (List.mem_of_mem_getLast? last)
    have kept : group.filter (· != '_') = group := by
      rw [List.filter_eq_self]
      intro c member
      simpa using ne_of_mem_of_not_mem member free
    cases groups with
    | nil =>
      have whole : body = group := List.intercalate_singleton
      rw [whole]
      exact ⟨nonempty, first, single, last, by simpa using kept⟩
    | cons next groups =>
      obtain ⟨more, start, rest, ends, digits⟩ := ih (List.cons_ne_nil _ _) each
      have whole : body = group ++ '_' :: ['_'].intercalate (next :: groups) := by
        simp [body, List.intercalate_cons_cons]
      rw [whole]
      refine ⟨by simp, ?_, ?_, ?_, ?_⟩
      · rwa [List.head?_append_of_ne_nil _ nonempty]
      · rw [hasDoubleUnderscore_append free, hasDoubleUnderscore_underscore_cons]
        exact ⟨start, rest⟩
      · obtain ⟨c, cs, parted⟩ := List.exists_cons_of_ne_nil more
        rw [parted] at ends ⊢
        simpa using ends
      · simp [kept, digits]

/-! ### Numerals -/

/-- The numeral is well formed and denotes the number, which may have any size. -/
def Reads (n : Numeral) (m : Nat) : Prop :=
  n.hasLegalUnderscores = true ∧ Text.readNat? n.base (n.body.filter (· != '_')) = some m

theorem value?_eq_some_iff (n : Numeral) (m : Nat) :
    n.value? = some m ↔ n.Reads m ∧ IntRange.unsigned128.contains m = true := by
  unfold value? Reads
  cases Text.readNat? n.base (n.body.filter (· != '_')) with
  | none => simp
  | some k =>
    simp only [Option.ite_none_right_eq_some, Option.some.injEq]
    constructor
    · rintro ⟨legal, fits, rfl⟩
      exact ⟨⟨legal, rfl⟩, fits⟩
    · rintro ⟨⟨legal, rfl⟩, fits⟩
      exact ⟨legal, fits, rfl⟩

theorem reads_decimal_iff (body : List Char) (m : Nat) :
    Reads ⟨10, body, false⟩ m ↔ IsDigits body ∧ m = decimalValue body := by
  rw [Reads, ← Text.readNat?_ten_eq_some_iff]
  by_cases underscored : '_' ∈ body
  · have spoilt : Text.readNat? 10 body ≠ some m := by
      intro read
      exact absurd ((Text.readNat?_ten_eq_some_iff.1 read).1.2 '_' underscored) (by decide)
    simp [hasLegalUnderscores, underscored, spoilt]
  · have whole : body.filter (· != '_') = body := by
      rw [List.filter_eq_self]
      intro c member
      simpa using ne_of_mem_of_not_mem member underscored
    simp [hasLegalUnderscores, underscored, whole]

/-- Behind a prefix it is enough that no underscore stands beside another one or at the end. -/
theorem hasLegalUnderscores_iff (base : Nat) (body : List Char) :
    hasLegalUnderscores ⟨base, body, true⟩ = true ↔
      hasDoubleUnderscore body = false ∧ body.getLast? ≠ some '_' := by
  by_cases underscored : '_' ∈ body
  · simp [hasLegalUnderscores, underscored]
  · have single : hasDoubleUnderscore body = false := by
      simpa [hasDoubleUnderscore] using hasDoubleUnderscore_append underscored []
    have last : body.getLast? ≠ some '_' := fun last => underscored (List.mem_of_mem_getLast? last)
    simp [hasLegalUnderscores, underscored, single, last]

/-- A body that keeps its underscores apart starts with one at most. -/
theorem exists_lead {body : List Char} (digits : body.filter (· != '_') ≠ [])
    (single : hasDoubleUnderscore body = false) (last : body.getLast? ≠ some '_') :
    ∃ lead rest, (lead = [] ∨ lead = ['_']) ∧ body = lead ++ rest ∧ rest ≠ [] ∧
      rest.head? ≠ some '_' ∧ hasDoubleUnderscore rest = false ∧ rest.getLast? ≠ some '_' := by
  cases body with
  | nil => exact absurd rfl digits
  | cons c rest =>
    by_cases first : c = '_'
    · subst first
      obtain ⟨start, single⟩ := (hasDoubleUnderscore_underscore_cons rest).1 single
      cases rest with
      | nil => exact absurd rfl last
      | cons d rest =>
        rw [List.getLast?_cons_cons] at last
        exact ⟨['_'], d :: rest, .inr rfl, rfl, List.cons_ne_nil _ _, start, single, last⟩
    · exact ⟨[], c :: rest, .inl rfl, rfl, List.cons_ne_nil _ _, by simpa using first, single, last⟩

theorem reads_prefixed_iff {base : Nat} (small : base ≤ 16) (body : List Char) (m : Nat) :
    Reads ⟨base, body, true⟩ m ↔
      ∃ digits, Grouped base body digits ∧ Nat.ofDigits base digits.reverse = m := by
  rw [Reads, hasLegalUnderscores_iff, Text.readNat?_eq_some_iff small]
  dsimp only
  constructor
  · rintro ⟨⟨single, last⟩, filled, digits, read, value⟩
    obtain ⟨lead, rest, front, rfl, nonempty, start, single, last⟩ :=
      exists_lead filled single last
    obtain ⟨groups, some, each, rfl⟩ := exists_groups nonempty start single last
    have flat : (lead ++ ['_'].intercalate groups).filter (· != '_') = groups.flatten := by
      rw [List.filter_append, (underscores_of_groups some each).2.2.2.2]
      rcases front with rfl | rfl <;> simp
    rw [flat] at read
    exact ⟨digits, .intro front some (fun group member => (each group member).1) read, value⟩
  · rintro ⟨digits, grouped, value⟩
    obtain @⟨lead, groups, _, front, some, filled, read⟩ := grouped
    have free := Text.underscore_notMem_of_digits small read
    have each : ∀ group ∈ groups, group ≠ [] ∧ '_' ∉ group := by
      intro group member
      exact ⟨filled group member, fun under => free (List.mem_flatten_of_mem member under)⟩
    obtain ⟨nonempty, start, single, last, flat⟩ := underscores_of_groups some each
    have digitless : groups.flatten ≠ [] := by
      obtain ⟨group, member⟩ := List.exists_mem_of_ne_nil _ some
      exact fun nothing => filled group member (List.flatten_eq_nil_iff.1 nothing group member)
    rcases front with rfl | rfl
    · rw [List.nil_append, flat]
      exact ⟨⟨single, last⟩, digitless, digits, read, value⟩
    · have ends : ('_' :: ['_'].intercalate groups).getLast? ≠ .some '_' := by
        obtain ⟨c, cs, parted⟩ := List.exists_cons_of_ne_nil nonempty
        rw [parted] at last ⊢
        simpa using last
      rw [List.singleton_append, List.filter_cons_of_neg (by decide), flat]
      exact ⟨⟨(hasDoubleUnderscore_underscore_cons _).2 ⟨start, single⟩, ends⟩, digitless, digits,
        read, value⟩

/-- Behind a prefix comes an underscore or a digit. -/
theorem exists_cons_of_grouped {base : Nat} {body : List Char} {digits : List Nat}
    (grouped : Grouped base body digits) :
    ∃ c cs, body = c :: cs ∧ (c = '_' ∨ ∃ d, IsDigitOf base c d) := by
  obtain @⟨lead, groups, _, front, some, filled, read⟩ := grouped
  rcases front with rfl | rfl
  · obtain ⟨group, groups, rfl⟩ := List.exists_cons_of_ne_nil some
    obtain ⟨c, group, rfl⟩ := List.exists_cons_of_ne_nil (filled group List.mem_cons_self)
    rw [List.flatten_cons, List.cons_append, List.forall₂_cons_left_iff] at read
    obtain ⟨d, _, digit, _⟩ := read
    exact ⟨c, _, intercalate_cons_group c group groups, .inr ⟨d, digit⟩⟩
  · exact ⟨'_', _, rfl, .inl rfl⟩

/-- A leading zero is an octal prefix, since no octal digit is the letter of another prefix. -/
theorem ofDigits_of_octal {body : List Char} {digits : List Nat} (grouped : Grouped 8 body digits) :
    ofDigits ('0' :: body) = ⟨8, body, true⟩ := by
  obtain ⟨c, cs, rfl, rfl | ⟨d, below, digit⟩⟩ := exists_cons_of_grouped grouped
  · rfl
  · have letterless : ∀ d < 8, (Nat.digitChar d).toUpper = Nat.digitChar d := by decide
    rw [letterless d below, or_self] at digit
    subst digit
    interval_cases d <;> rfl

theorem ofDigits_of_head?_ne {cs : List Char} (unpadded : cs.head? ≠ some '0') :
    ofDigits cs = ⟨10, cs, false⟩ := by
  unfold ofDigits
  split <;> first | rfl | exact absurd rfl unpadded

theorem reads_ofDigits_iff (cs : List Char) (m : Nat) :
    (ofDigits cs).Reads m ↔ IsNumeral cs m := by
  have small : ∀ entry ∈ basePrefixes, entry.2 ≤ 16 := by decide
  constructor
  · intro reads
    -- A text with a base prefix, and what stands behind it.
    have prefixed (opening body : List Char) (base : Nat)
        (announced : (opening, base) ∈ basePrefixes) (reads : Reads ⟨base, body, true⟩ m) :
        IsNumeral (opening ++ body) m := by
      obtain ⟨digits, grouped, rfl⟩ := (reads_prefixed_iff (small _ announced) body m).1 reads
      exact .prefixed announced grouped
    unfold ofDigits at reads
    split at reads
    · exact prefixed ['0', 'x'] _ 16 (by decide) reads
    · exact prefixed ['0', 'X'] _ 16 (by decide) reads
    · exact prefixed ['0', 'o'] _ 8 (by decide) reads
    · exact prefixed ['0', 'O'] _ 8 (by decide) reads
    · exact prefixed ['0', 'b'] _ 2 (by decide) reads
    · exact prefixed ['0', 'B'] _ 2 (by decide) reads
    · exact prefixed ['0'] _ 8 (by decide) reads
    · rename_i single
      obtain ⟨digits, rfl⟩ := (reads_decimal_iff cs m).1 reads
      by_cases padded : cs.head? = some '0'
      · obtain ⟨rest, rfl⟩ := List.head?_eq_some_iff.1 padded
        cases rest with
        | nil => exact .zero
        | cons c rest => exact absurd rfl (single c rest)
      · exact .decimal digits padded
  · intro numeral
    cases numeral with
    | zero =>
      have digits : IsDigits ['0'] := ⟨List.cons_ne_nil _ _, List.forall_mem_singleton.2 rfl⟩
      exact (reads_decimal_iff ['0'] 0).2 ⟨digits, rfl⟩
    | decimal digits unpadded =>
      rw [ofDigits_of_head?_ne unpadded]
      exact (reads_decimal_iff cs _).2 ⟨digits, rfl⟩
    | @prefixed opening body base digits announced grouped =>
      have taken : ofDigits (opening ++ body) = ⟨base, body, true⟩ := by
        simp only [basePrefixes, List.mem_cons, Prod.mk.injEq, List.not_mem_nil, or_false]
          at announced
        rcases announced with
          ⟨rfl, rfl⟩ | ⟨rfl, rfl⟩ | ⟨rfl, rfl⟩ | ⟨rfl, rfl⟩ | ⟨rfl, rfl⟩ | ⟨rfl, rfl⟩ | ⟨rfl, rfl⟩
        case inr.inr.inr.inr.inl => exact ofDigits_of_octal grouped
        all_goals rfl
      rw [taken]
      exact (reads_prefixed_iff (small _ announced) body _).2 ⟨digits, grouped, rfl⟩

end Numeral

/-! ### Signs -/

/-- A numeral starts with a digit. -/
theorem IsNumeral.not_sign {c : Char} {cs : List Char} {n : Nat} (numeral : IsNumeral (c :: cs) n) :
    c ≠ '-' ∧ c ≠ '+' := by
  generalize whole : c :: cs = text at numeral
  cases numeral with
  | zero =>
    cases whole
    decide
  | decimal digits _ => exact Text.IsDigits.head_ne (whole ▸ digits)
  | @prefixed opening body _ _ announced _ =>
    have zeroed : ∀ entry ∈ basePrefixes, entry.1.head? = some '0' := by decide
    have first : (opening ++ body).head? = some '0' :=
      List.mem_head?_append_of_mem_head? (zeroed _ announced)
    rw [← whole, List.head?_cons, Option.some.injEq] at first
    subst first
    decide

/-- The integer that a sign and a number make. -/
theorem numeral_splitSign_iff (signed : Bool) (cs : List Char) (v : Int) :
    (∃ m, IsNumeral (splitSign signed cs).2 m ∧
        (if (splitSign signed cs).1 then -(m : Int) else m) = v) ↔
      Signed signed IsNumeral cs v := by
  constructor
  · rintro ⟨m, numeral, rfl⟩
    unfold splitSign at numeral ⊢
    split at numeral
    · cases signed with
      | true => exact .minus rfl numeral
      | false => exact absurd rfl numeral.not_sign.1
    · cases signed with
      | true => exact .plus rfl numeral
      | false => exact absurd rfl numeral.not_sign.2
    · simpa using Signed.plain numeral
  · intro integer
    cases integer with
    | @minus _ n allowed numeral => exact ⟨n, by simpa [splitSign, allowed] using numeral⟩
    | @plus _ n allowed numeral => exact ⟨n, by simpa [splitSign, allowed] using numeral⟩
    | @plain _ n numeral =>
      have unsigned : splitSign signed cs = (false, cs) := by
        unfold splitSign
        split
        · exact absurd rfl numeral.not_sign.1
        · exact absurd rfl numeral.not_sign.2
        · rfl
      exact ⟨n, by simpa [unsigned] using numeral⟩

/-! ### The decoder -/

/-- A number of more than 128 bits is out of the range of each type, with either sign. -/
theorem unsigned128_of_range {t : IntegerType} {negative : Bool} {m : Nat}
    (fits : t.range.contains (if negative then -(m : Int) else m) = true) :
    IntRange.unsigned128.contains m = true := by
  have bounds : -2 ^ 64 < t.range.least ∧ t.range.greatest < 2 ^ 64 := by cases t <;> decide
  rw [IntRange.contains_iff] at fits
  have least : IntRange.unsigned128.least = 0 := rfl
  have greatest : 2 ^ 64 < IntRange.unsigned128.greatest := by decide
  rw [IntRange.contains_iff]
  split at fits <;> omega

theorem integer_eq_ok_iff (t : IntegerType) (raw : String) (v : Int) :
    integer t raw = .ok v ↔
      Signed t.isSigned IsNumeral raw.toList v ∧ t.range.contains v = true := by
  rw [← numeral_splitSign_iff]
  simp only [← Numeral.reads_ofDigits_iff]
  unfold integer
  rcases splitSign t.isSigned raw.toList with ⟨negative, digits⟩
  dsimp only
  constructor
  · intro accepted
    split at accepted
    · cases accepted
    · rename_i m value
      by_cases fits : t.range.contains (if negative then -(m : Int) else m) = true
      · rw [if_pos fits] at accepted
        obtain rfl := Except.ok.inj accepted
        exact ⟨⟨m, ((Numeral.value?_eq_some_iff _ m).1 value).1, rfl⟩, fits⟩
      · rw [if_neg fits] at accepted
        cases accepted
  · rintro ⟨⟨m, reads, rfl⟩, fits⟩
    have value := (Numeral.value?_eq_some_iff _ m).2 ⟨reads, unsigned128_of_range fits⟩
    rw [value]
    exact if_pos fits

/-- A spelling of a number is a numeral that denotes it. -/
theorem Spells.isNumeral {cs : List Char} {n : Nat} (spelling : Spells cs n) : IsNumeral cs n := by
  cases spelling with
  | decimal =>
    rcases Nat.eq_zero_or_pos n with rfl | positive
    · rw [Nat.toDigits_zero]
      exact .zero
    · have denotes := IsNumeral.decimal (Text.isDigits_toDigits n) (Text.head?_toDigits_ne positive)
      rwa [Text.decimalValue_toDigits] at denotes
  | prefixed zeros announced grouped =>
    have denotes := IsNumeral.prefixed announced grouped
    rwa [List.reverse_append, List.reverse_reverse, List.reverse_replicate,
      Nat.ofDigits_append_replicate_zero, Nat.ofDigits_digits] at denotes

example : Spells ['0', 'x', '_', '0', '_', 'f', 'F'] 255 := by
  have digits : List.Forall₂ (IsDigitOf 16) ['0', 'f', 'F'] [0, 15, 15] :=
    (Text.digits?_eq_some_iff (by decide)).1 (by decide)
  have grouped : Grouped 16 ['_', '0', '_', 'f', 'F'] [0, 15, 15] :=
    @Grouped.intro 16 ['_'] [['0'], ['f', 'F']] _ (.inr rfl) (by decide) (by decide) digits
  exact @Spells.prefixed ['0', 'x'] _ 16 255 1 (by decide) grouped

theorem Signed.mono {signed : Bool} {left right : List Char → Nat → Prop} {cs : List Char} {v : Int}
    (text : Signed signed left cs v) (imp : ∀ cs n, left cs n → right cs n) :
    Signed signed right cs v := by
  cases text with
  | plain denotes => exact .plain (imp _ _ denotes)
  | plus allowed denotes => exact .plus allowed (imp _ _ denotes)
  | minus allowed denotes => exact .minus allowed (imp _ _ denotes)

/-- The decoder accepts the integer texts that denote an integer of the type, and nothing else,
    and every spelling of an integer of the type decodes to that integer. -/
theorem integer_grammar (t : IntegerType) :
    (∀ raw v, integer t raw = .ok v ↔
      Signed t.isSigned IsNumeral raw.toList v ∧ t.range.contains v = true) ∧
    (∀ raw v, t.range.contains v = true → Signed t.isSigned Spells raw.toList v →
      integer t raw = .ok v) := by
  refine ⟨integer_eq_ok_iff t, ?_⟩
  intro raw v fits spelling
  have denotes := spelling.mono fun _ _ => Spells.isNumeral
  exact (integer_eq_ok_iff t raw v).2 ⟨denotes, fits⟩

end Annotations

end PodCache
