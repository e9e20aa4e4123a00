import Mathlib.Logic.Relation
import PodCache.Json.Printer
import PodCache.Json.Reader
import PodCache.Proofs.Numerals

/-!
# Printed documents

Reading a document that was printed gives back the value, on one line or laid out over
several, as long as the notation has a way to write the value: its numbers are integers of
64 bits and its maps have texts for keys. The reader takes a printed text token by token,
and each value puts itself where it belongs.
-/

namespace PodCache.Json

open Text (IsDigits)

/-- The values that can be printed without loss. -/
inductive Printable : Value → Prop
  | null : Printable .null
  | bool (b : Bool) : Printable (.bool b)
  | int {i : Int} : IntRange.signed64.contains i ∨ IntRange.unsigned64.contains i →
      Printable (.int i)
  | text (s : String) : Printable (.text s)
  | list {items : List Value} : (∀ v ∈ items, Printable v) → Printable (.list items)
  | record {entries : List (String × Value)} : (∀ e ∈ entries, Printable e.2) →
      Printable (.record entries)

/-- No numeral goes on into the text. -/
def EndsNumeral (rest : List Char) : Prop :=
  ∀ c ∈ rest.head?, c.isDigit = false ∧ c ≠ '.' ∧ c ≠ 'e' ∧ c ≠ 'E'

namespace Token

/-! ### Texts -/

/-- A character that is written with two hexadecimal digits is read from them. -/
theorem hex4?_digitChar {n : Nat} (control : n < 0x20) (cs : List Char) :
    hex4? ('0' :: '0' :: Nat.digitChar (n / 16) :: Nat.digitChar (n % 16) :: cs) =
      some (n, cs) := by
  have read : ∀ n < 0x20,
      Text.readNat? 16 ['0', '0', Nat.digitChar (n / 16), Nat.digitChar (n % 16)] = some n := by
    decide
  rw [hex4?, read n control, Option.map_some]

theorem units?_shortEscape {c e : Char} (short : shortEscape? e = some c) (fuel : Nat)
    (cs : List Char) :
    units? (fuel + 1) ('\\' :: e :: cs) =
      (units? fuel cs).map fun (units, rest) => (.char c :: units, rest) := by
  have notUnicode : e ≠ 'u' := by
    rintro rfl
    cases short
  rw [units?, short]
  · cases units? fuel cs <;> rfl
  · exact notUnicode

theorem units?_escapedChar (c : Char) (fuel : Nat) (cs : List Char) :
    units? (fuel + 1) (escapedChar c ++ cs) =
      (units? fuel cs).map fun (units, rest) => (.char c :: units, rest) := by
  unfold escapedChar
  split_ifs with quote backslash newline return_ tab backspace feed control
  · subst quote
    exact units?_shortEscape rfl fuel cs
  · subst backslash
    exact units?_shortEscape rfl fuel cs
  · subst newline
    exact units?_shortEscape rfl fuel cs
  · subst return_
    exact units?_shortEscape rfl fuel cs
  · subst tab
    exact units?_shortEscape rfl fuel cs
  · subst backspace
    exact units?_shortEscape rfl fuel cs
  · subst feed
    exact units?_shortEscape rfl fuel cs
  · have unit : Unit16.ofNat c.toNat = .char c := by
      rw [Unit16.ofNat, if_neg (by omega), if_neg (by omega), Char.ofNat_toNat]
    simp only [List.cons_append, List.nil_append]
    rw [units?, hex4?_digitChar control]
    dsimp only [Option.bind_eq_bind, Option.bind_some]
    rw [unit]
    cases units? fuel cs <;> rfl
  · rw [List.singleton_append, units?, if_neg control]
    · cases units? fuel cs <;> rfl
    · exact quote
    · exact fun rest same => absurd same backslash
    · exact fun e rest same => absurd same backslash

theorem escapedChar_ne_nil (c : Char) : escapedChar c ≠ [] := by
  unfold escapedChar
  split_ifs <;> simp

theorem length_le_length_flatMap (cs : List Char) :
    cs.length ≤ (cs.flatMap escapedChar).length := by
  induction cs with
  | nil => exact Nat.le_refl _
  | cons c cs ih =>
    have filled := List.length_pos_iff.2 (escapedChar_ne_nil c)
    rw [List.flatMap_cons, List.length_append, List.length_cons]
    omega

theorem units?_flatMap (cs rest : List Char) {fuel : Nat} (enough : cs.length < fuel) :
    units? fuel (cs.flatMap escapedChar ++ '"' :: rest) = some (cs.map .char, rest) := by
  induction cs generalizing fuel with
  | nil =>
    obtain ⟨fuel, rfl⟩ := Nat.exists_eq_add_one_of_ne_zero (Nat.ne_of_gt enough)
    rfl
  | cons c cs ih =>
    obtain ⟨fuel, rfl⟩ := Nat.exists_eq_add_one_of_ne_zero (Nat.ne_of_gt (Nat.zero_lt_of_lt enough))
    rw [List.flatMap_cons, List.append_assoc, units?_escapedChar,
      ih (Nat.lt_of_succ_lt_succ enough)]
    rfl

theorem joinUnits?_map_char (cs : List Char) : joinUnits? (cs.map .char) = some cs := by
  induction cs with
  | nil => rfl
  | cons c cs ih => rw [List.map_cons, joinUnits?, ih, Option.map_some]

theorem next?_quotedText (s : String) (rest : List Char) :
    next? ((quotedText s).toList ++ rest) = some (.text (some s), rest) := by
  have written : (quotedText s).toList ++ rest =
      '"' :: (s.toList.flatMap escapedChar ++ '"' :: rest) := by
    simp [quotedText]
  have enough : s.toList.length < (s.toList.flatMap escapedChar ++ '"' :: rest).length + 1 := by
    have := length_le_length_flatMap s.toList
    rw [List.length_append]
    omega
  have units := units?_flatMap s.toList rest enough
  have started (cs : List Char) : next? ('"' :: cs) =
      (units? (cs.length + 1) cs).map fun (units, rest) =>
        (.text ((joinUnits? units).map String.ofList), rest) := rfl
  rw [written, started, units, Option.map_some]
  dsimp only
  rw [joinUnits?_map_char, Option.map_some, String.ofList_toList]

/-! ### Numerals -/

theorem digits_append {cs rest : List Char} (digits : IsDigits cs) (ends : EndsNumeral rest) :
    Token.digits (cs ++ rest) = (cs.map fun c => c.toNat - 48, rest) := by
  have stop : rest.takeWhile Char.isDigit = [] ∧ rest.dropWhile Char.isDigit = rest := by
    cases rest with
    | nil => exact ⟨rfl, rfl⟩
    | cons c rest => simp [ends c rfl]
  rw [Token.digits, List.takeWhile_append_of_pos digits.2, List.dropWhile_append_of_pos digits.2,
    stop.1, stop.2, List.append_nil, Text.filterMap_digit?_ten digits.2]

theorem fraction?_of_ends {rest : List Char} (ends : EndsNumeral rest) :
    fraction? rest = some ([], rest) := by
  unfold fraction?
  split
  · exact absurd rfl (ends '.' rfl).2.1
  · rfl

theorem exponent?_of_ends {rest : List Char} (ends : EndsNumeral rest) :
    exponent? rest = some (none, rest) := by
  cases rest with
  | nil => rfl
  | cons c rest =>
    have other := ends c rfl
    unfold exponent?
    exact if_neg (not_or.2 other.2.2)

/-- A numeral without its sign, read as `numeral?` reads it. -/
def unsignedNumeral? (negative : Bool) (cs : List Char) : Option (Numeral × List Char) := do
  let (integral, cs) ← match digits cs with
    | ([], _) => none
    | (0 :: _ :: _, _) => none
    | (ds, rest) => some (ds, rest)
  let (fraction, cs) ← fraction? cs
  let (exponent, cs) ← exponent? cs
  return (⟨negative, integral, fraction, exponent⟩, cs)

theorem numeral?_minus (cs : List Char) : numeral? ('-' :: cs) = unsignedNumeral? true cs := rfl

theorem numeral?_of_ne {c : Char} (unsigned : c ≠ '-') (cs : List Char) :
    numeral? (c :: cs) = unsignedNumeral? false (c :: cs) := by
  unfold numeral?
  split
  rename_i parted
  split at parted
  · rename_i signed
    exact absurd (List.cons.inj signed).1 unsigned
  · cases parted
    rfl

theorem unsignedNumeral?_toDigits (negative : Bool) (n : Nat) {rest : List Char}
    (ends : EndsNumeral rest) :
    unsignedNumeral? negative (Nat.toDigits 10 n ++ rest) =
      some (⟨negative, (Nat.toDigits 10 n).map fun c => c.toNat - 48, [], none⟩, rest) := by
  unfold unsignedNumeral?
  rw [digits_append (Text.isDigits_toDigits n) ends]
  split
  · rename_i nothing
    exact absurd (List.map_eq_nil_iff.1 (Prod.mk.inj nothing).1) Nat.toDigits_ne_nil
  · rename_i more
    exact absurd (Prod.mk.inj more).1 (Text.map_toDigits_ne n _ _)
  · rename_i same
    cases same
    dsimp only [Option.bind_eq_bind, Option.bind_some]
    rw [fraction?_of_ends ends]
    dsimp only [Option.bind_eq_bind, Option.bind_some]
    rw [exponent?_of_ends ends]
    rfl

/-- What starts like a number is read as one. -/
theorem next?_cons_of_numeral {c : Char} (start : c.isDigit = true ∨ c = '-') (cs : List Char) :
    next? (c :: cs) = (numeral? (c :: cs)).map fun (n, rest) => (.scalar n.toValue, rest) := by
  have solid : isSpace c = false := by
    by_contra space
    simp only [isSpace, Bool.not_eq_false, Bool.or_eq_true, beq_iff_eq] at space
    rcases space with ((rfl | rfl) | rfl) | rfl <;> exact absurd start (by decide)
  unfold next?
  rw [List.dropWhile_cons_of_neg (by rw [solid]; decide)]
  -- No other token starts with a digit or a minus sign.
  split
  case h_12 => rfl
  all_goals
    rename_i same
    cases same <;> exact absurd start (by decide)

theorem toValue_of_nonneg {n : Nat} (fits : n ≤ 18446744073709551615) :
    Numeral.toValue ⟨false, (Nat.toDigits 10 n).map fun c => c.toNat - 48, [], none⟩ =
      .int n := by
  have contained : IntRange.unsigned64.contains n = true :=
    IntRange.contains_iff.2 ⟨Int.natCast_nonneg n, Int.ofNat_le.2 fits⟩
  unfold Numeral.toValue
  rw [Text.ofDigits_map, Text.decimalValue_toDigits]
  exact if_pos (by simp [contained])

theorem toValue_of_neg {n : Nat} (positive : 0 < n) (fits : n ≤ 9223372036854775808) :
    Numeral.toValue ⟨true, (Nat.toDigits 10 n).map fun c => c.toNat - 48, [], none⟩ =
      .int (-n) := by
  have contained : IntRange.signed64.contains (-n) = true := by
    simp only [IntRange.contains_iff, IntRange.signed64]
    omega
  unfold Numeral.toValue
  rw [Text.ofDigits_map, Text.decimalValue_toDigits]
  simp [contained, positive]

theorem next?_toString {i : Int}
    (fits : IntRange.signed64.contains i ∨ IntRange.unsigned64.contains i)
    {rest : List Char} (ends : EndsNumeral rest) :
    next? ((toString i).toList ++ rest) = some (.scalar (.int i), rest) := by
  simp only [IntRange.contains_iff, IntRange.signed64, IntRange.unsigned64] at fits
  rcases Int.lt_or_le i 0 with negative | nonneg
  · have size : -(i.natAbs : Int) = i := by omega
    rw [Text.toList_toString_of_neg negative, List.cons_append, next?_cons_of_numeral (.inr rfl),
      numeral?_minus, unsignedNumeral?_toDigits true _ ends, Option.map_some]
    dsimp only
    rw [toValue_of_neg (by omega) (by omega), size]
  · have size : (i.natAbs : Int) = i := by omega
    have read := unsignedNumeral?_toDigits false i.natAbs ends
    have digits := Text.isDigits_toDigits i.natAbs
    have value := toValue_of_nonneg (show i.natAbs ≤ 18446744073709551615 by omega)
    rw [size] at value
    rw [Text.toList_toString_of_nonneg nonneg]
    cases written : Nat.toDigits 10 i.natAbs with
    | nil => exact absurd written digits.1
    | cons c cs =>
      rw [written] at read digits value
      rw [List.cons_append, next?_cons_of_numeral (.inl (digits.2 c List.mem_cons_self)),
        numeral?_of_ne digits.head_ne.1, ← List.cons_append, read, Option.map_some]
      dsimp only
      rw [value]

theorem next?_append_of_isSpace {blanks : List Char} (space : ∀ c ∈ blanks, isSpace c = true)
    (cs : List Char) : next? (blanks ++ cs) = next? cs := by
  unfold next?
  rw [List.dropWhile_append_of_pos space]

end Token

/-! ### The steps of the reader -/

/-- One token takes the reader from one stage to the next. A stage is the progress made and
    the text that is left. -/
def Reads (a b : Progress × List Char) : Prop :=
  ∃ t, Token.next? a.2 = some (t, b.2) ∧ b.2.length < a.2.length ∧
    a.1.step t = some (.partway b.1)

/-- Several tokens do. -/
abbrev ReadsOn : Progress × List Char → Progress × List Char → Prop := Relation.ReflTransGen Reads

/-- The tokens of a value, from the first to the last, which puts the value on a stack. -/
def Settles (a : Progress × List Char) (v : Value) (stack : List Frame) (rest : List Char) : Prop :=
  ∃ b t, ReadsOn a b ∧ Token.next? b.2 = some (t, rest) ∧ rest.length < b.2.length ∧
    b.1.step t = some (settle v stack)

theorem Settles.of_reads {a b : Progress × List Char} {v : Value} {stack : List Frame}
    {rest : List Char} (reads : ReadsOn a b) (settles : Settles b v stack rest) :
    Settles a v stack rest := by
  obtain ⟨c, t, onward, last⟩ := settles
  exact ⟨c, t, reads.trans onward, last⟩

theorem Settles.readsOn {a : Progress × List Char} {v : Value} {stack : List Frame}
    {rest : List Char} (settles : Settles a v stack rest) {p : Progress}
    (partway : settle v stack = .partway p) : ReadsOn a (p, rest) := by
  obtain ⟨b, t, onward, next, shorter, step⟩ := settles
  exact onward.tail ⟨t, next, shorter, step.trans (congrArg some partway)⟩

/-- Every token takes up text, so the fuel lasts. -/
theorem readFrom_of_readsOn {a b : Progress × List Char} (reads : ReadsOn a b) {fuel : Nat}
    (enough : a.2.length < fuel) :
    ∃ fuel', b.2.length < fuel' ∧ readFrom fuel a.1 a.2 = readFrom fuel' b.1 b.2 := by
  induction reads using Relation.ReflTransGen.head_induction_on generalizing fuel with
  | refl => exact ⟨fuel, enough, rfl⟩
  | head first _ ih =>
    obtain ⟨t, next, shorter, step⟩ := first
    obtain ⟨fuel, rfl⟩ := Nat.exists_eq_add_one_of_ne_zero (Nat.ne_of_gt (Nat.zero_lt_of_lt enough))
    have left : _ < fuel := Nat.lt_of_lt_of_le shorter (Nat.le_of_lt_succ enough)
    obtain ⟨fuel', enough', same⟩ := ih left
    refine ⟨fuel', enough', ?_⟩
    rw [readFrom, next]
    dsimp only
    rw [step]
    exact same

theorem read?_of_settles {cs : List Char} {v : Value} {rest : List Char}
    (settles : Settles (⟨[], .value⟩, cs) v [] rest) : read? cs = some (v, rest) := by
  obtain ⟨b, t, onward, next, shorter, step⟩ := settles
  obtain ⟨fuel, enough, same⟩ := readFrom_of_readsOn onward (Nat.lt_succ_self _)
  obtain ⟨fuel, rfl⟩ := Nat.exists_eq_add_one_of_ne_zero (Nat.ne_of_gt (Nat.zero_lt_of_lt enough))
  rw [read?, same, readFrom, next]
  dsimp only
  rw [step, settle]

section Blanks

variable {blanks : List Char} (space : ∀ c ∈ blanks, isSpace c = true)
include space

theorem Reads.after_blanks {p : Progress} {cs : List Char} {b : Progress × List Char}
    (reads : Reads (p, cs) b) : Reads (p, blanks ++ cs) b := by
  obtain ⟨t, next, shorter, step⟩ := reads
  refine ⟨t, (Token.next?_append_of_isSpace space cs).trans next, ?_, step⟩
  rw [List.length_append]
  exact Nat.lt_add_left _ shorter

theorem Settles.after_blanks {p : Progress} {cs : List Char} {v : Value} {stack : List Frame}
    {rest : List Char} (settles : Settles (p, cs) v stack rest) :
    Settles (p, blanks ++ cs) v stack rest := by
  obtain ⟨b, t, onward, next, shorter, step⟩ := settles
  rcases Relation.ReflTransGen.cases_head onward with rfl | ⟨c, first, onward⟩
  · refine ⟨_, t, .refl, (Token.next?_append_of_isSpace space cs).trans next, ?_, step⟩
    rw [List.length_append]
    exact Nat.lt_add_left _ shorter
  · exact ⟨b, t, .head (first.after_blanks space) onward, next, shorter, step⟩

end Blanks

/-! ### Values -/

theorem endsNumeral_cons {c : Char} (other : c.isDigit = false ∧ c ≠ '.' ∧ c ≠ 'e' ∧ c ≠ 'E')
    (cs : List Char) : EndsNumeral (c :: cs) := by
  rintro d ⟨⟩
  exact other

theorem isSpace_lineBreak (layout : Layout) (level : Nat) :
    ∀ c ∈ (layout.lineBreak level).toList, isSpace c = true := by
  intro c member
  cases layout with
  | oneLine => simp [Layout.lineBreak] at member
  | indented =>
    simp only [Layout.lineBreak, String.toList_append, String.toList_ofList, List.mem_append,
      List.mem_replicate] at member
    rcases member with newline | ⟨-, rfl⟩
    · obtain rfl : c = '\n' := by simpa using newline
      rfl
    · rfl

theorem endsNumeral_lineBreak (layout : Layout) (level : Nat) {c : Char}
    (other : c.isDigit = false ∧ c ≠ '.' ∧ c ≠ 'e' ∧ c ≠ 'E') (cs : List Char) :
    EndsNumeral ((layout.lineBreak level).toList ++ c :: cs) := by
  cases layout with
  | oneLine => exact endsNumeral_cons other cs
  | indented =>
    simp only [Layout.lineBreak, String.toList_append]
    exact endsNumeral_cons (by decide) _

/-- Whether a value may come next. -/
def Progress.AwaitsValue (p : Progress) : Prop := p.expecting = .value ∨ p.expecting = .itemOrEnd

theorem Progress.AwaitsValue.step {p : Progress} (awaits : p.AwaitsValue) {t : Token}
    (opening : t ≠ .closeList) : p.step t = startValue p.stack t := by
  obtain ⟨stack, expecting⟩ := p
  rcases awaits with rfl | rfl
  · rfl
  · cases t <;> first | rfl | exact absurd rfl opening

theorem Progress.AwaitsValue.settles {p : Progress} (awaits : p.AwaitsValue) {t : Token}
    (opening : t ≠ .closeList) {text rest : List Char} (filled : text ≠ [])
    (next : Token.next? (text ++ rest) = some (t, rest)) {v : Value}
    (start : startValue p.stack t = some (settle v p.stack)) :
    Settles (p, text ++ rest) v p.stack rest := by
  refine ⟨(p, text ++ rest), t, .refl, next, ?_, (awaits.step opening).trans start⟩
  rw [List.length_append]
  exact Nat.lt_add_of_pos_left (List.length_pos_iff.2 filled)

/-- A value is read from what is printed for it. -/
def ReadsBack (v : Value) : Prop :=
  ∀ (layout : Layout) (level : Nat) (p : Progress) (rest : List Char), p.AwaitsValue →
    EndsNumeral rest → Settles (p, (render layout level v).toList ++ rest) v p.stack rest

section Members

variable (layout : Layout) (level : Nat) (stack : List Frame)

theorem endsNumeral_renderItems (items : List Value) (rest : List Char) :
    EndsNumeral ((renderItems layout level items).toList ++
      ((layout.lineBreak level).toList ++ ']' :: rest)) := by
  cases items with
  | nil => exact endsNumeral_lineBreak layout level (by decide) rest
  | cons v items =>
    simp only [renderItems, String.toList_append, List.append_assoc]
    exact endsNumeral_cons (by decide) _

theorem settles_renderItems {items : List Value} (members : ∀ v ∈ items, ReadsBack v)
    (done : List Value) (rest : List Char) :
    Settles (⟨.list done :: stack, .more⟩, (renderItems layout level items).toList ++
      ((layout.lineBreak level).toList ++ ']' :: rest)) (.list (done.reverse ++ items)) stack
      rest := by
  induction items generalizing done with
  | nil =>
    rw [renderItems, List.append_nil]
    refine Settles.after_blanks (isSpace_lineBreak layout level) ?_
    exact ⟨_, .closeList, .refl, rfl, Nat.lt_succ_self _, rfl⟩
  | cons v items ih =>
    simp only [renderItems, String.toList_append, List.append_assoc]
    have comma (cs : List Char) : Reads (⟨.list done :: stack, .more⟩, ',' :: cs)
        (⟨.list done :: stack, .value⟩, cs) :=
      ⟨.comma, rfl, Nat.lt_succ_self _, rfl⟩
    have value := (members v List.mem_cons_self layout (level + 1) ⟨.list done :: stack, .value⟩ _
      (.inl rfl) (endsNumeral_renderItems layout level items rest)).after_blanks
        (isSpace_lineBreak layout (level + 1))
    have others := ih (fun w member => members w (List.mem_cons_of_mem v member)) (v :: done)
    rw [List.reverse_cons, List.append_assoc, List.singleton_append] at others
    exact .of_reads (.head (comma _) (value.readsOn rfl)) others

/-- The entries of a record as those of a map. -/
def textEntries (entries : List (String × Value)) : List (Value × Value) :=
  entries.map fun (k, v) => (.text k, v)

theorem endsNumeral_renderEntries (entries : List (Value × Value)) (rest : List Char) :
    EndsNumeral ((renderEntries layout level entries).toList ++
      ((layout.lineBreak level).toList ++ '\x7d' :: rest)) := by
  cases entries with
  | nil => exact endsNumeral_lineBreak layout level (by decide) rest
  | cons e entries =>
    obtain ⟨k, v⟩ := e
    simp only [renderEntries, String.toList_append, List.append_assoc]
    exact endsNumeral_cons (by decide) _

/-- A key is read as a text, and its value goes to it. -/
theorem readsOn_entry {p : Progress} (entries : List (Value × Value))
    (awaits : p = ⟨stack, .keyOrEnd entries⟩ ∨ p = ⟨stack, .key entries⟩) (k : String) {v : Value}
    (member : ReadsBack v) {rest : List Char} (ends : EndsNumeral rest) :
    ReadsOn (p, (layout.lineBreak (level + 1)).toList ++ ((quotedText k).toList ++
      (layout.colon.toList ++ ((render layout (level + 1) v).toList ++ rest))))
      (⟨.map ((.text k, v) :: entries) (.text k) :: stack, .more⟩, rest) := by
  have text (cs : List Char) : Reads (p, (quotedText k).toList ++ cs)
      (⟨stack, .colon entries (.text k)⟩, cs) := by
    refine ⟨.text (some k), Token.next?_quotedText k cs, ?_, ?_⟩
    · simp [quotedText]
      omega
    · rcases awaits with rfl | rfl <;> rfl
  have colon (cs : List Char) : Reads (⟨stack, .colon entries (.text k)⟩, ':' :: cs)
      (⟨.map entries (.text k) :: stack, .value⟩, cs) :=
    ⟨.colon, rfl, Nat.lt_succ_self _, rfl⟩
  have value := member layout (level + 1) ⟨.map entries (.text k) :: stack, .value⟩ rest
    (.inl rfl) ends
  refine .head ((text _).after_blanks (isSpace_lineBreak layout (level + 1))) ?_
  cases layout with
  | oneLine => exact .head (colon _) (value.readsOn rfl)
  | indented =>
    have spaced := value.after_blanks (show ∀ c ∈ [' '], isSpace c = true by simp [isSpace])
    exact .head (colon _) (spaced.readsOn rfl)

theorem settles_renderEntries {entries : List (String × Value)}
    (members : ∀ e ∈ entries, ReadsBack e.2) (done : List (Value × Value)) (key : Value)
    (rest : List Char) :
    Settles (⟨.map done key :: stack, .more⟩,
      (renderEntries layout level (textEntries entries)).toList ++
        ((layout.lineBreak level).toList ++ '\x7d' :: rest))
      (.map (done.reverse ++ textEntries entries)) stack rest := by
  induction entries generalizing done key with
  | nil =>
    rw [textEntries, List.map_nil, renderEntries, List.append_nil]
    refine Settles.after_blanks (isSpace_lineBreak layout level) ?_
    exact ⟨_, .closeMap, .refl, rfl, Nat.lt_succ_self _, rfl⟩
  | cons e entries ih =>
    obtain ⟨k, v⟩ := e
    rw [textEntries, List.map_cons, ← textEntries]
    simp only [renderEntries, scalarText, String.toList_append, List.append_assoc]
    have comma (cs : List Char) : Reads (⟨.map done key :: stack, .more⟩, ',' :: cs)
        (⟨stack, .key done⟩, cs) :=
      ⟨.comma, rfl, Nat.lt_succ_self _, rfl⟩
    have entry := readsOn_entry layout level stack done (.inr rfl) k
      (members (k, v) List.mem_cons_self)
      (endsNumeral_renderEntries layout level (textEntries entries) rest)
    have others := ih (fun e member => members e (List.mem_cons_of_mem _ member))
      ((.text k, v) :: done) (.text k)
    rw [List.reverse_cons, List.append_assoc, List.singleton_append] at others
    exact .of_reads (.head (comma _) entry) others

end Members

/-- Every value of the notation is read from what is printed for it. -/
theorem Printable.readsBack {v : Value} (printable : Printable v) : ReadsBack v := by
  induction printable with
  | null =>
    intro layout level p rest awaits _
    have written : (render layout level .null).toList = ['n', 'u', 'l', 'l'] := by
      simp [render, scalarText]
    rw [written]
    exact awaits.settles (by simp) (by simp) rfl rfl
  | bool b =>
    intro layout level p rest awaits _
    have written : render layout level (.bool b) = if b then "true" else "false" := by
      simp [render, scalarText]
    rw [written]
    cases b with
    | true => exact awaits.settles (by simp) (by simp) rfl rfl
    | false => exact awaits.settles (by simp) (by simp) rfl rfl
  | @int i fits =>
    intro layout level p rest awaits ends
    have written : render layout level (.int i) = toString i := by simp [render, scalarText]
    rw [written]
    exact awaits.settles (by simp) (Text.toList_toString_ne_nil i)
      (Token.next?_toString fits ends) rfl
  | text s =>
    intro layout level p rest awaits _
    have written : render layout level (.text s) = quotedText s := by simp [render, scalarText]
    rw [written]
    exact awaits.settles (by simp) (by simp [quotedText]) (Token.next?_quotedText s rest) rfl
  | @list items _ members =>
    intro layout level p rest awaits _
    have opened (cs : List Char) : Reads (p, '[' :: cs) (⟨.list [] :: p.stack, .itemOrEnd⟩, cs) :=
      ⟨.openList, rfl, Nat.lt_succ_self _, awaits.step (by simp)⟩
    cases items with
    | nil =>
      rw [render]
      exact ⟨_, .closeList, .single (opened (']' :: rest)), rfl, Nat.lt_succ_self _, rfl⟩
    | cons v items =>
      simp only [render, String.toList_append, List.append_assoc]
      have value := (members v List.mem_cons_self layout (level + 1)
        ⟨.list [] :: p.stack, .itemOrEnd⟩ _ (.inr rfl)
        (endsNumeral_renderItems layout level items rest)).after_blanks
          (isSpace_lineBreak layout (level + 1))
      exact .of_reads (.head (opened _) (value.readsOn rfl)) (settles_renderItems layout level
        p.stack (fun w member => members w (List.mem_cons_of_mem v member)) [v] rest)
  | @record entries _ members =>
    intro layout level p rest awaits _
    have opened (cs : List Char) : Reads (p, '\x7b' :: cs) (⟨p.stack, .keyOrEnd []⟩, cs) :=
      ⟨.openMap, rfl, Nat.lt_succ_self _, awaits.step (by simp)⟩
    rw [Value.record, ← textEntries]
    cases entries with
    | nil =>
      rw [textEntries, List.map_nil, render]
      exact ⟨_, .closeMap, .single (opened ('\x7d' :: rest)), rfl, Nat.lt_succ_self _, rfl⟩
    | cons e entries =>
      obtain ⟨k, v⟩ := e
      rw [textEntries, List.map_cons, ← textEntries]
      simp only [render, scalarText, String.toList_append, List.append_assoc]
      have entry := readsOn_entry layout level p.stack [] (.inl rfl) k
        (members (k, v) List.mem_cons_self)
        (endsNumeral_renderEntries layout level (textEntries entries) rest)
      exact .of_reads (.head (opened _) entry) (settles_renderEntries layout level p.stack
        (fun e member => members e (List.mem_cons_of_mem _ member)) [(.text k, v)] (.text k) rest)

theorem read?_print (layout : Layout) {v : Value} (printable : Printable v) :
    read? (print layout v).toList = some (v, []) := by
  have settles := printable.readsBack layout 0 ⟨[], .value⟩ [] (.inl rfl) (by rintro c ⟨⟩)
  rw [List.append_nil] at settles
  exact read?_of_settles settles

/-- Reading a printed document gives back the value. -/
theorem document?_print (layout : Layout) {v : Value} (printable : Printable v) :
    document? (print layout v) = some v := by
  rw [document?, read?_print layout printable]
  rfl

end PodCache.Json
