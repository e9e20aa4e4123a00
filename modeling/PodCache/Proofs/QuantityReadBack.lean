import PodCache.Proofs.JsonText
import PodCache.Proofs.QuantityDisplay
import PodCache.Proofs.QuantityRange

/-!
# Quantities read back

Every quantity but the least is read back from its display and from the document that it is
written as. The least one is the amount of no text at all, since the reader takes the sign
after the digits. So the display tells any two quantities apart, and it is the canonical form
of the texts that are read: those with one rounded amount have one display.
-/

namespace PodCache.Quantity

/-! ### The least quantity -/

/-- The digits of a text are bounded before they take their sign. -/
theorem Parts.neg_maxNanos_le_signed {p : Parts} {s : Scale} (positive : 0 < s.binary)
    (bound : p.mantissa * s.binary ≤ maxNanos) : -maxNanos ≤ p.signed s := by
  have nonneg : 0 ≤ p.mantissa * s.binary := Int.mul_nonneg (Int.natCast_nonneg _) positive.le
  unfold Parts.signed
  unfold maxNanos at bound ⊢
  split <;> omega

theorem ten_dvd_tenTo {power : Int} (positive : 0 < power) : 10 ∣ tenTo power :=
  Int.natCast_dvd_natCast.2 (dvd_pow_self 10 (by omega))

/-- Scaling does not lead to the least quantity: it is no multiple of ten, and rounding up does
    not go beyond the amount that is rounded. -/
theorem nanos_ne_minNanos_of_scaled {value : String} {mantissa shift : Int} {q : Quantity}
    (least : -maxNanos ≤ mantissa) (read : scaled value mantissa shift = .ok q) :
    q.nanos ≠ minNanos := by
  unfold scaled at read
  split at read
  · rename_i up
    split at read
    · cases read
    · split at read
      · rename_i found
        cases read
        rw [nanos_of_ofNanos? found]
        rcases Int.lt_or_eq_of_le up with raised | rfl
        · have tens : 10 ∣ mantissa * tenTo shift :=
            Int.dvd_trans (ten_dvd_tenTo raised) (Int.dvd_mul_left _ _)
          intro same
          rw [same] at tens
          exact absurd tens (by decide)
        · have one : tenTo 0 = 1 := by decide
          rw [one, Int.mul_one]
          unfold maxNanos at least
          unfold minNanos
          omega
      · cases read
  · split at read
    · cases read
    · split at read
      · cases read
        split <;> decide
      · cases read
        have lower := le_ceilDiv (tenTo_pos (-shift)) (by decide) least
        unfold maxNanos at least lower
        unfold clamp minNanos maxNanos
        dsimp only
        omega

/-- No text denotes the least quantity. -/
theorem nanos_ne_minNanos_of_parse {value : String} {q : Quantity}
    (accepted : parse value = .ok q) : q.nanos ≠ minNanos := by
  rcases parse_cases (t := Text.trim value.toList) rfl with
    ⟨-, read⟩ | ⟨-, -, read⟩ | ⟨-, -, read⟩ | ⟨number, s, found, read⟩
  · simp [read] at accepted
  · simp [read] at accepted
  · simp [read] at accepted
  · have positive := Scale.binary_pos found
    rw [read, ofParts_eq value (isDigit_of_mem_ofText number) positive] at accepted
    split at accepted
    · cases accepted
    · rename_i fits
      split at accepted
      · cases accepted
        decide
      · split at accepted
        · cases accepted
        · exact nanos_ne_minNanos_of_scaled
            (Parts.neg_maxNanos_le_signed positive (Int.not_lt.1 fits)) accepted

/-! ### Displays and documents -/

theorem parse_display_of_ne {q : Quantity} (other : q.nanos ≠ minNanos) :
    parse q.display = .ok q := by
  rw [parse_display, if_neg other]

theorem parse_display_of_least {q : Quantity} (least : q.nanos = minNanos) :
    parse q.display = .error (.outOfRange q.display) := by
  rw [parse_display, if_pos least]

theorem display_injective : Function.Injective display := by
  intro p q same
  by_cases least : p.nanos = minNanos
  · by_cases other : q.nanos = minNanos
    · exact Quantity.ext (least.trans other.symm)
    · have read := parse_display_of_ne other
      rw [← same, parse_display_of_least least] at read
      cases read
  · have read := parse_display_of_ne least
    by_cases other : q.nanos = minNanos
    · rw [same, parse_display_of_least other] at read
      cases read
    · rw [same, parse_display_of_ne other] at read
      exact (Outcome.ok.inj read).symm

/-- A text that is printed as a document is read as it would be without the document. -/
theorem ofDocument_print_text (layout : Json.Layout) (s : String) :
    ofDocument (Json.print layout (.text s)) =
      (parse s).mapError fun e => .value (.quantity e) := by
  unfold ofDocument
  rw [Json.read?_print layout (.text s)]
  dsimp only
  rw [ofValue, ofText]
  cases parse s <;> rfl

/-! ### Texts with one amount -/

theorem exists_amounts_of_parse {value : String} {q : Quantity} (accepted : parse value = .ok q) :
    ∃ a, Amounts value a := by
  rcases parse_cases (t := Text.trim value.toList) rfl with
    ⟨-, read⟩ | ⟨-, -, read⟩ | ⟨-, -, read⟩ | ⟨number, s, found, -⟩
  · simp [read] at accepted
  · simp [read] at accepted
  · simp [read] at accepted
  · obtain ⟨m, denotes⟩ := exists_denotes found
    exact ⟨_, number, m, denotes, rfl⟩

/-- Two texts that are read denote the same rounded amount just when they are displayed alike. -/
theorem same_amount_iff_display_eq {value value' : String} {q q' : Quantity}
    (accepted : parse value = .ok q) (accepted' : parse value' = .ok q') :
    (∃ a a', Amounts value a ∧ Amounts value' a' ∧ ⌈a⌉ = ⌈a'⌉) ↔ q.display = q'.display := by
  rw [display_injective.eq_iff, Quantity.ext_iff]
  constructor
  · rintro ⟨a, a', amount, amount', same⟩
    rw [((parse_eq_ok_iff amount q).1 accepted).2, ((parse_eq_ok_iff amount' q').1 accepted').2,
      same]
  · intro same
    obtain ⟨a, amount⟩ := exists_amounts_of_parse accepted
    obtain ⟨a', amount'⟩ := exists_amounts_of_parse accepted'
    refine ⟨a, a', amount, amount', ?_⟩
    rw [← ((parse_eq_ok_iff amount q).1 accepted).2, ← ((parse_eq_ok_iff amount' q').1 accepted').2,
      same]

/-- A quantity is read back from its display, and from the document it is written as, just when
    it is not the least one, which is refused as out of range in both forms. No text is read as
    the least one. The display is injective, and texts that are read denote the same rounded
    amount just when their quantities are displayed alike. -/
theorem display_readsBack :
    (∀ q : Quantity, (∃ r, parse q.display = .ok r ∧ r.nanos = q.nanos) ↔ q.nanos ≠ minNanos) ∧
    (∀ (q : Quantity) (layout : Json.Layout),
      (∃ r, ofDocument (Json.print layout (encode q)) = .ok r ∧ r.nanos = q.nanos) ↔
        q.nanos ≠ minNanos) ∧
    (∀ q : Quantity, q.nanos = minNanos →
      parse q.display = .error (.outOfRange q.display) ∧
      ∀ layout : Json.Layout, ofDocument (Json.print layout (encode q)) =
        .error (.value (.quantity (.outOfRange q.display)))) ∧
    (∀ value q, parse value = .ok q → q.nanos ≠ minNanos) ∧
    Function.Injective display ∧
    (∀ value value' q q', parse value = .ok q → parse value' = .ok q' →
      ((∃ a a', Amounts value a ∧ Amounts value' a' ∧ ⌈a⌉ = ⌈a'⌉) ↔ q.display = q'.display)) := by
  have document (q : Quantity) (layout : Json.Layout) :
      ofDocument (Json.print layout (encode q)) =
        (parse q.display).mapError fun e => .value (.quantity e) :=
    ofDocument_print_text layout q.display
  refine ⟨?_, ?_, ?_, ?_, display_injective, ?_⟩
  · intro q
    constructor
    · rintro ⟨r, read, same⟩
      exact same ▸ nanos_ne_minNanos_of_parse read
    · intro other
      exact ⟨q, parse_display_of_ne other, rfl⟩
  · intro q layout
    constructor
    · rintro ⟨r, read, same⟩ least
      rw [document, parse_display_of_least least] at read
      cases read
    · intro other
      exact ⟨q, by rw [document, parse_display_of_ne other, Outcome.mapError_ok], rfl⟩
  · intro q least
    refine ⟨parse_display_of_least least, fun layout => ?_⟩
    rw [document, parse_display_of_least least, Outcome.mapError_error]
  · intro value q accepted
    exact nanos_ne_minNanos_of_parse accepted
  · intro value value' q q' accepted accepted'
    exact same_amount_iff_display_eq accepted accepted'

end PodCache.Quantity
