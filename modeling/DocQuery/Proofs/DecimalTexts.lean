import DocQuery.Decimal.Reader
import DocQuery.Proofs.PrintedValues
set_option autoImplicit false

/-!
# Proofs: decimals are read from their texts

The text of a decimal is read as that decimal, with all digits behind its point.  Only the sign
of a zero is lost, since no zero that is read has one.
-/

namespace DocQuery.Decimal

open DocQuery.Text

theorem digitValue?_of_isDigit {c : Char} (h : c.isDigit = true) :
    digitValue? c = some (c.toNat - '0'.toNat) := by
  have hrange : '0' ≤ c ∧ c ≤ '9' := by
    simp only [Char.isDigit, Bool.and_eq_true, decide_eq_true_eq] at h
    exact h
  rw [digitValue?, if_pos hrange]

/-- Digits that follow make a number no smaller. -/
theorem le_ofDigitChars (cs : List Char) (m : Nat) : m ≤ Nat.ofDigitChars 10 cs m := by
  induction cs generalizing m with
  | nil => simp
  | cons c cs ih =>
    rw [Nat.ofDigitChars_cons]
    have hnext := ih (10 * m + (c.toNat - '0'.toNat))
    omega

/-- Digits are read to their end if there is room for them. -/
theorem readDigits_append (negative : Bool) (cs rest : List Char) (d : Digits)
    (hcs : ∀ c ∈ cs, c.isDigit = true)
    (hroom : Nat.ofDigitChars 10 cs d.mantissa < bound)
    (hscale : d.point = true → d.scale + cs.length ≤ maxScale) :
    readDigits negative d (cs ++ rest) =
      readDigits negative ⟨Nat.ofDigitChars 10 cs d.mantissa, if d.point then
        d.scale + cs.length else d.scale, d.point, d.some || !cs.isEmpty⟩ rest := by
  induction cs generalizing d with
  | nil => simp
  | cons c cs ih =>
    obtain ⟨hc, hcs⟩ := List.forall_mem_cons.mp hcs
    rw [Nat.ofDigitChars_cons, Nat.mul_comm] at hroom
    have hplaces : ¬ (d.point = true ∧ maxScale ≤ d.scale) := by
      rintro ⟨hpoint, hfull⟩
      have hlast := hscale hpoint
      simp only [List.length_cons] at hlast
      omega
    have hfits : d.mantissa * 10 + (c.toNat - '0'.toNat) < bound :=
      Nat.lt_of_le_of_lt (le_ofDigitChars cs _) hroom
    rw [List.cons_append, readDigits, if_neg hplaces, digitValue?_of_isDigit hc]
    simp only [if_pos hfits]
    rw [ih _ hcs hroom]
    · cases hpoint : d.point <;> simp [Nat.ofDigitChars_cons, Nat.mul_comm, Nat.add_assoc,
        Nat.add_comm 1]
    · intro (hpoint : d.point = true)
      have hlast := hscale hpoint
      simp only [List.length_cons] at hlast
      simp only [hpoint, if_true]
      omega

theorem ofParts?_unsignZero (d : Decimal) :
    ofParts? d.negative d.mantissa d.scale = some d.unsignZero := by
  simp [ofParts?, withParts?, unsignZero, d.mantissa_lt, d.scale_le]

theorem ofDigitChars_fraction (d : Decimal) :
    Nat.ofDigitChars 10 d.fraction (Nat.ofDigitChars 10 d.whole 0) = d.mantissa := by
  rw [← Nat.ofDigitChars_append, whole, fraction, List.take_append_drop, mantissa_eq]

theorem isDigit_fraction {d : Decimal} : ∀ c ∈ d.fraction, c.isDigit = true :=
  fun c hc => isDigit_digits c (List.mem_of_mem_drop hc)

/-- The digits of a decimal, with the point among them, are read as its mantissa and its
scale. -/
theorem readDigits_text (d : Decimal) (negative : Bool) :
    readDigits negative ⟨0, 0, false, false⟩ (d.whole ++ if d.fraction = [] then [] else
      '.' :: d.fraction) = ofParts? negative d.mantissa d.scale := by
  have hmantissa := d.ofDigitChars_fraction
  have hbound : d.mantissa < bound := d.mantissa_lt
  have hwhole : Nat.ofDigitChars 10 d.whole 0 < bound :=
    Nat.lt_of_le_of_lt (le_ofDigitChars d.fraction _) (hmantissa ▸ hbound)
  have hsome : (false || !d.whole.isEmpty) = true := by simp [d.whole_ne_nil]
  have hscale : d.scale = d.fraction.length := d.length_fraction.symm
  rw [readDigits_append negative d.whole _ _ isDigit_whole hwhole (by simp), hsome,
    if_neg Bool.false_ne_true]
  split
  · rename_i hnone
    rw [hnone] at hscale
    rw [hnone, Nat.ofDigitChars_nil] at hmantissa
    simp [readDigits, hscale, hmantissa]
  · have hpoint : digitValue? '.' = none := by decide
    have hplaces : 0 + d.fraction.length ≤ maxScale := by
      rw [Nat.zero_add, ← hscale]
      exact d.scale_le
    rw [readDigits, if_neg (by simp), hpoint]
    simp only [and_self, if_true]
    rw [← List.append_nil d.fraction,
      readDigits_append negative d.fraction [] _ isDigit_fraction (hmantissa ▸ hbound)
        (fun _ => hplaces)]
    simp [readDigits, hscale, hmantissa]

/-- A decimal is read from its text, with its digits behind the point; the sign of a zero is
lost. -/
theorem read?_text (d : Decimal) : read? d.text = some d.unsignZero := by
  have hplain : readPlain d.text.toList = some d.unsignZero := by
    rw [text_eq, ← ofParts?_unsignZero]
    cases hsign : d.negative with
    | true => exact readDigits_text d true
    | false =>
      rw [← readDigits_text d false, if_neg (by simp), List.nil_append]
      obtain ⟨c, rest, hwhole⟩ := List.exists_cons_of_ne_nil d.whole_ne_nil
      have hdigit : c.isDigit = true :=
        isDigit_whole c (by rw [hwhole]; exact List.mem_cons_self)
      rw [hwhole, List.cons_append]
      unfold readPlain
      split
      · rename_i hcons
        rw [(List.cons.inj hcons).1] at hdigit
        simp at hdigit
      · rename_i hcons
        rw [(List.cons.inj hcons).1] at hdigit
        simp at hdigit
      · rfl
  rw [read?, hplain]

/-- Of all decimals, only the negative zeros are not read from their texts. -/
theorem read?_text_iff (d : Decimal) :
    read? d.text = some d ↔ ¬ (d.negative = true ∧ d.isZero = true) := by
  rw [read?_text, Option.some_inj]
  obtain ⟨negative, mantissa, scale, hmantissa, hscale⟩ := d
  cases negative <;> simp [unsignZero, isZero]

end DocQuery.Decimal
