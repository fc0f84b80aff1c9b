import DocQuery.Proofs.Evaluation
import Mathlib.Algebra.Order.Ring.Int
import Mathlib.Algebra.Ring.Parity
set_option autoImplicit false

/-!
# Proofs: arithmetic on integers

An operation on integers gives its mathematical result where this has 64 bits, and a float where
it has more.  Two kinds of operands are left out:  exponents of more than 32 bits, whose powers
are always floats, and the smallest integer with the divisor `-1`, whose remainder cannot be
computed as the quotient has more than 64 bits.
-/

namespace DocQuery

open Operator (found)

namespace Arithmetic

variable {op : Arithmetic} {x y z : Int64} {n : Int}

/-! ## Mathematical results -/

/-- The mathematical result of an operation on integers, with remainders truncated toward zero.
None for quotients and for powers with negative exponents, which may have a fraction, and for
remainders of divisions by zero. -/
def result? (op : Arithmetic) (x y : Int) : Option Int :=
  match op with
  | .add => some (x + y)
  | .subtract => some (x - y)
  | .multiply => some (x * y)
  | .divide => none
  | .modulo => if y = 0 then none else some (x.tmod y)
  | .power => if 0 ≤ y then some (x ^ y.toNat) else none

/-- Whether an operation raises to a power whose exponent has more than 32 bits. -/
def HasLongExponent (op : Arithmetic) (y : Int64) : Prop :=
    op = .power ∧ (exponentBound : Int) ≤ y.toInt

instance (op : Arithmetic) (y : Int64) : Decidable (op.HasLongExponent y) :=
  inferInstanceAs (Decidable (op = .power ∧ (exponentBound : Int) ≤ y.toInt))

/-- Whether an operation is the remainder of the one division of integers whose quotient has
more than 64 bits. -/
def HasLongQuotient (op : Arithmetic) (x y : Int64) : Prop :=
    op = .modulo ∧ y = -1 ∧ x = Int64.minValue

instance (op : Arithmetic) (x y : Int64) : Decidable (op.HasLongQuotient x y) :=
  inferInstanceAs (Decidable (op = .modulo ∧ y = -1 ∧ x = Int64.minValue))

theorem toInt64?_eq_some_iff : toInt64? n = some z ↔ z.toInt = n := by
  refine ⟨toInt64?_eq_some, ?_⟩
  rintro rfl
  rw [toInt64?, if_pos ⟨Int64.minValue_le_toInt z, Int64.toInt_le z⟩, Int64.ofInt_toInt]

theorem toInt64?_eq_none (h : ∀ z : Int64, z.toInt ≠ n) : toInt64? n = none :=
  Option.eq_none_iff_forall_ne_some.mpr fun z hz => h z (toInt64?_eq_some hz)

theorem toInt_ne_zero (h : y ≠ 0) : y.toInt ≠ 0 := fun hzero => h (Int64.toInt_inj.mp hzero)

/-! ## Powers -/

/-- Powers of zero, one and minus one only depend on whether the exponent is zero, even or
odd. -/
theorem pow_of_natAbs_le_one {base : Int} (h : base.natAbs ≤ 1) (exponent : Nat) :
    base ^ exponent = if exponent = 0 then 1 else if exponent % 2 = 0 then
        base * base else base := by
  have hbase : base = 0 ∨ base = 1 ∨ base = -1 := by omega
  by_cases hzero : exponent = 0
  · simp [hzero]
  · rw [if_neg hzero]
    rcases hbase with rfl | rfl | rfl
    · simp [hzero]
    · simp
    · split
      · rename_i heven
        exact Even.neg_one_pow (Nat.even_iff.mpr heven)
      · rename_i hodd
        exact Odd.neg_one_pow (Nat.odd_iff.mpr (by omega))

/-- From a magnitude of two on, exponents of 64 and more lead out of range. -/
theorem toInt64?_pow_eq_none {base : Int} {exponent : Nat} (hbase : 1 < base.natAbs)
    (hexponent : 64 ≤ exponent) : toInt64? (base ^ exponent) = none := by
  refine toInt64?_eq_none fun z hz => ?_
  have hlarge : 2 ^ 64 ≤ (base ^ exponent).natAbs := by
    rw [Int.natAbs_pow]
    calc 2 ^ 64 ≤ 2 ^ exponent := Nat.pow_le_pow_right (by decide) hexponent
      _ ≤ base.natAbs ^ exponent := Nat.pow_le_pow_left hbase exponent
  have hlow := Int64.le_toInt z
  have hhigh := Int64.toInt_lt z
  rw [hz] at hlow hhigh
  omega

theorem power?_eq (base : Int) {exponent : Nat} (h : exponent < exponentBound) :
    power? base exponent = toInt64? (base ^ exponent) := by
  unfold power?
  rw [if_neg (by omega)]
  split
  · rename_i hsmall
    rw [pow_of_natAbs_le_one hsmall]
  · split
    · rename_i hlarge hexponent
      rw [toInt64?_pow_eq_none (by omega) hexponent]
    · rfl

/-! ## Operations on integers -/

/-- A remainder is as small as the divisor, and so has 64 bits. -/
theorem exists_toInt_eq_tmod (x : Int64) (hy : y ≠ 0) :
    ∃ z : Int64, z.toInt = x.toInt.tmod y.toInt := by
  have hnonzero := toInt_ne_zero hy
  have hlow := Int64.le_toInt y
  have hhigh := Int64.toInt_lt y
  have habs := Int.natAbs_tmod x.toInt y.toInt
  have hless := Nat.mod_lt x.toInt.natAbs (show 0 < y.toInt.natAbs by omega)
  refine ⟨Int64.ofInt (x.toInt.tmod y.toInt), Int64.toInt_ofInt_of_le ?_ ?_⟩ <;> omega

theorem onInts_eq (op : Arithmetic) (x y : Int64) :
    op.onInts x y =
      if op = .modulo ∧ y = 0 then .error .divisionByZero
      else if op.HasLongQuotient x y then .error .overflow
      else .ok (if op.HasLongExponent y then none else (op.result? x.toInt y.toInt).bind
          toInt64?) := by
  cases op with
  | add | subtract | multiply | divide =>
    simp [onInts, result?, HasLongQuotient, HasLongExponent]
  | modulo =>
    by_cases hzero : y = 0
    · simp [onInts, hzero]
    · simp [onInts, result?, HasLongQuotient, HasLongExponent, hzero, toInt_ne_zero hzero]
  | power =>
    rw [if_neg (by simp), if_neg (by simp [HasLongQuotient])]
    by_cases hlong : HasLongExponent .power y
    · have hexponent : exponentBound ≤ y.toInt.toNat := by
        have := hlong.2
        omega
      have hnatural : 0 ≤ y.toInt := le_trans (by decide) hlong.2
      simp only [onInts, if_pos hlong, if_pos hnatural, power?, if_pos hexponent]
    · rw [if_neg hlong]
      by_cases hnatural : 0 ≤ y.toInt
      · have hexponent : y.toInt.toNat < exponentBound := by
          have hshort : ¬ (exponentBound : Int) ≤ y.toInt := fun h => hlong ⟨rfl, h⟩
          omega
        simp only [onInts, result?, if_pos hnatural, power?_eq x.toInt hexponent,
          Option.bind_some]
      · simp only [onInts, result?, if_neg hnatural, Option.bind_none]

theorem onNumbers_ints (op : Arithmetic) (x y : Int64) :
    op.onNumbers (.int x) (.int y) = (op.onFloats (Number.floatOfInt x) (Number.floatOfInt
      y)).map .float := rfl

/-- The operation on floats never gives an integer, nor does it fail but for divisions by
zero. -/
theorem onNumbers_ints_ne (op : Arithmetic) (x y z : Int64) :
    op.onNumbers (.int x) (.int y) ≠ .ok (.int z) ∧ op.onNumbers (.int x) (.int y) ≠
        .error .overflow := by
  rw [onNumbers_ints]
  cases op <;> simp only [onFloats] <;> (try split) <;> simp [Except.map]

theorem apply_ints (op : Arithmetic) (x y : Int64) :
    op.apply (.int x) (.int y) =
      match op.onInts x y with
      | .error e => .error e
      | .ok (some n) => .ok (.int n)
      | .ok none => op.onNumbers (.int x) (.int y) := rfl

/-- The result is an integer just if it is the mathematical one, but for the operands that are
left out. -/
theorem apply_eq_int_iff :
    op.apply (.int x) (.int y) = .ok (.int z) ↔
      op.result? x.toInt y.toInt = some z.toInt ∧ ¬ op.HasLongExponent y ∧
          ¬ op.HasLongQuotient x y := by
  rw [apply_ints, onInts_eq]
  by_cases hzero : op = .modulo ∧ y = 0
  · obtain ⟨rfl, rfl⟩ := hzero
    simp [result?]
  rw [if_neg hzero]
  by_cases hquotient : op.HasLongQuotient x y
  · simp [hquotient]
  rw [if_neg hquotient]
  by_cases hexponent : op.HasLongExponent y
  · simp [hexponent, (onNumbers_ints_ne op x y z).1]
  rw [if_neg hexponent]
  cases hresult : (op.result? x.toInt y.toInt).bind toInt64? with
  | none =>
    simp only [(onNumbers_ints_ne op x y z).1, false_iff]
    rintro ⟨hz, -⟩
    rw [hz, Option.bind_some] at hresult
    simp [toInt64?_eq_some_iff.mpr rfl] at hresult
  | some result =>
    obtain ⟨n, hn, hfits⟩ := Option.bind_eq_some_iff.mp hresult
    simp only [hn, ← toInt64?_eq_some hfits, Except.ok.injEq, Value.int.injEq,
      Option.some.injEq, Int64.toInt_inj, hquotient, hexponent, not_false_eq_true, and_true]

/-- A result of more than 64 bits, and a power with a long exponent, is a float. -/
theorem exists_apply_eq_float (hresult : op.result? x.toInt y.toInt = some n)
    (hlong : (∀ z : Int64, z.toInt ≠ n) ∨ op.HasLongExponent y) :
    ∃ f, op.onFloats (Number.floatOfInt x) (Number.floatOfInt y) = .ok f ∧
      op.apply (.int x) (.int y) = .ok (.float f) := by
  have hmodulo : op ≠ .modulo := by
    rintro rfl
    by_cases hzero : y = 0
    · simp [result?, hzero] at hresult
    · obtain ⟨z, hz⟩ := exists_toInt_eq_tmod x hzero
      simp only [result?, if_neg (toInt_ne_zero hzero), Option.some.injEq] at hresult
      rcases hlong with hwide | ⟨hpower, -⟩
      · exact hwide z (hz.trans hresult)
      · cases hpower
  have hnone : op.onInts x y = .ok none := by
    rw [onInts_eq, if_neg (fun h => hmodulo h.1), if_neg (fun h => hmodulo h.1)]
    split
    · rfl
    · rename_i hshort
      rw [hresult, Option.bind_some, toInt64?_eq_none (hlong.resolve_right hshort)]
  obtain ⟨f, hf⟩ : ∃ f, op.onFloats (Number.floatOfInt x) (Number.floatOfInt y) = .ok f := by
    cases op with
    | add | subtract | multiply | power => exact ⟨_, rfl⟩
    | divide => simp [result?] at hresult
    | modulo => exact absurd rfl hmodulo
  refine ⟨f, hf, ?_⟩
  rw [apply_ints, hnone]
  simp only [onNumbers_ints, hf, Except.map]

theorem apply_zero (hop : op = .modulo ∨ op = .divide) :
    op.apply (.int x) (.int 0) = .error .divisionByZero := by
  rcases hop with rfl | rfl
  · rfl
  · have hzero : (Number.floatOfInt 0 == 0.0) = true := by decide
    simp only [apply_ints, onInts, onNumbers_ints, onFloats, hzero, if_true, Except.map]

/-- Only the remainder of the division with a long quotient cannot be computed. -/
theorem apply_eq_overflow_iff :
    op.apply (.int x) (.int y) = .error .overflow ↔ op.HasLongQuotient x y := by
  rw [apply_ints, onInts_eq]
  by_cases hzero : op = .modulo ∧ y = 0
  · obtain ⟨rfl, rfl⟩ := hzero
    simp [HasLongQuotient]
  rw [if_neg hzero]
  by_cases hquotient : op.HasLongQuotient x y
  · simp [hquotient]
  simp only [hquotient, iff_false]
  split
  · simp_all
  · simp
  · exact (onNumbers_ints_ne op x y 0).2

/-! ## Expressions -/

theorem eval_ints (op : Arithmetic) {a b : Value} {scope : Scope}
    (ha : a.eval scope = found (.int x)) (hb : b.eval scope = found (.int y)) :
    (Value.operator op.name (.array [a, b])).eval scope =
        (op.apply (.int x) (.int y)).map some :=
  Value.eval_operator_pair (.arithmetic op) ha hb

/-- Arithmetic on expressions that evaluate to integers.  The result is an integer just if this
is the mathematical result and the operands are none of those that are left out.  Where the
mathematical result has more than 64 bits or the exponent more than 32, the result is a float.
Quotients and remainders of divisions by zero fail as such, and the overflow of a division is
the failure of the remainder with the long quotient alone. -/
theorem integers_computed_exactly (op : Arithmetic) {a b : Value} {scope : Scope}
    (ha : a.eval scope = found (.int x)) (hb : b.eval scope = found (.int y)) :
    (∀ z : Int64, (Value.operator op.name (.array [a, b])).eval scope = found (.int z) ↔
        op.result? x.toInt y.toInt = some z.toInt ∧ ¬ op.HasLongExponent y ∧
          ¬ op.HasLongQuotient x y) ∧
      (∀ n, op.result? x.toInt y.toInt = some n →
        ((∀ z : Int64, z.toInt ≠ n) ∨ op.HasLongExponent y) →
        ∃ f, op.onFloats (Number.floatOfInt x) (Number.floatOfInt y) = .ok f ∧
          (Value.operator op.name (.array [a, b])).eval scope = found (.float f)) ∧
      (op = .modulo ∨ op = .divide → y = 0 →
        (Value.operator op.name (.array [a, b])).eval scope = .error .divisionByZero) ∧
      ((Value.operator op.name (.array [a, b])).eval scope = .error .overflow ↔
          op.HasLongQuotient x y) := by
  rw [eval_ints op ha hb]
  refine ⟨fun z => ?_, fun n hresult hlong => ?_, fun hop hzero => ?_, ?_⟩
  · rw [← apply_eq_int_iff, found]
    cases op.apply (.int x) (.int y) <;> simp [Except.map]
  · obtain ⟨f, hf, hfloat⟩ := exists_apply_eq_float hresult hlong
    exact ⟨f, hf, by rw [hfloat]; rfl⟩
  · rw [hzero, apply_zero hop]
    rfl
  · rw [← apply_eq_overflow_iff]
    cases op.apply (.int x) (.int y) <;> simp [Except.map]

/-- Powers in range and out of range, a power whose exponent has 33 bits, a remainder, and a
division and a remainder that fail. -/
theorem smallest_operands_computed :
    (Value.operator "$pow" (.array [.int (-2), .int 63])).evalOn .null =
      found (.int Int64.minValue) ∧
      (∃ f, (Value.operator "$pow" (.array [.int 2, .int 63])).evalOn .null =
        found (.float f)) ∧ (∃ f,
        (Value.operator "$pow" (.array [.int 1, .int 4294967296])).evalOn .null =
        found (.float f)) ∧ (Value.operator "$mod" (.array [.int (-7), .int 4])).evalOn .null =
      found (.int (-3)) ∧ (Value.operator "$divide" (.array [.int 7, .int 0])).evalOn .null =
      .error .divisionByZero ∧
      (Value.operator "$mod" (.array [.int Int64.minValue, .int (-1)])).evalOn .null =
      .error .overflow := by
  have hint : ∀ n : Int64, (Value.int n).eval ⟨.null, []⟩ = found (.int n) := fun _ => rfl
  have hrange : ∀ z : Int64, z.toInt ≠ 2 ^ 63 := fun z => by
    have := Int64.toInt_lt z
    omega
  obtain ⟨hsmall, -⟩ := integers_computed_exactly .power (hint (-2)) (hint 63)
  obtain ⟨-, hlarge, -⟩ := integers_computed_exactly .power (hint 2) (hint 63)
  obtain ⟨-, hlong, -⟩ := integers_computed_exactly .power (hint 1) (hint 4294967296)
  obtain ⟨hremainder, -⟩ := integers_computed_exactly .modulo (hint (-7)) (hint 4)
  obtain ⟨-, -, hzero, -⟩ := integers_computed_exactly .divide (hint 7) (hint 0)
  obtain ⟨-, -, -, hoverflow⟩ := integers_computed_exactly .modulo
    (hint Int64.minValue) (hint (-1))
  refine ⟨(hsmall _).mpr (by decide), ?_, ?_, (hremainder _).mpr (by decide),
    hzero (.inr rfl) rfl, hoverflow.mpr (by decide)⟩
  · obtain ⟨f, -, hf⟩ := hlarge (2 ^ 63) (by decide) (.inl hrange)
    exact ⟨f, hf⟩
  · obtain ⟨f, -, hf⟩ := hlong (1 ^ 4294967296) rfl (.inr (by decide))
    exact ⟨f, hf⟩

end Arithmetic

end DocQuery
