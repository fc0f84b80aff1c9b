import DocQuery.Compile.Basic
import DocQuery.Proofs.FloatValues
import DocQuery.Proofs.IntegerArithmetic
set_option autoImplicit false

/-!
# Proofs: shifts to the right

A shift to the right is compiled to the floor of a quotient by a power of two.  Its type says
that it is an integer, but quotients of integers are floats, and so are their floors.  The float
is the mathematical result for integers of up to 53 binary digits.  Longer integers are rounded
to so many digits before they are shifted.
-/

namespace DocQuery

open Operator (found)
open Number (floatOfInt floatFloor floatValue? nearest)

namespace Value

variable {a b : Value} {scope : Scope} {x n p : Int64} {k : Nat}

/-- Powers of two that have 64 bits with the sign are integers. -/
theorem eval_powerOfTwo (hb : b.eval scope = found (.int n)) (hn : 0 ≤ n.toInt)
    (hn' : n.toInt ≤ 62) :
    ∃ p : Int64, p.toInt = 2 ^ n.toInt.toNat ∧ (powerOfTwo b).eval scope = found (.int p) := by
  have hpower : (2 : Int) ^ n.toInt.toNat ≤ 2 ^ 62 := pow_le_pow_right₀ (by decide) (by omega)
  have hpositive : (0 : Int) < 2 ^ n.toInt.toNat := by positivity
  have hp : (Int64.ofInt (2 ^ n.toInt.toNat)).toInt = 2 ^ n.toInt.toNat :=
    Int64.toInt_ofInt_of_le (by omega) (by omega)
  refine ⟨_, hp, (Arithmetic.eval_ints .power (x := 2) rfl hb).trans ?_⟩
  rw [Arithmetic.apply_eq_int_iff.mpr ⟨?_, ?_, ?_⟩]
  · rfl
  · rw [hp]
    exact if_pos hn
  · rintro ⟨-, hlong⟩
    exact absurd (hlong.trans hn') (by decide)
  · rintro ⟨hmodulo, -⟩
    cases hmodulo

/-- Quotients of integers are floats. -/
theorem eval_quotient (ha : a.eval scope = found (.int x)) (hb : b.eval scope = found (.int p))
    (hp : p.toInt = 2 ^ k) (hk : k < 64) :
    (operator "$divide" (.array [a, b])).eval scope =
        found (.float (floatOfInt x / Float.ofNat (2 ^ k))) := by
  obtain ⟨power, hpower, -⟩ := Number.exists_two_pow hk
  have hfloat : floatOfInt p = Float.ofNat (2 ^ k) := by
    have hnatural : (2 : Int) ^ k = Int.ofNat (2 ^ k) := by simp
    rw [floatOfInt, hp, hnatural]
    rfl
  have hnonzero : ¬ (Float.ofNat (2 ^ k) == 0.0) = true := by
    rw [hpower, power.toFloat_ne_zero]
    exact Bool.false_ne_true
  refine (Arithmetic.eval_ints .divide ha hb).trans ?_
  rw [Arithmetic.apply_ints, Arithmetic.onNumbers_ints, hfloat]
  simp only [Arithmetic.onInts, Arithmetic.onFloats, if_neg hnonzero]
  rfl

end Value

namespace Compiler

variable {c : Compiler} {ctx ctx₁ ctx₂ : Context} {left right : Expr} {a b : Value}
  {s t : ValueType} {scope : Scope}
  {x n : Int64}

/-- A shift of integers to the right.  It is declared to be an integer, but evaluates to a
float.  This is the floor of the quotient of the integer, rounded to 53 binary digits, and the
power of two.  Integers of no more digits are not rounded. -/
theorem right_shift_evaluates (hleft : c.compileExpr ctx left = .ok ((a, s), ctx₁))
    (hright : c.compileExpr ctx₁ right = .ok ((b, t), ctx₂)) (hs : s.scalar? = some .integer)
    (ht : t.scalar? = some .integer) (ha : a.eval scope = found (.int x))
    (hb : b.eval scope = found (.int n))
    (hn : 0 ≤ n.toInt) (hn' : n.toInt ≤ 62) :
    ∃ e f, c.compileExpr ctx (.combined .rightShift left right) =
      .ok ((e, .scalar .integer), ctx₂) ∧ e.eval scope = found (.float f) ∧
      floatValue? f = some ((nearest x.toInt / 2 ^ n.toInt.toNat : Int) : ℚ) ∧
      (x.toInt.natAbs ≤ 2 ^ 53 → nearest x.toInt = x.toInt) := by
  have hk : n.toInt.toNat < 64 := by omega
  have hx : x.toInt.natAbs < 2 ^ 64 := by
    have := x.le_toInt
    have := x.toInt_lt
    omega
  obtain ⟨p, hp, hpower⟩ := Value.eval_powerOfTwo hb hn hn'
  have hquotient := Value.eval_quotient ha hpower hp hk
  refine ⟨Combination.rightShift.combine a b, floatFloor (floatOfInt x / Float.ofNat
    (2 ^ n.toInt.toNat)), ?_, ?_, Number.floatValue?_floor_div hx hk, Number.nearest_eq_self⟩
  · simp only [compileExpr, hleft, hright, hs, ht]
    rfl
  · exact Value.eval_operator_one .floor rfl hquotient

/-- Amounts in units. -/
def unitAmount : Model :=
    ⟨"Amount", some "amounts", false,
    [Model.primaryKey, ⟨"units", .scalar .integer, false, none⟩]⟩

/-- A compiler for amounts in units. -/
def unitAmounts : Compiler := ⟨⟨[unitAmount]⟩, .usual⟩

/-- A small number of units is shifted to the float of the result, and the largest number to the
float two instead of one. -/
theorem amount_shifts :
    (∃ e f, unitAmounts.compileExpr (.ofModel unitAmount) (.combined .rightShift
      (.field "units") (.literal (.int 1))) = .ok ((e, .scalar .integer), .ofModel unitAmount) ∧
      e.evalOn (.object [("units", .int (-5))]) = found (.float f) ∧
        floatValue? f = some (-3)) ∧
    (∃ e f, unitAmounts.compileExpr (.ofModel unitAmount) (.combined .rightShift
      (.field "units") (.literal (.int 62))) = .ok ((e, .scalar .integer),
      .ofModel unitAmount) ∧ e.evalOn (.object [("units", .int Int64.maxValue)]) =
      found (.float f) ∧ floatValue? f = some 2) := by
  have hunits : unitAmounts.compileExpr (.ofModel unitAmount) (.field "units") =
      .ok ((.string "$units", .scalar .integer), .ofModel unitAmount) := rfl
  have hread : ∀ n : Int64, (Value.string "$units").eval ⟨.object [("units", .int n)], []⟩ =
    found (.int n) := fun n => by cbv
  have hliteral : ∀ n : Int64, unitAmounts.compileExpr (.ofModel unitAmount)
    (.literal (.int n)) = .ok ((Value.quote (.int n), .scalar .integer), .ofModel unitAmount) :=
    fun _ => by simp only [compileExpr]; rfl
  obtain ⟨e, f, he, hf, hvalue, -⟩ := right_shift_evaluates hunits (hliteral 1) rfl
    rfl (hread (-5)) (Value.eval_quote _ _) (by decide) (by decide)
  obtain ⟨e', f', he', hf', hvalue', -⟩ := right_shift_evaluates hunits (hliteral 62) rfl rfl
    (hread Int64.maxValue) (Value.eval_quote _ _) (by decide) (by decide)
  have hsmall : nearest (Int64.toInt (-5)) / 2 ^ (Int64.toInt 1).toNat = -3 := by decide
  have hlarge : nearest Int64.maxValue.toInt / 2 ^ (Int64.toInt 62).toNat = 2 := by decide
  rw [hsmall] at hvalue
  rw [hlarge] at hvalue'
  exact ⟨⟨e, f, he, hf, hvalue⟩, e', f', he', hf', hvalue'⟩

end Compiler

end DocQuery
