import DocQuery.Decimal.Arithmetic
import DocQuery.Execution.Error
import DocQuery.Number.Remainder
import DocQuery.Value.Order
set_option autoImplicit false

/-!
# Execution: arithmetic on values

Integers are computed exactly as long as the result has 64 bits.  Otherwise, and for operands of
other types, the operation is one of decimals if an operand is a decimal and the result is in
range, and one of floats in all other cases.  Division of integers is a division of floats.
-/

namespace DocQuery

open DocQuery.Number

/-- An arithmetic operation. -/
inductive Arithmetic where
  | add
  | subtract
  | multiply
  | divide
  | modulo
  | power
  deriving DecidableEq, Repr

namespace Arithmetic

/-- The name of the operator. -/
def name : Arithmetic → String
  | .add => "$add"
  | .subtract => "$subtract"
  | .multiply => "$multiply"
  | .divide => "$divide"
  | .modulo => "$mod"
  | .power => "$pow"

/-- The 64-bit integer of an integer, if it is in range. -/
def toInt64? (n : Int) : Option Int64 :=
  if Int64.minValue.toInt ≤ n ∧ n ≤ Int64.maxValue.toInt then some (Int64.ofInt n) else none

/-- Exponents lie below this number; integers are not raised to larger ones. -/
def exponentBound : Nat := Nat.pow 2 32

/-- A power of an integer, if it is in range.  From a magnitude of two on, exponents of 64 and
more lead out of range. -/
def power? (base : Int) (exponent : Nat) : Option Int64 :=
  if exponentBound ≤ exponent then none
  else if base.natAbs ≤ 1 then
    toInt64? (if exponent = 0 then 1 else if exponent % 2 = 0 then base * base else base)
  else if 64 ≤ exponent then none
  else toInt64? (Int.pow base exponent)

/-- The operation on integers, none where the result is no integer of 64 bits. -/
def onInts (op : Arithmetic) (x y : Int64) : Except ExecError (Option Int64) :=
  match op with
  | .add => .ok (toInt64? (x.toInt + y.toInt))
  | .subtract => .ok (toInt64? (x.toInt - y.toInt))
  | .multiply => .ok (toInt64? (x.toInt * y.toInt))
  | .divide => .ok none
  | .modulo =>
    if y = 0 then .error .divisionByZero
    else if y = -1 ∧ x = Int64.minValue then .error .overflow
    else .ok (toInt64? (x.toInt.tmod y.toInt))
  | .power => .ok (if 0 ≤ y.toInt then power? x.toInt y.toInt.toNat else none)

/-- The operation on decimals, none where the result is out of range. -/
def onDecimals (op : Arithmetic) (x y : Decimal) : Except ExecError (Option Decimal) :=
  match op with
  | .add => .ok (x.add y)
  | .subtract => .ok (x.sub y)
  | .multiply => .ok (x.mul y)
  | .divide => if y.isZero then .error .divisionByZero else .ok (x.div y)
  | .modulo => if y.isZero then .error .divisionByZero else .ok (x.rem y)
  | .power => .ok none

/-- The operation on floats. -/
def onFloats (op : Arithmetic) (x y : Float) : Except ExecError Float :=
  match op with
  | .add => .ok (x + y)
  | .subtract => .ok (x - y)
  | .multiply => .ok (x * y)
  | .divide => if y == 0.0 then .error .divisionByZero else .ok (x / y)
  | .modulo => if y == 0.0 then .error .divisionByZero else .ok (floatRem x y)
  | .power => .ok (x.pow y)

/-- The fault of operands that are no numbers. -/
def fault (op : Arithmetic) (a b : Value) : ExecError :=
  .typeError (.arithmetic op.name a.typeName b.typeName)

/-- The operation on numbers as floats. -/
def asFloats (op : Arithmetic) (a b : Value) : Except ExecError Value :=
  match a.toFloat?, b.toFloat? with
  | some x, some y => (op.onFloats x y).map .float
  | _, _ => .error (op.fault a b)

/-- Whether a value is a decimal. -/
def isDecimal : Value → Bool
  | .decimal _ => true
  | _ => false

/-- The operation on operands that are not both integers, or whose integer result is out of
range. -/
def onNumbers (op : Arithmetic) (a b : Value) : Except ExecError Value :=
  if isDecimal a || isDecimal b then
    match a.toDecimal?, b.toDecimal? with
    | some x, some y =>
      match op.onDecimals x y with
      | .error e => .error e
      | .ok (some d) => .ok (.decimal d)
      | .ok none => op.asFloats a b
    | _, _ => .error (op.fault a b)
  else op.asFloats a b

/-- The operation on values. -/
def apply (op : Arithmetic) (a b : Value) : Except ExecError Value :=
  match a, b with
  | .int x, .int y =>
    match op.onInts x y with
    | .error e => .error e
    | .ok (some n) => .ok (.int n)
    | .ok none => op.onNumbers a b
  | _, _ => op.onNumbers a b

theorem toInt64?_eq_some {n : Int} {x : Int64} (h : toInt64? n = some x) : x.toInt = n := by
  simp only [toInt64?] at h
  split at h
  · rename_i hn
    cases h
    exact Int64.toInt_ofInt_of_le hn.1 (Int.lt_add_one_iff.mpr hn.2)
  · simp at h

end Arithmetic

end DocQuery
