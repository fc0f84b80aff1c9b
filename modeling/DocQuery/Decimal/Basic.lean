set_option autoImplicit false

/-!
# Decimal: exact decimal numbers

A decimal is a sign, a mantissa of at most 96 bits and a number of fraction digits between 0 and
28. The number of fraction digits is kept:  `1.50` and `1.5` are different decimals of equal
    value.  The order compares values only.
-/

namespace DocQuery

/-- The decimal `± mantissa / 10 ^ scale`. -/
structure Decimal where
  negative : Bool
  mantissa : Nat
  scale : Nat
  mantissa_lt : mantissa < Nat.pow 2 96
  scale_le : scale ≤ 28
  deriving DecidableEq, Repr

namespace Decimal

/-- Mantissas lie below this number. -/
def bound : Nat := Nat.pow 2 96

/-- The most fraction digits of a decimal. -/
def maxScale : Nat := 28

/-- The decimal zero without fraction digits. -/
def zero : Decimal := ⟨false, 0, 0, by decide, by decide⟩

instance : Inhabited Decimal := ⟨zero⟩

/-- The decimal with given parts if they are in range, a zero with the sign that is given. -/
def withParts? (negative : Bool) (mantissa scale : Nat) : Option Decimal :=
  if h : mantissa < Nat.pow 2 96 ∧ scale ≤ 28 then some ⟨negative, mantissa, scale, h.1,
    h.2⟩ else none

/-- The decimal with given parts if they are in range.  A zero made this way has no sign. -/
def ofParts? (negative : Bool) (mantissa scale : Nat) : Option Decimal :=
  withParts? (negative && mantissa != 0) mantissa scale

/-- The decimal of an integer of 64 bits. -/
def ofInt64 (n : Int64) : Decimal :=
  (ofParts? (n.toInt < 0) n.toInt.natAbs 0).getD zero

/-- Whether the value is zero. -/
def isZero (d : Decimal) : Bool := d.mantissa == 0

/-- The mantissa with its sign. -/
def signed (d : Decimal) : Int := if d.negative then -(d.mantissa : Int) else d.mantissa

/-- The decimal with the opposite sign. -/
def negate (d : Decimal) : Decimal := { d with negative := !d.negative }

/-- The same decimal, but a zero loses its sign. -/
def unsignZero (d : Decimal) : Decimal := { d with negative := d.negative && d.mantissa != 0 }

/-- The order of the values; fraction digits do not count. -/
def compare (a b : Decimal) : Ordering :=
  Ord.compare (a.signed * Int.pow 10 b.scale) (b.signed * Int.pow 10 a.scale)

/-- Whether nothing but zeros stands behind the point. -/
def isIntegral (d : Decimal) : Bool := d.mantissa % Nat.pow 10 d.scale == 0

/-- The value of an integral decimal that fits into 64 bits. -/
def toInt64? (d : Decimal) : Option Int64 :=
  let n : Int := d.signed / Int.pow 10 d.scale
  if d.isIntegral ∧ Int64.minValue.toInt ≤ n ∧ n ≤ Int64.maxValue.toInt then
    some (Int64.ofInt n)
  else none

/-- The text of a decimal: its sign, at least one digit before the point and exactly `scale`
digits behind it. -/
def text (d : Decimal) : String :=
  let digits := Nat.toDigits 10 d.mantissa
  let padded := List.replicate (d.scale + 1 - digits.length) '0' ++ digits
  let whole := padded.take (padded.length - d.scale)
  let fraction := if d.scale = 0 then [] else '.' :: padded.drop (padded.length - d.scale)
  String.ofList ((if d.negative then ['-'] else []) ++ whole ++ fraction)

end Decimal

end DocQuery
