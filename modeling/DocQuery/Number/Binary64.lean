set_option autoImplicit false

/-!
# Number: the exact value of a float

A finite float is `± mantissa · 2 ^ exponent` for natural `mantissa`.  All texts and conversions
of floats start from this form, in exact arithmetic.
-/

namespace DocQuery.Number

/-- The number `± mantissa · 2 ^ exponent`. -/
structure Binary64 where
  negative : Bool
  mantissa : Nat
  exponent : Int
  deriving DecidableEq, Repr

namespace Binary64

/-- The exponent of the least positive float. -/
def leastExponent : Int := -1074

/-- The number that a bit pattern stands for, none for infinities and undefined numbers.  Normal
numbers have a mantissa of 53 bits, subnormal ones share the least exponent. -/
def ofBits? (bits : Nat) : Option Binary64 :=
  let negative := bits / Nat.pow 2 63 == 1
  let biased : Nat := bits / Nat.pow 2 52 % Nat.pow 2 11
  let fraction : Nat := bits % Nat.pow 2 52
  if biased = 2047 then none
  else if biased = 0 then some ⟨negative, fraction, leastExponent⟩
  else some ⟨negative, Nat.pow 2 52 + fraction, (biased : Int) - 1075⟩

/-- The exact value of a float, none for infinities and undefined numbers. -/
def ofFloat? (x : Float) : Option Binary64 := ofBits? x.toBits.toNat

end Binary64

/-- The float nearest to an integer. -/
def floatOfInt (n : Int64) : Float := Float.ofInt n.toInt

/-- Whether the sign bit of a float is set. -/
def isNegative (x : Float) : Bool := x.toBits.toNat / Nat.pow 2 63 == 1

end DocQuery.Number
