import DocQuery.Number.Binary64
set_option autoImplicit false

/-!
# Number: the floor of a float

The float of the greatest integer that is not above a float.  It is computed in exact
arithmetic:  a float with a fraction has less than 53 bits in front of it, so that the integer
is a float itself.
-/

namespace DocQuery.Number

/-- The greatest integer that is not above a number. -/
def Binary64.floor (b : Binary64) : Int :=
  let m : Int := if b.negative then -b.mantissa else b.mantissa
  m * (Nat.pow 2 b.exponent.toNat : Nat) / (Nat.pow 2 (-b.exponent).toNat : Nat)

/-- The floor of a float.  Floats without binary places after the point are their own floor, and
so are infinities and undefined numbers.  Zeros keep their sign. -/
def floatFloor (x : Float) : Float :=
  match Binary64.ofFloat? x with
  | some b =>
    if 0 ≤ b.exponent then x
    else if b.negative then -Float.ofNat b.floor.natAbs
    else Float.ofNat b.floor.natAbs
  | none => x

end DocQuery.Number
