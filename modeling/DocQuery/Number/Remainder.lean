import DocQuery.Number.Binary64
set_option autoImplicit false

/-!
# Number: the remainder of floats

The remainder of the division that rounds towards zero, computed exactly: it is always a float
itself.
-/

namespace DocQuery.Number

/-- The remainder of the magnitudes of two exact numbers, in units of the smaller of their
binary places. -/
def Binary64.rem (a b : Binary64) : Nat × Int :=
  let place := min a.exponent b.exponent
  let m := a.mantissa * Nat.pow 2 (a.exponent - place).toNat
  let n := b.mantissa * Nat.pow 2 (b.exponent - place).toNat
  (m % n, place)

/-- The remainder of two floats.  It has the sign of the dividend, also if it is zero. -/
def floatRem (x y : Float) : Float :=
  match Binary64.ofFloat? x, Binary64.ofFloat? y with
  | some a, some b =>
    if b.mantissa = 0 then 0.0 / 0.0
    else
      let (m, place) := a.rem b
      let r := (Float.ofNat m).scaleB place
      if a.negative then -r else r
  | some _, none => if y.isNaN then y else x
  | none, _ => 0.0 / 0.0

end DocQuery.Number
