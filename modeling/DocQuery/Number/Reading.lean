import DocQuery.Number.Shortest
set_option autoImplicit false

/-!
# Number: the float of a decimal literal

The float nearest to `± digits · 10 ^ exponent`.  Literals whose magnitude is far outside the
range of floats are decided by it alone, so that no power of ten is formed for them.
-/

namespace DocQuery.Number

/-- Magnitudes from which on every decimal is beyond the largest float. -/
def overflowMagnitude : Int := 310

/-- Magnitudes below which every decimal rounds to zero. -/
def underflowMagnitude : Int := -400

/-- The float nearest to `digits · 10 ^ exponent`, infinite beyond the largest float. -/
def Scientific.toFloat (s : Scientific) : Float :=
  let magnitude := s.exponent + (Nat.toDigits 10 s.digits).length
  if s.digits = 0 ∨ magnitude < underflowMagnitude then 0.0
  else if overflowMagnitude < magnitude then 1.0 / 0.0
  else Float.ofScientific s.digits (s.exponent < 0) s.exponent.natAbs

/-- The float nearest to `± digits · 10 ^ exponent`; a zero keeps its sign. -/
def floatOf (negative : Bool) (s : Scientific) : Float :=
  if negative then -s.toFloat else s.toFloat

/-- The value of a list of decimal digits. -/
def ofDigits (cs : List Char) : Nat := Nat.ofDigitChars 10 cs 0

end DocQuery.Number
