import DocQuery.Number.Binary64
set_option autoImplicit false

/-!
# Number: the fewest digits that read back

The shortest decimal `digits · 10 ^ exponent` among those that lie closer to a float than to its
neighbours, and of the shortest ones the nearest to the float.  The search runs over the decimal
grids from one digit to seventeen and looks at the two grid points beside the value, in exact
arithmetic.
-/

namespace DocQuery.Number

/-- The decimal `digits · 10 ^ exponent`. -/
structure Scientific where
  digits : Nat
  exponent : Int
  deriving DecidableEq, Repr

/-- The reals that read as one float, as multiples of `1 / scale`: from `low` to `high` around
`value`, the ends included if `closed`. -/
structure Neighbourhood where
  low : Nat
  value : Nat
  high : Nat
  scale : Nat
  closed : Bool
  deriving DecidableEq, Repr

namespace Neighbourhood

/-- The neighbourhood of a positive float.  Below a power of two the next float is half as far
away; the ends read as the float whose mantissa is even. -/
def ofBinary (b : Binary64) : Neighbourhood :=
  let below := if b.mantissa = Nat.pow 2 52 ∧ Binary64.leastExponent < b.exponent then 1 else 2
  let up := Nat.pow 2 (b.exponent - 2).toNat
  { low := (4 * b.mantissa - below) * up
    value := 4 * b.mantissa * up
    high := (4 * b.mantissa + 2) * up
    scale := Nat.pow 2 (2 - b.exponent).toNat
    closed := b.mantissa % 2 == 0 }

/-- Whether `digits · 10 ^ exponent` reads as the float. -/
def contains (n : Neighbourhood) (s : Scientific) : Bool :=
  let x := s.digits * Nat.pow 10 s.exponent.toNat * n.scale
  let p := Nat.pow 10 (-s.exponent).toNat
  if n.closed then n.low * p ≤ x && x ≤ n.high * p else n.low * p < x && x < n.high * p

/-- The multiple of `10 ^ exponent` at or below the value. -/
def floorAt (n : Neighbourhood) (exponent : Int) : Nat :=
  n.value * Nat.pow 10 (-exponent).toNat / (n.scale * Nat.pow 10 exponent.toNat)

/-- Whether the value lies strictly nearer to `digits · 10 ^ exponent` than to the next
multiple. -/
def nearerBelow (n : Neighbourhood) (digits : Nat) (exponent : Int) : Bool :=
  2 * n.value * Nat.pow 10 (-exponent).toNat < (2 * digits + 1) * (n.scale * Nat.pow 10
    exponent.toNat)

/-- The grid point beside the value that reads as the float, the nearer one if both do; a tie
goes up. -/
def candidate (n : Neighbourhood) (exponent : Int) : Option Scientific :=
  let below : Scientific := ⟨n.floorAt exponent, exponent⟩
  let above : Scientific := ⟨n.floorAt exponent + 1, exponent⟩
  match n.contains below, n.contains above with
  | true, true => some (if n.nearerBelow below.digits exponent then below else above)
  | true, false => some below
  | false, true => some above
  | false, false => none

/-- The first candidate on the grids `10 ^ exponent`, `10 ^ (exponent - 1)`, … -/
def search (n : Neighbourhood) : Nat → Int → Scientific
  | 0, exponent => ⟨n.floorAt exponent, exponent⟩
  | fuel + 1, exponent =>
    match n.candidate exponent with
    | some s => s
    | none => search n fuel (exponent - 1)

end Neighbourhood

/-- The same number without zeros at the end of its digits. -/
def Scientific.normalize (s : Scientific) : Nat → Scientific
  | 0 => s
  | fuel + 1 =>
    if s.digits % 10 = 0 ∧ s.digits ≠ 0 then
      Scientific.normalize ⟨s.digits / 10, s.exponent + 1⟩ fuel
    else s

/-- An exponent of ten at which the value has at most one digit: the binary magnitude times an
upper bound for the logarithm of two. -/
def decimalMagnitude (b : Binary64) : Int :=
  ((Nat.log2 b.mantissa : Int) + b.exponent + 1) * 30103 / 100000 + 1

/-- The shortest decimal that reads as a float, zero for zero. -/
def shortest (b : Binary64) : Scientific :=
  if b.mantissa = 0 then ⟨0, 0⟩
  else ((Neighbourhood.ofBinary b).search 24 (decimalMagnitude b)).normalize 24

end DocQuery.Number
