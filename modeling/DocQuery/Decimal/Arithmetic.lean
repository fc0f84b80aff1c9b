import DocQuery.Decimal.Basic
import DocQuery.Number.Rounding
set_option autoImplicit false

/-!
# Decimal: arithmetic

Every operation computes exactly and then brings the result into range by dropping as few
fraction digits as possible, rounding half to even.  `none` means that no decimal is close
enough:  the result has too many digits before the point.
-/

namespace DocQuery.Decimal

open DocQuery.Number

/-! ## Bringing a result into range -/

/-- The least number of digits, up to `limit`, that have to go for a mantissa to be in range. -/
def excess : Nat → Nat → Nat
  | 0, _ => 0
  | limit + 1, m => if m < bound then 0 else excess limit (m / 10) + 1

/-- The decimal nearest to `± m / 10 ^ scale` among those with as many fraction digits as the
range allows.  Rounding up to the bound itself costs one more digit.  The sign stays when
rounding leaves nothing but zeros. -/
def fit (negative : Bool) (m scale : Nat) : Option Decimal :=
  let dropped := max (scale - maxScale) (excess scale m)
  let rounded := roundHalfEven m (Nat.pow 10 dropped)
  if rounded < bound then withParts? negative rounded (scale - dropped)
  else if scale - dropped = 0 then none
  else withParts? negative (roundHalfEven rounded 10) (scale - dropped - 1)

/-! ## Sums and products -/

/-- The sum, with the larger number of fraction digits.  A zero operand leaves the other one as
it is. -/
def add (a b : Decimal) : Option Decimal :=
  if a.isZero then some b
  else if b.isZero then some a
  else
    let scale := max a.scale b.scale
    let sum := a.signed * Int.pow 10 (scale - a.scale) + b.signed * Int.pow 10 (scale - b.scale)
    fit (sum < 0) sum.natAbs scale

/-- The difference, with the larger number of fraction digits.  A zero operand leaves the other
one as it is, up to the sign. -/
def sub (a b : Decimal) : Option Decimal :=
  if a.isZero then some (if b.isZero then b else b.negate)
  else if b.isZero then some a
  else
    let scale := max a.scale b.scale
    let difference := a.signed * Int.pow 10 (scale - a.scale) - b.signed * Int.pow 10
      (scale - b.scale)
    fit (difference < 0) difference.natAbs scale

/-- Whether the mantissa takes no more than 32 bits. -/
def isNarrow (d : Decimal) : Bool := d.mantissa < Nat.pow 2 32

/-- Fraction digits beyond which a product of two narrow decimals is plain zero. -/
def vanishingScale : Nat := 47

/-- The product, with the fraction digits of both operands as far as they fit.  A product by
zero is plain zero.  One that is rounded to zero keeps its sign, unless both operands are
narrow. -/
def mul (a b : Decimal) : Option Decimal :=
  let scale := a.scale + b.scale
  let product := fit (a.negative != b.negative) (a.mantissa * b.mantissa) scale
  if a.isZero || b.isZero then some zero
  else if a.isNarrow && b.isNarrow then
    if vanishingScale < scale then some zero else product.map unsignZero
  else product

/-! ## Quotients -/

/-- A quotient on its way: digits found so far, the remainder and the fraction digits, which may
still be missing. -/
structure Quotient where
  digits : Nat
  remainder : Nat
  scale : Int
  /-- whether digits were appended for the sake of the remainder -/
  extended : Bool
  deriving DecidableEq, Repr

/-- The largest number of digits up to `limit` by which a mantissa can grow within its range. -/
def room (m : Nat) : Nat → Nat
  | 0 => 0
  | limit + 1 => if m * Nat.pow 10 (limit + 1) < bound then limit + 1 else room m limit

/-- The most digits that division appends at a time. -/
def stride : Nat := 9

/-- A quotient that grew to the bound loses a digit again, rounded half to even; `inexact` says
that something is cut off behind it. -/
def shrink (q : Quotient) (inexact : Bool) : Option Quotient :=
  if q.scale < 1 then none
  else
    let r := q.digits % 10
    let half := r == 5 && (inexact || q.digits / 10 % 2 == 1)
    some { q with
      digits := if 5 < r || half then q.digits / 10 + 1 else q.digits / 10
      scale := q.scale - 1 }

/-- Rounds the digits half to even by what the remainder of a division by `divisor` is worth. -/
def roundOff (divisor : Nat) (q : Quotient) : Option Quotient :=
  let up := divisor < 2 * q.remainder || (2 * q.remainder == divisor && q.digits % 2 == 1)
  let next := if up then { q with digits := q.digits + 1 } else q
  if next.digits < bound then some next else shrink next true

/-- One round of division: how a quotient goes on, `inl` if it is finished.  Missing fraction
digits are appended as zeros, a remainder is divided further as long as there is room. -/
def divideOn (divisor : Nat) (q : Quotient) : Option (Quotient ⊕ Quotient) :=
  if q.remainder = 0 then
    if 0 ≤ q.scale then some (.inl q)
    else
      let p := min stride (-q.scale).toNat
      if q.digits * Nat.pow 10 p < bound then
        some (.inr { q with digits := q.digits * Nat.pow 10 p, scale := q.scale + p })
      else none
  else
    let p := room q.digits (min stride (maxScale - q.scale).toNat)
    if p < stride ∧ q.scale + p < 0 then none
    else if p = 0 then (roundOff divisor { q with extended := true }).map .inl
    else
      let more := q.remainder * Nat.pow 10 p
      let next : Quotient :=
        { digits := q.digits * Nat.pow 10 p + more / divisor
          remainder := more % divisor
          scale := q.scale + p
          extended := true }
      if next.digits < bound then some (.inr next)
      else (shrink next (next.remainder != 0)).map .inl

/-- Division to the end.  Every round appends a digit, so there are at most as many rounds as
there are scales. -/
def divideFully (divisor : Nat) : Nat → Quotient → Option Quotient
  | 0, _ => none
  | fuel + 1, q =>
    match divideOn divisor q with
    | none => none
    | some (.inl done) => some done
    | some (.inr next) => divideFully divisor fuel next

/-- Takes `count` zeros off the end if they are there and are fraction digits. -/
def strip (count : Nat) (m scale : Nat) : Nat × Nat :=
  if count ≤ scale ∧ m % Nat.pow 10 count = 0 then (m / Nat.pow 10 count,
    scale - count) else (m, scale)

/-- Takes zeros off the end by eights, as long as the low 32 bits are zero. -/
def stripEights : Nat → Nat → Nat → Nat × Nat
  | 0, m, scale => (m, scale)
  | fuel + 1, m, scale =>
    if m % Nat.pow 2 32 = 0 ∧ 8 ≤ scale ∧ m % Nat.pow 10 8 = 0 then
      stripEights fuel (m / Nat.pow 10 8) (scale - 8)
    else (m, scale)

/-- Takes zeros off the end of a quotient: by eights, then four, two and one of them, each tried
once and only where the low bits allow it. -/
def stripZeros (m scale : Nat) : Nat × Nat :=
  let (m, scale) := stripEights 4 m scale
  let (m, scale) := if m % 16 = 0 then strip 4 m scale else (m, scale)
  let (m, scale) := if m % 4 = 0 then strip 2 m scale else (m, scale)
  if m % 2 = 0 then strip 1 m scale else (m, scale)

/-- The quotient by a decimal other than zero, to as many digits as there is room for. -/
def div (a b : Decimal) : Option Decimal :=
  if a.isZero then some zero
  else
    let start : Quotient :=
      ⟨a.mantissa / b.mantissa, a.mantissa % b.mantissa, (a.scale : Int) - b.scale, false⟩
    match divideFully b.mantissa 64 start with
    | none => none
    | some q =>
      let (m, scale) :=
        if q.extended then stripZeros q.digits q.scale.toNat else (q.digits, q.scale.toNat)
      ofParts? (a.negative != b.negative) m scale

/-- The remainder of the division that rounds towards zero, by a decimal other than zero.  It
has the sign of the dividend. -/
def rem (a b : Decimal) : Option Decimal :=
  let scale := max a.scale b.scale
  let x := a.mantissa * Nat.pow 10 (scale - a.scale)
  let y := b.mantissa * Nat.pow 10 (scale - b.scale)
  if a.isZero ∨ x = y then some zero
  else if x < y then some a
  else ofParts? a.negative (x % y) scale

/-- The whole part of a decimal with a fraction stays within the mantissa, also when it is one
more. -/
theorem wholePart_lt {mantissa scale : Nat} (up : Bool) (hs : scale ≠ 0)
    (hm : mantissa < Nat.pow 2 96) :
    (if up then mantissa / Nat.pow 10 scale + 1 else mantissa / Nat.pow 10 scale) <
        Nat.pow 2 96 := by
  have hlarge : 1 < Nat.pow 2 96 := by decide
  have hw : mantissa / Nat.pow 10 scale ≤ mantissa := Nat.div_le_self _ _
  split
  · have hpow : 10 ≤ Nat.pow 10 scale := Nat.le_self_pow hs 10
    have hle : mantissa / Nat.pow 10 scale * 10 ≤ mantissa :=
      Nat.le_trans (Nat.mul_le_mul_left _ hpow) (Nat.div_mul_le_self _ _)
    omega
  · omega

/-- The largest integer at or below the value. -/
def floor (d : Decimal) : Decimal :=
  if hs : d.scale = 0 then d
  else
    let up := d.negative && d.mantissa % Nat.pow 10 d.scale != 0
    ⟨d.negative, if up then d.mantissa / Nat.pow 10 d.scale + 1 else d.mantissa / Nat.pow
      10 d.scale, 0, wholePart_lt up hs d.mantissa_lt, zero.scale_le⟩

/-- Brings a decimal to fewer fraction digits, rounding half away from zero. -/
def rescaleDown (d : Decimal) (scale : Nat) : Nat :=
  if d.scale ≤ scale then d.mantissa * Nat.pow 10 (scale - d.scale)
  else roundHalfUp d.mantissa (Nat.pow 10 (d.scale - scale))

/-- The decimal without the zeros at the end of its fraction; a zero has no fraction at all. -/
def normalizeFrom (negative : Bool) : Nat → Nat → Option Decimal
  | m, 0 => ofParts? negative m 0
  | m, scale + 1 =>
    if m % 10 = 0 then normalizeFrom negative (m / 10) scale else ofParts?
      negative m (scale + 1)

/-- The decimal of the same value without zeros at the end of its fraction. -/
def normalize (d : Decimal) : Option Decimal := normalizeFrom d.negative d.mantissa d.scale

end DocQuery.Decimal
