import DocQuery.Decimal.Arithmetic
import DocQuery.Number.Binary64
set_option autoImplicit false

/-!
# Decimal: conversion from and to floats

A float is brought to a decimal by trading factors of two for factors of ten within 96 bits,
then cut to the 15 or 16 digits that a float vouches for.  Floats that agree so far are
therefore the same decimal.
-/

namespace DocQuery.Decimal

open DocQuery.Number

/-- Traces `m · 10 ^ ten · 5 ^ -five` to `five = 0`, for positive `five`: halves an even
mantissa, multiplies an odd one by five, and halves it with loss where there is no room. -/
def absorbFives : Nat → Nat → Int → Nat × Int
  | 0, m, ten => (m, ten)
  | five + 1, m, ten =>
    if m % 2 = 0 then absorbFives five (m / 2) (ten + 1)
    else if m * 5 < bound then absorbFives five (m * 5) ten
    else absorbFives five (m / 2) (ten + 1)

/-- The same for negative `five`, given by `missing`: doubles the mantissa while there is room,
then divides it by five with loss. -/
def supplyFives : Nat → Nat → Int → Option (Nat × Int)
  | 0, m, ten => some (m, ten)
  | missing + 1, m, ten =>
    if m < Nat.pow 2 95 then supplyFives missing (m * 2) (ten - 1)
    else if (missing : Int) + 1 < 2 * ten then none
    else supplyFives missing (m / 5) ten

/-- Multiplies positive powers of ten into the mantissa. -/
def raise : Nat → Nat → Option Nat
  | 0, m => some m
  | ten + 1, m => if m * 10 < bound then raise ten (m * 10) else none

/-- Rounds fraction digits away, half up, until there are at most 28. -/
def lowerScale : Nat → Nat → Nat → Nat × Nat
  | 0, m, scale => (m, scale)
  | fuel + 1, m, scale =>
    if scale ≤ maxScale then (m, scale)
    else if m / 10 = 0 then (0, 0)
    else lowerScale fuel (roundHalfUp m 10) (scale - 1)

/-- Rounds fraction digits away, half up, until the mantissa fits into 52 bits. -/
def cutPrecision : Nat → Nat → Nat × Nat
  | m, 0 => (m, 0)
  | m, scale + 1 =>
    if Nat.pow 2 52 ≤ m then cutPrecision (roundHalfUp m 10) scale else (m, scale + 1)

/-- Takes zeros off the end of the fraction. -/
def cutZeros : Nat → Nat → Nat × Nat
  | m, 0 => (m, 0)
  | m, scale + 1 => if m % 10 = 0 then cutZeros (m / 10) scale else (m, scale + 1)

/-- The decimal of `± m · 2 ^ e`, none if it has too many digits before the point.  The sign
stays, also that of a zero. -/
def ofBinary (b : Binary64) : Option Decimal :=
  if b.mantissa = 0 then withParts? b.negative 0 0
  else
    let traded :=
      if b.exponent ≤ 0 then some (absorbFives (-b.exponent).toNat b.mantissa b.exponent)
      else supplyFives b.exponent.toNat b.mantissa b.exponent
    match traded with
    | none => none
    | some (m, ten) =>
      match raise ten.toNat m with
      | none => none
      | some m =>
        let (m, scale) := lowerScale (-ten).toNat m (-ten).toNat
        let (m, scale) := cutPrecision m scale
        let (m, scale) := cutZeros m scale
        withParts? b.negative m scale

/-- The decimal of a float, none for infinities, undefined numbers and what is out of range. -/
def ofFloat? (x : Float) : Option Decimal :=
  match Binary64.ofFloat? x with
  | none => none
  | some b => ofBinary b

/-- The float nearest to a natural number. -/
def floatOfNat (n : Nat) : Float := Float.ofScientific n false 0

/-- The float of a decimal: whole and fraction are converted apart, and their sum is rounded to
the fraction digits of the decimal. -/
def toFloat (d : Decimal) : Float :=
  let sign := fun x : Float => if d.negative then -x else x
  if d.scale = 0 then
    if d.isZero then 0.0 else sign (floatOfNat d.mantissa)
  else
    let power := floatOfNat (Nat.pow 10 d.scale)
    let whole := floatOfNat (d.mantissa / Nat.pow 10 d.scale)
    let fraction := floatOfNat (d.mantissa % Nat.pow 10 d.scale) / power
    if fraction == 0.0 then sign whole
    else sign (((whole + fraction) * power).round / power)

end DocQuery.Decimal
