import DocQuery.Decimal.Arithmetic
import DocQuery.Text.Letter
set_option autoImplicit false

/-!
# Decimal: reading decimal texts

A decimal text is a sign, digits with at most one point and, if that alone is no decimal, an
exponent of ten behind `e` or `E`.  Underscores may separate digits.  Digits for which there is
no room behind the point are rounded away half up, and whatever follows the first of them is not
looked at.
-/

namespace DocQuery.Decimal

open DocQuery.Text
open DocQuery.Number

/-- The digits read so far. -/
structure Digits where
  mantissa : Nat
  scale : Nat
  /-- whether the point was read -/
  point : Bool
  /-- whether a digit was read -/
  some : Bool
  deriving DecidableEq, Repr

/-- Ends a number whose next fraction digit has no room: it is rounded half up, and when that
fills the range, one digit more. -/
def finishRounded (negative : Bool) (d : Digits) (c : Char) : Option Decimal :=
  match (if c = '_' ∨ c = '.' then Option.some 0 else digitValue? c) with
  | none => none
  | some digit =>
    let m := if 5 ≤ digit then d.mantissa + 1 else d.mantissa
    if m < bound then ofParts? negative m d.scale
    else if d.scale = 0 then none
    else ofParts? negative ((m + 4) / 10) (d.scale - 1)

/-- Reads digits to the end of the text. -/
def readDigits (negative : Bool) : Digits → List Char → Option Decimal
  | d, [] => if d.some then ofParts? negative d.mantissa d.scale else none
  | d, c :: rest =>
    if d.point ∧ maxScale ≤ d.scale then finishRounded negative d c
    else
      match digitValue? c with
      | some digit =>
        let m := d.mantissa * 10 + digit
        if m < bound then
          readDigits negative ⟨m, if d.point then d.scale + 1 else d.scale, d.point, true⟩ rest
        else if d.point then finishRounded negative d c
        else none
      | none =>
        if c = '.' ∧ d.point = false then readDigits negative { d with point := true } rest
        else if c = '_' ∧ d.some = true then readDigits negative d rest
        else none

/-- Reads a sign and digits. -/
def readPlain (cs : List Char) : Option Decimal :=
  match cs with
  | '-' :: rest => readDigits true ⟨0, 0, false, false⟩ rest
  | '+' :: rest => readDigits false ⟨0, 0, false, false⟩ rest
  | _ => readDigits false ⟨0, 0, false, false⟩ cs

/-- Reads a number without a sign, or with one plus sign, that fits into 32 bits. -/
def readNatural (cs : List Char) : Option Nat :=
  let digits := match cs with
    | '+' :: rest => rest
    | _ => cs
  if digits.isEmpty then none
  else
    match digits.mapM digitValue? with
    | none => none
    | some ds =>
      let n := ds.foldl (fun acc d => acc * 10 + d) 0
      if n < Nat.pow 2 32 then some n else none

/-- The decimal divided by a power of ten: its point moves to the left, and digits for which
there is no room are rounded away first. -/
def shiftDown (d : Decimal) (exponent : Nat) : Option Decimal :=
  if maxScale < exponent then none
  else if maxScale < d.scale + exponent then
    ofParts? d.negative (d.rescaleDown (maxScale - exponent)) maxScale
  else ofParts? d.negative d.mantissa (d.scale + exponent)

/-- The decimal times a power of ten: its point moves to the right, and beyond the last digit
the number grows and loses the zeros at the end of its fraction. -/
def shiftUp (d : Decimal) (exponent : Nat) : Option Decimal :=
  if exponent ≤ d.scale then ofParts? d.negative d.mantissa (d.scale - exponent)
  else if maxScale < exponent then none
  else
    match ofParts? false (Nat.pow 10 exponent) 0 with
    | none => none
    | some power =>
      match d.mul power with
      | none => none
      | some product => product.normalize

/-- Reads a plain decimal, a mark and an exponent. -/
def readScientific (cs : List Char) : Option Decimal :=
  let isMark := fun c : Char => c == 'e' || c == 'E'
  match cs.dropWhile (fun c => !isMark c) with
  | [] => none
  | _ :: exponent =>
    match readPlain (cs.takeWhile (fun c => !isMark c)) with
    | none => none
    | some base =>
      match exponent with
      | '-' :: digits =>
        match readNatural digits with
        | none => none
        | some n => shiftDown base n
      | _ =>
        match readNatural exponent with
        | none => none
        | some n => shiftUp base n

/-- Reads a decimal text. -/
def read? (s : String) : Option Decimal :=
  match readPlain s.toList with
  | some d => some d
  | none => readScientific s.toList

end DocQuery.Decimal
