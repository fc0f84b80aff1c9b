import DocQuery.Number.Shortest
set_option autoImplicit false

/-!
# Number: the text of a float

Two notations for the shortest digits of a float.  `literal` is what documents print:  it always
shows that the number is a float, by a point or an exponent.  `plain` is what the conversion to
a string gives:  no exponent and no point that nothing follows.
-/

namespace DocQuery.Number

/-- Digits with the point `exponent` places after the last digit, padded with zeros on the side
where it is needed; `whole` is what a number without a fraction ends in. -/
def positional (digits : List Char) (exponent : Int) (whole : List Char) : List Char :=
  if 0 ≤ exponent then digits ++ List.replicate exponent.toNat '0' ++ whole
  else
    let places := (-exponent).toNat
    if places < digits.length then
      digits.take (digits.length - places) ++ '.' :: digits.drop (digits.length - places)
    else '0' :: '.' :: (List.replicate (places - digits.length) '0' ++ digits)

/-- Digits with one digit before the point and an exponent of ten after the mark `e`. -/
def exponential (digits : List Char) (exponent : Int) : List Char :=
  let magnitude := exponent + digits.length - 1
  let sign := if magnitude < 0 then ['-'] else []
  let point := if digits.length ≤ 1 then [] else ['.']
  digits.take 1 ++ point ++ digits.drop 1 ++ 'e' :: (sign ++ Nat.toDigits 10 magnitude.natAbs)

/-- The notation in which documents print floats, for the bounds between which a number is
written by position. -/
structure FloatNotation where
  /-- the least decimal magnitude written by position -/
  least : Int
  /-- the first decimal magnitude too large to be written by position -/
  large : Int
  deriving DecidableEq, Repr

/-- Documents print floats from `10 ^ -4` to below `10 ^ 16` by position. -/
def documentNotation : FloatNotation := ⟨-4, 16⟩

/-- The digits of a number without sign, a zero fraction kept where there is no exponent. -/
def FloatNotation.unsigned (n : FloatNotation) (s : Scientific) : List Char :=
  let digits := Nat.toDigits 10 s.digits
  let magnitude := s.exponent + digits.length - 1
  if s.digits = 0 then ['0', '.', '0']
  else if n.least ≤ magnitude ∧ magnitude < n.large then positional digits s.exponent ['.', '0']
  else exponential digits s.exponent

/-- The sign of a number in front of its digits. -/
def signed (negative : Bool) (digits : List Char) : String :=
  String.ofList (if negative then '-' :: digits else digits)

/-- A finite float as documents print it. -/
def literal (b : Binary64) : String :=
  signed b.negative (documentNotation.unsigned (shortest b))

/-- A float without exponent and without a fraction of zero. -/
def plain (x : Float) : String :=
  match Binary64.ofFloat? x with
  | some b =>
    let s := shortest b
    signed b.negative
      (if s.digits = 0 then ['0'] else positional (Nat.toDigits 10 s.digits) s.exponent [])
  | none => if x.isNaN then "NaN" else if isNegative x then "-inf" else "inf"

end DocQuery.Number
