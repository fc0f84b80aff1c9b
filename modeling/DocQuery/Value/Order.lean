import DocQuery.Value.Basic
import DocQuery.Decimal.Binary
set_option autoImplicit false

/-!
# Value: the order of values

Values that may be missing are ordered by type first:  missing, null, numbers, strings, objects,
arrays, booleans.  Numbers of all types are compared as decimals, strings by code points, arrays
item by item and objects member by member in their order, name before value; what is longer
comes last.
-/

namespace DocQuery.Value

/-- The place of a type in the order. -/
def rank : Value → Nat
  | .null => 1
  | .int _ => 2
  | .float _ => 2
  | .decimal _ => 2
  | .string _ => 3
  | .object _ => 4
  | .array _ => 5
  | .bool _ => 8

/-- A number as a decimal. -/
def toDecimal? : Value → Option Decimal
  | .int n => some (Decimal.ofInt64 n)
  | .float x => Decimal.ofFloat? x
  | .decimal d => some d
  | _ => none

/-- A number as a float. -/
def toFloat? : Value → Option Float
  | .int n => some (Number.floatOfInt n)
  | .float x => some x
  | .decimal d => some d.toFloat
  | _ => none

/-- The order of floats; an undefined number is equal to every float. -/
def compareFloats (x y : Float) : Ordering :=
  if x < y then .lt else if y < x then .gt else .eq

/-- The order of numbers: of decimals if both are decimals, else of floats. -/
def compareNumbers (a b : Value) : Ordering :=
  match a, b with
  | .int x, .int y => Ord.compare x.toInt y.toInt
  | _, _ =>
    match a.toDecimal?, b.toDecimal? with
    | some x, some y => x.compare y
    | _, _ =>
      match a.toFloat?, b.toFloat? with
      | some x, some y => compareFloats x y
      | _, _ => .eq

mutual

/-- The order of values. -/
def compare : Value → Value → Ordering
  | .string a, .string b => Ord.compare a b
  | .bool a, .bool b => Ord.compare a b
  | .array a, .array b => compareItems a b
  | .object a, .object b => compareFields a b
  | a, b =>
    if a.isNumber && b.isNumber then compareNumbers a b else Ord.compare a.rank b.rank

/-- The order of arrays. -/
def compareItems : List Value → List Value → Ordering
  | [], [] => .eq
  | [], _ :: _ => .lt
  | _ :: _, [] => .gt
  | a :: as, b :: bs => (compare a b).then (compareItems as bs)

/-- The order of objects. -/
def compareFields : List (String × Value) → List (String × Value) → Ordering
  | [], [] => .eq
  | [], _ :: _ => .lt
  | _ :: _, [] => .gt
  | (j, a) :: as, (k, b) :: bs =>
    (Ord.compare j k).then ((compare a b).then (compareFields as bs))

end

/-- The order of values that may be missing; what is missing comes first. -/
def compare? : Option Value → Option Value → Ordering
  | none, none => .eq
  | none, some _ => .lt
  | some _, none => .gt
  | some a, some b => compare a b

/-- Whether two values have the same place in the order. -/
def equal (a b : Value) : Bool := compare a b == .eq

end DocQuery.Value
