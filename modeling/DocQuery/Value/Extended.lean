import DocQuery.Decimal.Reader
import DocQuery.Json.Basic
import DocQuery.Number.Reading
import DocQuery.Value.Printer
set_option autoImplicit false

/-!
# Value: conversion from and to JSON trees

JSON has no decimals:  an object whose only member is `$numberDecimal` with the text of a
decimal is one.  Integer literals of 64 bits with sign are integers, all other numbers are
floats.
-/

namespace DocQuery.Value

/-- The value of an integer literal. -/
def ofInteger (n : Int) : Value :=
  if Int64.minValue.toInt ≤ n ∧ n ≤ Int64.maxValue.toInt then .int (Int64.ofInt n)
  else .float (Number.floatOf (n < 0) ⟨n.natAbs, 0⟩)

/-- An object, or the decimal that it stands for. -/
def ofFields (fields : Document) : Value :=
  match fields with
  | [(key, .string s)] =>
    if key = decimalKey then
      match Decimal.read? s with
      | some d => .decimal d
      | none => .object fields
    else .object fields
  | _ => .object fields

mutual

/-- The value of a JSON tree. -/
def ofJson : Json → Value
  | .null => .null
  | .bool b => .bool b
  | .int n => ofInteger n
  | .float x => .float x
  | .string s => .string s
  | .broken => .null
  | .array items => .array (ofJsonItems items)
  | .object members => ofFields (Document.ofList (ofJsonMembers members))

/-- The values of items. -/
def ofJsonItems : List Json → List Value
  | [] => []
  | j :: rest => ofJson j :: ofJsonItems rest

/-- The values of members. -/
def ofJsonMembers : List (String × Json) → List (String × Value)
  | [] => []
  | (name, j) :: rest => (name, ofJson j) :: ofJsonMembers rest

end

mutual

/-- The JSON tree of a value; numbers that are not finite become null. -/
def toJson : Value → Json
  | .null => .null
  | .bool b => .bool b
  | .int n => .int n.toInt
  | .float x => if x.isFinite then .float x else .null
  | .decimal d => .object [(decimalKey, .string d.text)]
  | .string s => .string s
  | .array items => .array (toJsonItems items)
  | .object fields => .object (toJsonMembers fields)

/-- The JSON trees of items. -/
def toJsonItems : List Value → List Json
  | [] => []
  | v :: rest => toJson v :: toJsonItems rest

/-- The JSON trees of members. -/
def toJsonMembers : List (String × Value) → List (String × Json)
  | [] => []
  | (name, v) :: rest => (name, toJson v) :: toJsonMembers rest

end

end DocQuery.Value
