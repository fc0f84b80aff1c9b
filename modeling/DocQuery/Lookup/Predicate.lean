import DocQuery.Value.Basic
set_option autoImplicit false

/-!
# Lookup: predicates

The expressions that lookups are made of.  They are written so that values that are missing are
treated like null.
-/

namespace DocQuery.Value

/-- An operator on two operands. -/
def binary (operator : String) (a b : Value) : Value := .operator operator (.array [a, b])

/-- Whether an operand is missing or null, or the opposite. -/
def nullCheck (a : Value) (isNull : Bool) : Value :=
  let check : Value := .operator "$or" (.array
    [binary "$eq" (.operator "$type" a) (.string "missing"), binary "$eq" a .null])
  if isNull then check else .operator "$not" check

/-- A comparison that does not hold for operands that are missing or null. -/
def presentAnd (operator : String) (a b : Value) : Value :=
  .operator "$and" (.array [binary operator a b, nullCheck a false])

/-- The bounds of a range: the items of a pair, or a lower bound alone. -/
def boundsOf : Value → Value × Value
  | .array [low, high] => (low, high)
  | other => (other, .null)

/-- Whether an operand lies between bounds; a bound that is null does not count. -/
def rangeCheck (a bounds : Value) : Value :=
  let (low, high) := boundsOf bounds
  .operator "$and" (.array
    [.operator "$or" (.array [nullCheck low true, binary "$gte" a low]),
      .operator "$or" (.array [nullCheck high true, binary "$lte" a high])])

/-- Whether all items of `subset` are among those of the other list, neither being null.
`mapped` is always checked first. -/
def subsetCheck (mapped values subset superset : Value) : Value :=
  .operator "$and" (.array
    [binary "$ne" mapped .null, binary "$ne" values .null,
      .operator "$setIsSubset" (.array [subset, superset])])

/-! ## Patterns -/

/-- The text of a piece that is a literal: a string that is no path, or a quoted string. -/
def literalPiece? : Value → Option String
  | .string s => if isOperatorName s then none else some s
  | .object [("$literal", .string s)] => some s
  | _ => none

/-- The texts of pieces that are all literals, put together. -/
def literalPieces? : List Value → Option String
  | [] => some ""
  | piece :: rest =>
    match literalPiece? piece, literalPieces? rest with
    | some s, some t => some (s ++ t)
    | _, _ => none

/-- A literal string, quoted if it would be read as a path. -/
def literalText (s : String) : Value :=
  if isOperatorName s then .operator "$literal" (.string s) else .string s

/-- The pattern of pieces: a literal if all pieces are, else an expression that puts them
together. -/
def patternOf (pieces : List Value) : Value :=
  match literalPieces? pieces with
  | some s => literalText s
  | none =>
    match pieces with
    | [piece] => piece
    | _ => .operator "$concat" (.array pieces)

/-- Whether an input matches the pattern of pieces. -/
def patternCheck (input : Value) (pieces : List Value) (ignoreCase : Bool) : Value :=
  .operator "$regexMatch" (.object
    ([("input", input), ("regex", patternOf pieces)]
      ++ if ignoreCase then [("options", .string "i")] else []))

/-- The piece that matches the start of a text. -/
def startPiece : Value := .string "^"

/-- The piece that matches the end of a text. -/
def endPiece : Value := .operator "$literal" (.string "$")

end DocQuery.Value
