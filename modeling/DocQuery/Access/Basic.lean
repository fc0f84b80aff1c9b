import DocQuery.Schema.ValueType
import DocQuery.Value.Basic
set_option autoImplicit false

/-!
# Access: how a value is reached

An access starts at a stored column, at the current item of an array or at a computed column,
and goes on step by step.  It knows the type of what it reaches and is written as an expression.
-/

namespace DocQuery

/-- A way to a value. -/
inductive Access where
  /-- a column of the documents of a collection, or of a joined document -/
  | column (joined : Option String) (name : String) (type : ValueType)
  /-- the current item of an array -/
  | item (type : ValueType)
  /-- a computed column -/
  | computed (name : String) (type : ValueType)
  /-- a field of an embedded document -/
  | key (base : Access) (name : String) (type : ValueType)
  /-- a member of a value without declared fields -/
  | jsonKey (base : Access) (name : String) (type : ValueType)
  /-- the item at a position -/
  | index (base : Access) (position : Int64) (type : ValueType)
  /-- the items from a position up to another one -/
  | slice (base : Access) (start stop : Int64) (type : ValueType)
  /-- the number of items, null if there is no array -/
  | length (base : Access) (type : ValueType)
  /-- what another access reaches from each item -/
  | each (base : Access) (inner : Access)
  deriving DecidableEq, Repr

namespace Access

/-- The type of what an access reaches. -/
def type : Access → ValueType
  | .column _ _ t => t
  | .item t => t
  | .computed _ t => t
  | .key _ _ t => t
  | .jsonKey _ _ t => t
  | .index _ _ t => t
  | .slice _ _ _ t => t
  | .length _ t => t
  | .each _ inner => .mapped inner.type

/-- The expression for a field of what an expression evaluates to. -/
def fieldOf (input : Value) (name : String) : Value :=
  .operator "$getField" (.object [("input", input), ("field", .string name)])

/-- The expression for a field of an embedded document: a path goes on, anything else is asked
for its field. -/
def keyOf (base : Value) (name : String) : Value :=
  match base with
  | .string path => .string (path ++ "." ++ name)
  | input => fieldOf input name

/-- The expression for the number of items, null if there is no array. -/
def lengthOf (array : Value) : Value :=
  .operator "$cond" (.object
    [("if", .operator "$isArray" array), ("then", .operator "$size" array), ("else", .null)])

/-- The name of the variable of the current item. -/
def itemName : String := "item"

/-- The expression for what a body makes of each item; an empty array if there is none. -/
def mapOf (array body : Value) : Value :=
  .operator "$ifNull" (.array
    [.operator "$map" (.object [("input", array), ("as", .string itemName), ("in", body)]),
      .array []])

/-- The expression that evaluates to what an access reaches. -/
def render : Access → Value
  | .column (some joined) name _ => .string ("$" ++ joined ++ "." ++ name)
  | .column none name _ => .string ("$" ++ name)
  | .item _ => .string ("$$" ++ itemName)
  | .computed name _ => .string ("$" ++ name)
  | .key base name _ => keyOf base.render name
  | .jsonKey base name _ => fieldOf base.render name
  | .index base position _ => .operator "$arrayElemAt" (.array [base.render, .int position])
  | .slice base start stop _ =>
    .operator "$slice" (.array [base.render, .int start, .int (stop - start)])
  | .length base _ => lengthOf base.render
  | .each base inner => mapOf base.render inner.render

end Access

end DocQuery
