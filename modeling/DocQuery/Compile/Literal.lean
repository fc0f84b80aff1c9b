import DocQuery.Compile.Error
import DocQuery.Decimal.Reader
import DocQuery.Lookup.Basic
import DocQuery.Pattern.Escape
import DocQuery.Value.Order
set_option autoImplicit false

/-!
# Compile: literal values

A literal is brought to the type of the field that it is compared with, and protected so that it
is not read as a path or an operator.
-/

namespace DocQuery

namespace Value

/-- The operator whose argument is taken as it is. -/
def quote (v : Value) : Value := .operator "$literal" v

mutual

/-- A literal as an expression: texts that start like a path, and objects, are quoted. -/
def protect : Value → Value
  | .string s => if isOperatorName s then quote (.string s) else .string s
  | .object fields => quote (.object fields)
  | .array items => .array (protectItems items)
  | v => v

/-- The items of a literal array as expressions. -/
def protectItems : List Value → List Value
  | [] => []
  | v :: rest => protect v :: protectItems rest

end

/-- A literal as an expression that stands by itself: integers and arrays are quoted, too. -/
def protectAlone : Value → Value
  | .int n => quote (.int n)
  | .array items => quote (.array items)
  | v => protect v

/-- A value as one of a kind of fields, if there is one; null is one of every kind. -/
def ofKind? (kind : ScalarKind) (v : Value) : Option Value :=
  match kind, v with
  | _, .null => some .null
  | .json, v => some v
  | .integer, .int n => some (.int n)
  | .integer, .float x => if isIntegralFloat x then some (.int x.toInt64) else none
  | .float, .int n => some (.float (Number.floatOfInt n))
  | .float, .float x => some (.float x)
  | .float, .decimal d => some (.float d.toFloat)
  | .decimal, .int n => some (.decimal (Decimal.ofInt64 n))
  | .decimal, .float x => (Decimal.ofFloat? x).map .decimal
  | .decimal, .decimal d => some (.decimal d)
  | .decimal, .string s => (Decimal.read? s).map .decimal
  | .string, .string s => some (.string s)
  | .boolean, .bool b => some (.bool b)
  | _, _ => none

end Value

/-- A value of a kind, as messages name it. -/
def ScalarKind.article : ScalarKind → String
  | .integer => "an integer"
  | .float => "a float"
  | .decimal => "a decimal"
  | .string => "a string"
  | .boolean => "a boolean"
  | .json => "a value"

namespace Lookup

/-- The error for a value of a wrong shape. -/
def wrongShape (l : Lookup) (expected actual : String) : CompileError :=
  .valueShape l.name expected actual

/-- A literal compared with a field of a kind; any value if the field is no scalar. -/
def scalarLiteral (l : Lookup) (kind : Option ScalarKind) (v : Value) :
    Except CompileError Value :=
  match kind with
  | none => .ok v.protect
  | some k =>
    match v.ofKind? k with
    | some w => .ok w.protect
    | none => .error (l.wrongShape k.article v.typeName)

/-- The items of a literal list. -/
def scalarLiterals (l : Lookup) (kind : Option ScalarKind) :
    List Value → Except CompileError (List Value)
  | [] => .ok []
  | v :: rest =>
    match l.scalarLiteral kind v with
    | .error e => .error e
    | .ok w =>
      match scalarLiterals l kind rest with
      | .error e => .error e
      | .ok others => .ok (w :: others)

/-- A literal list. -/
def listLiteral (l : Lookup) (kind : Option ScalarKind) (items : List Value) :
    Except CompileError Value :=
  match l.scalarLiterals kind items with
  | .ok prepared => .ok (.array prepared)
  | .error e => .error e

/-- A literal as the value of a lookup. -/
def literal (l : Lookup) (kind : Option ScalarKind) (v : Value) : Except CompileError Value :=
  match l.arity, v with
  | .single, v => l.scalarLiteral kind v
  | .flag, .bool b => .ok (.bool b)
  | .flag, v => .error (l.wrongShape "a boolean" v.typeName)
  | .list, .array items => l.listLiteral kind items
  | .list, v => .error (l.wrongShape "a list" v.typeName)
  | .pair, .array [low, high] => l.listLiteral kind [low, high]
  | .pair, v => .error (l.wrongShape "a two-element list" v.typeName)
  | .pattern, .string s =>
    .ok (Value.protect (.string (if l.escapesLiterals then Pattern.escape s else s)))
  | .pattern, v => .error (l.wrongShape "a string" v.typeName)

end Lookup

end DocQuery
