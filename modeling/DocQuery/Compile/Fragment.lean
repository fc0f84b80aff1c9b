import DocQuery.Access.Basic
import DocQuery.Compile.Error
import DocQuery.Lookup.Basic
import DocQuery.Query.Basic
set_option autoImplicit false

/-!
# Compile: fragments of expressions

The expressions that the parts of a compiled query are put together from, and the types of
computed values.
-/

namespace DocQuery

namespace Value

/-- A conjunction: true if it is empty, and a single condition by itself. -/
def conjunction : List Value → Value
  | [] => .bool true
  | [v] => v
  | vs => .operator "$and" (.array vs)

/-- A disjunction: false if it is empty, and a single condition by itself. -/
def disjunction : List Value → Value
  | [] => .bool false
  | [v] => v
  | vs => .operator "$or" (.array vs)

/-- A negation. -/
def negation (v : Value) : Value := .operator "$not" (.array [v])

/-- A power of two. -/
def powerOfTwo (exponent : Value) : Value := .operator "$pow" (.array [.int 2, exponent])

/-- A branch of a case distinction. -/
def branch (condition result : Value) : Value := .object [("case", condition), ("then", result)]

/-- A case distinction; without branches it is its default. -/
def caseDistinction (branches : List Value) (otherwise : Value) : Value :=
  match branches with
  | [] => otherwise
  | bs => .operator "$switch" (.object [("branches", .array bs), ("default", otherwise)])

end Value

namespace Combination

/-- The expression for a combination of two expressions. -/
def combine : Combination → Value → Value → Value
  | .arithmetic op, a, b => .operator op.name (.array [a, b])
  | .bits op, a, b => .operator op.name (.array [a, b])
  | .leftShift, a, b => .operator "$multiply" (.array [a, Value.powerOfTwo b])
  | .rightShift, a, b =>
    .operator "$floor" (.operator "$divide" (.array [a, Value.powerOfTwo b]))

/-- Whether the result of a combination of integers may have a fraction. -/
def leavesIntegers : Combination → Bool
  | .arithmetic .divide => true
  | .arithmetic .power => true
  | _ => false

/-- The kind of a combination of values of two kinds: decimals prevail over floats, and floats
over integers; what is no number combines to any value. -/
def resultKind (op : Combination) : Option ScalarKind → Option ScalarKind → ScalarKind
  | some .decimal, some .decimal => .decimal
  | some .decimal, some .integer => .decimal
  | some .decimal, some .float => .decimal
  | some .integer, some .decimal => .decimal
  | some .float, some .decimal => .decimal
  | some .integer, some .integer => if op.leavesIntegers then .float else .integer
  | some .integer, some .float => .float
  | some .float, some .integer => .float
  | some .float, some .float => .float
  | _, _ => .json

end Combination

/-- The kind of a literal that stands by itself. -/
def Value.kind : Value → ScalarKind
  | .int _ => .integer
  | .float _ => .float
  | .decimal _ => .decimal
  | .string _ => .string
  | .bool _ => .boolean
  | _ => .json

namespace Lookup

/-- The expression for a lookup that holds for some item of an array. -/
def someItem (l : Lookup) (array inner : Access) (rhs : Value) : Value :=
  .operator "$anyElementTrue" (Access.mapOf array.render (l.build inner.render rhs))

/-- The expression for a lookup on what is read from each document of an array: a condition on
all items where the lookup is one, else one that some item fulfils. -/
def buildMapped (l : Lookup) (target : Access) (rhs : Value) : Except CompileError Value :=
  if l = .all ∨ l = .containedBy then .ok (l.build target.render rhs)
  else
    match target with
    | .each array inner => .ok (l.someItem array inner rhs)
    | _ => .error (.invalidPath l.name)

/-- The expression for a lookup. -/
def buildOn (l : Lookup) (target : Access) (rhs : Value) : Except CompileError Value :=
  if target.type.isMapped then l.buildMapped target rhs else .ok (l.build target.render rhs)

end Lookup

end DocQuery
