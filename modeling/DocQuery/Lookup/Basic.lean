import DocQuery.Lookup.Predicate
import DocQuery.Schema.ValueType
set_option autoImplicit false

/-!
# Lookup: comparisons at the end of a path

A lookup compares what a path leads to with a value.  It has a name, takes a value of a certain
shape, and makes sense for values of certain types.
-/

namespace DocQuery

/-- A comparison of a path with a value. -/
inductive Lookup where
  | exact
  | iexact
  | gt
  | gte
  | lt
  | lte
  | «in»
  | range
  | isnull
  | contains
  | icontains
  | startswith
  | istartswith
  | endswith
  | iendswith
  | regex
  | iregex
  /-- every value is among the items of an array -/
  | all
  /-- every item of an array is among the values -/
  | containedBy
  deriving DecidableEq, Repr

/-- The shape of the value of a lookup. -/
inductive Arity where
  /-- one value of the type of the field -/
  | single
  /-- a list of values, or an expression for one -/
  | list
  /-- two bounds, each of which may be null -/
  | pair
  /-- a truth value -/
  | flag
  /-- a pattern -/
  | pattern
  deriving DecidableEq, Repr

namespace Lookup

/-- The name of a lookup. -/
def name : Lookup → String
  | .exact => "exact"
  | .iexact => "iexact"
  | .gt => "gt"
  | .gte => "gte"
  | .lt => "lt"
  | .lte => "lte"
  | .in => "in"
  | .range => "range"
  | .isnull => "isnull"
  | .contains => "contains"
  | .icontains => "icontains"
  | .startswith => "startswith"
  | .istartswith => "istartswith"
  | .endswith => "endswith"
  | .iendswith => "iendswith"
  | .regex => "regex"
  | .iregex => "iregex"
  | .all => "all"
  | .containedBy => "contained_by"

/-- The lookup of a name. -/
def ofName? : String → Option Lookup
  | "exact" => some .exact
  | "iexact" => some .iexact
  | "gt" => some .gt
  | "gte" => some .gte
  | "lt" => some .lt
  | "lte" => some .lte
  | "in" => some .in
  | "range" => some .range
  | "isnull" => some .isnull
  | "contains" => some .contains
  | "icontains" => some .icontains
  | "startswith" => some .startswith
  | "istartswith" => some .istartswith
  | "endswith" => some .endswith
  | "iendswith" => some .iendswith
  | "regex" => some .regex
  | "iregex" => some .iregex
  | "all" => some .all
  | "contained_by" => some .containedBy
  | _ => none

theorem ofName?_name (l : Lookup) : ofName? l.name = some l := by
  cases l <;> rfl

/-- The shape of the value of a lookup. -/
def arity : Lookup → Arity
  | .exact => .single
  | .gt => .single
  | .gte => .single
  | .lt => .single
  | .lte => .single
  | .in => .list
  | .all => .list
  | .containedBy => .list
  | .range => .pair
  | .isnull => .flag
  | _ => .pattern

/-- Whether a literal value is matched as it is, although the lookup takes a pattern. -/
def escapesLiterals (l : Lookup) : Bool :=
  l.arity == .pattern && l != .regex && l != .iregex

/-- The predicate that compares an expression with a value. -/
def build (l : Lookup) (a b : Value) : Value :=
  match l with
  | .exact => Value.binary "$eq" a b
  | .iexact => Value.patternCheck a [Value.startPiece, b, Value.endPiece] true
  | .gt => Value.binary "$gt" a b
  | .gte => Value.binary "$gte" a b
  | .lt => Value.presentAnd "$lt" a b
  | .lte => Value.presentAnd "$lte" a b
  | .in => Value.binary "$in" a b
  | .range => Value.rangeCheck a b
  | .isnull => Value.nullCheck a b.isTruthy
  | .contains => Value.patternCheck a [b] false
  | .icontains => Value.patternCheck a [b] true
  | .startswith => Value.patternCheck a [Value.startPiece, b] false
  | .istartswith => Value.patternCheck a [Value.startPiece, b] true
  | .endswith => Value.patternCheck a [b, Value.endPiece] false
  | .iendswith => Value.patternCheck a [b, Value.endPiece] true
  | .regex => Value.patternCheck a [b] false
  | .iregex => Value.patternCheck a [b] true
  | .all => Value.subsetCheck a b b a
  | .containedBy => Value.subsetCheck a b a b

/-! ## Types -/

/-- The lookups of numbers. -/
def numeric : List Lookup := [.exact, .gt, .gte, .lt, .lte, .in, .range, .isnull]

/-- The lookups of texts and of values of any type. -/
def textual : List Lookup :=
  [.exact, .iexact, .gt, .gte, .lt, .lte, .in, .range, .isnull, .contains,
    .icontains, .startswith, .istartswith, .endswith, .iendswith, .regex, .iregex]

/-- The lookups of truth values. -/
def boolean : List Lookup := [.exact, .in, .isnull]

/-- The lookups of embedded documents. -/
def embedded : List Lookup := [.exact, .isnull]

/-- The lookups that some array takes. -/
def mapped : List Lookup := [.exact, .iexact, .gt, .gte, .lt, .lte, .in, .all, .containedBy]

/-- The lookups of scalars of a kind. -/
def ofScalar : ScalarKind → List Lookup
  | .integer => numeric
  | .float => numeric
  | .decimal => numeric
  | .string => textual
  | .json => textual
  | .boolean => boolean

/-- The lookups of an array whose items take given lookups: those, as far as arrays take them at
all, and those on the array as a whole. -/
def mappedOf (element : List Lookup) : List Lookup :=
  mapped.filter fun l => l == .all || l == .containedBy || element.contains l

/-- The lookups that values of a type take, in order. -/
def allowed : ValueType → List Lookup
  | .scalar k => ofScalar k
  | .embedded _ => embedded
  | .embeddedArray _ => []
  | .mapped (.embedded _) => mappedOf mapped
  | .mapped (.scalar .json) => mappedOf mapped
  | .mapped element => mappedOf (allowed element)

end Lookup

end DocQuery
