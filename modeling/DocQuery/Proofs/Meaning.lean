import DocQuery.Query.Basic
import DocQuery.Resolve.Basic
import DocQuery.Value.Order
set_option autoImplicit false

/-!
# Proofs: what filters on documents mean

The direct reading of a filter:  a path is followed from field to field in the document, as the
schema declares them, and the lookup at its end is a test on the value that stands there.
Nothing here knows expressions, stages or the compiler.

A value that is null counts as missing.
-/

namespace DocQuery

namespace Value

/-! ## Values that are there -/

/-- A value that is there: null counts as missing. -/
def present : Option Value → Option Value
  | some .null => none
  | v => v

/-- What a document holds in a column. -/
def columnOf (doc : Option Value) (column : String) : Option Value :=
  present (doc.bind fun d => d.field? column)

/-- The items of an array, none if there is no array. -/
def itemsOf : Option Value → List Value
  | some (.array items) => items
  | _ => []

/-- The item at a position. -/
def nth (n : Nat) (v : Option Value) : Option Value := present (itemsOf v)[n]?

/-- The items from a position up to another one, if there is an array. -/
def between (start stop : Nat) : Option Value → Option Value
  | some (.array items) => some (.array ((items.drop start).take (stop - start)))
  | _ => none

/-- The number of items, if there is an array. -/
def lengthOf : Option Value → Option Value
  | some (.array items) => some (.ofNat items.length)
  | _ => none

/-- Whether a value is one of a kind of fields; null is of no kind. -/
def isOfKind : ScalarKind → Value → Bool
  | .integer, .int _ => true
  | .float, .float _ => true
  | .decimal, .decimal _ => true
  | .string, .string _ => true
  | .boolean, .bool _ => true
  | .json, v => !v.isNull
  | _, _ => false

/-- Whether a value is a truth value. -/
def isBool : Value → Bool
  | .bool _ => true
  | _ => false

/-- The values that a literal list names. -/
def listed (v : Value) : List Value := v.items?.getD []

end Value

/-! ## Documents of a model -/

namespace Schema

open Value

mutual

/-- Whether a value is as a type declares it: null, or of the declared kind, with every declared
column of every document in it missing, null or of its declared kind. -/
def conforms (s : Schema) : ValueType → Value → Bool
  | _, .null => true
  | .scalar kind, v => v.isOfKind kind
  | .embedded model, .object fields =>
    match s.model? model with
    | some m => membersConform s m fields
    | none => false
  | .embeddedArray model, .array items => itemsConform s model items
  | _, _ => false

/-- The same for the items of an array of documents. -/
def itemsConform (s : Schema) (model : String) : List Value → Bool
  | [] => true
  | v :: rest => conforms s (.embedded model) v && itemsConform s model rest

/-- The same for the members of a document, as far as they are declared. -/
def membersConform (s : Schema) (m : Model) : List (String × Value) → Bool
  | [] => true
  | (name, v) :: rest =>
    ((m.fields.filter fun f => f.column == name).all fun f => conforms s (.ofField f.kind) v)
      && membersConform s m rest

end

/-- Whether the names of all stored columns can stand in a path of an expression as they are. -/
def hasPlainColumns (s : Schema) : Bool :=
  s.models.all fun m => m.columns.all fun c => !c.toList.contains '.' && !c.toList.contains '$'

end Schema

/-! ## Paths -/

/-- What a path of names reads from a document: one value, or one value from each item of an
array. -/
inductive Route where
  | one (type : ValueType) (read : Value → Option Value)
  /-- `read` is applied to each item of what `source` reads -/
  | each (source : Value → Option Value) (type : ValueType) (read : Value → Option Value)

namespace Schema

open Value

/-- The field of a name in an embedded model. -/
def fieldIn? (s : Schema) (model name : String) : Option Field :=
  (s.model? model).bind fun m => m.field? name

/-- Where a name leads from a value of a type, and what is read there: a field of a document, or
the length, an item or a part of an array. -/
def narrow (s : Schema) (type : ValueType) (name : String) :
    Option (ValueType × (Option Value → Option Value)) :=
  match type with
  | .embedded model =>
    (s.fieldIn? model name).map fun f => (.ofField f.kind, fun v => columnOf v f.column)
  | .embeddedArray model =>
    if name = Compiler.lengthName then some (.scalar .integer, lengthOf)
    else
      match Text.position? name with
      | some n => some (.embedded model, nth n)
      | none =>
        match Text.positions? name with
        | some (start, stop) => some (.embeddedArray model, between start stop)
        | none => none
  | _ => none

/-- Where a name leads from a route.  The name of a field behind an array is read from each of
its items. -/
def extend (s : Schema) (name : String) : Route → Option Route
  | .one type read =>
    match s.narrow type name with
    | some (next, f) => some (.one next fun doc => f (read doc))
    | none =>
      match type with
      | .embeddedArray model =>
        (s.fieldIn? model name).map fun f =>
          .each read (.ofField f.kind) fun item => columnOf (some item) f.column
      | _ => none
  | .each source type read =>
    (s.narrow type name).map fun (next, f) => .each source next fun item => f (read item)

/-- Where names lead from a route, with the lookup at the end; equality if there is none. -/
def routeFrom (s : Schema) : Route → List String → Option (Route × Lookup)
  | r, [] => some (r, .exact)
  | r, name :: rest =>
    match s.extend name r with
    | some next => routeFrom s next rest
    | none => if rest.isEmpty then (Lookup.ofName? name).map fun l => (r, l) else none

/-- Whether a field is read in the document itself: a foreign key is if nothing of the other
document is asked for. -/
def staysInside (s : Schema) (f : Field) (rest : List String) : Bool :=
  match f.kind with
  | .foreignKey target _ _ =>
    match s.model? target with
    | some t => Compiler.readsStoredKey t rest
    | none => false
  | _ => true

/-- What a path that stays in the documents of a model reads, and the lookup at its end. -/
def route? (s : Schema) (m : Model) (path : String) : Option (Route × Lookup) :=
  match Text.segments path with
  | [] => none
  | name :: rest =>
    match m.field? name with
    | none => none
    | some f =>
      if s.staysInside f rest then
        s.routeFrom (.one (.ofField f.kind) fun doc => columnOf (some doc) f.column) rest
      else none

end Schema

/-! ## Lookups -/

namespace ScalarKind

/-- The kinds with a fixed type and an exact order. -/
def isExact : ScalarKind → Bool
  | .integer => true
  | .decimal => true
  | .string => true
  | .boolean => true
  | _ => false

end ScalarKind

namespace Lookup

open Value

/-- Whether a literal is of the shape and the kind that a lookup on a field of a kind asks for.
Only the bounds of a range may be null. -/
def fits (l : Lookup) (kind : ScalarKind) (v : Value) : Bool :=
  match l with
  | .exact => v.isOfKind kind
  | .gt => v.isOfKind kind
  | .gte => v.isOfKind kind
  | .lt => v.isOfKind kind
  | .lte => v.isOfKind kind
  | .in => v.items?.any fun items => items.all (isOfKind kind)
  | .all => v.items?.any fun items => items.all (isOfKind kind)
  | .containedBy => v.items?.any fun items => items.all (isOfKind kind)
  | .range =>
    match v with
    | .array [low, high] =>
      (low.isNull || low.isOfKind kind) && (high.isNull || high.isOfKind kind)
    | _ => false
  | .isnull => v.isBool
  | _ => false

/-- Whether a lookup holds of a value.  What is missing is in no comparison; it lies below every
bound of a range, of which bounds that are null do not count. -/
def holdsOf (l : Lookup) (operand : Value) (v : Option Value) : Bool :=
  match l with
  | .exact => v.any fun w => w.compare operand == .eq
  | .gt => v.any fun w => w.compare operand == .gt
  | .gte => v.any fun w => w.compare operand != .lt
  | .lt => v.any fun w => w.compare operand == .lt
  | .lte => v.any fun w => w.compare operand != .gt
  | .in => v.any fun w => operand.listed.any fun x => w.compare x == .eq
  | .range =>
    let (low, high) := boundsOf operand
    (low.isNull || v.any fun w => w.compare low != .lt)
      && (high.isNull || v.all fun w => w.compare high != .gt)
  | .isnull => v.isNone == operand.isTruthy
  | _ => false

/-- Whether a lookup holds of the values that are read from the items of an array: `all` if
every listed value is among them, `containedBy` if all of them are listed, any other lookup if
it holds of some of them. -/
def holdsOfSome (l : Lookup) (operand : Value) (vs : List (Option Value)) : Bool :=
  match l with
  | .all => operand.listed.all fun x => vs.any fun v => v.any fun w => x.compare w == .eq
  | .containedBy =>
    vs.all fun v => v.any fun w => operand.listed.any fun x => w.compare x == .eq
  | _ => vs.any fun v => l.holdsOf operand v

end Lookup

namespace Route

/-- Whether a route ends at a value that a lookup compares with a literal: a scalar of an exact
kind with a literal of that kind, or any document that may be null. -/
def accepts (r : Route) (l : Lookup) (v : Value) : Bool :=
  match r with
  | .one (.scalar kind) _ => kind.isExact && l.fits kind v
  | .one (.embedded _) _ => l == .isnull && v.isBool
  | .each _ (.scalar kind) _ => kind.isExact && l.fits kind v
  | _ => false

/-- Whether a lookup holds of what a route reads from a document. -/
def holds (r : Route) (l : Lookup) (operand doc : Value) : Bool :=
  match r with
  | .one _ read => l.holdsOf operand (read doc)
  | .each source _ read => l.holdsOfSome operand ((Value.itemsOf (source doc)).map read)

end Route

/-! ## Filters -/

namespace Expr

/-- The values of a list of literals. -/
def literals? : List Expr → Option (List Value)
  | [] => some []
  | .literal v :: rest => (literals? rest).map (v :: ·)
  | _ => none

/-- The value that a literal, or a list of literals, stands for. -/
def constant? : Expr → Option Value
  | .literal v => some v
  | .list items => (literals? items).map .array
  | _ => none

end Expr

namespace Filter

mutual

/-- Whether a filter only looks into the documents of a model and compares with literals. -/
def isInDocument (s : Schema) (m : Model) : Filter → Bool
  | .lookup path operand =>
    match s.route? m path, operand.constant? with
    | some (r, l), some v => r.accepts l v
    | _, _ => false
  | .and filters => areInDocument s m filters
  | .or filters => areInDocument s m filters
  | .not filter => isInDocument s m filter
  | .exists _ => false

/-- The same for several filters. -/
def areInDocument (s : Schema) (m : Model) : List Filter → Bool
  | [] => true
  | f :: rest => isInDocument s m f && areInDocument s m rest

end

mutual

/-- Whether a filter holds of a document of a model. -/
def holds (s : Schema) (m : Model) (doc : Value) : Filter → Bool
  | .lookup path operand =>
    match s.route? m path, operand.constant? with
    | some (r, l), some v => r.holds l v doc
    | _, _ => false
  | .and filters => (eachHolds s m doc filters).all id
  | .or filters => (eachHolds s m doc filters).any id
  | .not filter => !holds s m doc filter
  | .exists _ => false

/-- Which of several filters hold of a document. -/
def eachHolds (s : Schema) (m : Model) (doc : Value) : List Filter → List Bool
  | [] => []
  | f :: rest => holds s m doc f :: eachHolds s m doc rest

end

end Filter

end DocQuery
