import DocQuery.Query.Basic
import DocQuery.Resolve.Basic
set_option autoImplicit false

/-!
# Compile: the plan of a query

A plan holds the stages of a query before they are put in order.  Here are the parts of it that
only depend on paths, and the stages around them.
-/

namespace DocQuery

/-- The parts of a compiled query. -/
structure Plan where
  /-- the stages that compute columns -/
  annotations : List Stage
  filter : Option Value
  /-- the stages that order the documents -/
  order : List Stage
  /-- the stages that cut the window -/
  window : List Stage
  /-- the returned columns with the expressions that they are computed by -/
  columns : List (String × Value)

namespace Compiler

/-! ## Paths -/

/-- The expression for what a path leads to. -/
def fieldExpr (c : Compiler) (ctx : Context) (path : String) :
    Except CompileError ((Value × ValueType) × Context) :=
  match c.resolveField ctx path with
  | (.ok r, ctx) => .ok ((r.target.render, r.target.type), ctx)
  | (.error e, _) => .error e

/-- The name behind a relation for its key. -/
def keyName : String := "pk"

/-- The context after the relations that are loaded. -/
def loadRelations (c : Compiler) (ctx : Context) : List String → Except CompileError Context
  | [] => .ok ctx
  | relation :: rest =>
    match c.fieldExpr ctx (Text.extendPath relation keyName) with
    | .ok (_, ctx) => loadRelations c ctx rest
    | .error e => .error e

/-- The columns of paths. -/
def columnsOf (c : Compiler) (ctx : Context) :
    List String → Except CompileError (List (String × Value) × Context)
  | [] => .ok ([], ctx)
  | path :: rest =>
    match c.fieldExpr ctx path with
    | .error e => .error e
    | .ok ((v, _), ctx) =>
      match columnsOf c ctx rest with
      | .ok (others, ctx) => .ok ((path, v) :: others, ctx)
      | .error e => .error e

/-! ## Order and window -/

/-- The stored path that an expression reads, if it does nothing else. -/
def storedPath? : Value → Option String
  | .string s =>
    match Text.stripFirst? '$' s with
    | some path => if isOperatorName path then none else some path
    | none => none
  | _ => none

/-- The name of the computed sort key of a number. -/
def orderField (index : Nat) : String := "__order" ++ toString index

/-- The direction of a key. -/
def directionOf (k : OrderKey) : Direction := if k.descending then .descending else .ascending

/-- The sort keys of an order, and the columns that have to be computed for them.  The first key
has the number `index`. -/
def sortKeys (c : Compiler) (ctx : Context) (index : Nat) :
    List OrderKey → Except CompileError ((List (String × Direction) × Document) × Context)
  | [] => .ok (([], []), ctx)
  | k :: rest =>
    match c.fieldExpr ctx k.path with
    | .error e => .error e
    | .ok ((v, _), ctx) =>
      match sortKeys c ctx (index + 1) rest with
      | .error e => .error e
      | .ok ((keys, computed), ctx) =>
        match storedPath? v with
        | some path => .ok (((path, directionOf k) :: keys, computed), ctx)
        | none =>
          .ok (((orderField index, directionOf k) :: keys, (orderField index, v) :: computed),
            ctx)

/-- A stage that adds columns, if there are any. -/
def addColumns (columns : Document) : List Stage :=
  if columns.isEmpty then [] else [.addFields columns]

/-- A stage that sorts, if there are keys. -/
def sortBy (keys : List (String × Direction)) : List Stage :=
  if keys.isEmpty then [] else [.sort keys]

/-- The stages that cut a window. -/
def windowOf (offset limit : Option Nat) : List Stage :=
  (match offset with | some n => [.skip n] | none => [])
    ++ match limit with | some n => [.limit n] | none => []

/-! ## Columns -/

/-- The column of a name as it is. -/
def plainColumn (name : String) : String × Value := (name, .string ("$" ++ name))

/-- The columns that are returned if none are given: the stored ones and the computed ones. -/
def allColumns (m : Model) (annotations : List String) : List (String × Value) :=
  (m.columns ++ annotations).map plainColumn

/-- The columns that are returned. -/
def returnedColumns (c : Compiler) (ctx : Context) (annotations values : List String) :
    Except CompileError (List (String × Value) × Context) :=
  match values with
  | [] => .ok (allColumns ctx.model annotations, ctx)
  | paths => c.columnsOf ctx paths

/-- A column as it is projected: a column that keeps its name is only marked. -/
def projectedColumn (column : String × Value) : String × Value :=
  match column with
  | (name, .string s) => if s = "$" ++ name then (name, .int 1) else (name, .string s)
  | other => other

/-- The projection to columns. -/
def projectionOf (columns : List (String × Value)) : Document :=
  Document.ofList (columns.map projectedColumn)

/-! ## Assembly -/

/-- The stages in front of the columns: joins, subqueries, computed columns and the filter. -/
def source (c : Compiler) (ctx : Context) (p : Plan) : List Stage :=
  ctx.prerequisites c.config ++ p.annotations
    ++ match p.filter with | some f => [Stage.selectExpr f] | none => []

/-- The stages of a query that is not united with others. -/
def single (c : Compiler) (ctx : Context) (p : Plan) : List Stage :=
  c.source ctx p ++ p.order ++ p.window ++ [.project (projectionOf p.columns)]

/-- The stages that keep one of equal documents with given columns. -/
def distinct (names : List String) : List Stage :=
  [.group (.object (names.map plainColumn)) [],
    .addFields (names.map fun name => (name, .string ("$_id." ++ name)))]

/-- The sort keys of documents that only have the returned columns. -/
def namedKeys (orderBy : List OrderKey) : List (String × Direction) :=
  orderBy.map fun k => (k.path, directionOf k)

/-- The stages of a query that is united with others. -/
def united (c : Compiler) (ctx : Context) (p : Plan) (orderBy : List OrderKey)
    (others : List Stage) (keepAll : Bool) : List Stage :=
  let projection := projectionOf p.columns
  c.source ctx p ++ [.project projection] ++ others
    ++ (if keepAll then [] else distinct projection.names)
    ++ sortBy (namedKeys orderBy) ++ p.window

/-! ## Subqueries -/

/-- The column that a subquery returns if none is given. -/
def usualColumn : String × Value := plainColumn "_id"

/-- The one column of a subquery. -/
def onlyColumn (m : Model) (values : List String) (columns : List (String × Value)) :
    Except CompileError (String × Value) :=
  match values, columns with
  | [], _ => .ok usualColumn
  | _, [column] => .ok column
  | _, columns => .error (.subqueryColumns m.name columns.length)

/-- A working name for one value of a column. -/
def itemField : String := "tmp_name"

/-- A working name for the collected values of a column. -/
def groupField : String := "group"

/-- The stages that collect the values of an expression in one document. -/
def collecting (field : String) (expr : Value) : List Stage :=
  [.facet [(groupField,
      [.project [(itemField, expr)], .unwindAll itemField,
        .group .null [(itemField, .operator "$addToSet" (.string ("$" ++ itemField)))]])],
    .project [(field, .operator "$ifNull" (.array
      [Access.fieldOf (.operator "$arrayElemAt" (.array [.string ("$" ++ groupField), .int 0]))
          itemField,
        .array []]))]]

/-- The stages of a subquery whose values are collected.  A subquery that is not united with
others ends in a projection, which is left out, since the expression of its column is known. -/
def wrapped (stages : List Stage) (column : String × Value) (isUnited : Bool) : List Stage :=
  if isUnited then stages ++ collecting column.1 (.string ("$" ++ column.1))
  else stages.dropLast ++ collecting column.1 column.2

/-- The variables of a subquery that carry values of the enclosing query.  The first one has the
number `index`. -/
def outerBindings (c : Compiler) (ctx : Context) (index : Nat) :
    List String → Except CompileError (Document × Context)
  | [] => .ok ([], ctx)
  | path :: rest =>
    match c.fieldExpr ctx path with
    | .error e => .error e
    | .ok ((v, _), ctx) =>
      match outerBindings c ctx (index + 1) rest with
      | .ok (others, ctx) => .ok ((c.config.parentVariable index, v) :: others, ctx)
      | .error e => .error e

/-- The stage that replaces the results of a subquery by the first one. -/
def firstOrEmpty (output : String) : Stage :=
  let path : Value := .string ("$" ++ output)
  .set [(output, Join.choice (Join.isEmptyArray path) (.object [])
    (.operator "$arrayElemAt" (.array [path, .int 0])))]

/-- Puts a compiled subquery into the context of the enclosing query; the result is the
expression that reads its column. -/
def placeSubquery (c : Compiler) (ctx : Context) (m : Model) (outer : List String)
    (stages : List Stage) (field : String) : Except CompileError (Value × Context) :=
  match c.outerBindings ctx 0 outer with
  | .error e => .error e
  | .ok (bindings, ctx) =>
    let (index, ctx) := ctx.nextSubquery
    let output := c.config.subqueryField index
    .ok (.string ("$" ++ output ++ "." ++ field),
      ctx.pushStages [.lookup m.collection bindings stages output, firstOrEmpty output])

end Compiler

end DocQuery
