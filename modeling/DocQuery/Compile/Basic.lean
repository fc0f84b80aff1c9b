import DocQuery.Compile.Aggregation
import DocQuery.Compile.Fragment
import DocQuery.Compile.Literal
import DocQuery.Compile.Plan
set_option autoImplicit false

/-!
# Compile: queries

Filters and computed values become expressions, and queries become pipelines.  Filters, values
and queries contain each other, so the functions here call each other on the parts.
-/

namespace DocQuery.Compiler

/-! ## Lookups -/

/-- The context after a lookup was recognized: the check for null keeps documents without a
match. -/
def noteLookup (r : Resolved) (ctx : Context) : Context :=
  if r.lookup = .isnull then ctx.promote r.joins else ctx

/-- The expression for a lookup on a path, given how its value is compiled. -/
def lookupWith (c : Compiler) (ctx : Context) (path : String)
    (operand : Resolved → Context → Except CompileError (Value × Context)) :
    Except CompileError (Value × Context) :=
  match c.resolveLookup ctx path with
  | (.error e, _) => .error e
  | (.ok r, ctx) =>
    match operand r (noteLookup r ctx) with
    | .error e => .error e
    | .ok (rhs, ctx) =>
      match r.lookup.buildOn r.target rhs with
      | .ok v => .ok (v, ctx)
      | .error e => .error e

/-- A literal as the value of a lookup. -/
def literalOperand (r : Resolved) (v : Value) (ctx : Context) :
    Except CompileError (Value × Context) :=
  match r.lookup.literal r.target.type.scalar? v with
  | .ok w => .ok (w, ctx)
  | .error e => .error e

/-- The error of a list as the value of a lookup, if the lookup takes no list of that many
items. -/
def listFault? (l : Lookup) (count : Nat) : Option CompileError :=
  match l.arity with
  | .list => none
  | .pair => if count = 2 then none else some (l.wrongShape "a two-element list" "array")
  | _ => some (l.wrongShape "a single value" "array")

/-- The expression without its type. -/
def withoutType (r : Except CompileError ((Value × ValueType) × Context)) :
    Except CompileError (Value × Context) :=
  match r with
  | .ok ((v, _), ctx) => .ok (v, ctx)
  | .error e => .error e

/-- The variable for a path of the enclosing query. -/
def outerExpr (c : Compiler) (ctx : Context) (path : String) :
    Except CompileError ((Value × ValueType) × Context) :=
  match ctx.outerRef path with
  | (some index, ctx) =>
    .ok ((.string ("$$" ++ c.config.parentVariable index), .scalar .json), ctx)
  | (none, _) => .error (.outerRefOutsideSubquery path)

/-- An expression of some kind and of any type. -/
def typed (kind : ScalarKind) (r : Except CompileError (Value × Context)) :
    Except CompileError ((Value × ValueType) × Context) :=
  match r with
  | .ok (v, ctx) => .ok ((v, .scalar kind), ctx)
  | .error e => .error e

/-- The plan of a query, given how its computed columns and its filter are compiled. -/
def planWith (c : Compiler) (ctx : Context) (q : Query)
    (annotations : Context → Except CompileError (List Stage × Context))
    (filter : Context → Except CompileError (Option Value × Context)) :
    Except CompileError (Plan × Context) :=
  match c.loadRelations ctx q.related with
  | .error e => .error e
  | .ok ctx =>
    match annotations ctx with
    | .error e => .error e
    | .ok (annotations, ctx) =>
      match filter ctx with
      | .error e => .error e
      | .ok (filter, ctx) =>
        match c.sortKeys ctx 0 q.orderBy with
        | .error e => .error e
        | .ok ((keys, computed), ctx) =>
          match c.returnedColumns ctx (q.annotations.map (·.1)) q.values with
          | .error e => .error e
          | .ok (columns, ctx) =>
            .ok (⟨annotations, filter, addColumns computed ++ sortBy keys,
              windowOf q.offset q.limit, columns⟩, ctx)

/-- The stages of a planned query, given how the queries that it is united with are compiled. -/
def assembleWith (c : Compiler) (ctx : Context) (q : Query) (p : Plan)
    (others : Except CompileError (List Stage)) : Except CompileError (List Stage) :=
  match q.union with
  | none => .ok (c.single ctx p)
  | some (_, keepAll) =>
    match others with
    | .ok others => .ok (c.united ctx p q.orderBy others keepAll)
    | .error e => .error e

/-- The stages of a query, given how its parts are compiled. -/
def queryWith (c : Compiler) (q : Query)
    (annotations : Context → Except CompileError (List Stage × Context))
    (filter : Context → Except CompileError (Option Value × Context))
    (others : Except CompileError (List Stage)) : Except CompileError Aggregation :=
  match c.queryableModel q.model with
  | .error e => .error e
  | .ok m =>
    match c.planWith (.ofModel m) q annotations filter with
    | .error e => .error e
    | .ok (p, ctx) =>
      match c.assembleWith ctx q p others with
      | .ok stages => .ok ⟨m.collection, stages⟩
      | .error e => .error e

/-- The expression that reads the column of a subquery, given how its parts are compiled.  With
`wrap` its values are collected in an array. -/
def subqueryWith (c : Compiler) (ctx : Context) (q : Query) (wrap : Bool)
    (annotations : Context → Except CompileError (List Stage × Context))
    (filter : Context → Except CompileError (Option Value × Context))
    (others : Except CompileError (List Stage)) : Except CompileError (Value × Context) :=
  match c.queryableModel q.model with
  | .error e => .error e
  | .ok m =>
    match c.planWith (.ofSubquery m) q annotations filter with
    | .error e => .error e
    | .ok (p, inner) =>
      match onlyColumn m q.values p.columns with
      | .error e => .error e
      | .ok column =>
        match c.assembleWith inner q { p with columns := [column] } others with
        | .error e => .error e
        | .ok stages =>
          let stages := if wrap then wrapped stages column q.union.isSome else stages
          c.placeSubquery ctx m (inner.outerRefs.getD []) stages column.1

/-! ## Trees -/

mutual

/-- The expression for a filter. -/
def compileFilter (c : Compiler) (ctx : Context) :
    Filter → Except CompileError (Value × Context)
  | .lookup path (.literal v) => c.lookupWith ctx path fun r ctx => literalOperand r v ctx
  | .lookup path (.list items) =>
    c.lookupWith ctx path fun r ctx =>
      match listFault? r.lookup items.length with
      | some e => .error e
      | none =>
        match compileItems c r ctx items with
        | .ok (vs, ctx) => .ok (.array vs, ctx)
        | .error e => .error e
  | .lookup path (.subquery q) =>
    c.lookupWith ctx path fun r ctx => compileSubquery c ctx (r.lookup.arity == .list) q
  | .lookup path other =>
    c.lookupWith ctx path fun _ ctx => withoutType (compileExpr c ctx other)
  | .and filters =>
    match compileFilters c ctx filters with
    | .ok (vs, ctx) => .ok (.conjunction vs, ctx)
    | .error e => .error e
  | .or filters =>
    match compileFilters c ctx.enter filters with
    | .ok (vs, ctx) => .ok (.disjunction vs, ctx.leave)
    | .error e => .error e
  | .not filter =>
    match compileFilter c ctx.enter filter with
    | .ok (v, ctx) => .ok (.negation v, ctx.leave)
    | .error e => .error e
  | .exists q =>
    match compileSubquery c ctx false q with
    | .ok (v, ctx) => .ok (Value.nullCheck v false, ctx)
    | .error e => .error e

/-- The expressions for filters. -/
def compileFilters (c : Compiler) (ctx : Context) :
    List Filter → Except CompileError (List Value × Context)
  | [] => .ok ([], ctx)
  | f :: rest =>
    match compileFilter c ctx f with
    | .error e => .error e
    | .ok (v, ctx) =>
      match compileFilters c ctx rest with
      | .ok (vs, ctx) => .ok (v :: vs, ctx)
      | .error e => .error e

/-- The expressions for the items of a list that is the value of a lookup. -/
def compileItems (c : Compiler) (r : Resolved) (ctx : Context) :
    List Expr → Except CompileError (List Value × Context)
  | [] => .ok ([], ctx)
  | .literal v :: rest =>
    match r.lookup.scalarLiteral r.target.type.scalar? v with
    | .error e => .error e
    | .ok w =>
      match compileItems c r ctx rest with
      | .ok (vs, ctx) => .ok (w :: vs, ctx)
      | .error e => .error e
  | other :: rest =>
    match compileExpr c ctx other with
    | .error e => .error e
    | .ok ((v, _), ctx) =>
      match compileItems c r ctx rest with
      | .ok (vs, ctx) => .ok (v :: vs, ctx)
      | .error e => .error e

/-- The expression for a computed value, with its type. -/
def compileExpr (c : Compiler) (ctx : Context) :
    Expr → Except CompileError ((Value × ValueType) × Context)
  | .literal v => .ok ((v.protectAlone, .scalar v.kind), ctx)
  | .field path => c.fieldExpr ctx path
  | .outer path => c.outerExpr ctx path
  | .list items =>
    match compileExprs c ctx items with
    | .ok (vs, ctx) => .ok ((.array vs, .scalar .json), ctx)
    | .error e => .error e
  | .combined op left right =>
    match compileExpr c ctx left with
    | .error e => .error e
    | .ok ((a, s), ctx) =>
      match compileExpr c ctx right with
      | .error e => .error e
      | .ok ((b, t), ctx) =>
        .ok ((op.combine a b, .scalar (op.resultKind s.scalar? t.scalar?)), ctx)
  | .case branches otherwise =>
    match compileBranches c ctx branches with
    | .error e => .error e
    | .ok (vs, ctx) =>
      match compileExpr c ctx otherwise with
      | .error e => .error e
      | .ok ((v, t), ctx) => .ok ((.caseDistinction vs v, t), ctx)
  | .condition filter => typed .boolean (compileFilter c ctx filter)
  | .subquery q => typed .json (compileSubquery c ctx false q)

/-- The expressions for computed values. -/
def compileExprs (c : Compiler) (ctx : Context) :
    List Expr → Except CompileError (List Value × Context)
  | [] => .ok ([], ctx)
  | e :: rest =>
    match compileExpr c ctx e with
    | .error e => .error e
    | .ok ((v, _), ctx) =>
      match compileExprs c ctx rest with
      | .ok (vs, ctx) => .ok (v :: vs, ctx)
      | .error e => .error e

/-- The branches of a case distinction. -/
def compileBranches (c : Compiler) (ctx : Context) :
    List (Filter × Expr) → Except CompileError (List Value × Context)
  | [] => .ok ([], ctx)
  | (f, e) :: rest =>
    match compileFilter c ctx f with
    | .error e => .error e
    | .ok (condition, ctx) =>
      match compileExpr c ctx e with
      | .error e => .error e
      | .ok ((v, _), ctx) =>
        match compileBranches c ctx rest with
        | .ok (vs, ctx) => .ok (Value.branch condition v :: vs, ctx)
        | .error e => .error e

/-- The stages that compute columns.  A stage does not see the columns that it adds itself, so a
column that refers to one of the `pending` ones starts a new stage. -/
def compileAnnotations (c : Compiler) (pending : Document) (ctx : Context) :
    List (String × Expr) → Except CompileError (List Stage × Context)
  | [] => .ok (addColumns pending, ctx)
  | (name, e) :: rest =>
    match compileExpr c ctx e with
    | .error e => .error e
    | .ok ((v, t), ctx) =>
      let next := ctx.clearRefs.addAnnotation name t
      if ctx.annotationRefs.any pending.has then
        match compileAnnotations c [(name, v)] next rest with
        | .ok (stages, ctx) => .ok (.addFields pending :: stages, ctx)
        | .error e => .error e
      else compileAnnotations c (pending.insert name v) next rest

/-- The expression for a filter that there may be. -/
def compileCondition (c : Compiler) (ctx : Context) :
    Option Filter → Except CompileError (Option Value × Context)
  | none => .ok (none, ctx)
  | some f =>
    match compileFilter c ctx f with
    | .ok (v, ctx) => .ok (some v, ctx)
    | .error e => .error e

/-- The stages that add the documents of other queries. -/
def compileOthers (c : Compiler) : List Query → Except CompileError (List Stage)
  | [] => .ok []
  | q :: rest =>
    match compile c q with
    | .error e => .error e
    | .ok a =>
      match compileOthers c rest with
      | .ok stages => .ok (.unionWith a.collection a.pipeline :: stages)
      | .error e => .error e

/-- The stages that add the documents of the queries that a query is united with. -/
def compileUnion (c : Compiler) : Option (List Query × Bool) → Except CompileError (List Stage)
  | none => .ok []
  | some (others, _) => compileOthers c others

/-- The aggregation for a query. -/
def compile (c : Compiler) : Query → Except CompileError Aggregation
  | .mk model filter annotations values orderBy offset limit related union =>
    c.queryWith (.mk model filter annotations values orderBy offset limit related union)
      (fun ctx => compileAnnotations c [] ctx annotations)
      (fun ctx => compileCondition c ctx filter)
      (compileUnion c union)

/-- The expression that reads the column of a subquery, which is put into the context. -/
def compileSubquery (c : Compiler) (ctx : Context) (wrap : Bool) :
    Query → Except CompileError (Value × Context)
  | .mk model filter annotations values orderBy offset limit related union =>
    c.subqueryWith ctx (.mk model filter annotations values orderBy offset limit related union)
      wrap (fun ctx => compileAnnotations c [] ctx annotations)
      (fun ctx => compileCondition c ctx filter)
      (compileUnion c union)

end

/-! ## Filters by themselves -/

/-- A filter as an expression, with the stages that have to run before it. -/
structure Condition where
  stages : List Stage
  expr : Value

/-- The condition for a filter on the documents of a model. -/
def compileFilterOn (c : Compiler) (model : String) (filter : Filter) :
    Except CompileError Condition :=
  match c.queryableModel model with
  | .error e => .error e
  | .ok m =>
    match c.compileFilter (.ofModel m) filter with
    | .ok (expr, ctx) => .ok ⟨ctx.prerequisites c.config, expr⟩
    | .error e => .error e

end DocQuery.Compiler
