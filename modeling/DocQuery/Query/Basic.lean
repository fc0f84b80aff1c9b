import DocQuery.Execution.Operator
set_option autoImplicit false

/-!
# Query: queries, filters and computed values

A query asks for documents of one model.  Its filter is a tree of lookups; a lookup compares
what a path leads to with a computed value.  Filters, computed values and queries contain each
other.
-/

namespace DocQuery

/-- A combination of two computed values. -/
inductive Combination where
  | arithmetic (op : Arithmetic)
  | bits (op : BitOperation)
  /-- multiplication by a power of two -/
  | leftShift
  /-- floored division by a power of two -/
  | rightShift
  deriving DecidableEq, Repr

/-- The operator of the combinations that one operator computes. -/
def Combination.operator? : Combination → Option String
  | .arithmetic op => some op.name
  | .bits op => some op.name
  | .leftShift => none
  | .rightShift => none

/-- A key by which documents are ordered. -/
structure OrderKey where
  path : String
  descending : Bool
  deriving DecidableEq, Repr

/-- The key of a text: a path, behind a minus sign if the order is descending. -/
def OrderKey.ofText (text : String) : OrderKey :=
  match Text.stripFirst? '-' text with
  | some path => ⟨path, true⟩
  | none => ⟨text, false⟩

mutual

/-- A computed value. -/
inductive Expr where
  | literal (v : Value)
  /-- what a path of the current document leads to -/
  | field (path : String)
  /-- what a path of the document of the enclosing query leads to -/
  | outer (path : String)
  | list (items : List Expr)
  | combined (op : Combination) (left right : Expr)
  /-- the value of the first branch whose condition holds, else a default -/
  | case (branches : List (Filter × Expr)) (otherwise : Expr)
  /-- whether a filter holds -/
  | condition (filter : Filter)
  /-- what a column of another query holds -/
  | subquery (query : Query)

/-- A condition on documents. -/
inductive Filter where
  /-- what a path leads to compares with a value -/
  | lookup (path : String) (value : Expr)
  | and (filters : List Filter)
  | or (filters : List Filter)
  | not (filter : Filter)
  /-- another query finds a document -/
  | exists (query : Query)

/-- A query: its model, filter, computed columns in order of definition, columns that are
returned, order, window, relations that are loaded, and the queries that it is united with,
together with whether repeated documents are kept. -/
inductive Query where
  | mk (model : String) (filter : Option Filter) (annotations : List (String × Expr))
    (values : List String) (orderBy : List OrderKey) (offset limit : Option Nat)
    (related : List String) (union : Option (List Query × Bool))

end

instance : Inhabited Expr := ⟨.literal .null⟩
instance : Inhabited Filter := ⟨.and []⟩
instance : Inhabited Query := ⟨.mk "" none [] [] [] none none [] none⟩

namespace Query

/-- The model that a query asks for. -/
def model : Query → String
  | .mk m _ _ _ _ _ _ _ _ => m

/-- The condition on the documents. -/
def filter : Query → Option Filter
  | .mk _ f _ _ _ _ _ _ _ => f

/-- The computed columns. -/
def annotations : Query → List (String × Expr)
  | .mk _ _ a _ _ _ _ _ _ => a

/-- The columns that are returned; all columns if there are none. -/
def values : Query → List String
  | .mk _ _ _ v _ _ _ _ _ => v

/-- The order of the documents. -/
def orderBy : Query → List OrderKey
  | .mk _ _ _ _ o _ _ _ _ => o

/-- The number of documents that are passed over. -/
def offset : Query → Option Nat
  | .mk _ _ _ _ _ n _ _ _ => n

/-- The largest number of documents that are returned. -/
def limit : Query → Option Nat
  | .mk _ _ _ _ _ _ n _ _ => n

/-- The relations that are loaded. -/
def related : Query → List String
  | .mk _ _ _ _ _ _ _ r _ => r

/-- The queries that the query is united with. -/
def union : Query → Option (List Query × Bool)
  | .mk _ _ _ _ _ _ _ _ u => u

/-- The query for all documents of a model. -/
def all (model : String) : Query := .mk model none [] [] [] none none [] none

/-- A condition that holds where both conditions hold; a conjunction grows at its end. -/
def conjoin : Option Filter → Filter → Filter
  | none, f => f
  | some (.and filters), f => .and (filters ++ [f])
  | some g, f => .and [g, f]

/-- The query with one more condition. -/
def addFilter : Query → Filter → Query
  | .mk m f a v o n l r u, g => .mk m (some (conjoin f g)) a v o n l r u

/-- The query without the documents for which a condition holds. -/
def exclude (q : Query) (f : Filter) : Query := q.addFilter (.not f)

/-- The query with one more computed column. -/
def annotate : Query → String → Expr → Query
  | .mk m f a v o n l r u, name, e => .mk m f (a ++ [(name, e)]) v o n l r u

/-- The query that returns given columns. -/
def withValues : Query → List String → Query
  | .mk m f a _ o n l r u, v => .mk m f a v o n l r u

/-- The query with one more key of the order. -/
def addOrder : Query → OrderKey → Query
  | .mk m f a v o n l r u, k => .mk m f a v (o ++ [k]) n l r u

/-- The query that passes over documents. -/
def withOffset : Query → Nat → Query
  | .mk m f a v o _ l r u, n => .mk m f a v o (some n) l r u

/-- The query that returns at most so many documents. -/
def withLimit : Query → Nat → Query
  | .mk m f a v o n _ r u, l => .mk m f a v o n (some l) r u

/-- The query that loads one more relation. -/
def addRelated : Query → String → Query
  | .mk m f a v o n l r u, relation => .mk m f a v o n l (r ++ [relation]) u

/-- The query united with others. -/
def unite : Query → List Query → Bool → Query
  | .mk m f a v o n l r _, others, keepAll => .mk m f a v o n l r (some (others, keepAll))

end Query

end DocQuery
