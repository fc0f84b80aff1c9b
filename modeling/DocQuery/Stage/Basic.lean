import DocQuery.Value.Path
set_option autoImplicit false

/-!
# Stage: the steps of a pipeline

A pipeline is a list of stages, each of which turns a list of documents into another one.  Three
stages hold pipelines of their own.
-/

namespace DocQuery

/-- The direction of a sort key. -/
inductive Direction where
  | ascending
  | descending
  deriving DecidableEq, Repr

namespace Direction

/-- The order of two sort keys in a direction. -/
def apply : Direction → Ordering → Ordering
  | .ascending, o => o
  | .descending, o => o.swap

/-- How a direction is written. -/
def toValue : Direction → Value
  | .ascending => .int 1
  | .descending => .int (-1)

end Direction

/-- A stage of a pipeline. -/
inductive Stage where
  /-- keeps the documents that match a query -/
  | select (query : Value)
  /-- makes a document of chosen and computed fields -/
  | project (fields : Document)
  /-- adds computed fields -/
  | addFields (fields : Document)
  /-- adds computed fields, under its other name -/
  | set (fields : Document)
  /-- adds as `target` what a pipeline makes of the collection `source`, where the pipeline sees
  values of the document as variables -/
  | lookup (source : String) (bindings : Document) (pipeline : List Stage) (target : String)
  /-- makes a document of every item of an array -/
  | unwind (path : String) (keepEmpty : Bool)
  /-- makes one document of the results of several pipelines -/
  | facet (facets : List (String × List Stage))
  /-- makes a document of every group of documents with one key -/
  | group (key : Value) (fields : Document)
  | sort (keys : List (String × Direction))
  | skip (count : Nat)
  | limit (count : Nat)
  /-- adds what a pipeline makes of another collection -/
  | unionWith (collection : String) (pipeline : List Stage)
  /-- counts the documents -/
  | count (field : String)
  deriving Inhabited

namespace Stage

/-- The stage that keeps documents for which an expression is true. -/
def selectExpr (expr : Value) : Stage := .select (.operator "$expr" expr)

/-- The stage that unwinds an array and drops documents where it is empty. -/
def unwindAll (path : String) : Stage := .unwind path false

/-- The name of a stage. -/
def name : Stage → String
  | .select _ => "$match"
  | .project _ => "$project"
  | .addFields _ => "$addFields"
  | .set _ => "$set"
  | .lookup _ _ _ _ => "$lookup"
  | .unwind _ _ => "$unwind"
  | .facet _ => "$facet"
  | .group _ _ => "$group"
  | .sort _ => "$sort"
  | .skip _ => "$skip"
  | .limit _ => "$limit"
  | .unionWith _ _ => "$unionWith"
  | .count _ => "$count"

/-- Whether two documents have the same members. -/
def sameDocuments (a b : Document) : Bool := Value.same (.object a) (.object b)

/-- The pipeline of a name in a facet. -/
def facet? : List (String × List Stage) → String → Option (List Stage)
  | [], _ => none
  | (k, p) :: rest, key => if k = key then some p else facet? rest key

mutual

/-- Whether two stages are the same, up to the order of members. -/
def same : Stage → Stage → Bool
  | .select a, .select b => a.same b
  | .project a, .project b => sameDocuments a b
  | .addFields a, .addFields b => sameDocuments a b
  | .set a, .set b => sameDocuments a b
  | .lookup s a p t, .lookup s' a' p' t' =>
    s == s' && sameDocuments a a' && samePipelines p p' && t == t'
  | .unwind p k, .unwind p' k' => p == p' && k == k'
  | .facet a, .facet b => a.length == b.length && sameFacets a b
  | .group k a, .group k' a' => k.same k' && sameDocuments a a'
  | .sort a, .sort b => a == b
  | .skip a, .skip b => a == b
  | .limit a, .limit b => a == b
  | .unionWith c p, .unionWith c' p' => c == c' && samePipelines p p'
  | .count a, .count b => a == b
  | _, _ => false

/-- Whether two pipelines are the same. -/
def samePipelines : List Stage → List Stage → Bool
  | [], [] => true
  | a :: as, b :: bs => same a b && samePipelines as bs
  | _, _ => false

/-- Whether every facet is also a facet of the other list, with the same pipeline. -/
def sameFacets : List (String × List Stage) → List (String × List Stage) → Bool
  | [], _ => true
  | (k, p) :: rest, facets =>
    match facet? facets k with
    | some q => samePipelines p q && sameFacets rest facets
    | none => false

end

end Stage

end DocQuery
