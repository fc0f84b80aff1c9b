import DocQuery.Text.Split
set_option autoImplicit false

/-!
# Compile: errors

Why a query cannot be compiled.  Every cause is a constructor, and the wording is in one place.
-/

namespace DocQuery

/-- Why a query cannot be compiled. -/
inductive CompileError where
  | unknownModel (name : String)
  | fieldDoesNotExist (model field : String)
  /-- a lookup that the type it is applied to does not take, and similar ones that it takes -/
  | unsupportedLookup (name target : String) (suggestions : List String)
  /-- a path through an array inside an array -/
  | multiLevelArrayTraversal
  /-- a lookup on an array of documents as a whole -/
  | arrayLookupNotAllowed
  /-- positions that are not in increasing order -/
  | invalidSlice (name : String)
  | invalidPath (path : String)
  /-- a path that should lead to a value and ends in a lookup -/
  | lookupInReference (path lookup : String)
  | relationInEmbedded (model field : String)
  /-- a value of another shape than its lookup takes -/
  | valueShape (lookup expected actual : String)
  /-- a query for an embedded model -/
  | embeddedQuery (model : String)
  | outerRefOutsideSubquery (path : String)
  /-- a subquery that does not return one column -/
  | subqueryColumns (model : String) (count : Nat)
  deriving DecidableEq, Repr

namespace CompileError

/-- The question behind a message that names similar lookups. -/
def suggestionText : List String → String
  | [] => ""
  | names => ", perhaps you meant " ++ Text.join " or " names ++ "?"

/-- The text of an error. -/
def message : CompileError → String
  | .unknownModel name => "unknown model '" ++ name ++ "'"
  | .fieldDoesNotExist model field => model ++ " has no field named '" ++ field ++ "'"
  | .unsupportedLookup name target suggestions =>
    "unsupported lookup '" ++ name ++ "' for " ++ target ++ suggestionText suggestions
  | .multiLevelArrayTraversal => "cannot perform multiple levels of array traversal in a query"
  | .arrayLookupNotAllowed =>
    "cannot apply this lookup directly to an embedded model array; "
      ++ "try querying one of its embedded fields instead"
  | .invalidSlice name =>
    "invalid slice '" ++ name ++ "': the end must be greater than the start"
  | .invalidPath path => "invalid lookup path '" ++ path ++ "'"
  | .lookupInReference path lookup =>
    "field reference '" ++ path ++ "' cannot end in the lookup '" ++ lookup ++ "'"
  | .relationInEmbedded model field =>
    "relational field '" ++ field ++ "' cannot be used inside embedded model '" ++ model ++ "'"
  | .valueShape lookup expected actual =>
    "'" ++ lookup ++ "' lookup expects " ++ expected ++ ", got " ++ actual
  | .embeddedQuery model => "embedded model '" ++ model ++ "' has no collection to query"
  | .outerRefOutsideSubquery path => "outer reference '" ++ path ++ "' used outside a subquery"
  | .subqueryColumns model count =>
    "subquery on '" ++ model ++ "' must return exactly one column, got " ++ toString count

end CompileError

end DocQuery
