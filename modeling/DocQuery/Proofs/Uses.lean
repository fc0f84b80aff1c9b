import DocQuery.Compile.Plan
import DocQuery.Proofs.ForeignKeys
set_option autoImplicit false

/-!
# Proofs: the paths that a query uses

A query follows paths from its own documents:  in the relations that it loads, in its computed
columns, its filter, its order and its returned columns, and for the outer references of its
subqueries.  Here these paths are read off the tree of the query, each with what is around it.
-/

namespace DocQuery

/-! ## Along one path -/

namespace Schema

/-- The relations that names go through, each as the names up to it, with its foreign key. -/
def crossings (s : Schema) : Model → List String → List (List String × Field)
  | _, [] => []
  | m, name :: rest =>
    match m.field? name with
    | none => []
    | some f =>
      if s.staysInside f rest then []
      else
        match s.link? f with
        | none => []
        | some (_, t) => ([name], f) :: (crossings s t rest).map fun x => (name :: x.1, x.2)

end Schema

namespace Compiler

/-- The lookup at the end of names behind a value. -/
def lookupBehind? (c : Compiler) : Access → List String → Option Lookup
  | _, [] => none
  | a, name :: rest =>
    match c.step a name rest.isEmpty with
    | .ok (.access b) => lookupBehind? c b rest
    | .ok (.lookup l) => some l
    | .error _ => none

/-- The lookup at the end of names from a document. -/
def lookupAlong? (c : Compiler) : Model → List String → Option Lookup
  | _, [] => none
  | m, name :: rest =>
    match m.field? name with
    | none => none
    | some f =>
      if c.schema.staysInside f rest then
        c.lookupBehind? (.column none f.column (.ofField f.kind)) rest
      else
        match c.schema.link? f with
        | none => none
        | some (_, t) => lookupAlong? c t rest

end Compiler

/-- A path that a query follows from its documents. -/
structure Use where
  path : String
  /-- the computed columns that the path may start at -/
  known : List String
  /-- whether it stands below a disjunction or a negation -/
  nested : Bool
  /-- whether it is that of a lookup -/
  isLookup : Bool
  deriving DecidableEq, Repr

namespace Use

/-- The names on the path. -/
def names (u : Use) : List String := Text.segments u.path

/-- The relations that the path goes through.  There are none behind a computed column. -/
def crossings (s : Schema) (m : Model) (u : Use) : List (List String × Field) :=
  if u.known.contains (u.names.headD "") then [] else s.crossings m u.names

/-- Whether the path is that of a check for null. -/
def checksNull (c : Compiler) (m : Model) (u : Use) : Bool :=
  u.isLookup && c.lookupAlong? m u.names == some .isnull

end Use

/-! ## In a query -/

mutual

/-- The outer references in a computed value, apart from those in its subqueries. -/
def Expr.outerPaths : Expr → List String
  | .literal _ => []
  | .field _ => []
  | .outer path => [path]
  | .list items => Expr.outerPathsOf items
  | .combined _ left right => left.outerPaths ++ right.outerPaths
  | .case branches otherwise => Expr.outerPathsOfBranches branches ++ otherwise.outerPaths
  | .condition filter => filter.outerPaths
  | .subquery _ => []

/-- The same for several computed values. -/
def Expr.outerPathsOf : List Expr → List String
  | [] => []
  | e :: rest => e.outerPaths ++ Expr.outerPathsOf rest

/-- The same for the branches of a case distinction. -/
def Expr.outerPathsOfBranches : List (Filter × Expr) → List String
  | [] => []
  | (f, e) :: rest => f.outerPaths ++ e.outerPaths ++ Expr.outerPathsOfBranches rest

/-- The outer references in a filter, apart from those in its subqueries. -/
def Filter.outerPaths : Filter → List String
  | .lookup _ operand => operand.outerPaths
  | .and filters => Filter.outerPathsOf filters
  | .or filters => Filter.outerPathsOf filters
  | .not filter => filter.outerPaths
  | .exists _ => []

/-- The same for several filters. -/
def Filter.outerPathsOf : List Filter → List String
  | [] => []
  | f :: rest => f.outerPaths ++ Filter.outerPathsOf rest

end

/-- The paths of the enclosing query that a subquery refers to itself. -/
def Query.outerPaths (q : Query) : List String :=
  Expr.outerPathsOf (q.annotations.map (·.2)) ++ Filter.outerPathsOf q.filter.toList

/-- The paths that a subquery follows from the documents of the enclosing query. -/
def Query.outerUses (q : Query) (known : List String) (nested : Bool) : List Use :=
  q.outerPaths.map fun path => ⟨path, known, nested, false⟩

mutual

/-- The paths in a computed value. -/
def Expr.uses (known : List String) (nested : Bool) : Expr → List Use
  | .literal _ => []
  | .field path => [⟨path, known, nested, false⟩]
  | .outer _ => []
  | .list items => Expr.usesOf known nested items
  | .combined _ left right => left.uses known nested ++ right.uses known nested
  | .case branches otherwise =>
    Expr.usesOfBranches known nested branches ++ otherwise.uses known nested
  | .condition filter => filter.uses known nested
  | .subquery q => q.outerUses known nested

/-- The paths in several computed values. -/
def Expr.usesOf (known : List String) (nested : Bool) : List Expr → List Use
  | [] => []
  | e :: rest => e.uses known nested ++ Expr.usesOf known nested rest

/-- The paths in the branches of a case distinction. -/
def Expr.usesOfBranches (known : List String) (nested : Bool) : List (Filter × Expr) → List Use
  | [] => []
  | (f, e) :: rest =>
    f.uses known nested ++ e.uses known nested ++ Expr.usesOfBranches known nested rest

/-- The paths in a filter. -/
def Filter.uses (known : List String) (nested : Bool) : Filter → List Use
  | .lookup path operand => ⟨path, known, nested, true⟩ :: operand.uses known nested
  | .and filters => Filter.usesOf known nested filters
  | .or filters => Filter.usesOf known true filters
  | .not filter => filter.uses known true
  | .exists q => q.outerUses known nested

/-- The paths in several filters. -/
def Filter.usesOf (known : List String) (nested : Bool) : List Filter → List Use
  | [] => []
  | f :: rest => f.uses known nested ++ Filter.usesOf known nested rest

end

namespace Query

/-- The paths in computed columns.  Each of them may refer to those in front of it. -/
def usesOfColumns (known : List String) : List (String × Expr) → List Use
  | [] => []
  | (name, e) :: rest => e.uses known false ++ usesOfColumns (known ++ [name]) rest

/-- Paths that are followed as references. -/
def references (known : List String) (paths : List String) : List Use :=
  paths.map fun path => ⟨path, known, false, false⟩

/-- The paths that a query follows from its documents. -/
def uses (q : Query) : List Use :=
  let known := q.annotations.map (·.1)
  references [] (q.related.map fun relation => Text.extendPath relation Compiler.keyName)
    ++ usesOfColumns [] q.annotations ++ Filter.usesOf known false q.filter.toList
    ++ references known (q.orderBy.map (·.path)) ++ references known q.values

end Query

end DocQuery
