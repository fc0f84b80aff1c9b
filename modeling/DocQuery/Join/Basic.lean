import DocQuery.Config.Basic
import DocQuery.Stage.Basic
set_option autoImplicit false

/-!
# Join: documents of another collection

A join puts the matching document of another collection into a column of its own, the alias.  It
is done by three stages:  the matching documents are looked up, an empty result is replaced if
documents without a match are kept, and the result is unwound.
-/

namespace DocQuery

/-- What happens to documents without a match. -/
inductive JoinKind where
  /-- they are dropped -/
  | inner
  /-- they are kept, and the alias is null -/
  | left
  deriving DecidableEq, Repr

/-- Two columns that have to be equal.  If their types differ they are compared as texts. -/
structure JoinPair where
  parent : String
  child : String
  parentType : String
  childType : String
  deriving DecidableEq, Repr

/-- A join. -/
structure Join where
  /-- the alias that holds the parent columns; the document itself has them if there is none -/
  parentAlias : Option String
  collection : String
  joined : String
  pairs : List JoinPair
  kind : JoinKind
  deriving DecidableEq, Repr

/-- The alias of a join. -/
def Join.alias (j : Join) : String := j.joined

namespace Join

/-- The type of texts. -/
def textType : String := "string"

/-- A column as it is compared with one of another type. -/
def key (type otherType : String) (column : Value) : Value :=
  if type = otherType ∨ type = textType then column else .operator "$toString" column

/-- The path of a parent column. -/
def parentPath (joined : Option String) (column : String) : String :=
  match joined with
  | some a => "$" ++ a ++ "." ++ column
  | none => "$" ++ column

/-- The parent side of a pair. -/
def parentKey (joined : Option String) (p : JoinPair) : Value :=
  key p.parentType p.childType (.string (parentPath joined p.parent))

/-- The child side of a pair. -/
def childKey (p : JoinPair) : Value :=
  key p.childType p.parentType (.string ("$" ++ p.child))

/-- The variables that carry the parent sides; the first one has the number `index`. -/
def bindings (config : Config) (joined : Option String) (index : Nat) : List JoinPair → Document
  | [] => []
  | p :: rest =>
    (config.parentVariable index, parentKey joined p) :: bindings config joined (index + 1) rest

/-- The conditions of the pairs. -/
def conditions (config : Config) (index : Nat) : List JoinPair → List Value
  | [] => []
  | p :: rest =>
    .operator "$eq" (.array [.string ("$$" ++ config.parentVariable index), childKey p])
      :: conditions config (index + 1) rest

/-- Whether the array of a path is missing or empty. -/
def isEmptyArray (path : Value) : Value :=
  .operator "$or" (.array
    [.operator "$eq" (.array [.operator "$type" path, .string "missing"]),
      .operator "$eq" (.array [.operator "$size" path, .int 0])])

/-- One of two values, according to a condition. -/
def choice (condition holds fails : Value) : Value :=
  .operator "$cond" (.object [("if", condition), ("then", holds), ("else", fails)])

/-- The stage that puts null in place of an empty result. -/
def placeholder (joined : String) : Stage :=
  let path : Value := .string ("$" ++ joined)
  .set [(joined, choice (isEmptyArray path) (.array [.null]) path)]

/-- The stage that looks up the matching documents. -/
def lookupStage (config : Config) (j : Join) : Stage :=
  .lookup j.collection (bindings config j.parentAlias 0 j.pairs)
    [.selectExpr (.operator "$and" (.array (conditions config 0 j.pairs)))] j.joined

/-- The stages of a join. -/
def stages (config : Config) (j : Join) : List Stage :=
  match j.kind with
  | .inner => [lookupStage config j, .unwindAll j.joined]
  | .left => [lookupStage config j, placeholder j.joined, .unwindAll j.joined]

end Join

end DocQuery
