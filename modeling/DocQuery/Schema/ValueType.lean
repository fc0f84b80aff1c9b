import DocQuery.Schema.Basic
set_option autoImplicit false

/-!
# Schema: the types of values

The type of a value says which comparisons and which further steps into it make sense.
-/

namespace DocQuery

/-- The type of a value that a query reads. -/
inductive ValueType where
  | scalar (kind : ScalarKind)
  /-- a document of an embedded model -/
  | embedded (model : String)
  /-- an array of documents of an embedded model -/
  | embeddedArray (model : String)
  /-- what is read from each document of an array -/
  | mapped (element : ValueType)
  deriving DecidableEq, Repr

namespace ValueType

/-- The type of a stored field.  A foreign key is read as the key that it stores. -/
def ofField : FieldKind → ValueType
  | .scalar k => .scalar k
  | .embedded model => .embedded model
  | .embeddedArray model => .embeddedArray model
  | .foreignKey _ _ storedAs => .scalar (FieldKind.keyKind storedAs)

/-- The kind of scalars of a type, also of those that are read from each document of an
array. -/
def scalar? : ValueType → Option ScalarKind
  | .scalar k => some k
  | .mapped element => element.scalar?
  | _ => none

/-- Whether values are read from each document of an array. -/
def isMapped : ValueType → Bool
  | .mapped _ => true
  | _ => false

/-- A type as messages describe it. -/
def describe : ValueType → String
  | .scalar k => "'" ++ k.name ++ "'"
  | .embedded model => "embedded model '" ++ model ++ "'"
  | .embeddedArray model => "embedded model array of '" ++ model ++ "'"
  | .mapped (.embedded model) => "embedded model array of '" ++ model ++ "'"
  | .mapped element => "embedded model array of " ++ element.describe

end ValueType

end DocQuery
