import DocQuery.Text.Case
set_option autoImplicit false

/-!
# Schema: models and their fields

A schema is a list of models.  Top-level models have a collection of their own; embedded models
describe documents inside other documents, alone or in arrays.
-/

namespace DocQuery

/-- The kind of a scalar field. -/
inductive ScalarKind where
  | integer
  | float
  | decimal
  | string
  | boolean
  /-- any value, with whatever members it has -/
  | json
  deriving DecidableEq, Repr

namespace ScalarKind

/-- The name of a kind. -/
def name : ScalarKind → String
  | .integer => "integer"
  | .float => "float"
  | .decimal => "decimal"
  | .string => "string"
  | .boolean => "boolean"
  | .json => "json"

/-- The kind of a name. -/
def ofName? : String → Option ScalarKind
  | "integer" => some .integer
  | "float" => some .float
  | "decimal" => some .decimal
  | "string" => some .string
  | "boolean" => some .boolean
  | "json" => some .json
  | _ => none

/-- The name of the type that stored values of a kind have. -/
def storageType : ScalarKind → String
  | .integer => "long"
  | .float => "double"
  | .decimal => "decimal"
  | .string => "string"
  | .boolean => "bool"
  | .json => "object"

end ScalarKind

/-- The kind of a field. -/
inductive FieldKind where
  | scalar (kind : ScalarKind)
  /-- a document of an embedded model -/
  | embedded (model : String)
  /-- an array of documents of an embedded model -/
  | embeddedArray (model : String)
  /-- the key of a document of another model: of its primary key, unless another field is
  named -/
  | foreignKey (model : String) (target : Option String) (storedAs : Option ScalarKind)
  deriving DecidableEq, Repr

namespace FieldKind

/-- The kind of the values of a scalar field. -/
def scalar? : FieldKind → Option ScalarKind
  | .scalar k => some k
  | _ => none

/-- Whether a field refers to documents of another collection. -/
def isRelation : FieldKind → Bool
  | .foreignKey _ _ _ => true
  | _ => false

/-- The model that a field leads to. -/
def model? : FieldKind → Option String
  | .scalar _ => none
  | .embedded m => some m
  | .embeddedArray m => some m
  | .foreignKey m _ _ => some m

/-- The kind of the keys that a foreign key stores; integers unless another kind is given. -/
def keyKind (storedAs : Option ScalarKind) : ScalarKind := storedAs.getD .integer

/-- The name of a kind in messages. -/
def label : FieldKind → String
  | .scalar k => k.name
  | .embedded _ => "EmbeddedModelField"
  | .embeddedArray _ => "EmbeddedModelArrayField"
  | .foreignKey _ _ _ => "ForeignKey"

/-- The name of the type of the stored value. -/
def storageType : FieldKind → String
  | .scalar k => k.storageType
  | .embedded _ => "object"
  | .embeddedArray _ => "array"
  | .foreignKey _ _ storedAs => (keyKind storedAs).storageType

end FieldKind

/-- A field of a model. -/
structure Field where
  name : String
  kind : FieldKind
  /-- whether the stored value may be null or missing -/
  nullable : Bool
  /-- the name of the stored column, if it is not the usual one -/
  storedColumn : Option String
  deriving DecidableEq, Repr

/-- The stored column of a field: the name of the field, with `_id` behind it for foreign
keys. -/
def Field.column (f : Field) : String :=
  match f.storedColumn with
  | some c => c
  | none => if f.kind.isRelation then f.name ++ "_id" else f.name

/-- A kind of documents. -/
structure Model where
  name : String
  /-- the name of the collection, if it is not the usual one -/
  storedCollection : Option String
  /-- whether documents of the model only stand inside other documents -/
  embedded : Bool
  fields : List Field
  deriving DecidableEq, Repr

namespace Model

/-- The collection of a model: its name in lower case. -/
def collection (m : Model) : String := m.storedCollection.getD (Text.lowercase m.name)

/-- The field of a name; in top-level models `pk` is another name of the field `id`. -/
def field? (m : Model) (name : String) : Option Field :=
  let name := if name = "pk" ∧ m.embedded = false then "id" else name
  m.fields.find? fun f => f.name == name

/-- The stored columns. -/
def columns (m : Model) : List String := m.fields.map Field.column

/-- The column of primary keys. -/
def primaryKeyColumn : String := "_id"

/-- The field of primary keys. -/
def primaryKey : Field := ⟨"id", .scalar .integer, false, some primaryKeyColumn⟩

/-- The model with a primary key if it is a top-level model without one. -/
def withPrimaryKey (m : Model) : Model :=
  if m.embedded = false ∧ (m.field? "id").isNone then { m with fields :=
    primaryKey :: m.fields }
  else m

/-- Top-level models have a field `id` after this. -/
theorem field?_withPrimaryKey_isSome (m : Model) (h : m.embedded = false) :
    (m.withPrimaryKey.field? "id").isSome = true := by
  simp only [withPrimaryKey]
  split
  · simp [field?, primaryKey]
  · rename_i hn
    simp only [h, true_and] at hn
    cases hf : m.field? "id" with
    | none => simp [hf] at hn
    | some f => rfl

end Model

/-- Models by name, in order. -/
structure Schema where
  models : List Model
  deriving DecidableEq, Repr

namespace Schema

/-- The model of a name. -/
def model? (s : Schema) (name : String) : Option Model := s.models.find? fun m => m.name == name

/-- The first name among models that an earlier model has, too. -/
def duplicate? (seen : List String) : List Model → Option String
  | [] => none
  | m :: rest => if seen.contains m.name then some m.name else duplicate? (m.name :: seen) rest

/-- The schema of models, which need different names; otherwise the name that two of them
have. -/
def ofModels (models : List Model) : Except String Schema :=
  match duplicate? [] models with
  | some name => .error name
  | none => .ok ⟨models.map Model.withPrimaryKey⟩

end Schema

end DocQuery
