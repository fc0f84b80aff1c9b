import DocQuery.Schema.Basic
import DocQuery.Text.Split
set_option autoImplicit false

/-!
# Schema: checks

A schema may name models that do not exist or are of the wrong sort.  Every field is checked by
itself, and each has at most one problem.
-/

namespace DocQuery

/-- What is wrong with the model of an embedded field. -/
inductive EmbeddingFault where
  | undefined (model : String)
  | notEmbedded
  /-- a field of the embedded model is a relation -/
  | relation (model field label : String)
  deriving DecidableEq, Repr

namespace EmbeddingFault

/-- The identifier of a fault. -/
def id : EmbeddingFault → String
  | .undefined _ => "embedded_model.E003"
  | .notEmbedded => "embedded_model.E002"
  | .relation _ _ _ => "embedded_model.E001"

/-- The text of a fault. -/
def message : EmbeddingFault → String
  | .undefined model => "Embedded model '" ++ model ++ "' is not defined."
  | .notEmbedded => "Embedded models must be declared as embedded."
  | .relation model field label =>
    "Embedded models cannot have relational fields (" ++ model ++ "." ++ field ++
      " is a " ++ label ++ ")."

end EmbeddingFault

/-- What is wrong with a field. -/
inductive FieldFault where
  | embedding (fault : EmbeddingFault)
  | arrayEmbedding (fault : EmbeddingFault)
  | unknownTarget (model : String)
  | embeddedTarget (model : String)
  deriving DecidableEq, Repr

namespace FieldFault

/-- The identifier of a fault. -/
def id : FieldFault → String
  | .embedding fault => fault.id
  | .arrayEmbedding _ => "array.E001"
  | .unknownTarget _ => "relation.E001"
  | .embeddedTarget _ => "relation.E002"

/-- The text of a fault. -/
def message : FieldFault → String
  | .embedding fault => fault.message
  | .arrayEmbedding fault =>
    "Base field for array has errors:\n    " ++ fault.message ++ " (" ++ fault.id ++ ")"
  | .unknownTarget model => "Field defines a relation with unknown model '" ++ model ++ "'."
  | .embeddedTarget model =>
    "Field defines a relation with embedded model '" ++ model
      ++ "'; relations must target a top-level model."

end FieldFault

/-- A problem of a schema. -/
structure Problem where
  model : String
  field : String
  fault : FieldFault
  deriving DecidableEq, Repr

/-- The text of a problem. -/
def Problem.text (p : Problem) : String :=
  p.model ++ "." ++ p.field ++ ": (" ++ p.fault.id ++ ") " ++ p.fault.message

namespace Schema

/-- What is wrong with a model as that of embedded documents. -/
def embeddingFault? (s : Schema) (model : String) : Option EmbeddingFault :=
  match s.model? model with
  | none => some (.undefined model)
  | some m =>
    if m.embedded then
      (m.fields.find? fun f => f.kind.isRelation).map fun f =>
        .relation m.name f.name f.kind.label
    else some .notEmbedded

/-- What is wrong with a field. -/
def fieldFault? (s : Schema) (f : Field) : Option FieldFault :=
  match f.kind with
  | .scalar _ => none
  | .embedded model => (s.embeddingFault? model).map .embedding
  | .embeddedArray model => (s.embeddingFault? model).map .arrayEmbedding
  | .foreignKey model _ _ =>
    match s.model? model with
    | none => some (.unknownTarget model)
    | some m => if m.embedded then some (.embeddedTarget model) else none

/-- The problems of a schema, in the order of its fields. -/
def check (s : Schema) : List Problem :=
  s.models.flatMap fun m =>
    m.fields.filterMap fun f => (s.fieldFault? f).map fun fault => ⟨m.name, f.name, fault⟩

theorem check_eq_nil_iff (s : Schema) :
    s.check = [] ↔ ∀ m ∈ s.models, ∀ f ∈ m.fields, s.fieldFault? f = none := by
  simp only [check, List.flatMap_eq_nil_iff, List.filterMap_eq_nil_iff, Option.map_eq_none_iff]

end Schema

/-- Why a text is no usable schema. -/
inductive SchemaError where
  /-- the text does not describe models -/
  | malformed
  | duplicateModel (name : String)
  | problems (list : List Problem)
  deriving DecidableEq, Repr

/-- The text of an error. -/
def SchemaError.message : SchemaError → String
  | .malformed => "invalid schema JSON"
  | .duplicateModel name => "model '" ++ name ++ "' is defined more than once"
  | .problems list =>
    "schema has errors:\n" ++ Text.join "\n" (list.map fun p => "  " ++ p.text)

/-- The error of a schema with problems. -/
def Schema.validate (s : Schema) : Except SchemaError Unit :=
  match s.check with
  | [] => .ok ()
  | p :: rest => .error (.problems (p :: rest))

end DocQuery
