import DocQuery.Json.Reader
import DocQuery.Schema.Check
set_option autoImplicit false

/-!
# Schema: reading a schema

A schema text is an array of models.  Members with a meaning may stand only once; others are
passed over.  A model may also be given as an array of its name, collection, embedding and
fields.
-/

namespace DocQuery.Schema

/-- A string. -/
def stringOf? : Json → Option String
  | .string s => some s
  | _ => none

/-- A string that may be left out or null: none if it is something else. -/
def optionalString? : Option Json → Option (Option String)
  | none => some none
  | some .null => some none
  | some (.string s) => some (some s)
  | some _ => none

/-- A truth value that may be left out, for false: none if it is something else. -/
def flag? : Option Json → Option Bool
  | none => some false
  | some (.bool b) => some b
  | some _ => none

/-- The kind of stored keys: its name, possibly as the only member of an object that holds
nothing. -/
def storedAs? : Option Json → Option (Option ScalarKind)
  | none => some none
  | some .null => some none
  | some (.string name) => (ScalarKind.ofName? name).map some
  | some (.object [(name, .null)]) => (ScalarKind.ofName? name).map some
  | some (.object [(name, .object [])]) => (ScalarKind.ofName? name).map some
  | some _ => none

/-- The names of the kinds of fields, in order. -/
def kindNames : List String :=
  ["integer", "float", "decimal", "string", "boolean", "json", "embedded", "embedded_array",
    "foreign_key"]

/-- The name of a kind, given by itself or by its place. -/
def kindName? : Json → Option String
  | .string s => some s
  | .int n => if 0 ≤ n then kindNames[n.toNat]? else none
  | _ => none

/-- Whether members have different names as far as the names have a meaning. -/
def isUnique (members : List (String × Json)) (names : List String) : Bool :=
  names.all fun name => !Json.isRepeated members name

/-- The model that a field leads to. -/
def targetModel? (members : List (String × Json)) : Option String :=
  (Json.member? members "model").bind stringOf?

/-- The kind of a field of the name of a kind. -/
def kindOf? (members : List (String × Json)) (name : String) : Option FieldKind :=
  match ScalarKind.ofName? name with
  | some k => some (.scalar k)
  | none =>
    match name with
    | "embedded" =>
      if isUnique members ["model"] then (targetModel? members).map .embedded else none
    | "embedded_array" =>
      if isUnique members ["model"] then (targetModel? members).map .embeddedArray else none
    | "foreign_key" =>
      if isUnique members ["model", "to_field", "stored_as"] then
        match targetModel? members, optionalString? (Json.member? members "to_field"),
          storedAs? (Json.member? members "stored_as") with
        | some model, some target, some storedAs => some (.foreignKey model target storedAs)
        | _, _, _ => none
      else none
    | _ => none

/-- Levels of arrays and objects around the members of a field. -/
def fieldDepth : Nat := 4

/-- The field of members. -/
def fieldOf? (members : List (String × Json)) : Option Field :=
  if isUnique members ["name", "null", "column", "type"]
      && Json.readableMembers (Json.nestingLimit - fieldDepth) members then
    match (Json.member? members "name").bind stringOf?, flag? (Json.member? members "null"),
      optionalString? (Json.member? members "column"),
      (Json.member? members "type").bind kindName? with
    | some name, some nullable, some column, some kind =>
      (kindOf? members kind).map fun kind => ⟨name, kind, nullable, column⟩
    | _, _, _, _ => none
  else none

/-- The fields of a model. -/
def fieldsOf? : Json → Option (List Field)
  | .array items =>
    items.mapM fun item =>
      match item with
      | .object members => fieldOf? members
      | _ => none
  | _ => none

/-- The model of its parts. -/
def modelOfParts? (name collection embedded fields : Option Json) : Option Model :=
  match name.bind stringOf?, optionalString? collection, flag? embedded,
      fields.bind fieldsOf? with
  | some name, some collection, some embedded, some fields =>
    some ⟨name, collection, embedded, fields⟩
  | _, _, _, _ => none

/-- The model of a JSON tree. -/
def modelOf? : Json → Option Model
  | .object members =>
    if isUnique members ["name", "collection", "embedded", "fields"] then
      modelOfParts? (Json.member? members "name") (Json.member? members "collection")
        (Json.member? members "embedded") (Json.member? members "fields")
    else none
  | .array [name, collection, embedded, fields] =>
    modelOfParts? (some name) (some collection) (some embedded) (some fields)
  | _ => none

/-- The schema of a text. -/
def read (text : String) : Except SchemaError Schema :=
  match Json.read? text with
  | some (.array items) =>
    match items.mapM modelOf? with
    | none => .error .malformed
    | some models =>
      match ofModels models with
      | .ok s => .ok s
      | .error name => .error (.duplicateModel name)
  | _ => .error .malformed

/-- The schema of a text if it has no problems. -/
def readValid (text : String) : Except SchemaError Schema :=
  match read text with
  | .error e => .error e
  | .ok s =>
    match s.validate with
    | .error e => .error e
    | .ok () => .ok s

end DocQuery.Schema
