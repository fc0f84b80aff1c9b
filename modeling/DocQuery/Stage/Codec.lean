import DocQuery.Stage.Basic
import DocQuery.Value.Printer
set_option autoImplicit false

/-!
# Stage: stages as documents

Every stage is written as an object with one member, named like the stage.  Reading accepts a
few more forms than writing produces:  a union without a pipeline, counts as floats, a lookup
without bindings.
-/

namespace DocQuery

/-- Why a document is no stage. -/
inductive StageError where
  /-- the document is no object with one operator; its printed form -/
  | shape (document : String)
  /-- there is no stage of the name -/
  | unknown (name : String)
  /-- the argument of a stage is not what the stage takes -/
  | argument (stage : String) (reason : String)
  deriving DecidableEq, Repr

/-- The text of an error. -/
def StageError.message : StageError → String
  | .shape document => "a stage must be an object with exactly one key, got " ++ document
  | .unknown name => "unknown stage '" ++ name ++ "'"
  | .argument stage reason => "invalid argument to " ++ stage ++ ": " ++ reason

namespace Stage

/-- The path of a field as expressions write it. -/
def fieldPath (path : String) : Value := .string ("$" ++ path)

/-! ## Writing -/

mutual

/-- A stage as a document. -/
def toDocument : Stage → Value
  | .select query => .operator "$match" query
  | .project fields => .operator "$project" (.object fields)
  | .addFields fields => .operator "$addFields" (.object fields)
  | .set fields => .operator "$set" (.object fields)
  | .lookup source bindings pipeline target =>
    .operator "$lookup" (.object
      [("from", .string source), ("let", .object bindings),
        ("pipeline", .array (toDocumentList pipeline)), ("as", .string target)])
  | .unwind path keepEmpty =>
    .operator "$unwind"
      (if keepEmpty then
        .object [("path", fieldPath path), ("preserveNullAndEmptyArrays", .bool true)]
        else fieldPath path)
  | .facet facets => .operator "$facet" (.object (Document.ofList (toFacetMembers facets)))
  | .group key fields => .operator "$group" (.object (Document.insertAll [("_id", key)] fields))
  | .sort keys =>
    .operator "$sort" (.object (Document.ofList (keys.map fun k => (k.1, k.2.toValue))))
  | .skip n => .operator "$skip" (.ofNat n)
  | .limit n => .operator "$limit" (.ofNat n)
  | .unionWith collection pipeline =>
    .operator "$unionWith" (.object
      [("coll", .string collection), ("pipeline", .array (toDocumentList pipeline))])
  | .count field => .operator "$count" (.string field)

/-- The documents of a pipeline. -/
def toDocumentList : List Stage → List Value
  | [] => []
  | s :: rest => toDocument s :: toDocumentList rest

/-- The members of a facet stage. -/
def toFacetMembers : List (String × List Stage) → List (String × Value)
  | [] => []
  | (name, pipeline) :: rest =>
    (name, .array (toDocumentList pipeline)) :: toFacetMembers rest

end

/-- A pipeline as an array of documents. -/
def toDocuments (stages : List Stage) : Value := .array (toDocumentList stages)

/-! ## Reading -/

/-- The members of an argument that has to be an object. -/
def fieldsOf (stage : String) : Value → Except StageError Document
  | .object fields => .ok fields
  | _ => .error (.argument stage "expected an object")

/-- An argument that has to be a count. -/
def countOf (stage : String) (body : Value) : Except StageError Nat :=
  match body.int? with
  | some n =>
    if 0 ≤ n.toInt then .ok n.toInt.toNat
    else .error (.argument stage "expected a non-negative integer")
  | none => .error (.argument stage "expected a non-negative integer")

/-- A member of a lookup that has to be a string. -/
def lookupText (spec : Document) (key : String) : Except StageError String :=
  match (Document.value? spec key).bind Value.string? with
  | some s => .ok s
  | none => .error (.argument "$lookup" ("missing '" ++ key ++ "'"))

/-- The path behind the dollar sign of an unwound field. -/
def unwindPath (path : String) : Except StageError String :=
  match Text.stripFirst? '$' path with
  | some rest => .ok rest
  | none => .error (.argument "$unwind" ("field path '" ++ path ++ "' must start with '$'"))

/-- The argument of an unwind stage. -/
def unwindOf : Value → Except StageError Stage
  | .string path =>
    match unwindPath path with
    | .ok path => .ok (.unwind path false)
    | .error e => .error e
  | .object spec =>
    match unwindPath (((Document.value? spec "path").bind Value.string?).getD "") with
    | .ok path =>
      .ok (.unwind path (isTruthy? (Document.value? spec "preserveNullAndEmptyArrays")))
    | .error e => .error e
  | _ => .error (.argument "$unwind" "expected a field path")

/-- The argument of a group stage. -/
def groupOf (body : Value) : Except StageError Stage :=
  match fieldsOf "$group" body with
  | .error e => .error e
  | .ok spec =>
    match Document.value? spec "_id" with
    | some key => .ok (.group key (Document.erase spec "_id"))
    | none => .error (.argument "$group" "missing '_id'")

/-- The keys of a sort stage. -/
def sortKeysOf : Document → Except StageError (List (String × Direction))
  | [] => .ok []
  | (key, order) :: rest =>
    match order.int? with
    | some n =>
      if n = 1 ∨ n = -1 then
        match sortKeysOf rest with
        | .ok keys => .ok ((key, if n = 1 then .ascending else .descending) :: keys)
        | .error e => .error e
      else .error (.argument "$sort" ("invalid order for '" ++ key ++ "'"))
    | none => .error (.argument "$sort" ("invalid order for '" ++ key ++ "'"))

/-- The stages whose arguments hold no pipeline. -/
def ofPlainArgument (name : String) (body : Value) : Except StageError Stage :=
  match name with
  | "$match" => .ok (.select body)
  | "$project" => (fieldsOf "$project" body).map .project
  | "$addFields" => (fieldsOf "$addFields" body).map .addFields
  | "$set" => (fieldsOf "$set" body).map .set
  | "$unwind" => unwindOf body
  | "$group" => groupOf body
  | "$sort" =>
    match fieldsOf "$sort" body with
    | .ok spec => (sortKeysOf spec).map .sort
    | .error e => .error e
  | "$skip" => (countOf "$skip" body).map .skip
  | "$limit" => (countOf "$limit" body).map .limit
  | "$count" =>
    match body with
    | .string field => .ok (.count field)
    | _ => .error (.argument "$count" "expected a field name")
  | _ => .error (.unknown name)

mutual

/-- The stage that a document stands for. -/
def ofDocument : Value → Except StageError Stage
  | .object [(name, body)] =>
    if isOperatorName name then
      if name = "$lookup" then
        match body with
        | .object spec =>
          match lookupText spec "from" with
          | .error e => .error e
          | .ok source =>
            match ofPipelineMember spec with
            | .error e => .error e
            | .ok pipeline =>
              match lookupText spec "as" with
              | .error e => .error e
              | .ok target =>
                let bindings := ((Document.value? spec "let").bind Value.fields?).getD []
                .ok (.lookup source bindings pipeline target)
        | _ => .error (.argument "$lookup" "expected an object")
      else if name = "$facet" then
        match body with
        | .object spec => (ofFacetMembers spec).map .facet
        | _ => .error (.argument "$facet" "expected an object")
      else if name = "$unionWith" then
        match body with
        | .string collection => .ok (.unionWith collection [])
        | .object spec =>
          match ofPipelineMember spec with
          | .error e => .error e
          | .ok pipeline =>
            .ok (.unionWith (((Document.value? spec "coll").bind Value.string?).getD "")
              pipeline)
        | _ => .error (.argument "$unionWith" "expected an object")
      else ofPlainArgument name body
    else .error (.shape (Value.compactText (.object [(name, body)])))
  | document => .error (.shape document.compactText)

/-- The pipeline that an array of documents stands for. -/
def ofDocuments : Value → Except StageError (List Stage)
  | .array items => ofDocumentList items
  | other => .error (.shape other.compactText)

/-- The stages of the items of an array. -/
def ofDocumentList : List Value → Except StageError (List Stage)
  | [] => .ok []
  | item :: rest =>
    match ofDocument item with
    | .error e => .error e
    | .ok stage =>
      match ofDocumentList rest with
      | .error e => .error e
      | .ok stages => .ok (stage :: stages)

/-- The pipeline of the member `pipeline`, empty if there is none. -/
def ofPipelineMember : List (String × Value) → Except StageError (List Stage)
  | [] => .ok []
  | (key, v) :: rest => if key = "pipeline" then ofDocuments v else ofPipelineMember rest

/-- The pipelines of the members of a facet stage. -/
def ofFacetMembers : List (String × Value) → Except StageError (List (String × List Stage))
  | [] => .ok []
  | (name, v) :: rest =>
    match ofDocuments v with
    | .error e => .error e
    | .ok stages =>
      match ofFacetMembers rest with
      | .error e => .error e
      | .ok facets => .ok ((name, stages) :: facets)

end

end Stage

end DocQuery
