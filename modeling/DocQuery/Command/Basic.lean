import DocQuery.Compile.Basic
import DocQuery.Execution.Pipeline
import DocQuery.FilterText.Parser
import DocQuery.Schema.Reader
import DocQuery.Store.Basic
import DocQuery.Text.Blank
set_option autoImplicit false

/-!
# Command: what the program does

The program compiles a filter text on a model of a schema, runs the result on documents, or
checks a schema.  Here everything is a text; files are read elsewhere.
-/

namespace DocQuery

/-- A query as it is given to the program. -/
structure QueryRequest where
  /-- the text of the schema -/
  schema : String
  /-- the text of the settings -/
  config : Option String
  model : String
  /-- the text of the filter -/
  filter : Option String
  /-- the paths that are returned -/
  values : List String
  /-- the paths that documents are ordered by, with a minus sign for descending order -/
  orderBy : List String
  offset : Option Nat
  limit : Option Nat

/-- Why the program fails. -/
inductive CommandError where
  | parse (e : FilterText.ParseError)
  | compile (e : CompileError)
  | execution (e : ExecError)
  | schema (e : SchemaError)
  /-- a text of settings or documents that cannot be read -/
  | malformed
  /-- there are no documents to run a query on -/
  | noData

/-- The text of a failure. -/
def CommandError.message : CommandError → String
  | .parse e => "Parse error: " ++ e.message
  | .compile e => "Compile error: " ++ e.message
  | .execution e => "Execution error: " ++ e.message
  | .schema e => "Schema error: " ++ e.message
  | .malformed => "Invalid JSON"
  | .noData => "No data provided. Use --data or pipe JSON to stdin."

namespace QueryRequest

/-- The settings that are given, or the usual ones. -/
def settings (r : QueryRequest) : Except CommandError Config :=
  match r.config with
  | none => .ok .usual
  | some text =>
    match Config.read? text with
    | some c => .ok c
    | none => .error .malformed

/-- The filter that is given; a text of blanks is none. -/
def condition (r : QueryRequest) : Except CommandError (Option Filter) :=
  match r.filter with
  | none => .ok none
  | some text =>
    if Text.trim text = "" then .ok none
    else
      match FilterText.parse text with
      | .ok f => .ok (some f)
      | .error e => .error (.parse e)

/-- The query of a filter. -/
def query (r : QueryRequest) (filter : Option Filter) : Query :=
  .mk r.model filter [] r.values (r.orderBy.map OrderKey.ofText) r.offset r.limit [] none

/-- Compiles a query. -/
def compile (r : QueryRequest) : Except CommandError Aggregation :=
  match Schema.readValid r.schema with
  | .error e => .error (.schema e)
  | .ok schema =>
    match r.settings with
    | .error e => .error e
    | .ok config =>
      match r.condition with
      | .error e => .error e
      | .ok filter =>
        match (Compiler.mk schema config).compile (r.query filter) with
        | .ok a => .ok a
        | .error e => .error (.compile e)

/-- Compiles a query and runs it on the documents of a text. -/
def run (r : QueryRequest) (data : Option String) : Except CommandError (List Value) :=
  match r.compile with
  | .error e => .error e
  | .ok a =>
    match data with
    | none => .error .noData
    | some text =>
      match Store.read? text with
      | none => .error .malformed
      | some store =>
        match store.aggregate a.collection a.pipeline with
        | .ok docs => .ok docs
        | .error e => .error (.execution e)

end QueryRequest

/-- The problems of the schema of a text. -/
def Schema.problemsOf (text : String) : Except CommandError (List Problem) :=
  match Schema.read text with
  | .ok s => .ok s.check
  | .error e => .error (.schema e)

end DocQuery
