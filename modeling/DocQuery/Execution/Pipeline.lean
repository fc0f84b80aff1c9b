import DocQuery.Execution.Accumulator
import DocQuery.Execution.Query
import DocQuery.Stage.Basic
import DocQuery.Store.Basic
set_option autoImplicit false

/-!
# Execution: pipelines

A pipeline turns documents into documents, stage by stage.  Expressions see the current document
and the variables that the lookups around the pipeline bind.
-/

namespace DocQuery.Stage

/-! ## Single documents -/

/-- Goes through documents with a step that may fail. -/
def each {α : Type} (step : Value → Except ExecError α) : List Value → Except ExecError (List α)
  | [] => .ok []
  | doc :: rest =>
    match step doc with
    | .error e => .error e
    | .ok a =>
      match each step rest with
      | .error e => .error e
      | .ok as => .ok (a :: as)

/-- The documents that a query selects. -/
def selected (query : Value) (vars : Document) : List Value → Except ExecError (List Value)
  | [] => .ok []
  | doc :: rest =>
    match query.selects ⟨doc, vars⟩ with
    | .error e => .error e
    | .ok keep =>
      match selected query vars rest with
      | .error e => .error e
      | .ok docs => .ok (if keep then doc :: docs else docs)

/-- Whether a value says by its truth if a field is kept, instead of computing it. -/
def isFlag : Value → Bool
  | .int _ => true
  | .bool _ => true
  | .float _ => true
  | _ => false

/-- Whether a projection leaves fields out: all its fields but the identity are false flags. -/
def isExclusion (fields : Document) : Bool :=
  !fields.isEmpty && fields.all fun m => m.1 == "_id" || (isFlag m.2 && !m.2.isTruthy)

/-- Removes the fields that a projection leaves out. -/
def excluded (doc : Value) (fields : Document) : Value :=
  .object (doc.fieldsOrEmpty.filter fun m =>
    !fields.any fun f => f.1 == m.1 && !f.2.isTruthy)

/-- Adds the fields that a projection keeps or computes to an output. -/
def projected (scope : Scope) : Document → Document → Except ExecError Document
  | output, [] => .ok output
  | output, (name, v) :: rest =>
    let result : Evaluation :=
      if isFlag v then .ok (if v.isTruthy then scope.root.getPath name else
        none) else v.eval scope
    match result with
    | .error e => .error e
    | .ok (some w) => projected scope (Document.insert output name w) rest
    | .ok none => projected scope output rest

/-- The projection of a document.  The identity is kept unless the projection mentions it. -/
def projection (fields : Document) (vars : Document) (doc : Value) : Except ExecError Value :=
  if isExclusion fields then .ok (excluded doc fields)
  else
    let start : Document :=
      if Document.has fields "_id" then []
      else
        match doc.field? "_id" with
        | some id => [("_id", id)]
        | none => []
    (projected ⟨doc, vars⟩ start fields).map .object

/-- What fields evaluate to. -/
def computed (scope : Scope) : Document → Except ExecError (List (String × Option Value))
  | [] => .ok []
  | (name, expr) :: rest =>
    match expr.eval scope with
    | .error e => .error e
    | .ok v =>
      match computed scope rest with
      | .error e => .error e
      | .ok others => .ok ((name, v) :: others)

/-- Sets a computed field of a document; what is missing removes the field of just this name. -/
def setComputed (doc : Value) (field : String × Option Value) : Value :=
  match field.2 with
  | some v => doc.setPath field.1 v
  | none =>
    match doc with
    | .object members => .object (Document.erase members field.1)
    | other => other

/-- The document with computed fields, all of which are computed from the document as it
came. -/
def addComputed (fields : Document) (vars : Document) (doc : Value) : Except ExecError Value :=
  (computed ⟨doc, vars⟩ fields).map fun results => results.foldl setComputed doc

/-- The variables of a lookup:  bindings seen from a document on top of the outer variables.
What is missing is bound to null. -/
def bound (scope : Scope) : Document → Document → Except ExecError Document
  | vars, [] => .ok vars
  | vars, (name, expr) :: rest =>
    match expr.eval scope with
    | .error e => .error e
    | .ok v => bound scope (Document.insert vars name (v.getD .null)) rest

/-- The documents that unwinding a path makes of a document. -/
def unwound (path : String) (keepEmpty : Bool) (doc : Value) : List Value :=
  match doc.getPath path with
  | some (.array (item :: rest)) => (item :: rest).map fun i => doc.setPath path i
  | some (.array []) => if keepEmpty then [doc] else []
  | some .null => if keepEmpty then [doc] else []
  | none => if keepEmpty then [doc] else []
  | some _ => [doc]

/-! ## Groups -/

/-- A group: its key and its documents. -/
structure Group where
  key : Value
  members : List Value

/-- Adds a document to the group of a key.  Keys are the same if they print the same. -/
def addToGroup (key doc : Value) : List Group → List Group
  | [] => [⟨key, [doc]⟩]
  | g :: rest =>
    if g.key.compactText = key.compactText then { g with members := g.members ++ [doc] } :: rest
    else g :: addToGroup key doc rest

/-- The groups of documents with their keys. -/
def groupsOf (keyed : List (Value × Value)) : List Group :=
  keyed.foldl (fun groups m => addToGroup m.1 m.2 groups) []

/-- The field that an accumulator computes for a group. -/
def accumulated (vars : Document) (members : List Value) (name : String) (v : Value) :
    Except ExecError Value :=
  match v.operator? with
  | none => .error (.typeError (.accumulator name))
  | some (operator, expr) =>
    match each (fun doc => expr.eval ⟨doc, vars⟩) members with
    | .error e => .error e
    | .ok inputs =>
      match Accumulator.ofName? operator with
      | some a => a.apply inputs
      | none => .error (.unknownOperator operator)

/-- Adds the fields of a group to its document. -/
def accumulatedFields (vars : Document) (members : List Value) :
    Document → Document → Except ExecError Document
  | output, [] => .ok output
  | output, (name, v) :: rest =>
    match accumulated vars members name v with
    | .error e => .error e
    | .ok w => accumulatedFields vars members (Document.insert output name w) rest

/-- The documents of groups. -/
def groupDocuments (fields vars : Document) : List Group → Except ExecError (List Value)
  | [] => .ok []
  | g :: rest =>
    match accumulatedFields vars g.members [("_id", g.key)] fields with
    | .error e => .error e
    | .ok doc =>
      match groupDocuments fields vars rest with
      | .error e => .error e
      | .ok docs => .ok (.object doc :: docs)

/-- Groups documents by the value of an expression. -/
def grouped (key : Value) (fields vars : Document) (docs : List Value) :
    Except ExecError (List Value) :=
  match each (fun doc => (key.eval ⟨doc, vars⟩).map fun k => (k.getD .null, doc)) docs with
  | .error e => .error e
  | .ok keyed => groupDocuments fields vars (groupsOf keyed)

/-! ## Order -/

/-- The order of two documents by sort keys, the first of which counts most. -/
def compareBy (a b : Value) : List (String × Direction) → Ordering
  | [] => .eq
  | (key, direction) :: rest =>
    (direction.apply (Value.compare? (a.getPath key) (b.getPath key))).then (compareBy a b rest)

/-- Documents in the order of sort keys; documents with equal keys stay in their order. -/
def sorted (keys : List (String × Direction)) (docs : List Value) : List Value :=
  docs.mergeSort fun a b => compareBy a b keys != .gt

/-! ## Pipelines -/

mutual

/-- What a stage makes of documents. -/
def run (store : Store) : Stage → Document → List Value → Except ExecError (List Value)
  | .select query, vars, docs => selected query vars docs
  | .project fields, vars, docs => each (projection fields vars) docs
  | .addFields fields, vars, docs => each (addComputed fields vars) docs
  | .set fields, vars, docs => each (addComputed fields vars) docs
  | .lookup source bindings pipeline target, vars, docs =>
    each
      (fun doc =>
        match bound ⟨doc, vars⟩ vars bindings with
        | .error e => .error e
        | .ok inner =>
          match runAll store pipeline inner (store.collection source) with
          | .error e => .error e
          | .ok results => .ok (doc.setPath target (.array results)))
      docs
  | .unwind path keepEmpty, _, docs => .ok (docs.flatMap (unwound path keepEmpty))
  | .facet facets, vars, docs =>
    match runFacets store facets vars docs with
    | .error e => .error e
    | .ok fields => .ok [.object (Document.ofList fields)]
  | .group key fields, vars, docs => grouped key fields vars docs
  | .sort keys, _, docs => .ok (sorted keys docs)
  | .skip n, _, docs => .ok (docs.drop n)
  | .limit n, _, docs => .ok (docs.take n)
  | .unionWith collection pipeline, vars, docs =>
    match runAll store pipeline vars (store.collection collection) with
    | .error e => .error e
    | .ok others => .ok (docs ++ others)
  | .count field, _, docs =>
    match docs with
    | [] => .ok []
    | _ => .ok [.object [(field, .ofNat docs.length)]]

/-- What a pipeline makes of documents. -/
def runAll (store : Store) : List Stage → Document → List Value → Except ExecError (List Value)
  | [], _, docs => .ok docs
  | stage :: rest, vars, docs =>
    match run store stage vars docs with
    | .error e => .error e
    | .ok results => runAll store rest vars results

/-- What several pipelines make of the same documents. -/
def runFacets (store : Store) :
    List (String × List Stage) → Document → List Value → Except ExecError Document
  | [], _, _ => .ok []
  | (name, pipeline) :: rest, vars, docs =>
    match runAll store pipeline vars docs with
    | .error e => .error e
    | .ok results =>
      match runFacets store rest vars docs with
      | .error e => .error e
      | .ok others => .ok ((name, .array results) :: others)

end

theorem runAll_append (store : Store) (p q : List Stage) (vars : Document)
    (docs : List Value) :
    runAll store (p ++ q) vars docs =
      (runAll store p vars docs).bind fun mid => runAll store q vars mid := by
  induction p generalizing docs with
  | nil => rfl
  | cons s rest ih =>
    simp only [List.cons_append, runAll]
    cases run store s vars docs with
    | error e => rfl
    | ok mid => exact ih mid

end DocQuery.Stage

namespace DocQuery.Store

/-- The documents that a pipeline makes of a collection. -/
def aggregate (s : Store) (collection : String) (pipeline : List Stage) :
    Except ExecError (List Value) :=
  Stage.runAll s pipeline [] (s.collection collection)

end DocQuery.Store
