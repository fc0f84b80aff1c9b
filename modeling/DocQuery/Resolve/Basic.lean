import DocQuery.Compile.Context
import DocQuery.Resolve.Step
set_option autoImplicit false

/-!
# Resolve: paths

A path is followed name by name from the model of a query.  Relations on the way become joins of
the context, also if the path turns out to be wrong further on.
-/

namespace DocQuery

/-- What a path leads to. -/
structure Resolved where
  target : Access
  /-- the lookup at the end of the path; equality if there is none -/
  lookup : Lookup
  /-- the places of the joins on the way -/
  joins : List Nat
  deriving DecidableEq, Repr

/-- Where a path has led so far. -/
inductive Place where
  /-- at a document: its model, the alias it is joined as, and the path of the relation to it -/
  | document (model : Model) (joined : Option String) (relation : String)
  | value (a : Access)
  deriving DecidableEq, Repr

/-- Where a path ends: a value, possibly with a lookup, and the joins on the way. -/
structure Ending where
  target : Access
  lookup? : Option Lookup
  joins : List Nat
  deriving DecidableEq, Repr

namespace Compiler

/-- The field that foreign keys refer to. -/
def usualKey : String := "id"

/-- Whether a foreign key is read as the key that it stores: at the end of a path, and where a
lookup follows that is no field of the other model. -/
def readsStoredKey (target : Model) : List String → Bool
  | [] => true
  | next :: _ => (Lookup.ofName? next).isSome && (target.field? next).isNone

/-- The path of a relation behind another one. -/
def relationPath (relation name : String) : String :=
  if relation = "" then name else Text.extendPath relation name

/-- Follows the names of a path from a place. -/
def follow (c : Compiler) (path : String) :
    Place → List String → List Nat → Context → Except CompileError Ending × Context
  | .value a, [], joins, ctx => (.ok ⟨a, none, joins⟩, ctx)
  | .document _ _ _, [], _, ctx => (.error (.invalidPath path), ctx)
  | .value a, name :: rest, joins, ctx =>
    match c.step a name rest.isEmpty with
    | .error e => (.error e, ctx)
    | .ok (.access b) => follow c path (.value b) rest joins ctx
    | .ok (.lookup l) => (.ok ⟨a, some l, joins⟩, ctx)
  | .document m joined relation, name :: rest, joins, ctx =>
    match m.field? name with
    | none => (.error (.fieldDoesNotExist m.name name), ctx)
    | some f =>
      let column : Place := .value (.column joined f.column (.ofField f.kind))
      match f.kind with
      | .foreignKey targetName targetField _ =>
        match c.modelOf targetName with
        | .error e => (.error e, ctx)
        | .ok target =>
          if readsStoredKey target rest then follow c path column rest joins ctx
          else
            let key := targetField.getD usualKey
            match target.field? key with
            | none => (.error (.fieldDoesNotExist target.name key), ctx)
            | some k =>
              let relation := relationPath relation name
              let ((joined, index), ctx) := ctx.join relation joined f target k
              follow c path (.document target (some joined) relation) rest
                (joins ++ [index]) ctx
      | _ => follow c path column rest joins ctx

/-- Follows a path from the document of a query; its first name may be a computed column. -/
def followPath (c : Compiler) (ctx : Context) (path : String) :
    Except CompileError Ending × Context :=
  let names := Text.segments path
  if names.contains "" then (.error (.invalidPath path), ctx)
  else
    let start := names.headD ""
    match ctx.computedType? start with
    | some type =>
      c.follow path (.value (.computed start type)) names.tail [] (ctx.refer start)
    | none => c.follow path (.document ctx.model none "") names [] ctx

/-- The end of a path as a value compared by a lookup, which the type of the value has to
take. -/
def compared (c : Compiler) (e : Ending) : Except CompileError Resolved :=
  let lookup := e.lookup?.getD .exact
  if (Lookup.allowed e.target.type).contains lookup then .ok ⟨e.target, lookup, e.joins⟩
  else
    match e.target.type with
    | .embeddedArray _ => .error .arrayLookupNotAllowed
    | type => .error (c.unsupported lookup.name type)

/-- The end of a path as a value, which must not be a lookup. -/
def referred (path : String) (e : Ending) : Except CompileError Resolved :=
  match e.lookup? with
  | some l => .error (.lookupInReference path l.name)
  | none => .ok ⟨e.target, .exact, e.joins⟩

/-- What the path of a filter leads to. -/
def resolveLookup (c : Compiler) (ctx : Context) (path : String) :
    Except CompileError Resolved × Context :=
  match c.followPath ctx path with
  | (.ok e, ctx) => (c.compared e, ctx)
  | (.error e, ctx) => (.error e, ctx)

/-- What the path of a reference leads to. -/
def resolveField (c : Compiler) (ctx : Context) (path : String) :
    Except CompileError Resolved × Context :=
  match c.followPath ctx path with
  | (.ok e, ctx) => (referred path e, ctx)
  | (.error e, ctx) => (.error e, ctx)

end Compiler

end DocQuery
