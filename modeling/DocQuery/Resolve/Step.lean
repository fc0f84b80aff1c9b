import DocQuery.Access.Basic
import DocQuery.Compile.Compiler
import DocQuery.Text.Segment
set_option autoImplicit false

/-!
# Resolve: one name of a path

A name behind a value is a field of an embedded document, a position or a field in an array, a
member of a value without declared fields, or the lookup at the end of the path.
-/

namespace DocQuery

/-- Where a name of a path leads. -/
inductive Landing where
  | access (a : Access)
  | lookup (l : Lookup)
  deriving DecidableEq, Repr

/-- The landing of an access inside an array, seen from outside. -/
def Landing.insideEach (array : Access) : Landing → Landing
  | .access a => .access (.each array a)
  | .lookup l => .lookup l

namespace Compiler

/-- The lookup of a name, which has to be the last one of its path. -/
def terminalLookup? (name : String) (last : Bool) : Option Lookup :=
  if last then Lookup.ofName? name else none

/-- The lookup of a name, or an error if it is none. -/
def lookupOr (name : String) (last : Bool) (e : CompileError) : Except CompileError Landing :=
  match terminalLookup? name last with
  | some l => .ok (.lookup l)
  | none => .error e

/-- A field of an embedded document. -/
def keyStep (base : Access) (m : Model) (f : Field) : Except CompileError Landing :=
  if f.kind.isRelation then .error (.relationInEmbedded m.name f.name)
  else .ok (.access (.key base f.column (.ofField f.kind)))

/-- A name behind a value without declared fields: a lookup that values of the type take, or
else a member. -/
def memberStep (base : Access) (type : ValueType) (name : String) (last : Bool) : Landing :=
  let member : Landing := .access (.jsonKey base name (.scalar .json))
  match terminalLookup? name last with
  | some l => if (Lookup.allowed type).contains l then .lookup l else member
  | none => member

/-- The name of the length of an array. -/
def lengthName : String := "len"

/-- The length, a position or two positions behind an array. -/
def arrayStep (array : Access) (model name : String) : Except CompileError (Option Access) :=
  if name = lengthName then .ok (some (.length array (.scalar .integer)))
  else
    match Text.position? name with
    | some n => .ok (some (.index array (Int64.ofNat n) (.embedded model)))
    | none =>
      match Text.positions? name with
      | some (start, stop) =>
        if start < stop then
          .ok (some (.slice array (Int64.ofNat start) (Int64.ofNat stop)
            (.embeddedArray model)))
        else .error (.invalidSlice name)
      | none => .ok none

/-- A name behind an embedded document, with the error if it is neither a field nor a lookup. -/
def documentStep (base : Access) (m : Model) (name : String) (last : Bool) (e : CompileError) :
    Except CompileError Landing :=
  match m.field? name with
  | some f => keyStep base m f
  | none => lookupOr name last e

/-- A field of the documents of an array, seen from inside. -/
def itemStep (array : Access) (m : Model) (model name : String) : Except CompileError Landing :=
  match m.field? name with
  | some f =>
    match keyStep (.item (.embedded model)) m f with
    | .ok landing => .ok (landing.insideEach array)
    | .error e => .error e
  | none =>
    match Lookup.ofName? name with
    | some _ => .error .arrayLookupNotAllowed
    | none => .error (.fieldDoesNotExist m.name name)

/-- A name behind what is read from each document of an array.  `mapped` is the type of all of
it. -/
def elementStep (c : Compiler) (inner : Access) (mapped : ValueType) (name : String)
    (last : Bool) : Except CompileError Landing :=
  match inner.type with
  | .embeddedArray model =>
    match arrayStep inner model name with
    | .error e => .error e
    | .ok (some a) => .ok (.access a)
    | .ok none =>
      match c.modelOf model with
      | .error e => .error e
      | .ok m =>
        match m.field? name with
        | some _ => .error .multiLevelArrayTraversal
        | none => lookupOr name last (c.unsupported name mapped)
  | .embedded model =>
    match c.modelOf model with
    | .error e => .error e
    | .ok m => documentStep inner m name last (c.unsupported name mapped)
  | .scalar .json => .ok (memberStep inner mapped name last)
  | _ => lookupOr name last (c.unsupported name mapped)

/-- A name behind a value. -/
def step (c : Compiler) (a : Access) (name : String) (last : Bool) :
    Except CompileError Landing :=
  match a.type with
  | .embedded model =>
    match c.modelOf model with
    | .error e => .error e
    | .ok m => documentStep a m name last (.fieldDoesNotExist m.name name)
  | .embeddedArray model =>
    match arrayStep a model name with
    | .error e => .error e
    | .ok (some b) => .ok (.access b)
    | .ok none =>
      match c.modelOf model with
      | .error e => .error e
      | .ok m => itemStep a m model name
  | .mapped element =>
    match a with
    | .each array inner =>
      match c.elementStep inner (.mapped element) name last with
      | .error e => .error e
      | .ok landing => .ok (landing.insideEach array)
    | _ => .error (.invalidPath name)
  | .scalar .json => .ok (memberStep a (.scalar .json) name last)
  | .scalar kind =>
    if name = lengthName then .error (c.unsupported name (.scalar kind))
    else lookupOr name last (c.unsupported name (.scalar kind))

end Compiler

end DocQuery
