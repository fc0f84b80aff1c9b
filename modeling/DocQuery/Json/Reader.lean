import DocQuery.Json.Basic
import DocQuery.Json.Token
set_option autoImplicit false

/-!
# Json: reading a text

The tokens of a text are put together by a machine with a stack of open arrays and objects.
-/

namespace DocQuery.Json

/-- An array or object that is still open, with what it holds so far, last first. -/
inductive Frame where
  | array (items : List Json)
  /-- an object, with the name of the member being read -/
  | object (members : List (String × Json)) (name : String)

/-- What may come next. -/
inductive Phase where
  /-- a value -/
  | value
  /-- the first item of an array, or its end -/
  | firstItem
  /-- the name of a member behind the members read so far -/
  | name (members : List (String × Json))
  /-- the name of the first member of an object, or its end -/
  | firstName
  /-- a colon behind a name -/
  | colon (members : List (String × Json)) (name : String)
  /-- what follows a complete value -/
  | done (value : Json)

/-- A state of the machine: the open arrays and objects, innermost first, and what may come
next. -/
structure Building where
  stack : List Frame
  phase : Phase

namespace Building

/-- The start of a text. -/
def start : Building := ⟨[], .value⟩

/-- Begins a value. -/
def openValue (stack : List Frame) : Token → Option Building
  | .openArray => some ⟨stack, .firstItem⟩
  | .openObject => some ⟨stack, .firstName⟩
  | .null => some ⟨stack, .done .null⟩
  | .bool b => some ⟨stack, .done (.bool b)⟩
  | .int n => some ⟨stack, .done (.int n)⟩
  | .float x => some ⟨stack, .done (.float x)⟩
  | .string s => some ⟨stack, .done (.string s)⟩
  | .broken => some ⟨stack, .done .broken⟩
  | _ => none

/-- Goes on behind a complete value inside an array or object. -/
def closeValue (frame : Frame) (stack : List Frame) (value : Json) : Token → Option Building
  | .comma =>
    match frame with
    | .array items => some ⟨.array (value :: items) :: stack, .value⟩
    | .object members name => some ⟨stack, .name ((name, value) :: members)⟩
  | .closeArray =>
    match frame with
    | .array items => some ⟨stack, .done (.array (value :: items).reverse)⟩
    | .object _ _ => none
  | .closeObject =>
    match frame with
    | .array _ => none
    | .object members name => some ⟨stack, .done (.object ((name, value) :: members).reverse)⟩
  | _ => none

/-- Reads one token. -/
def step (b : Building) (t : Token) : Option Building :=
  match b.phase with
  | .value => openValue b.stack t
  | .firstItem =>
    match t with
    | .closeArray => some ⟨b.stack, .done (.array [])⟩
    | _ => openValue (.array [] :: b.stack) t
  | .name members =>
    match t with
    | .string s => some ⟨b.stack, .colon members s⟩
    | _ => none
  | .firstName =>
    match t with
    | .closeObject => some ⟨b.stack, .done (.object [])⟩
    | .string s => some ⟨b.stack, .colon [] s⟩
    | _ => none
  | .colon members name =>
    match t with
    | .colon => some ⟨.object members name :: b.stack, .value⟩
    | _ => none
  | .done value =>
    match b.stack with
    | [] => none
    | frame :: stack => closeValue frame stack value t

/-- Reads tokens one after another. -/
def run : Building → List Token → Option Building
  | b, [] => some b
  | b, t :: rest =>
    match b.step t with
    | none => none
    | some next => run next rest

/-- The tree, if the text is complete. -/
def finish (b : Building) : Option Json :=
  match b.stack, b.phase with
  | [], .done value => some value
  | _, _ => none

end Building

/-- The tree of a JSON text. -/
def read? (text : String) : Option Json :=
  match tokens? text with
  | none => none
  | some ts => (Building.start.run ts).bind Building.finish

end DocQuery.Json
