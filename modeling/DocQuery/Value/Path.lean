import DocQuery.Value.Basic
set_option autoImplicit false

/-!
# Value: paths into documents

A path names a member of a document, of a document inside it, and so on, with points between the
names. Reading a path through an array gives the array of what its documents hold there; setting
a path makes the documents on its way that are not there.
-/

namespace DocQuery.Value

/-- The names on a path. -/
def pathNames (path : String) : List String := Text.split '.' path

mutual

/-- What a value holds behind names.  Arrays are read item by item. -/
def walk : Value → List String → Option Value
  | v, [] => some v
  | .object fields, name :: names => walkField fields name names
  | .array items, name :: names => some (.array (walkItems items name names))
  | _, _ :: _ => none

/-- What the member of a name holds behind further names. -/
def walkField : List (String × Value) → String → List String → Option Value
  | [], _, _ => none
  | (k, v) :: rest, name, names => if k = name then walk v names else walkField rest name names

/-- What those items hold that are documents and hold something behind the names. -/
def walkItems : List Value → String → List String → List Value
  | [], _, _ => []
  | item :: rest, name, names =>
    match item with
    | .object fields =>
      match walkField fields name names with
      | some v => v :: walkItems rest name names
      | none => walkItems rest name names
    | _ => walkItems rest name names

end

/-- What a value holds at a path. -/
def getPath (v : Value) (path : String) : Option Value := walk v (pathNames path)

/-- The members of an object, none for any other value. -/
def fieldsOrEmpty : Value → Document
  | .object fields => fields
  | _ => []

/-- Sets what a value holds behind names.  A member on the way moves to the end of its
object. -/
def setNames (doc : Value) : List String → Value → Value
  | [], v => v
  | [name], v => .object (Document.insert doc.fieldsOrEmpty name v)
  | name :: next :: names, v =>
    let fields := doc.fieldsOrEmpty
    let child := (Document.value? fields name).getD .null
    .object (Document.insert (Document.erase fields name) name
      (setNames child (next :: names) v))

/-- Sets what a value holds at a path. -/
def setPath (doc : Value) (path : String) (v : Value) : Value := setNames doc (pathNames path) v

theorem walkField_eq (fields : Document) (name : String) (names : List String) :
    walkField fields name names = (Document.value? fields name).bind (walk · names) := by
  induction fields with
  | nil => simp [walkField, Document.value?]
  | cons m rest ih =>
    obtain ⟨k, v⟩ := m
    by_cases h : k = name <;> simp [walkField, Document.value?, h, ih]

end DocQuery.Value
