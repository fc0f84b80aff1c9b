import DocQuery.Json.Reader
import DocQuery.Value.Extended
set_option autoImplicit false

/-!
# Store: collections of documents

A store maps names to collections.  A collection that was never written to is empty.
-/

namespace DocQuery

/-- Collections by name. -/
structure Store where
  collections : List (String × List Value)
  deriving Inhabited

namespace Store

/-- The store without documents. -/
def empty : Store := ⟨[]⟩

/-- The documents of a collection among others. -/
def find : List (String × List Value) → String → List Value
  | [], _ => []
  | (k, docs) :: rest, name => if k = name then docs else find rest name

/-- Collections with more documents in one of them. -/
def extend : List (String × List Value) → String → List Value → List (String × List Value)
  | [], name, docs => [(name, docs)]
  | (k, old) :: rest, name, docs =>
    if k = name then (k, old ++ docs) :: rest else (k, old) :: extend rest name docs

/-- The documents of a collection. -/
def collection (s : Store) (name : String) : List Value := find s.collections name

/-- The store with more documents at the end of a collection. -/
def insertMany (s : Store) (name : String) (docs : List Value) : Store :=
  ⟨extend s.collections name docs⟩

/-- The store with one more document at the end of a collection. -/
def insert (s : Store) (name : String) (doc : Value) : Store := s.insertMany name [doc]

/-- The documents that a member of a stored text holds: the items of an array, or one
document. -/
def documentsOf : Json → List Value
  | .array items => Value.ofJsonItems items
  | single => [Value.ofJson single]

/-- Whether a name is given to a later member. -/
def isOverridden (rest : List (String × Json)) (name : String) : Bool := rest.any (·.1 == name)

/-- The collections of the members of a stored text; of members of one name the last one
counts. -/
def ofMembers : List (String × Json) → List (String × List Value)
  | [] => []
  | (name, j) :: rest =>
    if isOverridden rest name then ofMembers rest else (name, documentsOf j) :: ofMembers rest

/-- The store that a JSON text holds: an object with a member for each collection. -/
def read? (text : String) : Option Store :=
  match Json.read? text with
  | some (.object members) =>
    if (Json.object members).readable Json.nestingLimit then some ⟨ofMembers members⟩ else none
  | _ => none

end Store

end DocQuery
