import DocQuery.Json.Reader
import DocQuery.Number.Reading
set_option autoImplicit false

/-!
# Config: settings of the compiler

Every setting has a usual value, so a configuration text gives only those that differ.  It may
also be an array that gives the settings in order.
-/

namespace DocQuery

/-- The settings of the compiler. -/
structure Config where
  /-- how many names an error suggests at most -/
  maxSuggestions : Nat
  /-- how similar a suggested name is at least, between zero and one -/
  suggestionCutoff : Float
  /-- how the variables start that carry values of an outer document -/
  parentPrefix : String
  /-- how the fields start that hold the results of subqueries -/
  subqueryPrefix : String

namespace Config

/-- The usual settings. -/
def usual : Config := ⟨3, 0.6, "parent__field__", "__subquery"⟩

instance : Inhabited Config := ⟨usual⟩

/-- The variable that carries the value of a number. -/
def parentVariable (c : Config) (index : Nat) : String := c.parentPrefix ++ toString index

/-- The field that holds the result of a subquery of a number. -/
def subqueryField (c : Config) (index : Nat) : String := c.subqueryPrefix ++ toString index

/-! ## Reading -/

/-- A count, or what is usual if none is given. -/
def count? (usual : Nat) : Option Json → Option Nat
  | none => some usual
  | some (.int n) => if 0 ≤ n then some n.toNat else none
  | some _ => none

/-- A number, or what is usual if none is given. -/
def number? (usual : Float) : Option Json → Option Float
  | none => some usual
  | some (.int n) => some (Number.floatOf (n < 0) ⟨n.natAbs, 0⟩)
  | some (.float x) => some x
  | some _ => none

/-- A text, or what is usual if none is given. -/
def text? (usual : String) : Option Json → Option String
  | none => some usual
  | some (.string s) => some s
  | some _ => none

/-- The settings of their parts. -/
def ofParts? (suggestions cutoff parent subquery : Option Json) : Option Config :=
  match count? usual.maxSuggestions suggestions, number? usual.suggestionCutoff cutoff,
    text? usual.parentPrefix parent, text? usual.subqueryPrefix subquery with
  | some n, some x, some p, some q => some ⟨n, x, p, q⟩
  | _, _, _, _ => none

/-- The names of the settings, in order. -/
def memberNames : List String :=
  ["max_suggestions", "suggestion_cutoff", "parent_field_prefix", "subquery_prefix"]

/-- The settings of a JSON tree. -/
def ofJson? : Json → Option Config
  | .object members =>
    if memberNames.all fun name => !Json.isRepeated members name then
      ofParts? (Json.member? members "max_suggestions") (Json.member? members
        "suggestion_cutoff") (Json.member? members "parent_field_prefix") (Json.member? members
        "subquery_prefix")
    else none
  | .array items =>
    if items.length ≤ memberNames.length then ofParts? items[0]? items[1]? items[2]? items[3]?
    else none
  | _ => none

/-- The settings of a text. -/
def read? (text : String) : Option Config := (Json.read? text).bind ofJson?

end Config

end DocQuery
