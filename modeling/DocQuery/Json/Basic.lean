set_option autoImplicit false

/-!
# Json: trees

The tree of a JSON text, as written:  members keep their order and repeated names stay.  A
literal that is spelled well but has no value (a number beyond the range of floats, a string
with half of a surrogate pair) is a leaf of its own, since it matters only where the literal is
used.
-/

namespace DocQuery

/-- A JSON tree. -/
inductive Json where
  | null
  | bool (b : Bool)
  /-- an integer literal in the range of signed or unsigned 64-bit numbers -/
  | int (n : Int)
  /-- any other number literal -/
  | float (x : Float)
  | string (s : String)
  /-- a literal that has no value -/
  | broken
  | array (items : List Json)
  | object (members : List (String × Json))
  deriving Inhabited

namespace Json

mutual

/-- Whether a tree has a value everywhere and nests at most `limit` arrays and objects. -/
def readable : Nat → Json → Bool
  | _, .broken => false
  | limit, .array items =>
    match limit with
    | 0 => false
    | limit + 1 => readableItems limit items
  | limit, .object members =>
    match limit with
    | 0 => false
    | limit + 1 => readableMembers limit members
  | _, _ => true

/-- Whether all items are readable. -/
def readableItems : Nat → List Json → Bool
  | _, [] => true
  | limit, j :: rest => readable limit j && readableItems limit rest

/-- Whether the values of all members are readable. -/
def readableMembers : Nat → List (String × Json) → Bool
  | _, [] => true
  | limit, (_, j) :: rest => readable limit j && readableMembers limit rest

end

/-- Loaded texts nest at most this many arrays and objects. -/
def nestingLimit : Nat := 127

/-- The value of a member, the last one if its name is repeated. -/
def member? (members : List (String × Json)) (name : String) : Option Json :=
  (members.reverse.find? (·.1 == name)).map (·.2)

/-- Whether a name is given to more than one member. -/
def isRepeated (members : List (String × Json)) (name : String) : Bool :=
  1 < members.countP (·.1 == name)

end Json

end DocQuery
