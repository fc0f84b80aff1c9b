import DocQuery.Decimal.Basic
import DocQuery.Text.Split
set_option autoImplicit false

/-!
# Value: documents and their values

A value is what a stored document holds, and also what a pipeline is written in:  operators are
objects with one member whose name starts with a dollar sign.  Integers, floats and decimals are
kept apart.  The members of an object keep the order in which they were put in.
-/

namespace DocQuery

/-- A value of a document. -/
inductive Value where
  | null
  | bool (b : Bool)
  | int (n : Int64)
  | float (x : Float)
  | decimal (d : Decimal)
  | string (s : String)
  | array (items : List Value)
  | object (fields : List (String × Value))
  deriving Inhabited

/-- The members of an object, in order. -/
abbrev Document := List (String × Value)

namespace Document

/-- The value of a member. -/
def value? : Document → String → Option Value
  | [], _ => none
  | (k, v) :: rest, key => if k = key then some v else value? rest key

/-- Whether there is a member of the name. -/
def has (d : Document) (key : String) : Bool := d.any (·.1 == key)

/-- Sets a member: in its place if there is one of the name, else at the end. -/
def insert : Document → String → Value → Document
  | [], key, v => [(key, v)]
  | (k, w) :: rest, key, v =>
    if k = key then (k, v) :: rest else (k, w) :: insert rest key v

/-- Removes a member. -/
def erase (d : Document) (key : String) : Document := d.filter fun m => m.1 != key

/-- Sets members one after another. -/
def insertAll (d : Document) (members : List (String × Value)) : Document :=
  members.foldl (fun acc m => insert acc m.1 m.2) d

/-- The document of members in order; of members of one name the first place and the last value
count. -/
def ofList (members : List (String × Value)) : Document := insertAll [] members

/-- The names of the members. -/
def names (d : Document) : List String := d.map (·.1)

@[simp] theorem value?_nil (key : String) : value? [] key = none := rfl

@[simp] theorem value?_insert_self (d : Document) (key : String) (v : Value) :
    value? (insert d key v) key = some v := by
  induction d with
  | nil => simp [insert, value?]
  | cons m rest ih =>
    obtain ⟨k, w⟩ := m
    by_cases h : k = key <;> simp [insert, value?, h, ih]

theorem value?_insert_ne (d : Document) {key other : String} (v : Value) (h : key ≠ other) :
    value? (insert d key v) other = value? d other := by
  induction d with
  | nil => simp [insert, value?, h]
  | cons m rest ih =>
    obtain ⟨k, w⟩ := m
    by_cases hk : k = key
    · subst hk
      simp [insert, value?, h]
    · simp [insert, value?, hk, ih]

@[simp] theorem value?_erase_self (d : Document) (key : String) :
    value? (erase d key) key = none := by
  induction d with
  | nil => rfl
  | cons m rest ih =>
    obtain ⟨k, w⟩ := m
    simp only [erase] at ih
    by_cases hk : k = key <;> simp [erase, value?, hk, ih]

theorem value?_erase_ne (d : Document) {key other : String} (h : key ≠ other) :
    value? (erase d key) other = value? d other := by
  induction d with
  | nil => rfl
  | cons m rest ih =>
    obtain ⟨k, w⟩ := m
    simp only [erase] at ih
    by_cases hk : k = key
    · subst hk
      simp [erase, value?, h, ih]
    · simp [erase, value?, hk, ih]

theorem insert_insert (d : Document) (key : String) (v w : Value) :
    insert (insert d key v) key w = insert d key w := by
  induction d with
  | nil => simp [insert]
  | cons m rest ih =>
    obtain ⟨k, u⟩ := m
    by_cases hk : k = key <;> simp [insert, hk, ih]

end Document

/-- Whether a name is that of an operator. -/
def isOperatorName (key : String) : Bool := Text.startsWith '$' key

namespace Value

/-- A text value. -/
def text (s : String) : Value := .string s

/-- The value of a count. -/
def ofNat (n : Nat) : Value := .int (Int64.ofNat n)

/-- An operator applied to its argument. -/
def operator (name : String) (argument : Value) : Value := .object [(name, argument)]

/-- Whether a value is null. -/
def isNull : Value → Bool
  | .null => true
  | _ => false

/-- Truth as pipelines see it: false, null and numeric zero are false, everything else is
true. -/
def isTruthy : Value → Bool
  | .null => false
  | .bool b => b
  | .float x => x != 0.0
  | .int n => n != 0
  | .decimal d => !d.isZero
  | _ => true

/-- The name of the type of a value, as `$type` gives it. -/
def typeName : Value → String
  | .null => "null"
  | .bool _ => "bool"
  | .int _ => "long"
  | .float _ => "double"
  | .decimal _ => "decimal"
  | .string _ => "string"
  | .array _ => "array"
  | .object _ => "object"

/-- The text of a string. -/
def string? : Value → Option String
  | .string s => some s
  | _ => none

/-- The items of an array. -/
def items? : Value → Option (List Value)
  | .array items => some items
  | _ => none

/-- The members of an object. -/
def fields? : Value → Option Document
  | .object fields => some fields
  | _ => none

/-- The value of a member of an object. -/
def field? (v : Value) (key : String) : Option Value :=
  match v with
  | .object fields => Document.value? fields key
  | _ => none

/-- Whether a float has no fraction. -/
def isIntegralFloat (x : Float) : Bool := x.isFinite && x.floor == x

/-- The integer that a number stands for: integers themselves, floats and decimals without a
fraction.  A float beyond the range stands for the nearest end of the range. -/
def int? : Value → Option Int64
  | .int n => some n
  | .float x => if isIntegralFloat x then some x.toInt64 else none
  | .decimal d => d.toInt64?
  | _ => none

/-- The operator and the argument of an object with one member whose name is an operator's. -/
def operator? : Value → Option (String × Value)
  | .object [(key, argument)] => if isOperatorName key then some (key, argument) else none
  | _ => none

/-- Whether a value is a number. -/
def isNumber : Value → Bool
  | .int _ => true
  | .float _ => true
  | .decimal _ => true
  | _ => false

mutual

/-- Whether two values are the same: numbers of one type by value, objects whatever the order of
their members. -/
def same : Value → Value → Bool
  | .null, .null => true
  | .bool a, .bool b => a == b
  | .int a, .int b => a == b
  | .float a, .float b => a == b
  | .decimal a, .decimal b => a.compare b == .eq
  | .string a, .string b => a == b
  | .array a, .array b => sameItems a b
  | .object a, .object b => a.length == b.length && sameFields a b
  | _, _ => false

/-- Whether two lists hold the same values. -/
def sameItems : List Value → List Value → Bool
  | [], [] => true
  | a :: as, b :: bs => same a b && sameItems as bs
  | _, _ => false

/-- Whether every member is also a member of the document, with the same value. -/
def sameFields : List (String × Value) → Document → Bool
  | [], _ => true
  | (k, v) :: rest, d =>
    match Document.value? d k with
    | some w => same v w && sameFields rest d
    | none => false

end

mutual

/-- Whether the members of every object in a value have different names. -/
def WellFormed : Value → Prop
  | .array items => WellFormedItems items
  | .object fields => (fields.map (·.1)).Nodup ∧ WellFormedFields fields
  | _ => True

/-- The same for every item. -/
def WellFormedItems : List Value → Prop
  | [] => True
  | v :: rest => WellFormed v ∧ WellFormedItems rest

/-- The same for the value of every member. -/
def WellFormedFields : List (String × Value) → Prop
  | [] => True
  | (_, v) :: rest => WellFormed v ∧ WellFormedFields rest

end

end Value

/-- Truth of a value that may be missing. -/
def isTruthy? (v : Option Value) : Bool :=
  match v with
  | none => false
  | some v => v.isTruthy

/-- The type name of a value that may be missing. -/
def typeName? (v : Option Value) : String :=
  match v with
  | none => "missing"
  | some v => v.typeName

end DocQuery
