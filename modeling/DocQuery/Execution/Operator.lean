import DocQuery.Execution.Arithmetic
import DocQuery.Number.FloatText
import DocQuery.Number.Floor
set_option autoImplicit false

/-!
# Execution: operators that see the values of their operands

These operators evaluate all their operands before they do anything else.  An operand may be
missing, which most of them treat like null.
-/

namespace DocQuery

/-- A comparison of two values. -/
inductive Comparison where
  | eq
  | ne
  | gt
  | gte
  | lt
  | lte
  deriving DecidableEq, Repr

namespace Comparison

/-- The name of the operator. -/
def name : Comparison → String
  | .eq => "$eq"
  | .ne => "$ne"
  | .gt => "$gt"
  | .gte => "$gte"
  | .lt => "$lt"
  | .lte => "$lte"

/-- Whether two values in an order fulfil the comparison. -/
def holds : Comparison → Ordering → Bool
  | .eq, o => o == .eq
  | .ne, o => o != .eq
  | .gt, o => o == .gt
  | .gte, o => o != .lt
  | .lt, o => o == .lt
  | .lte, o => o != .gt

end Comparison

/-- An operation on the bits of integers. -/
inductive BitOperation where
  | and
  | or
  | xor
  deriving DecidableEq, Repr

namespace BitOperation

/-- The name of the operator. -/
def name : BitOperation → String
  | .and => "$bitAnd"
  | .or => "$bitOr"
  | .xor => "$bitXor"

/-- The operation on two integers. -/
def apply : BitOperation → Int64 → Int64 → Int64
  | .and, x, y => x &&& y
  | .or, x, y => x ||| y
  | .xor, x, y => x ^^^ y

end BitOperation

/-- An operator on evaluated operands. -/
inductive Operator where
  | comparison (c : Comparison)
  | not
  | membership
  | type
  | size
  | isArray
  | ifNull
  | anyElementTrue
  | allElementsTrue
  | setIsSubset
  | concat
  | elementAt
  | slice
  | arithmetic (op : Arithmetic)
  | floor
  | bits (op : BitOperation)
  | toText
  deriving DecidableEq, Repr

namespace Operator

/-- The name of an operator. -/
def name : Operator → String
  | .comparison c => c.name
  | .not => "$not"
  | .membership => "$in"
  | .type => "$type"
  | .size => "$size"
  | .isArray => "$isArray"
  | .ifNull => "$ifNull"
  | .anyElementTrue => "$anyElementTrue"
  | .allElementsTrue => "$allElementsTrue"
  | .setIsSubset => "$setIsSubset"
  | .concat => "$concat"
  | .elementAt => "$arrayElemAt"
  | .slice => "$slice"
  | .arithmetic op => op.name
  | .floor => "$floor"
  | .bits op => op.name
  | .toText => "$toString"

/-- The operator of a name. -/
def ofName? : String → Option Operator
  | "$eq" => some (.comparison .eq)
  | "$ne" => some (.comparison .ne)
  | "$gt" => some (.comparison .gt)
  | "$gte" => some (.comparison .gte)
  | "$lt" => some (.comparison .lt)
  | "$lte" => some (.comparison .lte)
  | "$not" => some .not
  | "$in" => some .membership
  | "$type" => some .type
  | "$size" => some .size
  | "$isArray" => some .isArray
  | "$ifNull" => some .ifNull
  | "$anyElementTrue" => some .anyElementTrue
  | "$allElementsTrue" => some .allElementsTrue
  | "$setIsSubset" => some .setIsSubset
  | "$concat" => some .concat
  | "$arrayElemAt" => some .elementAt
  | "$slice" => some .slice
  | "$add" => some (.arithmetic .add)
  | "$subtract" => some (.arithmetic .subtract)
  | "$multiply" => some (.arithmetic .multiply)
  | "$divide" => some (.arithmetic .divide)
  | "$mod" => some (.arithmetic .modulo)
  | "$pow" => some (.arithmetic .power)
  | "$floor" => some .floor
  | "$bitAnd" => some (.bits .and)
  | "$bitOr" => some (.bits .or)
  | "$bitXor" => some (.bits .xor)
  | "$toString" => some .toText
  | _ => none

theorem ofName?_name (op : Operator) : ofName? op.name = some op := by
  cases op with
  | comparison c => cases c <;> rfl
  | arithmetic op => cases op <;> rfl
  | bits op => cases op <;> rfl
  | _ => rfl

/-! ## Results -/

/-- A value that is there. -/
def found (v : Value) : Evaluation := .ok (some v)

/-- A truth value. -/
def truth (b : Bool) : Evaluation := found (.bool b)

/-- A failure by a fault. -/
def fail (fault : TypeFault) : Evaluation := .error (.typeError fault)

/-- Whether an operand is missing or null. -/
def isAbsent : Option Value → Bool
  | none => true
  | some v => v.isNull

/-! ## Operators on one and two operands -/

/-- The operator `$in`. -/
def applyMembership (needle : Option Value) : Option Value → Evaluation
  | some (.array items) =>
    truth (items.any fun item => Value.compare? needle (some item) == .eq)
  | other => fail (.membership (typeName? other))

/-- The operator `$size`. -/
def applySize : Option Value → Evaluation
  | some (.array items) => found (.ofNat items.length)
  | other => fail (.size (typeName? other))

/-- Whether an operand is an array. -/
def isArrayValue : Option Value → Bool
  | some (.array _) => true
  | _ => false

/-- The operators that ask for the truth of the items of an array. -/
def applyElements (operator : String) (holds : List Value → Bool) : Option Value → Evaluation
  | some (.array items) => truth (holds items)
  | other => fail (.elements operator (typeName? other))

/-- Whether every value of a list has an equal one in another list. -/
def isSubset (subset superset : List Value) : Bool :=
  subset.all fun x => superset.any fun y => x.equal y

/-- The operator `$setIsSubset`. -/
def applySubset : Option Value → Option Value → Evaluation
  | some (.array subset), some (.array superset) => truth (isSubset subset superset)
  | a, b => fail (.subset (typeName? a) (typeName? b))

/-- The item at a position; negative positions count from the end. -/
def itemAt (items : List Value) (position : Int) : Option Value :=
  let p := if position < 0 then items.length + position else position
  if p < 0 then none else items[p.toNat]?

/-- The operator `$arrayElemAt`. -/
def applyElementAt : Option Value → Option Value → Evaluation
  | none, _ => found .null
  | some .null, _ => found .null
  | some (.array items), index =>
    match index.bind Value.int? with
    | some position => .ok (itemAt items position.toInt)
    | none => fail .elementIndex
  | some other, _ => fail (.elementArray other.typeName)

/-- The operator `$floor`. -/
def applyFloor : Option Value → Evaluation
  | none => found .null
  | some .null => found .null
  | some (.int n) => found (.int n)
  | some (.float x) => found (.float (Number.floatFloor x))
  | some (.decimal d) => found (.decimal d.floor)
  | some other => fail (.floor other.typeName)

/-- The operator `$toString`. -/
def applyToText : Option Value → Evaluation
  | none => found .null
  | some .null => found .null
  | some (.string s) => found (.string s)
  | some (.int n) => found (.string (toString n.toInt))
  | some (.float x) => found (.string (Number.plain x))
  | some (.decimal d) => found (.string d.text)
  | some (.bool b) => found (.string (if b then "true" else "false"))
  | some other => fail (.conversion other.typeName)

/-- The arithmetic operators.  The result is null if an operand is missing or null. -/
def applyArithmetic (op : Arithmetic) : Option Value → Option Value → Evaluation
  | some a, some b =>
    if a.isNull || b.isNull then found .null else (op.apply a b).map some
  | _, _ => found .null

/-! ## Operators on any number of operands -/

/-- The operator `$ifNull`: the first operand that is there and not null, or the last one. -/
def applyIfNull : List (Option Value) → Evaluation
  | [] => fail .alternatives
  | [last] => .ok last
  | v :: rest => if isAbsent v then applyIfNull rest else .ok v

/-- The operator `$concat` behind a text.  The result is null from the first operand on that is
missing or null. -/
def applyConcat (front : String) : List (Option Value) → Evaluation
  | [] => found (.string front)
  | none :: _ => found .null
  | some .null :: _ => found .null
  | some (.string s) :: rest => applyConcat (front ++ s) rest
  | some other :: _ => fail (.concatenation other.typeName)

/-- The operators on bits behind the result so far. -/
def applyBits (op : BitOperation) (result : Option Int64) : List (Option Value) → Evaluation
  | [] => found (match result with | some n => .int n | none => .null)
  | none :: _ => found .null
  | some .null :: _ => found .null
  | some (.int n) :: rest =>
    applyBits op (some (match result with | some acc => op.apply acc n | none => n)) rest
  | some other :: _ => fail (.bits op.name other.typeName)

/-- The first items of a list or, for a negative count, the last ones. -/
def firstItems (items : List Value) (count : Int) : List Value :=
  if count < 0 then items.drop (max (items.length + count) 0).toNat
  else items.take count.toNat

/-- At most `count` items of a list from a position on; negative positions count from the
end. -/
def itemsFrom (items : List Value) (position : Int) (count : Nat) : List Value :=
  let start := if position < 0 then max (items.length + position) 0 else position
  (items.drop start.toNat).take count

/-- The operator `$slice` on an array.  The end of the slice is added up in 64 bits. -/
def sliceItems (items : List Value) (position : Option Value) (count : Int64) : Evaluation :=
  match position with
  | none => found (.array (firstItems items count.toInt))
  | some position =>
    match position.int? with
    | none => fail .slicePosition
    | some p =>
      if count.toInt ≤ 0 then fail (.sliceLength count.toInt)
      else
        let start := if p.toInt < 0 then max (items.length + p.toInt) 0 else
          min p.toInt items.length
        if Int64.maxValue.toInt < start + count.toInt then .error .overflow
        else found (.array (itemsFrom items p.toInt count.toInt.toNat))

/-- The operator `$slice` on an operand, a position and a count. -/
def applySliceOf (array position count : Option Value) : Evaluation :=
  match array with
  | none => found .null
  | some .null => found .null
  | some (.array items) =>
    match count.bind Value.int? with
    | none => fail .sliceCount
    | some n => sliceItems items position n
  | some other => fail (.sliceArray other.typeName)

/-- The operator `$slice`.  A missing position counts as one that is not given. -/
def applySlice : List (Option Value) → Evaluation
  | [array, count] => applySliceOf array none count
  | [array, position, count] => applySliceOf array position count
  | _ => fail .sliceArguments

/-! ## All operators -/

/-- An operator on one operand. -/
def unary (op : Operator) (f : Option Value → Evaluation) : List (Option Value) → Evaluation
  | [a] => f a
  | args => fail (.argumentCount op.name 1 args.length)

/-- An operator on two operands. -/
def binary (op : Operator) (f : Option Value → Option Value → Evaluation) :
    List (Option Value) → Evaluation
  | [a, b] => f a b
  | args => fail (.argumentCount op.name 2 args.length)

/-- What an operator makes of its operands. -/
def apply (op : Operator) (args : List (Option Value)) : Evaluation :=
  match op with
  | .comparison c => op.binary (fun a b => truth (c.holds (Value.compare? a b))) args
  | .not => op.unary (fun a => truth (!isTruthy? a)) args
  | .membership => op.binary applyMembership args
  | .type => op.unary (fun a => found (.string (typeName? a))) args
  | .size => op.unary applySize args
  | .isArray => op.unary (fun a => truth (isArrayValue a)) args
  | .ifNull => applyIfNull args
  | .anyElementTrue =>
    op.unary (applyElements op.name fun items => items.any Value.isTruthy) args
  | .allElementsTrue =>
    op.unary (applyElements op.name fun items => items.all Value.isTruthy) args
  | .setIsSubset => op.binary applySubset args
  | .concat => applyConcat "" args
  | .elementAt => op.binary applyElementAt args
  | .slice => applySlice args
  | .arithmetic a => op.binary (applyArithmetic a) args
  | .floor => op.unary applyFloor args
  | .bits b => applyBits b none args
  | .toText => op.unary applyToText args

end Operator

end DocQuery
