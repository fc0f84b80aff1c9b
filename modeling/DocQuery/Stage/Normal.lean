import DocQuery.Stage.Codec
set_option autoImplicit false

/-!
# Stage: a normal form for the order of operands

The operands of `$and`, `$or` and `$all` may stand in any order.  The normal form sorts them by
their printed texts, from the inside out, and leaves everything else as it is.
-/

namespace DocQuery.Value

/-- Whether an operator takes its operands in any order. -/
def isUnordered (key : String) : Bool := key == "$and" || key == "$or" || key == "$all"

/-- Sorts values by their printed texts. -/
def sortByText (items : List Value) : List Value :=
  items.mergeSort fun a b => Ord.compare a.compactText b.compactText != .gt

/-- Sorts the operands of an operator that takes them in any order. -/
def sortOperands (key : String) (v : Value) : Value :=
  match v with
  | .array items => if isUnordered key then .array (sortByText items) else v
  | _ => v

mutual

/-- The normal form of a value. -/
def normalize : Value → Value
  | .array items => .array (normalizeItems items)
  | .object fields => .object (normalizeFields fields)
  | v => v

/-- The normal forms of items. -/
def normalizeItems : List Value → List Value
  | [] => []
  | v :: rest => normalize v :: normalizeItems rest

/-- The normal forms of members. -/
def normalizeFields : List (String × Value) → List (String × Value)
  | [] => []
  | (key, v) :: rest => (key, sortOperands key (normalize v)) :: normalizeFields rest

end

end DocQuery.Value

namespace DocQuery.Stage

/-- The normal form of the documents of a pipeline. -/
def normalizePipeline (stages : List Stage) : Value := (toDocuments stages).normalize

end DocQuery.Stage
