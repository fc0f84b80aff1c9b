import DocQuery.Execution.Arithmetic
set_option autoImplicit false

/-!
# Execution: accumulators

An accumulator makes one value of the inputs that a group has for it, one input for each
document.
-/

namespace DocQuery

/-- An accumulator of a group. -/
inductive Accumulator where
  | addToSet
  | push
  | first
  | last
  | sum
  deriving DecidableEq, Repr

namespace Accumulator

/-- The accumulator of a name. -/
def ofName? : String → Option Accumulator
  | "$addToSet" => some .addToSet
  | "$push" => some .push
  | "$first" => some .first
  | "$last" => some .last
  | "$sum" => some .sum
  | _ => none

/-- Adds a value to values that are all different, unless an equal one is there. -/
def addDistinct (set : List Value) (v : Value) : List Value :=
  if set.any fun w => w.equal v then set else set ++ [v]

/-- The sum of a value and of the numbers among others. -/
def sumFrom (total : Value) : List Value → Except ExecError Value
  | [] => .ok total
  | v :: rest =>
    if v.isNumber then
      match Arithmetic.add.apply total v with
      | .error e => .error e
      | .ok next => sumFrom next rest
    else sumFrom total rest

/-- What an accumulator makes of inputs, some of which may be missing. -/
def apply (a : Accumulator) (inputs : List (Option Value)) : Except ExecError Value :=
  match a with
  | .addToSet => .ok (.array ((inputs.filterMap id).foldl addDistinct []))
  | .push => .ok (.array (inputs.map fun v => v.getD .null))
  | .first => .ok ((inputs.head?.bind id).getD .null)
  | .last => .ok ((inputs.getLast?.bind id).getD .null)
  | .sum => sumFrom (.int 0) (inputs.filterMap id)

end Accumulator

end DocQuery
