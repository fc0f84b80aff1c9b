import DocQuery.Execution.Expression
set_option autoImplicit false

/-!
# Execution: queries

A query is an object of conditions, all of which have to hold:  conditions on paths,
expressions, and junctions of queries.  The clauses of a junction are all looked at before it is
decided, so that a failing clause is never passed over.
-/

namespace DocQuery.Value

/-- Equality in queries: an array is also equal to each of its items, and what is missing is
equal to null. -/
def matchesValue (v : Option Value) (expected : Value) : Bool :=
  match v, expected with
  | none, _ => expected.isNull
  | some (.array items), .array expectedItems =>
    (Value.array items).equal (.array expectedItems)
  | some (.array items), _ => items.any fun item => item.equal expected
  | some v, _ => v.equal expected

/-- The comparison of a name, for the names that order values. -/
def orderComparison? : String → Option Comparison
  | "$gt" => some .gt
  | "$gte" => some .gte
  | "$lt" => some .lt
  | "$lte" => some .lte
  | _ => none

/-- Whether a value fulfils one operator of a condition.  What is missing is in no order. -/
def matchesOperator (v : Option Value) (operator : String) (operand : Value) :
    Except ExecError Bool :=
  match orderComparison? operator with
  | some c => .ok (match v with | some v => c.holds (v.compare operand) | none => false)
  | none =>
    if operator = "$eq" then .ok (matchesValue v operand)
    else if operator = "$ne" then .ok (!matchesValue v operand)
    else if operator = "$in" ∨ operator = "$nin" then
      match operand with
      | .array candidates =>
        .ok ((candidates.any fun c => matchesValue v c) == decide (operator = "$in"))
      | _ => .error (.typeError (.candidates operator))
    else if operator = "$exists" then .ok (v.isSome == operand.isTruthy)
    else .error (.unknownOperator operator)

/-- Whether a value fulfils operators, up to the first one that it does not fulfil. -/
def matchesOperators (v : Option Value) : List (String × Value) → Except ExecError Bool
  | [] => .ok true
  | (operator, operand) :: rest =>
    match matchesOperator v operator operand with
    | .error e => .error e
    | .ok true => matchesOperators v rest
    | .ok false => .ok false

/-- Whether a value fulfils a condition: operators, or a value that it is equal to. -/
def matchesCondition (v : Option Value) (condition : Value) : Except ExecError Bool :=
  match condition with
  | .object (m :: rest) =>
    if (m :: rest).all fun m => isOperatorName m.1 then matchesOperators v (m :: rest)
    else .ok (matchesValue v condition)
  | _ => .ok (matchesValue v condition)

mutual

/-- Whether the document of a scope matches a query. -/
def selects : Value → Scope → Except ExecError Bool
  | .object conditions, scope => selectsAll conditions scope
  | other, _ => .error (.typeError (.query other.typeName))

/-- Whether all conditions hold, up to the first one that does not. -/
def selectsAll : List (String × Value) → Scope → Except ExecError Bool
  | [], _ => .ok true
  | (key, condition) :: rest, scope =>
    let first :=
      if key = "$expr" then (condition.eval scope).map isTruthy?
      else if key = "$and" ∨ key = "$or" then
        match condition with
        | .array clauses =>
          match selectsEach clauses scope with
          | .error e => .error e
          | .ok results => .ok (if key = "$and" then results.all id else results.any id)
        | _ => .error (.typeError (.clauses key))
      else matchesCondition (scope.root.getPath key) condition
    match first with
    | .error e => .error e
    | .ok true => selectsAll rest scope
    | .ok false => .ok false

/-- Which of several queries the document of a scope matches. -/
def selectsEach : List Value → Scope → Except ExecError (List Bool)
  | [], _ => .ok []
  | query :: rest, scope =>
    match selects query scope with
    | .error e => .error e
    | .ok b =>
      match selectsEach rest scope with
      | .error e => .error e
      | .ok bs => .ok (b :: bs)

end

end DocQuery.Value
