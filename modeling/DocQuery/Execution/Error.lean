import DocQuery.Value.Basic
set_option autoImplicit false

/-!
# Execution: failures

A pipeline that is run may fail in a few ways.  Most failures are operands of a wrong type;
every cause is a constructor here, and the wording is in one place.
-/

namespace DocQuery

/-- How an operand or argument is not what an operator takes.  Types are given by name. -/
inductive TypeFault where
  /-- a query that is no object -/
  | query (found : String)
  /-- the clauses of a query operator that are no array -/
  | clauses (operator : String)
  /-- the candidates of a query operator that are no array -/
  | candidates (operator : String)
  /-- a field of a group that is not computed by an accumulator -/
  | accumulator (field : String)
  | argumentCount (operator : String) (expected given : Nat)
  | membership (found : String)
  | size (found : String)
  | conditional
  | conditionalPart (part : String)
  | branches
  | branchPart (part : String)
  | noBranch
  | alternatives
  | mapPart (part : String)
  | mapInput (found : String)
  | elements (operator found : String)
  | subset (left right : String)
  | patternPart (part : String)
  | patternInput (found : String)
  | patternText
  | concatenation (found : String)
  | fieldName
  | elementArray (found : String)
  | elementIndex
  | sliceArguments
  | sliceArray (found : String)
  | sliceCount
  | slicePosition
  | sliceLength (count : Int)
  | arithmetic (operator left right : String)
  | floor (found : String)
  | bits (operator found : String)
  | conversion (found : String)
  deriving DecidableEq, Repr

/-- The text of a fault. -/
def TypeFault.message : TypeFault → String
  | .query found => "$match expects an object, got " ++ found
  | .clauses operator => operator ++ " expects an array"
  | .candidates operator => operator ++ " needs an array"
  | .accumulator field => "the field '" ++ field ++ "' must be an accumulator object"
  | .argumentCount operator expected given =>
    "Expression " ++ operator ++ " takes exactly " ++ toString expected ++ " arguments. "
      ++ toString given ++ " were passed in."
  | .membership found => "$in requires an array as a second argument, found: " ++ found
  | .size found => "The argument to $size must be an array. Type of argument was: " ++ found
  | .conditional => "$cond takes an object or an array of three expressions"
  | .conditionalPart part => "Missing '" ++ part ++ "' parameter to $cond"
  | .branches => "$switch requires an array of branches"
  | .branchPart part => "$switch branch is missing '" ++ part ++ "'"
  | .noBranch => "$switch could not find a matching branch and no default was given"
  | .alternatives => "$ifNull needs at least two arguments"
  | .mapPart part => "Missing '" ++ part ++ "' parameter to $map"
  | .mapInput found => "input to $map must be an array not " ++ found
  | .elements operator found => operator ++ "'s argument must be an array, but is " ++ found
  | .subset left right =>
    "both operands of $setIsSubset must be arrays, got " ++ left ++ " and " ++ right
  | .patternPart part => "$regexMatch requires '" ++ part ++ "' parameter"
  | .patternInput found => "$regexMatch needs 'input' to be of type string, got " ++ found
  | .patternText => "$regexMatch needs 'regex' to be of type string"
  | .concatenation found => "$concat only supports strings, not " ++ found
  | .fieldName => "$getField requires 'field' to be a string"
  | .elementArray found => "$arrayElemAt's first argument must be an array, but is " ++ found
  | .elementIndex => "$arrayElemAt's second argument must be a numeric value"
  | .sliceArguments => "$slice takes two or three arguments"
  | .sliceArray found => "First argument to $slice must be an array, but is of type: " ++ found
  | .sliceCount => "$slice count must be a numeric value"
  | .slicePosition => "$slice position must be a numeric value"
  | .sliceLength count => "Third argument to $slice must be positive: " ++ toString count
  | .arithmetic operator left right =>
    operator ++ " only supports numeric types, not " ++ left ++ " and " ++ right
  | .floor found => "$floor only supports numeric types, not " ++ found
  | .bits operator found => operator ++ " only supports int and long, not: " ++ found
  | .conversion found => "Unsupported conversion from " ++ found ++ " to string"

/-- Why a pipeline fails when it is run. -/
inductive ExecError where
  | typeError (fault : TypeFault)
  | unknownOperator (name : String)
  | undefinedVariable (name : String)
  /-- a text that is no pattern -/
  | pattern
  | divisionByZero
  /-- integers beyond 64 bits where no float can stand for them -/
  | overflow
  deriving DecidableEq, Repr

/-- The text of a failure. -/
def ExecError.message : ExecError → String
  | .typeError fault => "type error: " ++ fault.message
  | .unknownOperator name => "unknown expression operator '" ++ name ++ "'"
  | .undefinedVariable name => "use of undefined variable: " ++ name
  | .pattern => "invalid regular expression"
  | .divisionByZero => "division by zero"
  | .overflow => "integer overflow"

/-- What an expression evaluates to; none stands for a missing value. -/
abbrev Evaluation := Except ExecError (Option Value)

end DocQuery
