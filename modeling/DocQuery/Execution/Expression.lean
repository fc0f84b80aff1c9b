import DocQuery.Execution.Operator
import DocQuery.Pattern.Reader
import DocQuery.Value.Path
set_option autoImplicit false

/-!
# Execution: expressions

An expression is itself a value.  Strings that start with a dollar sign read fields of the
current document or, with two dollar signs, variables; objects with one member named like an
operator apply it; everything else stands for itself, with its items and members evaluated.

Most operators see only the values of their operands.  The others, the special forms, decide
which of their parts are evaluated and in which scope.
-/

namespace DocQuery

/-- Where an expression is evaluated: the current document and the variables. -/
structure Scope where
  root : Value
  vars : Document

namespace Scope

/-- The scope with one more variable. -/
def bind (scope : Scope) (name : String) (v : Value) : Scope :=
  { scope with vars := Document.insert scope.vars name v }

/-- Variables that name the current document. -/
def isRootName (name : String) : Bool := name == "ROOT" || name == "CURRENT"

/-- The value of a variable. -/
def variableOf (scope : Scope) (name : String) : Except ExecError Value :=
  if isRootName name then .ok scope.root
  else
    match Document.value? scope.vars name with
    | some v => .ok v
    | none => .error (.undefinedVariable name)

/-- What a reference to a variable stands for, which may go on with a path behind a point. -/
def reference (scope : Scope) (text : String) : Evaluation :=
  match Text.splitOnce? '.' text with
  | none => (scope.variableOf text).map some
  | some (name, path) => (scope.variableOf name).map fun v => v.getPath path

/-- What a string stands for. -/
def read (scope : Scope) (s : String) : Evaluation :=
  match Text.stripFirst? '$' s with
  | none => .ok (some (.string s))
  | some path =>
    match Text.stripFirst? '$' path with
    | some name => scope.reference name
    | none => .ok (scope.root.getPath path)

end Scope

/-- An operator that decides which of its parts are evaluated. -/
inductive SpecialForm where
  | literal
  | and
  | or
  | cond
  | switch
  | map
  | patternMatch
  | getField
  deriving DecidableEq, Repr

namespace SpecialForm

/-- The name of a special form. -/
def name : SpecialForm → String
  | .literal => "$literal"
  | .and => "$and"
  | .or => "$or"
  | .cond => "$cond"
  | .switch => "$switch"
  | .map => "$map"
  | .patternMatch => "$regexMatch"
  | .getField => "$getField"

/-- The special form of a name. -/
def ofName? : String → Option SpecialForm
  | "$literal" => some .literal
  | "$and" => some .and
  | "$or" => some .or
  | "$cond" => some .cond
  | "$switch" => some .switch
  | "$map" => some .map
  | "$regexMatch" => some .patternMatch
  | "$getField" => some .getField
  | _ => none

end SpecialForm

namespace Value

open Operator (found truth fail)

/-! ## Special forms on evaluated parts -/

/-- Evaluates a body once for each item; what is missing becomes null. -/
def mapItems (body : Value → Evaluation) : List Value → Except ExecError (List Value)
  | [] => .ok []
  | item :: rest =>
    match body item with
    | .error e => .error e
    | .ok v =>
      match mapItems body rest with
      | .error e => .error e
      | .ok vs => .ok (v.getD .null :: vs)

/-- The form `$map` on its evaluated input. -/
def applyMap (body : Value → Evaluation) : Option Value → Evaluation
  | none => found .null
  | some .null => found .null
  | some (.array items) => (mapItems body items).map fun vs => some (.array vs)
  | some other => fail (.mapInput other.typeName)

/-- The form `$regexMatch` on its evaluated parts.  An input that is missing or null matches
nothing, whatever the pattern is. -/
def applyPatternMatch (input pattern options : Option Value) : Evaluation :=
  match input with
  | none => truth false
  | some .null => truth false
  | some (.string text) =>
    match pattern with
    | some (.string source) =>
      let ignoreCase :=
        match options with
        | some (.string letters) => letters.toList.contains 'i'
        | _ => false
      match Pattern.read? ignoreCase source with
      | some p => truth (p.isMatch text)
      | none => .error .pattern
    | _ => fail .patternText
  | some other => fail (.patternInput other.typeName)

/-- The field of an evaluated input.  Null has null fields, other values that are no objects
have none. -/
def applyGetField (field : Option String) (input : Option Value) : Evaluation :=
  match field with
  | none => fail .fieldName
  | some name =>
    match input with
    | some (.object fields) => .ok (Document.value? fields name)
    | some .null => found .null
    | _ => .ok none

/-- The name of the variable that `$map` binds. -/
def mapVariable (spec : Document) : String :=
  ((Document.value? spec "as").bind Value.string?).getD "this"

/-! ## Evaluation -/

mutual

/-- What an expression evaluates to in a scope; none stands for a missing value. -/
def eval : Value → Scope → Evaluation
  | .string s, scope => scope.read s
  | .array items, scope =>
    match evalItems items scope with
    | .error e => .error e
    | .ok vs => found (.array (vs.map fun v => v.getD .null))
  | .object [(key, argument)], scope =>
    if isOperatorName key then
      match SpecialForm.ofName? key with
      | some form =>
        match form with
        | .literal => found argument
        | .and =>
          match argument with
          | .array items => evalUntil false items scope
          | single => (eval single scope).bind fun v => truth (isTruthy? v)
        | .or =>
          match argument with
          | .array items => evalUntil true items scope
          | single => (eval single scope).bind fun v => truth (isTruthy? v)
        | .cond =>
          match argument with
          | .array [condition, yes, no] =>
            match eval condition scope with
            | .error e => .error e
            | .ok v => if isTruthy? v then eval yes scope else eval no scope
          | .object spec =>
            match evalMember? spec "if", evalMember? spec "then", evalMember? spec "else" with
            | none, _, _ => fail (.conditionalPart "if")
            | _, none, _ => fail (.conditionalPart "then")
            | _, _, none => fail (.conditionalPart "else")
            | some condition, some yes, some no =>
              match condition scope with
              | .error e => .error e
              | .ok v => if isTruthy? v then yes scope else no scope
          | _ => fail .conditional
        | .switch =>
          match argument with
          | .object spec =>
            match evalBranchesMember? spec with
            | none => fail .branches
            | some branches =>
              match branches scope with
              | .error e => .error e
              | .ok (some v) => .ok v
              | .ok none =>
                match evalMember? spec "default" with
                | some default => default scope
                | none => fail .noBranch
          | _ => fail .branches
        | .map =>
          match argument with
          | .object spec =>
            match evalMember? spec "input", evalMember? spec "in" with
            | none, _ => fail (.mapPart "input")
            | _, none => fail (.mapPart "in")
            | some input, some body =>
              match input scope with
              | .error e => .error e
              | .ok v => applyMap (fun item => body (scope.bind (mapVariable spec) item)) v
          | _ => fail (.mapPart "input")
        | .patternMatch =>
          match argument with
          | .object spec =>
            match evalMember? spec "input", evalMember? spec "regex" with
            | none, _ => fail (.patternPart "input")
            | _, none => fail (.patternPart "regex")
            | some input, some pattern =>
              match input scope with
              | .error e => .error e
              | .ok text =>
                match pattern scope with
                | .error e => .error e
                | .ok source =>
                  match evalMember? spec "options" with
                  | none => applyPatternMatch text source none
                  | some options =>
                    match options scope with
                    | .error e => .error e
                    | .ok letters => applyPatternMatch text source letters
          | _ => fail (.patternPart "input")
        | .getField =>
          match argument with
          | .object spec =>
            match Document.value? spec "field" with
            | none => fail .fieldName
            | some field =>
              match evalMember? spec "input" with
              | none => applyGetField field.string? (some scope.root)
              | some input =>
                match input scope with
                | .error e => .error e
                | .ok v => applyGetField field.string? v
          | _ => applyGetField argument.string? (some scope.root)
      | none =>
        match Operator.ofName? key with
        | none => .error (.unknownOperator key)
        | some op =>
          match argument with
          | .array items =>
            match evalItems items scope with
            | .error e => .error e
            | .ok args => op.apply args
          | single =>
            match eval single scope with
            | .error e => .error e
            | .ok v => op.apply [v]
    else
      match eval argument scope with
      | .error e => .error e
      | .ok (some v) => found (.object [(key, v)])
      | .ok none => found (.object [])
  | .object fields, scope =>
    match evalFields fields scope with
    | .error e => .error e
    | .ok members => found (.object members)
  | v, _ => found v

/-- What expressions evaluate to. -/
def evalItems : List Value → Scope → Except ExecError (List (Option Value))
  | [], _ => .ok []
  | item :: rest, scope =>
    match eval item scope with
    | .error e => .error e
    | .ok v =>
      match evalItems rest scope with
      | .error e => .error e
      | .ok vs => .ok (v :: vs)

/-- Whether the truth of some expression is `want`, for the junctions: they end at the first one
that is, with `want`, and are its opposite if there is none. -/
def evalUntil (want : Bool) : List Value → Scope → Evaluation
  | [], _ => truth (!want)
  | item :: rest, scope =>
    match eval item scope with
    | .error e => .error e
    | .ok v => if isTruthy? v = want then truth want else evalUntil want rest scope

/-- The members of an object with their values evaluated; what is missing is left out. -/
def evalFields : List (String × Value) → Scope → Except ExecError Document
  | [], _ => .ok []
  | (name, v) :: rest, scope =>
    match eval v scope with
    | .error e => .error e
    | .ok result =>
      match evalFields rest scope with
      | .error e => .error e
      | .ok members =>
        match result with
        | some w => .ok ((name, w) :: members)
        | none => .ok members

/-- The evaluation of the member of a name, if there is one. -/
def evalMember? : List (String × Value) → String → Option (Scope → Evaluation)
  | [], _ => none
  | (k, v) :: rest, key =>
    if k = key then some fun scope => eval v scope else evalMember? rest key

/-- The evaluation of the branches of `$switch`, if the member is an array. -/
def evalBranchesMember? :
    List (String × Value) → Option (Scope → Except ExecError (Option (Option Value)))
  | [] => none
  | (k, v) :: rest =>
    if k = "branches" then
      match v with
      | .array branches => some fun scope => evalBranches branches scope
      | _ => none
    else evalBranchesMember? rest

/-- What the first branch with a true case evaluates to, none if there is no such branch. -/
def evalBranches : List Value → Scope → Except ExecError (Option (Option Value))
  | [], _ => .ok none
  | branch :: rest, scope =>
    match branch with
    | .object spec =>
      match evalMember? spec "case" with
      | none => .error (.typeError (.branchPart "case"))
      | some condition =>
        match condition scope with
        | .error e => .error e
        | .ok v =>
          if isTruthy? v then
            match evalMember? spec "then" with
            | none => .error (.typeError (.branchPart "then"))
            | some body => (body scope).map some
          else evalBranches rest scope
    | _ => .error (.typeError (.branchPart "case"))

end

/-- What an expression evaluates to on a document, without variables. -/
def evalOn (expr root : Value) : Evaluation := expr.eval ⟨root, []⟩

end Value

end DocQuery
