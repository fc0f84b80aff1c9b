import DocQuery.Compile.Fragment
import DocQuery.Compile.Literal
import DocQuery.Execution.Query
import DocQuery.Proofs.PathText
import Mathlib.Data.List.Forall2
set_option autoImplicit false

/-!
# Proofs: what compiled fragments evaluate to

One equation for each kind of fragment that the compiler puts expressions together from.
Everything else that is proved about compiled expressions goes through these equations and does
not open the evaluator.
-/

namespace DocQuery

namespace Operator

theorem specialForm_name (op : Operator) : SpecialForm.ofName? op.name = none := by
  cases op with
  | comparison c => cases c <;> rfl
  | arithmetic a => cases a <;> rfl
  | bits b => cases b <;> rfl
  | _ => rfl

theorem isOperatorName_name (op : Operator) : isOperatorName op.name = true := by
  cases op with
  | comparison c => cases c <;> rfl
  | arithmetic a => cases a <;> rfl
  | bits b => cases b <;> rfl
  | _ => rfl

end Operator

namespace Value

open Operator (found truth)

/-! ## Operators on their operands -/

@[simp] theorem eval_string (s : String) (scope : Scope) :
    eval (.string s) scope = scope.read s := by
  simp only [eval]

@[simp] theorem eval_quote (v : Value) (scope : Scope) : eval (quote v) scope = found v := by
  rfl

theorem eval_array (items : List Value) (scope : Scope) :
    eval (.array items) scope =
      (evalItems items scope).bind fun vs => found (.array (vs.map fun v => v.getD .null)) := by
  simp only [eval]
  cases evalItems items scope <;> rfl

/-- An operator on a list of operands sees what all of them evaluate to. -/
theorem eval_operator_array (op : Operator) (items : List Value) (scope : Scope) :
    eval (.operator op.name (.array items)) scope = (evalItems items scope).bind op.apply := by
  simp only [operator, eval, op.isOperatorName_name, op.specialForm_name, Operator.ofName?_name,
    if_true]
  cases evalItems items scope <;> rfl

/-- An operator on an operand that is not written as a list. -/
theorem eval_operator_single (op : Operator) {arg : Value} (hsingle : arg.items? = none)
    (scope : Scope) :
    eval (.operator op.name arg) scope = (eval arg scope).bind fun v => op.apply [v] := by
  have hform := op.specialForm_name
  have hop := op.ofName?_name
  cases arg with
  | array items => simp [items?] at hsingle
  | _ =>
    rw [operator, eval.eq_def]
    simp only [op.isOperatorName_name, hform, hop, if_true]
    generalize eval _ scope = r
    cases r <;> rfl

/-- The items of an argument list, evaluated one after another. -/
theorem evalItems_cons {item : Value} {rest : List Value} {scope : Scope} {v : Option Value}
    {vs : List (Option Value)} (hitem : eval item scope = .ok v)
    (hrest : evalItems rest scope = .ok vs) :
        evalItems (item :: rest) scope = .ok (v :: vs) := by
  simp only [evalItems, hitem, hrest]

theorem evalItems_pair {a b : Value} {scope : Scope} {v w : Option Value}
    (ha : eval a scope = .ok v) (hb : eval b scope = .ok w) :
    evalItems [a, b] scope = .ok [v, w] :=
  evalItems_cons ha (evalItems_cons hb rfl)

/-- An operator on two operands. -/
theorem eval_operator_pair (op : Operator) {a b : Value} {scope : Scope} {v w : Option Value}
    (ha : eval a scope = .ok v) (hb : eval b scope = .ok w) :
    eval (.operator op.name (.array [a, b])) scope = op.apply [v, w] := by
  rw [eval_operator_array, evalItems_pair ha hb]
  rfl

/-- An operator on one operand that is not written as a list. -/
theorem eval_operator_one (op : Operator) {a : Value} {scope : Scope} {v : Option Value}
    (hsingle : a.items? = none) (ha : eval a scope = .ok v) :
    eval (.operator op.name a) scope = op.apply [v] := by
  rw [eval_operator_single op hsingle, ha]
  rfl

/-! ## Literals -/

theorem read_of_not_operatorName {s : String} (h : isOperatorName s = false) (scope : Scope) :
    scope.read s = found (.string s) := by
  simp only [Scope.read, Text.stripFirst?_of_not_startsWith h, found]

mutual

/-- A protected literal evaluates to itself, whatever it holds. -/
theorem eval_protect (v : Value) (scope : Scope) : eval v.protect scope = found v := by
  match v with
  | .string s =>
    rw [protect]
    by_cases hs : isOperatorName s = true
    · rw [if_pos hs, eval_quote]
    · have hs : isOperatorName s = false := by simpa using hs
      rw [hs, if_neg (by simp), eval_string, read_of_not_operatorName hs]
  | .object fields => rw [protect, eval_quote]
  | .array items =>
    rw [protect, eval_array, evalItems_protectItems items scope]
    simp [Except.bind, Function.comp_def]
  | .null => simp only [protect, eval]
  | .bool b => simp only [protect, eval]
  | .int n => simp only [protect, eval]
  | .float x => simp only [protect, eval]
  | .decimal d => simp only [protect, eval]

/-- So do the items of a protected list. -/
theorem evalItems_protectItems (items : List Value) (scope : Scope) :
    evalItems (protectItems items) scope = .ok (items.map some) := by
  match items with
  | [] => rfl
  | v :: rest =>
    exact evalItems_cons (eval_protect v scope) (evalItems_protectItems rest scope)

end

/-- A literal that is no list is not written as a list either. -/
theorem items?_protect {v : Value} (h : v.items? = none) : v.protect.items? = none := by
  cases v with
  | string s =>
    rw [protect]
    split <;> rfl
  | array items => simp [items?] at h
  | _ => rfl

/-! ## Special forms -/

theorem eval_choice (condition yes no : Value) (scope : Scope) :
    eval (.operator "$cond" (.object [("if", condition), ("then", yes), ("else", no)])) scope =
      match eval condition scope with
      | .error error => .error error
      | .ok v => if isTruthy? v then eval yes scope else eval no scope := by
  rfl

theorem eval_switch (branches : List Value) (otherwise : Value) (scope : Scope) :
    eval (.operator "$switch" (.object [("branches", .array branches), ("default", otherwise)]))
      scope = match evalBranches branches scope with
      | .error error => .error error
      | .ok (some v) => .ok v
      | .ok none => eval otherwise scope := by
  rfl

theorem eval_map (array body : Value) (scope : Scope) :
    eval (.operator "$map" (.object [("input", array), ("as", .string Access.itemName),
      ("in", body)])) scope = match eval array scope with
      | .error error => .error error
      | .ok v => applyMap (fun item => eval body (scope.bind Access.itemName item)) v := by
  rfl

theorem eval_getField (e : Value) (name : String) (scope : Scope) :
    eval (.operator "$getField" (.object [("input", e), ("field", .string name)])) scope =
      match eval e scope with
      | .error error => .error error
      | .ok v => applyGetField (some name) v := by
  rfl

theorem eval_fieldOf (e : Value) (name : String) (scope : Scope) :
    eval (Access.fieldOf e name) scope = (eval e scope).bind (applyGetField (some name)) := by
  rw [Access.fieldOf, eval_getField]
  cases eval e scope <;> rfl

/-! ## Conditions -/

theorem selectsAll_expr (e : Value) (scope : Scope) :
    selectsAll [("$expr", e)] scope =
      match (eval e scope).map isTruthy? with
      | .error error => .error error
      | .ok true => .ok true
      | .ok false => .ok false := by
  rfl

/-- An expression selects the documents on which it is true. -/
theorem selects_expr (e : Value) (scope : Scope) :
    selects (.operator "$expr" e) scope = (eval e scope).map isTruthy? := by
  rw [operator, selects, selectsAll_expr]
  cases (eval e scope).map isTruthy? with
  | error error => rfl
  | ok b => cases b <;> rfl

/-- An expression evaluates to a truth value. -/
def Decides (scope : Scope) (e : Value) (b : Bool) : Prop := eval e scope = truth b

theorem Decides.truthy {scope : Scope} {e : Value} {b : Bool} (h : Decides scope e b) :
    (eval e scope).map isTruthy? = .ok b := by
  rw [h]
  rfl

/-- A comparison of what two expressions evaluate to. -/
theorem Decides.comparison (c : Comparison) {a b : Value} {scope : Scope} {v w : Option Value}
    (ha : eval a scope = .ok v) (hb : eval b scope = .ok w) :
    Decides scope (binary c.name a b) (c.holds (compare? v w)) :=
  eval_operator_pair (.comparison c) ha hb

/-- A junction looks at its conditions up to the first one that settles it. -/
theorem evalUntil_of_decides (want : Bool) {scope : Scope} {es : List Value} {bs : List Bool}
    (h : List.Forall₂ (Decides scope) es bs) :
    evalUntil want es scope = truth (if bs.any (· == want) then want else !want) := by
  induction h with
  | nil => simp [evalUntil]
  | @cons e b es bs he _ ih =>
    have he : eval e scope = .ok (some (.bool b)) := he
    simp only [evalUntil, he, isTruthy?, isTruthy, List.any_cons]
    by_cases hb : b = want
    · simp [hb]
    · simp [hb, ih]

theorem eval_and (es : List Value) (scope : Scope) :
    eval (.operator "$and" (.array es)) scope = evalUntil false es scope := by
  have hname : isOperatorName "$and" = true := rfl
  have hform : SpecialForm.ofName? "$and" = some .and := rfl
  simp only [operator, eval, hname, hform, if_true]

theorem eval_or (es : List Value) (scope : Scope) :
    eval (.operator "$or" (.array es)) scope = evalUntil true es scope := by
  have hname : isOperatorName "$or" = true := rfl
  have hform : SpecialForm.ofName? "$or" = some .or := rfl
  simp only [operator, eval, hname, hform, if_true]

theorem Decides.and {scope : Scope} {es : List Value} {bs : List Bool}
    (h : List.Forall₂ (Decides scope) es bs) :
    Decides scope (.operator "$and" (.array es)) (bs.all id) := by
  rw [Decides, eval_and, evalUntil_of_decides false h]
  congr 1
  clear h
  induction bs with
  | nil => rfl
  | cons b rest ih => cases b <;> simp_all

theorem Decides.or {scope : Scope} {es : List Value} {bs : List Bool}
    (h : List.Forall₂ (Decides scope) es bs) :
    Decides scope (.operator "$or" (.array es)) (bs.any id) := by
  rw [Decides, eval_or, evalUntil_of_decides true h]
  congr 1
  clear h
  induction bs with
  | nil => rfl
  | cons b rest ih => cases b <;> simp_all

theorem Decides.and₂ {scope : Scope} {a b : Value} {p q : Bool} (ha : Decides scope a p)
    (hb : Decides scope b q) : Decides scope (.operator "$and" (.array [a, b])) (p && q) := by
  simpa using Decides.and (.cons ha (.cons hb .nil))

theorem Decides.or₂ {scope : Scope} {a b : Value} {p q : Bool} (ha : Decides scope a p)
    (hb : Decides scope b q) : Decides scope (.operator "$or" (.array [a, b])) (p || q) := by
  simpa using Decides.or (.cons ha (.cons hb .nil))

/-- A negation on an operand that is not written as a list. -/
theorem Decides.not {scope : Scope} {a : Value} {p : Bool} (hsingle : a.items? = none)
    (ha : Decides scope a p) : Decides scope (.operator "$not" a) (!p) :=
  eval_operator_one .not hsingle ha

theorem Decides.negation {scope : Scope} {a : Value} {p : Bool} (ha : Decides scope a p) :
    Decides scope (negation a) (!p) := by
  show eval (.operator Operator.not.name (.array [a])) scope = _
  rw [eval_operator_array, evalItems_cons ha rfl]
  rfl

theorem Decides.conjunction {scope : Scope} {es : List Value} {bs : List Bool}
    (h : List.Forall₂ (Decides scope) es bs) : Decides scope (conjunction es) (bs.all id) := by
  cases h with
  | nil => simp only [Decides, Value.conjunction, eval, List.all_nil, truth]
  | cons he hes =>
    cases hes with
    | nil => simpa [Value.conjunction] using he
    | cons he' hes => exact Decides.and (.cons he (.cons he' hes))

theorem Decides.disjunction {scope : Scope} {es : List Value} {bs : List Bool}
    (h : List.Forall₂ (Decides scope) es bs) : Decides scope (disjunction es) (bs.any id) := by
  cases h with
  | nil => simp only [Decides, Value.disjunction, eval, List.any_nil, truth]
  | cons he hes =>
    cases hes with
    | nil => simpa [Value.disjunction] using he
    | cons he' hes => exact Decides.or (.cons he (.cons he' hes))

/-- Whether an expression is true. -/
def IsTrue (e : Value) (scope : Scope) : Prop := (eval e scope).map isTruthy? = .ok true

theorem isTrue_evalUntil {es : List Value} {scope : Scope} :
    (evalUntil false es scope).map isTruthy? = .ok true ↔ ∀ e ∈ es, IsTrue e scope := by
  induction es with
  | nil => simp [evalUntil, truth, found, Except.map, isTruthy?, isTruthy]
  | cons e rest ih =>
    rw [List.forall_mem_cons, ← ih, IsTrue, evalUntil]
    cases eval e scope with
    | error error => simp [Except.map]
    | ok v =>
      cases hv : isTruthy? v with
      | true => simp [Except.map, hv]
      | false =>
        have hfalse : isTruthy? (some (.bool false)) = false := rfl
        simp [Except.map, hv, truth, found, hfalse]

/-- A conjunction is true if all its conditions are. -/
theorem isTrue_conjunction {es : List Value} {scope : Scope} :
    IsTrue (conjunction es) scope ↔ ∀ e ∈ es, IsTrue e scope := by
  cases es with
  | nil => simp [IsTrue, conjunction, eval, found, Except.map, isTruthy?, isTruthy]
  | cons e rest =>
    cases rest with
    | nil => simp [conjunction]
    | cons next rest =>
      have hand : conjunction (e :: next :: rest) = .operator "$and"
        (.array (e :: next :: rest)) := rfl
      rw [IsTrue, hand, eval_and, isTrue_evalUntil]

end Value

end DocQuery
