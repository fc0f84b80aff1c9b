import DocQuery.Execution.Pipeline
import DocQuery.Proofs.Accesses
set_option autoImplicit false

/-!
# Proofs: closed expressions and pipelines

An expression is closed over some variables if it only refers to those and only uses operators
that there are. Where the variables are bound, a closed expression may fail, but never because a
variable or an operator is unknown; and neither does a pipeline of closed expressions.
-/

namespace DocQuery

open Operator (found truth fail)

/-! ## Failures -/

/-- Whether a failure is of another kind than an unknown variable or operator. -/
def ExecError.isOrdinary : ExecError → Bool
  | .undefinedVariable _ => false
  | .unknownOperator _ => false
  | _ => true

/-- A computation does not fail because a variable or an operator is unknown. -/
def Defined {α : Type} (r : Except ExecError α) : Prop :=
  ∀ e, r = .error e → e.isOrdinary = true

namespace Defined

variable {α β : Type}

theorem ok (a : α) : Defined (.ok a) := by
  intro e h
  simp at h

theorem error {e : ExecError} (h : e.isOrdinary = true) :
    Defined (.error e : Except ExecError α) := by
  intro e' he
  exact Except.error.inj he ▸ h

theorem bind {r : Except ExecError α} {f : α → Except ExecError β} (hr : Defined r)
    (hf : ∀ a, Defined (f a)) : Defined (r.bind f) := by
  cases r with
  | error e => exact error (hr e rfl)
  | ok a => exact hf a

theorem map {r : Except ExecError α} (hr : Defined r) (f : α → β) : Defined (r.map f) := by
  cases r with
  | error e => exact error (hr e rfl)
  | ok a => exact ok (f a)

end Defined

/-! ## Operators -/

namespace Arithmetic

theorem defined_asFloats (op : Arithmetic) (a b : Value) : Defined (op.asFloats a b) := by
  simp only [asFloats]
  split
  · refine Defined.map ?_ _
    cases op <;> simp only [onFloats] <;> (try split) <;>
      first | exact .ok _ | exact .error rfl
  · exact .error rfl

theorem defined_onNumbers (op : Arithmetic) (a b : Value) : Defined (op.onNumbers a b) := by
  simp only [onNumbers]
  split
  · split
    · rename_i x y _ _
      cases h : op.onDecimals x y with
      | error e =>
        have he : e = .divisionByZero := by
          cases op <;> simp only [onDecimals] at h <;> grind
        subst he
        exact .error rfl
      | ok d =>
        cases d with
        | some d => exact .ok _
        | none => exact defined_asFloats op a b
    · exact .error rfl
  · exact defined_asFloats op a b

theorem defined_apply (op : Arithmetic) (a b : Value) : Defined (op.apply a b) := by
  simp only [apply]
  split
  · rename_i x y
    cases h : op.onInts x y with
    | error e =>
      have he : e = .divisionByZero ∨ e = .overflow := by
        cases op <;> simp only [onInts] at h <;> grind
      rcases he with rfl | rfl <;> exact .error rfl
    | ok n =>
      cases n with
      | some n => exact .ok _
      | none => exact defined_onNumbers op _ _
  · exact defined_onNumbers op a b

end Arithmetic

namespace Operator

theorem defined_fail (fault : TypeFault) : Defined (fail fault) := .error rfl

theorem defined_unary (op : Operator) {f : Option Value → Evaluation} (h : ∀ a, Defined (f a))
    (args : List (Option Value)) : Defined (op.unary f args) := by
  unfold unary
  split
  · exact h _
  · exact defined_fail _

theorem defined_binary (op : Operator) {f : Option Value → Option Value → Evaluation}
    (h : ∀ a b, Defined (f a b)) (args : List (Option Value)) : Defined (op.binary f args) := by
  unfold binary
  split
  · exact h _ _
  · exact defined_fail _

theorem defined_applyIfNull (args : List (Option Value)) : Defined (applyIfNull args) := by
  fun_induction applyIfNull args with
  | case1 => exact defined_fail _
  | case2 last => exact .ok _
  | case3 v rest _ _ ih => exact ih
  | case4 v rest _ _ => exact .ok _

theorem defined_applyConcat (front : String) (args : List (Option Value)) :
    Defined (applyConcat front args) := by
  fun_induction applyConcat front args with
  | case4 _ _ _ ih => exact ih
  | case5 => exact defined_fail _
  | _ => exact .ok _

theorem defined_applyBits (op : BitOperation) (result : Option Int64)
    (args : List (Option Value)) : Defined (applyBits op result args) := by
  fun_induction applyBits op result args with
  | case4 => rename_i ih; exact ih
  | case5 => exact defined_fail _
  | _ => exact .ok _

theorem defined_sliceItems (items : List Value) (position : Option Value) (count : Int64) :
    Defined (sliceItems items position count) := by
  simp only [sliceItems]
  split
  · exact .ok _
  · split
    · exact defined_fail _
    · split
      · exact defined_fail _
      · split <;> split
        · exact .error rfl
        · exact .ok _
        · exact .error rfl
        · exact .ok _

theorem defined_applySlice (args : List (Option Value)) : Defined (applySlice args) := by
  have hslice : ∀ array position count, Defined (applySliceOf array position count) := by
    intro array position count
    simp only [applySliceOf]
    split
    · exact .ok _
    · exact .ok _
    · split
      · exact defined_fail _
      · exact defined_sliceItems _ _ _
    · exact defined_fail _
  unfold applySlice
  split
  · exact hslice _ _ _
  · exact hslice _ _ _
  · exact defined_fail _

/-- No operator fails because something is unknown, whatever its operands are. -/
theorem defined_apply (op : Operator) (args : List (Option Value)) :
    Defined (op.apply args) := by
  cases op with
  | comparison c => exact defined_binary _ (fun _ _ => .ok _) args
  | not => exact defined_unary _ (fun _ => .ok _) args
  | membership =>
    refine defined_binary _ (fun needle items => ?_) args
    unfold applyMembership
    split <;> first | exact .ok _ | exact defined_fail _
  | type => exact defined_unary _ (fun _ => .ok _) args
  | size =>
    refine defined_unary _ (fun a => ?_) args
    unfold applySize
    split <;> first | exact .ok _ | exact defined_fail _
  | isArray => exact defined_unary _ (fun _ => .ok _) args
  | ifNull => exact defined_applyIfNull args
  | anyElementTrue =>
    refine defined_unary _ (fun a => ?_) args
    unfold applyElements
    split <;> first | exact .ok _ | exact defined_fail _
  | allElementsTrue =>
    refine defined_unary _ (fun a => ?_) args
    unfold applyElements
    split <;> first | exact .ok _ | exact defined_fail _
  | setIsSubset =>
    refine defined_binary _ (fun a b => ?_) args
    unfold applySubset
    split <;> first | exact .ok _ | exact defined_fail _
  | concat => exact defined_applyConcat "" args
  | elementAt =>
    refine defined_binary _ (fun a b => ?_) args
    unfold applyElementAt
    split <;> (try split) <;> first | exact .ok _ | exact defined_fail _
  | slice => exact defined_applySlice args
  | arithmetic a =>
    refine defined_binary _ (fun x y => ?_) args
    unfold applyArithmetic
    split
    · split
      · exact .ok _
      · exact (Arithmetic.defined_apply a _ _).map _
    · exact .ok _
  | floor =>
    refine defined_unary _ (fun a => ?_) args
    unfold applyFloor
    split <;> first | exact .ok _ | exact defined_fail _
  | bits b => exact defined_applyBits b none args
  | toText =>
    refine defined_unary _ (fun a => ?_) args
    unfold applyToText
    split <;> first | exact .ok _ | exact defined_fail _

end Operator

/-! ## Closed expressions -/

/-- Whether names are bound by a document of variables. -/
def Document.Binds (d : Document) (names : List String) : Prop :=
  ∀ name ∈ names, (Document.value? d name).isSome = true

namespace Document.Binds

variable {d : Document} {names : List String}

theorem insert (h : Document.Binds d names) (name : String) (v : Value) :
    Document.Binds (Document.insert d name v) (name :: names) := by
  intro key hkey
  by_cases hname : name = key
  · subst hname
    simp
  · rw [value?_insert_ne d v hname]
    rcases List.mem_cons.mp hkey with rfl | hrest
    · exact absurd rfl hname
    · exact h key hrest

theorem mono {others : List String} (h : Document.Binds d names) (hsub : others ⊆ names) :
    Document.Binds d others :=
  fun name hname => h name (hsub hname)

theorem variableOf {scope : Scope} (h : Document.Binds scope.vars names) {name : String}
    (hname : name ∈ names) : ∃ v, scope.variableOf name = .ok v := by
  simp only [Scope.variableOf]
  split
  · exact ⟨_, rfl⟩
  · obtain ⟨v, hv⟩ := Option.isSome_iff_exists.mp (h name hname)
    exact ⟨v, by rw [hv]⟩

end Document.Binds

/-- An expression that only refers to given variables and only uses operators that there are.
These are the forms that compiled queries are made of. -/
inductive Value.Closed : List String → Value → Prop where
  | constant {vars : List String} {v : Value} (hstring : v.string? = none)
    (hitems : v.items? = none)
    (hfields : v.fields? = none) : Closed vars v
  | text {vars : List String} {s : String} (hplain : isOperatorName s = false) :
    Closed vars (.string s)
  | path {vars : List String} {path : String} (hplain : isOperatorName path = false) :
    Closed vars (.string ("$" ++ path))
  | bound {vars : List String} {name : String} (hname : '.' ∉ name.toList)
    (hmem : name ∈ vars) :
    Closed vars (.string ("$$" ++ name))
  | member {vars : List String} {name path : String} (hname : '.' ∉ name.toList)
    (hmem : name ∈ vars) : Closed vars (.string ("$$" ++ name ++ "." ++ path))
  | array {vars : List String} {items : List Value} (hitems : ∀ item ∈ items,
    Closed vars item) :
    Closed vars (.array items)
  | object {vars : List String} {fields : Document}
    (hnames : ∀ m ∈ fields, isOperatorName m.1 = false)
    (hfields : ∀ m ∈ fields, Closed vars m.2) :
    Closed vars (.object fields)
  | quoted {vars : List String} (v : Value) : Closed vars (quote v)
  | apply {vars : List String} (op : Operator) {arg : Value} (harg : Closed vars arg) :
    Closed vars (.operator op.name arg)
  | and {vars : List String} {items : List Value} (hitems : ∀ item ∈ items, Closed vars item) :
    Closed vars (.operator "$and" (.array items))
  | or {vars : List String} {items : List Value} (hitems : ∀ item ∈ items, Closed vars item) :
    Closed vars (.operator "$or" (.array items))
  | cond {vars : List String} {condition yes no : Value} (hcondition : Closed vars condition)
    (hyes : Closed vars yes) (hno : Closed vars no) :
    Closed vars (Join.choice condition yes no)
  | switch {vars : List String} {branches : List (Value × Value)} {otherwise : Value}
    (hcases : ∀ b ∈ branches, Closed vars b.1) (hbodies : ∀ b ∈ branches, Closed vars b.2)
    (hotherwise : Closed vars otherwise) :
    Closed vars (.operator "$switch" (.object
      [("branches", .array (branches.map fun b => branch b.1 b.2)), ("default", otherwise)]))
  | map {vars : List String} {array body : Value} (harray : Closed vars array)
    (hbody : Closed (Access.itemName :: vars) body) :
    Closed vars (.operator "$map"
      (.object [("input", array), ("as", .string Access.itemName), ("in", body)]))
  | patternMatch {vars : List String} {input pattern : Value} (ignoreCase : Bool)
    (hinput : Closed vars input) (hpattern : Closed vars pattern) :
    Closed vars (.operator "$regexMatch" (.object
      ([("input", input), ("regex", pattern)]
        ++ if ignoreCase then [("options", .string "i")] else [])))
  | field {vars : List String} {input : Value} (name : String) (hinput : Closed vars input) :
    Closed vars (Access.fieldOf input name)

namespace Value

theorem defined_evalItems {items : List Value} {scope : Scope}
    (h : ∀ item ∈ items, Defined (eval item scope)) : Defined (evalItems items scope) := by
  induction items with
  | nil => exact .ok _
  | cons item rest ih =>
    have hitem := h item List.mem_cons_self
    have hrest := ih fun i hi => h i (List.mem_cons_of_mem item hi)
    simp only [evalItems]
    split
    · rename_i e he
      exact .error (hitem e he)
    · split
      · rename_i e he
        exact .error (hrest e he)
      · exact .ok _

theorem defined_evalUntil (want : Bool) {items : List Value} {scope : Scope}
    (h : ∀ item ∈ items, Defined (eval item scope)) : Defined (evalUntil want items scope) := by
  induction items with
  | nil => exact .ok _
  | cons item rest ih =>
    have hitem := h item List.mem_cons_self
    have hrest := ih fun i hi => h i (List.mem_cons_of_mem item hi)
    simp only [evalUntil]
    split
    · rename_i e he
      exact .error (hitem e he)
    · split
      · exact .ok _
      · exact hrest

theorem defined_evalFields {fields : Document} {scope : Scope}
    (h : ∀ m ∈ fields, Defined (eval m.2 scope)) : Defined (evalFields fields scope) := by
  induction fields with
  | nil => exact .ok _
  | cons m rest ih =>
    have hfirst := h m List.mem_cons_self
    have hrest := ih fun i hi => h i (List.mem_cons_of_mem m hi)
    simp only [evalFields]
    split
    · rename_i e he
      exact .error (hfirst e he)
    · split
      · rename_i e he
        exact .error (hrest e he)
      · split <;> exact .ok _

theorem defined_mapItems {body : Value → Evaluation} {items : List Value}
    (h : ∀ item ∈ items, Defined (body item)) : Defined (mapItems body items) := by
  induction items with
  | nil => exact .ok _
  | cons item rest ih =>
    have hitem := h item List.mem_cons_self
    have hrest := ih fun i hi => h i (List.mem_cons_of_mem item hi)
    simp only [mapItems]
    split
    · rename_i e he
      exact .error (hitem e he)
    · split
      · rename_i e he
        exact .error (hrest e he)
      · exact .ok _

theorem evalBranches_cons (condition body : Value) (rest : List Value) (scope : Scope) :
    evalBranches (branch condition body :: rest) scope =
      match eval condition scope with
      | .error e => .error e
      | .ok v =>
        if isTruthy? v then (eval body scope).map some else evalBranches rest scope := by
  rfl

theorem defined_evalBranches {branches : List (Value × Value)} {scope : Scope}
    (hcases : ∀ b ∈ branches, Defined (eval b.1 scope))
    (hbodies : ∀ b ∈ branches, Defined (eval b.2 scope)) :
    Defined (evalBranches (branches.map fun b => branch b.1 b.2) scope) := by
  induction branches with
  | nil => exact .ok _
  | cons b rest ih =>
    have hcase := hcases b List.mem_cons_self
    have hbody := hbodies b List.mem_cons_self
    have hrest := ih (fun i hi => hcases i (List.mem_cons_of_mem b hi))
      fun i hi => hbodies i (List.mem_cons_of_mem b hi)
    rw [List.map_cons, evalBranches_cons]
    split
    · rename_i e he
      exact .error (hcase e he)
    · split
      · exact hbody.map some
      · exact hrest

theorem eval_patternMatch (input pattern : Value) (ignoreCase : Bool) (scope : Scope) :
    eval (.operator "$regexMatch" (.object ([("input", input), ("regex", pattern)]
      ++ if ignoreCase then [("options", .string "i")] else []))) scope =
      match eval input scope with
      | .error error => (.error error : Evaluation)
      | .ok subject =>
        match eval pattern scope with
        | .error error => .error error
        | .ok source =>
          applyPatternMatch subject source
              (if ignoreCase then some (.string "i") else none) := by
  cases ignoreCase <;> rfl

theorem defined_applyPatternMatch (input pattern options : Option Value) :
    Defined (applyPatternMatch input pattern options) := by
  unfold applyPatternMatch
  split
  · exact .ok _
  · exact .ok _
  · split
    · dsimp only
      split
      · exact .ok _
      · exact .error rfl
    · exact Operator.defined_fail _
  · exact Operator.defined_fail _

theorem defined_eval_object {fields : Document} {scope : Scope}
    (hnames : ∀ m ∈ fields, isOperatorName m.1 = false)
    (h : ∀ m ∈ fields, Defined (eval m.2 scope)) : Defined (eval (.object fields) scope) := by
  match fields with
  | [] => exact .ok _
  | [(key, v)] =>
    have hname : isOperatorName key = false := hnames (key, v) List.mem_cons_self
    have hv : Defined (eval v scope) := h (key, v) List.mem_cons_self
    rw [eval.eq_def]
    simp only [hname, Bool.false_eq_true, if_false]
    split
    · rename_i e he
      exact .error (hv e he)
    · exact .ok _
    · exact .ok _
  | m :: n :: rest =>
    have hmembers := defined_evalFields h
    rw [eval.eq_def]
    simp only
    split
    · rename_i e he
      exact .error (hmembers e he)
    · exact .ok _

theorem defined_eval_constant {v : Value} (hstring : v.string? = none)
    (hitems : v.items? = none)
    (hfields : v.fields? = none) (scope : Scope) : Defined (eval v scope) := by
  cases v with
  | string s => simp [string?] at hstring
  | array items => simp [items?] at hitems
  | object fields => simp [fields?] at hfields
  | _ => exact .ok _

/-! ### Forms with parts -/

section Parts

variable {scope : Scope} {input condition yes no array body pattern : Value}

theorem defined_eval_operator (op : Operator) {arg : Value} (harg : Defined (eval arg scope)) :
    Defined (eval (.operator op.name arg) scope) := by
  cases arg with
  | array items =>
    rw [eval_operator_array]
    refine Defined.bind (fun e he => harg e ?_) fun args => op.defined_apply args
    rw [eval_array, he]
    rfl
  | _ =>
    rw [eval_operator_single op rfl]
    exact harg.bind fun v => op.defined_apply _

theorem defined_eval_choice (hcondition : Defined (eval condition scope))
    (hyes : Defined (eval yes scope)) (hno : Defined (eval no scope)) :
    Defined (eval (Join.choice condition yes no) scope) := by
  rw [Join.choice, eval_choice]
  split
  · rename_i e he
    exact .error (hcondition e he)
  · split
    · exact hyes
    · exact hno

theorem defined_eval_switch {branches : List (Value × Value)} {otherwise : Value}
    (hcases : ∀ b ∈ branches, Defined (eval b.1 scope))
    (hbodies : ∀ b ∈ branches, Defined (eval b.2 scope))
    (hotherwise : Defined (eval otherwise scope)) :
    Defined (eval (.operator "$switch" (.object
      [("branches", .array (branches.map fun b => branch b.1 b.2)), ("default", otherwise)]))
      scope) := by
  rw [eval_switch]
  split
  · rename_i e he
    exact .error (defined_evalBranches hcases hbodies e he)
  · exact .ok _
  · exact hotherwise

theorem defined_eval_map (harray : Defined (eval array scope))
    (hbody : ∀ item, Defined (eval body (scope.bind Access.itemName item))) :
    Defined (eval (.operator "$map"
      (.object [("input", array), ("as", .string Access.itemName), ("in", body)])) scope) := by
  rw [eval_map]
  split
  · rename_i e he
    exact .error (harray e he)
  · unfold applyMap
    split
    · exact .ok _
    · exact .ok _
    · exact (defined_mapItems fun item _ => hbody item).map _
    · exact Operator.defined_fail _

theorem defined_eval_patternMatch (ignoreCase : Bool) (hinput : Defined (eval input scope))
    (hpattern : Defined (eval pattern scope)) :
    Defined (eval (.operator "$regexMatch" (.object ([("input", input), ("regex", pattern)]
      ++ if ignoreCase then [("options", .string "i")] else []))) scope) := by
  rw [eval_patternMatch]
  split
  · rename_i e he
    exact .error (hinput e he)
  · split
    · rename_i e he
      exact .error (hpattern e he)
    · exact defined_applyPatternMatch _ _ _

theorem defined_eval_fieldOf (name : String) (hinput : Defined (eval input scope)) :
    Defined (eval (Access.fieldOf input name) scope) := by
  rw [eval_fieldOf]
  refine hinput.bind fun v => ?_
  unfold applyGetField
  dsimp only
  split <;> exact .ok _

end Parts

/-- Where its variables are bound, a closed expression does not fail because something is
unknown. -/
theorem Closed.defined_eval {vars : List String} {e : Value} (h : Closed vars e) (scope : Scope)
    (hscope : Document.Binds scope.vars vars) : Defined (eval e scope) := by
  induction h generalizing scope with
  | constant hstring hitems hfields => exact defined_eval_constant hstring hitems hfields scope
  | text hplain =>
    rw [eval_string, read_of_not_operatorName hplain]
    exact .ok _
  | path hplain =>
    rw [eval_string, PathText.read_root scope hplain]
    exact .ok _
  | bound hname hmem =>
    obtain ⟨v, hv⟩ := hscope.variableOf hmem
    rw [eval_string, (PathText.bound _ v hname hv).read]
    exact .ok _
  | member hname hmem =>
    obtain ⟨v, hv⟩ := hscope.variableOf hmem
    rw [eval_string, (PathText.member _ v _ hname hv).read]
    exact .ok _
  | array hitems ih =>
    rw [eval_array]
    exact (defined_evalItems fun item hitem => ih item hitem scope hscope).bind fun _ => .ok _
  | object hnames hfields ih =>
    exact defined_eval_object hnames fun m hm => ih m hm scope hscope
  | quoted v =>
    rw [eval_quote]
    exact .ok _
  | apply op harg ih => exact defined_eval_operator op (ih scope hscope)
  | and hitems ih =>
    rw [eval_and]
    exact defined_evalUntil false fun item hitem => ih item hitem scope hscope
  | or hitems ih =>
    rw [eval_or]
    exact defined_evalUntil true fun item hitem => ih item hitem scope hscope
  | cond _ _ _ ihcondition ihyes ihno =>
    exact defined_eval_choice (ihcondition scope hscope) (ihyes scope hscope)
      (ihno scope hscope)
  | switch hcases hbodies hotherwise ihcases ihbodies ihotherwise =>
    exact defined_eval_switch (fun b hb => ihcases b hb scope hscope)
      (fun b hb => ihbodies b hb scope hscope) (ihotherwise scope hscope)
  | map harray hbody iharray ihbody =>
    exact defined_eval_map (iharray scope hscope) fun item =>
      ihbody (scope.bind Access.itemName item) (hscope.insert Access.itemName item)
  | patternMatch ignoreCase hinput hpattern ihinput ihpattern =>
    exact defined_eval_patternMatch ignoreCase (ihinput scope hscope) (ihpattern scope hscope)
  | field name hinput ih => exact defined_eval_fieldOf name (ih scope hscope)

end Value

end DocQuery
