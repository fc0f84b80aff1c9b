import DocQuery.Proofs.ClosedParts
import DocQuery.Proofs.OuterReferences
set_option autoImplicit false

/-!
# Proofs: expressions that mirror each other

Two expressions mirror each other if they differ at most in the fields of the row that their
paths start from. Where such fields hold the same in two rows, the expressions evaluate to the
same.
-/

namespace DocQuery

open Operator (found truth)

/-- A path behind a point goes on with the names of that path. -/
theorem Text.split_extend (front last : String) :
    split '.' (front ++ "." ++ last) = split '.' front ++ split '.' last := by
  have hparts : ∀ cs ds : List Char, partsOf '.' (cs ++ '.' :: ds) =
      ((partsOf '.' cs).1, (partsOf '.' cs).2 ++
          ((partsOf '.' ds).1 :: (partsOf '.' ds).2)) := by
    intro cs ds
    induction cs with
    | nil => simp [partsOf]
    | cons c rest ih =>
      simp only [List.cons_append, partsOf, ih]
      by_cases hc : c = '.' <;> simp [hc]
  simp [split, hparts]

namespace Value

theorem pathNames_extend {p x : String} {rest : List String} (hp : pathNames p = x :: rest)
    (name : String) : pathNames (p ++ "." ++ name) = x :: (rest ++ pathNames name) := by
  rw [pathNames, Text.split_extend]
  exact congrArg (· ++ pathNames name) hp

/-! ## Shapes -/

/-- A disjunction or a conjunction: one condition of a certain truth settles it. -/
def junction (settles : Bool) (items : List Value) : Value :=
  .operator (if settles then "$or" else "$and") (.array items)

/-- A case distinction with branches that there may be. -/
def switch (branches : List Value) (otherwise : Value) : Value :=
  .operator "$switch" (.object [("branches", .array branches), ("default", otherwise)])

theorem eval_junction (settles : Bool) (items : List Value) (scope : Scope) :
    eval (junction settles items) scope = evalUntil settles items scope := by
  cases settles with
  | true => exact eval_or items scope
  | false => exact eval_and items scope

theorem eval_switch_nil (otherwise : Value) (scope : Scope) :
    eval (switch [] otherwise) scope = eval otherwise scope := by
  rw [switch, eval_switch]
  rfl

theorem eval_switch_cons (condition result : Value) (rest : List Value) (otherwise : Value)
    (scope : Scope) : eval (switch (branch condition result :: rest) otherwise) scope =
      match eval condition scope with
      | .error e => .error e
      | .ok v =>
        if isTruthy? v then eval result scope else eval (switch rest otherwise) scope := by
  rw [switch, switch, eval_switch, eval_switch, evalBranches_cons]
  cases eval condition scope with
  | error e => rfl
  | ok v =>
    by_cases hv : isTruthy? v = true
    · simp only [hv, if_true]
      cases eval result scope <;> rfl
    · simp only [hv, if_false, Bool.false_eq_true]

/-! ## Mirrored expressions -/

/-- Whether two expressions differ at most in the fields that their paths start from, which are
then related. -/
inductive Mirrors (R : String → String → Prop) : Value → Value → Prop where
  | fixed {e : Value} (hstring : e.string? = none) (hitems : e.items? = none)
    (heval : ∀ scope other, eval e scope = eval e other) : Mirrors R e e
  | text {s : String} (hplain : isOperatorName s = false) : Mirrors R (.string s) (.string s)
  | path {p p' x x' : String} {rest : List String} (h : R x x') (hp : pathNames p = x :: rest)
    (hp' : pathNames p' = x' :: rest) (hplain : isOperatorName p = false)
    (hplain' : isOperatorName p' = false) :
    Mirrors R (.string ("$" ++ p)) (.string ("$" ++ p'))
  | bound {name : String} (hname : '.' ∉ name.toList) (hroot : Scope.isRootName name = false) :
    Mirrors R (.string ("$$" ++ name)) (.string ("$$" ++ name))
  | member {name : String} (hname : '.' ∉ name.toList) (hroot : Scope.isRootName name = false)
    (path : String) :
    Mirrors R (.string ("$$" ++ name ++ "." ++ path)) (.string ("$$" ++ name ++ "." ++ path))
  | nil : Mirrors R (.array []) (.array [])
  | cons {e e' : Value} {items items' : List Value} (he : Mirrors R e e')
    (hitems : Mirrors R (.array items) (.array items')) :
    Mirrors R (.array (e :: items)) (.array (e' :: items'))
  | apply (op : Operator) {arg arg' : Value} (harg : Mirrors R arg arg') :
    Mirrors R (.operator op.name arg) (.operator op.name arg')
  | junctionNil (settles : Bool) : Mirrors R (junction settles []) (junction settles [])
  | junctionCons {settles : Bool} {e e' : Value} {items items' : List Value}
    (he : Mirrors R e e')
    (hitems : Mirrors R (junction settles items) (junction settles items')) :
    Mirrors R (junction settles (e :: items)) (junction settles (e' :: items'))
  | cond {condition condition' yes yes' no no' : Value}
    (hcondition : Mirrors R condition condition')
    (hyes : Mirrors R yes yes') (hno : Mirrors R no no') :
    Mirrors R (Join.choice condition yes no) (Join.choice condition' yes' no')
  | switchNil {e e' : Value} (h : Mirrors R e e') : Mirrors R (switch [] e) (switch [] e')
  | switchCons {condition condition' result result' e e' : Value} {rest rest' : List Value}
    (hcondition : Mirrors R condition condition') (hresult : Mirrors R result result')
    (hrest : Mirrors R (switch rest e) (switch rest' e')) :
    Mirrors R (switch (branch condition result :: rest) e)
      (switch (branch condition' result' :: rest') e')
  | map {array array' body body' : Value} (harray : Mirrors R array array')
    (hbody : Mirrors R body body') :
    Mirrors R (.operator "$map" (.object [("input", array), ("as", .string Access.itemName),
      ("in", body)])) (.operator "$map" (.object [("input", array'),
      ("as", .string Access.itemName), ("in", body')]))
  | patternMatch {input input' pattern pattern' : Value} (ignoreCase : Bool)
    (hinput : Mirrors R input input')
    (hpattern : Mirrors R pattern pattern') :
    Mirrors R
      (.operator "$regexMatch" (.object ([("input", input), ("regex", pattern)]
        ++ if ignoreCase then [("options", .string "i")] else [])))
      (.operator "$regexMatch" (.object ([("input", input'), ("regex", pattern')]
        ++ if ignoreCase then [("options", .string "i")] else [])))
  | field {input input' : Value} (name : String) (hinput : Mirrors R input input') :
    Mirrors R (Access.fieldOf input name) (Access.fieldOf input' name)

/-- Two rows that are no arrays, of which related fields hold the same. -/
structure Agree (R : String → String → Prop) (row other : Value) : Prop where
  first : row.items? = none
  second : other.items? = none
  fields : ∀ x x', R x x' → row.field? x = other.field? x'

namespace Mirrors

variable {R : String → String → Prop} {e e' : Value} {row other : Value}

theorem mono {S : String → String → Prop} (hsub : ∀ x x', R x x' → S x x')
    (h : Mirrors R e e') : Mirrors S e e' := by
  induction h with
  | fixed hstring hitems heval => exact .fixed hstring hitems heval
  | text hplain => exact .text hplain
  | path h hp hp' hplain hplain' => exact .path (hsub _ _ h) hp hp' hplain hplain'
  | bound hname hroot => exact .bound hname hroot
  | member hname hroot path => exact .member hname hroot path
  | nil => exact .nil
  | cons _ _ ihe ihitems => exact .cons ihe ihitems
  | apply op _ ih => exact .apply op ih
  | junctionNil settles => exact .junctionNil settles
  | junctionCons _ _ ihe ihitems => exact .junctionCons ihe ihitems
  | cond _ _ _ ihcondition ihyes ihno => exact .cond ihcondition ihyes ihno
  | switchNil _ ih => exact .switchNil ih
  | switchCons _ _ _ ihcondition ihresult ihrest =>
    exact .switchCons ihcondition ihresult ihrest
  | map _ _ iharray ihbody => exact .map iharray ihbody
  | patternMatch ignoreCase _ _ ihinput ihpattern =>
    exact .patternMatch ignoreCase ihinput ihpattern
  | field name _ ih => exact .field name ih

/-- The current item of an array. -/
theorem item : Mirrors R (.string ("$$" ++ Access.itemName))
    (.string ("$$" ++ Access.itemName)) :=
  .bound (by decide) (by decide)

section Variables

variable {name : String} (hname : '.' ∉ name.toList) (hroot : Scope.isRootName name = false)
include hname hroot

/-- A variable is the same, whatever the row is. -/
theorem read_bound (root root' : Value) (vars : Document) :
    Scope.read ⟨root, vars⟩ ("$$" ++ name) = Scope.read ⟨root', vars⟩ ("$$" ++ name) := by
  rw [PathText.read_variable, PathText.read_variable, Scope.reference, Scope.reference,
    Text.splitOnce?_of_notMem hname]
  simp [Scope.variableOf, hroot]

theorem read_member (root root' : Value) (vars : Document) (path : String) :
    Scope.read ⟨root, vars⟩ ("$$" ++ name ++ "." ++ path) =
      Scope.read ⟨root', vars⟩ ("$$" ++ name ++ "." ++ path) := by
  have htext : "$$" ++ name ++ "." ++ path = "$$" ++ (name ++ "." ++ path) := by
    simp only [String.append_assoc]
  rw [htext, PathText.read_variable, PathText.read_variable, Scope.reference, Scope.reference,
    Text.splitOnce?_append hname]
  simp [Scope.variableOf, hroot]

end Variables

/-- Paths that start from related fields and go on alike read the same. -/
theorem read_path {p p' x x' : String} {rest : List String} (hrows : Agree R row other)
    (h : R x x') (hp : pathNames p = x :: rest) (hp' : pathNames p' = x' :: rest)
    (hplain : isOperatorName p = false) (hplain' : isOperatorName p' = false)
    (vars : Document) :
    Scope.read ⟨row, vars⟩ ("$" ++ p) = Scope.read ⟨other, vars⟩ ("$" ++ p') := by
  rw [PathText.read_root _ hplain, PathText.read_root _ hplain', getPath, getPath, hp, hp',
    walk_cons hrows.first, walk_cons hrows.second, hrows.fields x x' h]

/-- An operator computes the same of arguments that are lists whose items evaluate to the same,
or that are none and evaluate to the same. -/
theorem eval_operator_congr (op : Operator) {arg arg' : Value} {scope scope' : Scope}
    (hvalue : eval arg scope = eval arg' scope')
    (hitems : (arg.items?.map fun items => evalItems items scope) =
      arg'.items?.map fun items => evalItems items scope') :
    eval (.operator op.name arg) scope = eval (.operator op.name arg') scope' := by
  cases harg : arg.items? with
  | none =>
    rw [harg] at hitems
    have harg' : arg'.items? = none := Option.map_eq_none_iff.mp hitems.symm
    rw [eval_operator_single op harg, eval_operator_single op harg', hvalue]
  | some items =>
    cases harg' : arg'.items? with
    | none => simp [harg, harg'] at hitems
    | some items' =>
      obtain rfl : arg = .array items := by cases arg <;> simp_all [Value.items?]
      obtain rfl : arg' = .array items' := by cases arg' <;> simp_all [Value.items?]
      have hsame : evalItems items scope = evalItems items' scope' := by
        simpa [Value.items?] using hitems
      rw [eval_operator_array, eval_operator_array, hsame]

/-- Mirrored expressions evaluate to the same on rows that agree, and so do the items of those
that are lists. -/
theorem sameItems (h : Mirrors R e e') (hrows : Agree R row other) (vars : Document) :
    eval e ⟨row, vars⟩ = eval e' ⟨other, vars⟩ ∧
      (e.items?.map fun items => evalItems items ⟨row, vars⟩) =
        e'.items?.map fun items => evalItems items ⟨other, vars⟩ := by
  induction h generalizing vars with
  | fixed hstring hitems heval => exact ⟨heval _ _, by simp [hitems]⟩
  | text hplain =>
    refine ⟨?_, rfl⟩
    rw [eval_string, eval_string, read_of_not_operatorName hplain,
      read_of_not_operatorName hplain]
  | path h hp hp' hplain hplain' =>
    exact ⟨by rw [eval_string, eval_string, read_path hrows h hp hp' hplain hplain'], rfl⟩
  | bound hname hroot =>
    exact ⟨by rw [eval_string, eval_string, read_bound hname hroot row other], rfl⟩
  | member hname hroot path =>
    exact ⟨by rw [eval_string, eval_string, read_member hname hroot row other], rfl⟩
  | nil => exact ⟨rfl, rfl⟩
  | @cons e e' items items' _ _ ihe ihitems =>
    have hitems : evalItems items ⟨row, vars⟩ = evalItems items' ⟨other, vars⟩ := by
      simpa [items?] using (ihitems vars).2
    have hall : evalItems (e :: items) ⟨row, vars⟩ =
        evalItems (e' :: items') ⟨other, vars⟩ := by
      simp only [evalItems, (ihe vars).1, hitems]
    exact ⟨by rw [eval_array, eval_array, hall], congrArg some hall⟩
  | apply op _ ih => exact ⟨eval_operator_congr op (ih vars).1 (ih vars).2, rfl⟩
  | junctionNil settles => exact ⟨by rw [eval_junction, eval_junction]; rfl, rfl⟩
  | @junctionCons settles e e' items items' _ _ ihe ihitems =>
    have hrest := (ihitems vars).1
    rw [eval_junction, eval_junction] at hrest
    refine ⟨?_, rfl⟩
    rw [eval_junction, eval_junction]
    simp only [evalUntil, (ihe vars).1, hrest]
  | cond _ _ _ ihcondition ihyes ihno =>
    refine ⟨?_, rfl⟩
    rw [Join.choice, Join.choice, eval_choice, eval_choice, (ihcondition vars).1,
      (ihyes vars).1, (ihno vars).1]
  | switchNil _ ih => exact ⟨by rw [eval_switch_nil, eval_switch_nil, (ih vars).1], rfl⟩
  | switchCons _ _ _ ihcondition ihresult ihrest =>
    refine ⟨?_, rfl⟩
    rw [eval_switch_cons, eval_switch_cons, (ihcondition vars).1, (ihresult vars).1,
      (ihrest vars).1]
  | @map array array' body body' _ _ iharray ihbody =>
    have hbody : ∀ item, eval body ⟨row, Document.insert vars Access.itemName item⟩ =
        eval body' ⟨other, Document.insert vars Access.itemName item⟩ :=
          fun item => (ihbody _).1
    refine ⟨?_, rfl⟩
    rw [eval_map, eval_map, (iharray vars).1]
    simp only [Scope.bind, hbody]
  | patternMatch ignoreCase _ _ ihinput ihpattern =>
    refine ⟨?_, rfl⟩
    rw [eval_patternMatch, eval_patternMatch, (ihinput vars).1, (ihpattern vars).1]
  | field name _ ih => exact ⟨by rw [eval_fieldOf, eval_fieldOf, (ih vars).1], rfl⟩

theorem eval_eq (h : Mirrors R e e') (hrows : Agree R row other) (vars : Document) :
    eval e ⟨row, vars⟩ = eval e' ⟨other, vars⟩ :=
  (h.sameItems hrows vars).1

/-! ## Lists -/

variable {es es' : List Value} {a a' b b' : Value}

theorem array (h : List.Forall₂ (Mirrors R) es es') : Mirrors R (.array es) (.array es') := by
  induction h with
  | nil => exact .nil
  | cons he _ ih => exact .cons he ih

theorem junction (settles : Bool) (h : List.Forall₂ (Mirrors R) es es') :
    Mirrors R (Value.junction settles es) (Value.junction settles es') := by
  induction h with
  | nil => exact .junctionNil settles
  | cons he _ ih => exact .junctionCons he ih

theorem pair (ha : Mirrors R a a') (hb : Mirrors R b b') :
    List.Forall₂ (Mirrors R) [a, b] [a', b'] :=
  .cons ha (.cons hb .nil)

theorem binary (op : Operator) (ha : Mirrors R a a') (hb : Mirrors R b b') :
    Mirrors R (Value.binary op.name a b) (Value.binary op.name a' b') :=
  .apply op (.array (pair ha hb))

/-! ## Literals -/

theorem null : Mirrors R .null .null := .fixed rfl rfl fun _ _ => by simp only [eval]

theorem bool (b : Bool) : Mirrors R (.bool b) (.bool b) :=
    .fixed rfl rfl fun _ _ => by simp only [eval]

theorem int (n : Int64) : Mirrors R (.int n) (.int n) :=
    .fixed rfl rfl fun _ _ => by simp only [eval]

theorem quote (v : Value) : Mirrors R (Value.quote v) (Value.quote v) :=
  .fixed rfl rfl fun _ _ => by rw [eval_quote, eval_quote]

mutual

theorem protect (v : Value) : Mirrors R v.protect v.protect := by
  match v with
  | .string s =>
    rw [Value.protect]
    split
    · exact quote _
    · rename_i hplain
      exact .text (by simpa using hplain)
  | .object fields => exact quote _
  | .array items => exact array (protectItems items)
  | .null => exact null
  | .bool b => exact bool b
  | .int n => exact int n
  | .float x => exact .fixed rfl rfl fun _ _ => by simp only [Value.protect, eval]
  | .decimal d => exact .fixed rfl rfl fun _ _ => by simp only [Value.protect, eval]

theorem protectItems (items : List Value) :
    List.Forall₂ (Mirrors R) (Value.protectItems items) (Value.protectItems items) := by
  match items with
  | [] => exact .nil
  | v :: rest => exact .cons (protect v) (protectItems rest)

end

theorem protectAlone (v : Value) : Mirrors R v.protectAlone v.protectAlone := by
  cases v with
  | int n => exact quote _
  | array items => exact quote _
  | _ => exact protect _

/-! ## Predicates -/

theorem nullCheck (ha : Mirrors R a a') (flag : Bool) :
    Mirrors R (a.nullCheck flag) (a'.nullCheck flag) := by
  have htype : Mirrors R (Value.binary "$eq" (.operator "$type" a) (.string "missing"))
      (Value.binary "$eq" (.operator "$type" a') (.string "missing")) :=
    binary (.comparison .eq) (.apply .type ha) (.text rfl)
  have hnull : Mirrors R (Value.binary "$eq" a .null) (Value.binary "$eq" a' .null) :=
    binary (.comparison .eq) ha null
  have hcheck := junction true (pair htype hnull)
  cases flag with
  | true => exact hcheck
  | false => exact .apply .not hcheck

theorem presentAnd (c : Comparison) (ha : Mirrors R a a') (hb : Mirrors R b b') :
    Mirrors R (Value.presentAnd c.name a b) (Value.presentAnd c.name a' b') :=
  junction false (pair (binary (.comparison c) ha hb) (nullCheck ha false))

/-- What mirrors a list is a list. -/
theorem items {items : List Value} (h : Mirrors R (.array items) e') :
    ∃ others, e' = .array others ∧ List.Forall₂ (Mirrors R) items others := by
  induction items generalizing e' with
  | nil =>
    cases h with
    | fixed _ hitems _ => simp [items?] at hitems
    | nil => exact ⟨[], rfl, .nil⟩
  | cons item rest ih =>
    cases h with
    | fixed _ hitems _ => simp [items?] at hitems
    | cons he hrest =>
      obtain ⟨others, hothers, hall⟩ := ih hrest
      exact ⟨_, rfl, .cons he (Value.array.inj hothers ▸ hall)⟩

/-- What mirrors an expression that is no list is none. -/
theorem single (h : Mirrors R e e') (hsingle : e.items? = none) : e'.items? = none := by
  cases h with
  | fixed _ hitems _ => exact hitems
  | nil => simp [items?] at hsingle
  | cons _ _ => simp [items?] at hsingle
  | _ => rfl

theorem boundsOf_single (h : b.items? = none) : boundsOf b = (b, .null) := by
  cases b with
  | array items => simp [items?] at h
  | _ => rfl

theorem bounds (hb : Mirrors R b b') :
    Mirrors R (boundsOf b).1 (boundsOf b').1 ∧ Mirrors R (boundsOf b).2 (boundsOf b').2 := by
  cases hitems : b.items? with
  | none =>
    rw [boundsOf_single hitems, boundsOf_single (hb.single hitems)]
    exact ⟨hb, null⟩
  | some items =>
    obtain rfl : b = .array items := by cases b <;> simp_all [Value.items?]
    obtain ⟨others, rfl, hall⟩ := hb.items
    cases hall with
    | nil => exact ⟨hb, null⟩
    | cons hlow hrest =>
      cases hrest with
      | nil => exact ⟨hb, null⟩
      | cons hhigh hrest =>
        cases hrest with
        | nil => exact ⟨hlow, hhigh⟩
        | cons _ _ => exact ⟨hb, null⟩

theorem rangeCheck (ha : Mirrors R a a') (hb : Mirrors R b b') :
    Mirrors R (Value.rangeCheck a b) (Value.rangeCheck a' b') := by
  obtain ⟨hlow, hhigh⟩ := bounds hb
  refine junction false (pair ?_ ?_)
  · exact junction true (pair (nullCheck hlow true) (binary (.comparison .gte) ha hlow))
  · exact junction true (pair (nullCheck hhigh true) (binary (.comparison .lte) ha hhigh))

theorem subsetCheck {mapped mapped' values values' subset subset' superset superset' : Value}
    (hmapped : Mirrors R mapped mapped') (hvalues : Mirrors R values values')
    (hsubset : Mirrors R subset subset') (hsuperset : Mirrors R superset superset') :
    Mirrors R (Value.subsetCheck mapped values subset superset)
      (Value.subsetCheck mapped' values' subset' superset') := by
  have hfirst := binary (.comparison .ne) hmapped null
  have hsecond := binary (.comparison .ne) hvalues null
  exact junction false (.cons hfirst (pair hsecond (binary .setIsSubset hsubset hsuperset)))

/-! ## Patterns -/

theorem literalPiece?_operator {name : String} (h : name ≠ "$literal") (arg : Value) :
    literalPiece? (.operator name arg) = none := by
  unfold literalPiece? operator
  split <;> simp_all

theorem literalPiece?_path (p : String) : literalPiece? (.string ("$" ++ p)) = none := by
  have hname : isOperatorName ("$" ++ p) = true := by simp [isOperatorName, Text.startsWith]
  simp [literalPiece?, hname]

/-- Mirrored pieces of a pattern are the same literals, or none. -/
theorem literalPiece?_eq (h : Mirrors R e e') : literalPiece? e = literalPiece? e' := by
  cases h with
  | fixed => rfl
  | text => rfl
  | path => rw [literalPiece?_path, literalPiece?_path]
  | bound => rfl
  | member => rfl
  | nil => rfl
  | cons => rfl
  | apply op _ =>
    have hne : op.name ≠ "$literal" := by
      intro hname
      have hform := op.specialForm_name
      rw [hname] at hform
      simp [SpecialForm.ofName?] at hform
    rw [literalPiece?_operator hne, literalPiece?_operator hne]
  | junctionNil => rfl
  | @junctionCons settles =>
    cases settles <;> exact (literalPiece?_operator (by decide) _).trans (literalPiece?_operator
      (by decide) _).symm
  | cond =>
    exact (literalPiece?_operator (by decide) _).trans (literalPiece?_operator
      (by decide) _).symm
  | switchNil =>
    exact (literalPiece?_operator (by decide) _).trans (literalPiece?_operator
      (by decide) _).symm
  | switchCons =>
    exact (literalPiece?_operator (by decide) _).trans (literalPiece?_operator
      (by decide) _).symm
  | map =>
    exact (literalPiece?_operator (by decide) _).trans (literalPiece?_operator
      (by decide) _).symm
  | patternMatch =>
    exact (literalPiece?_operator (by decide) _).trans (literalPiece?_operator
      (by decide) _).symm
  | field =>
    exact (literalPiece?_operator (by decide) _).trans (literalPiece?_operator
      (by decide) _).symm

theorem patternOf (h : List.Forall₂ (Mirrors R) es es') :
    Mirrors R (Value.patternOf es) (Value.patternOf es') := by
  have hpieces : literalPieces? es = literalPieces? es' := by
    induction h with
    | nil => rfl
    | cons he _ ih => simp only [literalPieces?, literalPiece?_eq he, ih]
  unfold Value.patternOf
  rw [hpieces]
  split
  · rename_i s _
    exact protect (.string s)
  · cases h with
    | nil => exact .apply .concat .nil
    | cons he hrest =>
      cases hrest with
      | nil => exact he
      | cons he' hrest => exact .apply .concat (array (.cons he (.cons he' hrest)))

theorem patternCheck (ha : Mirrors R a a') (h : List.Forall₂ (Mirrors R) es es')
    (ignoreCase : Bool) :
    Mirrors R (Value.patternCheck a es ignoreCase) (Value.patternCheck a' es' ignoreCase) :=
  .patternMatch ignoreCase ha (patternOf h)

theorem isTruthy_eq (h : Mirrors R e e') : e.isTruthy = e'.isTruthy := by
  cases h <;> rfl

/-- Lookups on mirrored expressions mirror each other. -/
theorem build (l : Lookup) (ha : Mirrors R a a') (hb : Mirrors R b b') :
    Mirrors R (l.build a b) (l.build a' b') := by
  have hstart : Mirrors R startPiece startPiece := .text rfl
  have hend : Mirrors R endPiece endPiece := quote _
  cases l with
  | exact => exact binary (.comparison .eq) ha hb
  | gt => exact binary (.comparison .gt) ha hb
  | gte => exact binary (.comparison .gte) ha hb
  | lt => exact presentAnd .lt ha hb
  | lte => exact presentAnd .lte ha hb
  | «in» => exact binary .membership ha hb
  | range => exact rangeCheck ha hb
  | isnull =>
    show Mirrors R (a.nullCheck b.isTruthy) (a'.nullCheck b'.isTruthy)
    rw [isTruthy_eq hb]
    exact nullCheck ha _
  | all => exact subsetCheck ha hb hb ha
  | containedBy => exact subsetCheck ha hb ha hb
  | iexact => exact patternCheck ha (.cons hstart (pair hb hend)) true
  | startswith => exact patternCheck ha (pair hstart hb) false
  | istartswith => exact patternCheck ha (pair hstart hb) true
  | endswith => exact patternCheck ha (pair hb hend) false
  | iendswith => exact patternCheck ha (pair hb hend) true
  | contains => exact patternCheck ha (.cons hb .nil) false
  | icontains => exact patternCheck ha (.cons hb .nil) true
  | regex => exact patternCheck ha (.cons hb .nil) false
  | iregex => exact patternCheck ha (.cons hb .nil) true

/-! ## Fragments -/

theorem conjunction (h : List.Forall₂ (Mirrors R) es es') :
    Mirrors R (Value.conjunction es) (Value.conjunction es') := by
  cases h with
  | nil => exact bool true
  | cons he hrest =>
    cases hrest with
    | nil => exact he
    | cons he' hrest => exact junction false (.cons he (.cons he' hrest))

theorem disjunction (h : List.Forall₂ (Mirrors R) es es') :
    Mirrors R (Value.disjunction es) (Value.disjunction es') := by
  cases h with
  | nil => exact bool false
  | cons he hrest =>
    cases hrest with
    | nil => exact he
    | cons he' hrest => exact junction true (.cons he (.cons he' hrest))

theorem negation (h : Mirrors R e e') : Mirrors R (Value.negation e) (Value.negation e') :=
  .apply .not (.cons h .nil)

theorem combine (op : Combination) (ha : Mirrors R a a') (hb : Mirrors R b b') :
    Mirrors R (op.combine a b) (op.combine a' b') := by
  have hpower : Mirrors R (powerOfTwo b) (powerOfTwo b') :=
    binary (.arithmetic .power) (int 2) hb
  cases op with
  | arithmetic op => exact binary (.arithmetic op) ha hb
  | bits op => exact binary (.bits op) ha hb
  | leftShift => exact binary (.arithmetic .multiply) ha hpower
  | rightShift => exact .apply .floor (binary (.arithmetic .divide) ha hpower)

/-- Branches of case distinctions whose conditions and results mirror each other. -/
inductive Branch (R : String → String → Prop) : Value → Value → Prop where
  | mk {condition condition' result result' : Value}
    (hcondition : Mirrors R condition condition')
    (hresult : Mirrors R result result') :
    Branch R (branch condition result) (branch condition' result')

theorem Branch.mono {S : String → String → Prop} (hsub : ∀ x x', R x x' → S x x')
    (h : Branch R e e') : Branch S e e' := by
  obtain ⟨hcondition, hresult⟩ := h
  exact .mk (hcondition.mono hsub) (hresult.mono hsub)

theorem switch (h : List.Forall₂ (Branch R) es es') (he : Mirrors R e e') :
    Mirrors R (Value.switch es e) (Value.switch es' e') := by
  induction h with
  | nil => exact .switchNil he
  | cons hbranch _ ih =>
    obtain ⟨hcondition, hresult⟩ := hbranch
    exact .switchCons hcondition hresult ih

theorem caseDistinction (h : List.Forall₂ (Branch R) es es') (he : Mirrors R e e') :
    Mirrors R (Value.caseDistinction es e) (Value.caseDistinction es' e') := by
  cases h with
  | nil => exact he
  | cons hbranch hrest => exact switch (.cons hbranch hrest) he

/-! ## Paths -/

/-- A path goes on behind a point, wherever it starts. -/
theorem extend {text text' : String} (h : Mirrors R (.string text) (.string text'))
    (name : String) :
    Mirrors R (.string (text ++ "." ++ name)) (.string (text' ++ "." ++ name)) := by
  generalize hfirst : Value.string text = first at h
  generalize hsecond : Value.string text' = second at h
  cases h with
  | fixed hstring _ _ =>
    rw [← hfirst] at hstring
    simp [string?] at hstring
  | text hplain =>
    obtain rfl := Value.string.inj hfirst
    obtain rfl := Value.string.inj hsecond
    exact .text (Text.startsWith_append hplain name)
  | @path p p' x x' rest h hp hp' hplain hplain' =>
    obtain rfl := Value.string.inj hfirst
    obtain rfl := Value.string.inj hsecond
    have hlonger : Mirrors R (.string ("$" ++ (p ++ "." ++ name)))
        (.string ("$" ++ (p' ++ "." ++ name))) :=
      .path h (pathNames_extend hp name) (pathNames_extend hp' name)
        (Text.startsWith_append hplain name) (Text.startsWith_append hplain' name)
    simpa only [← String.append_assoc] using hlonger
  | bound hname hroot =>
    obtain rfl := Value.string.inj hfirst
    obtain rfl := Value.string.inj hsecond
    exact .member hname hroot name
  | @member x hname hroot path =>
    obtain rfl := Value.string.inj hfirst
    obtain rfl := Value.string.inj hsecond
    have hlonger : Mirrors R (.string ("$$" ++ x ++ "." ++ (path ++ "." ++ name))) _ :=
      .member hname hroot (path ++ "." ++ name)
    simpa only [← String.append_assoc] using hlonger
  | _ =>
    exact absurd hfirst (by simp [Value.junction, Value.switch, Value.operator, Join.choice,
      Access.fieldOf])

theorem string? (h : Mirrors R e e') : e.string?.isSome = e'.string?.isSome := by
  cases h <;> rfl

theorem keyOf (h : Mirrors R e e') (name : String) :
    Mirrors R (Access.keyOf e name) (Access.keyOf e' name) := by
  have hstring := h.string?
  unfold Access.keyOf
  split <;> split
  · exact extend h name
  · simp_all [Value.string?]
  · simp_all [Value.string?]
  · exact .field name h

theorem lengthOf (h : Mirrors R e e') : Mirrors R (Access.lengthOf e) (Access.lengthOf e') :=
  .cond (.apply .isArray h) (.apply .size h) null

theorem mapOf (ha : Mirrors R a a') (hb : Mirrors R b b') :
    Mirrors R (Access.mapOf a b) (Access.mapOf a' b') :=
  .apply .ifNull (array (pair (.map ha hb) .nil))

end Mirrors

end Value

end DocQuery
