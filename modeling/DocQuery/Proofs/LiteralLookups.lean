import DocQuery.Proofs.Literals
import DocQuery.Proofs.NamedValues
set_option autoImplicit false

/-!
# Proofs: lookups with literals have a truth value

A lookup with a literal, on a stored column or behind one along fields and members, is true or
false of every document, whatever the document holds there.  The only exception are ranges with
arrays as bounds:  a bound is checked for its type, and an array is then read as the list of
arguments of that check.
-/

namespace DocQuery

namespace Access

/-- The stored column that an access starts at, if it only goes on along fields and members. -/
def storedColumn? : Access → Option String
  | .column none name _ => some name
  | .key base _ _ => base.storedColumn?
  | .jsonKey base _ _ => base.storedColumn?
  | _ => none

end Access

namespace Value

open Operator (found truth)

/-- Whether a value, as the argument of an operator on one operand, is read as another number of
operands. -/
def isSpread : Value → Bool
  | .array items => items.length != 1
  | _ => false

theorem isSpread_of_single {v : Value} (h : v.items? = none) : v.isSpread = false := by
  cases v with
  | array items => simp [items?] at h
  | _ => rfl

/-! ## What stands behind a column -/

/-- An expression that has a value in every scope: that of a path from the document, or of
anything that is not written as a list. -/
structure IsReadable (e : Value) : Prop where
  single : e.items? = none
  ofPath : ∀ text, e = .string text → ∃ path, text = "$" ++ path ∧ isOperatorName path = false
  evaluates : ∀ scope, ∃ x, eval e scope = .ok x

theorem IsReadable.path {path : String} (h : isOperatorName path = false) :
    IsReadable (.string ("$" ++ path)) where
  single := rfl
  ofPath _ htext := ⟨path, (string.inj htext).symm, h⟩
  evaluates scope := ⟨_, (eval_string _ scope).trans (PathText.read_root scope h)⟩

/-- A field of any value can be asked for. -/
theorem IsReadable.fieldOf {e : Value} (h : IsReadable e) (name : String) :
    IsReadable (Access.fieldOf e name) where
  single := rfl
  ofPath text htext := by simp [Access.fieldOf, operator] at htext
  evaluates scope := by
    obtain ⟨x, hx⟩ := h.evaluates scope
    rw [eval_fieldOf, hx]
    rcases x with _ | v
    · exact ⟨none, rfl⟩
    · cases v <;> exact ⟨_, rfl⟩

theorem IsReadable.keyOf {e : Value} (h : IsReadable e) (name : String) :
    IsReadable (Access.keyOf e name) := by
  cases e with
  | string text =>
    obtain ⟨path, rfl, hpath⟩ := h.ofPath text rfl
    have hnext : isOperatorName (path ++ "." ++ name) = false := by
      rw [isOperatorName_extend, hpath]
    simpa only [Access.keyOf, String.append_assoc] using IsReadable.path hnext
  | _ => exact h.fieldOf name

/-- What stands behind a column can be read from every document. -/
theorem isReadable_render {a : Access} {column : String} (ha : a.storedColumn? = some column)
    (hcolumn : isOperatorName column = false) : IsReadable a.render := by
  induction a with
  | column joined name type =>
    cases joined with
    | none =>
      obtain rfl := Option.some.inj ha
      exact .path hcolumn
    | some joined => simp [Access.storedColumn?] at ha
  | key base name type ih => exact (ih ha).keyOf name
  | jsonKey base name type ih => exact (ih ha).fieldOf name
  | _ => simp [Access.storedColumn?] at ha

/-! ## Checks of literals for null -/

/-- The fault of a check for a type that is given the items of an array for its operands. -/
def SpreadFails (r : Evaluation) : Prop :=
    ∃ n, n ≠ 1 ∧ r = Operator.fail (.argumentCount "$type" 1 n)

/-- The type of a literal can be asked for unless the literal is an array that does not have one
item. -/
theorem eval_type_protect {v : Value} (h : v.isSpread = false) (scope : Scope) :
    ∃ u : Value, eval (.operator "$type" v.protect) scope = found (.string u.typeName) := by
  cases hitems : v.items? with
  | none => exact ⟨v, eval_operator_one .type (items?_protect hitems) (eval_protect v scope)⟩
  | some items =>
    obtain rfl : v = .array items := by
      cases v <;> simp_all [items?]
    obtain ⟨item, rfl⟩ : ∃ item, items = [item] :=
      List.length_eq_one_iff.mp (by simpa [isSpread] using h)
    refine ⟨item, ?_⟩
    rw [protect]
    refine (eval_operator_array .type _ scope).trans ?_
    rw [evalItems_protectItems]
    rfl

theorem nullCheck_protect {v : Value} (h : v.isSpread = false) (scope : Scope) :
    Decides scope (nullCheck v.protect true) v.isNull := by
  obtain ⟨u, htype⟩ := eval_type_protect h scope
  have hmissing : eval (.string "missing") scope = .ok (some (.string "missing")) :=
    read_of_not_operatorName rfl scope
  have hnull : eval .null scope = .ok (some .null) := by simp only [eval, found]
  have hcheck := Decides.or₂ (Decides.comparison .eq htype hmissing)
    (Decides.comparison .eq (eval_protect v scope) hnull)
  have hname : Comparison.eq.holds (compare? (some (.string u.typeName))
      (some (.string "missing"))) = false := by
    simp only [Comparison.holds, compare?, compare_string, typeName_ne_missing, decide_false]
  rw [hname, Bool.false_or] at hcheck
  cases v <;> exact hcheck

/-- The check of any other array asks for the type of too many values, or of none. -/
theorem nullCheck_spread {v : Value} (h : v.isSpread = true) (scope : Scope) :
    SpreadFails (eval (nullCheck v.protect true) scope) := by
  cases v with
  | array items =>
    have hcount : items.length ≠ 1 := by simpa [isSpread] using h
    refine ⟨items.length, hcount, ?_⟩
    have htype : eval (.operator "$type" (.array (protectItems items))) scope =
        Operator.fail (.argumentCount "$type" 1 items.length) := by
      refine (eval_operator_array .type _ scope).trans ?_
      rw [evalItems_protectItems]
      cases items with
      | nil => rfl
      | cons first rest =>
        cases rest with
        | nil => exact absurd rfl hcount
        | cons second others =>
          simp [Except.bind, Operator.apply, Operator.unary, Operator.name]
    have hequal : eval (binary "$eq" (.operator "$type" (.array (protectItems items)))
      (.string "missing")) scope = Operator.fail (.argumentCount "$type" 1 items.length) := by
      refine (eval_operator_array (.comparison .eq) _ scope).trans ?_
      simp only [evalItems, htype, Operator.fail, Except.bind]
    simp only [nullCheck, protect, if_true, eval_or, evalUntil, hequal, Operator.fail]
  | _ => simp [isSpread] at h

/-! ## Ranges -/

/-- The condition that a bound sets. -/
def boundCheck (c : Comparison) (a bound : Value) : Value :=
  .operator "$or" (.array [nullCheck bound true, binary c.name a bound])

theorem rangeCheck_pair (a low high : Value) : rangeCheck a (.array [low, high]) =
    .operator "$and" (.array [boundCheck .gte a low, boundCheck .lte a high]) := rfl

section Bounds

variable {a v : Value} {scope : Scope} {x : Option Value}

theorem boundCheck_protect (c : Comparison) (ha : eval a scope = .ok x)
    (h : v.isSpread = false) :
    Decides scope (boundCheck c a v.protect) (v.isNull || c.holds (compare? x (some v))) :=
  .or₂ (nullCheck_protect h scope) (.comparison c ha (eval_protect v scope))

theorem boundCheck_spread (c : Comparison) (a : Value) (h : v.isSpread = true) (scope : Scope) :
    SpreadFails (eval (boundCheck c a v.protect) scope) := by
  obtain ⟨n, hn, hcheck⟩ := nullCheck_spread h scope
  refine ⟨n, hn, ?_⟩
  simp only [boundCheck, eval_or, evalUntil, hcheck, Operator.fail]

end Bounds

/-- Whether a range with given bounds comes to a bound that it cannot check: the upper bound is
looked at if the lower one holds. -/
def breaksBetween (low high : Value) (x : Option Value) : Bool :=
  low.isSpread || high.isSpread && (low.isNull || Comparison.gte.holds (compare? x (some low)))

/-- A range has a truth value as far as its bounds can be checked. -/
theorem rangeCheck_evaluates {a : Value} {scope : Scope} {x : Option Value}
    (ha : eval a scope = .ok x) (low high : Value) :
    (breaksBetween low high x = false →
      ∃ b, Decides scope (rangeCheck a (.array [low.protect, high.protect])) b) ∧
    (breaksBetween low high x = true →
      SpreadFails (eval (rangeCheck a (.array [low.protect, high.protect])) scope)) := by
  rw [rangeCheck_pair]
  unfold breaksBetween
  cases hlow : low.isSpread with
  | true =>
    obtain ⟨n, hn, hcheck⟩ := boundCheck_spread .gte a hlow scope
    refine ⟨by simp, fun _ => ⟨n, hn, ?_⟩⟩
    simp only [eval_and, evalUntil, hcheck, Operator.fail]
  | false =>
    have hfirst := boundCheck_protect .gte ha hlow
    rw [Bool.false_or]
    generalize (low.isNull || Comparison.gte.holds (compare? x (some low))) = holds at hfirst ⊢
    cases hhigh : high.isSpread with
    | false =>
      have hboth := Decides.and₂ hfirst (boundCheck_protect .lte ha hhigh)
      exact ⟨fun _ => ⟨_, hboth⟩, by simp⟩
    | true =>
      have hfirst : eval (boundCheck .gte a low.protect) scope = .ok (some (.bool holds)) :=
        hfirst
      obtain ⟨n, hn, hcheck⟩ := boundCheck_spread .lte a hhigh scope
      cases holds with
      | false =>
        refine ⟨fun _ => ⟨false, ?_⟩, by simp⟩
        simp [Decides, eval_and, evalUntil, hfirst, isTruthy?, isTruthy]
      | true =>
        refine ⟨by simp, fun _ => ⟨n, hn, ?_⟩⟩
        simp [eval_and, evalUntil, hfirst, hcheck, isTruthy?, isTruthy, Operator.fail]

/-! ## Bounds as they are prepared -/

/-- Arrays are prepared for fields of any type and for JSON fields only, and stay as they
are. -/
theorem preparedFor?_of_isSpread {kind : Option ScalarKind} {v u : Value}
    (h : v.preparedFor? kind = some u) (hspread : v.isSpread = true) :
    kind = none ∨ kind = some .json := by
  cases v with
  | array items =>
    cases kind with
    | none => exact .inl rfl
    | some k => cases k <;> first | exact .inr rfl | simp [preparedFor?, ofKind?] at h
  | _ => simp [isSpread] at hspread

theorem items?_of_ofKind? {kind : ScalarKind} {v u : Value} (hkind : kind ≠ .json)
    (h : v.ofKind? kind = some u) : u.items? = none := by
  cases u with
  | array items => cases kind <;> cases v <;> simp_all [ofKind?]
  | _ => rfl

theorem isSpread_preparedFor? {kind : Option ScalarKind} {v u : Value}
    (h : v.preparedFor? kind = some u) : u.isSpread = v.isSpread := by
  cases hspread : v.isSpread with
  | true =>
    rw [preparedFor?_untyped (preparedFor?_of_isSpread h hspread)] at h
    rw [← Option.some.inj h, hspread]
  | false =>
    by_cases huntyped : kind = none ∨ kind = some .json
    · rw [preparedFor?_untyped huntyped] at h
      rw [← Option.some.inj h, hspread]
    · refine isSpread_of_single ?_
      obtain ⟨k, rfl⟩ : ∃ k, kind = some k := by
        cases kind with
        | none => simp at huntyped
        | some k => exact ⟨k, rfl⟩
      have hk : k ≠ .json := by
        rintro rfl
        simp at huntyped
      exact items?_of_ofKind? hk h

/-- Whether a range breaks does not depend on how its bounds are prepared. -/
theorem breaksBetween_preparedFor? {kind : Option ScalarKind} {low high u w : Value}
    (hlow : low.preparedFor? kind = some u) (hhigh : high.preparedFor? kind = some w)
    (x : Option Value) :
    breaksBetween u w x = breaksBetween low high x := by
  unfold breaksBetween
  rw [isSpread_preparedFor? hlow, isSpread_preparedFor? hhigh]
  cases hspread : high.isSpread with
  | false => rw [Bool.false_and, Bool.false_and]
  | true =>
    rw [preparedFor?_untyped (preparedFor?_of_isSpread hhigh hspread)] at hlow
    rw [Option.some.inj hlow]

end Value

/-! ## Lookups -/

namespace Lookup

open Value
open Operator (truth)

/-- Whether a lookup with a literal cannot be evaluated for a value: a range that comes to a
bound which it cannot check. -/
def breaksOn (l : Lookup) (v : Value) (x : Option Value) : Bool :=
  match l, v with
  | .range, .array [low, high] => breaksBetween low high x
  | _, _ => false

theorem breaksOn_of_ne_range {l : Lookup} (h : l ≠ .range) (v : Value) (x : Option Value) :
    l.breaksOn v x = false := by
  cases l <;> first | rfl | exact absurd rfl h

/-- The bounds of a range are prepared one by one. -/
theorem literal_range_ok {kind : Option ScalarKind} {v w : Value}
    (h : Lookup.range.literal kind v = .ok w) :
    ∃ low high u u', v = .array [low, high] ∧ low.preparedFor? kind = some u ∧
      high.preparedFor? kind = some u' ∧ w = .array [u.protect, u'.protect] := by
  simp only [literal, arity] at h
  split at h <;> try contradiction
  rename_i low high _
  obtain ⟨us, hus, rfl⟩ := listLiteral_ok h
  cases hu : low.preparedFor? kind with
  | none => simp [List.mapM_cons, hu] at hus
  | some u =>
    cases hu' : high.preparedFor? kind with
    | none => simp [List.mapM_cons, hu, hu'] at hus
    | some u' =>
      obtain rfl : [u, u'] = us := by simpa [List.mapM_cons, hu, hu'] using hus
      exact ⟨low, high, u, u', rfl, hu, hu', rfl⟩

/-- The predicate of a lookup with a literal has a truth value for whatever is compared. -/
theorem build_evaluates {l : Lookup} {kind : Option ScalarKind} {v w a : Value} {scope : Scope}
    {x : Option Value} (hpattern : l.arity ≠ .pattern) (hall : l ≠ .all)
    (hcontained : l ≠ .containedBy)
    (hliteral : l.literal kind v = .ok w) (hsingle : a.items? = none)
    (ha : eval a scope = .ok x) :
    (l.breaksOn v x = false → ∃ b, Decides scope (l.build a w) b) ∧
    (l.breaksOn v x = true → SpreadFails (eval (l.build a w) scope)) := by
  by_cases hrange : l = .range
  · subst hrange
    obtain ⟨low, high, u, u', rfl, hu, hu', rfl⟩ := literal_range_ok hliteral
    have hbreaks : Lookup.range.breaksOn (.array [low, high]) x = breaksBetween u u' x :=
      (breaksBetween_preparedFor? hu hu' x).symm
    rw [hbreaks]
    exact rangeCheck_evaluates ha u u'
  refine ⟨fun _ => ?_, fun h => by simp [breaksOn_of_ne_range hrange] at h⟩
  have hprepared : l ∈ comparing → ∃ u, l.prepared? kind v = some u ∧
      eval w scope = .ok (some u) := by
    intro hl
    obtain ⟨u, hu, rfl⟩ := exists_prepared_of_literal hl hliteral
    exact ⟨u, hu, eval_protect u scope⟩
  cases l with
  | exact =>
    obtain ⟨u, -, hw⟩ := hprepared (by simp [comparing])
    exact ⟨_, .comparison .eq ha hw⟩
  | gt =>
    obtain ⟨u, -, hw⟩ := hprepared (by simp [comparing])
    exact ⟨_, .comparison .gt ha hw⟩
  | gte =>
    obtain ⟨u, -, hw⟩ := hprepared (by simp [comparing])
    exact ⟨_, .comparison .gte ha hw⟩
  | lt =>
    obtain ⟨u, -, hw⟩ := hprepared (by simp [comparing])
    exact ⟨_, .and₂ (.comparison .lt ha hw) (.nullCheck hsingle ha false)⟩
  | lte =>
    obtain ⟨u, -, hw⟩ := hprepared (by simp [comparing])
    exact ⟨_, .and₂ (.comparison .lte ha hw) (.nullCheck hsingle ha false)⟩
  | «in» =>
    obtain ⟨u, hu, hw⟩ := hprepared (by simp [comparing])
    obtain ⟨items, rfl⟩ : ∃ items, u = .array items := by
      cases v with
      | array vs =>
        obtain ⟨items, -, rfl⟩ := Option.map_eq_some_iff.mp hu
        exact ⟨items, rfl⟩
      | _ => simp [prepared?, arity] at hu
    exact ⟨_, eval_operator_pair .membership ha hw⟩
  | isnull => exact ⟨_, .nullCheck hsingle ha w.isTruthy⟩
  | range => exact absurd rfl hrange
  | all => exact absurd rfl hall
  | containedBy => exact absurd rfl hcontained
  | _ => exact absurd rfl hpattern

end Lookup

/-! ## Paths along fields and members -/

namespace Compiler

open Value
open Operator (truth)

variable {c : Compiler} {ctx ctx' : Context} {path column : String} {a b : Access}

/-- What is read behind a column, and not from the items of an array, was reached along its
fields and members. -/
theorem storedColumn?_of_step {name : String} {last : Bool}
    (h : c.step a name last = .ok (.access b))
    (hb : b.storedColumn? = some column) : a.storedColumn? = some column := by
  cases hmapped : a.type.isMapped with
  | false =>
    obtain ⟨o, ho⟩ := exists_step c hmapped name last
    rw [ho a rfl] at h
    rcases o with err | (move | l)
    · cases h
    · obtain rfl := Landing.access.inj (Except.ok.inj h)
      cases move <;> first | exact hb | simp [Access.go, Access.storedColumn?] at hb
    · cases h
  | true =>
    obtain ⟨element, htype⟩ : ∃ element, a.type = .mapped element := by
      cases hkind : a.type <;> simp_all [ValueType.isMapped]
    simp only [step, htype] at h
    cases a with
    | each array inner =>
      cases hinside : c.elementStep inner (.mapped element) name last with
      | error err => simp [hinside] at h
      | ok landing =>
        simp only [hinside] at h
        obtain ⟨next, -, rfl⟩ := insideEach_eq_access (Except.ok.inj h)
        simp [Access.storedColumn?] at hb
    | _ => simp at h

theorem storedColumn?_of_follow {names : List String} {joins : List Nat} {e : Ending}
    (h : c.follow path (.value a) names joins ctx = (.ok e, ctx'))
    (he : e.target.storedColumn? = some column) : a.storedColumn? = some column := by
  induction names generalizing a with
  | nil =>
    obtain ⟨rfl, -⟩ := follow_value_nil_ok h
    exact he
  | cons name rest ih =>
    rcases follow_value_cons_ok h with ⟨next, hstep, hnext⟩ | ⟨l, -, rfl, -⟩
    · exact storedColumn?_of_step hstep (ih hnext)
    · exact he

/-- What is read item by item is no column, and nothing behind one along fields. -/
theorem isMapped_of_follow {m : Model} {joined : Option String} {relation : String}
    {names : List String} {joins : List Nat} {e : Ending}
    (h : c.follow path (.document m joined relation) names joins ctx = (.ok e, ctx'))
    (he : e.target.storedColumn? = some column) : e.target.type.isMapped = false := by
  cases hmapped : e.target.type.isMapped with
  | false => rfl
  | true =>
    obtain ⟨array, inner, heach⟩ := exists_each_of_follow_document h hmapped
    rw [heach] at he
    simp [Access.storedColumn?] at he

theorem isMapped_of_followPath {e : Ending} (h : c.followPath ctx path = (.ok e, ctx'))
    (he : e.target.storedColumn? = some column) : e.target.type.isMapped = false := by
  obtain ⟨name, rest, -, -, ⟨type, -, hcomputed⟩ | ⟨-, hdocument⟩⟩ := followPath_ok h
  · have hnone := storedColumn?_of_follow hcomputed he
    simp [Access.storedColumn?] at hnone
  · exact isMapped_of_follow hdocument he

/-- A lookup with a literal, on a column or behind one along fields and members, is true or
false in every scope, so of every document.  Ranges break where they come to a bound that is an
array without exactly one item:  the first bound always, the second one if the first bound is
fulfilled or null. -/
theorem literal_lookups_evaluate {operand : Expr} {v e : Value}
    (hconstant : operand.constant? = some v)
    (h : c.compileFilter ctx (.lookup path operand) = .ok (e, ctx')) :
    ∃ r after, c.resolveLookup ctx path = (.ok r, after) ∧
      ∀ column, r.target.storedColumn? = some column → isOperatorName column = false →
        r.lookup.arity ≠ .pattern → ∀ scope, ∃ x, eval r.target.render scope = .ok x ∧
          (r.lookup.breaksOn v x = false → ∃ b, eval e scope = truth b) ∧
          (r.lookup.breaksOn v x = true → SpreadFails (eval e scope)) := by
  obtain ⟨r, after, w, hr, hw, hbuild⟩ := lookupWith_ok (compileFilter_of_constant hconstant h)
  obtain ⟨hliteral, -⟩ := literalOperand_ok hw
  refine ⟨r, after, hr, fun column hcolumn hplain hpattern scope => ?_⟩
  obtain ⟨ending, hend, hcompared⟩ := resolveLookup_ok hr
  obtain ⟨hresolved, hallowed⟩ := compared_ok hcompared
  have hflat : r.target.type.isMapped = false := by
    rw [hresolved] at hcolumn ⊢
    exact isMapped_of_followPath hend hcolumn
  obtain ⟨hall, hcontained⟩ := Lookup.ne_all_of_allowed hflat hallowed
  have hreadable := isReadable_render hcolumn hplain
  obtain ⟨x, hx⟩ := hreadable.evaluates scope
  obtain rfl : r.lookup.build r.target.render w = e := by
    simpa [Lookup.buildOn, hflat] using hbuild
  exact ⟨x, hx, Lookup.build_evaluates hpattern hall hcontained hliteral hreadable.single hx⟩

/-- A body between two arrays of two items each. -/
def betweenPairs : Value := .array [.array [.int 1, .int 2], .array [.int 3, .int 4]]

/-- The notes with such a body cannot be found, whatever the notes are. -/
theorem betweenPairs_breaks :
    ∃ m e ctx, notebook.schema.model? "Note" = some m ∧
      notebook.compileFilter (.ofModel m) (.lookup "body__range" (.literal betweenPairs)) =
        .ok (e, ctx) ∧
      ∀ scope, SpreadFails (eval e scope) := by
  obtain ⟨m, hm⟩ : ∃ m, notebook.schema.model? "Note" = some m := ⟨_, rfl⟩
  obtain ⟨e, ctx, h⟩ : ∃ e ctx, notebook.compileFilter (.ofModel m)
      (.lookup "body__range" (.literal betweenPairs)) = .ok (e, ctx) := by
    obtain rfl := Option.some.inj hm
    exact ⟨_, _, rfl⟩
  obtain ⟨r, after, hr, hevaluates⟩ := literal_lookups_evaluate rfl h
  have hends : r.lookup = .range ∧ r.target.storedColumn? = some "body" := by
    obtain rfl := Option.some.inj hm
    obtain ⟨hr, -⟩ := Prod.mk.inj hr
    obtain rfl := Except.ok.inj hr
    exact ⟨rfl, rfl⟩
  refine ⟨m, e, ctx, hm, h, fun scope => ?_⟩
  have hpattern : r.lookup.arity ≠ .pattern := by simp [hends.1, Lookup.arity]
  obtain ⟨x, -, -, hbreaks⟩ := hevaluates "body" hends.2 (by decide) hpattern scope
  exact hbreaks (by rw [hends.1]; rfl)

end Compiler

end DocQuery
