import DocQuery.Compile.Basic
import DocQuery.Proofs.Evaluation
import DocQuery.Proofs.Meaning
set_option autoImplicit false

/-!
# Proofs: the predicates of lookups

A lookup is built from an expression for what is compared and from a prepared literal.  The
condition that comes out decides what the lookup means of the value that the expression
evaluates to.
-/

namespace DocQuery

namespace Value

open Operator (found truth)

/-! ## Null and missing -/

@[simp] theorem present_none : present none = none := rfl

@[simp] theorem present_null : present (some .null) = none := rfl

theorem present_some {v : Value} (h : v.isNull = false) : present (some v) = some v := by
  cases v <;> first | rfl | simp [isNull] at h

/-- What is not there is missing or null. -/
theorem eq_none_or_null_of_present {v : Option Value} (h : present v = none) :
    v = none ∨ v = some .null := by
  rcases v with _ | v
  · exact .inl rfl
  · cases v <;> simp_all [present]

theorem isNull_of_present {v : Option Value} {w : Value} (h : present v = some w) :
    w.isNull = false := by
  rcases v with _ | v
  · simp at h
  · cases v <;> simp_all [present] <;> subst h <;> rfl

theorem eq_some_of_present {v : Option Value} {w : Value} (h : present v = some w) :
    v = some w := by
  rcases v with _ | v
  · simp at h
  · cases v <;> simp_all [present]

@[simp] theorem columnOf_present (v : Option Value) (column : String) :
    columnOf (present v) column = columnOf v column := by
  rcases v with _ | v
  · rfl
  · cases v <;> rfl

/-- Null comes before every value that is there. -/
theorem compare_null_left {w : Value} (h : w.isNull = false) : Value.null.compare w = .lt := by
  cases w <;> first | rfl | simp [isNull] at h

/-- What is missing and what is null have the same place before every value that is there. -/
theorem compare?_some (x : Option Value) {w : Value} (h : w.isNull = false) :
    compare? x (some w) = match present x with | none => .lt | some v => v.compare w := by
  rcases x with _ | x
  · rfl
  · cases x with
    | null => exact compare_null_left h
    | _ => rfl

theorem compare_string (s t : String) :
    ((Value.string s).compare (.string t) == .eq) = decide (s = t) := by
  by_cases h : s = t
  · subst h
    simp [compare, Std.ReflCmp.compare_self]
  · have hne : Ord.compare s t ≠ .eq := fun heq => h (Std.LawfulEqCmp.eq_of_compare heq)
    simp [compare, h, hne]

theorem typeName_ne_missing (v : Value) : v.typeName ≠ "missing" := by
  cases v <;> simp [typeName]

/-- The test for null asks whether a value is there. -/
theorem Decides.nullCheck {a : Value} {scope : Scope} {x : Option Value}
    (hsingle : a.items? = none) (ha : eval a scope = .ok x) (flag : Bool) :
    Decides scope (nullCheck a flag) ((present x).isNone == flag) := by
  have htype : eval (.operator "$type" a) scope = .ok (some (.string (typeName? x))) :=
    eval_operator_one .type hsingle ha
  have hmissing : eval (.string "missing") scope = .ok (some (.string "missing")) :=
    read_of_not_operatorName rfl scope
  have hnull : eval .null scope = .ok (some .null) := by simp only [eval, found]
  have hcheck := Decides.or₂ (Decides.comparison .eq htype hmissing)
    (Decides.comparison .eq ha hnull)
  have hvalue : (Comparison.eq.holds (compare? (some (.string (typeName? x)))
    (some (.string "missing")))
      || Comparison.eq.holds (compare? x (some .null))) = (present x).isNone := by
    rcases x with _ | v
    · decide
    · have hname := typeName_ne_missing v
      simp only [compare?, Comparison.holds, compare_string, typeName?, hname]
      cases v <;> rfl
  rw [hvalue] at hcheck
  cases flag with
  | true =>
    rw [show ((present x).isNone == true) = (present x).isNone by simp]
    exact hcheck
  | false =>
    rw [show ((present x).isNone == false) = !(present x).isNone by simp]
    exact Decides.not rfl hcheck

/-- A comparison that nothing below a value passes holds only of values that are there. -/
theorem Decides.unguarded (c : Comparison) (hc : c.holds .lt = false) {a b : Value}
    {scope : Scope} {x : Option Value} {w : Value} (ha : eval a scope = .ok x)
    (hb : eval b scope = .ok (some w)) (hw : w.isNull = false) :
    Decides scope (binary c.name a b) ((present x).any fun v => c.holds (v.compare w)) := by
  have h := Decides.comparison c ha hb
  rw [compare?_some x hw] at h
  cases hx : present x with
  | none =>
    rw [hx] at h
    rwa [Option.any_none, ← hc]
  | some v =>
    rw [hx] at h
    exact h

/-- A comparison guarded against null holds only of values that are there. -/
theorem Decides.presentAnd (c : Comparison) {a b : Value} {scope : Scope} {x : Option Value}
    {w : Value} (hsingle : a.items? = none) (ha : eval a scope = .ok x)
    (hb : eval b scope = .ok (some w)) (hw : w.isNull = false) :
    Decides scope (presentAnd c.name a b) ((present x).any fun v => c.holds (v.compare w)) := by
  have h := Decides.and₂ (Decides.comparison c ha hb) (Decides.nullCheck hsingle ha false)
  rw [compare?_some x hw] at h
  cases hx : present x with
  | none =>
    rw [hx] at h
    rw [show ((none : Option Value).any fun v => c.holds (v.compare w))
      = (c.holds .lt && ((none : Option Value).isNone == false)) by simp]
    exact h
  | some v =>
    rw [hx] at h
    rw [show ((some v).any fun v => c.holds (v.compare w))
      = (c.holds (v.compare w) && ((some v).isNone == false)) by simp]
    exact h

/-! ## Ranges -/

/-- One side of a range: a bound that is null does not count. -/
theorem Decides.bound (c : Comparison) {a b : Value} {scope : Scope}
    {x : Option Value} {w : Value}
    (ha : eval a scope = .ok x) (hsingle : b.items? = none) (hb : eval b scope = .ok (some w)) :
    Decides scope (.operator "$or" (.array [Value.nullCheck b true, binary c.name a b]))
      (w.isNull || c.holds (compare? x (some w))) := by
  have h := Decides.or₂ (Decides.nullCheck hsingle hb true) (Decides.comparison c ha hb)
  cases w <;> exact h

theorem Decides.rangeCheck {a low high : Value} {scope : Scope} {x : Option Value} {v w : Value}
    (ha : eval a scope = .ok x) (hslow : low.items? = none)
    (hlow : eval low scope = .ok (some v))
    (hshigh : high.items? = none) (hhigh : eval high scope = .ok (some w)) :
    Decides scope (rangeCheck a (.array [low, high]))
      ((v.isNull || (present x).any fun u => u.compare v != .lt)
        && (w.isNull || (present x).all fun u => u.compare w != .gt)) := by
  have h := Decides.and₂ (Decides.bound .gte ha hslow hlow) (Decides.bound .lte ha hshigh hhigh)
  have hv : (v.isNull || Comparison.gte.holds (compare? x (some v)))
      = (v.isNull || (present x).any fun u => u.compare v != .lt) := by
    cases hnull : v.isNull with
    | true => rfl
    | false =>
      rw [compare?_some x hnull]
      cases present x <;> rfl
  have hw : (w.isNull || Comparison.lte.holds (compare? x (some w)))
      = (w.isNull || (present x).all fun u => u.compare w != .gt) := by
    cases hnull : w.isNull with
    | true => rfl
    | false =>
      rw [compare?_some x hnull]
      cases present x <;> rfl
  rw [hv, hw] at h
  exact h

/-! ## Lists -/

/-- What is missing or null is equal to no item that is there. -/
theorem any_compare?_eq (x : Option Value) {items : List Value}
    (hitems : ∀ item ∈ items, item.isNull = false) :
    (items.any fun item => compare? x (some item) == .eq) =
      (present x).any fun v => items.any fun item => v.compare item == .eq := by
  cases hx : present x with
  | none =>
    simp only [Option.any_none, List.any_eq_false]
    intro item hitem
    rw [compare?_some x (hitems item hitem), hx]
    simp
  | some v =>
    rw [Option.any_some, eq_some_of_present hx]
    rfl

/-- Membership asks for an equal item. -/
theorem Decides.membership {a b : Value} {scope : Scope} {x : Option Value} {items : List Value}
    (ha : eval a scope = .ok x) (hb : eval b scope = .ok (some (.array items)))
    (hitems : ∀ item ∈ items, item.isNull = false) :
    Decides scope (binary "$in" a b)
      ((present x).any fun v => items.any fun item => v.compare item == .eq) := by
  rw [← any_compare?_eq x hitems]
  exact eval_operator_pair .membership ha hb

/-- The guarded subset test on two arrays. -/
theorem Decides.subsetCheck {mapped values subset superset : Value} {scope : Scope}
    {ms vs xs ys : List Value} (hmapped : eval mapped scope = .ok (some (.array ms)))
    (hvalues : eval values scope = .ok (some (.array vs)))
    (hsubset : eval subset scope = .ok (some (.array xs)))
    (hsuperset : eval superset scope = .ok (some (.array ys))) :
    Decides scope (subsetCheck mapped values subset superset)
      (xs.all fun x => ys.any fun y => x.compare y == .eq) := by
  have hnull : eval .null scope = .ok (some .null) := by simp only [eval, found]
  have h₁ : Decides scope (binary "$ne" mapped .null) true :=
    Decides.comparison .ne hmapped hnull
  have h₂ : Decides scope (binary "$ne" values .null) true :=
    Decides.comparison .ne hvalues hnull
  have h₃ : Decides scope (.operator "$setIsSubset" (.array [subset, superset]))
      (xs.all fun x => ys.any fun y => x.compare y == .eq) :=
    eval_operator_pair .setIsSubset hsubset hsuperset
  simpa [Value.subsetCheck] using Decides.and (.cons h₁ (.cons h₂ (.cons h₃ .nil)))

/-! ## Prepared literals -/

theorem ofKind?_of_isOfKind {kind : ScalarKind} {v : Value} (hexact : kind.isExact = true)
    (h : v.isNull = true ∨ v.isOfKind kind = true) : v.ofKind? kind = some v := by
  cases kind <;> cases v <;> simp_all [ScalarKind.isExact, isOfKind, isNull, ofKind?]

theorem isNull_of_isOfKind {kind : ScalarKind} {v : Value} (h : v.isOfKind kind = true) :
    v.isNull = false := by
  cases kind <;> cases v <;> simp_all [isOfKind, isNull]

theorem items?_of_isOfKind {kind : ScalarKind} {v : Value} (hexact : kind.isExact = true)
    (h : v.isNull = true ∨ v.isOfKind kind = true) : v.items? = none := by
  cases kind <;> cases v <;> simp_all [ScalarKind.isExact, isOfKind, isNull, items?]

end Value

namespace Lookup

open Value

theorem scalarLiteral_of_isOfKind (l : Lookup) {kind : ScalarKind} {v : Value}
    (hexact : kind.isExact = true) (h : v.isNull = true ∨ v.isOfKind kind = true) :
    l.scalarLiteral (some kind) v = .ok v.protect := by
  simp only [scalarLiteral, ofKind?_of_isOfKind hexact h]

theorem listLiteral_of_isOfKind (l : Lookup) {kind : ScalarKind} {items : List Value}
    (hexact : kind.isExact = true)
    (h : ∀ v ∈ items, v.isNull = true ∨ v.isOfKind kind = true) :
    l.listLiteral (some kind) items = .ok (Value.array items).protect := by
  have hitems : l.scalarLiterals (some kind) items = .ok (protectItems items) := by
    induction items with
    | nil => rfl
    | cons v rest ih =>
      simp only [scalarLiterals, l.scalarLiteral_of_isOfKind hexact (h v List.mem_cons_self),
        ih fun w hw => h w (List.mem_cons_of_mem v hw), protectItems]
  simp only [listLiteral, hitems, protect]

/-- What a literal of its kind is prepared to evaluates to that literal. -/
theorem eval_of_scalarLiteral {l : Lookup} {kind : ScalarKind} {v w : Value}
    (hexact : kind.isExact = true) (hkind : v.isOfKind kind = true)
    (hw : l.scalarLiteral (some kind) v = .ok w) (scope : Scope) :
    eval w scope = .ok (some v) ∧ v.isNull = false := by
  rw [l.scalarLiteral_of_isOfKind hexact (.inr hkind)] at hw
  rw [← Except.ok.inj hw]
  exact ⟨eval_protect v scope, isNull_of_isOfKind hkind⟩

theorem eq_protect_of_listLiteral {l : Lookup} {kind : ScalarKind} {items : List Value}
    {w : Value} (hexact : kind.isExact = true)
    (h : ∀ v ∈ items, v.isNull = true ∨ v.isOfKind kind = true)
    (hw : l.listLiteral (some kind) items = .ok w) : w = (Value.array items).protect :=
  Except.ok.inj (hw.symm.trans (l.listLiteral_of_isOfKind hexact h))

/-- The literals of a list that fits. -/
theorem exists_items_of_any {kind : ScalarKind} {v : Value}
    (h : (v.items?.any fun items => items.all (isOfKind kind)) = true) :
    ∃ items, v = .array items ∧ ∀ w ∈ items, w.isOfKind kind = true := by
  cases v with
  | array items => exact ⟨items, rfl, by simpa [items?] using h⟩
  | _ => simp [items?] at h

/-- The bounds of a range that fit. -/
theorem exists_bounds_of_fits {kind : ScalarKind} {v : Value}
    (h : Lookup.range.fits kind v = true) :
    ∃ low high, v = .array [low, high] ∧ (low.isNull = true ∨ low.isOfKind kind = true) ∧
      (high.isNull = true ∨ high.isOfKind kind = true) := by
  simp only [fits] at h
  split at h
  · rename_i low high
    simp only [Bool.and_eq_true, Bool.or_eq_true] at h
    exact ⟨low, high, rfl, h.1, h.2⟩
  · simp at h

/-- The predicate of a lookup decides what the lookup means of the compared value.  The lookups
on whole arrays are not among these. -/
theorem decides_build {l : Lookup} {kind : ScalarKind} {v w a : Value} {scope : Scope}
    {x : Option Value} (hexact : kind.isExact = true) (hfits : l.fits kind v = true)
    (hall : l ≠ .all) (hcontained : l ≠ .containedBy)
    (hliteral : l.literal (some kind) v = .ok w) (hsingle : a.items? = none)
    (ha : eval a scope = .ok x) : Decides scope (l.build a w) (l.holdsOf v (present x)) := by
  cases l with
  | exact =>
    obtain ⟨hw, hnull⟩ := eval_of_scalarLiteral hexact hfits hliteral scope
    exact Decides.unguarded .eq rfl ha hw hnull
  | gt =>
    obtain ⟨hw, hnull⟩ := eval_of_scalarLiteral hexact hfits hliteral scope
    exact Decides.unguarded .gt rfl ha hw hnull
  | gte =>
    obtain ⟨hw, hnull⟩ := eval_of_scalarLiteral hexact hfits hliteral scope
    exact Decides.unguarded .gte rfl ha hw hnull
  | lt =>
    obtain ⟨hw, hnull⟩ := eval_of_scalarLiteral hexact hfits hliteral scope
    exact Decides.presentAnd .lt hsingle ha hw hnull
  | lte =>
    obtain ⟨hw, hnull⟩ := eval_of_scalarLiteral hexact hfits hliteral scope
    exact Decides.presentAnd .lte hsingle ha hw hnull
  | «in» =>
    obtain ⟨items, rfl, hitems⟩ := exists_items_of_any hfits
    obtain rfl := eq_protect_of_listLiteral hexact (fun v hv => .inr (hitems v hv)) hliteral
    exact Decides.membership ha (eval_protect _ scope) fun item hitem =>
      isNull_of_isOfKind (hitems item hitem)
  | range =>
    obtain ⟨low, high, rfl, hlow, hhigh⟩ := exists_bounds_of_fits hfits
    obtain rfl := eq_protect_of_listLiteral hexact (by simpa using ⟨hlow, hhigh⟩) hliteral
    exact Decides.rangeCheck ha (items?_protect (items?_of_isOfKind hexact hlow))
      (eval_protect low scope) (items?_protect (items?_of_isOfKind hexact hhigh))
      (eval_protect high scope)
  | isnull =>
    cases v with
    | bool b =>
      obtain rfl := Except.ok.inj hliteral
      exact Decides.nullCheck hsingle ha b
    | _ => simp [fits, isBool] at hfits
  | all => exact absurd rfl hall
  | containedBy => exact absurd rfl hcontained
  | _ => simp [fits] at hfits

end Lookup

/-! ## Lists of literals -/

namespace Compiler

/-- Literals in a list are prepared one by one, and nothing is added to the context. -/
theorem compileItems_of_literals {c : Compiler} {r : Resolved} {ctx : Context}
    {items : List Expr} {vs : List Value} (h : Expr.literals? items = some vs) :
    c.compileItems r ctx items =
      (r.lookup.scalarLiterals r.target.type.scalar? vs).map (·, ctx) := by
  induction items generalizing vs with
  | nil =>
    obtain rfl := Option.some.inj h
    rw [compileItems]
    rfl
  | cons item rest ih =>
    cases item with
    | literal v =>
      obtain ⟨others, hothers, rfl⟩ := Option.map_eq_some_iff.mp h
      simp only [compileItems, Lookup.scalarLiterals, ih hothers]
      cases r.lookup.scalarLiteral r.target.type.scalar? v with
      | error err => rfl
      | ok w => cases r.lookup.scalarLiterals r.target.type.scalar? others <;> rfl
    | _ => simp [Expr.literals?] at h

theorem length_of_literals {items : List Expr} {vs : List Value}
    (h : Expr.literals? items = some vs) : vs.length = items.length := by
  induction items generalizing vs with
  | nil =>
    obtain rfl := Option.some.inj h
    rfl
  | cons item rest ih =>
    cases item with
    | literal v =>
      obtain ⟨others, hothers, rfl⟩ := Option.map_eq_some_iff.mp h
      simp [ih hothers]
    | _ => simp [Expr.literals?] at h

/-- A lookup that takes a list of some length takes the list as a literal. -/
theorem literal_of_listFault? {l : Lookup} {kind : Option ScalarKind} {vs : List Value}
    (h : listFault? l vs.length = none) :
        l.literal kind (.array vs) = l.listLiteral kind vs := by
  cases harity : l.arity with
  | list => simp only [Lookup.literal, harity]
  | pair =>
    have htwo : vs.length = 2 := by
      simp only [listFault?, harity] at h
      split at h
      · assumption
      · simp at h
    obtain ⟨low, high, rfl⟩ := List.length_eq_two.mp htwo
    simp only [Lookup.literal, harity]
  | _ => simp [listFault?, harity] at h

/-- How a constant is prepared depends on the lookup and on the kind of the field alone: a list
of literals is prepared like the list as a literal, if the lookup takes it. -/
theorem exists_prepare {operand : Expr} {v : Value} (h : operand.constant? = some v) :
    ∃ prepare : Lookup → Option ScalarKind → Except CompileError Value,
      (∀ l kind w, prepare l kind = .ok w → l.literal kind v = .ok w) ∧
      ∀ (c : Compiler) (ctx : Context) (path : String),
        c.compileFilter ctx (.lookup path operand) =
        c.lookupWith ctx path fun r ctx => (prepare r.lookup r.target.type.scalar?).map
            (·, ctx) := by
  cases operand with
  | literal w =>
    obtain rfl := Option.some.inj h
    refine ⟨fun l kind => l.literal kind w, fun l kind w => id, fun c ctx path => ?_⟩
    rw [compileFilter]
    refine congrArg (c.lookupWith ctx path) (funext fun r => funext fun ctx => ?_)
    simp only [literalOperand]
    cases r.lookup.literal r.target.type.scalar? w <;> rfl
  | list items =>
    obtain ⟨vs, hvs, rfl⟩ := Option.map_eq_some_iff.mp h
    refine ⟨fun l kind => (listFault? l items.length).elim (l.listLiteral kind vs) .error,
      fun l kind w hw => ?_, fun c ctx path => ?_⟩
    · dsimp only at hw
      cases hfault : listFault? l items.length with
      | some err => simp [hfault] at hw
      | none =>
        rw [hfault] at hw
        rw [← length_of_literals hvs] at hfault
        rwa [literal_of_listFault? hfault]
    · rw [compileFilter]
      refine congrArg (c.lookupWith ctx path) (funext fun r => funext fun ctx => ?_)
      dsimp only
      cases listFault? r.lookup items.length with
      | some err => rfl
      | none =>
        simp only [compileItems_of_literals hvs, Lookup.listLiteral]
        cases r.lookup.scalarLiterals r.target.type.scalar? vs <;> rfl
  | _ => simp [Expr.constant?] at h

/-- A lookup with the same operand, wherever it is compiled, is compiled in the same way. -/
theorem lookupWith_of_operand {c : Compiler} {ctx : Context} {path : String}
    {operand operand' : Resolved → Context → Except CompileError (Value × Context)}
    {compiled : Value × Context}
    (hoperand : ∀ r ctx w, operand r ctx = .ok w → operand' r ctx = .ok w)
    (h : c.lookupWith ctx path operand = .ok compiled) :
    c.lookupWith ctx path operand' = .ok compiled := by
  simp only [lookupWith] at h ⊢
  cases hres : c.resolveLookup ctx path with
  | mk result after =>
    rw [hres] at h
    cases result with
    | error err => simp at h
    | ok r =>
      simp only at h ⊢
      cases hw : operand r (noteLookup r after) with
      | error err => simp [hw] at h
      | ok w =>
        rw [hw] at h
        rw [hoperand _ _ _ hw]
        exact h

/-- A list of literals is compiled like the list as a literal. -/
theorem compileFilter_of_constant {c : Compiler} {ctx : Context} {path : String}
    {operand : Expr}
    {v : Value} {compiled : Value × Context} (hconstant : operand.constant? = some v)
    (h : c.compileFilter ctx (.lookup path operand) = .ok compiled) :
    c.lookupWith ctx path (fun r ctx => literalOperand r v ctx) = .ok compiled := by
  obtain ⟨prepare, hliteral, hcompile⟩ := exists_prepare hconstant
  rw [hcompile] at h
  refine lookupWith_of_operand (fun r ctx w hw => ?_) h
  cases hprepared : prepare r.lookup r.target.type.scalar? with
  | error err => simp [hprepared, Except.map] at hw
  | ok u =>
    rw [hprepared] at hw
    simp only [literalOperand, hliteral _ _ _ hprepared]
    exact hw

end Compiler

end DocQuery
