import DocQuery.Proofs.Inversion
import DocQuery.Proofs.Predicates
set_option autoImplicit false

/-!
# Proofs: literals stand for themselves

A literal may hold anything:  texts that look like paths or variables, objects that look like
operators, arrays of both.  Wherever the compiler puts one, it puts an expression that evaluates
to that value, in every document and with any variables, so no literal is ever read as a part of
the query.
-/

namespace DocQuery

namespace Value

open Operator (found)

/-- An expression stands for a value if it evaluates to it, whatever the document and the
variables are. -/
def StandsFor (e v : Value) : Prop := ∀ scope, eval e scope = found v

theorem standsFor_quote (v : Value) : (quote v).StandsFor v := eval_quote v

theorem standsFor_protect (v : Value) : v.protect.StandsFor v := eval_protect v

/-- A literal that stands by itself is protected, too. -/
theorem standsFor_protectAlone (v : Value) : v.protectAlone.StandsFor v := by
  cases v with
  | int n => exact standsFor_quote (.int n)
  | array items => exact standsFor_quote (.array items)
  | _ => exact standsFor_protect _

/-! ## Expressions that evaluate alike -/

/-- Two expressions that evaluate to the same, or fail in the same way, in every scope. -/
def SameAs (e e' : Value) : Prop := ∀ scope, eval e scope = eval e' scope

theorem SameAs.refl (e : Value) : e.SameAs e := fun _ => rfl

theorem StandsFor.sameAs_quote {e v : Value} (h : e.StandsFor v) : e.SameAs (quote v) := h

theorem evalItems_congr {es es' : List Value} (h : List.Forall₂ SameAs es es') (scope : Scope) :
    evalItems es scope = evalItems es' scope := by
  induction h with
  | nil => rfl
  | cons he _ ih => simp only [evalItems, he scope, ih]

theorem evalUntil_congr (want : Bool) {es es' : List Value} (h : List.Forall₂ SameAs es es')
    (scope : Scope) : evalUntil want es scope = evalUntil want es' scope := by
  induction h with
  | nil => rfl
  | cons he _ ih => simp only [evalUntil, he scope, ih]

theorem SameAs.operands (op : Operator) {es es' : List Value} (h : List.Forall₂ SameAs es es') :
    SameAs (.operator op.name (.array es)) (.operator op.name (.array es')) := by
  intro scope
  rw [eval_operator_array, eval_operator_array, evalItems_congr h]

theorem SameAs.and {es es' : List Value} (h : List.Forall₂ SameAs es es') :
    SameAs (.operator "$and" (.array es)) (.operator "$and" (.array es')) := by
  intro scope
  rw [eval_and, eval_and, evalUntil_congr false h]

theorem SameAs.binary (op : Operator) {a a' b b' : Value} (ha : a.SameAs a')
    (hb : b.SameAs b') : SameAs (binary op.name a b) (binary op.name a' b') :=
  .operands op (.cons ha (.cons hb .nil))

theorem SameAs.presentAnd (c : Comparison) (a : Value) {w w' : Value} (h : w.SameAs w') :
    SameAs (presentAnd c.name a w) (presentAnd c.name a w') :=
  .and (.cons (.binary (.comparison c) (.refl a) h) (.cons (.refl _) .nil))

theorem SameAs.subsetCheck {a a' v v' x x' y y' : Value} (ha : a.SameAs a') (hv : v.SameAs v')
    (hx : x.SameAs x') (hy : y.SameAs y') :
    SameAs (subsetCheck a v x y) (subsetCheck a' v' x' y') :=
  .and (.cons (.binary (.comparison .ne) ha (.refl _)) (.cons
    (.binary (.comparison .ne) hv (.refl _)) (.cons (.binary .setIsSubset hx hy) .nil)))

/-- The body of a map is evaluated once for each item, and alike for each. -/
theorem SameAs.mapOf (array : Value) {body body' : Value} (h : body.SameAs body') :
    SameAs (Access.mapOf array body) (Access.mapOf array body') := by
  have hbody : SameAs
      (.operator "$map" (.object
        [("input", array), ("as", .string Access.itemName), ("in", body)]))
      (.operator "$map" (.object
        [("input", array), ("as", .string Access.itemName), ("in", body')])) := by
    intro scope
    simp only [eval_map, h _]
  exact .operands .ifNull (.cons hbody (.cons (.refl _) .nil))

theorem SameAs.anyElementTrue {a a' : Value} (hsingle : a.items? = none)
    (hsingle' : a'.items? = none) (h : a.SameAs a') :
    SameAs (.operator "$anyElementTrue" a) (.operator "$anyElementTrue" a') := by
  intro scope
  have hname : "$anyElementTrue" = Operator.anyElementTrue.name := rfl
  rw [hname, eval_operator_single _ hsingle, eval_operator_single _ hsingle', h scope]

/-- Operands are evaluated one by one, also where an operator is put together from several. -/
theorem SameAs.combine (op : Combination) {a a' b b' : Value} (ha : a.SameAs a')
    (hb : b.SameAs b') : SameAs (op.combine a b) (op.combine a' b') := by
  have hpower : SameAs (powerOfTwo b) (powerOfTwo b') :=
    .binary (.arithmetic .power) (.refl _) hb
  cases op with
  | arithmetic op => exact .binary (.arithmetic op) ha hb
  | bits op => exact .binary (.bits op) ha hb
  | leftShift => exact .binary (.arithmetic .multiply) ha hpower
  | rightShift =>
    intro scope
    have hname : "$floor" = Operator.floor.name := rfl
    have hquotient := SameAs.binary (.arithmetic .divide) ha hpower scope
    simp only [Combination.combine]
    rw [hname, eval_operator_single _ rfl, eval_operator_single _ rfl]
    exact congrArg (Except.bind · _) hquotient

/-! ## Prepared literals -/

/-- A value as it is compared with a field of a kind; any value is if the field is no scalar. -/
def preparedFor? (kind : Option ScalarKind) (v : Value) : Option Value :=
  match kind with
  | none => some v
  | some k => v.ofKind? k

/-- Fields of any type, and JSON fields, are compared with a value as it is. -/
theorem preparedFor?_untyped {kind : Option ScalarKind} (h : kind = none ∨ kind = some .json)
    (v : Value) : v.preparedFor? kind = some v := by
  rcases h with rfl | rfl
  · rfl
  · cases v <;> rfl

theorem mapM_preparedFor?_untyped {kind : Option ScalarKind}
    (h : kind = none ∨ kind = some .json)
    (items : List Value) : items.mapM (preparedFor? kind) = some items := by
  induction items with
  | nil => rfl
  | cons v rest ih => simp [List.mapM_cons, preparedFor?_untyped h, ih]

end Value

namespace Lookup

open Value

/-- The lookups that compare values as they are ordered. -/
def comparing : List Lookup := [.exact, .gt, .gte, .lt, .lte, .in, .all, .containedBy]

/-- What a lookup on a field of a kind compares with: a value of the kind, or a list of such
values. -/
def prepared? (l : Lookup) (kind : Option ScalarKind) (v : Value) : Option Value :=
  match l.arity, v with
  | .single, v => v.preparedFor? kind
  | .list, .array items => (items.mapM (preparedFor? kind)).map .array
  | _, _ => none

theorem prepared?_untyped {l : Lookup} {kind : Option ScalarKind}
    (h : kind = none ∨ kind = some .json) {v u : Value} (hu : l.prepared? kind v = some u) :
        u = v := by
  unfold prepared? at hu
  split at hu
  · rw [preparedFor?_untyped h] at hu
    exact (Option.some.inj hu).symm
  · rw [mapM_preparedFor?_untyped h] at hu
    exact (Option.some.inj hu).symm
  · simp at hu

theorem arity_of_mem_comparing {l : Lookup} (h : l ∈ comparing) :
    l.arity = .single ∨ l.arity = .list := by
  cases l <;> first | exact .inl rfl | exact .inr rfl | simp [comparing] at h

theorem scalarLiteral_ok {l : Lookup} {kind : Option ScalarKind} {v w : Value}
    (h : l.scalarLiteral kind v = .ok w) :
        ∃ u, v.preparedFor? kind = some u ∧ w = u.protect := by
  cases kind with
  | none => exact ⟨v, rfl, (Except.ok.inj h).symm⟩
  | some k =>
    simp only [scalarLiteral] at h
    cases hu : v.ofKind? k with
    | none => simp [hu] at h
    | some u =>
      rw [hu] at h
      exact ⟨u, hu, (Except.ok.inj h).symm⟩

theorem scalarLiterals_ok {l : Lookup} {kind : Option ScalarKind} {vs ws : List Value}
    (h : l.scalarLiterals kind vs = .ok ws) :
    ∃ us, vs.mapM (preparedFor? kind) = some us ∧ ws = protectItems us := by
  induction vs generalizing ws with
  | nil => exact ⟨[], rfl, (Except.ok.inj h).symm⟩
  | cons v rest ih =>
    simp only [scalarLiterals] at h
    cases hw : l.scalarLiteral kind v with
    | error err => simp [hw] at h
    | ok w =>
      cases hothers : l.scalarLiterals kind rest with
      | error err => simp [hw, hothers] at h
      | ok others =>
        obtain ⟨u, hu, rfl⟩ := scalarLiteral_ok hw
        obtain ⟨us, hus, rfl⟩ := ih hothers
        rw [hw, hothers] at h
        exact ⟨u :: us, by simp [List.mapM_cons, hu, hus], (Except.ok.inj h).symm⟩

theorem listLiteral_ok {l : Lookup} {kind : Option ScalarKind} {items : List Value} {w : Value}
    (h : l.listLiteral kind items = .ok w) :
    ∃ us, items.mapM (preparedFor? kind) = some us ∧ w = (array us).protect := by
  simp only [listLiteral] at h
  cases hws : l.scalarLiterals kind items with
  | error err => simp [hws] at h
  | ok ws =>
    obtain ⟨us, hus, rfl⟩ := scalarLiterals_ok hws
    rw [hws] at h
    exact ⟨us, hus, (Except.ok.inj h).symm⟩

/-- A literal that a comparing lookup takes is compiled to the prepared literal, protected. -/
theorem exists_prepared_of_literal {l : Lookup} {kind : Option ScalarKind} {v w : Value}
    (hl : l ∈ comparing)
    (h : l.literal kind v = .ok w) : ∃ u, l.prepared? kind v = some u ∧ w = u.protect := by
  rcases arity_of_mem_comparing hl with harity | harity
  · simp only [literal, harity] at h
    simp only [prepared?, harity]
    exact scalarLiteral_ok h
  · cases v with
    | array items =>
      simp only [literal, harity] at h
      obtain ⟨us, hus, rfl⟩ := listLiteral_ok h
      exact ⟨.array us, by simp [prepared?, harity, hus], rfl⟩
    | _ => simp [literal, harity] at h

/-! ## Where a predicate has its literal -/

/-- A comparing lookup evaluates alike with operands that evaluate alike: it never takes its
operand apart. -/
theorem build_sameAs {l : Lookup} (hl : l ∈ comparing) (a : Value) {w w' : Value}
    (h : w.SameAs w') : (l.build a w).SameAs (l.build a w') := by
  cases l with
  | exact => exact .binary (.comparison .eq) (.refl a) h
  | gt => exact .binary (.comparison .gt) (.refl a) h
  | gte => exact .binary (.comparison .gte) (.refl a) h
  | lt => exact .presentAnd .lt a h
  | lte => exact .presentAnd .lte a h
  | «in» => exact .binary .membership (.refl a) h
  | all => exact .subsetCheck (.refl a) h h (.refl a)
  | containedBy => exact .subsetCheck (.refl a) h (.refl a) h
  | _ => simp [comparing] at hl

theorem someItem_sameAs {l : Lookup} (hl : l ∈ comparing) (array inner : Access) {w w' : Value}
    (h : w.SameAs w') : (l.someItem array inner w).SameAs (l.someItem array inner w') :=
  .anyElementTrue rfl rfl (.mapOf _ (build_sameAs hl inner.render h))

theorem buildOn_sameAs {l : Lookup} (hl : l ∈ comparing) {target : Access} {w w' e : Value}
    (h : w.SameAs w') (he : l.buildOn target w = .ok e) :
    ∃ e', l.buildOn target w' = .ok e' ∧ e.SameAs e' := by
  by_cases hmapped : target.type.isMapped = true
  · simp only [buildOn, hmapped, if_true, buildMapped] at he ⊢
    by_cases hall : l = .all ∨ l = .containedBy
    · rw [if_pos hall] at he ⊢
      obtain rfl := Except.ok.inj he
      exact ⟨_, rfl, build_sameAs hl _ h⟩
    · rw [if_neg hall] at he ⊢
      cases target with
      | each array inner =>
        obtain rfl := Except.ok.inj he
        exact ⟨_, rfl, someItem_sameAs hl array inner h⟩
      | _ => simp at he
  · rw [buildOn, if_neg hmapped] at he
    obtain rfl := Except.ok.inj he
    exact ⟨_, by rw [buildOn, if_neg hmapped], build_sameAs hl _ h⟩

end Lookup

/-! ## Where the compiler puts literals -/

namespace Compiler

open Value

variable {c : Compiler} {ctx ctx' : Context}

theorem compileExpr_literal (v : Value) :
    c.compileExpr ctx (.literal v) = .ok ((v.protectAlone, .scalar v.kind), ctx) := by
  simp only [compileExpr]

/-- A literal that is compiled as a computed value stands for itself. -/
theorem standsFor_of_compileExpr {v w : Value} {type : ValueType}
    (h : c.compileExpr ctx (.literal v) = .ok ((w, type), ctx')) : w.StandsFor v := by
  rw [compileExpr_literal] at h
  obtain ⟨⟨rfl, -⟩, -⟩ := by simpa only [Except.ok.injEq, Prod.mk.injEq] using h
  exact standsFor_protectAlone v

theorem compileExprs_literal {items : List Expr} {es : List Value}
    (h : c.compileExprs ctx items = .ok (es, ctx')) {i : Nat} {v : Value}
    (hi : items[i]? = some (.literal v)) : ∃ w, es[i]? = some w ∧ w.StandsFor v := by
  induction items generalizing ctx es i with
  | nil => simp at hi
  | cons item rest ih =>
    obtain ⟨w, type, after, others, hw, hothers, rfl⟩ := compileExprs_cons_ok h
    cases i with
    | zero =>
      obtain rfl : item = .literal v := by simpa using hi
      exact ⟨w, rfl, standsFor_of_compileExpr hw⟩
    | succ i => simpa using ih hothers (by simpa using hi)

theorem compileBranches_literal {branches : List (Filter × Expr)} {es : List Value}
    (h : c.compileBranches ctx branches = .ok (es, ctx')) {i : Nat} {f : Filter} {v : Value}
    (hi : branches[i]? = some (f, .literal v)) :
    ∃ condition w, es[i]? = some (.branch condition w) ∧ w.StandsFor v := by
  induction branches generalizing ctx es i with
  | nil => simp at hi
  | cons b rest ih =>
    obtain ⟨g, body⟩ := b
    obtain ⟨condition, after, w, type, after', others, -, hw, hothers, rfl⟩ :=
      compileBranches_cons_ok h
    cases i with
    | zero =>
      obtain ⟨-, rfl⟩ : g = f ∧ body = .literal v := by simpa using hi
      exact ⟨condition, w, rfl, standsFor_of_compileExpr hw⟩
    | succ i => simpa using ih hothers (by simpa using hi)

theorem compileItems_literal {r : Resolved} {items : List Expr} {es : List Value}
    (h : c.compileItems r ctx items = .ok (es, ctx')) {i : Nat} {v : Value}
    (hi : items[i]? = some (.literal v)) :
    ∃ u w, v.preparedFor? r.target.type.scalar? = some u ∧ es[i]? = some w ∧ w.StandsFor u := by
  induction items generalizing ctx es i with
  | nil => simp at hi
  | cons item rest ih =>
    cases i with
    | zero =>
      obtain rfl : item = .literal v := by simpa using hi
      obtain ⟨w, others, hw, -, rfl⟩ := compileItems_literal_ok h
      obtain ⟨u, hu, rfl⟩ := Lookup.scalarLiteral_ok hw
      exact ⟨u, u.protect, hu, rfl, standsFor_protect u⟩
    | succ i =>
      obtain ⟨w, after, others, hothers, rfl, -⟩ := compileItems_cons_ok h
      simpa using ih hothers (by simpa using hi)

/-- A column that is waiting for its stage gets into one, if no later column takes its name. -/
theorem compileAnnotations_pending {pending : Document} {annotations : List (String × Expr)}
    {stages : List Stage}
    (h : c.compileAnnotations pending ctx annotations = .ok (stages, ctx'))
    {name : String} {w : Value} (hname : name ∉ annotations.map (·.1))
    (hw : pending.value? name = some w) :
    ∃ columns : Document, .addFields columns ∈ stages ∧ columns.value? name = some w := by
  induction annotations generalizing pending ctx stages with
  | nil =>
    simp only [compileAnnotations, Except.ok.injEq, Prod.mk.injEq] at h
    obtain ⟨rfl, -⟩ := h
    refine ⟨pending, ?_, hw⟩
    cases pending with
    | nil => simp at hw
    | cons column rest => simp [addColumns]
  | cons annotation rest ih =>
    obtain ⟨other, body⟩ := annotation
    have hother : other ≠ name := fun heq => hname (by simp [heq])
    have hrest : name ∉ rest.map (·.1) := fun hmem => hname (List.mem_cons_of_mem _ hmem)
    obtain ⟨v, type, after, -, ⟨others, -, rfl⟩ | ⟨-, hlater⟩⟩ := compileAnnotations_cons_ok h
    · exact ⟨pending, List.mem_cons_self, hw⟩
    · exact ih hlater hrest (by rw [Document.value?_insert_ne pending v hother, hw])

/-- The stages that compute columns hold, under the name of a literal, what stands for it. -/
theorem compileAnnotations_literal {pending : Document} {before behind : List (String × Expr)}
    {name : String} {v : Value} {stages : List Stage}
    (h : c.compileAnnotations pending ctx (before ++ (name, .literal v) :: behind) =
      .ok (stages, ctx'))
    (hname : name ∉ behind.map (·.1)) :
    ∃ columns : Document, ∃ w, .addFields columns ∈ stages ∧ columns.value? name = some w ∧
      w.StandsFor v := by
  induction before generalizing pending ctx stages with
  | nil =>
    obtain ⟨w, type, after, hw, ⟨others, hothers, rfl⟩ | ⟨-, hlater⟩⟩ :=
      compileAnnotations_cons_ok h
    · have hsingle : Document.value? [(name, w)] name = some w := by simp [Document.value?]
      obtain ⟨columns, hmem, hcolumn⟩ := compileAnnotations_pending hothers hname hsingle
      exact ⟨columns, w, List.mem_cons_of_mem _ hmem, hcolumn, standsFor_of_compileExpr hw⟩
    · obtain ⟨columns, hmem, hcolumn⟩ :=
        compileAnnotations_pending hlater hname (Document.value?_insert_self pending name w)
      exact ⟨columns, w, hmem, hcolumn, standsFor_of_compileExpr hw⟩
  | cons annotation before ih =>
    obtain ⟨other, body⟩ := annotation
    obtain ⟨u, type, after, -, ⟨others, hothers, rfl⟩ | ⟨-, hlater⟩⟩ :=
      compileAnnotations_cons_ok h
    · obtain ⟨columns, w, hmem, hw⟩ := ih hothers
      exact ⟨columns, w, List.mem_cons_of_mem _ hmem, hw⟩
    · exact ih hlater

/-- A comparing lookup with a literal has, where its operand is, what stands for the prepared
literal, and evaluates like the same lookup with that literal in quotes. -/
theorem compileFilter_literal_sameAs {path : String} {v e : Value}
    (h : c.compileFilter ctx (.lookup path (.literal v)) = .ok (e, ctx')) :
    ∃ r after w, c.resolveLookup ctx path = (.ok r, after) ∧
      r.lookup.buildOn r.target w = .ok e ∧ (r.lookup ∈ Lookup.comparing →
        ∃ u e', r.lookup.prepared? r.target.type.scalar? v = some u ∧ w.StandsFor u ∧
          (r.target.type.scalar? = none ∨ r.target.type.scalar? = some .json → u = v) ∧
          r.lookup.buildOn r.target (quote u) = .ok e' ∧ e.SameAs e') := by
  obtain ⟨r, after, w, hr, hbuild, hliteral, -⟩ := compileFilter_literal_ok h
  refine ⟨r, after, w, hr, hbuild, fun hl => ?_⟩
  obtain ⟨u, hu, rfl⟩ := Lookup.exists_prepared_of_literal hl hliteral
  obtain ⟨e', he', hsame⟩ :=
    Lookup.buildOn_sameAs hl (standsFor_protect u).sameAs_quote hbuild
  exact ⟨u, e', hu, standsFor_protect u, fun hkind => Lookup.prepared?_untyped hkind
    hu, he', hsame⟩

/-- Literals are data wherever the compiler puts them:  as computed columns, in branches and as
the default of case distinctions, as operands, as items of lists, as operands of lookups and as
items of lists that lookups take.  What is compared with a field is first brought to the kind of
the field, which leaves a value as it is if the field is a JSON field or no scalar. -/
theorem literals_stand_for_themselves (c : Compiler) (ctx : Context) :
    (∀ v, ∃ w, c.compileExpr ctx (.literal v) = .ok ((w, .scalar v.kind), ctx) ∧
      w.StandsFor v) ∧
    (∀ before name v behind stages after,
      c.compileAnnotations [] ctx (before ++ (name, .literal v) :: behind) =
        .ok (stages, after) →
      name ∉ behind.map (·.1) →
      ∃ columns : Document, ∃ w, .addFields columns ∈ stages ∧ columns.value? name = some w ∧
        w.StandsFor v) ∧
    (∀ (branches : List (Filter × Expr)) otherwise e type after,
      c.compileExpr ctx (.case branches otherwise) = .ok ((e, type), after) →
      ∃ bs d, e = caseDistinction bs d ∧ (∀ v, otherwise = .literal v → d.StandsFor v) ∧
        ∀ (i : Nat) f v, branches[i]? = some (f, .literal v) →
          ∃ condition w, bs[i]? = some (branch condition w) ∧ w.StandsFor v) ∧
    (∀ op left right e type after,
      c.compileExpr ctx (.combined op left right) = .ok ((e, type), after) →
      ∃ a b, e = op.combine a b ∧
        (∀ v, left = .literal v → a.StandsFor v ∧ e.SameAs (op.combine (quote v) b)) ∧
        ∀ v, right = .literal v → b.StandsFor v ∧ e.SameAs (op.combine a (quote v))) ∧
    (∀ (items : List Expr) e type after,
      c.compileExpr ctx (.list items) = .ok ((e, type), after) →
      ∃ es, e = .array es ∧
        ∀ (i : Nat) v, items[i]? = some (.literal v) → ∃ w, es[i]? = some w ∧ w.StandsFor v) ∧
    (∀ path v e after,
      c.compileFilter ctx (.lookup path (.literal v)) = .ok (e, after) →
      ∃ r resolved w, c.resolveLookup ctx path = (.ok r, resolved) ∧
        r.lookup.buildOn r.target w = .ok e ∧
        (r.lookup ∈ Lookup.comparing →
          ∃ u e', r.lookup.prepared? r.target.type.scalar? v = some u ∧ w.StandsFor u ∧
            (r.target.type.scalar? = none ∨ r.target.type.scalar? = some .json → u = v) ∧
            r.lookup.buildOn r.target (quote u) = .ok e' ∧ e.SameAs e')) ∧
    ∀ path (items : List Expr) e after,
      c.compileFilter ctx (.lookup path (.list items)) = .ok (e, after) →
      ∃ r resolved ws, c.resolveLookup ctx path = (.ok r, resolved) ∧
        r.lookup.buildOn r.target (.array ws) = .ok e ∧
        ∀ (i : Nat) v, items[i]? = some (.literal v) →
          ∃ u w, v.preparedFor? r.target.type.scalar? = some u ∧ ws[i]? = some w ∧
            w.StandsFor u ∧ (r.target.type.scalar? = none ∨ r.target.type.scalar? =
            some .json → u = v) := by
  refine ⟨fun v => ⟨_, compileExpr_literal v, standsFor_protectAlone v⟩, ?column,
    ?cases, ?operands, ?items, fun path v e after h => compileFilter_literal_sameAs h, ?listed⟩
  case column =>
    intro before name v behind stages after h hname
    exact compileAnnotations_literal h hname
  case cases =>
    intro branches otherwise e type after h
    obtain ⟨bs, inside, d, hbs, hd, rfl⟩ := compileExpr_case_ok h
    refine ⟨bs, d, rfl, ?_, fun i f v hi => compileBranches_literal hbs hi⟩
    rintro v rfl
    exact standsFor_of_compileExpr hd
  case operands =>
    intro op left right e type after h
    obtain ⟨a, s, inside, b, t, ha, hb, rfl⟩ := compileExpr_combined_ok h
    refine ⟨a, b, rfl, ?_, ?_⟩
    · rintro v rfl
      have hv := standsFor_of_compileExpr ha
      exact ⟨hv, .combine op hv.sameAs_quote (.refl b)⟩
    · rintro v rfl
      have hv := standsFor_of_compileExpr hb
      exact ⟨hv, .combine op (.refl a) hv.sameAs_quote⟩
  case items =>
    intro items e type after h
    obtain ⟨es, hes, rfl⟩ := compileExpr_list_ok h
    exact ⟨es, rfl, fun i v hi => compileExprs_literal hes hi⟩
  case listed =>
    intro path items e after h
    obtain ⟨r, resolved, ws, hr, hbuild, -, hws⟩ := compileFilter_list_ok h
    refine ⟨r, resolved, ws, hr, hbuild, fun i v hi => ?_⟩
    obtain ⟨u, w, hu, hw, hv⟩ := compileItems_literal hws hi
    refine ⟨u, w, hu, hw, hv, fun hkind => ?_⟩
    rw [preparedFor?_untyped hkind] at hu
    exact (Option.some.inj hu).symm

/-- Notes with a body of any shape. -/
def notebook : Compiler where
  schema := ⟨[⟨"Note", some "notes", false, [Model.primaryKey, ⟨"body", .scalar .json,
    true, none⟩]⟩]⟩
  config := .usual

/-- A value that is full of what expressions are written with. -/
def dollars : Value :=
  .array [.string "$_id", .string "$$ROOT", .object [("$size", .array [.string "$body"])]]

/-- A body is compared with such a value itself. -/
theorem dollars_are_data :
    ∃ m ctx e r resolved w, notebook.schema.model? "Note" = some m ∧
      notebook.compileFilter (.ofModel m) (.lookup "body__lte" (.literal dollars)) =
        .ok (e, ctx) ∧
      notebook.resolveLookup (.ofModel m) "body__lte" = (.ok r, resolved) ∧
      r.lookup.buildOn r.target w = .ok e ∧ w.StandsFor dollars := by
  obtain ⟨m, hm⟩ : ∃ m, notebook.schema.model? "Note" = some m := ⟨_, rfl⟩
  obtain ⟨e, ctx, h⟩ : ∃ e ctx, notebook.compileFilter (.ofModel m)
      (.lookup "body__lte" (.literal dollars)) = .ok (e, ctx) := by
    obtain rfl := Option.some.inj hm
    exact ⟨_, _, rfl⟩
  obtain ⟨-, -, -, -, -, hlookup, -⟩ := literals_stand_for_themselves notebook (.ofModel m)
  obtain ⟨r, resolved, w, hr, hbuild, hdata⟩ := hlookup _ _ _ _ h
  have hends : r.lookup = .lte ∧ r.target.type.scalar? = some .json := by
    obtain rfl := Option.some.inj hm
    obtain ⟨hr, -⟩ := Prod.mk.inj hr
    obtain rfl := Except.ok.inj hr
    exact ⟨rfl, rfl⟩
  have hcomparing : r.lookup ∈ Lookup.comparing := by simp [hends.1, Lookup.comparing]
  obtain ⟨u, e', -, hw, huntyped, -⟩ := hdata hcomparing
  obtain rfl := huntyped (.inr hends.2)
  exact ⟨m, ctx, e, r, resolved, w, hm, h, hr, hbuild, hw⟩

end Compiler

end DocQuery
