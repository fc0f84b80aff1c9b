import DocQuery.Proofs.MirroredPaths
set_option autoImplicit false

/-!
# Proofs: queries in contexts that mirror each other

By induction on filters and computed values:  what is compiled in one context is compiled in a
context that mirrors it, too, and to expressions that read the same of the rows.  A query inside
another one is compiled by itself, so only the values that it is given are mirrored.
-/

namespace DocQuery

/-! ## Literals -/

namespace Lookup

open Value.Mirrors (protect bool array)

variable {R : String → String → Prop} {l : Lookup} {kind : Option ScalarKind} {v w : Value}

theorem mirrors_scalarLiteral (h : l.scalarLiteral kind v = .ok w) : Value.Mirrors R w w := by
  unfold scalarLiteral at h
  split at h
  · exact Except.ok.inj h ▸ protect v
  · split at h
    · exact Except.ok.inj h ▸ protect _
    · simp at h

theorem mirrors_scalarLiterals {vs ws : List Value} (h : l.scalarLiterals kind vs = .ok ws) :
    List.Forall₂ (Value.Mirrors R) ws ws := by
  induction vs generalizing ws with
  | nil =>
    rw [← Except.ok.inj h]
    exact .nil
  | cons v rest ih =>
    simp only [scalarLiterals] at h
    split at h
    · simp at h
    · rename_i w hw
      split at h
      · simp at h
      · rename_i others hothers
        rw [← Except.ok.inj h]
        exact .cons (mirrors_scalarLiteral hw) (ih hothers)

theorem mirrors_listLiteral {vs : List Value} (h : l.listLiteral kind vs = .ok w) :
    Value.Mirrors R w w := by
  unfold listLiteral at h
  split at h
  · rename_i ws hws
    exact Except.ok.inj h ▸ array (mirrors_scalarLiterals hws)
  · simp at h

/-- A literal reads nothing of the row. -/
theorem mirrors_literal (h : l.literal kind v = .ok w) : Value.Mirrors R w w := by
  unfold literal at h
  split at h
  · exact mirrors_scalarLiteral h
  · exact Except.ok.inj h ▸ bool _
  · simp at h
  · exact mirrors_listLiteral h
  · simp at h
  · exact mirrors_listLiteral h
  · simp at h
  · exact Except.ok.inj h ▸ protect _
  · simp at h

end Lookup

namespace Compiler

open Context (Grow Pairs)

variable {c : Compiler} {ctx ctx' other : Context} {path : String}

/-! ## Subqueries -/

/-- What a query inside another one is compiled to is put into any context. -/
theorem compileSubquery_of_nested {q : Query} {n : Nested} (hn : c.nested q = .ok n)
    (ctx : Context) (wrap : Bool) : c.compileSubquery ctx wrap q =
      c.placeSubquery ctx n.model n.outer (n.placed q wrap) n.column.1 := by
  obtain ⟨p, inner, hm, hplan, hcolumn, hstages, houter⟩ := nested_ok hn
  simp only [compileSubquery_eq, subqueryWith, hm, hplan, hcolumn, hstages,
    Nested.placed, houter]

section Outer

variable (hplain : c.schema.hasPlainCollections = true) (hfields : c.HasOwnFields)
include hplain hfields

/-- The variables of a subquery get mirrored values. -/
theorem outerBindings_mirrors {index : Nat} {paths : List String} {bindings : Document}
    (hctx : Context.Mirrors c.config ctx other)
    (h : c.outerBindings ctx index paths = .ok (bindings, ctx')) :
    ∃ others other', c.outerBindings other index paths = .ok (others, other') ∧
      Grow c.config ctx other ctx' other' ∧ Document.Mirrors (Pairs c.config ctx' other')
          bindings others := by
  induction paths generalizing ctx other index bindings with
  | nil =>
    obtain ⟨rfl, rfl⟩ := Prod.mk.inj (Except.ok.inj h)
    exact ⟨[], other, rfl, .refl hctx, .nil⟩
  | cons path rest ih =>
    obtain ⟨e, type, after, others, he, hrest, rfl⟩ := outerBindings_cons_ok h
    obtain ⟨e', after', he', hgrow, hmirrors⟩ := fieldExpr_mirrors hplain hfields hctx he
    obtain ⟨others', other', hothers, hmore, hall⟩ := ih hgrow.mirrors hrest
    refine ⟨(c.config.parentVariable index, e') :: others', other', ?_, hgrow.trans hmore, ?_⟩
    · simp only [outerBindings, he', hothers]
    · exact .cons ⟨rfl, hmirrors.mono hmore.pairs⟩ hall

end Outer

/-- The stage that replaces the results of a subquery by the first one reads nothing but its
field. -/
theorem firstOrEmpty_mirrors {R : String → String → Prop} {output : String}
    (h : R output output)
    (hplain : IsPlainName output) :
        Stage.Mirrors R (firstOrEmpty output) (firstOrEmpty output) := by
  have hpath := Value.Mirrors.column h hplain hplain
  have hempty : Value.Mirrors R (.object []) (.object []) := .fixed rfl rfl fun _ _ => by
    simp [Value.eval, Value.evalFields]
  have htype := Value.Mirrors.binary (R := R) (.comparison .eq) (.apply .type hpath)
    (.text (s := "missing") rfl)
  have hsize := Value.Mirrors.binary (R := R) (.comparison .eq) (.apply .size hpath) (.int 0)
  have hmissing := Value.Mirrors.junction true (Value.Mirrors.pair htype hsize)
  refine .set (.cons ⟨rfl, ?_⟩ .nil)
  exact .cond hmissing hempty (.apply .elementAt (.array (Value.Mirrors.pair hpath (.int 0))))

/-- The context after a subquery was placed. -/
def placed (config : Config) (ctx : Context) (source : String) (bindings : Document)
    (stages : List Stage) : Context :=
  ctx.nextSubquery.2.pushStages [.lookup source bindings stages (config.subqueryField
    ctx.subqueryCount), firstOrEmpty (config.subqueryField ctx.subqueryCount)]

/-- A subquery is placed in mirrored contexts, and its field can be read from there on. -/
theorem placed_mirrors {config : Config} (hfields : ∀ k, IsPlainName (config.subqueryField k))
    (hctx : Context.Mirrors config ctx other) {bindings others : Document}
    (hbindings : Document.Mirrors (Pairs config ctx other) bindings others) (source : String)
    (stages : List Stage) :
    Grow config ctx other (placed config ctx source bindings stages) (placed config other source
      others stages) ∧ Pairs config (placed config ctx source bindings stages)
      (placed config other source others stages)
        (config.subqueryField ctx.subqueryCount) (config.subqueryField ctx.subqueryCount) := by
  have hcount : (placed config ctx source bindings stages).subqueryCount =
    ctx.subqueryCount + 1 := rfl
  have hgrown : ∀ name, ctx.Names config name → (placed config ctx source bindings stages).Names
      config name := by
    rintro name (hcolumn | hannotation | ⟨k, hk, rfl⟩)
    · exact .inl hcolumn
    · exact .inr (.inl hannotation)
    · exact .inr (.inr ⟨k, hcount ▸ Nat.lt_succ_of_lt hk, rfl⟩)
  have hoff : (placed config ctx source bindings stages).Names config
      (config.subqueryField ctx.subqueryCount) :=
    .inr (.inr ⟨ctx.subqueryCount, hcount ▸ Nat.lt_succ_self _, rfl⟩)
  have hpairs : ∀ x x', Pairs config ctx other x x' →
      Pairs config (placed config ctx source bindings stages) (placed config other source others
          stages) x x' := by
    rintro x x' (⟨rfl, hname⟩ | halias)
    · exact .inl ⟨rfl, hgrown x hname⟩
    · exact .inr halias
  have hwidens : ∀ (ctx : Context) (bindings : Document), Context.Widens config ctx
      (placed config ctx source bindings stages) := by
    intro ctx bindings
    refine ⟨List.Subset.refl _, ?_, List.Subset.refl _, fun _ ha => .inl ha⟩
    rintro name (hcolumn | hannotation | ⟨k, hk, rfl⟩)
    · exact .inl hcolumn
    · exact .inr (.inl hannotation)
    · exact .inr (.inr ⟨k, Nat.lt_succ_of_lt hk, rfl⟩)
  refine ⟨⟨⟨hctx.model, hctx.annotations, congrArg (· + 1) hctx.count, hctx.outer,
    hctx.joined, hctx.first, hctx.second, ?_⟩, hwidens ctx bindings, hwidens other others, id,
    _, _, rfl, rfl, ?_⟩, .inl ⟨rfl, hoff⟩⟩
  · rintro name (hcolumn | hannotation | ⟨k, -, rfl⟩)
    · exact hctx.names name (.inl hcolumn)
    · exact hctx.names name (.inr (.inl hannotation))
    · exact hfields k
  · rw [hctx.count]
    exact .cons (.lookup source stages _ (hbindings.mono hpairs))
      (.cons (firstOrEmpty_mirrors (.inl ⟨rfl, hoff⟩) (hfields _)) .nil)

theorem compileSubquery_mirrors (hplain : c.schema.hasPlainCollections = true)
    (hfields : c.HasOwnFields) {wrap : Bool} {q : Query} {e : Value}
    (hctx : Context.Mirrors c.config ctx other)
    (h : c.compileSubquery ctx wrap q = .ok (e, ctx')) :
    ∃ e' other', c.compileSubquery other wrap q = .ok (e', other') ∧
      Grow c.config ctx other ctx' other' ∧
      Value.Mirrors (Pairs c.config ctx' other') e e' := by
  obtain ⟨n, hn, hplaced⟩ := compileSubquery_ok h
  obtain ⟨bindings, after, hbindings, rfl, rfl⟩ := placeSubquery_ok hplaced
  obtain ⟨others, after', hothers, hgrow, hmirrors⟩ := outerBindings_mirrors hplain hfields
    hctx hbindings
  obtain ⟨hmore, hfield⟩ := placed_mirrors hfields.plain hgrow.mirrors hmirrors
    n.model.collection (n.placed q wrap)
  refine ⟨_, placed c.config after' n.model.collection others (n.placed q wrap), ?_,
    hgrow.trans hmore, .columnPath hfield (hfields.plain _) (hfields.plain _) n.column.1⟩
  simp only [compileSubquery_of_nested hn, placeSubquery, hothers, Context.nextSubquery, placed,
    hgrow.mirrors.count]

/-! ## Lookups -/

/-- The path of a lookup is resolved in mirrored contexts, and the lookup is noted in both. -/
theorem noteLookup_mirrors (hplain : c.schema.hasPlainCollections = true)
    (hfields : c.HasOwnFields) {r : Resolved} {after : Context}
    (hctx : Context.Mirrors c.config ctx other)
    (h : c.resolveLookup ctx path = (.ok r, after)) :
    ∃ r' after', c.resolveLookup other path = (.ok r', after') ∧ r'.lookup = r.lookup ∧
      Access.Mirrors (Pairs c.config (noteLookup r after) (noteLookup r' after'))
        r.target r'.target ∧
      Grow c.config ctx other (noteLookup r after) (noteLookup r' after') := by
  obtain ⟨r', after', hother, hlookup, htarget, hgrow⟩ :=
    resolveLookup_mirrors hplain hfields hctx h
  have hnote := hgrow.mirrors.same (.noteLookup r after) (.noteLookup r' after')
  exact ⟨r', after', hother, hlookup, htarget.mono hnote.pairs, hgrow.trans hnote⟩

/-- A lookup on a mirrored access with a mirrored operand is compiled to a mirrored
expression. -/
theorem buildOn_mirrors {r r' : Resolved} {after after' : Context} {w w' e : Value}
    (hlookup : r'.lookup = r.lookup)
    (htarget : Access.Mirrors (Pairs c.config after after') r.target r'.target)
    (hgrow : Grow c.config after after' ctx' other)
    (hw : Value.Mirrors (Pairs c.config ctx' other) w w')
    (h : r.lookup.buildOn r.target w = .ok e) :
    ∃ e', r'.lookup.buildOn r'.target w' = .ok e' ∧
        Value.Mirrors (Pairs c.config ctx' other) e e' := by
  rw [hlookup]
  exact (htarget.mono hgrow.pairs).buildOn hgrow.mirrors.plain hw h

/-- A lookup with a computed operand, given what the operand is compiled to. -/
theorem computedLookup_mirrors (hplain : c.schema.hasPlainCollections = true)
    (hfields : c.HasOwnFields) {operand : Expr} {e : Value}
    (hcomputed : isComputed operand = true)
    (hoperand : ∀ {ctx ctx' other : Context} {w : Value} {type : ValueType},
      Context.Mirrors c.config ctx other → c.compileExpr ctx operand = .ok ((w, type), ctx') →
      ∃ w' other', c.compileExpr other operand = .ok ((w', type), other') ∧
        Grow c.config ctx other ctx' other' ∧ Value.Mirrors (Pairs c.config ctx' other') w w')
    (hctx : Context.Mirrors c.config ctx other)
    (h : c.compileFilter ctx (.lookup path operand) = .ok (e, ctx')) :
    ∃ e' other', c.compileFilter other (.lookup path operand) = .ok (e', other') ∧
      Grow c.config ctx other ctx' other' ∧
          Value.Mirrors (Pairs c.config ctx' other') e e' := by
  obtain ⟨r, after, w, type, hr, hbuild, hw⟩ := compileFilter_computed_ok hcomputed h
  obtain ⟨r', after', hr', hlookup, htarget, hgrow⟩ := noteLookup_mirrors hplain hfields hctx hr
  obtain ⟨w', other', hw', hmore, hmirrors⟩ := hoperand hgrow.mirrors hw
  obtain ⟨e', hbuild', he⟩ := buildOn_mirrors hlookup htarget hmore hmirrors hbuild
  refine ⟨e', other', ?_, hgrow.trans hmore, he⟩
  simp only [compileFilter_computed hcomputed, lookupWith, hr', hw', withoutType, hbuild']

theorem literalLookup_mirrors (hplain : c.schema.hasPlainCollections = true)
    (hfields : c.HasOwnFields) {v e : Value} (hctx : Context.Mirrors c.config ctx other)
    (h : c.compileFilter ctx (.lookup path (.literal v)) = .ok (e, ctx')) :
    ∃ e' other', c.compileFilter other (.lookup path (.literal v)) = .ok (e', other') ∧
      Grow c.config ctx other ctx' other' ∧
          Value.Mirrors (Pairs c.config ctx' other') e e' := by
  obtain ⟨r, after, w, hr, hbuild, hw, rfl⟩ := compileFilter_literal_ok h
  obtain ⟨r', after', hr', hlookup, htarget, hgrow⟩ := noteLookup_mirrors hplain hfields hctx hr
  obtain ⟨e', hbuild', he⟩ := buildOn_mirrors hlookup htarget (.refl hgrow.mirrors)
    (Lookup.mirrors_literal hw) hbuild
  refine ⟨e', noteLookup r' after', ?_, hgrow, he⟩
  rw [← hlookup, ← htarget.type_eq] at hw
  simp only [compileFilter, lookupWith, hr', literalOperand, hw, hbuild']

/-- A lookup with a list, given what its items are compiled to. -/
theorem listLookup_mirrors (hplain : c.schema.hasPlainCollections = true)
    (hfields : c.HasOwnFields) {items : List Expr} {e : Value}
    (hitems : ∀ {r r' : Resolved} {ctx ctx' other : Context} {es : List Value},
      r'.lookup = r.lookup → r'.target.type = r.target.type →
      Context.Mirrors c.config ctx other → c.compileItems r ctx items = .ok (es, ctx') →
      ∃ es' other', c.compileItems r' other items = .ok (es', other') ∧
        Grow c.config ctx other ctx' other' ∧
        List.Forall₂ (Value.Mirrors (Pairs c.config ctx' other')) es es')
    (hctx : Context.Mirrors c.config ctx other)
    (h : c.compileFilter ctx (.lookup path (.list items)) = .ok (e, ctx')) :
    ∃ e' other', c.compileFilter other (.lookup path (.list items)) = .ok (e', other') ∧
      Grow c.config ctx other ctx' other' ∧
          Value.Mirrors (Pairs c.config ctx' other') e e' := by
  obtain ⟨r, after, vs, hr, hbuild, hfault, hvs⟩ := compileFilter_list_ok h
  obtain ⟨r', after', hr', hlookup, htarget, hgrow⟩ := noteLookup_mirrors hplain hfields hctx hr
  obtain ⟨vs', other', hvs', hmore, hall⟩ := hitems hlookup htarget.type_eq hgrow.mirrors hvs
  obtain ⟨e', hbuild', he⟩ := buildOn_mirrors hlookup htarget hmore (.array hall) hbuild
  refine ⟨e', other', ?_, hgrow.trans hmore, he⟩
  rw [← hlookup] at hfault
  simp only [compileFilter, lookupWith, hr', hfault, hvs', hbuild']

theorem subqueryLookup_mirrors (hplain : c.schema.hasPlainCollections = true)
    (hfields : c.HasOwnFields) {q : Query} {e : Value}
    (hctx : Context.Mirrors c.config ctx other)
    (h : c.compileFilter ctx (.lookup path (.subquery q)) = .ok (e, ctx')) :
    ∃ e' other', c.compileFilter other (.lookup path (.subquery q)) = .ok (e', other') ∧
      Grow c.config ctx other ctx' other' ∧
          Value.Mirrors (Pairs c.config ctx' other') e e' := by
  obtain ⟨r, after, w, hr, hbuild, hw⟩ := compileFilter_subquery_ok h
  obtain ⟨r', after', hr', hlookup, htarget, hgrow⟩ := noteLookup_mirrors hplain hfields hctx hr
  obtain ⟨w', other', hw', hmore, hmirrors⟩ :=
    compileSubquery_mirrors hplain hfields hgrow.mirrors hw
  obtain ⟨e', hbuild', he⟩ := buildOn_mirrors hlookup htarget hmore hmirrors hbuild
  refine ⟨e', other', ?_, hgrow.trans hmore, he⟩
  rw [← hlookup] at hw'
  simp only [compileFilter, lookupWith, hr', hw', hbuild']

/-- A query that is in no other one has no outer references. -/
theorem compileExpr_outer_ne_ok {result : (Value × ValueType) × Context}
    (hctx : Context.Mirrors c.config ctx other) :
    c.compileExpr ctx (.outer path) ≠ .ok result := by
  intro h
  rw [compileExpr] at h
  obtain ⟨index, hindex, -⟩ := outerExpr_ok h
  simp [Context.outerRef, hctx.outer] at hindex

/-! ## Trees -/

mutual

theorem compileFilter_mirrors (hplain : c.schema.hasPlainCollections = true)
    (hfields : c.HasOwnFields) (ctx : Context) {ctx' other : Context} (f : Filter)
    {e : Value} (hctx : Context.Mirrors c.config ctx other)
    (h : c.compileFilter ctx f = .ok (e, ctx')) :
    ∃ e' other', c.compileFilter other f = .ok (e', other') ∧
      Grow c.config ctx other ctx' other' ∧
      Value.Mirrors (Pairs c.config ctx' other') e e' := by
  match f with
  | .lookup path operand =>
    by_cases hcomputed : isComputed operand = true
    · exact computedLookup_mirrors hplain hfields hcomputed
        (fun hctx h => compileExpr_mirrors hplain hfields _ operand hctx h) hctx h
    · match operand with
      | .literal v => exact literalLookup_mirrors hplain hfields hctx h
      | .list items =>
        exact listLookup_mirrors hplain hfields
          (fun hlookup htype hctx h =>
            compileItems_mirrors hplain hfields _ items hlookup htype hctx h) hctx h
      | .subquery q => exact subqueryLookup_mirrors hplain hfields hctx h
      | .field _ | .outer _ | .combined _ _ _ | .case _ _ | .condition _ =>
        exact absurd rfl hcomputed
  | .and filters =>
    obtain ⟨es, hes, rfl⟩ := compileFilter_and_ok h
    obtain ⟨es', other', hes', hgrow, hall⟩ := compileFilters_mirrors hplain hfields ctx
      filters hctx hes
    exact ⟨_, other', by simp only [compileFilter, hes'], hgrow, .conjunction hall⟩
  | .or filters =>
    obtain ⟨es, inside, hes, rfl, rfl⟩ := compileFilter_or_ok h
    have hin := hctx.same (.enter ctx) (.enter other)
    obtain ⟨es', other', hes', hgrow, hall⟩ :=
      compileFilters_mirrors hplain hfields ctx.enter filters hin.mirrors hes
    have hout := hgrow.mirrors.same (.leave inside) (.leave other')
    exact ⟨_, other'.leave, by simp only [compileFilter, hes'], (hin.trans hgrow).trans hout,
      .disjunction (hall.imp fun _ _ he => he.mono hout.pairs)⟩
  | .not filter =>
    obtain ⟨v, inside, hv, rfl, rfl⟩ := compileFilter_not_ok h
    have hin := hctx.same (.enter ctx) (.enter other)
    obtain ⟨v', other', hv', hgrow, hmirrors⟩ :=
      compileFilter_mirrors hplain hfields ctx.enter filter hin.mirrors hv
    have hout := hgrow.mirrors.same (.leave inside) (.leave other')
    exact ⟨_, other'.leave, by simp only [compileFilter, hv'], (hin.trans hgrow).trans hout,
      .negation (hmirrors.mono hout.pairs)⟩
  | .exists q =>
    obtain ⟨v, hv, rfl⟩ := compileFilter_exists_ok h
    obtain ⟨v', other', hv', hgrow, hmirrors⟩ := compileSubquery_mirrors hplain hfields hctx hv
    exact ⟨_, other', by simp only [compileFilter, hv'], hgrow, .nullCheck hmirrors false⟩

theorem compileFilters_mirrors (hplain : c.schema.hasPlainCollections = true)
    (hfields : c.HasOwnFields) (ctx : Context) {ctx' other : Context}
    (filters : List Filter) {es : List Value} (hctx : Context.Mirrors c.config ctx other)
    (h : c.compileFilters ctx filters = .ok (es, ctx')) :
    ∃ es' other', c.compileFilters other filters = .ok (es', other') ∧
      Grow c.config ctx other ctx' other' ∧
      List.Forall₂ (Value.Mirrors (Pairs c.config ctx' other')) es es' := by
  match filters with
  | [] =>
    rw [compileFilters] at h
    obtain ⟨rfl, rfl⟩ := Prod.mk.inj (Except.ok.inj h)
    exact ⟨[], other, by rw [compileFilters], .refl hctx, .nil⟩
  | f :: rest =>
    obtain ⟨v, after, others, hv, hrest, rfl⟩ := compileFilters_cons_ok h
    obtain ⟨v', after', hv', hfirst, hmirrors⟩ :=
      compileFilter_mirrors hplain hfields ctx f hctx hv
    obtain ⟨others', other', hothers, hmore, hall⟩ :=
      compileFilters_mirrors hplain hfields after rest hfirst.mirrors hrest
    exact ⟨_, other', by simp only [compileFilters, hv', hothers], hfirst.trans hmore,
      .cons (hmirrors.mono hmore.pairs) hall⟩

theorem compileItems_mirrors (hplain : c.schema.hasPlainCollections = true)
    (hfields : c.HasOwnFields) {r r' : Resolved} (ctx : Context)
    {ctx' other : Context} (items : List Expr) {es : List Value}
    (hlookup : r'.lookup = r.lookup)
    (htype : r'.target.type = r.target.type) (hctx : Context.Mirrors c.config ctx other)
    (h : c.compileItems r ctx items = .ok (es, ctx')) :
    ∃ es' other', c.compileItems r' other items = .ok (es', other') ∧
      Grow c.config ctx other ctx' other' ∧
      List.Forall₂ (Value.Mirrors (Pairs c.config ctx' other')) es es' := by
  match items with
  | [] =>
    rw [compileItems] at h
    obtain ⟨rfl, rfl⟩ := Prod.mk.inj (Except.ok.inj h)
    exact ⟨[], other, by rw [compileItems], .refl hctx, .nil⟩
  | item :: rest =>
    by_cases hliteral : ∃ w, item = .literal w
    · obtain ⟨w, rfl⟩ := hliteral
      obtain ⟨v, others, hv, hrest, rfl⟩ := compileItems_literal_ok h
      obtain ⟨others', other', hothers, hgrow, hall⟩ :=
        compileItems_mirrors hplain hfields ctx rest hlookup htype hctx hrest
      refine ⟨v :: others', other', ?_, hgrow, .cons (Lookup.mirrors_scalarLiteral hv) hall⟩
      rw [← hlookup, ← htype] at hv
      simp only [compileItems, hv, hothers]
    · obtain ⟨v, after, others, hrest, rfl, hitem⟩ := compileItems_cons_ok h
      rcases hitem with ⟨w, rfl, -⟩ | ⟨type, hexpr⟩
      · exact absurd ⟨w, rfl⟩ hliteral
      · obtain ⟨v', after', hv', hfirst, hmirrors⟩ := compileExpr_mirrors hplain hfields ctx
          item hctx hexpr
        obtain ⟨others', other', hothers, hmore, hall⟩ :=
          compileItems_mirrors hplain hfields after rest hlookup htype hfirst.mirrors hrest
        refine ⟨v' :: others', other', ?_, hfirst.trans hmore,
          .cons (hmirrors.mono hmore.pairs) hall⟩
        rw [compileItems_computed fun w hw => hliteral ⟨w, hw⟩]
        simp only [hv', hothers]

theorem compileExpr_mirrors (hplain : c.schema.hasPlainCollections = true)
    (hfields : c.HasOwnFields) (ctx : Context) {ctx' other : Context} (body : Expr)
    {e : Value} {type : ValueType} (hctx : Context.Mirrors c.config ctx other)
    (h : c.compileExpr ctx body = .ok ((e, type), ctx')) :
    ∃ e' other', c.compileExpr other body = .ok ((e', type), other') ∧
      Grow c.config ctx other ctx' other' ∧
      Value.Mirrors (Pairs c.config ctx' other') e e' := by
  match body with
  | .literal v =>
    rw [compileExpr] at h
    obtain ⟨hpair, rfl⟩ := Prod.mk.inj (Except.ok.inj h)
    obtain ⟨rfl, rfl⟩ := Prod.mk.inj hpair
    exact ⟨_, other, by rw [compileExpr], .refl hctx, .protectAlone v⟩
  | .field path =>
    rw [compileExpr] at h
    obtain ⟨e', other', hother, hgrow, hmirrors⟩ := fieldExpr_mirrors hplain hfields hctx h
    exact ⟨e', other', by rw [compileExpr, hother], hgrow, hmirrors⟩
  | .outer path => exact absurd h (compileExpr_outer_ne_ok hctx)
  | .list items =>
    obtain ⟨es, hes, rfl⟩ := compileExpr_list_ok h
    obtain ⟨es', other', hes', hgrow, hall⟩ := compileExprs_mirrors hplain hfields ctx
      items hctx hes
    simp only [compileExpr, hes, Except.ok.injEq, Prod.mk.injEq, true_and, and_true] at h
    exact ⟨_, other', by simp only [compileExpr, hes', h], hgrow, .array hall⟩
  | .combined op left right =>
    obtain ⟨a, s, after, b, t, ha, hb, rfl⟩ := compileExpr_combined_ok h
    obtain ⟨a', after', ha', hfirst, hleft⟩ := compileExpr_mirrors hplain hfields
      ctx left hctx ha
    obtain ⟨b', other', hb', hmore, hright⟩ := compileExpr_mirrors hplain hfields after right
      hfirst.mirrors hb
    simp only [compileExpr, ha, hb, Except.ok.injEq, Prod.mk.injEq, true_and, and_true] at h
    exact ⟨_, other', by simp only [compileExpr, ha', hb', h], hfirst.trans hmore,
      .combine op (hleft.mono hmore.pairs) hright⟩
  | .case branches otherwise =>
    obtain ⟨bs, after, v, hbs, hv, rfl⟩ := compileExpr_case_ok h
    obtain ⟨bs', after', hbs', hfirst, hall⟩ := compileBranches_mirrors hplain hfields ctx
      branches hctx hbs
    obtain ⟨v', other', hv', hmore, hmirrors⟩ :=
      compileExpr_mirrors hplain hfields after otherwise hfirst.mirrors hv
    exact ⟨_, other', by simp only [compileExpr, hbs', hv'], hfirst.trans hmore,
      .caseDistinction (hall.imp fun _ _ hb => hb.mono hmore.pairs) hmirrors⟩
  | .condition filter =>
    have hfilter := compileExpr_condition_ok h
    obtain ⟨e', other', he', hgrow, hmirrors⟩ := compileFilter_mirrors hplain hfields ctx
      filter hctx hfilter
    simp only [compileExpr, hfilter, typed, Except.ok.injEq, Prod.mk.injEq, true_and,
      and_true] at h
    exact ⟨e', other', by simp only [compileExpr, he', typed, h], hgrow, hmirrors⟩
  | .subquery q =>
    have hsubquery := compileExpr_subquery_ok h
    obtain ⟨e', other', he', hgrow, hmirrors⟩ := compileSubquery_mirrors hplain hfields
      hctx hsubquery
    simp only [compileExpr, hsubquery, typed, Except.ok.injEq, Prod.mk.injEq, true_and,
      and_true] at h
    exact ⟨e', other', by simp only [compileExpr, he', typed, h], hgrow, hmirrors⟩

theorem compileExprs_mirrors (hplain : c.schema.hasPlainCollections = true)
    (hfields : c.HasOwnFields) (ctx : Context) {ctx' other : Context}
    (items : List Expr) {es : List Value} (hctx : Context.Mirrors c.config ctx other)
    (h : c.compileExprs ctx items = .ok (es, ctx')) :
    ∃ es' other', c.compileExprs other items = .ok (es', other') ∧
      Grow c.config ctx other ctx' other' ∧
      List.Forall₂ (Value.Mirrors (Pairs c.config ctx' other')) es es' := by
  match items with
  | [] =>
    rw [compileExprs] at h
    obtain ⟨rfl, rfl⟩ := Prod.mk.inj (Except.ok.inj h)
    exact ⟨[], other, by rw [compileExprs], .refl hctx, .nil⟩
  | item :: rest =>
    obtain ⟨v, type, after, others, hv, hrest, rfl⟩ := compileExprs_cons_ok h
    obtain ⟨v', after', hv', hfirst, hmirrors⟩ := compileExpr_mirrors hplain hfields
      ctx item hctx hv
    obtain ⟨others', other', hothers, hmore, hall⟩ :=
      compileExprs_mirrors hplain hfields after rest hfirst.mirrors hrest
    exact ⟨_, other', by simp only [compileExprs, hv', hothers], hfirst.trans hmore,
      .cons (hmirrors.mono hmore.pairs) hall⟩

theorem compileBranches_mirrors (hplain : c.schema.hasPlainCollections = true)
    (hfields : c.HasOwnFields) (ctx : Context) {ctx' other : Context}
    (branches : List (Filter × Expr)) {es : List Value}
    (hctx : Context.Mirrors c.config ctx other)
    (h : c.compileBranches ctx branches = .ok (es, ctx')) :
    ∃ es' other', c.compileBranches other branches = .ok (es', other') ∧
      Grow c.config ctx other ctx' other' ∧
      List.Forall₂ (Value.Mirrors.Branch (Pairs c.config ctx' other')) es es' := by
  match branches with
  | [] =>
    rw [compileBranches] at h
    obtain ⟨rfl, rfl⟩ := Prod.mk.inj (Except.ok.inj h)
    exact ⟨[], other, by rw [compileBranches], .refl hctx, .nil⟩
  | (f, body) :: rest =>
    obtain ⟨condition, after, v, type, final, others, hf, hv, hrest, rfl⟩ :=
      compileBranches_cons_ok h
    obtain ⟨condition', after', hf', hfirst, hcondition⟩ :=
      compileFilter_mirrors hplain hfields ctx f hctx hf
    obtain ⟨v', final', hv', hsecond, hresult⟩ :=
      compileExpr_mirrors hplain hfields after body hfirst.mirrors hv
    obtain ⟨others', other', hothers, hmore, hall⟩ :=
      compileBranches_mirrors hplain hfields final rest hsecond.mirrors hrest
    exact ⟨_, other', by simp only [compileBranches, hf', hv', hothers],
      (hfirst.trans hsecond).trans hmore,
      .cons ⟨(hcondition.mono hsecond.pairs).mono hmore.pairs, hresult.mono hmore.pairs⟩ hall⟩

end

/-! ## Computed columns -/

theorem mem_names_setType {types : List (String × ValueType)} {name x : String}
    {type : ValueType} :
    x ∈ (Context.setType types name type).map (·.1) ↔ x ∈ types.map (·.1) ∨ x = name := by
  induction types with
  | nil => simp [Context.setType]
  | cons a rest ih =>
    obtain ⟨k, t⟩ := a
    by_cases hk : k = name
    · simp only [Context.setType, hk, if_true, List.map_cons, List.mem_cons]
      tauto
    · simp only [Context.setType, hk, if_false, List.map_cons, List.mem_cons, ih]
      tauto

theorem widens_addAnnotation (config : Config) (ctx : Context) (name : String)
    (type : ValueType) : Context.Widens config ctx (ctx.clearRefs.addAnnotation name type) where
  aliases := List.Subset.refl _
  names := by
    rintro x (hcolumn | hannotation | hfield)
    · exact .inl hcolumn
    · exact .inr (.inl (mem_names_setType.mpr (.inl hannotation)))
    · exact .inr (.inr hfield)
  annotations := fun _ hx => mem_names_setType.mpr (.inl hx)
  fresh := fun _ ha => .inl ha

/-- A computed column can be read from then on. -/
theorem addAnnotation_mirrors {config : Config} (hctx : Context.Mirrors config ctx other)
    {name : String} (hname : IsPlainName name) (type : ValueType) :
    Grow config ctx other (ctx.clearRefs.addAnnotation name type)
        (other.clearRefs.addAnnotation name type) := by
  refine ⟨⟨hctx.model, congrArg (Context.setType · name type) hctx.annotations, hctx.count,
    hctx.outer, hctx.joined, hctx.first, hctx.second, ?_⟩, widens_addAnnotation _ _ _ _,
    widens_addAnnotation _ _ _ _, fun _ => rfl, [], [],
    (List.append_nil _).symm, (List.append_nil _).symm, .nil⟩
  rintro x (hcolumn | hannotation | hfield)
  · exact hctx.names x (.inl hcolumn)
  · rcases mem_names_setType.mp hannotation with hold | rfl
    · exact hctx.names x (.inr (.inl hold))
    · exact hname
  · exact hctx.names x (.inr (.inr hfield))

end Compiler

/-- Of mirrored expressions both read a stored path, or none does. -/
theorem Compiler.isSome_storedPath? {R : String → String → Prop} {e e' : Value}
    (h : Value.Mirrors R e e') :
    (Compiler.storedPath? e).isSome = (Compiler.storedPath? e').isSome := by
  cases h with
  | path _ _ _ hplain hplain' =>
    simp [Compiler.storedPath?, Text.stripFirst?_append, hplain, hplain']
  | _ => rfl

/-- Members are set in their places in both of two documents with the same names. -/
theorem Document.forall₂_insert {S : Value → Value → Prop} {fields others : Document}
    (h : List.Forall₂ (fun m n => m.1 = n.1 ∧ S m.2 n.2) fields others) (name : String)
    {v v' : Value} (hv : S v v') :
    List.Forall₂ (fun m n => m.1 = n.1 ∧ S m.2 n.2) (Document.insert fields name v)
      (Document.insert others name v') := by
  induction h with
  | nil => exact .cons ⟨rfl, hv⟩ .nil
  | @cons m n rest rest' hm hrest ih =>
    obtain ⟨k, w⟩ := m
    obtain ⟨k', w'⟩ := n
    obtain ⟨hname, hw⟩ := hm
    obtain rfl : k = k' := hname
    by_cases hk : k = name
    · simp only [Document.insert, hk, if_true]
      exact .cons ⟨rfl, hv⟩ hrest
    · simp only [Document.insert, hk, if_false]
      exact .cons ⟨rfl, hw⟩ ih

theorem Document.forall₂_insertAll {S : Value → Value → Prop}
    {fields others members members' : Document}
    (h : List.Forall₂ (fun m n => m.1 = n.1 ∧ S m.2 n.2) fields others)
    (hmembers : List.Forall₂ (fun m n => m.1 = n.1 ∧ S m.2 n.2) members members') :
    List.Forall₂ (fun m n => m.1 = n.1 ∧ S m.2 n.2) (Document.insertAll fields members)
      (Document.insertAll others members') := by
  induction hmembers generalizing fields others with
  | nil => exact h
  | @cons m n _ _ hm _ ih =>
    obtain ⟨k, v⟩ := m
    obtain ⟨k', v'⟩ := n
    obtain ⟨hname, hv⟩ := hm
    obtain rfl : k = k' := hname
    exact ih (forall₂_insert h k hv)

namespace Document.Mirrors

variable {R : String → String → Prop} {fields others : Document}

theorem has_eq (h : Document.Mirrors R fields others) (name : String) :
    Document.has others name = Document.has fields name := by
  induction h with
  | nil => rfl
  | cons hm _ ih => simp only [Document.has, List.any_cons, hm.1] at ih ⊢; rw [ih]

theorem insert (h : Document.Mirrors R fields others) (name : String) {v v' : Value}
    (hv : Value.Mirrors R v v') :
    Document.Mirrors R (Document.insert fields name v) (Document.insert others name v') :=
  Document.forall₂_insert h name hv

theorem addColumns (h : Document.Mirrors R fields others) :
    List.Forall₂ (Stage.Mirrors R) (Compiler.addColumns fields)
        (Compiler.addColumns others) := by
  cases h with
  | nil => exact .nil
  | cons hm hrest => exact .cons (.addFields (.cons hm hrest)) .nil

end Document.Mirrors

namespace Compiler

open Context (Grow Pairs)

variable {c : Compiler} {ctx ctx' other : Context}

section Plans

variable (hplain : c.schema.hasPlainCollections = true) (hfields : c.HasOwnFields)
include hplain hfields

/-- Computed columns are compiled to mirrored stages. -/
theorem compileAnnotations_mirrors {pending pending' : Document}
    {annotations : List (String × Expr)}
    {stages : List Stage} (hctx : Context.Mirrors c.config ctx other)
    (hrefs : other.annotationRefs = ctx.annotationRefs)
    (hnames : ∀ name ∈ annotations.map (·.1), IsPlainName name)
    (hpending : Document.Mirrors (Pairs c.config ctx other) pending pending')
    (h : c.compileAnnotations pending ctx annotations = .ok (stages, ctx')) :
    ∃ stages' other', c.compileAnnotations pending' other annotations = .ok (stages', other') ∧
      Grow c.config ctx other ctx' other' ∧
      List.Forall₂ (Stage.Mirrors (Pairs c.config ctx' other')) stages stages' := by
  induction annotations generalizing pending pending' ctx other stages with
  | nil =>
    rw [compileAnnotations] at h
    obtain ⟨rfl, rfl⟩ := Prod.mk.inj (Except.ok.inj h)
    exact ⟨_, other, by rw [compileAnnotations], .refl hctx, hpending.addColumns⟩
  | cons annotation rest ih =>
    obtain ⟨name, body⟩ := annotation
    obtain ⟨hname, hothers⟩ := List.forall_mem_cons.mp hnames
    rw [compileAnnotations] at h
    cases hv : c.compileExpr ctx body with
    | error e => simp [hv] at h
    | ok result =>
      obtain ⟨⟨v, type⟩, after⟩ := result
      obtain ⟨v', after', hv', hfirst, hmirrors⟩ := compileExpr_mirrors hplain hfields
        ctx body hctx hv
      have hnext := addAnnotation_mirrors hfirst.mirrors hname type
      have hany : after'.annotationRefs.any pending'.has =
          after.annotationRefs.any pending.has := by
        rw [hfirst.refs hrefs, funext hpending.has_eq]
      simp only [hv] at h
      split at h
      · rename_i hstarts
        split at h
        · rename_i others last hrest
          obtain ⟨rfl, rfl⟩ := Prod.mk.inj (Except.ok.inj h)
          have hcolumn : Document.Mirrors _ [(name, v)] [(name, v')] :=
            .cons ⟨rfl, hmirrors.mono hnext.pairs⟩ .nil
          obtain ⟨stages', other', hother, hmore, hall⟩ :=
            ih hnext.mirrors rfl hothers hcolumn hrest
          refine ⟨_, other', ?_, (hfirst.trans hnext).trans hmore,
            .cons (.addFields (hpending.mono ?_)) hall⟩
          · simp only [compileAnnotations, hv', hany, hstarts, if_true, hother]
          · exact fun x x' hx => hmore.pairs x x' (hnext.pairs x x' (hfirst.pairs x x' hx))
        · simp at h
      · rename_i hstays
        have hcolumns := (hpending.mono fun x x' hx =>
          hnext.pairs x x' (hfirst.pairs x x' hx)).insert name (hmirrors.mono hnext.pairs)
        obtain ⟨stages', other', hother, hmore, hall⟩ := ih hnext.mirrors rfl hothers hcolumns h
        refine ⟨stages', other', ?_, (hfirst.trans hnext).trans hmore, hall⟩
        simp only [compileAnnotations, hv', hany, hstays, if_false, hother, Bool.false_eq_true]

/-- The condition of a query is compiled to a mirrored one. -/
theorem compileCondition_mirrors {f : Option Filter} {condition : Option Value}
    (hctx : Context.Mirrors c.config ctx other)
    (h : c.compileCondition ctx f = .ok (condition, ctx')) :
    ∃ condition' other', c.compileCondition other f = .ok (condition', other') ∧
      Grow c.config ctx other ctx' other' ∧
      Option.Rel (Value.Mirrors (Pairs c.config ctx' other')) condition condition' := by
  cases f with
  | none =>
    rw [compileCondition] at h
    obtain ⟨rfl, rfl⟩ := Prod.mk.inj (Except.ok.inj h)
    exact ⟨none, other, by rw [compileCondition], .refl hctx, .none⟩
  | some f =>
    obtain ⟨v, hv, rfl⟩ := compileCondition_some_ok h
    obtain ⟨v', other', hv', hgrow, hmirrors⟩ :=
      compileFilter_mirrors hplain hfields ctx f hctx hv
    exact ⟨some v', other', by simp only [compileCondition, hv'], hgrow, .some hmirrors⟩

theorem loadRelations_mirrors {related : List String}
    (hctx : Context.Mirrors c.config ctx other) (h : c.loadRelations ctx related = .ok ctx') :
    ∃ other', c.loadRelations other related = .ok other' ∧
        Grow c.config ctx other ctx' other' := by
  induction related generalizing ctx other with
  | nil =>
    obtain rfl := Except.ok.inj h
    exact ⟨other, rfl, .refl hctx⟩
  | cons relation rest ih =>
    obtain ⟨e, type, after, he, hrest⟩ := loadRelations_cons_ok h
    obtain ⟨e', after', he', hfirst, -⟩ := fieldExpr_mirrors hplain hfields hctx he
    obtain ⟨other', hother, hmore⟩ := ih hfirst.mirrors hrest
    exact ⟨other', by simp only [loadRelations, he', hother], hfirst.trans hmore⟩

/-- Whether columns have the same names and mirrored expressions is asked like that of other
fields. -/
theorem columnsOf_mirrors {paths : List String} {columns : List (String × Value)}
    (hctx : Context.Mirrors c.config ctx other)
    (h : c.columnsOf ctx paths = .ok (columns, ctx')) :
    ∃ columns' other', c.columnsOf other paths = .ok (columns', other') ∧
      Grow c.config ctx other ctx' other' ∧ Document.Mirrors (Pairs c.config ctx' other')
      columns columns' := by
  induction paths generalizing ctx other columns with
  | nil =>
    obtain ⟨rfl, rfl⟩ := Prod.mk.inj (Except.ok.inj h)
    exact ⟨[], other, rfl, .refl hctx, .nil⟩
  | cons path rest ih =>
    obtain ⟨e, type, after, others, he, hrest, rfl⟩ := columnsOf_cons_ok h
    obtain ⟨e', after', he', hfirst, hmirrors⟩ := fieldExpr_mirrors hplain hfields hctx he
    obtain ⟨others', other', hothers, hmore, hall⟩ := ih hfirst.mirrors hrest
    exact ⟨(path, e') :: others', other', by simp only [columnsOf, he', hothers],
      hfirst.trans hmore, .cons ⟨rfl, hmirrors.mono hmore.pairs⟩ hall⟩

theorem returnedColumns_mirrors {annotations values : List String}
    {columns : List (String × Value)}
    (hctx : Context.Mirrors c.config ctx other)
    (hknown : ∀ name ∈ annotations, ctx.Names c.config name)
    (h : c.returnedColumns ctx annotations values = .ok (columns, ctx')) :
    ∃ columns' other', c.returnedColumns other annotations values = .ok (columns', other') ∧
      Grow c.config ctx other ctx' other' ∧ Document.Mirrors (Pairs c.config ctx' other')
          columns columns' := by
  cases values with
  | nil =>
    obtain ⟨rfl, rfl⟩ := Prod.mk.inj (Except.ok.inj h)
    refine ⟨_, other, rfl, .refl hctx, ?_⟩
    rw [allColumns, allColumns, hctx.model]
    have hnames : ∀ name ∈ ctx.model.columns ++ annotations, ctx.Names c.config name :=
      List.forall_mem_append.mpr ⟨fun name hname => .inl hname, hknown⟩
    refine List.forall₂_map_left_iff.mpr (List.forall₂_map_right_iff.mpr
      (List.forall₂_same.mpr ?_))
    intro name hname
    have hplainName := hctx.names name (hnames name hname)
    exact ⟨rfl, .column (.inl ⟨rfl, hnames name hname⟩) hplainName hplainName⟩
  | cons path rest => exact columnsOf_mirrors hplain hfields hctx h

/-- The keys of an order are computed by mirrored expressions, where they are not stored. -/
theorem sortKeys_mirrors {index : Nat} {orderBy : List OrderKey}
    {keys : List (String × Direction)}
    {computed : Document} (hctx : Context.Mirrors c.config ctx other)
    (h : c.sortKeys ctx index orderBy = .ok ((keys, computed), ctx')) :
    ∃ keys' computed' other', c.sortKeys other index orderBy =
      .ok ((keys', computed'), other') ∧ Grow c.config ctx other ctx' other' ∧ Document.Mirrors
      (Pairs c.config ctx' other') computed computed' := by
  induction orderBy generalizing ctx other index keys computed with
  | nil =>
    obtain ⟨hpair, rfl⟩ := Prod.mk.inj (Except.ok.inj h)
    obtain ⟨rfl, rfl⟩ := Prod.mk.inj hpair
    exact ⟨[], [], other, rfl, .refl hctx, .nil⟩
  | cons k rest ih =>
    obtain ⟨e, type, after, keys₁, computed₁, he, hrest, -⟩ := sortKeys_cons_ok h
    obtain ⟨e', after', he', hfirst, hmirrors⟩ := fieldExpr_mirrors hplain hfields hctx he
    obtain ⟨keys', computed', other', hothers, hmore, hall⟩ := ih hfirst.mirrors hrest
    have hcolumn := hmirrors.mono hmore.pairs
    have hstored := isSome_storedPath? hmirrors
    simp only [sortKeys, he', hothers]
    simp only [sortKeys, he, hrest] at h
    cases hpath : storedPath? e with
    | some path =>
      obtain ⟨path', hpath'⟩ := Option.isSome_iff_exists.mp (hstored.symm.trans
        (by rw [hpath]; rfl))
      simp only [hpath, Except.ok.injEq, Prod.mk.injEq, and_true] at h
      obtain ⟨-, rfl⟩ := h
      simp only [hpath']
      exact ⟨_, _, _, rfl, hfirst.trans hmore, hall⟩
    | none =>
      have hpath' : storedPath? e' = none := by
        rw [hpath] at hstored
        simpa using hstored.symm
      simp only [hpath, Except.ok.injEq, Prod.mk.injEq, and_true] at h
      obtain ⟨-, rfl⟩ := h
      simp only [hpath']
      exact ⟨_, _, _, rfl, hfirst.trans hmore, .cons ⟨rfl, hcolumn⟩ hall⟩

end Plans

end Compiler

end DocQuery
