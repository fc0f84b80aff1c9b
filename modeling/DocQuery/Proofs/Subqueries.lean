import DocQuery.Proofs.FirstResults
set_option autoImplicit false

/-!
# Proofs: where the stages of a subquery stand

A filter may mention other queries anywhere:  in questions for existence, as values of lookups
and inside computed values.  The stages of each of them stand among those that run before the
filter, and for every row its result is still there when the filter is evaluated.
-/

namespace DocQuery

/-! ## Mentioned parts -/

/-- A part of a filter that looks beyond the documents that are filtered. -/
inductive Part where
  /-- a path of the enclosing query -/
  | outer (path : String)
  | query (q : Query)

mutual

/-- Whether a filter has a part, anywhere but inside other queries. -/
inductive Filter.Mentions (part : Part) : Filter → Prop where
  | lookup {path : String} {operand : Expr} (h : Expr.Mentions part operand) :
    Filter.Mentions part (.lookup path operand)
  | and {filters : List Filter} {f : Filter} (hf : f ∈ filters) (h : Filter.Mentions part f) :
    Filter.Mentions part (.and filters)
  | or {filters : List Filter} {f : Filter} (hf : f ∈ filters) (h : Filter.Mentions part f) :
    Filter.Mentions part (.or filters)
  | not {f : Filter} (h : Filter.Mentions part f) : Filter.Mentions part (.not f)
  | exists {q : Query} (h : part = .query q) : Filter.Mentions part (.exists q)

/-- Whether a computed value has a part, anywhere but inside other queries. -/
inductive Expr.Mentions (part : Part) : Expr → Prop where
  | outer {path : String} (h : part = .outer path) : Expr.Mentions part (.outer path)
  | subquery {q : Query} (h : part = .query q) : Expr.Mentions part (.subquery q)
  | list {items : List Expr} {item : Expr} (hitem : item ∈ items)
    (h : Expr.Mentions part item) :
    Expr.Mentions part (.list items)
  | left {op : Combination} {a b : Expr} (h : Expr.Mentions part a) :
    Expr.Mentions part (.combined op a b)
  | right {op : Combination} {a b : Expr} (h : Expr.Mentions part b) :
    Expr.Mentions part (.combined op a b)
  | when {branches : List (Filter × Expr)} {otherwise : Expr} {b : Filter × Expr}
    (hb : b ∈ branches)
    (h : Filter.Mentions part b.1) : Expr.Mentions part (.case branches otherwise)
  | then {branches : List (Filter × Expr)} {otherwise : Expr} {b : Filter × Expr}
    (hb : b ∈ branches)
    (h : Expr.Mentions part b.2) : Expr.Mentions part (.case branches otherwise)
  | otherwise {branches : List (Filter × Expr)} {e : Expr} (h : Expr.Mentions part e) :
    Expr.Mentions part (.case branches e)
  | condition {f : Filter} (h : Filter.Mentions part f) : Expr.Mentions part (.condition f)

end

namespace Compiler

open Context (Extends)

variable {c : Compiler} {ctx ctx' : Context}

/-- What a part of a filter is compiled to: the variable of a path, or the reading of a
column. -/
def PartCompiled (c : Compiler) (before after : Context) (e : Value) : Part → Prop
  | .outer path => ∃ type, c.outerExpr before path = .ok ((e, type), after)
  | .query q => ∃ wrap, c.compileSubquery before wrap q = .ok (e, after)

/-- A part is compiled on the way from one context to another one. -/
def PartWithin (c : Compiler) (ctx ctx' : Context) (part : Part) : Prop :=
  ∃ before e after, PartCompiled c before after e part ∧ Extends c.config ctx before ∧
    Extends c.config after ctx'

theorem PartWithin.widen {part : Part} {first last : Context} (h : PartWithin c ctx ctx' part)
    (hfirst : Extends c.config first ctx) (hlast : Extends c.config ctx' last) :
    PartWithin c first last part := by
  obtain ⟨before, e, after, hcompiled, hbefore, hafter⟩ := h
  exact ⟨before, e, after, hcompiled, hfirst.trans hbefore, hafter.trans hlast⟩

theorem compileItems_mem {r : Resolved} {items : List Expr} {es : List Value}
    (h : c.compileItems r ctx items = .ok (es, ctx')) {item : Expr} (hitem : item ∈ items) :
    (∃ v, item = .literal v) ∨ ∃ before e type after, c.compileExpr before item =
      .ok ((e, type), after) ∧ Extends c.config ctx before ∧ Extends c.config after ctx' := by
  induction items generalizing ctx es with
  | nil => simp at hitem
  | cons first rest ih =>
    obtain ⟨v, after, others, hrest, -, hfirst⟩ := compileItems_cons_ok h
    have hextends : Extends c.config after ctx' := compileItems_extends after rest hrest
    rcases List.mem_cons.mp hitem with rfl | hmem
    · rcases hfirst with ⟨w, rfl, -, -⟩ | ⟨type, hexpr⟩
      · exact .inl ⟨w, rfl⟩
      · exact .inr ⟨ctx, v, type, after, hexpr, .refl ctx, hextends⟩
    · have hinto : Extends c.config ctx after := by
        rcases hfirst with ⟨w, -, -, rfl⟩ | ⟨type, hexpr⟩
        · exact .refl _
        · exact compileExpr_extends ctx first hexpr
      rcases ih hrest hmem with hliteral | ⟨before, e, type, last, he, hbefore, hlast⟩
      · exact .inl hliteral
      · exact .inr ⟨before, e, type, last, he, hinto.trans hbefore, hlast⟩

theorem compileExprs_mem {items : List Expr} {es : List Value}
    (h : c.compileExprs ctx items = .ok (es, ctx')) {item : Expr} (hitem : item ∈ items) :
    ∃ before e type after, c.compileExpr before item = .ok ((e, type), after) ∧
      Extends c.config ctx before ∧ Extends c.config after ctx' := by
  induction items generalizing ctx es with
  | nil => simp at hitem
  | cons first rest ih =>
    obtain ⟨v, type, after, others, hfirst, hrest, -⟩ := compileExprs_cons_ok h
    rcases List.mem_cons.mp hitem with rfl | hmem
    · exact ⟨ctx, v, type, after, hfirst, .refl ctx, compileExprs_extends after rest hrest⟩
    · obtain ⟨before, e, type', last, he, hbefore, hlast⟩ := ih hrest hmem
      exact ⟨before, e, type', last, he, (compileExpr_extends ctx first hfirst).trans
        hbefore, hlast⟩

theorem compileBranches_mem {branches : List (Filter × Expr)} {es : List Value}
    (h : c.compileBranches ctx branches = .ok (es, ctx')) {b : Filter × Expr}
    (hb : b ∈ branches) :
    ∃ before condition between v type after, c.compileFilter before b.1 =
      .ok (condition, between) ∧ c.compileExpr between b.2 = .ok ((v, type), after) ∧
      Extends c.config ctx before ∧ Extends c.config after ctx' := by
  induction branches generalizing ctx es with
  | nil => simp at hb
  | cons first rest ih =>
    obtain ⟨f, body⟩ := first
    obtain ⟨condition, between, v, type, after, others, hf, hv, hrest, -⟩ :=
      compileBranches_cons_ok h
    rcases List.mem_cons.mp hb with rfl | hmem
    · exact ⟨ctx, condition, between, v, type, after, hf, hv, .refl ctx,
        compileBranches_extends after rest hrest⟩
    · obtain ⟨before, condition', between', v', type', last, hf', hv', hbefore, hlast⟩ :=
        ih hrest hmem
      exact ⟨before, condition', between', v', type', last, hf', hv',
        (compileFilter_extends ctx f hf).trans ((compileExpr_extends between body hv).trans
          hbefore), hlast⟩

mutual

/-- A part of a filter is compiled where the filter is. -/
theorem compileFilter_mentions {ctx ctx' : Context} {part : Part} {f : Filter} {e : Value}
    (hf : f.Mentions part) (h : c.compileFilter ctx f = .ok (e, ctx')) :
        PartWithin c ctx ctx' part := by
  match hf with
  | @Filter.Mentions.lookup _ path operand hoperand =>
    by_cases hcomputed : isComputed operand = true
    · obtain ⟨r, after, w, type, hr, -, hw⟩ := compileFilter_computed_ok hcomputed h
      exact (compileExpr_mentions hoperand hw).widen
        ((resolveLookup_extends hr).trans (.noteLookup r after)) (.refl ctx')
    · match hoperand with
      | .list hitem hmention =>
        obtain ⟨r, after, vs, hr, -, -, hvs⟩ := compileFilter_list_ok h
        rcases compileItems_mem hvs hitem with ⟨v, rfl⟩ | ⟨before, v, type, last, hv,
          hbefore, hlast⟩
        · cases hmention
        · exact (compileExpr_mentions hmention hv).widen
            ((resolveLookup_extends hr).trans ((Extends.noteLookup r after).trans hbefore))
              hlast
      | .subquery hpart =>
        obtain ⟨r, after, w, hr, -, hw⟩ := compileFilter_subquery_ok h
        subst hpart
        exact ⟨_, w, ctx', ⟨_, hw⟩, (resolveLookup_extends hr).trans (.noteLookup r after),
          .refl ctx'⟩
      | .outer _ | .left _ | .right _ | .when _ _ | .then _ _ | .otherwise _ | .condition _ =>
        exact absurd rfl hcomputed
  | .and hmem hmention =>
    obtain ⟨es, hes, -⟩ := compileFilter_and_ok h
    obtain ⟨before, v, after, hv, -, hbefore, hafter⟩ := compileFilters_mem hes hmem
    exact (compileFilter_mentions hmention hv).widen hbefore hafter
  | .or hmem hmention =>
    obtain ⟨es, inside, hes, -, rfl⟩ := compileFilter_or_ok h
    obtain ⟨before, v, after, hv, -, hbefore, hafter⟩ := compileFilters_mem hes hmem
    exact (compileFilter_mentions hmention hv).widen ((Extends.enter ctx).trans hbefore)
      (hafter.trans (.leave inside))
  | .not hmention =>
    obtain ⟨v, inside, hv, -, rfl⟩ := compileFilter_not_ok h
    exact (compileFilter_mentions hmention hv).widen (.enter ctx) (.leave inside)
  | .exists hpart =>
    obtain ⟨v, hv, -⟩ := compileFilter_exists_ok h
    subst hpart
    exact ⟨ctx, v, ctx', ⟨false, hv⟩, .refl ctx, .refl ctx'⟩

/-- A part of a computed value is compiled where the value is. -/
theorem compileExpr_mentions {ctx ctx' : Context} {part : Part} {body : Expr} {e : Value}
    {type : ValueType}
    (hbody : body.Mentions part) (h : c.compileExpr ctx body = .ok ((e, type), ctx')) :
    PartWithin c ctx ctx' part := by
  match hbody with
  | .outer hpart =>
    subst hpart
    rw [compileExpr] at h
    exact ⟨ctx, e, ctx', ⟨type, h⟩, .refl ctx, .refl ctx'⟩
  | .subquery hpart =>
    subst hpart
    exact ⟨ctx, e, ctx', ⟨false, compileExpr_subquery_ok h⟩, .refl ctx, .refl ctx'⟩
  | .list hitem hmention =>
    obtain ⟨es, hes, -⟩ := compileExpr_list_ok h
    obtain ⟨before, v, type', after, hv, hbefore, hafter⟩ := compileExprs_mem hes hitem
    exact (compileExpr_mentions hmention hv).widen hbefore hafter
  | .left hmention =>
    obtain ⟨a, s, after, b, t, ha, hb, -⟩ := compileExpr_combined_ok h
    exact (compileExpr_mentions hmention ha).widen (.refl ctx) (compileExpr_extends after _ hb)
  | .right hmention =>
    obtain ⟨a, s, after, b, t, ha, hb, -⟩ := compileExpr_combined_ok h
    exact (compileExpr_mentions hmention hb).widen (compileExpr_extends ctx _ ha) (.refl ctx')
  | .when (b := b) hmem hmention =>
    obtain ⟨bs, after, v, hbs, hv, -⟩ := compileExpr_case_ok h
    obtain ⟨before, condition, between, w, type', last, hf, hw, hbefore, hlast⟩ :=
      compileBranches_mem hbs hmem
    exact (compileFilter_mentions hmention hf).widen hbefore
      ((compileExpr_extends between b.2 hw).trans
        (hlast.trans (compileExpr_extends after _ hv)))
  | .then (b := b) hmem hmention =>
    obtain ⟨bs, after, v, hbs, hv, -⟩ := compileExpr_case_ok h
    obtain ⟨before, condition, between, w, type', last, hf, hw, hbefore, hlast⟩ :=
      compileBranches_mem hbs hmem
    exact (compileExpr_mentions hmention hw).widen (hbefore.trans (compileFilter_extends
      before b.1 hf)) (hlast.trans (compileExpr_extends after _ hv))
  | .otherwise hmention =>
    obtain ⟨bs, after, v, hbs, hv, -⟩ := compileExpr_case_ok h
    exact (compileExpr_mentions hmention hv).widen (compileBranches_extends ctx _
      hbs) (.refl ctx')
  | .condition hmention =>
    exact compileFilter_mentions hmention (compileExpr_condition_ok h)

end

/-! ## Plans -/

/-- A computed column is known from the stage on that computes it. -/
theorem compileAnnotations_known {pending : Document} {annotations : List (String × Expr)}
    {stages : List Stage}
    (h : c.compileAnnotations pending ctx annotations = .ok (stages, ctx')) :
    ∀ name ∈ annotations.map (·.1), (ctx'.computedType? name).isSome = true := by
  induction annotations generalizing ctx pending stages with
  | nil => simp
  | cons annotation rest ih =>
    obtain ⟨name, body⟩ := annotation
    obtain ⟨v, type, after, -, hrest⟩ := compileAnnotations_cons_ok h
    have hname : ((after.clearRefs.addAnnotation name type).computedType? name).isSome =
        true := by
      rw [Context.computedType?_addAnnotation_self]
      rfl
    rcases hrest with ⟨others, hothers, -⟩ | ⟨-, hothers⟩
    · exact List.forall_mem_cons.mpr
        ⟨(compileAnnotations_extends hothers).computed name hname, ih hothers⟩
    · exact List.forall_mem_cons.mpr
        ⟨(compileAnnotations_extends hothers).computed name hname, ih hothers⟩

/-- Computed columns are added to the rows. -/
theorem compileAnnotations_addFields {pending : Document} {annotations : List (String × Expr)}
    {stages : List Stage}
    (h : c.compileAnnotations pending ctx annotations = .ok (stages, ctx')) :
    ∀ s ∈ stages, ∃ fields, s = .addFields fields := by
  induction annotations generalizing ctx pending stages with
  | nil =>
    rw [compileAnnotations] at h
    obtain ⟨rfl, -⟩ := Prod.mk.inj (Except.ok.inj h)
    unfold addColumns
    split <;> simp
  | cons annotation rest ih =>
    obtain ⟨name, body⟩ := annotation
    obtain ⟨v, type, after, -, hrest⟩ := compileAnnotations_cons_ok h
    rcases hrest with ⟨others, hothers, rfl⟩ | ⟨-, hothers⟩
    · exact List.forall_mem_cons.mpr ⟨⟨pending, rfl⟩, ih hothers⟩
    · exact ih hothers

/-- The context in which the filter of a query is compiled: behind the relations that are loaded
and the computed columns. -/
def filterContext (c : Compiler) (start : Context) (q : Query) : Except CompileError Context :=
  match c.loadRelations start q.related with
  | .error e => .error e
  | .ok loaded => (c.compileAnnotations [] loaded q.annotations).map (·.2)

/-- The filter of a planned query is compiled behind the computed columns. -/
theorem planWith_filter_ok {start final : Context} {outer : Query} {p : Plan} {f : Filter}
    (hfilter : outer.filter = some f)
    (hplan : c.planWith start outer (fun ctx => c.compileAnnotations [] ctx outer.annotations)
      (fun ctx => c.compileCondition ctx outer.filter) = .ok (p, final)) :
    ∃ loaded computed condition filtered,
      c.compileAnnotations [] loaded outer.annotations = .ok (p.annotations, computed) ∧
      c.filterContext start outer = .ok computed ∧
      c.compileFilter computed f = .ok (condition, filtered) ∧
      c.source final p = final.joins.flatMap (fun j => j.2.stages c.config) ++
        (final.subqueryStages ++ p.annotations) ++ [Stage.selectExpr condition] ∧
      Extends c.config start computed ∧ Extends c.config filtered final ∧
      ∀ name ∈ outer.annotations.map (·.1), (computed.computedType? name).isSome = true := by
  obtain ⟨loaded, stages, computed, condition, filtered, keys, fields, sorted, columns, hloaded,
    hstages, hcondition, hsorted, hreturned, rfl⟩ := planWith_ok hplan
  rw [hfilter] at hcondition
  obtain ⟨e, he, rfl⟩ := compileCondition_some_ok hcondition
  refine ⟨loaded, computed, e, filtered, hstages, ?_, he, ?_, ?_, ?_,
    compileAnnotations_known hstages⟩
  · simp only [filterContext, hloaded, hstages, Except.map]
  · simp only [source, Context.prerequisites, List.append_assoc]
  · exact (extends_alongPaths.loadRelations hloaded).trans (compileAnnotations_extends hstages)
  · exact (extends_alongPaths.sortKeys hsorted).trans
      (extends_alongPaths.returnedColumns hreturned)

/-! ## Placed stages -/

/-- The stages of a nested query stand among those for the subqueries of a context: those of
earlier subqueries in front, those of later ones behind. -/
def PlacedAt (config : Config) (ctx : Context) (n : Nested) (bindings : Document)
    (pipeline : List Stage) (k : Nat) : Prop :=
  ∃ front back, ctx.subqueryStages = front ++
      (.lookup n.model.collection bindings pipeline (config.subqueryField k) ::
        firstOrEmpty (config.subqueryField k) :: back) ∧
    Placed config 0 k front ∧ Placed config (k + 1) ctx.subqueryCount back

/-- A subquery that is compiled on the way to a context has its stages there. -/
theorem compileSubquery_placedAt {m : Model} {start final : Context} {wrap : Bool}
    {q : Query} {e : Value}
    (hstart : start = .ofModel m ∨ start = .ofSubquery m) (hinto : Extends c.config start ctx)
    (h : c.compileSubquery ctx wrap q = .ok (e, ctx')) (hout : Extends c.config ctx' final) :
    ∃ n bindings resolved, c.nested q = .ok n ∧
      c.outerBindings ctx 0 n.outer = .ok (bindings, resolved) ∧
      e = .string ("$" ++ c.config.subqueryField resolved.subqueryCount ++ "." ++ n.column.1) ∧
      PlacedAt c.config final n bindings (n.placed q wrap) resolved.subqueryCount := by
  obtain ⟨n, hn, hplaced⟩ := compileSubquery_ok h
  obtain ⟨bindings, resolved, hbindings, rfl, rfl⟩ := placeSubquery_ok hplaced
  refine ⟨n, bindings, resolved, hn, hbindings, rfl, ?_⟩
  obtain ⟨front, hfront, hfrontPlaced⟩ :=
    (hinto.trans (extends_alongPaths.outerBindings hbindings)).subqueries
  obtain ⟨back, hback, hbackPlaced⟩ := hout.subqueries
  have hnone : start.subqueryStages = [] ∧ start.subqueryCount = 0 := by
    rcases hstart with rfl | rfl <;> exact ⟨rfl, rfl⟩
  refine ⟨front, back, ?_, hnone.2 ▸ hfrontPlaced, hbackPlaced⟩
  rw [hback]
  simp [Context.pushStages, Context.nextSubquery, hfront, hnone.1]

/-- The variables of a nested query are bound for a row: where the row is as it came, but for
the results of subqueries. -/
def BoundFor (config : Config) (bindings vars : Document) (row : Value)
    (inner : Document) : Prop :=
  ∃ seen, (∀ key, (∀ k, config.subqueryField k ≠ key) → seen.field? key = row.field? key) ∧
    (row.items? = none → seen.items? = none) ∧
      Stage.bound ⟨seen, vars⟩ vars bindings = .ok inner

/-- For each row, the stages of a placed query run where its outer references are bound for the
row.  The field of the query then holds the first of the results, and still does behind computed
columns that leave it as it is. -/
theorem PlacedAt.rows {config : Config} {n : Nested} {bindings : Document}
    {pipeline : List Stage} {k : Nat}
    (h : PlacedAt config ctx n bindings pipeline k) (hdots : '.' ∉ config.subqueryPrefix.toList)
    (hplain : isOperatorName config.subqueryPrefix = false) {annotations : List Stage}
    (hannotations : ∀ s ∈ annotations, s.IsRowwise) {store : Store} {vars : Document}
    {rows docs : List Value}
    (hrun : Stage.runAll store (ctx.subqueryStages ++ annotations) vars rows = .ok docs) :
    List.Forall₂ (fun row doc => ∃ inner results, BoundFor config bindings vars row inner ∧
      Stage.runAll store pipeline inner (store.collection n.model.collection) = .ok results ∧
      ((∀ s ∈ annotations, s.Keeps (config.subqueryField k)) → results.length < 2 ^ 63 →
        doc.field? (config.subqueryField k) = some (firstResult results))) rows docs := by
  obtain ⟨front, back, hstages, hfront, hback⟩ := h
  have hfield : '.' ∉ (config.subqueryField k).toList := notMem_numbered (by decide) hdots k
  have hbackKeeps : ∀ s ∈ back, s.Keeps (config.subqueryField k) := by
    refine hback.keeps hdots fun j hj _ heq => ?_
    have hsame : j = k := numbered_injective config.subqueryPrefix heq
    omega
  have hsubqueries : ∀ s ∈ ctx.subqueryStages, s.IsRowwise := by
    rw [hstages]
    refine List.forall_mem_append.mpr ⟨hfront.isRowwise, List.forall_mem_cons.mpr ⟨?_, ?_⟩⟩
    · exact Stage.isRowwise_lookup _ _ _ _
    · exact List.forall_mem_cons.mpr ⟨Stage.isRowwise_set _, hback.isRowwise⟩
  have hall := List.forall_mem_append.mpr ⟨hsubqueries, hannotations⟩
  refine (Stage.forall₂_of_runAll hall hrun).imp fun row doc hrow => ?_
  obtain ⟨found, hfound, hbehind⟩ := Stage.runAll_row_append hsubqueries hrow
  rw [hstages] at hfound
  obtain ⟨seen, inner, results, hseen, hinner, hresults, hfirst⟩ :=
    field?_behind_subquery hfield (isOperatorName_numbered hplain k) hfront.isRowwise
    hbackKeeps hfound
  refine ⟨inner, results, ⟨seen, fun key hkey => ?_, fun hnone => hfront.items?_of_runAll hnone
    hseen, hinner⟩, hresults, fun hkeeps hcount => ?_⟩
  · exact Stage.field?_of_runAll (hfront.keeps hdots fun j _ _ => hkey j) hseen
  · rw [Stage.field?_of_runAll hkeeps hbehind, hfirst hcount]

end Compiler

end DocQuery
