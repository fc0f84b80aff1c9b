import DocQuery.Proofs.ClosedPlans
set_option autoImplicit false

/-!
# Proofs: compiled queries are closed

By induction on queries, filters and computed values:  what they are compiled to only refers to
the variables that the lookups around bind, and only uses operators that there are.  So a
compiled query never fails because something is unknown.
-/

namespace DocQuery

/-! ## Names of computed columns -/

mutual

/-- Whether no computed column of a query in a computed value is named like an operator. -/
def Expr.hasPlainNames : Expr → Bool
  | .literal _ => true
  | .field _ => true
  | .outer _ => true
  | .list items => Expr.havePlainNames items
  | .combined _ left right => left.hasPlainNames && right.hasPlainNames
  | .case branches otherwise => Expr.branchesHavePlainNames branches && otherwise.hasPlainNames
  | .condition filter => filter.hasPlainNames
  | .subquery q => q.hasPlainNames

/-- The same for several computed values. -/
def Expr.havePlainNames : List Expr → Bool
  | [] => true
  | e :: rest => e.hasPlainNames && Expr.havePlainNames rest

/-- The same for the branches of a case distinction. -/
def Expr.branchesHavePlainNames : List (Filter × Expr) → Bool
  | [] => true
  | (f, e) :: rest => f.hasPlainNames && e.hasPlainNames && Expr.branchesHavePlainNames rest

/-- The same for a filter. -/
def Filter.hasPlainNames : Filter → Bool
  | .lookup _ operand => operand.hasPlainNames
  | .and filters => Filter.havePlainNames filters
  | .or filters => Filter.havePlainNames filters
  | .not filter => filter.hasPlainNames
  | .exists q => q.hasPlainNames

/-- The same for several filters. -/
def Filter.havePlainNames : List Filter → Bool
  | [] => true
  | f :: rest => f.hasPlainNames && Filter.havePlainNames rest

/-- The same for a filter that there may be. -/
def Filter.conditionHasPlainNames : Option Filter → Bool
  | none => true
  | some f => f.hasPlainNames

/-- Whether no computed column, here or in the values that they are computed from, is named like
an operator. -/
def Query.columnsHavePlainNames : List (String × Expr) → Bool
  | [] => true
  | (name, e) :: rest =>
    !isOperatorName name && e.hasPlainNames && Query.columnsHavePlainNames rest

/-- Whether no computed column of a query, or of one inside it, is named like an operator. -/
def Query.hasPlainNames : Query → Bool
  | .mk _ filter annotations _ _ _ _ _ union =>
    Filter.conditionHasPlainNames filter && Query.columnsHavePlainNames annotations
      && Query.unionHasPlainNames union

/-- The same for several queries. -/
def Query.havePlainNames : List Query → Bool
  | [] => true
  | q :: rest => q.hasPlainNames && Query.havePlainNames rest

/-- The same for the queries that a query is united with. -/
def Query.unionHasPlainNames : Option (List Query × Bool) → Bool
  | none => true
  | some (others, _) => Query.havePlainNames others

end

theorem Query.plain_of_columnsHavePlainNames {annotations : List (String × Expr)}
    (h : columnsHavePlainNames annotations = true) :
    ∀ name ∈ annotations.map (·.1), isOperatorName name = false := by
  induction annotations with
  | nil => simp
  | cons a rest ih =>
    obtain ⟨name, e⟩ := a
    simp only [columnsHavePlainNames, Bool.and_eq_true, Bool.not_eq_true'] at h
    exact List.forall_mem_cons.mpr ⟨h.1.1, ih h.2⟩

namespace Compiler

open Context (IsTidy Extends)

variable {c : Compiler}

/-! ## Results -/

/-- What a part of a query is compiled to: a closed expression, in a tidy context. -/
def ClosedResult (c : Compiler) (ctx : Context) (e : Value) : Prop :=
  e.Closed (ctx.outerVariables c.config) ∧ ctx.IsTidy c.config

/-- The same for several expressions. -/
def ClosedResults (c : Compiler) (ctx : Context) (es : List Value) : Prop :=
  (∀ e ∈ es, Value.Closed (ctx.outerVariables c.config) e) ∧ ctx.IsTidy c.config

theorem closedResults_nil {ctx : Context} (h : ctx.IsTidy c.config) : ClosedResults c ctx [] :=
  ⟨by simp, h⟩

/-- What was closed in a context is closed in those that it grows to. -/
theorem closedResults_cons {ctx ctx' : Context} {e : Value} {es : List Value}
    (he : ClosedResult c ctx e) (hextends : Extends c.config ctx ctx')
    (hes : ClosedResults c ctx' es) : ClosedResults c ctx' (e :: es) :=
  ⟨List.forall_mem_cons.mpr ⟨he.1.mono hextends.outerVariables_subset, hes.1⟩, hes.2⟩

/-- A query by itself has no outer references, so its stages may not refer to any variables. -/
theorem outerVariables_eq_nil {ctx ctx' : Context}
    (h : Extends c.config ctx ctx') (hctx : ctx.outerRefs = none) :
    ctx'.outerVariables c.config = [] := by
  have hnone : ctx'.outerRefs = none := by
    have hinside := h.inside
    rwa [hctx, Option.isSome_none, Option.isSome_eq_false_iff,
      Option.isNone_iff_eq_none] at hinside
  simp [Context.outerVariables, Context.outerCount, hnone, Config.parentVariables]

theorem outerRef_lt {ctx ctx' : Context} {path : String} {index : Nat}
    (h : ctx.outerRef path = (some index, ctx')) : index < ctx'.outerCount := by
  unfold Context.outerRef at h
  split at h
  · simp at h
  · rename_i refs hrefs
    split at h
    · rename_i found hfound
      obtain ⟨hindex, rfl⟩ := Prod.mk.inj h
      obtain rfl := Option.some.inj hindex
      simpa [Context.outerCount, hrefs] using (List.findIdx?_eq_some_iff_findIdx_eq.mp hfound).1
    · obtain ⟨hindex, rfl⟩ := Prod.mk.inj h
      obtain rfl := Option.some.inj hindex
      simp [Context.outerCount]

theorem outerExpr_closed (hc : c.IsPlain) {ctx ctx' : Context} {path : String}
    {e : Value} {type : ValueType} (hctx : ctx.IsTidy c.config)
    (h : c.outerExpr ctx path = .ok ((e, type), ctx')) : ClosedResult c ctx' e := by
  obtain ⟨index, hindex, rfl⟩ := outerExpr_ok h
  refine ⟨.bound (hc.config.parentVariable index) ?_, hctx.outerRef hindex⟩
  exact Config.mem_parentVariables (Nat.zero_le _) (by simpa using outerRef_lt hindex)

/-- A subquery whose own stages are closed is read by a closed expression. -/
theorem placeSubquery_closed (hc : c.IsPlain) {ctx ctx' : Context} {m : Model}
    {outer : List String}
    {stages : List Stage} {field : String} {e : Value} (hctx : ctx.IsTidy c.config)
    (hstages : ∀ s ∈ stages, s.Closed (c.config.parentVariables 0 outer.length))
    (h : c.placeSubquery ctx m outer stages field = .ok (e, ctx')) : ClosedResult c ctx' e := by
  obtain ⟨bindings, after, hbindings, rfl, rfl⟩ := placeSubquery_ok h
  obtain ⟨hclosed, hnames, htidy⟩ := outerBindings_closed hc hctx hbindings
  have houtput := hc.config.subqueryField after.subqueryCount
  refine ⟨Value.closed_extend (Value.closed_column houtput) field, ?_⟩
  refine ⟨htidy.model, htidy.annotations, htidy.joins, ?_⟩
  refine List.forall_mem_append.mpr ⟨htidy.subqueries, List.forall_mem_cons.mpr ⟨?_, ?_⟩⟩
  · refine .lookup _ _ hclosed fun s hs => (hstages s hs).mono ?_
    rw [hnames]
    exact List.subset_append_left _ _
  · exact List.forall_mem_singleton.mpr (closed_firstOrEmpty houtput)

theorem onlyColumn_closed {vars : List String} {m : Model} {values : List String}
    {columns : List (String × Value)} {column : String × Value}
    (hcolumns : ClosedColumns vars columns)
    (h : onlyColumn m values columns = .ok column) :
    isOperatorName column.1 = false ∧ column.2.Closed vars := by
  unfold onlyColumn at h
  split at h
  · rw [← Except.ok.inj h]
    have hid : isOperatorName "_id" = false := rfl
    exact ⟨hid, Value.closed_column hid⟩
  · rw [← Except.ok.inj h]
    exact hcolumns _ (by simp)
  · simp at h

/-- A plan whose computed columns and filter are closed is closed. -/
theorem planWith_closed (hc : c.IsPlain)
    {ctx ctx' : Context} {q : Query} {p : Plan}
    {annotations : Context → Except CompileError (List Stage × Context)}
    {filter : Context → Except CompileError (Option Value × Context)}
    (hctx : ctx.IsTidy c.config) (h : c.planWith ctx q annotations filter = .ok (p, ctx'))
    (hnames : ∀ name ∈ q.annotations.map (·.1), isOperatorName name = false)
    (hannotations : ∀ {ctx ctx' : Context} {stages : List Stage}, ctx.IsTidy c.config →
      annotations ctx = .ok (stages, ctx') →
      (∀ s ∈ stages, s.Closed (ctx'.outerVariables c.config)) ∧ ctx'.IsTidy c.config)
    (hfilter : ∀ {ctx ctx' : Context} {condition : Option Value}, ctx.IsTidy c.config →
      filter ctx = .ok (condition, ctx') → ClosedResults c ctx' condition.toList)
    (hgrows : ∀ {ctx ctx' : Context} {condition : Option Value},
      filter ctx = .ok (condition, ctx') → Extends c.config ctx ctx') :
    ClosedPlan (ctx'.outerVariables c.config) p ∧ ctx'.IsTidy c.config := by
  obtain ⟨loaded, stages, computed, condition, filtered, keys, fields, sorted, columns, hloaded,
    hstages, hcondition, hsorted, hcolumns, rfl⟩ := planWith_ok h
  obtain ⟨hstages', hcomputed⟩ := hannotations (loadRelations_closed hc hctx hloaded) hstages
  obtain ⟨hcondition', hfiltered⟩ := hfilter hcomputed hcondition
  obtain ⟨hfields, hsorted'⟩ := sortKeys_closed hc hfiltered hsorted
  obtain ⟨hcolumns', htidy⟩ := returnedColumns_closed hc hnames hsorted' hcolumns
  have hlast : Extends c.config filtered ctx' :=
    (extends_alongPaths.sortKeys hsorted).trans (extends_alongPaths.returnedColumns hcolumns)
  have hall : Extends c.config computed ctx' := (hgrows hcondition).trans hlast
  refine ⟨?_, htidy⟩
  refine ⟨fun s hs => (hstages' s hs).mono hall.outerVariables_subset, ?_, ?_,
    closed_windowOf _ _, hcolumns'⟩
  · intro f hf
    exact (hcondition' f (Option.mem_toList.mpr hf)).mono hlast.outerVariables_subset
  · exact List.forall_mem_append.mpr ⟨closed_addColumns hfields, closed_sortBy keys⟩

/-- A nested query whose stages only refer to the variables of its outer references, and whose
column to none. -/
structure ClosedNested (config : Config) (n : Nested) : Prop where
  stages : ∀ s ∈ n.stages, s.Closed (config.parentVariables 0 n.outer.length)
  name : isOperatorName n.column.1 = false
  column : n.column.2.Closed []

theorem ClosedNested.placed {config : Config} {n : Nested}
    (h : ClosedNested config n) (q : Query)
    (wrap : Bool) : ∀ s ∈ n.placed q wrap, s.Closed
        (config.parentVariables 0 n.outer.length) := by
  unfold Nested.placed
  split
  · exact closed_wrapped _ h.stages h.name (h.column.mono (List.nil_subset _))
  · exact h.stages

/-- The plan of a nested query whose computed columns and filter are closed is closed. -/
theorem nested_plan_closed_of (hc : c.IsPlain) {q : Query} {n : Nested}
    (hnames : ∀ name ∈ q.annotations.map (·.1), isOperatorName name = false)
    (hannotations : ∀ {ctx ctx' : Context} {stages : List Stage}, ctx.IsTidy c.config →
      c.compileAnnotations [] ctx q.annotations = .ok (stages, ctx') →
      (∀ s ∈ stages, s.Closed (ctx'.outerVariables c.config)) ∧ ctx'.IsTidy c.config)
    (hfilter : ∀ {ctx ctx' : Context} {condition : Option Value}, ctx.IsTidy c.config →
      c.compileCondition ctx q.filter = .ok (condition, ctx') →
      ClosedResults c ctx' condition.toList)
    (hn : c.nested q = .ok n) :
    ∃ p inner, c.planWith (.ofSubquery n.model) q
      (fun ctx => c.compileAnnotations [] ctx q.annotations)
      (fun ctx => c.compileCondition ctx q.filter) = .ok (p, inner) ∧
      c.assembleWith inner q { p with columns := [n.column] } (c.compileUnion q.union) =
        .ok n.stages ∧
      n.outer = inner.outerRefs.getD [] ∧ inner.IsTidy c.config ∧
      ClosedPlan (inner.outerVariables c.config) { p with columns := [n.column] } := by
  obtain ⟨p, inner, hm, hplan, hcolumn, hstages, houter⟩ := nested_ok hn
  have hmodel : n.model.hasPlainNames = true := by
    obtain ⟨hfind, -⟩ := (queryableModel_eq_ok_iff c _ n.model).mp hm
    exact hc.models n.model (List.mem_of_find?_eq_some hfind)
  obtain ⟨hclosed, htidy⟩ := planWith_closed hc (Context.isTidy_ofSubquery hmodel) hplan hnames
    hannotations hfilter fun h => compileCondition_extends h
  have hvalue := onlyColumn_closed hclosed.columns hcolumn
  exact ⟨p, inner, hplan, hstages, houter, htidy, hclosed.annotations, hclosed.filter,
    hclosed.order, hclosed.window, List.forall_mem_singleton.mpr hvalue⟩

/-- A nested query whose plan and united queries are closed is closed. -/
theorem ClosedPlan.closedNested (hc : c.IsPlain) {q : Query} {n : Nested} {p : Plan}
    {inner : Context}
    (hclosed : ClosedPlan (inner.outerVariables c.config) { p with columns := [n.column] })
    (htidy : inner.IsTidy c.config) (houter : n.outer = inner.outerRefs.getD [])
    (hstages : c.assembleWith inner q { p with columns := [n.column] }
      (c.compileUnion q.union) = .ok n.stages)
    (hothers : ∀ added, c.compileUnion q.union = .ok added → ∀ s ∈ added, s.Closed []) :
    ClosedNested c.config n := by
  have hassembled := assembleWith_closed hc htidy hclosed hothers hstages
  obtain ⟨hname, hvalue⟩ := hclosed.columns n.column List.mem_cons_self
  exact ⟨houter ▸ hassembled, hname, hvalue⟩

/-- A nested query whose computed columns, filter and united queries are closed is closed. -/
theorem nested_closed_of (hc : c.IsPlain) {q : Query} {n : Nested}
    (hnames : ∀ name ∈ q.annotations.map (·.1), isOperatorName name = false)
    (hannotations : ∀ {ctx ctx' : Context} {stages : List Stage}, ctx.IsTidy c.config →
      c.compileAnnotations [] ctx q.annotations = .ok (stages, ctx') →
      (∀ s ∈ stages, s.Closed (ctx'.outerVariables c.config)) ∧ ctx'.IsTidy c.config)
    (hfilter : ∀ {ctx ctx' : Context} {condition : Option Value}, ctx.IsTidy c.config →
      c.compileCondition ctx q.filter = .ok (condition, ctx') →
      ClosedResults c ctx' condition.toList)
    (hothers : ∀ added, c.compileUnion q.union = .ok added → ∀ s ∈ added, s.Closed [])
    (hn : c.nested q = .ok n) : ClosedNested c.config n := by
  obtain ⟨p, inner, -, hstages, houter, htidy, hclosed⟩ :=
    nested_plan_closed_of hc hnames hannotations hfilter hn
  exact hclosed.closedNested hc htidy houter hstages hothers

/-! ## Trees -/

mutual

theorem compileFilter_closed (hc : c.IsPlain) {ctx ctx' : Context} (f : Filter) {e : Value}
    (hf : f.hasPlainNames = true) (hctx : ctx.IsTidy c.config)
    (h : c.compileFilter ctx f = .ok (e, ctx')) : ClosedResult c ctx' e := by
  match f with
  | .lookup path operand =>
    rw [Filter.hasPlainNames] at hf
    by_cases hcomputed : isComputed operand = true
    · obtain ⟨r, after, w, type, hr, hbuild, hw⟩ := compileFilter_computed_ok hcomputed h
      obtain ⟨htarget, htidy⟩ := resolveLookup_closed hc hctx hr
      obtain ⟨hclosed, htidy'⟩ := compileExpr_closed hc operand hf (htidy.noteLookup r) hw
      exact ⟨Lookup.closed_buildOn htarget hclosed hbuild, htidy'⟩
    · match operand with
      | .literal v =>
        obtain ⟨r, after, w, hr, hbuild, hw, rfl⟩ := compileFilter_literal_ok h
        obtain ⟨htarget, htidy⟩ := resolveLookup_closed hc hctx hr
        exact ⟨Lookup.closed_buildOn htarget (Lookup.closed_literal hw) hbuild,
          htidy.noteLookup r⟩
      | .list items =>
        rw [Expr.hasPlainNames] at hf
        obtain ⟨r, after, vs, hr, hbuild, -, hvs⟩ := compileFilter_list_ok h
        obtain ⟨htarget, htidy⟩ := resolveLookup_closed hc hctx hr
        obtain ⟨hclosed, htidy'⟩ := compileItems_closed hc items hf (htidy.noteLookup r) hvs
        exact ⟨Lookup.closed_buildOn htarget (.array hclosed) hbuild, htidy'⟩
      | .subquery q =>
        rw [Expr.hasPlainNames] at hf
        obtain ⟨r, after, w, hr, hbuild, hw⟩ := compileFilter_subquery_ok h
        obtain ⟨htarget, htidy⟩ := resolveLookup_closed hc hctx hr
        obtain ⟨hclosed, htidy'⟩ := compileSubquery_closed hc q hf (htidy.noteLookup r) hw
        exact ⟨Lookup.closed_buildOn htarget hclosed hbuild, htidy'⟩
      | .field _ | .outer _ | .combined _ _ _ | .case _ _ | .condition _ =>
        exact absurd rfl hcomputed
  | .and filters =>
    rw [Filter.hasPlainNames] at hf
    obtain ⟨es, hes, rfl⟩ := compileFilter_and_ok h
    obtain ⟨hclosed, htidy⟩ := compileFilters_closed hc filters hf hctx hes
    exact ⟨Value.closed_conjunction hclosed, htidy⟩
  | .or filters =>
    rw [Filter.hasPlainNames] at hf
    obtain ⟨es, inside, hes, rfl, rfl⟩ := compileFilter_or_ok h
    obtain ⟨hclosed, htidy⟩ := compileFilters_closed hc filters hf hctx.enter hes
    exact ⟨Value.closed_disjunction hclosed, htidy.leave⟩
  | .not filter =>
    rw [Filter.hasPlainNames] at hf
    obtain ⟨v, inside, hv, rfl, rfl⟩ := compileFilter_not_ok h
    obtain ⟨hclosed, htidy⟩ := compileFilter_closed hc filter hf hctx.enter hv
    exact ⟨Value.closed_negation hclosed, htidy.leave⟩
  | .exists q =>
    rw [Filter.hasPlainNames] at hf
    obtain ⟨v, hv, rfl⟩ := compileFilter_exists_ok h
    obtain ⟨hclosed, htidy⟩ := compileSubquery_closed hc q hf hctx hv
    exact ⟨Value.closed_nullCheck hclosed false, htidy⟩

theorem compileFilters_closed (hc : c.IsPlain) {ctx ctx' : Context} (filters : List Filter)
    {es : List Value}
    (hfilters : Filter.havePlainNames filters = true) (hctx : ctx.IsTidy c.config)
    (h : c.compileFilters ctx filters = .ok (es, ctx')) : ClosedResults c ctx' es := by
  match filters with
  | [] =>
    rw [compileFilters] at h
    obtain ⟨rfl, rfl⟩ := Prod.mk.inj (Except.ok.inj h)
    exact closedResults_nil hctx
  | f :: rest =>
    rw [Filter.havePlainNames, Bool.and_eq_true] at hfilters
    obtain ⟨v, after, others, hv, hrest, rfl⟩ := compileFilters_cons_ok h
    have hfirst := compileFilter_closed hc f hfilters.1 hctx hv
    exact closedResults_cons hfirst (compileFilters_extends after rest hrest)
      (compileFilters_closed hc rest hfilters.2 hfirst.2 hrest)

theorem compileItems_closed (hc : c.IsPlain) {ctx ctx' : Context} {r : Resolved}
    (items : List Expr)
    {es : List Value} (hitems : Expr.havePlainNames items = true) (hctx : ctx.IsTidy c.config)
    (h : c.compileItems r ctx items = .ok (es, ctx')) : ClosedResults c ctx' es := by
  match items with
  | [] =>
    rw [compileItems] at h
    obtain ⟨rfl, rfl⟩ := Prod.mk.inj (Except.ok.inj h)
    exact closedResults_nil hctx
  | item :: rest =>
    rw [Expr.havePlainNames, Bool.and_eq_true] at hitems
    obtain ⟨v, after, others, hrest, rfl, hitem⟩ := compileItems_cons_ok h
    have hfirst : ClosedResult c after v := by
      rcases hitem with ⟨w, -, hw, rfl⟩ | ⟨type, hexpr⟩
      · exact ⟨Lookup.closed_scalarLiteral hw, hctx⟩
      · exact compileExpr_closed hc item hitems.1 hctx hexpr
    exact closedResults_cons hfirst (compileItems_extends after rest hrest)
      (compileItems_closed hc rest hitems.2 hfirst.2 hrest)

theorem compileExpr_closed (hc : c.IsPlain) {ctx ctx' : Context} (body : Expr) {e : Value}
    {type : ValueType} (hbody : body.hasPlainNames = true) (hctx : ctx.IsTidy c.config)
    (h : c.compileExpr ctx body = .ok ((e, type), ctx')) : ClosedResult c ctx' e := by
  match body with
  | .literal v =>
    rw [compileExpr] at h
    simp only [Except.ok.injEq, Prod.mk.injEq] at h
    obtain ⟨⟨rfl, -⟩, rfl⟩ := h
    exact ⟨Value.closed_protectAlone v, hctx⟩
  | .field path =>
    rw [compileExpr] at h
    obtain ⟨hclosed, htidy, -⟩ := fieldExpr_closed hc hctx h
    exact ⟨hclosed, htidy⟩
  | .outer path =>
    rw [compileExpr] at h
    exact outerExpr_closed hc hctx h
  | .list items =>
    rw [Expr.hasPlainNames] at hbody
    obtain ⟨es, hes, rfl⟩ := compileExpr_list_ok h
    obtain ⟨hclosed, htidy⟩ := compileExprs_closed hc items hbody hctx hes
    exact ⟨.array hclosed, htidy⟩
  | .combined op left right =>
    rw [Expr.hasPlainNames, Bool.and_eq_true] at hbody
    obtain ⟨a, s, after, b, t, ha, hb, rfl⟩ := compileExpr_combined_ok h
    obtain ⟨hleft, htidy⟩ := compileExpr_closed hc left hbody.1 hctx ha
    obtain ⟨hright, htidy'⟩ := compileExpr_closed hc right hbody.2 htidy hb
    have hsubset := (compileExpr_extends after right hb).outerVariables_subset
    exact ⟨Value.closed_combine op (hleft.mono hsubset) hright, htidy'⟩
  | .case branches otherwise =>
    rw [Expr.hasPlainNames, Bool.and_eq_true] at hbody
    obtain ⟨bs, after, v, hbs, hv, rfl⟩ := compileExpr_case_ok h
    obtain ⟨parts, rfl, hcases, hbodies, htidy⟩ := compileBranches_closed hc branches
      hbody.1 hctx hbs
    obtain ⟨hotherwise, htidy'⟩ := compileExpr_closed hc otherwise hbody.2 htidy hv
    have hsubset := (compileExpr_extends after otherwise hv).outerVariables_subset
    refine ⟨Value.closed_caseDistinction (fun b hb => ?_) (fun b hb => ?_) hotherwise, htidy'⟩
    · exact (hcases b hb).mono hsubset
    · exact (hbodies b hb).mono hsubset
  | .condition filter =>
    rw [Expr.hasPlainNames] at hbody
    exact compileFilter_closed hc filter hbody hctx (compileExpr_condition_ok h)
  | .subquery q =>
    rw [Expr.hasPlainNames] at hbody
    exact compileSubquery_closed hc q hbody hctx (compileExpr_subquery_ok h)

theorem compileExprs_closed (hc : c.IsPlain) {ctx ctx' : Context} (items : List Expr)
    {es : List Value} (hitems : Expr.havePlainNames items = true) (hctx : ctx.IsTidy c.config)
    (h : c.compileExprs ctx items = .ok (es, ctx')) : ClosedResults c ctx' es := by
  match items with
  | [] =>
    rw [compileExprs] at h
    obtain ⟨rfl, rfl⟩ := Prod.mk.inj (Except.ok.inj h)
    exact closedResults_nil hctx
  | item :: rest =>
    rw [Expr.havePlainNames, Bool.and_eq_true] at hitems
    obtain ⟨v, type, after, others, hv, hrest, rfl⟩ := compileExprs_cons_ok h
    have hfirst := compileExpr_closed hc item hitems.1 hctx hv
    exact closedResults_cons hfirst (compileExprs_extends after rest hrest)
      (compileExprs_closed hc rest hitems.2 hfirst.2 hrest)

theorem compileBranches_closed (hc : c.IsPlain) {ctx ctx' : Context}
    (branches : List (Filter × Expr))
    {es : List Value} (hbranches : Expr.branchesHavePlainNames branches = true)
    (hctx : ctx.IsTidy c.config) (h : c.compileBranches ctx branches = .ok (es, ctx')) :
    ∃ parts : List (Value × Value), es = parts.map (fun b => Value.branch b.1 b.2) ∧
      (∀ b ∈ parts, Value.Closed (ctx'.outerVariables c.config) b.1) ∧
      (∀ b ∈ parts, Value.Closed (ctx'.outerVariables c.config) b.2) ∧
          ctx'.IsTidy c.config := by
  match branches with
  | [] =>
    rw [compileBranches] at h
    obtain ⟨rfl, rfl⟩ := Prod.mk.inj (Except.ok.inj h)
    exact ⟨[], rfl, by simp, by simp, hctx⟩
  | (f, body) :: rest =>
    rw [Expr.branchesHavePlainNames, Bool.and_eq_true, Bool.and_eq_true] at hbranches
    obtain ⟨condition, after, v, type, after', others, hf, hv, hrest, rfl⟩ :=
      compileBranches_cons_ok h
    obtain ⟨hcondition, htidy⟩ := compileFilter_closed hc f hbranches.1.1 hctx hf
    obtain ⟨hbody, htidy'⟩ := compileExpr_closed hc body hbranches.1.2 htidy hv
    obtain ⟨parts, rfl, hcases, hbodies, hlast⟩ :=
      compileBranches_closed hc rest hbranches.2 htidy' hrest
    have hextends : Extends c.config after' ctx' := compileBranches_extends after' rest hrest
    have hextends' : Extends c.config after ctx' :=
      (compileExpr_extends after body hv).trans hextends
    refine ⟨(condition, v) :: parts, rfl, ?_, ?_, hlast⟩
    · exact List.forall_mem_cons.mpr ⟨hcondition.mono hextends'.outerVariables_subset, hcases⟩
    · exact List.forall_mem_cons.mpr ⟨hbody.mono hextends.outerVariables_subset, hbodies⟩

/-- Computed columns are closed, with those that wait for the next stage. -/
theorem compileAnnotations_closed (hc : c.IsPlain) {ctx ctx' : Context} {pending : Document}
    (annotations : List (String × Expr)) {stages : List Stage}
    (hannotations : Query.columnsHavePlainNames annotations = true) (hctx : ctx.IsTidy c.config)
    (hpending : ∀ m ∈ pending, Value.Closed (ctx.outerVariables c.config) m.2)
    (h : c.compileAnnotations pending ctx annotations = .ok (stages, ctx')) :
    (∀ s ∈ stages, s.Closed (ctx'.outerVariables c.config)) ∧ ctx'.IsTidy c.config := by
  match annotations with
  | [] =>
    rw [compileAnnotations] at h
    obtain ⟨rfl, rfl⟩ := Prod.mk.inj (Except.ok.inj h)
    exact ⟨closed_addColumns hpending, hctx⟩
  | (name, body) :: rest =>
    simp only [Query.columnsHavePlainNames, Bool.and_eq_true, Bool.not_eq_true'] at hannotations
    obtain ⟨v, type, after, hv, hrest⟩ := compileAnnotations_cons_ok h
    obtain ⟨hclosed, htidy⟩ := compileExpr_closed hc body hannotations.1.2 hctx hv
    have hnext := htidy.addAnnotation hannotations.1.1 type
    have hsubset := (compileExpr_extends ctx body hv).outerVariables_subset
    rcases hrest with ⟨others, hothers, rfl⟩ | ⟨-, hothers⟩
    · have hstart : ∀ m ∈ [(name, v)], Value.Closed
          ((after.clearRefs.addAnnotation name type).outerVariables c.config) m.2 :=
        List.forall_mem_singleton.mpr hclosed
      obtain ⟨hstages, hlast⟩ := compileAnnotations_closed hc rest hannotations.2 hnext
        hstart hothers
      have hextends : Extends c.config ctx ctx' :=
        (compileExpr_extends ctx body hv).trans
          ((Extends.addAnnotation after name type).trans (compileAnnotations_extends hothers))
      refine ⟨List.forall_mem_cons.mpr ⟨.addFields fun m hm => ?_, hstages⟩, hlast⟩
      exact (hpending m hm).mono hextends.outerVariables_subset
    · refine compileAnnotations_closed hc rest hannotations.2 hnext (fun m hm => ?_) hothers
      rcases Document.mem_insert hm with hold | rfl
      · exact (hpending m hold).mono hsubset
      · exact hclosed

theorem compileCondition_closed (hc : c.IsPlain) {ctx ctx' : Context} (f : Option Filter)
    {condition : Option Value}
    (hf : Filter.conditionHasPlainNames f = true) (hctx : ctx.IsTidy c.config)
    (h : c.compileCondition ctx f = .ok (condition, ctx')) :
    ClosedResults c ctx' condition.toList := by
  match f with
  | none =>
    rw [compileCondition] at h
    obtain ⟨rfl, rfl⟩ := Prod.mk.inj (Except.ok.inj h)
    exact closedResults_nil hctx
  | some f =>
    rw [Filter.conditionHasPlainNames] at hf
    obtain ⟨v, hv, rfl⟩ := compileCondition_some_ok h
    obtain ⟨hclosed, htidy⟩ := compileFilter_closed hc f hf hctx hv
    exact ⟨List.forall_mem_singleton.mpr hclosed, htidy⟩

theorem compileOthers_closed (hc : c.IsPlain) (others : List Query) {stages : List Stage}
    (hothers : Query.havePlainNames others = true) (h : c.compileOthers others = .ok stages) :
    ∀ s ∈ stages, s.Closed [] := by
  match others with
  | [] =>
    rw [compileOthers] at h
    obtain rfl := Except.ok.inj h
    simp
  | q :: rest =>
    rw [Query.havePlainNames, Bool.and_eq_true] at hothers
    obtain ⟨a, added, ha, hadded, rfl⟩ := compileOthers_cons_ok h
    have hfirst := compile_closed hc q hothers.1 ha
    exact List.forall_mem_cons.mpr
      ⟨.unionWith a.collection hfirst, compileOthers_closed hc rest hothers.2 hadded⟩

theorem compileUnion_closed (hc : c.IsPlain) (union : Option (List Query × Bool))
    {stages : List Stage}
    (hunion : Query.unionHasPlainNames union = true) (h : c.compileUnion union = .ok stages) :
    ∀ s ∈ stages, s.Closed [] := by
  match union with
  | none =>
    rw [compileUnion] at h
    obtain rfl := Except.ok.inj h
    simp
  | some (others, keepAll) =>
    rw [Query.unionHasPlainNames] at hunion
    rw [compileUnion] at h
    exact compileOthers_closed hc others hunion h

/-- The stages of a query by itself refer to no variables. -/
theorem compile_closed (hc : c.IsPlain) (q : Query) {a : Aggregation}
    (hq : q.hasPlainNames = true)
    (h : c.compile q = .ok a) : ∀ s ∈ a.pipeline, s.Closed [] := by
  match q with
  | .mk model filter annotations values orderBy offset limit related union =>
    simp only [Query.hasPlainNames, Bool.and_eq_true] at hq
    rw [compile] at h
    obtain ⟨m, p, inner, hm, hplan, hstages, -⟩ := queryWith_ok h
    have hmodel : m.hasPlainNames = true := by
      obtain ⟨hfind, -⟩ := (queryableModel_eq_ok_iff c _ m).mp hm
      exact hc.models m (List.mem_of_find?_eq_some hfind)
    have hnames := Query.plain_of_columnsHavePlainNames hq.1.2
    obtain ⟨hclosed, htidy⟩ := planWith_closed hc (Context.isTidy_ofModel hmodel) hplan hnames
      (fun hctx h => compileAnnotations_closed hc annotations hq.1.2 hctx (by simp) h)
      (fun hctx h => compileCondition_closed hc filter hq.1.1 hctx h)
      fun h => compileCondition_extends h
    have hnone : inner.outerVariables c.config = [] :=
      outerVariables_eq_nil (plan_extends hplan) rfl
    rw [← hnone]
    exact assembleWith_closed hc htidy hclosed
      (fun added hadded => compileUnion_closed hc union hq.2 hadded) hstages

/-- A subquery is read by a closed expression, and its stages refer to the variables of its
outer references. -/
theorem compileSubquery_closed (hc : c.IsPlain) {ctx ctx' : Context} {wrap : Bool}
    (q : Query) {e : Value} (hq : q.hasPlainNames = true) (hctx : ctx.IsTidy c.config)
    (h : c.compileSubquery ctx wrap q = .ok (e, ctx')) : ClosedResult c ctx' e := by
  match q with
  | .mk model filter annotations values orderBy offset limit related union =>
    simp only [Query.hasPlainNames, Bool.and_eq_true] at hq
    obtain ⟨n, hn, hplaced⟩ := compileSubquery_ok h
    have hclosed := nested_closed_of hc
      (q := .mk model filter annotations values orderBy offset limit related union)
      (Query.plain_of_columnsHavePlainNames hq.1.2)
      (fun hctx h => compileAnnotations_closed hc annotations hq.1.2 hctx (by simp) h)
      (fun hctx h => compileCondition_closed hc filter hq.1.1 hctx h)
      (fun added hadded => compileUnion_closed hc union hq.2 hadded) hn
    exact placeSubquery_closed hc hctx (hclosed.placed _ wrap) hplaced

end

/-! ## Runs -/

/-- Where no name of a schema and no computed column of a query is named like an operator, the
compiled query never fails because a variable or an operator is unknown, whatever the documents
and the literals are. -/
theorem compile_runs_defined {schema : Schema} {q : Query} {a : Aggregation}
    (hschema : ∀ m ∈ schema.models, m.hasPlainNames = true) (hq : q.hasPlainNames = true)
    (h : (Compiler.mk schema .usual).compile q = .ok a) (store : Store) (name : String) :
    store.aggregate a.collection a.pipeline ≠ .error (.undefinedVariable name) ∧
      store.aggregate a.collection a.pipeline ≠ .error (.unknownOperator name) := by
  have hc : (Compiler.mk schema .usual).IsPlain := ⟨hschema, Config.usual_isPlain⟩
  have hnone : Document.Binds [] [] := by simp [Document.Binds]
  have hdefined : Defined (store.aggregate a.collection a.pipeline) :=
    Stage.Closed.defined_runAll (compile_closed hc q hq h) store hnone _
  constructor
  · intro hrun
    simpa [ExecError.isOrdinary] using hdefined _ hrun
  · intro hrun
    simpa [ExecError.isOrdinary] using hdefined _ hrun

/-- Authors and their books. -/
def libraryModels : List Model :=
  [⟨"Author", some "authors", false,
      [Model.primaryKey, ⟨"name", .scalar .string, true, none⟩]⟩,
    ⟨"Book", some "books", false,
      [Model.primaryKey, ⟨"author", .foreignKey "Author" none none, true, none⟩,
        ⟨"title", .scalar .string, true, none⟩]⟩]

/-- Authors of whom there is a book with their name and an odd title, with a computed column
that is no path, united with themselves. -/
def oddAuthors : Query :=
  let books := Query.mk "Book"
    (some (.and [.lookup "author__name" (.outer "name"),
      .lookup "title" (.literal (.string "$$x"))]))
    [] ["title"] [] none none [] none
  let authors := Query.mk "Author" (some (.exists books))
    [("mark", .literal (.object [("$add", .string "$name")]))] [] [] none none [] none
  authors.unite [authors] false

/-- The query for odd authors runs without unknown names on every store. -/
theorem oddAuthors_run_defined :
    ∃ a, (Compiler.mk ⟨libraryModels⟩ .usual).compile oddAuthors = .ok a ∧
      ∀ (store : Store) (name : String),
        store.aggregate a.collection a.pipeline ≠ .error (.undefinedVariable name) ∧
          store.aggregate a.collection a.pipeline ≠ .error (.unknownOperator name) := by
  have hschema : ∀ m ∈ (Schema.mk libraryModels).models, m.hasPlainNames = true := by decide
  have hquery : oddAuthors.hasPlainNames = true := by decide
  exact ⟨_, rfl, compile_runs_defined hschema hquery rfl⟩

/-- The name of a field matters, too: it is the name of a returned column, and of a key where
equal documents are dropped. -/
theorem operatorField_runs_unknown :
    ∃ (m : Model) (q : Query) (a : Aggregation) (store : Store),
      (isOperatorName m.collection = false ∧ '.' ∉ m.collection.toList) ∧
      (∀ column ∈ m.columns, isOperatorName column = false ∧ '.' ∉ column.toList) ∧
      q.hasPlainNames = true ∧ (Compiler.mk ⟨[m]⟩ .usual).compile q = .ok a ∧
      store.aggregate a.collection a.pipeline = .error (.unknownOperator "$f") := by
  refine ⟨⟨"A", some "a", false, [⟨"$f", .scalar .integer, false, some "f"⟩]⟩,
    (Query.all "A" |>.withValues ["$f"]).unite [Query.all "A" |>.withValues ["$f"]] false, _,
    ⟨[("a", [.object [("_id", .int 7), ("f", .int 1)]])]⟩, by
      decide, by decide, by decide, rfl, ?_⟩
  rfl

end Compiler

end DocQuery
