import DocQuery.Proofs.Inversion
set_option autoImplicit false

/-!
# Proofs: contexts only grow

While a query is compiled, its context keeps what it has and gets more: outer references behind
those that there are, computed columns, and stages for subqueries, which are numbered in order.
-/

namespace DocQuery

/-- Stages that were placed for the subqueries from one number up to another one. -/
inductive Placed (config : Config) : Nat → Nat → List Stage → Prop where
  | nil (n : Nat) : Placed config n n []
  | snoc {first next : Nat} {stages : List Stage} (source : String) (bindings : Document)
    (pipeline : List Stage) (h : Placed config first next stages) :
    Placed config first (next + 1) (stages ++
      [.lookup source bindings pipeline (config.subqueryField next),
        Compiler.firstOrEmpty (config.subqueryField next)])

theorem Placed.append {config : Config} {first middle last : Nat} {stages others : List Stage}
    (h : Placed config first middle stages) (h' : Placed config middle last others) :
    Placed config first last (stages ++ others) := by
  induction h' with
  | nil => simpa using h
  | snoc source bindings pipeline _ ih =>
    rw [← List.append_assoc]
    exact .snoc source bindings pipeline ih

namespace Context

/-- The number of outer references. -/
def outerCount (ctx : Context) : Nat := (ctx.outerRefs.getD []).length

theorem findType_setType_isSome {types : List (String × ValueType)} {name : String}
    (h : (findType types name).isSome = true) (other : String) (type : ValueType) :
    (findType (setType types other type) name).isSome = true := by
  by_cases hname : other = name
  · rw [hname, findType_setType_self]
    rfl
  · rwa [findType_setType_ne types type hname]

/-- A context that another one grew to. -/
structure Extends (config : Config) (ctx ctx' : Context) : Prop where
  model : ctx'.model = ctx.model
  /-- a query by itself gets no outer references -/
  inside : ctx'.outerRefs.isSome = ctx.outerRefs.isSome
  /-- outer references keep their numbers -/
  outer : ctx.outerRefs.getD [] <+: ctx'.outerRefs.getD []
  computed : ∀ name, (ctx.computedType? name).isSome = true →
    (ctx'.computedType? name).isSome = true
  subqueries : ∃ stages, ctx'.subqueryStages = ctx.subqueryStages ++ stages ∧
    Placed config ctx.subqueryCount ctx'.subqueryCount stages

namespace Extends

variable {config : Config} {ctx ctx' ctx'' : Context}

/-- A change of the joins or of what is known of computed columns. -/
theorem of_eq (hmodel : ctx'.model = ctx.model) (houter : ctx'.outerRefs = ctx.outerRefs)
    (hcomputed : ∀ name, (ctx.computedType? name).isSome = true →
      (ctx'.computedType? name).isSome = true)
    (hstages : ctx'.subqueryStages = ctx.subqueryStages)
    (hcount : ctx'.subqueryCount = ctx.subqueryCount) : Extends config ctx ctx' where
  model := hmodel
  inside := by rw [houter]
  outer := houter ▸ List.prefix_refl _
  computed := hcomputed
  subqueries := ⟨[], by rw [hstages, List.append_nil], by rw [hcount]; exact .nil _⟩

theorem refl (ctx : Context) : Extends config ctx ctx := of_eq rfl rfl (fun _ h => h) rfl rfl

theorem trans (h : Extends config ctx ctx') (h' : Extends config ctx' ctx'') :
    Extends config ctx ctx'' where
  model := h'.model.trans h.model
  inside := h'.inside.trans h.inside
  outer := h.outer.trans h'.outer
  computed := fun name hname => h'.computed name (h.computed name hname)
  subqueries := by
    obtain ⟨stages, hstages, hplaced⟩ := h.subqueries
    obtain ⟨others, hothers, hplaced'⟩ := h'.subqueries
    exact ⟨stages ++ others, by rw [hothers, hstages, List.append_assoc],
      hplaced.append hplaced'⟩

theorem refer (ctx : Context) (name : String) : Extends config ctx (ctx.refer name) := by
  unfold Context.refer
  split <;> exact of_eq rfl rfl (fun _ h => h) rfl rfl

theorem promote (ctx : Context) (indices : List Nat) :
    Extends config ctx (ctx.promote indices) := by
  induction indices generalizing ctx with
  | nil => exact refl ctx
  | cons index rest ih =>
    have hfirst : Extends config ctx (ctx.promoteAt index) :=
      of_eq rfl rfl (fun _ h => h) rfl rfl
    exact hfirst.trans (ih (ctx.promoteAt index))

theorem join (ctx : Context) (path : String) (parent : Option String) (f : Field)
    (target : Model) (k : Field) : Extends config ctx (ctx.join path parent f target k).2 := by
  unfold Context.join
  split
  · dsimp only
    split <;> exact of_eq rfl rfl (fun _ h => h) rfl rfl
  · exact of_eq rfl rfl (fun _ h => h) rfl rfl

theorem enter (ctx : Context) : Extends config ctx ctx.enter :=
  of_eq rfl rfl (fun _ h => h) rfl rfl

theorem leave (ctx : Context) : Extends config ctx ctx.leave :=
  of_eq rfl rfl (fun _ h => h) rfl rfl

theorem noteLookup (r : Resolved) (ctx : Context) :
    Extends config ctx (Compiler.noteLookup r ctx) := by
  unfold Compiler.noteLookup
  split
  · exact promote ctx r.joins
  · exact refl ctx

theorem addAnnotation (ctx : Context) (name : String) (type : ValueType) :
    Extends config ctx (ctx.clearRefs.addAnnotation name type) :=
  of_eq rfl rfl (fun _ h => findType_setType_isSome h name type) rfl rfl

theorem outerRef {path : String} {index : Option Nat} (h : ctx.outerRef path = (index, ctx')) :
    Extends config ctx ctx' := by
  unfold Context.outerRef at h
  split at h
  · exact (Prod.mk.inj h).2 ▸ refl ctx
  · rename_i refs hrefs
    split at h
    · exact (Prod.mk.inj h).2 ▸ refl ctx
    · obtain ⟨-, rfl⟩ := Prod.mk.inj h
      exact ⟨rfl, by simp [hrefs], by simp [hrefs], fun _ h => h, [], by simp, .nil _⟩

end Extends

end Context

namespace Compiler

open Context (Extends)

variable {c : Compiler} {ctx ctx' : Context} {path : String} {e : Value} {type : ValueType}

/-! ## Paths -/

theorem follow_extends {place : Place} {names : List String} {joins : List Nat}
    {ending : Ending}
    (h : c.follow path place names joins ctx = (.ok ending, ctx')) :
        Extends c.config ctx ctx' := by
  induction names generalizing place joins ctx with
  | nil =>
    cases place with
    | document m joined relation => simp [follow] at h
    | value a =>
      obtain ⟨-, rfl⟩ := follow_value_nil_ok h
      exact .refl _
  | cons name rest ih =>
    cases place with
    | value a =>
      rcases follow_value_cons_ok h with ⟨next, -, hnext⟩ | ⟨l, -, -, rfl⟩
      · exact ih hnext
      · exact .refl _
    | document m joined relation =>
      obtain ⟨name', rest', f, hnames, -, hcase⟩ := follow_document_ok h
      obtain ⟨rfl, rfl⟩ := List.cons.inj hnames
      rcases hcase with ⟨-, hcolumn⟩ | ⟨_, _, _, target, k, -, -, -, -, hjoin⟩
      · exact ih hcolumn
      · exact (Extends.join ctx _ joined f target k).trans (ih hjoin)

theorem followPath_extends {ending : Ending} (h : c.followPath ctx path = (.ok ending, ctx')) :
    Extends c.config ctx ctx' := by
  obtain ⟨name, rest, -, -, hcase⟩ := followPath_ok h
  rcases hcase with ⟨type, -, hfollow⟩ | ⟨-, hfollow⟩
  · exact (Extends.refer ctx name).trans (follow_extends hfollow)
  · exact follow_extends hfollow

theorem fieldExpr_extends (h : c.fieldExpr ctx path = .ok ((e, type), ctx')) :
    Extends c.config ctx ctx' := by
  obtain ⟨ending, hend, -⟩ := fieldExpr_ok h
  exact followPath_extends hend

theorem resolveLookup_extends {r : Resolved} (h : c.resolveLookup ctx path = (.ok r, ctx')) :
    Extends c.config ctx ctx' := by
  obtain ⟨ending, hend, -⟩ := resolveLookup_ok h
  exact followPath_extends hend

theorem extends_alongPaths : c.AlongPaths (Extends c.config) :=
    ⟨.refl, .trans, fieldExpr_extends⟩

theorem placeSubquery_extends {m : Model} {outer : List String} {stages : List Stage}
    {field : String} (h : c.placeSubquery ctx m outer stages field = .ok (e, ctx')) :
    Extends c.config ctx ctx' := by
  obtain ⟨bindings, after, hbindings, -, rfl⟩ := placeSubquery_ok h
  refine (extends_alongPaths.outerBindings hbindings).trans
    ⟨rfl, rfl, List.prefix_refl _, fun _ h => h, _, rfl, ?_⟩
  exact Placed.snoc m.collection bindings stages (.nil after.subqueryCount)

theorem compileSubquery_extends {wrap : Bool} {q : Query}
    (h : c.compileSubquery ctx wrap q = .ok (e, ctx')) : Extends c.config ctx ctx' := by
  obtain ⟨n, -, hplaced⟩ := compileSubquery_ok h
  exact placeSubquery_extends hplaced

/-! ## Trees -/

mutual

theorem compileFilter_extends (ctx : Context) {ctx' : Context} (f : Filter) {e : Value}
    (h : c.compileFilter ctx f = .ok (e, ctx')) : Extends c.config ctx ctx' := by
  match f with
  | .lookup path operand =>
    by_cases hcomputed : isComputed operand = true
    · obtain ⟨r, after, w, type, hr, -, hw⟩ := compileFilter_computed_ok hcomputed h
      exact (resolveLookup_extends hr).trans
        ((Extends.noteLookup r after).trans (compileExpr_extends _ operand hw))
    · match operand with
      | .literal v =>
        obtain ⟨r, after, w, hr, -, -, rfl⟩ := compileFilter_literal_ok h
        exact (resolveLookup_extends hr).trans (.noteLookup r after)
      | .list items =>
        obtain ⟨r, after, vs, hr, -, -, hvs⟩ := compileFilter_list_ok h
        exact (resolveLookup_extends hr).trans
          ((Extends.noteLookup r after).trans (compileItems_extends _ items hvs))
      | .subquery q =>
        obtain ⟨r, after, w, hr, -, hw⟩ := compileFilter_subquery_ok h
        exact (resolveLookup_extends hr).trans
          ((Extends.noteLookup r after).trans (compileSubquery_extends hw))
      | .field _ | .outer _ | .combined _ _ _ | .case _ _ | .condition _ =>
        exact absurd rfl hcomputed
  | .and filters =>
    obtain ⟨es, hes, -⟩ := compileFilter_and_ok h
    exact compileFilters_extends ctx filters hes
  | .or filters =>
    obtain ⟨es, inside, hes, -, rfl⟩ := compileFilter_or_ok h
    exact (Extends.enter ctx).trans ((compileFilters_extends _ filters hes).trans
      (.leave inside))
  | .not filter =>
    obtain ⟨v, inside, hv, -, rfl⟩ := compileFilter_not_ok h
    exact (Extends.enter ctx).trans ((compileFilter_extends _ filter hv).trans (.leave inside))
  | .exists q =>
    obtain ⟨v, hv, -⟩ := compileFilter_exists_ok h
    exact compileSubquery_extends hv

theorem compileFilters_extends (ctx : Context) {ctx' : Context} (filters : List Filter)
    {es : List Value} (h : c.compileFilters ctx filters = .ok (es, ctx')) :
    Extends c.config ctx ctx' := by
  match filters with
  | [] =>
    rw [compileFilters] at h
    obtain ⟨-, rfl⟩ := Prod.mk.inj (Except.ok.inj h)
    exact .refl _
  | f :: rest =>
    obtain ⟨v, after, others, hv, hrest, -⟩ := compileFilters_cons_ok h
    exact (compileFilter_extends ctx f hv).trans (compileFilters_extends after rest hrest)

theorem compileItems_extends {r : Resolved} (ctx : Context) {ctx' : Context} (items : List Expr)
    {es : List Value} (h : c.compileItems r ctx items = .ok (es, ctx')) :
    Extends c.config ctx ctx' := by
  match items with
  | [] =>
    rw [compileItems] at h
    obtain ⟨-, rfl⟩ := Prod.mk.inj (Except.ok.inj h)
    exact .refl _
  | item :: rest =>
    obtain ⟨v, after, others, hrest, -, hitem⟩ := compileItems_cons_ok h
    refine Extends.trans ?_ (compileItems_extends after rest hrest)
    rcases hitem with ⟨w, -, -, rfl⟩ | ⟨type, hexpr⟩
    · exact .refl _
    · exact compileExpr_extends ctx item hexpr

theorem compileExpr_extends (ctx : Context) {ctx' : Context} (body : Expr) {e : Value}
    {type : ValueType} (h : c.compileExpr ctx body = .ok ((e, type), ctx')) :
    Extends c.config ctx ctx' := by
  match body with
  | .literal v =>
    rw [compileExpr] at h
    obtain ⟨-, rfl⟩ := Prod.mk.inj (Except.ok.inj h)
    exact .refl _
  | .field path =>
    rw [compileExpr] at h
    exact fieldExpr_extends h
  | .outer path =>
    rw [compileExpr] at h
    obtain ⟨index, hindex, -⟩ := outerExpr_ok h
    exact .outerRef hindex
  | .list items =>
    obtain ⟨es, hes, -⟩ := compileExpr_list_ok h
    exact compileExprs_extends ctx items hes
  | .combined op left right =>
    obtain ⟨a, s, after, b, t, ha, hb, -⟩ := compileExpr_combined_ok h
    exact (compileExpr_extends ctx left ha).trans (compileExpr_extends after right hb)
  | .case branches otherwise =>
    obtain ⟨bs, after, v, hbs, hv, -⟩ := compileExpr_case_ok h
    exact (compileBranches_extends ctx branches hbs).trans (compileExpr_extends
      after otherwise hv)
  | .condition filter => exact compileFilter_extends ctx filter (compileExpr_condition_ok h)
  | .subquery q => exact compileSubquery_extends (compileExpr_subquery_ok h)

theorem compileExprs_extends (ctx : Context) {ctx' : Context} (items : List Expr)
    {es : List Value}
    (h : c.compileExprs ctx items = .ok (es, ctx')) : Extends c.config ctx ctx' := by
  match items with
  | [] =>
    rw [compileExprs] at h
    obtain ⟨-, rfl⟩ := Prod.mk.inj (Except.ok.inj h)
    exact .refl _
  | item :: rest =>
    obtain ⟨v, type, after, others, hv, hrest, -⟩ := compileExprs_cons_ok h
    exact (compileExpr_extends ctx item hv).trans (compileExprs_extends after rest hrest)

theorem compileBranches_extends (ctx : Context) {ctx' : Context}
    (branches : List (Filter × Expr))
    {es : List Value} (h : c.compileBranches ctx branches = .ok (es, ctx')) :
    Extends c.config ctx ctx' := by
  match branches with
  | [] =>
    rw [compileBranches] at h
    obtain ⟨-, rfl⟩ := Prod.mk.inj (Except.ok.inj h)
    exact .refl _
  | (f, body) :: rest =>
    obtain ⟨condition, after, v, type, after', others, hf, hv, hrest, -⟩ :=
      compileBranches_cons_ok h
    exact (compileFilter_extends ctx f hf).trans
      ((compileExpr_extends after body hv).trans (compileBranches_extends after' rest hrest))

end

theorem compileAnnotations_extends {pending : Document} {annotations : List (String × Expr)}
    {stages : List Stage}
    (h : c.compileAnnotations pending ctx annotations = .ok (stages, ctx')) :
    Extends c.config ctx ctx' := by
  induction annotations generalizing ctx pending stages with
  | nil =>
    rw [compileAnnotations] at h
    obtain ⟨-, rfl⟩ := Prod.mk.inj (Except.ok.inj h)
    exact .refl _
  | cons annotation rest ih =>
    obtain ⟨name, body⟩ := annotation
    obtain ⟨v, type, after, hv, hrest⟩ := compileAnnotations_cons_ok h
    refine (compileExpr_extends ctx body hv).trans ((Extends.addAnnotation after name
      type).trans ?_)
    rcases hrest with ⟨others, hothers, -⟩ | ⟨-, hothers⟩
    · exact ih hothers
    · exact ih hothers

theorem compileCondition_extends {f : Option Filter} {condition : Option Value}
    (h : c.compileCondition ctx f = .ok (condition, ctx')) : Extends c.config ctx ctx' := by
  cases f with
  | none =>
    rw [compileCondition] at h
    obtain ⟨-, rfl⟩ := Prod.mk.inj (Except.ok.inj h)
    exact .refl _
  | some f =>
    obtain ⟨v, hv, -⟩ := compileCondition_some_ok h
    exact compileFilter_extends ctx f hv

/-! ## Queries -/

theorem plan_extends {q : Query} {p : Plan} {annotations : List (String × Expr)}
    {filter : Option Filter}
    (h : c.planWith ctx q (fun ctx => c.compileAnnotations [] ctx annotations)
      (fun ctx => c.compileCondition ctx filter) = .ok (p, ctx')) :
          Extends c.config ctx ctx' := by
  obtain ⟨loaded, stages, computed, condition, filtered, keys, fields, sorted, columns, hloaded,
    hstages, hcondition, hsorted, hcolumns, -⟩ := planWith_ok h
  have hcomputed : Extends c.config ctx computed :=
    (extends_alongPaths.loadRelations hloaded).trans (compileAnnotations_extends hstages)
  have hsorted' : Extends c.config computed sorted :=
    (compileCondition_extends hcondition).trans (extends_alongPaths.sortKeys hsorted)
  exact hcomputed.trans (hsorted'.trans (extends_alongPaths.returnedColumns hcolumns))

end Compiler

end DocQuery
