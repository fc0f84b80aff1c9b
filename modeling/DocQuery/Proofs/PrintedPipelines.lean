import DocQuery.Execution.Pipeline
import DocQuery.Proofs.Growth
import DocQuery.Proofs.Relations
import DocQuery.Proofs.StageDocuments
set_option autoImplicit false

/-!
# Proofs: printed pipelines

The documents of a compiled pipeline can always be read back.  They give the pipeline itself
exactly if no sort stage in it has two keys of one name, and otherwise the pipeline in which
such keys are merged:  a document keeps the first place and the last direction.
-/

namespace DocQuery

/-! ## Windows -/

/-- Whether a document holds a count that there may be. -/
def windowFits : Option Nat → Bool
  | none => true
  | some n => decide (n ≤ Stage.maxCount)

mutual

/-- Whether documents hold the windows of the queries in a computed value. -/
def Expr.windowsFit : Expr → Bool
  | .literal _ => true
  | .field _ => true
  | .outer _ => true
  | .list items => Expr.allWindowsFit items
  | .combined _ left right => left.windowsFit && right.windowsFit
  | .case branches otherwise => Expr.branchWindowsFit branches && otherwise.windowsFit
  | .condition filter => filter.windowsFit
  | .subquery q => q.windowsFit

/-- The same for several computed values. -/
def Expr.allWindowsFit : List Expr → Bool
  | [] => true
  | e :: rest => e.windowsFit && Expr.allWindowsFit rest

/-- The same for the branches of a case distinction. -/
def Expr.branchWindowsFit : List (Filter × Expr) → Bool
  | [] => true
  | (f, e) :: rest => f.windowsFit && e.windowsFit && Expr.branchWindowsFit rest

/-- The same for a filter. -/
def Filter.windowsFit : Filter → Bool
  | .lookup _ operand => operand.windowsFit
  | .and filters => Filter.allWindowsFit filters
  | .or filters => Filter.allWindowsFit filters
  | .not filter => filter.windowsFit
  | .exists q => q.windowsFit

/-- The same for several filters. -/
def Filter.allWindowsFit : List Filter → Bool
  | [] => true
  | f :: rest => f.windowsFit && Filter.allWindowsFit rest

/-- The same for a filter that there may be. -/
def Filter.conditionWindowsFit : Option Filter → Bool
  | none => true
  | some f => f.windowsFit

/-- The same for computed columns. -/
def Query.columnWindowsFit : List (String × Expr) → Bool
  | [] => true
  | (_, e) :: rest => e.windowsFit && Query.columnWindowsFit rest

/-- Whether documents hold the window of a query, and those of the queries inside it. -/
def Query.windowsFit : Query → Bool
  | .mk _ filter annotations _ _ offset limit _ union =>
    windowFits offset && windowFits limit && Filter.conditionWindowsFit filter &&
      Query.columnWindowsFit annotations && Query.unionWindowsFit union

/-- The same for several queries. -/
def Query.allWindowsFit : List Query → Bool
  | [] => true
  | q :: rest => q.windowsFit && Query.allWindowsFit rest

/-- The same for the queries that a query is united with. -/
def Query.unionWindowsFit : Option (List Query × Bool) → Bool
  | none => true
  | some (others, _) => Query.allWindowsFit others

end

/-! ## Stages of the compiler -/

namespace Stage

/-- Whether documents hold the stages of a pipeline, apart from sort keys. -/
def AllFit (stages : List Stage) : Prop := ∀ s ∈ stages, s.Every FitsDocument

theorem fits_of_plain {s : Stage} (hplain : s.pipelines = []) (h : s.FitsDocument) :
    s.Every FitsDocument :=
  (every_iff_of_plain hplain).mpr h

theorem fits_lookup {source target : String} {bindings : Document} {pipeline : List Stage}
    (h : AllFit pipeline) : (Stage.lookup source bindings pipeline target).Every FitsDocument :=
  .intro trivial (List.forall_mem_singleton.mpr h)

theorem fits_unionWith {collection : String} {pipeline : List Stage} (h : AllFit pipeline) :
    (Stage.unionWith collection pipeline).Every FitsDocument :=
  .intro trivial (List.forall_mem_singleton.mpr h)

theorem allFit_nil : AllFit [] := by simp [AllFit]

theorem allFit_cons {s : Stage} {stages : List Stage} :
    AllFit (s :: stages) ↔ s.Every FitsDocument ∧ AllFit stages :=
  List.forall_mem_cons

theorem allFit_append {stages others : List Stage} :
    AllFit (stages ++ others) ↔ AllFit stages ∧ AllFit others :=
  List.forall_mem_append

end Stage

open Stage (AllFit allFit_nil allFit_cons allFit_append fits_of_plain fits_lookup
    fits_unionWith)

theorem Join.allFit_stages (config : Config) (j : Join) : AllFit (j.stages config) := by
  have hlookup : (j.lookupStage config).Every Stage.FitsDocument :=
    fits_lookup (allFit_cons.mpr ⟨fits_of_plain rfl trivial, allFit_nil⟩)
  have hunwind : (Stage.unwindAll j.joined).Every Stage.FitsDocument :=
    fits_of_plain rfl trivial
  unfold Join.stages
  split
  · exact allFit_cons.mpr ⟨hlookup, allFit_cons.mpr ⟨hunwind, allFit_nil⟩⟩
  · have hset : (Join.placeholder j.joined).Every Stage.FitsDocument :=
      fits_of_plain rfl trivial
    exact allFit_cons.mpr ⟨hlookup, allFit_cons.mpr ⟨hset,
      allFit_cons.mpr ⟨hunwind, allFit_nil⟩⟩⟩

namespace Compiler

open Context (Alike)

variable {c : Compiler} {ctx ctx' : Context} {e : Value} {type : ValueType}

theorem allFit_addColumns (columns : Document) : AllFit (addColumns columns) := by
  unfold addColumns
  split
  · exact allFit_nil
  · exact allFit_cons.mpr ⟨fits_of_plain rfl trivial, allFit_nil⟩

theorem allFit_sortBy (keys : List (String × Direction)) : AllFit (sortBy keys) := by
  unfold sortBy
  split
  · exact allFit_nil
  · exact allFit_cons.mpr ⟨fits_of_plain rfl trivial, allFit_nil⟩

theorem allFit_windowOf {offset limit : Option Nat} (hoffset : windowFits offset = true)
    (hlimit : windowFits limit = true) : AllFit (windowOf offset limit) := by
  refine allFit_append.mpr ⟨?_, ?_⟩
  · cases offset with
    | none => exact allFit_nil
    | some n =>
      exact allFit_cons.mpr ⟨fits_of_plain rfl (of_decide_eq_true (p := n ≤ Stage.maxCount)
        hoffset), allFit_nil⟩
  · cases limit with
    | none => exact allFit_nil
    | some n =>
      exact allFit_cons.mpr ⟨fits_of_plain rfl (of_decide_eq_true (p := n ≤ Stage.maxCount)
        hlimit), allFit_nil⟩

theorem allFit_distinct (names : List String) : AllFit (distinct names) := by
  refine allFit_cons.mpr ⟨fits_of_plain rfl ?_,
    allFit_cons.mpr ⟨fits_of_plain rfl trivial, allFit_nil⟩⟩
  simp [Stage.FitsDocument, Document.names]

theorem allFit_collecting (field : String) (expr : Value) : AllFit (collecting field expr) := by
  have hgroup : (Stage.group .null [(itemField, .operator "$addToSet"
    (.string ("$" ++ itemField)))]).Every Stage.FitsDocument :=
    fits_of_plain rfl (by simp [Stage.FitsDocument, Document.names, itemField])
  have hfacet : AllFit [.project [(itemField, expr)], .unwindAll itemField,
      .group .null [(itemField, .operator "$addToSet" (.string ("$" ++ itemField)))]] :=
    allFit_cons.mpr ⟨fits_of_plain rfl trivial, allFit_cons.mpr ⟨fits_of_plain rfl trivial,
      allFit_cons.mpr ⟨hgroup, allFit_nil⟩⟩⟩
  refine allFit_cons.mpr ⟨.intro ?_ ?_, allFit_cons.mpr ⟨fits_of_plain rfl trivial, allFit_nil⟩⟩
  · simp [Stage.FitsDocument]
  · exact List.forall_mem_singleton.mpr hfacet

theorem allFit_wrapped {stages : List Stage} (column : String × Value) (isUnited : Bool)
    (h : AllFit stages) : AllFit (wrapped stages column isUnited) := by
  unfold wrapped
  split
  · exact allFit_append.mpr ⟨h, allFit_collecting _ _⟩
  · exact allFit_append.mpr ⟨fun s hs => h s (List.dropLast_subset stages hs),
      allFit_collecting _ _⟩

/-! ## Plans -/

/-- A plan whose parts are held by documents. -/
structure FittingPlan (p : Plan) : Prop where
  annotations : AllFit p.annotations
  order : AllFit p.order
  window : AllFit p.window

section Plans

variable {p : Plan} (hctx : AllFit ctx.subqueryStages) (hp : FittingPlan p)
include hctx hp

theorem allFit_source : AllFit (c.source ctx p) := by
  have hjoins : AllFit (ctx.joins.flatMap fun j => j.2.stages c.config) := by
    intro s hs
    obtain ⟨j, -, hstage⟩ := List.mem_flatMap.mp hs
    exact j.2.allFit_stages c.config s hstage
  refine allFit_append.mpr ⟨allFit_append.mpr ⟨allFit_append.mpr ⟨hjoins, hctx⟩,
    hp.annotations⟩, ?_⟩
  split
  · exact allFit_cons.mpr ⟨fits_of_plain rfl trivial, allFit_nil⟩
  · exact allFit_nil

theorem assembleWith_fits {q : Query} {others : Except CompileError (List Stage)}
    {stages : List Stage}
    (hothers : ∀ added, others = .ok added → AllFit added)
    (h : c.assembleWith ctx q p others = .ok stages) :
    AllFit stages := by
  have hsource : AllFit (c.source ctx p) := allFit_source hctx hp
  have hproject : AllFit [.project (projectionOf p.columns)] :=
    allFit_cons.mpr ⟨fits_of_plain rfl trivial, allFit_nil⟩
  rcases assembleWith_ok h with rfl | ⟨added, keepAll, hadded, rfl⟩
  · exact allFit_append.mpr
      ⟨allFit_append.mpr ⟨allFit_append.mpr ⟨hsource, hp.order⟩, hp.window⟩, hproject⟩
  · have hdistinct : AllFit (if keepAll then [] else distinct
      (projectionOf p.columns).names) := by
      split
      · exact allFit_nil
      · exact allFit_distinct _
    have hfront := allFit_append.mpr ⟨allFit_append.mpr ⟨hsource, hproject⟩,
      hothers added hadded⟩
    exact allFit_append.mpr
      ⟨allFit_append.mpr ⟨allFit_append.mpr ⟨hfront, hdistinct⟩, allFit_sortBy _⟩, hp.window⟩

end Plans

/-! ## Paths -/

theorem fieldExpr_alike {path : String} (h : c.fieldExpr ctx path = .ok ((e, type), ctx')) :
    Alike ctx ctx' := by
  obtain ⟨ending, hend, -⟩ := fieldExpr_ok h
  exact followPath_alike hend

theorem alike_alongPaths : c.AlongPaths Alike := ⟨.refl, .trans, fieldExpr_alike⟩

theorem lookup_stages {path : String} {r : Resolved}
    (h : c.resolveLookup ctx path = (.ok r, ctx')) :
    (noteLookup r ctx').subqueryStages = ctx.subqueryStages := by
  obtain ⟨ending, hend, -⟩ := resolveLookup_ok h
  rw [← (followPath_alike hend).stages]
  unfold noteLookup
  split
  · exact (Alike.promote ctx' r.joins).stages
  · rfl

theorem outerExpr_stages {path : String} (h : c.outerExpr ctx path = .ok ((e, type), ctx')) :
    ctx'.subqueryStages = ctx.subqueryStages := by
  obtain ⟨index, hindex, -⟩ := outerExpr_ok h
  grind [Context.outerRef]

/-- A subquery whose stages documents hold is put into the context by such stages. -/
theorem placeSubquery_fits {m : Model} {outer : List String} {stages : List Stage}
    {field : String} (hctx : AllFit ctx.subqueryStages) (hstages : AllFit stages)
    (h : c.placeSubquery ctx m outer stages field = .ok (e, ctx')) :
        AllFit ctx'.subqueryStages := by
  obtain ⟨bindings, after, hbindings, -, rfl⟩ := placeSubquery_ok h
  rw [← (alike_alongPaths.outerBindings hbindings).stages] at hctx
  refine allFit_append.mpr ⟨hctx, allFit_cons.mpr ⟨fits_lookup hstages, ?_⟩⟩
  exact allFit_cons.mpr ⟨fits_of_plain rfl trivial, allFit_nil⟩

/-- The stages of a query, if documents hold those of its parts. -/
theorem planWith_fits {q : Query} {p : Plan} {annotations : List (String × Expr)}
    {filter : Option Filter}
    (hoffset : windowFits q.offset = true) (hlimit : windowFits q.limit = true)
    (hannotations : ∀ {ctx ctx' : Context} {stages : List Stage}, AllFit ctx.subqueryStages →
      c.compileAnnotations [] ctx annotations = .ok (stages, ctx') → AllFit stages ∧
        AllFit ctx'.subqueryStages)
    (hfilter : ∀ {ctx ctx' : Context} {condition : Option Value}, AllFit ctx.subqueryStages →
      c.compileCondition ctx filter = .ok (condition, ctx') → AllFit ctx'.subqueryStages)
    (hctx : AllFit ctx.subqueryStages)
    (h : c.planWith ctx q (fun ctx => c.compileAnnotations [] ctx annotations)
      (fun ctx => c.compileCondition ctx filter) = .ok (p, ctx')) : FittingPlan p ∧
          AllFit ctx'.subqueryStages := by
  obtain ⟨loaded, stages, computed, condition, filtered, keys, fields, sorted, columns, hloaded,
    hstages, hcondition, hsorted, hcolumns, rfl⟩ := planWith_ok h
  rw [← (alike_alongPaths.loadRelations hloaded).stages] at hctx
  obtain ⟨hfits, hcomputed⟩ := hannotations hctx hstages
  have hlast := hfilter hcomputed hcondition
  rw [← (alike_alongPaths.sortKeys hsorted).stages,
    ← (alike_alongPaths.returnedColumns hcolumns).stages] at hlast
  exact ⟨⟨hfits, allFit_append.mpr ⟨allFit_addColumns fields, allFit_sortBy keys⟩,
    allFit_windowOf hoffset hlimit⟩, hlast⟩

/-- A nested query, if documents hold the stages of its parts. -/
theorem nested_fits {q : Query} {n : Nested}
    (hoffset : windowFits q.offset = true) (hlimit : windowFits q.limit = true)
    (hannotations : ∀ {ctx ctx' : Context} {stages : List Stage}, AllFit ctx.subqueryStages →
      c.compileAnnotations [] ctx q.annotations = .ok (stages, ctx') → AllFit stages ∧
        AllFit ctx'.subqueryStages)
    (hfilter : ∀ {ctx ctx' : Context} {condition : Option Value}, AllFit ctx.subqueryStages →
      c.compileCondition ctx q.filter = .ok (condition, ctx') → AllFit ctx'.subqueryStages)
    (hothers : ∀ added, c.compileUnion q.union = .ok added → AllFit added)
    (h : c.nested q = .ok n) : AllFit n.stages := by
  obtain ⟨p, inner, -, hplan, -, hstages, -⟩ := nested_ok h
  obtain ⟨hfits, hinner⟩ := planWith_fits hoffset hlimit hannotations hfilter allFit_nil hplan
  have honly : FittingPlan { p with columns := [n.column] } :=
    ⟨hfits.annotations, hfits.order, hfits.window⟩
  exact assembleWith_fits hinner honly hothers hstages

/-! ## Trees -/

mutual

theorem compileFilter_fits {ctx ctx' : Context} (f : Filter) {e : Value}
    (hf : f.windowsFit = true)
    (hctx : AllFit ctx.subqueryStages) (h : c.compileFilter ctx f = .ok (e, ctx')) :
        AllFit ctx'.subqueryStages := by
  match f with
  | .lookup path operand =>
    rw [Filter.windowsFit] at hf
    by_cases hcomputed : isComputed operand = true
    · obtain ⟨r, after, w, type, hr, -, hw⟩ := compileFilter_computed_ok hcomputed h
      exact compileExpr_fits operand hf (by rwa [lookup_stages hr]) hw
    · match operand with
      | .literal v =>
        obtain ⟨r, after, w, hr, -, -, rfl⟩ := compileFilter_literal_ok h
        rwa [lookup_stages hr]
      | .list items =>
        rw [Expr.windowsFit] at hf
        obtain ⟨r, after, vs, hr, -, -, hvs⟩ := compileFilter_list_ok h
        exact compileItems_fits items hf (by rwa [lookup_stages hr]) hvs
      | .subquery q =>
        rw [Expr.windowsFit] at hf
        obtain ⟨r, after, w, hr, -, hw⟩ := compileFilter_subquery_ok h
        exact compileSubquery_fits q hf (by rwa [lookup_stages hr]) hw
      | .field _ | .outer _ | .combined _ _ _ | .case _ _ | .condition _ =>
        exact absurd rfl hcomputed
  | .and filters =>
    rw [Filter.windowsFit] at hf
    obtain ⟨es, hes, -⟩ := compileFilter_and_ok h
    exact compileFilters_fits filters hf hctx hes
  | .or filters =>
    rw [Filter.windowsFit] at hf
    obtain ⟨es, inside, hes, -, rfl⟩ := compileFilter_or_ok h
    have hentered : AllFit ctx.enter.subqueryStages := hctx
    exact (compileFilters_fits filters hf hentered hes : AllFit inside.subqueryStages)
  | .not filter =>
    rw [Filter.windowsFit] at hf
    obtain ⟨v, inside, hv, -, rfl⟩ := compileFilter_not_ok h
    have hentered : AllFit ctx.enter.subqueryStages := hctx
    exact (compileFilter_fits filter hf hentered hv : AllFit inside.subqueryStages)
  | .exists q =>
    rw [Filter.windowsFit] at hf
    obtain ⟨v, hv, -⟩ := compileFilter_exists_ok h
    exact compileSubquery_fits q hf hctx hv

theorem compileFilters_fits {ctx ctx' : Context} (filters : List Filter) {es : List Value}
    (hfilters : Filter.allWindowsFit filters = true) (hctx : AllFit ctx.subqueryStages)
    (h : c.compileFilters ctx filters = .ok (es, ctx')) : AllFit ctx'.subqueryStages := by
  match filters with
  | [] =>
    rw [compileFilters] at h
    obtain ⟨-, rfl⟩ := Prod.mk.inj (Except.ok.inj h)
    exact hctx
  | f :: rest =>
    rw [Filter.allWindowsFit, Bool.and_eq_true] at hfilters
    obtain ⟨v, after, others, hv, hrest, -⟩ := compileFilters_cons_ok h
    exact compileFilters_fits rest hfilters.2 (compileFilter_fits f hfilters.1 hctx hv) hrest

theorem compileItems_fits {r : Resolved} {ctx ctx' : Context} (items : List Expr)
    {es : List Value}
    (hitems : Expr.allWindowsFit items = true) (hctx : AllFit ctx.subqueryStages)
    (h : c.compileItems r ctx items = .ok (es, ctx')) : AllFit ctx'.subqueryStages := by
  match items with
  | [] =>
    rw [compileItems] at h
    obtain ⟨-, rfl⟩ := Prod.mk.inj (Except.ok.inj h)
    exact hctx
  | item :: rest =>
    rw [Expr.allWindowsFit, Bool.and_eq_true] at hitems
    obtain ⟨v, after, others, hrest, -, hitem⟩ := compileItems_cons_ok h
    have hafter : AllFit after.subqueryStages := by
      rcases hitem with ⟨w, -, -, rfl⟩ | ⟨type, hexpr⟩
      · exact hctx
      · exact compileExpr_fits item hitems.1 hctx hexpr
    exact compileItems_fits rest hitems.2 hafter hrest

theorem compileExpr_fits {ctx ctx' : Context} (body : Expr) {e : Value} {type : ValueType}
    (hbody : body.windowsFit = true) (hctx : AllFit ctx.subqueryStages)
    (h : c.compileExpr ctx body = .ok ((e, type), ctx')) : AllFit ctx'.subqueryStages := by
  match body with
  | .literal v =>
    rw [compileExpr] at h
    obtain ⟨-, rfl⟩ := Prod.mk.inj (Except.ok.inj h)
    exact hctx
  | .field path =>
    rw [compileExpr] at h
    rwa [(fieldExpr_alike h).stages]
  | .outer path =>
    rw [compileExpr] at h
    rwa [outerExpr_stages h]
  | .list items =>
    rw [Expr.windowsFit] at hbody
    obtain ⟨es, hes, -⟩ := compileExpr_list_ok h
    exact compileExprs_fits items hbody hctx hes
  | .combined op left right =>
    rw [Expr.windowsFit, Bool.and_eq_true] at hbody
    obtain ⟨a, s, after, b, t, ha, hb, -⟩ := compileExpr_combined_ok h
    exact compileExpr_fits right hbody.2 (compileExpr_fits left hbody.1 hctx ha) hb
  | .case branches otherwise =>
    rw [Expr.windowsFit, Bool.and_eq_true] at hbody
    obtain ⟨bs, after, v, hbs, hv, -⟩ := compileExpr_case_ok h
    exact compileExpr_fits otherwise hbody.2 (compileBranches_fits branches hbody.1 hctx hbs) hv
  | .condition filter =>
    rw [Expr.windowsFit] at hbody
    exact compileFilter_fits filter hbody hctx (compileExpr_condition_ok h)
  | .subquery q =>
    rw [Expr.windowsFit] at hbody
    exact compileSubquery_fits q hbody hctx (compileExpr_subquery_ok h)

theorem compileExprs_fits {ctx ctx' : Context} (items : List Expr) {es : List Value}
    (hitems : Expr.allWindowsFit items = true) (hctx : AllFit ctx.subqueryStages)
    (h : c.compileExprs ctx items = .ok (es, ctx')) : AllFit ctx'.subqueryStages := by
  match items with
  | [] =>
    rw [compileExprs] at h
    obtain ⟨-, rfl⟩ := Prod.mk.inj (Except.ok.inj h)
    exact hctx
  | item :: rest =>
    rw [Expr.allWindowsFit, Bool.and_eq_true] at hitems
    obtain ⟨v, type, after, others, hv, hrest, -⟩ := compileExprs_cons_ok h
    exact compileExprs_fits rest hitems.2 (compileExpr_fits item hitems.1 hctx hv) hrest

theorem compileBranches_fits {ctx ctx' : Context} (branches : List (Filter × Expr))
    {es : List Value}
    (hbranches : Expr.branchWindowsFit branches = true) (hctx : AllFit ctx.subqueryStages)
    (h : c.compileBranches ctx branches = .ok (es, ctx')) : AllFit ctx'.subqueryStages := by
  match branches with
  | [] =>
    rw [compileBranches] at h
    obtain ⟨-, rfl⟩ := Prod.mk.inj (Except.ok.inj h)
    exact hctx
  | (f, body) :: rest =>
    rw [Expr.branchWindowsFit, Bool.and_eq_true, Bool.and_eq_true] at hbranches
    obtain ⟨condition, after, v, type, after', others, hf, hv, hrest, -⟩ :=
      compileBranches_cons_ok h
    have hafter : AllFit after.subqueryStages := compileFilter_fits f hbranches.1.1 hctx hf
    exact compileBranches_fits rest hbranches.2 (compileExpr_fits body hbranches.1.2
      hafter hv) hrest

theorem compileAnnotations_fits {ctx ctx' : Context} {pending : Document}
    (annotations : List (String × Expr))
    {stages : List Stage} (hannotations : Query.columnWindowsFit annotations = true)
    (hctx : AllFit ctx.subqueryStages)
    (h : c.compileAnnotations pending ctx annotations = .ok (stages, ctx')) :
    AllFit stages ∧ AllFit ctx'.subqueryStages := by
  match annotations with
  | [] =>
    rw [compileAnnotations] at h
    obtain ⟨rfl, rfl⟩ := Prod.mk.inj (Except.ok.inj h)
    exact ⟨allFit_addColumns pending, hctx⟩
  | (name, body) :: rest =>
    rw [Query.columnWindowsFit, Bool.and_eq_true] at hannotations
    obtain ⟨v, type, after, hv, hrest⟩ := compileAnnotations_cons_ok h
    have hafter : AllFit after.subqueryStages := compileExpr_fits body hannotations.1 hctx hv
    have hnext : AllFit (after.clearRefs.addAnnotation name type).subqueryStages := hafter
    rcases hrest with ⟨others, hothers, rfl⟩ | ⟨-, hothers⟩
    · obtain ⟨hfits, hlast⟩ := compileAnnotations_fits rest hannotations.2 hnext hothers
      exact ⟨allFit_cons.mpr ⟨fits_of_plain rfl trivial, hfits⟩, hlast⟩
    · exact compileAnnotations_fits rest hannotations.2 hnext hothers

theorem compileCondition_fits {ctx ctx' : Context} (f : Option Filter)
    {condition : Option Value}
    (hf : Filter.conditionWindowsFit f = true) (hctx : AllFit ctx.subqueryStages)
    (h : c.compileCondition ctx f = .ok (condition, ctx')) : AllFit ctx'.subqueryStages := by
  match f with
  | none =>
    rw [compileCondition] at h
    obtain ⟨-, rfl⟩ := Prod.mk.inj (Except.ok.inj h)
    exact hctx
  | some f =>
    rw [Filter.conditionWindowsFit] at hf
    obtain ⟨v, hv, -⟩ := compileCondition_some_ok h
    exact compileFilter_fits f hf hctx hv

theorem compileOthers_fits (others : List Query) {stages : List Stage}
    (hothers : Query.allWindowsFit others = true)
    (h : c.compileOthers others = .ok stages) : AllFit stages := by
  match others with
  | [] =>
    rw [compileOthers] at h
    exact Except.ok.inj h ▸ allFit_nil
  | q :: rest =>
    rw [Query.allWindowsFit, Bool.and_eq_true] at hothers
    obtain ⟨a, added, ha, hadded, rfl⟩ := compileOthers_cons_ok h
    exact allFit_cons.mpr
      ⟨fits_unionWith (compile_fits q hothers.1 ha), compileOthers_fits rest hothers.2 hadded⟩

theorem compileUnion_fits (union : Option (List Query × Bool)) {stages : List Stage}
    (hunion : Query.unionWindowsFit union = true) (h : c.compileUnion union = .ok stages) :
        AllFit stages := by
  match union with
  | none =>
    rw [compileUnion] at h
    exact Except.ok.inj h ▸ allFit_nil
  | some (others, keepAll) =>
    rw [Query.unionWindowsFit] at hunion
    rw [compileUnion] at h
    exact compileOthers_fits others hunion h

/-- Documents hold all stages of a compiled query, apart from sort keys. -/
theorem compile_fits (q : Query) {a : Aggregation} (hq : q.windowsFit = true)
    (h : c.compile q = .ok a) : AllFit a.pipeline := by
  match q with
  | .mk model filter annotations values orderBy offset limit related union =>
    simp only [Query.windowsFit, Bool.and_eq_true] at hq
    obtain ⟨⟨⟨⟨hoffset, hlimit⟩, hfilter⟩, hannotations⟩, hunion⟩ := hq
    rw [compile] at h
    obtain ⟨m, p, final, -, hplan, hstages, -⟩ := queryWith_ok h
    obtain ⟨hfits, hfinal⟩ := planWith_fits
      (q := .mk model filter annotations values orderBy offset limit related union)
          hoffset hlimit
      (fun hctx h => compileAnnotations_fits annotations hannotations hctx h)
      (fun hctx h => compileCondition_fits filter hfilter hctx h) allFit_nil hplan
    exact assembleWith_fits hfinal hfits (fun added hadded => compileUnion_fits union hunion
      hadded) hstages

theorem compileSubquery_fits {ctx ctx' : Context} {wrap : Bool} (q : Query) {e : Value}
    (hq : q.windowsFit = true)
    (hctx : AllFit ctx.subqueryStages) (h : c.compileSubquery ctx wrap q = .ok (e, ctx')) :
    AllFit ctx'.subqueryStages := by
  match q with
  | .mk model filter annotations values orderBy offset limit related union =>
    simp only [Query.windowsFit, Bool.and_eq_true] at hq
    obtain ⟨⟨⟨⟨hoffset, hlimit⟩, hfilter⟩, hannotations⟩, hunion⟩ := hq
    obtain ⟨n, hn, hplaced⟩ := compileSubquery_ok h
    have hstages : AllFit n.stages := nested_fits
      (q := .mk model filter annotations values orderBy offset limit related union)
          hoffset hlimit
      (fun hctx h => compileAnnotations_fits annotations hannotations hctx h)
      (fun hctx h => compileCondition_fits filter hfilter hctx h)
      (fun added hadded => compileUnion_fits union hunion hadded) hn
    refine placeSubquery_fits hctx ?_ hplaced
    unfold Nested.placed
    split
    · exact allFit_wrapped n.column _ hstages
    · exact hstages

end

end Compiler

/-! ## Runs -/

namespace Stage

/-- Whether keys of one name have one direction in a sort stage. -/
def SortsOneWay : Stage → Prop
  | .sort keys => ∀ k ∈ keys, ∀ k' ∈ keys, k.1 = k'.1 → k.2 = k'.2
  | _ => True

theorem compareBy_append (a b : Value) (keys others : List (String × Direction)) :
    compareBy a b (keys ++ others) = (compareBy a b keys).then (compareBy a b others) := by
  induction keys with
  | nil => rfl
  | cons k rest ih => rw [List.cons_append, compareBy, ih, compareBy, Ordering.then_assoc]

/-- A key that was compared already decides nothing. -/
theorem compareBy_mem {a b : Value} {keys : List (String × Direction)} {k : String × Direction}
    (hk : k ∈ keys) : (compareBy a b keys).then (compareBy a b [k]) = compareBy a b keys := by
  cases hkeys : compareBy a b keys with
  | lt => rfl
  | gt => rfl
  | eq =>
    have hequal : ∀ l : List (String × Direction), compareBy a b l = .eq → ∀ k ∈ l,
        compareBy a b [k] = .eq := by
      intro l
      induction l with
      | nil => simp
      | cons first rest ih =>
        intro hl
        rw [compareBy, Ordering.then_eq_eq] at hl
        refine List.forall_mem_cons.mpr ⟨?_, ih hl.2⟩
        rw [compareBy, hl.1]
        rfl
    rw [hequal keys hkeys k hk]
    rfl

theorem setKey_of_mem {keys : List (String × Direction)} {name : String} {direction : Direction}
    (h : name ∈ keys.map (·.1)) (hway : ∀ k ∈ keys, k.1 = name → k.2 = direction) :
    setKey keys name direction = keys := by
  induction keys with
  | nil => simp at h
  | cons k rest ih =>
    obtain ⟨n, d⟩ := k
    by_cases hn : n = name
    · obtain rfl : d = direction := hway (n, d) List.mem_cons_self hn
      rw [setKey, if_pos hn]
    · have hrest : name ∈ rest.map (·.1) := by simpa [Ne.symm hn] using h
      rw [setKey, if_neg hn, ih hrest fun k hk => hway k (List.mem_cons_of_mem _ hk)]

/-- Documents are compared alike by merged keys if no key stands in both directions. -/
theorem compareBy_mergeKeys (a b : Value) {keys : List (String × Direction)}
    (hway : ∀ k ∈ keys, ∀ k' ∈ keys, k.1 = k'.1 → k.2 = k'.2) :
    compareBy a b (mergeKeys keys) = compareBy a b keys := by
  have hfold : ∀ (rest acc : List (String × Direction)),
      (∀ k ∈ acc ++ rest, ∀ k' ∈ acc ++ rest, k.1 = k'.1 → k.2 = k'.2) →
      compareBy a b (rest.foldl (fun acc k => setKey acc k.1 k.2) acc)
        = (compareBy a b acc).then (compareBy a b rest) := by
    intro rest
    induction rest with
    | nil =>
      intro acc _
      rw [List.foldl_nil, compareBy, Ordering.then_eq]
    | cons k rest ih =>
      intro acc hall
      rw [List.foldl_cons, ← List.singleton_append (l := rest), compareBy_append,
        ← Ordering.then_assoc]
      by_cases hk : k.1 ∈ acc.map (·.1)
      · obtain ⟨old, hold, hname⟩ := List.mem_map.mp hk
        have hsame : old = k := Prod.ext hname (hall old (by simp [hold]) k (by simp) hname)
        rw [setKey_of_mem hk fun k' hk' hn => hall k' (by simp [hk']) k (by simp) hn,
          compareBy_mem (hsame ▸ hold)]
        have hsubset : ∀ k' ∈ acc ++ rest, k' ∈ acc ++ k :: rest := by
          intro k' hk'
          rcases List.mem_append.mp hk' with hfront | hback
          · simp [hfront]
          · simp [hback]
        exact ih acc fun k' hk' k'' hk'' => hall k' (hsubset k' hk') k'' (hsubset k'' hk'')
      · rw [setKey_of_notMem k.2 hk, ← compareBy_append]
        exact ih (acc ++ [k]) (by simpa using hall)
  exact hfold keys [] hway

theorem runAll_merged {store : Store} {stages : List Stage}
    (h : ∀ s ∈ stages, ∀ vars docs, run store s.merged vars docs = run store s vars docs)
    (vars : Document)
    (docs : List Value) :
        runAll store (stages.map merged) vars docs = runAll store stages vars docs := by
  induction stages generalizing docs with
  | nil => rfl
  | cons s rest ih =>
    rw [List.map_cons, runAll, runAll, h s List.mem_cons_self]
    split
    · rfl
    · exact ih (fun t ht => h t (List.mem_cons_of_mem s ht)) _

theorem runFacets_merged {store : Store} {facets : List (String × List Stage)}
    (h : ∀ f ∈ facets, ∀ s ∈ f.2, ∀ vars docs, run store s.merged vars docs =
      run store s vars docs)
    (vars : Document) (docs : List Value) :
    runFacets store (facets.map fun f => (f.1, f.2.map merged)) vars docs =
        runFacets store facets vars docs := by
  induction facets with
  | nil => rfl
  | cons f rest ih =>
    rw [List.map_cons, runFacets, runFacets, runAll_merged (h f List.mem_cons_self),
      ih fun g hg => h g (List.mem_cons_of_mem f hg)]

/-- Merging the keys of a stage does not change what it does if no key stands in both
directions. -/
theorem run_merged {s : Stage} (h : s.Every SortsOneWay) (store : Store) (vars : Document)
    (docs : List Value) : run store s.merged vars docs = run store s vars docs := by
  induction h generalizing vars docs with
  | @intro s here inside ih =>
    cases s with
    | lookup source bindings pipeline target =>
      have hpipeline := runAll_merged (ih pipeline (by simp [pipelines]))
      simp only [merged, mergedAll_eq_map, run, hpipeline]
    | facet facets =>
      have hfacets := runFacets_merged fun f hf => ih f.2 (List.mem_map_of_mem hf)
      simp only [merged, mergedFacets_eq_map, run, hfacets]
    | unionWith collection pipeline =>
      have hpipeline := runAll_merged (ih pipeline (by simp [pipelines]))
      simp only [merged, mergedAll_eq_map, run, hpipeline]
    | sort keys => simp only [merged, run, sorted, compareBy_mergeKeys _ _ here]
    | _ => rfl

/-- A pipeline that documents hold apart from sort keys is read back with its repeated keys
merged. -/
theorem ofDocuments_toDocuments {stages : List Stage} (h : AllFit stages) :
    ofDocuments (toDocuments stages) = .ok (stages.map merged) := by
  rw [toDocuments, ofDocuments, toDocumentList_eq_map]
  exact ofDocumentList_written fun s hs => ofDocument_toDocument (h s hs)

end Stage

namespace Compiler

variable {c : Compiler} {q : Query} {a : Aggregation}

/-- The printed pipeline of a query can be read.  What is read is the compiled pipeline exactly
if no sort stage of it, at any depth, has two keys of one name; otherwise such keys are merged.
The rows are still the same on every store if no key is merged with one of the other
direction. -/
theorem compile_prints (hq : q.windowsFit = true) (h : c.compile q = .ok a) :
    ∃ read, Stage.ofDocuments (Stage.toDocuments a.pipeline) = .ok read ∧
      read = a.pipeline.map Stage.merged ∧ (read = a.pipeline ↔ ∀ s ∈ a.pipeline,
      s.Every Stage.SortsByDistinctKeys) ∧ ((∀ s ∈ a.pipeline, s.Every Stage.SortsOneWay) →
        ∀ store : Store,
            store.aggregate a.collection read = store.aggregate a.collection a.pipeline) := by
  refine ⟨_, Stage.ofDocuments_toDocuments (compile_fits q hq h), rfl, ?_, fun hway store => ?_⟩
  · rw [← Stage.mergedAll_eq_map]
    exact Stage.mergedAll_eq_self_iff a.pipeline
  · exact Stage.runAll_merged (fun s hs vars docs => Stage.run_merged (hway s hs) store
      vars docs) [] _

/-- Books with a year. -/
def datedBooks : Compiler :=
  ⟨⟨[⟨"Book", some "books", false, [Model.primaryKey, ⟨"year", .scalar .integer, true,
    none⟩]⟩]⟩, .usual⟩

/-- Books by their years, and then by their years again, the latest first. -/
def yearsBothWays : Query :=
    Query.all "Book" |>.addOrder ⟨"year", false⟩ |>.addOrder ⟨"year", true⟩

/-- Two books of different years. -/
def twoBooks : Store :=
  ⟨[("books", [.object [("_id", .int 7), ("year", .int 1990)], .object [("_id", .int 8),
    ("year", .int 2000)]])]⟩

theorem sorted_pair (keys : List (String × Direction)) (a b : Value) :
    Stage.sorted keys [a, b] = if Stage.compareBy a b keys != .gt then [a, b] else [b, a] := by
  simp [Stage.sorted, List.mergeSort, List.MergeSort.Internal.splitInTwo, List.merge]

theorem yearsBothWays_printed : ∃ a read, datedBooks.compile yearsBothWays = .ok a ∧
    Stage.ofDocuments (Stage.toDocuments a.pipeline) = .ok read ∧ read ≠ a.pipeline ∧
    twoBooks.aggregate a.collection a.pipeline = .ok (twoBooks.collection "books") ∧
    twoBooks.aggregate a.collection read = .ok (twoBooks.collection "books").reverse := by
  have hcompiled : datedBooks.compile yearsBothWays = .ok ⟨"books",
      [.sort [("year", .ascending), ("year", .descending)],
        .project [("_id", .int 1), ("year", .int 1)]]⟩ := rfl
  obtain ⟨read, hread, hmerged, hsame, -⟩ := compile_prints (by decide) hcompiled
  obtain rfl : read = [.sort [("year", .descending)], .project [("_id", .int 1),
    ("year", .int 1)]] := hmerged
  have hdocs : twoBooks.collection "books" =
      [.object [("_id", .int 7), ("year", .int 1990)],
        .object [("_id", .int 8), ("year", .int 2000)]] := rfl
  refine ⟨_, _, hcompiled, hread, ?_, ?_, ?_⟩
  · intro heq
    have hkeys := (hsame.mp heq _ List.mem_cons_self).here
    simp [Stage.SortsByDistinctKeys] at hkeys
  · have hcompare : Stage.compareBy (.object [("_id", .int 7), ("year", .int 1990)])
        (.object [("_id", .int 8), ("year", .int 2000)])
            [("year", .ascending), ("year", .descending)] = .lt := by
      decide +kernel
    rw [Store.aggregate, hdocs, Stage.runAll, Stage.run, sorted_pair, hcompare]
    rfl
  · have hcompare : Stage.compareBy (.object [("_id", .int 7), ("year", .int 1990)])
        (.object [("_id", .int 8), ("year", .int 2000)]) [("year", .descending)] = .gt := by
      decide +kernel
    rw [Store.aggregate, hdocs, Stage.runAll, Stage.run, sorted_pair, hcompare]
    rfl

end Compiler

end DocQuery
