import DocQuery.Proofs.Growth
import DocQuery.Proofs.Relations
import DocQuery.Proofs.Uses
set_option autoImplicit false

/-!
# Proofs: compiling follows the paths that are used

What compiling does to the joins of a context is what following the paths of a query does, one
path after another.  So an invariant of the joins only has to be shown for a single path.
-/

namespace DocQuery

namespace Context

/-! ## Known columns -/

/-- Whether some names are those of the computed columns. -/
def Knows (ctx : Context) (known : List String) : Prop :=
  ∀ name, (ctx.computedType? name).isSome = true ↔ name ∈ known

theorem Knows.addAnnotation {ctx : Context} {known : List String} (h : ctx.Knows known)
    (name : String)
    (type : ValueType) : (ctx.addAnnotation name type).Knows (known ++ [name]) := by
  intro other
  by_cases hname : name = other
  · subst hname
    simp
  · have hother : (ctx.addAnnotation name type).computedType? other = ctx.computedType? other :=
      findType_setType_ne ctx.annotations type hname
    rw [hother, h other]
    simp [Ne.symm hname]

/-! ## Traces -/

/-- The context after a path was followed: a check for null keeps documents without a match. -/
def noteUse (u : Use) (e : Ending) (after : Context) : Context :=
  if u.isLookup = true ∧ e.lookup? = some .isnull then after.promote e.joins else after

theorem Alike.noteUse (u : Use) (e : Ending) (ctx : Context) : Alike ctx (noteUse u e ctx) := by
  unfold Context.noteUse
  split
  · exact promote ctx e.joins
  · exact refl ctx

/-- A context that another one becomes when paths are followed.  Between the paths the joins
stay as they are; how often and in which order the paths are listed does not count. -/
inductive Traced (c : Compiler) : Context → List Use → Context → Prop where
  | quiet {ctx ctx' : Context} (hmodel : ctx'.model = ctx.model)
    (hjoins : ctx'.joins = ctx.joins) :
    Traced c ctx [] ctx'
  | use {ctx after : Context} {u : Use} {e : Ending} (hknown : ctx.Knows u.known)
    (hnested : u.nested = decide (0 < ctx.nullableDepth))
    (hpath : c.followPath ctx u.path = (.ok e, after)) : Traced c ctx [u] (noteUse u e after)
  | append {ctx ctx' ctx'' : Context} {us vs : List Use} (hfirst : Traced c ctx us ctx')
    (hrest : Traced c ctx' vs ctx'') : Traced c ctx (us ++ vs) ctx''
  | listed {ctx ctx' : Context} {us vs : List Use} (hsame : ∀ u, u ∈ us ↔ u ∈ vs)
    (h : Traced c ctx us ctx') : Traced c ctx vs ctx'

/-- A part of a query was compiled: its paths were followed and its outer references were
noted. -/
structure Follows (c : Compiler) (uses : List Use) (outer : List String)
    (ctx ctx' : Context) : Prop where
  traced : Traced c ctx uses ctx'
  depth : ctx'.nullableDepth = ctx.nullableDepth
  annotations : ctx'.annotations = ctx.annotations
  outer : ∀ path, path ∈ ctx'.outerRefs.getD [] ↔ path ∈ ctx.outerRefs.getD [] ∨ path ∈ outer

namespace Follows

variable {c : Compiler} {ctx ctx' ctx'' : Context} {us vs : List Use}
  {paths others known : List String}

theorem quiet (hmodel : ctx'.model = ctx.model) (hjoins : ctx'.joins = ctx.joins)
    (hdepth : ctx'.nullableDepth = ctx.nullableDepth)
    (hannotations : ctx'.annotations = ctx.annotations)
    (houter : ctx'.outerRefs = ctx.outerRefs) : Follows c [] [] ctx ctx' where
  traced := .quiet hmodel hjoins
  depth := hdepth
  annotations := hannotations
  outer := by simp [houter]

theorem refl (ctx : Context) : Follows c [] [] ctx ctx := quiet rfl rfl rfl rfl rfl

theorem append (h : Follows c us paths ctx ctx') (h' : Follows c vs others ctx' ctx'') :
    Follows c (us ++ vs) (paths ++ others) ctx ctx'' where
  traced := h.traced.append h'.traced
  depth := h'.depth.trans h.depth
  annotations := h'.annotations.trans h.annotations
  outer := fun path => by rw [h'.outer, h.outer, List.mem_append, or_assoc]

theorem knows (h : Follows c us paths ctx ctx') (hknown : ctx.Knows known) :
    ctx'.Knows known := by
  intro name
  rw [computedType?, h.annotations]
  exact hknown name

theorem nested (h : Follows c us paths ctx ctx') {nested : Bool}
    (hnested : nested = decide (0 < ctx.nullableDepth)) :
        nested = decide (0 < ctx'.nullableDepth) := by
  rw [h.depth, hnested]

/-- What is compiled inside a disjunction or negation. -/
theorem inside (h : Follows c us paths ctx.enter ctx') : Follows c us paths ctx ctx'.leave where
  traced := by
    have hout : Traced c ctx' [] ctx'.leave := .quiet rfl rfl
    have hin : Traced c ctx [] ctx.enter := .quiet rfl rfl
    simpa using hin.append (h.traced.append hout)
  depth := by simp [leave, h.depth, enter]
  annotations := h.annotations
  outer := h.outer

end Follows

end Context

namespace Compiler

open Context (Alike Follows Traced)

variable {c : Compiler} {ctx ctx' : Context} {path : String}

/-! ## Paths -/

/-- Following paths does not change the model of a query. -/
theorem traced_model {us : List Use} (h : Traced c ctx us ctx') : ctx'.model = ctx.model := by
  induction h with
  | quiet hmodel _ => exact hmodel
  | use _ _ hpath => exact ((followPath_alike hpath).trans (.noteUse _ _ _)).model
  | append _ _ ihfirst ihrest => exact ihrest.trans ihfirst
  | listed _ _ ih => exact ih

theorem outerExpr_follows {e : Value} {type : ValueType}
    (h : c.outerExpr ctx path = .ok ((e, type), ctx')) : Follows c [] [path] ctx ctx' := by
  obtain ⟨index, hindex, -⟩ := outerExpr_ok h
  unfold Context.outerRef at hindex
  split at hindex
  · simp at hindex
  · rename_i refs hrefs
    split at hindex
    · rename_i place hplace
      obtain ⟨-, rfl⟩ := Prod.mk.inj hindex
      obtain ⟨hlt, heq, -⟩ := List.findIdx?_eq_some_iff_getElem.mp hplace
      have hmem : path ∈ refs := by
        rw [← eq_of_beq heq]
        exact List.getElem_mem hlt
      refine ⟨.quiet rfl rfl, rfl, rfl, fun other => ?_⟩
      simp only [hrefs, Option.getD_some, List.mem_singleton]
      constructor
      · exact .inl
      · rintro (hother | rfl)
        · exact hother
        · exact hmem
    · obtain ⟨-, rfl⟩ := Prod.mk.inj hindex
      exact ⟨.quiet rfl rfl, rfl, rfl, fun other => by simp [hrefs]⟩

/-- Recognizing a lookup is what following its path makes of the context. -/
theorem noteUse_lookup (path : String) (known : List String) (nested : Bool) (e : Ending)
    (ctx : Context) : Context.noteUse ⟨path, known, nested, true⟩ e ctx =
      noteLookup ⟨e.target, e.lookup?.getD .exact, e.joins⟩ ctx := by
  unfold Context.noteUse noteLookup
  cases e.lookup? <;> simp

section Paths

variable {known : List String} {nested : Bool} (hknown : ctx.Knows known)
  (hnested : nested = decide (0 < ctx.nullableDepth))
include hknown hnested

theorem followPath_follows {ending : Ending} (isLookup : Bool)
    (h : c.followPath ctx path = (.ok ending, ctx')) :
    Follows c [⟨path, known, nested, isLookup⟩] [] ctx
      (Context.noteUse ⟨path, known, nested, isLookup⟩ ending ctx') := by
  have halike := (followPath_alike h).trans (.noteUse ⟨path, known, nested,
    isLookup⟩ ending ctx')
  exact ⟨.use hknown hnested h, halike.depth, halike.annotations, by simp [halike.outer]⟩

theorem fieldExpr_follows {e : Value} {type : ValueType}
    (h : c.fieldExpr ctx path = .ok ((e, type), ctx')) :
    Follows c [⟨path, known, nested, false⟩] [] ctx ctx' := by
  obtain ⟨ending, hend, -⟩ := fieldExpr_ok h
  simpa [Context.noteUse] using followPath_follows hknown hnested false hend

theorem resolveLookup_follows {r : Resolved} (h : c.resolveLookup ctx path = (.ok r, ctx')) :
    Follows c [⟨path, known, nested, true⟩] [] ctx (noteLookup r ctx') := by
  obtain ⟨ending, hend, hcompared⟩ := resolveLookup_ok h
  obtain ⟨rfl, -⟩ := compared_ok hcompared
  have hfollows := followPath_follows hknown hnested true hend
  rwa [noteUse_lookup] at hfollows

theorem outerBindings_follows {index : Nat} {paths : List String} {bindings : Document}
    (h : c.outerBindings ctx index paths = .ok (bindings, ctx')) :
    Follows c (paths.map fun path => ⟨path, known, nested, false⟩) [] ctx ctx' := by
  induction paths generalizing ctx index bindings with
  | nil =>
    obtain ⟨-, rfl⟩ := Prod.mk.inj (Except.ok.inj h)
    exact .refl _
  | cons path rest ih =>
    obtain ⟨e, type, after, others, he, hrest, -⟩ := outerBindings_cons_ok h
    have hfirst := fieldExpr_follows hknown hnested he
    exact hfirst.append (ih (hfirst.knows hknown) (hfirst.nested hnested) hrest)

/-- A subquery that was compiled by itself follows the paths of its outer references. -/
theorem compileSubquery_follows_of {wrap : Bool} {q : Query} {e : Value}
    (houter : ∀ n, c.nested q = .ok n → ∀ path, path ∈ n.outer ↔ path ∈ q.outerPaths)
    (h : c.compileSubquery ctx wrap q = .ok (e, ctx')) :
    Follows c (q.outerUses known nested) [] ctx ctx' := by
  obtain ⟨n, hn, hplaced⟩ := compileSubquery_ok h
  obtain ⟨bindings, after, hbindings, -, rfl⟩ := placeSubquery_ok hplaced
  have hfollows := outerBindings_follows hknown hnested hbindings
  have hpush : Follows c [] [] after (after.nextSubquery.2.pushStages
      [.lookup n.model.collection bindings (n.placed q wrap) (c.config.subqueryField
        after.subqueryCount), firstOrEmpty (c.config.subqueryField after.subqueryCount)]) :=
    .quiet rfl rfl rfl rfl rfl
  have hall := hfollows.append hpush
  refine ⟨?_, hall.depth, hall.annotations, hall.outer⟩
  refine .listed (fun u => ?_) hall.traced
  simp [Query.outerUses, houter n hn]

end Paths

/-! ## Plans -/

section Plans

variable {known : List String}

theorem not_nested (hdepth : ctx.nullableDepth = 0) :
    false = decide (0 < ctx.nullableDepth) := by
  simp [hdepth]

/-- Computed columns were compiled: their paths were followed, and from then on they are
known. -/
structure FollowsColumns (c : Compiler) (known : List String)
    (annotations : List (String × Expr)) (ctx ctx' : Context) : Prop where
  traced : Traced c ctx (Query.usesOfColumns known annotations) ctx'
  depth : ctx'.nullableDepth = 0
  knows : ctx'.Knows (known ++ annotations.map (·.1))
  outer : ∀ path, path ∈ ctx'.outerRefs.getD [] ↔
    path ∈ ctx.outerRefs.getD [] ∨ path ∈ Expr.outerPathsOf (annotations.map (·.2))

theorem FollowsColumns.nil (hknown : ctx.Knows known) (hdepth : ctx.nullableDepth = 0) :
    FollowsColumns c known [] ctx ctx where
  traced := .quiet rfl rfl
  depth := hdepth
  knows := by simpa using hknown
  outer := by simp [Expr.outerPathsOf]

theorem FollowsColumns.cons {after : Context} {name : String} {body : Expr}
    {rest : List (String × Expr)}
    (hfirst : Follows c (body.uses known false) body.outerPaths ctx after) (type : ValueType)
    (hrest : FollowsColumns c (known ++ [name]) rest (after.clearRefs.addAnnotation name type)
      ctx') :
    FollowsColumns c known ((name, body) :: rest) ctx ctx' where
  traced := by
    have hadd : Traced c after [] (after.clearRefs.addAnnotation name type) := .quiet rfl rfl
    simpa [Query.usesOfColumns] using hfirst.traced.append (hadd.append hrest.traced)
  depth := hrest.depth
  knows := by simpa using hrest.knows
  outer := fun path => by
    have hsame : (after.clearRefs.addAnnotation name type).outerRefs = after.outerRefs := rfl
    rw [hrest.outer, hsame, hfirst.outer]
    simp [Expr.outerPathsOf, or_assoc]

theorem loadRelations_follows {related : List String} (hknown : ctx.Knows known)
    (hdepth : ctx.nullableDepth = 0) (h : c.loadRelations ctx related = .ok ctx') :
    Follows c (Query.references known (related.map fun relation =>
      Text.extendPath relation keyName)) [] ctx ctx' := by
  induction related generalizing ctx with
  | nil => exact Except.ok.inj h ▸ .refl _
  | cons relation rest ih =>
    obtain ⟨e, type, after, he, hrest⟩ := loadRelations_cons_ok h
    have hfirst := fieldExpr_follows hknown (not_nested hdepth) he
    exact hfirst.append (ih (hfirst.knows hknown) (hfirst.depth.trans hdepth) hrest)

theorem sortKeys_follows {index : Nat} {keys : List OrderKey}
    {sorted : List (String × Direction) × Document}
    (hknown : ctx.Knows known) (hdepth : ctx.nullableDepth = 0)
    (h : c.sortKeys ctx index keys = .ok (sorted, ctx')) :
    Follows c (Query.references known (keys.map (·.path))) [] ctx ctx' := by
  induction keys generalizing ctx index sorted with
  | nil =>
    obtain ⟨-, rfl⟩ := Prod.mk.inj (Except.ok.inj h)
    exact .refl _
  | cons k rest ih =>
    obtain ⟨e, type, after, keys', computed', he, hrest, -⟩ := sortKeys_cons_ok h
    have hfirst := fieldExpr_follows hknown (not_nested hdepth) he
    exact hfirst.append (ih (hfirst.knows hknown) (hfirst.depth.trans hdepth) hrest)

theorem columnsOf_follows {paths : List String} {columns : List (String × Value)}
    (hknown : ctx.Knows known) (hdepth : ctx.nullableDepth = 0)
    (h : c.columnsOf ctx paths = .ok (columns, ctx')) :
    Follows c (Query.references known paths) [] ctx ctx' := by
  induction paths generalizing ctx columns with
  | nil =>
    obtain ⟨-, rfl⟩ := Prod.mk.inj (Except.ok.inj h)
    exact .refl _
  | cons path rest ih =>
    obtain ⟨e, type, after, others, he, hrest, -⟩ := columnsOf_cons_ok h
    have hfirst := fieldExpr_follows hknown (not_nested hdepth) he
    exact hfirst.append (ih (hfirst.knows hknown) (hfirst.depth.trans hdepth) hrest)

theorem returnedColumns_follows {annotations values : List String}
    {columns : List (String × Value)}
    (hknown : ctx.Knows known) (hdepth : ctx.nullableDepth = 0)
    (h : c.returnedColumns ctx annotations values = .ok (columns, ctx')) :
    Follows c (Query.references known values) [] ctx ctx' := by
  cases values with
  | nil =>
    obtain ⟨-, rfl⟩ := Prod.mk.inj (Except.ok.inj h)
    exact .refl _
  | cons path rest => exact columnsOf_follows hknown hdepth h

/-- A planned query followed its paths, and its outer references are those that it contains, if
compiling its computed columns and its filter does so. -/
theorem planWith_follows_of {q : Query} {p : Plan} {m : Model}
    (hstart : ctx = .ofModel m ∨ ctx = .ofSubquery m)
    (h : c.planWith ctx q (fun ctx => c.compileAnnotations [] ctx q.annotations)
      (fun ctx => c.compileCondition ctx q.filter) = .ok (p, ctx'))
    (hannotations : ∀ {ctx ctx' : Context} {stages : List Stage}, ctx.Knows [] →
      ctx.nullableDepth = 0 → c.compileAnnotations [] ctx q.annotations = .ok (stages, ctx') →
      FollowsColumns c [] q.annotations ctx ctx')
    (hcondition : ∀ {ctx ctx' : Context} {condition : Option Value},
      ctx.Knows (q.annotations.map (·.1)) → false = decide (0 < ctx.nullableDepth) →
      c.compileCondition ctx q.filter = .ok (condition, ctx') →
      Follows c (Filter.usesOf (q.annotations.map (·.1)) false q.filter.toList)
        (Filter.outerPathsOf q.filter.toList) ctx ctx') :
    Traced c ctx q.uses ctx' ∧ ∀ path, path ∈ ctx'.outerRefs.getD [] ↔ path ∈ q.outerPaths := by
  obtain ⟨loaded, stages, computed, condition, filtered, keys, fields, sorted, columns, hloaded,
    hstages, hfilter, hsorted, hreturned, -⟩ := planWith_ok h
  have hempty : ctx.Knows [] ∧ ctx.nullableDepth = 0 ∧ ctx.outerRefs.getD [] = [] := by
    rcases hstart with rfl | rfl <;> exact ⟨fun name => by simp [Context.computedType?,
      Context.ofSubquery, Context.ofModel, Context.findType], rfl, rfl⟩
  obtain ⟨hknown, hdepth, houter⟩ := hempty
  have hrelated := loadRelations_follows hknown hdepth hloaded
  have hcolumns := hannotations (hrelated.knows hknown) (hrelated.depth.trans hdepth) hstages
  have hwhere := hcondition hcolumns.knows (not_nested hcolumns.depth) hfilter
  have horder := sortKeys_follows (hwhere.knows hcolumns.knows) (hwhere.depth.trans
    hcolumns.depth) hsorted
  have hvalues := returnedColumns_follows (horder.knows (hwhere.knows hcolumns.knows))
    (horder.depth.trans (hwhere.depth.trans hcolumns.depth)) hreturned
  refine ⟨?_, fun path => ?_⟩
  · exact (((hrelated.traced.append hcolumns.traced).append hwhere.traced).append
      horder.traced).append hvalues.traced
  · rw [hvalues.outer, horder.outer, hwhere.outer, hcolumns.outer, hrelated.outer, houter]
    simp [Query.outerPaths]

theorem nested_outerPaths_of {q : Query} {n : Nested} (hn : c.nested q = .ok n)
    (hannotations : ∀ {ctx ctx' : Context} {stages : List Stage}, ctx.Knows [] →
      ctx.nullableDepth = 0 → c.compileAnnotations [] ctx q.annotations = .ok (stages, ctx') →
      FollowsColumns c [] q.annotations ctx ctx')
    (hcondition : ∀ {ctx ctx' : Context} {condition : Option Value},
      ctx.Knows (q.annotations.map (·.1)) → false = decide (0 < ctx.nullableDepth) →
      c.compileCondition ctx q.filter = .ok (condition, ctx') →
      Follows c (Filter.usesOf (q.annotations.map (·.1)) false q.filter.toList)
        (Filter.outerPathsOf q.filter.toList) ctx ctx') :
    ∀ path, path ∈ n.outer ↔ path ∈ q.outerPaths := by
  obtain ⟨p, inner, -, hplan, -, -, houter⟩ := nested_ok hn
  rw [houter]
  exact (planWith_follows_of (.inr rfl) hplan hannotations hcondition).2

end Plans

/-! ## Trees -/

mutual

theorem compileFilter_follows {known : List String} {nested : Bool} (ctx : Context)
    {ctx' : Context} (f : Filter) {e : Value}
    (hknown : ctx.Knows known) (hnested : nested = decide (0 < ctx.nullableDepth))
    (h : c.compileFilter ctx f = .ok (e, ctx')) :
    Follows c (f.uses known nested) f.outerPaths ctx ctx' := by
  match f with
  | .lookup path operand =>
    rw [Filter.uses, Filter.outerPaths]
    by_cases hcomputed : isComputed operand = true
    · obtain ⟨r, after, w, type, hr, -, hw⟩ := compileFilter_computed_ok hcomputed h
      have hpath := resolveLookup_follows hknown hnested hr
      exact hpath.append (compileExpr_follows _ operand (hpath.knows hknown)
        (hpath.nested hnested) hw)
    · match operand with
      | .literal v =>
        obtain ⟨r, after, w, hr, -, -, rfl⟩ := compileFilter_literal_ok h
        exact resolveLookup_follows hknown hnested hr
      | .list items =>
        obtain ⟨r, after, vs, hr, -, -, hvs⟩ := compileFilter_list_ok h
        have hpath := resolveLookup_follows hknown hnested hr
        rw [Expr.uses, Expr.outerPaths]
        exact hpath.append (compileItems_follows _ items (hpath.knows hknown)
          (hpath.nested hnested) hvs)
      | .subquery q =>
        obtain ⟨r, after, w, hr, -, hw⟩ := compileFilter_subquery_ok h
        have hpath := resolveLookup_follows hknown hnested hr
        rw [Expr.uses, Expr.outerPaths]
        exact hpath.append
          (compileSubquery_follows _ q (hpath.knows hknown) (hpath.nested hnested) hw)
      | .field _ | .outer _ | .combined _ _ _ | .case _ _ | .condition _ =>
        exact absurd rfl hcomputed
  | .and filters =>
    obtain ⟨es, hes, -⟩ := compileFilter_and_ok h
    rw [Filter.uses, Filter.outerPaths]
    exact compileFilters_follows ctx filters hknown hnested hes
  | .or filters =>
    obtain ⟨es, inside, hes, -, rfl⟩ := compileFilter_or_ok h
    rw [Filter.uses, Filter.outerPaths]
    exact (compileFilters_follows ctx.enter filters hknown (by simp [Context.enter]) hes).inside
  | .not filter =>
    obtain ⟨v, inside, hv, -, rfl⟩ := compileFilter_not_ok h
    rw [Filter.uses, Filter.outerPaths]
    exact (compileFilter_follows ctx.enter filter hknown (by simp [Context.enter]) hv).inside
  | .exists q =>
    obtain ⟨v, hv, -⟩ := compileFilter_exists_ok h
    rw [Filter.uses, Filter.outerPaths]
    exact compileSubquery_follows ctx q hknown hnested hv

theorem compileFilters_follows {known : List String} {nested : Bool} (ctx : Context)
    {ctx' : Context} (filters : List Filter) {es : List Value}
    (hknown : ctx.Knows known) (hnested : nested = decide (0 < ctx.nullableDepth))
    (h : c.compileFilters ctx filters = .ok (es, ctx')) :
    Follows c (Filter.usesOf known nested filters) (Filter.outerPathsOf filters) ctx ctx' := by
  match filters with
  | [] =>
    rw [compileFilters] at h
    obtain ⟨-, rfl⟩ := Prod.mk.inj (Except.ok.inj h)
    exact .refl _
  | f :: rest =>
    obtain ⟨v, after, others, hv, hrest, -⟩ := compileFilters_cons_ok h
    have hfirst := compileFilter_follows ctx f hknown hnested hv
    rw [Filter.usesOf, Filter.outerPathsOf]
    exact hfirst.append
      (compileFilters_follows after rest (hfirst.knows hknown) (hfirst.nested hnested) hrest)

theorem compileItems_follows {known : List String} {nested : Bool} {r : Resolved}
    (ctx : Context) {ctx' : Context} (items : List Expr)
    {es : List Value} (hknown : ctx.Knows known)
    (hnested : nested = decide (0 < ctx.nullableDepth))
    (h : c.compileItems r ctx items = .ok (es, ctx')) :
    Follows c (Expr.usesOf known nested items) (Expr.outerPathsOf items) ctx ctx' := by
  match items with
  | [] =>
    rw [compileItems] at h
    obtain ⟨-, rfl⟩ := Prod.mk.inj (Except.ok.inj h)
    exact .refl _
  | item :: rest =>
    obtain ⟨v, after, others, hrest, -, hitem⟩ := compileItems_cons_ok h
    have hfirst : Follows c (item.uses known nested) item.outerPaths ctx after := by
      rcases hitem with ⟨w, rfl, -, rfl⟩ | ⟨type, hexpr⟩
      · exact .refl _
      · exact compileExpr_follows ctx item hknown hnested hexpr
    rw [Expr.usesOf, Expr.outerPathsOf]
    exact hfirst.append
      (compileItems_follows after rest (hfirst.knows hknown) (hfirst.nested hnested) hrest)

theorem compileExpr_follows {known : List String} {nested : Bool} (ctx : Context)
    {ctx' : Context} (body : Expr) {e : Value} {type : ValueType}
    (hknown : ctx.Knows known) (hnested : nested = decide (0 < ctx.nullableDepth))
    (h : c.compileExpr ctx body = .ok ((e, type), ctx')) :
    Follows c (body.uses known nested) body.outerPaths ctx ctx' := by
  match body with
  | .literal v =>
    rw [compileExpr] at h
    obtain ⟨-, rfl⟩ := Prod.mk.inj (Except.ok.inj h)
    exact .refl _
  | .field path =>
    rw [compileExpr] at h
    exact fieldExpr_follows hknown hnested h
  | .outer path =>
    rw [compileExpr] at h
    exact outerExpr_follows h
  | .list items =>
    obtain ⟨es, hes, -⟩ := compileExpr_list_ok h
    rw [Expr.uses, Expr.outerPaths]
    exact compileExprs_follows ctx items hknown hnested hes
  | .combined op left right =>
    obtain ⟨a, s, after, b, t, ha, hb, -⟩ := compileExpr_combined_ok h
    have hfirst := compileExpr_follows ctx left hknown hnested ha
    rw [Expr.uses, Expr.outerPaths]
    exact hfirst.append
      (compileExpr_follows after right (hfirst.knows hknown) (hfirst.nested hnested) hb)
  | .case branches otherwise =>
    obtain ⟨bs, after, v, hbs, hv, -⟩ := compileExpr_case_ok h
    have hfirst := compileBranches_follows ctx branches hknown hnested hbs
    rw [Expr.uses, Expr.outerPaths]
    exact hfirst.append
      (compileExpr_follows after otherwise (hfirst.knows hknown) (hfirst.nested hnested) hv)
  | .condition filter =>
    rw [Expr.uses, Expr.outerPaths]
    exact compileFilter_follows ctx filter hknown hnested (compileExpr_condition_ok h)
  | .subquery q =>
    rw [Expr.uses, Expr.outerPaths]
    exact compileSubquery_follows ctx q hknown hnested (compileExpr_subquery_ok h)

theorem compileExprs_follows {known : List String} {nested : Bool} (ctx : Context)
    {ctx' : Context} (items : List Expr) {es : List Value}
    (hknown : ctx.Knows known) (hnested : nested = decide (0 < ctx.nullableDepth))
    (h : c.compileExprs ctx items = .ok (es, ctx')) :
    Follows c (Expr.usesOf known nested items) (Expr.outerPathsOf items) ctx ctx' := by
  match items with
  | [] =>
    rw [compileExprs] at h
    obtain ⟨-, rfl⟩ := Prod.mk.inj (Except.ok.inj h)
    exact .refl _
  | item :: rest =>
    obtain ⟨v, type, after, others, hv, hrest, -⟩ := compileExprs_cons_ok h
    have hfirst := compileExpr_follows ctx item hknown hnested hv
    rw [Expr.usesOf, Expr.outerPathsOf]
    exact hfirst.append
      (compileExprs_follows after rest (hfirst.knows hknown) (hfirst.nested hnested) hrest)

theorem compileBranches_follows {known : List String} {nested : Bool} (ctx : Context)
    {ctx' : Context} (branches : List (Filter × Expr))
    {es : List Value} (hknown : ctx.Knows known)
    (hnested : nested = decide (0 < ctx.nullableDepth))
    (h : c.compileBranches ctx branches = .ok (es, ctx')) :
    Follows c (Expr.usesOfBranches known nested branches) (Expr.outerPathsOfBranches branches)
        ctx ctx' := by
  match branches with
  | [] =>
    rw [compileBranches] at h
    obtain ⟨-, rfl⟩ := Prod.mk.inj (Except.ok.inj h)
    exact .refl _
  | (f, body) :: rest =>
    obtain ⟨condition, after, v, type, after', others, hf, hv, hrest, -⟩ :=
      compileBranches_cons_ok h
    have hcondition := compileFilter_follows ctx f hknown hnested hf
    have hfirst := hcondition.append
      (compileExpr_follows after body (hcondition.knows hknown) (hcondition.nested hnested) hv)
    rw [Expr.usesOfBranches, Expr.outerPathsOfBranches]
    exact hfirst.append
      (compileBranches_follows after' rest (hfirst.knows hknown) (hfirst.nested hnested) hrest)

theorem compileSubquery_follows {known : List String} {nested : Bool} (ctx : Context)
    {ctx' : Context} {wrap : Bool} (q : Query) {e : Value}
    (hknown : ctx.Knows known) (hnested : nested = decide (0 < ctx.nullableDepth))
    (h : c.compileSubquery ctx wrap q = .ok (e, ctx')) :
    Follows c (q.outerUses known nested) [] ctx ctx' := by
  match q with
  | .mk model filter annotations values orderBy offset limit related union =>
    refine compileSubquery_follows_of hknown hnested (fun n hn => ?_) h
    exact nested_outerPaths_of hn
      (fun hknown hdepth h => compileAnnotations_follows annotations hknown hdepth h)
      (fun hknown hnested h => compileCondition_follows filter hknown hnested h)

theorem compileAnnotations_follows {known : List String} {ctx ctx' : Context}
    {pending : Document} (annotations : List (String × Expr)) {stages : List Stage}
    (hknown : ctx.Knows known) (hdepth : ctx.nullableDepth = 0)
    (h : c.compileAnnotations pending ctx annotations = .ok (stages, ctx')) :
    FollowsColumns c known annotations ctx ctx' := by
  match annotations with
  | [] =>
    rw [compileAnnotations] at h
    obtain ⟨-, rfl⟩ := Prod.mk.inj (Except.ok.inj h)
    exact .nil hknown hdepth
  | (name, body) :: rest =>
    obtain ⟨v, type, after, hv, hrest⟩ := compileAnnotations_cons_ok h
    have hfirst := compileExpr_follows ctx body hknown (not_nested hdepth) hv
    refine .cons hfirst type ?_
    have hnext := Context.Knows.addAnnotation (hfirst.knows hknown) name type
    have hdepth' : (after.clearRefs.addAnnotation name type).nullableDepth = 0 :=
      hfirst.depth.trans hdepth
    rcases hrest with ⟨others, hothers, -⟩ | ⟨-, hothers⟩
    · exact compileAnnotations_follows rest hnext hdepth' hothers
    · exact compileAnnotations_follows rest hnext hdepth' hothers

theorem compileCondition_follows {known : List String} {nested : Bool} {ctx ctx' : Context}
    (f : Option Filter) {condition : Option Value}
    (hknown : ctx.Knows known) (hnested : nested = decide (0 < ctx.nullableDepth))
    (h : c.compileCondition ctx f = .ok (condition, ctx')) :
    Follows c (Filter.usesOf known nested f.toList) (Filter.outerPathsOf f.toList)
        ctx ctx' := by
  match f with
  | none =>
    rw [compileCondition] at h
    obtain ⟨-, rfl⟩ := Prod.mk.inj (Except.ok.inj h)
    exact .refl _
  | some f =>
    obtain ⟨v, hv, -⟩ := compileCondition_some_ok h
    have hfilter := compileFilter_follows ctx f hknown hnested hv
    simpa [Filter.usesOf, Filter.outerPathsOf] using hfilter

end

/-- The final context of a query is what its paths make of an empty one. -/
theorem plan_follows {q : Query} {p : Plan} {m : Model}
    (hstart : ctx = .ofModel m ∨ ctx = .ofSubquery m)
    (h : c.planWith ctx q (fun ctx => c.compileAnnotations [] ctx q.annotations)
      (fun ctx => c.compileCondition ctx q.filter) = .ok (p, ctx')) :
          Traced c ctx q.uses ctx' :=
  (planWith_follows_of hstart h
    (fun hknown hdepth h => compileAnnotations_follows q.annotations hknown hdepth h)
    fun hknown hnested h => compileCondition_follows q.filter hknown hnested h).1

end Compiler

end DocQuery
