import DocQuery.Proofs.ClosedPaths
import DocQuery.Proofs.Rows
set_option autoImplicit false

/-!
# Proofs: the stages of compiled queries are closed

Literals, columns, sort keys and the stages around them, and how a plan of closed parts is
assembled.
-/

namespace DocQuery

/-! ## Lookups -/

namespace Lookup

open Value (closed_protect)

variable {vars : List String} {l : Lookup} {kind : Option ScalarKind} {v w : Value}

theorem closed_scalarLiteral (h : l.scalarLiteral kind v = .ok w) : w.Closed vars := by
  unfold scalarLiteral at h
  split at h
  · exact Except.ok.inj h ▸ closed_protect v
  · split at h
    · exact Except.ok.inj h ▸ closed_protect _
    · simp at h

theorem closed_scalarLiterals {vs ws : List Value} (h : l.scalarLiterals kind vs = .ok ws) :
    ∀ w ∈ ws, Value.Closed vars w := by
  induction vs generalizing ws with
  | nil => simp [← Except.ok.inj h]
  | cons v rest ih =>
    simp only [scalarLiterals] at h
    split at h
    · simp at h
    · rename_i w hw
      split at h
      · simp at h
      · rename_i others hothers
        rw [← Except.ok.inj h]
        exact List.forall_mem_cons.mpr ⟨closed_scalarLiteral hw, ih hothers⟩

theorem closed_listLiteral {vs : List Value} (h : l.listLiteral kind vs = .ok w) :
    w.Closed vars := by
  unfold listLiteral at h
  split at h
  · rename_i ws hws
    exact Except.ok.inj h ▸ .array (closed_scalarLiterals hws)
  · simp at h

/-- A literal is closed, whatever the text of the user. -/
theorem closed_literal (h : l.literal kind v = .ok w) : w.Closed vars := by
  unfold literal at h
  split at h
  · exact closed_scalarLiteral h
  · exact Except.ok.inj h ▸ Value.closed_bool _
  · simp at h
  · exact closed_listLiteral h
  · simp at h
  · exact closed_listLiteral h
  · simp at h
  · exact Except.ok.inj h ▸ closed_protect _
  · simp at h

/-- A lookup on a closed access with a closed value is closed. -/
theorem closed_buildOn {target : Access} {e : Value} (htarget : target.Closed vars)
    (hw : w.Closed vars) (h : l.buildOn target w = .ok e) : e.Closed vars := by
  have hbuild : (l.build target.render w).Closed vars := Value.closed_build l htarget.render hw
  unfold buildOn buildMapped at h
  split at h
  · split at h
    · exact Except.ok.inj h ▸ hbuild
    · split at h
      · cases htarget with
        | each hbase hinner =>
          have hbody := Value.closed_build l hinner.render (hw.mono (List.subset_cons_self _ _))
          rw [← Except.ok.inj h]
          exact .apply .anyElementTrue (Value.closed_mapOf hbase.render hbody)
      · simp at h
  · exact Except.ok.inj h ▸ hbuild

end Lookup

namespace Compiler

open Context (IsTidy)
open Value (closed_column closed_extend closed_int closed_null closed_pair)

variable {c : Compiler} {vars : List String} {ctx ctx' : Context} {e : Value} {type : ValueType}

/-! ## Columns and keys -/

/-- Columns whose expressions are closed and whose names do not look like operators. -/
def ClosedColumns (vars : List String) (columns : Document) : Prop :=
  ∀ m ∈ columns, isOperatorName m.1 = false ∧ Value.Closed vars m.2

theorem closedColumns_singleton {name : String} (hname : isOperatorName name = false)
    (he : e.Closed vars) : ClosedColumns vars [(name, e)] := by
  simpa [ClosedColumns] using ⟨hname, he⟩

theorem closed_plainColumns {names : List String}
    (h : ∀ name ∈ names, isOperatorName name = false) :
    ClosedColumns vars (names.map plainColumn) := by
  intro m hm
  obtain ⟨name, hname, rfl⟩ := List.mem_map.mp hm
  exact ⟨h name hname, closed_column (h name hname)⟩

theorem loadRelations_closed (hc : c.IsPlain)
    {related : List String} (hctx : ctx.IsTidy c.config)
    (h : c.loadRelations ctx related = .ok ctx') :
    ctx'.IsTidy c.config := by
  induction related generalizing ctx with
  | nil => exact Except.ok.inj h ▸ hctx
  | cons relation rest ih =>
    obtain ⟨e, type, after, he, hrest⟩ := loadRelations_cons_ok h
    obtain ⟨(_ : e.Closed []), htidy, -⟩ := fieldExpr_closed hc hctx he
    exact ih htidy hrest

theorem columnsOf_closed (hc : c.IsPlain)
    {paths : List String} {columns : List (String × Value)} (hctx : ctx.IsTidy c.config)
    (h : c.columnsOf ctx paths = .ok (columns, ctx')) :
    ClosedColumns vars columns ∧ ctx'.IsTidy c.config := by
  induction paths generalizing ctx columns with
  | nil =>
    obtain ⟨rfl, rfl⟩ := Prod.mk.inj (Except.ok.inj h)
    exact ⟨by simp [ClosedColumns], hctx⟩
  | cons path rest ih =>
    obtain ⟨e, type, after, others, he, hrest, rfl⟩ := columnsOf_cons_ok h
    obtain ⟨hclosed, htidy, hpath⟩ := fieldExpr_closed hc hctx he
    obtain ⟨hothers, htidy'⟩ := ih htidy hrest
    exact ⟨List.forall_mem_cons.mpr ⟨⟨hpath, hclosed⟩, hothers⟩, htidy'⟩

theorem returnedColumns_closed (hc : c.IsPlain)
    {annotations values : List String} {columns : List (String × Value)}
    (hannotations : ∀ name ∈ annotations, isOperatorName name = false)
    (hctx : ctx.IsTidy c.config)
    (h : c.returnedColumns ctx annotations values = .ok (columns, ctx')) :
    ClosedColumns vars columns ∧ ctx'.IsTidy c.config := by
  cases values with
  | nil =>
    obtain ⟨rfl, rfl⟩ := Prod.mk.inj (Except.ok.inj h)
    refine ⟨closed_plainColumns (List.forall_mem_append.mpr ⟨?_, hannotations⟩), hctx⟩
    intro name hname
    obtain ⟨f, hf, rfl⟩ := List.mem_map.mp hname
    exact (Model.field_plain hctx.model hf).2
  | cons path rest => exact columnsOf_closed hc hctx h

theorem sortKeys_closed (hc : c.IsPlain) {index : Nat}
    {keys : List OrderKey} {sorted : List (String × Direction) × Document}
    (hctx : ctx.IsTidy c.config) (h : c.sortKeys ctx index keys = .ok (sorted, ctx')) :
    (∀ m ∈ sorted.2, Value.Closed vars m.2) ∧ ctx'.IsTidy c.config := by
  induction keys generalizing ctx index sorted with
  | nil =>
    obtain ⟨rfl, rfl⟩ := Prod.mk.inj (Except.ok.inj h)
    exact ⟨by simp, hctx⟩
  | cons k rest ih =>
    obtain ⟨e, type, after, keys', computed', he, hrest, hcomputed⟩ := sortKeys_cons_ok h
    obtain ⟨hclosed, htidy, -⟩ := fieldExpr_closed hc hctx he
    obtain ⟨hothers, htidy'⟩ := ih htidy hrest
    refine ⟨?_, htidy'⟩
    rcases hcomputed with heq | heq
    · rw [heq]
      exact hothers
    · rw [heq]
      exact List.forall_mem_cons.mpr ⟨hclosed, hothers⟩

theorem outerBindings_closed (hc : c.IsPlain)
    {index : Nat} {paths : List String} {bindings : Document} (hctx : ctx.IsTidy c.config)
    (h : c.outerBindings ctx index paths = .ok (bindings, ctx')) :
    (∀ m ∈ bindings, Value.Closed vars m.2) ∧
      bindings.names = c.config.parentVariables index paths.length ∧ ctx'.IsTidy c.config := by
  induction paths generalizing ctx index bindings with
  | nil =>
    obtain ⟨rfl, rfl⟩ := Prod.mk.inj (Except.ok.inj h)
    exact ⟨by simp, rfl, hctx⟩
  | cons path rest ih =>
    obtain ⟨e, type, after, others, he, hrest, rfl⟩ := outerBindings_cons_ok h
    obtain ⟨hclosed, htidy, -⟩ := fieldExpr_closed hc hctx he
    obtain ⟨hothers, hnames, htidy'⟩ := ih htidy hrest
    refine ⟨List.forall_mem_cons.mpr ⟨hclosed, hothers⟩, ?_, htidy'⟩
    rw [List.length_cons, Config.parentVariables_succ, ← hnames]
    rfl

/-! ## Stages around the columns -/

theorem closed_addColumns {columns : Document} (h : ∀ m ∈ columns, Value.Closed vars m.2) :
    ∀ s ∈ addColumns columns, s.Closed vars := by
  unfold addColumns
  split
  · simp
  · simpa using Stage.Closed.addFields h

theorem closed_sortBy (keys : List (String × Direction)) :
    ∀ s ∈ sortBy keys, s.Closed vars := by
  unfold sortBy
  split
  · simp
  · simpa using Stage.Closed.sort keys

theorem closed_windowOf (offset limit : Option Nat) :
    ∀ s ∈ windowOf offset limit, s.Closed vars := by
  refine List.forall_mem_append.mpr ⟨?_, ?_⟩
  · cases offset with
    | none => simp
    | some n => simpa using Stage.Closed.skip n
  · cases limit with
    | none => simp
    | some n => simpa using Stage.Closed.limit n

theorem closed_projectionOf {columns : List (String × Value)} (h : ClosedColumns vars columns) :
    ClosedColumns vars (projectionOf columns) := by
  intro m hm
  rcases Document.mem_insertAll hm with hnil | hmem
  · simp at hnil
  · obtain ⟨column, hcolumn, rfl⟩ := List.mem_map.mp hmem
    obtain ⟨hname, hclosed⟩ := h column hcolumn
    unfold projectedColumn
    split
    · split
      · exact ⟨hname, closed_int 1⟩
      · exact ⟨hname, hclosed⟩
    · exact ⟨hname, hclosed⟩

theorem closed_project {columns : Document} (h : ClosedColumns vars columns) :
    (Stage.project columns).Closed vars :=
  .project fun m hm => (h m hm).2

theorem closed_projection {columns : List (String × Value)} (h : ClosedColumns [] columns) :
    (Stage.project (projectionOf columns)).Closed vars :=
  .mono (closed_project (closed_projectionOf h)) (List.nil_subset _)

theorem closed_distinct {names : List String}
    (h : ∀ name ∈ names, isOperatorName name = false) :
    ∀ s ∈ distinct names, s.Closed vars := by
  have hcolumns : ClosedColumns vars (names.map plainColumn) := closed_plainColumns h
  have hgroup : (Stage.group (.object (names.map plainColumn)) []).Closed vars :=
    .group (.object (fun m hm => (hcolumns m hm).1) fun m hm => (hcolumns m hm).2) (by simp)
  refine List.forall_mem_cons.mpr ⟨hgroup, List.forall_mem_singleton.mpr (.addFields ?_)⟩
  intro m hm
  obtain ⟨name, -, rfl⟩ := List.mem_map.mp hm
  have hid : isOperatorName "_id" = false := rfl
  exact closed_extend (closed_column hid) name

theorem closed_collecting (field : String) (h : e.Closed vars) :
    ∀ s ∈ collecting field e, s.Closed vars := by
  have hitem : isOperatorName itemField = false := rfl
  have hgroup : (Stage.group .null
      [(itemField, .operator "$addToSet" (.string ("$" ++ itemField)))]).Closed vars := by
    refine .group closed_null fun m hm => ?_
    obtain rfl := List.mem_singleton.mp hm
    exact ⟨"$addToSet", _, rfl, rfl, closed_column hitem⟩
  have hfield : isOperatorName groupField = false := rfl
  have hfirst : Value.Closed vars
      (.operator "$arrayElemAt" (.array [.string ("$" ++ groupField), .int 0])) :=
    .apply .elementAt (closed_pair (closed_column hfield) (closed_int 0))
  have hvalues : Value.Closed vars (.operator "$ifNull" (.array
      [Access.fieldOf (.operator "$arrayElemAt" (.array [.string ("$" ++ groupField), .int 0]))
        itemField, .array []])) :=
    .apply .ifNull (closed_pair (.field itemField hfirst) (.array (by simp)))
  have hproject : (Stage.project [(itemField, e)]).Closed vars :=
    closed_project (closedColumns_singleton hitem h)
  have hpipeline : ∀ s ∈ [Stage.project [(itemField, e)], .unwindAll itemField,
      .group .null [(itemField, .operator "$addToSet" (.string ("$" ++ itemField)))]],
      s.Closed vars := by
    simpa using ⟨hproject, .unwind itemField false, hgroup⟩
  refine List.forall_mem_cons.mpr ⟨.facet ?_, List.forall_mem_singleton.mpr (.project ?_)⟩
  · simpa using hpipeline
  · simpa using hvalues

theorem closed_wrapped {stages : List Stage} {column : String × Value} (isUnited : Bool)
    (h : ∀ s ∈ stages, s.Closed vars) (hname : isOperatorName column.1 = false)
    (hcolumn : column.2.Closed vars) : ∀ s ∈ wrapped stages column isUnited, s.Closed vars := by
  unfold wrapped
  split
  · exact List.forall_mem_append.mpr ⟨h, closed_collecting _ (closed_column hname)⟩
  · refine List.forall_mem_append.mpr ⟨fun s hs => ?_, closed_collecting _ hcolumn⟩
    exact h s (List.dropLast_subset _ hs)

theorem closed_firstOrEmpty {output : String} (h : isOperatorName output = false) :
    (firstOrEmpty output).Closed vars := by
  have hpath : Value.Closed vars (.string ("$" ++ output)) := closed_column h
  have hempty : Value.Closed vars (.object []) := .object (by simp) (by simp)
  refine .set (List.forall_mem_singleton.mpr ?_)
  exact .cond (Join.closed_isEmptyArray hpath) hempty
    (.apply .elementAt (closed_pair hpath (closed_int 0)))

/-! ## Plans -/

/-- A plan of closed parts, whose columns refer to no variables. -/
structure ClosedPlan (vars : List String) (p : Plan) : Prop where
  annotations : ∀ s ∈ p.annotations, s.Closed vars
  filter : ∀ f ∈ p.filter, Value.Closed vars f
  order : ∀ s ∈ p.order, s.Closed vars
  window : ∀ s ∈ p.window, s.Closed vars
  columns : ClosedColumns [] p.columns

section Plans

variable {p : Plan} (hc : c.IsPlain) (hctx : ctx.IsTidy c.config)
  (hp : ClosedPlan (ctx.outerVariables c.config) p)

include hc hctx hp

theorem closed_source : ∀ s ∈ c.source ctx p, s.Closed (ctx.outerVariables c.config) := by
  have hjoins : ∀ s ∈ ctx.joins.flatMap (fun j => j.2.stages c.config),
      s.Closed (ctx.outerVariables c.config) := by
    intro s hs
    obtain ⟨j, hj, hstage⟩ := List.mem_flatMap.mp hs
    exact Join.closed_stages hc.config (hctx.joins j hj) s hstage
  refine List.forall_mem_append.mpr ⟨List.forall_mem_append.mpr ⟨?_, hp.annotations⟩, ?_⟩
  · refine List.forall_mem_append.mpr ⟨hjoins, fun s hs => ?_⟩
    exact (hctx.subqueries s hs).mono (List.nil_subset _)
  · cases hfilter : p.filter with
    | none => simp
    | some f => simpa using Stage.Closed.select (hp.filter f hfilter)

theorem closed_single : ∀ s ∈ c.single ctx p, s.Closed (ctx.outerVariables c.config) := by
  have hsource := closed_source hc hctx hp
  refine List.forall_mem_append.mpr ⟨?_, ?_⟩
  · exact List.forall_mem_append.mpr ⟨List.forall_mem_append.mpr ⟨hsource, hp.order⟩, hp.window⟩
  · exact List.forall_mem_singleton.mpr (closed_projection hp.columns)

theorem closed_united {others : List Stage} (hothers : ∀ s ∈ others, s.Closed [])
    (orderBy : List OrderKey) (keepAll : Bool) :
    ∀ s ∈ c.united ctx p orderBy others keepAll, s.Closed (ctx.outerVariables c.config) := by
  have hcolumns := closed_projectionOf hp.columns
  have hnames : ∀ name ∈ (projectionOf p.columns).names, isOperatorName name = false := by
    intro name hname
    obtain ⟨m, hm, rfl⟩ := List.mem_map.mp hname
    exact (hcolumns m hm).1
  have hdistinct : ∀ s ∈ if keepAll then [] else distinct (projectionOf p.columns).names,
      s.Closed (ctx.outerVariables c.config) := by
    split
    · simp
    · exact closed_distinct hnames
  have hfront : ∀ s ∈ c.source ctx p ++ [.project (projectionOf p.columns)] ++ others,
      s.Closed (ctx.outerVariables c.config) := by
    refine List.forall_mem_append.mpr ⟨List.forall_mem_append.mpr ⟨?_, ?_⟩, ?_⟩
    · exact closed_source hc hctx hp
    · exact List.forall_mem_singleton.mpr (closed_projection hp.columns)
    · exact fun s hs => (hothers s hs).mono (List.nil_subset _)
  refine List.forall_mem_append.mpr ⟨?_, hp.window⟩
  exact List.forall_mem_append.mpr
    ⟨List.forall_mem_append.mpr ⟨hfront, hdistinct⟩, closed_sortBy _⟩

theorem assembleWith_closed {q : Query} {others : Except CompileError (List Stage)}
    {stages : List Stage} (hothers : ∀ added, others = .ok added → ∀ s ∈ added, s.Closed [])
    (h : c.assembleWith ctx q p others = .ok stages) :
    ∀ s ∈ stages, s.Closed (ctx.outerVariables c.config) := by
  rcases assembleWith_ok h with rfl | ⟨added, keepAll, hadded, rfl⟩
  · exact closed_single hc hctx hp
  · exact closed_united hc hctx hp (hothers added hadded) q.orderBy keepAll

end Plans

end Compiler

end DocQuery
