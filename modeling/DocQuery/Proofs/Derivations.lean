import DocQuery.Proofs.JoinKinds
import DocQuery.Proofs.RowIdentities
set_option autoImplicit false

/-!
# Proofs: derivations of pipelines

How the pipeline of a query comes about that has no window and no union: what its parts are
compiled to, one after another, and what the stages do with the identities of the rows.
-/

namespace DocQuery

open Value

/-- Whether a query returns all documents that it finds: it has no window and no union. -/
structure Query.IsUncut (q : Query) : Prop where
  offset : q.offset = none
  limit : q.limit = none
  union : q.union = none

/-- Stages that add fields make no array of a row. -/
theorem Stage.items_of_adding {stages : List Stage} {key : String}
    (h : ∀ s ∈ stages, s.addsFields = true ∧ s.Keeps key) {store : Store}
    {rows outs : List Value}
    (hrows : ∀ row ∈ rows, row.items? = none)
    (hrun : Stage.runAll store stages [] rows = .ok outs) :
    ∀ out ∈ outs, out.items? = none := by
  intro out hout
  have hall := forall₂_of_runAll (fun s hs => (h s hs).2.rowwise) hrun
  obtain ⟨row, hpair, hone⟩ := (List.exists_mem_zip_of_forall₂ hall).2 out hout
  exact items?_of_runAll (fun s hs => (h s hs).1) (hrows row (List.of_mem_zip hpair).1) hone

namespace Compiler

open Context (Traced)

variable {c : Compiler} {ctx ctx' : Context} {m : Model}

section Joins

variable (hplain : c.schema.hasPlainCollections = true) (hm : m ∈ c.schema.models)
include hplain hm

/-- Following paths makes joins that do what hops stand for. -/
theorem traced_hops {us : List Use} {hops : List Hop} (hctx : ctx.JoinsHops c.schema m hops)
    (h : Traced c ctx us ctx') : ∃ more, ctx'.JoinsHops c.schema m (hops ++ more) := by
  induction h generalizing hops with
  | quiet hmodel hjoins => exact ⟨[], by simpa using hctx.of_eq hmodel hjoins⟩
  | @use ctx after u e _ _ hpath =>
    obtain ⟨more, hafter⟩ := followPath_hops hplain hm hctx hpath
    refine ⟨more, ?_⟩
    unfold Context.noteUse
    split
    · exact hafter.promote e.joins
    · exact hafter
  | append _ _ ihfirst ihrest =>
    obtain ⟨first, hfirst⟩ := ihfirst hctx
    obtain ⟨rest, hrest⟩ := ihrest hfirst
    exact ⟨first ++ rest, by simpa using hrest⟩
  | listed _ _ ih => exact ih hctx

end Joins

/-! ## Returned columns -/

theorem knows_plan {q : Query} {loaded computed : Context} {stages : List Stage}
    (hloaded : c.loadRelations (.ofModel m) q.related = .ok loaded)
    (hstages : c.compileAnnotations [] loaded q.annotations = .ok (stages, computed)) :
    computed.Knows (q.annotations.map (·.1)) ∧ computed.nullableDepth = 0 ∧
        computed.model = m := by
  have hknown : (Context.ofModel m).Knows [] := fun name => by
    simp [Context.computedType?, Context.ofModel, Context.findType]
  have hrelated := loadRelations_follows hknown rfl hloaded
  have hcolumns := compileAnnotations_follows q.annotations (hrelated.knows hknown)
    hrelated.depth hstages
  exact ⟨hcolumns.knows, hcolumns.depth,
    (traced_model hcolumns.traced).trans (traced_model hrelated.traced)⟩

/-- The column of the identity is read as it is. -/
theorem fieldExpr_identity {known : List String} (hknown : ctx.Knows known)
    (hnames : "_id" ∉ known)
    (hcolumn : ∀ f ∈ ctx.model.field? "_id", f.column = "_id") {e : Value} {type : ValueType}
    (h : c.fieldExpr ctx "_id" = .ok ((e, type), ctx')) : e = .string "$_id" := by
  obtain ⟨ending, hpath, -, rfl, -⟩ := fieldExpr_ok h
  obtain ⟨name, rest, hsegments, -, hstart⟩ := followPath_ok hpath
  have hparts : Text.segments "_id" = ["_id"] := by decide +kernel
  rw [hparts] at hsegments
  obtain ⟨rfl, rfl⟩ := List.cons.inj hsegments
  rcases hstart with ⟨type, hsome, -⟩ | ⟨-, hfollow⟩
  · exact absurd ((hknown "_id").mp (by simp [hsome])) hnames
  · obtain ⟨_, _, f, hcons, hf, hcase⟩ := follow_document_ok hfollow
    obtain ⟨rfl, rfl⟩ := List.cons.inj hcons
    rcases hcase with ⟨-, hvalue⟩ | ⟨_, _, _, _, _, -, -, hread, -⟩
    · obtain ⟨rfl, -⟩ := follow_value_nil_ok hvalue
      have hrender : (Access.column none f.column (.ofField f.kind)).render = .string
        ("$" ++ f.column) := rfl
      rw [hrender, hcolumn f hf]
      rfl
    · simp [readsStoredKey] at hread

/-- The columns that a query returns, unless one that is computed has the name of the
identity. -/
theorem sparesIdentity_columns {columns : List (String × Value)}
    (h : ∀ column ∈ columns, column.1 = "_id" → column.2 = .string "$_id") :
    Stage.SparesIdentity (projectionOf columns) := by
  intro m hm hname
  unfold projectionOf Document.ofList at hm
  rcases Document.mem_insertAll hm with hnone | hmem
  · simp at hnone
  · obtain ⟨⟨name, v⟩, hcolumn, rfl⟩ := List.mem_map.mp hmem
    have hsame : name = "_id" := by
      unfold projectedColumn at hname
      split at hname
      · split at hname <;> simp_all
      · exact hname
    subst hsame
    obtain rfl : v = .string "$_id" := h _ hcolumn rfl
    have htext : "$" ++ "_id" = "$_id" := rfl
    simp [projectedColumn, htext]

theorem columnsOf_identity {known paths : List String} {columns : List (String × Value)}
    (hknown : ctx.Knows known) (hdepth : ctx.nullableDepth = 0) (hnames : "_id" ∉ known)
    (hcolumn : "_id" ∈ paths → ∀ f ∈ ctx.model.field? "_id", f.column = "_id")
    (h : c.columnsOf ctx paths = .ok (columns, ctx')) :
    ∀ column ∈ columns, column.1 = "_id" → column.2 = .string "$_id" := by
  induction paths generalizing ctx columns with
  | nil =>
    obtain ⟨rfl, -⟩ := Prod.mk.inj (Except.ok.inj h)
    simp
  | cons path rest ih =>
    obtain ⟨e, type, after, others, he, hrest, rfl⟩ := columnsOf_cons_ok h
    have hfirst := fieldExpr_follows hknown (not_nested hdepth) he
    refine List.forall_mem_cons.mpr ⟨?_, ih (hfirst.knows hknown) (hfirst.depth.trans
      hdepth) ?_ hrest⟩
    · rintro rfl
      exact fieldExpr_identity hknown hnames (hcolumn List.mem_cons_self) he
    · rw [traced_model hfirst.traced]
      exact fun hmem => hcolumn (List.mem_cons_of_mem path hmem)

theorem returnedColumns_identity {known values : List String} {columns : List (String × Value)}
    (hknown : ctx.Knows known) (hdepth : ctx.nullableDepth = 0) (hnames : "_id" ∉ known)
    (hcolumn : "_id" ∈ values → ∀ f ∈ ctx.model.field? "_id", f.column = "_id")
    (h : c.returnedColumns ctx known values = .ok (columns, ctx')) :
    ∀ column ∈ columns, column.1 = "_id" → column.2 = .string "$_id" := by
  cases values with
  | nil =>
    obtain ⟨rfl, -⟩ := Prod.mk.inj (Except.ok.inj h)
    intro column hmem hname
    obtain ⟨name, -, rfl⟩ := List.mem_map.mp hmem
    obtain rfl : name = "_id" := hname
    rfl
  | cons path rest => exact columnsOf_identity hknown hdepth hnames hcolumn h

/-- The columns that are computed for an order have names of their own. -/
theorem sortKeys_names {index : Nat} {orderBy : List OrderKey}
    {keys : List (String × Direction)}
    {computed : Document} (h : c.sortKeys ctx index orderBy = .ok ((keys, computed), ctx')) :
    ∀ name ∈ computed.names, ∃ i, name = orderField i := by
  induction orderBy generalizing ctx index keys computed with
  | nil =>
    obtain ⟨hpair, -⟩ := Prod.mk.inj (Except.ok.inj h)
    obtain ⟨-, rfl⟩ := Prod.mk.inj hpair
    simp [Document.names]
  | cons k rest ih =>
    obtain ⟨e, type, after, keys', computed', -, hrest, hcomputed⟩ := sortKeys_cons_ok h
    rcases hcomputed with rfl | rfl
    · exact ih hrest
    · exact List.forall_mem_cons.mpr ⟨⟨index, rfl⟩, ih hrest⟩

theorem spares_orderField (index : Nat) : Spares (orderField index) "_id" := by
  refine spares_of_plain (notMem_numbered (by decide) (by decide) index) fun heq => ?_
  have hlist := congrArg String.toList heq
  simp [orderField] at hlist

/-- The field of a subquery ends in a digit. -/
theorem subqueryField_ne_identity (config : Config) (n : Nat) :
    config.subqueryField n ≠ "_id" :=
  numbered_ne (by decide) config.subqueryPrefix n

/-! ## Identities -/

/-- Whether the identities of the documents of a model can be told from the rows of a query. -/
structure ShowsIdentities (c : Compiler) (m : Model) (q : Query) : Prop where
  /-- no computed column is called like the identity -/
  annotations : ∀ name ∈ q.annotations.map (·.1), (pathNames name).head? ≠ some "_id"
  /-- a returned column that is called like the identity is the identity -/
  values : "_id" ∈ q.values → ∀ f ∈ m.field? "_id", f.column = "_id"

/-- An order leaves the rows as they are, in some order. -/
theorem runAll_sortBy_ok {keys : List (String × Direction)} {store : Store}
    {rows outs : List Value}
    (h : Stage.runAll store (sortBy keys) [] rows = .ok outs) : outs.Perm rows := by
  unfold sortBy at h
  split at h
  · rw [← Except.ok.inj h]
  · rw [← Except.ok.inj h]
    exact Stage.sorted_perm keys rows

/-! ## Derivations -/

/-- How the plan of a query by itself comes about: what its parts are compiled to, each in the
context that the one in front of it leaves. -/
structure Derivation (c : Compiler) (m : Model) (q : Query) where
  loaded : Context
  /-- the stages that compute columns -/
  stages : List Stage
  computed : Context
  condition : Option Value
  filtered : Context
  keys : List (String × Direction)
  /-- the columns that are computed for the order -/
  fields : Document
  sorted : Context
  columns : List (String × Value)
  final : Context
  loads : c.loadRelations (.ofModel m) q.related = .ok loaded
  computes : c.compileAnnotations [] loaded q.annotations = .ok (stages, computed)
  filters : c.compileCondition computed q.filter = .ok (condition, filtered)
  sorts : c.sortKeys filtered 0 q.orderBy = .ok ((keys, fields), sorted)
  returns : c.returnedColumns sorted (q.annotations.map (·.1)) q.values = .ok (columns, final)

/-- The stage that keeps the documents on which a condition is true, if there is one. -/
def selecting : Option Value → List Stage
  | some e => [.selectExpr e]
  | none => []

namespace Derivation

variable {q : Query}

/-- The stages that add fields to the joined rows before the filter. -/
def adding (d : c.Derivation m q) : List Stage := d.final.subqueryStages ++ d.stages

/-- The stages behind the filter. -/
def finishing (d : c.Derivation m q) : List Stage :=
  addColumns d.fields ++ (sortBy d.keys ++ [.project (projectionOf d.columns)])

/-- All stages. -/
def pipeline (d : c.Derivation m q) : List Stage :=
  d.final.joins.flatMap (fun j => j.2.stages c.config) ++
    (d.adding ++ (selecting d.condition ++ d.finishing))

/-- The plan. -/
def plan (d : c.Derivation m q) : Plan :=
  ⟨d.stages, d.condition, addColumns d.fields ++ sortBy d.keys,
    windowOf q.offset q.limit, d.columns⟩

theorem planWith_eq (d : c.Derivation m q) :
    c.planWith (.ofModel m) q (fun ctx => c.compileAnnotations [] ctx q.annotations)
      (fun ctx => c.compileCondition ctx q.filter) = .ok (d.plan, d.final) := by
  simp only [planWith, d.loads, d.computes, d.filters, d.sorts, d.returns, plan]

end Derivation

/-- The pipeline of a query without window and union has a derivation. -/
theorem exists_derivation {q : Query} {a : Aggregation} (hm : c.queryableModel q.model = .ok m)
    (huncut : q.IsUncut) (h : c.compile q = .ok a) :
    ∃ d : c.Derivation m q, a.collection = m.collection ∧ a.pipeline = d.pipeline := by
  rw [compile_eq] at h
  obtain ⟨m', p, final, hm', hplan, hstages, hcollection⟩ := queryWith_ok h
  obtain rfl := Except.ok.inj (hm.symm.trans hm')
  obtain ⟨loaded, stages, computed, condition, filtered, keys, fields, sorted, columns,
    hloaded, hcomputed, hfiltered, hsorted, hreturned, rfl⟩ := planWith_ok hplan
  refine ⟨⟨loaded, stages, computed, condition, filtered, keys, fields, sorted, columns, final,
    hloaded, hcomputed, hfiltered, hsorted, hreturned⟩, hcollection, ?_⟩
  rw [assembleWith, huncut.union] at hstages
  rw [← Except.ok.inj hstages]
  cases condition <;>
    simp [single, source, Context.prerequisites, huncut.offset, huncut.limit, windowOf,
      Derivation.pipeline, Derivation.adding, Derivation.finishing, selecting]

namespace Derivation

variable {q : Query}

theorem knows (d : c.Derivation m q) :
    d.filtered.Knows (q.annotations.map (·.1)) ∧ d.filtered.nullableDepth = 0 ∧
    d.filtered.model = m := by
  obtain ⟨hknown, hdepth, hmodel⟩ := knows_plan d.loads d.computes
  have hcondition := compileCondition_follows q.filter hknown (not_nested hdepth) d.filters
  exact ⟨hcondition.knows hknown, hcondition.depth.trans hdepth,
    (traced_model hcondition.traced).trans hmodel⟩

/-- Behind the filter no more columns are computed that can be read. -/
theorem annotations_final (d : c.Derivation m q) :
    d.final.annotations = d.filtered.annotations := by
  obtain ⟨hknown, hdepth, -⟩ := d.knows
  have horder := sortKeys_follows hknown hdepth d.sorts
  have hreturned := returnedColumns_follows (horder.knows hknown) (horder.depth.trans
    hdepth) d.returns
  exact hreturned.annotations.trans horder.annotations

/-- The stages of the subqueries. -/
theorem placed (d : c.Derivation m q) :
    Placed c.config 0 d.final.subqueryCount d.final.subqueryStages := by
  obtain ⟨stages, hstages, hplaced⟩ := (plan_extends d.planWith_eq).subqueries
  have hall : d.final.subqueryStages = stages := hstages
  rwa [hall]

/-- The stages between the joins and the filter add fields. -/
theorem addsFields_adding (d : c.Derivation m q) : ∀ s ∈ d.adding, s.addsFields = true :=
  List.forall_mem_append.mpr ⟨d.placed.addsFields, compileAnnotations_addsFields d.computes⟩

/-- The joins do what hops stand for. -/
theorem exists_hops (d : c.Derivation m q) (hplain : c.schema.hasPlainCollections = true)
    (hm : m ∈ c.schema.models) :
    ∃ hops, d.final.JoinsHops c.schema m hops := by
  obtain ⟨hops, hfinal⟩ := traced_hops hplain hm (Context.joinsHops_ofModel c.schema m)
    (plan_follows (.inl rfl) d.planWith_eq)
  exact ⟨hops, hfinal⟩

/-- A query that uses at least the same paths has the same joins; which documents they keep is
decided by the uses of either query. -/
theorem kinds_of_uses {more : Query} (d : c.Derivation m q) (d' : c.Derivation m more)
    (hsub : ∀ u ∈ q.uses, u ∈ more.uses) {entry : String × Join}
    (hentry : entry ∈ d.final.joins) :
    ∃ entry' ∈ d'.final.joins, entry'.1 = entry.1 ∧ ∃ u ∈ q.uses, ∃ x ∈ u.crossings c.schema m,
      x.1 = Text.segments entry.1 ∧
      (entry.2.kind = .left ↔ x.2.nullable = true ∨ ∃ v ∈ q.uses, v.GoesThrough c.schema m x.1 ∧
        v.KeepsUnmatched c m) ∧
      (entry'.2.kind = .left ↔
        x.2.nullable = true ∨ ∃ v ∈ more.uses, v.GoesThrough c.schema m x.1 ∧
            v.KeepsUnmatched c m) := by
  obtain ⟨u, hu, x, hx, hpath⟩ := ((joinsFor_plan (.inl rfl) d.planWith_eq).2.1 entry.1).mp
    (List.mem_map_of_mem hentry)
  obtain ⟨entry', hentry', hsame⟩ :=
    List.mem_map.mp (((joinsFor_plan (.inl rfl) d'.planWith_eq).2.1 entry.1).mpr
    ⟨u, hsub u hu, x, hx, hpath⟩)
  obtain ⟨hsegments, hfield⟩ := Use.segments_of_mem_crossings hx
  rw [← hpath] at hsegments
  obtain ⟨f, hf, hkind⟩ := kind_of_plan (.inl rfl) d.planWith_eq hentry
  obtain ⟨f', hf', hkind'⟩ := kind_of_plan (.inl rfl) d'.planWith_eq hentry'
  rw [hsegments] at hf hkind
  rw [hsame, hsegments] at hf' hkind'
  obtain rfl := Option.some.inj (hf.symm.trans hfield)
  obtain rfl := Option.some.inj (hf'.symm.trans hfield)
  exact ⟨entry', hentry', hsame, u, hu, x, hx, hsegments.symm, hkind, hkind'⟩

section Identities

variable (d : c.Derivation m q) (hshows : c.ShowsIdentities m q)
include hshows

/-- The stages that add fields do not add that of the identity. -/
theorem adds (hsubqueries : '.' ∉ c.config.subqueryPrefix.toList) :
    (∀ s ∈ d.adding, s.addsFields = true ∧ s.Keeps "_id") ∧
      ∀ s ∈ addColumns d.fields, s.addsFields = true ∧ s.Keeps "_id" := by
  have hspare : ∀ name ∈ q.annotations.map (·.1), Spares name "_id" := fun name hname =>
    spares_of_head (by decide) (hshows.annotations name hname)
  have hkeeps : ∀ s ∈ d.adding, s.Keeps "_id" :=
    List.forall_mem_append.mpr ⟨d.placed.keeps hsubqueries fun n _ _ =>
      subqueryField_ne_identity c.config n, compileAnnotations_keeps (by simp [Document.names])
      hspare d.computes⟩
  have hkeys : ∀ s ∈ addColumns d.fields, s.Keeps "_id" := by
    unfold addColumns
    split
    · simp
    · refine List.forall_mem_singleton.mpr (Stage.keeps_addFields fun name hname => ?_)
      obtain ⟨i, rfl⟩ := sortKeys_names d.sorts name hname
      exact spares_orderField i
  exact ⟨fun s hs => ⟨d.addsFields_adding s hs, hkeeps s hs⟩,
    fun s hs => ⟨addsFields_addColumns d.fields s hs, hkeys s hs⟩⟩

/-- The projection shows the identities. -/
theorem spares : Stage.SparesIdentity (projectionOf d.columns) := by
  obtain ⟨hknown, hdepth, hmodel⟩ := d.knows
  have horder := sortKeys_follows hknown hdepth d.sorts
  refine sparesIdentity_columns (returnedColumns_identity (horder.knows hknown)
    (horder.depth.trans hdepth) ?_ ?_ d.returns)
  · exact fun hname => hshows.annotations _ hname (by decide)
  · rw [traced_model horder.traced, hmodel]
    exact hshows.values

/-- The stages behind the filter leave one row for each row, with its identity. -/
theorem identities_of_finishing (hsubqueries : '.' ∉ c.config.subqueryPrefix.toList)
    {store : Store} {rows outs : List Value} (hrows : ∀ row ∈ rows, row.items? = none)
    (hrun : Stage.runAll store d.finishing [] rows = .ok outs) :
    (outs.map fun row => row.field? "_id").Perm (rows.map fun row => row.field? "_id") := by
  have hadding := (d.adds hshows hsubqueries).2
  obtain ⟨added, hadded, hrest⟩ := Stage.runAll_append_ok hrun
  obtain ⟨sorted, hsorted, hproject⟩ := Stage.runAll_append_ok hrest
  have hperm := runAll_sortBy_ok hsorted
  have hitems : ∀ row ∈ sorted, row.items? = none := fun row hrow =>
    Stage.items_of_adding hadding hrows hadded row (hperm.mem_iff.mp hrow)
  rw [Stage.runAll_singleton] at hproject
  rw [Stage.identities_of_project (d.spares hshows) hitems hproject,
    ← Stage.identities_of_runAll (fun s hs => (hadding s hs).2) hadded]
  exact hperm.map _

end Identities

end Derivation

end Compiler

end DocQuery
