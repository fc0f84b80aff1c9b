import DocQuery.Proofs.OrderedRows
import DocQuery.Proofs.ShownColumns
import DocQuery.Proofs.WrittenFields
set_option autoImplicit false

/-!
# Proofs: what the parts of a plan mention

Computed columns and the filter mention only reserved fields that the context offers in the end.
The stages of an order write the keys that they compute before they sort by them.  Returned
columns are shown as they are, or mention only reserved fields that stored columns and joined
documents are read from.
-/

namespace DocQuery.Compiler

open Context (Nests NestedStages Traced)
open Stage (WritesFirst)
open Value (pathStart)

variable {c : Compiler} {ctx ctx' start : Context} {path x : String}

/-! ## Names -/

theorem not_isReserved_of_plain {name : String} (hdots : '.' ∉ name.toList)
    (h : ¬ IsReserved name) : ¬ IsReserved (pathStart name) := by
  rwa [Value.pathStart_of_notMem hdots]

theorem not_isReserved_identity : ¬ IsReserved (pathStart "_id") :=
    not_isReserved_of_plain (by decide) (by decide)

/-- A path mentions no reserved field if it does not start from one. -/
theorem not_isReserved_of_mem_roots (h : ¬ IsReserved (pathStart path)) :
    ∀ x ∈ (Value.string ("$" ++ path)).roots, ¬ IsReserved x := fun _ hx =>
      Value.eq_of_mem_roots_path hx ▸ h

/-! ## Computed columns -/

theorem mentions_addColumns (columns : Document) :
    (addColumns columns).flatMap Stage.mentions = columns.flatMap (·.2.roots) := by
  cases columns <;> simp [addColumns, Stage.mentions]

theorem mem_writes_addFields {fields : Document} {name : String} (h : name ∈ fields.names) :
    pathStart name ∈ (Stage.addFields fields).writes := by
  obtain ⟨m, hm, rfl⟩ := List.mem_map.mp h
  exact List.mem_map_of_mem (f := fun m : String × Value => pathStart m.1) hm

theorem exists_writes_addColumns {fields : Document} {name : String} (h : name ∈ fields.names) :
    ∃ s ∈ addColumns fields, pathStart name ∈ s.writes := by
  cases fields with
  | nil => simp [Document.names] at h
  | cons m rest => exact ⟨_, List.mem_cons_self, mem_writes_addFields h⟩

/-- The stages of computed columns mention what is offered, if the columns that wait for the
next stage do. -/
theorem compileAnnotations_offered (hplain : c.schema.hasPlainCollections = true)
    {pending : Document} {annotations : List (String × Expr)} {stages : List Stage}
    (hpending : MentionsOffered c start ctx (pending.flatMap (·.2.roots)))
    (h : c.compileAnnotations pending ctx annotations = .ok (stages, ctx')) :
    MentionsOffered c start ctx' (stages.flatMap Stage.mentions) := by
  induction annotations generalizing start ctx pending stages with
  | nil =>
    rw [compileAnnotations] at h
    obtain ⟨rfl, rfl⟩ := Prod.mk.inj (Except.ok.inj h)
    rwa [mentions_addColumns]
  | cons annotation rest ih =>
    obtain ⟨name, body⟩ := annotation
    obtain ⟨v, type, after, hv, hrest⟩ := compileAnnotations_cons_ok h
    have hbody := (compileExpr_offered hplain ctx body hv).append
      (.of_nests (Nests.addAnnotation after name type))
    rcases hrest with ⟨others, hothers, rfl⟩ | ⟨-, hothers⟩
    · exact hpending.append (ih (hbody.subset (by simp)) hothers)
    · refine ih ((hpending.append hbody).subset fun x hx => ?_) hothers
      obtain ⟨m, hm, hroot⟩ := List.mem_flatMap.mp hx
      rcases Document.mem_insert hm with hold | rfl
      · exact List.mem_append_left _ (List.mem_flatMap_of_mem hold hroot)
      · exact List.mem_append_right _ (List.mem_append_left _ hroot)

/-- Each computed column is written by a stage. -/
theorem exists_writes_annotation {pending : Document} {annotations : List (String × Expr)}
    {stages : List Stage}
    (h : c.compileAnnotations pending ctx annotations = .ok (stages, ctx')) :
    ∀ name ∈ pending.names ++ annotations.map (·.1), ∃ s ∈ stages,
        pathStart name ∈ s.writes := by
  induction annotations generalizing ctx pending stages with
  | nil =>
    rw [compileAnnotations] at h
    obtain ⟨rfl, -⟩ := Prod.mk.inj (Except.ok.inj h)
    intro name hname
    exact exists_writes_addColumns (by simpa using hname)
  | cons annotation rest ih =>
    obtain ⟨name, body⟩ := annotation
    obtain ⟨v, type, after, -, hrest⟩ := compileAnnotations_cons_ok h
    intro y hy
    rcases hrest with ⟨others, hothers, rfl⟩ | ⟨-, hothers⟩
    · rcases List.mem_append.mp hy with hold | hnew
      · exact ⟨_, List.mem_cons_self, mem_writes_addFields hold⟩
      · obtain ⟨s, hs, hsy⟩ := ih hothers y hnew
        exact ⟨s, List.mem_cons_of_mem _ hs, hsy⟩
    · refine ih hothers y ?_
      rw [List.mem_append, Document.mem_names_insert]
      simpa [or_assoc] using hy

theorem compileCondition_offered (hplain : c.schema.hasPlainCollections = true)
    {filter : Option Filter}
    {condition : Option Value} (h : c.compileCondition ctx filter = .ok (condition, ctx')) :
    MentionsOffered c ctx ctx' (condition.toList.flatMap Value.roots) := by
  cases filter with
  | none =>
    rw [compileCondition] at h
    obtain ⟨rfl, rfl⟩ := Prod.mk.inj (Except.ok.inj h)
    exact .refl _
  | some f =>
    obtain ⟨v, hv, rfl⟩ := compileCondition_some_ok h
    simpa using compileFilter_offered hplain ctx f hv

/-! ## Order -/

/-- A path that can be compiled starts from no reserved field. -/
theorem not_isReserved_pathStart {e : Value} {type : ValueType}
    (h : c.fieldExpr ctx path = .ok ((e, type), ctx')) : ¬ IsReserved (pathStart path) := by
  intro hreserved
  obtain ⟨ending, hpath, -⟩ := fieldExpr_ok h
  obtain ⟨name, rest, hsegments, hempty, -⟩ := followPath_ok hpath
  rw [← hsegments] at hempty
  exact hempty (Text.empty_mem_segments (hreserved.trans (Value.pathStart_isPrefix path)))

theorem sortKeys_computed (hplain : c.schema.hasPlainCollections = true) {index : Nat}
    {orderBy : List OrderKey} {keys : List (String × Direction)} {fields : Document}
    (h : c.sortKeys ctx index orderBy = .ok ((keys, fields), ctx')) :
    ∀ m ∈ fields, ∀ x ∈ m.2.roots, IsReserved x → ctx'.Supplies x := by
  induction orderBy generalizing ctx index keys fields with
  | nil =>
    obtain ⟨hpair, -⟩ := Prod.mk.inj (Except.ok.inj h)
    obtain ⟨-, rfl⟩ := Prod.mk.inj hpair
    simp
  | cons k rest ih =>
    obtain ⟨e, type, after, keys', fields', hpath, hrest, hfields⟩ := sortKeys_cons_ok h
    rcases hfields with rfl | rfl
    · exact ih hrest
    · refine List.forall_mem_cons.mpr ⟨fun x hx hreserved => ?_, ih hrest⟩
      have hlater : Nests c after ctx' := nests_alongPaths.sortKeys hrest
      exact (fieldExpr_mentions hplain hpath x hx hreserved).mono hlater.model hlater.aliases

/-- A stored path that an expression reads starts from a field that the expression mentions. -/
theorem mem_roots_of_storedPath? {e : Value} {stored : String}
    (h : storedPath? e = some stored) : pathStart stored ∈ e.roots := by
  cases e with
  | string s => simp [Value.rootOf?, h]
  | _ => simp [storedPath?] at h

/-- What an order sorts by is computed in front of it, unless stored columns or joined documents
are read from there. -/
theorem writesFirst_order (hplain : c.schema.hasPlainCollections = true) {index : Nat}
    {orderBy : List OrderKey} {keys : List (String × Direction)} {fields : Document}
    (h : c.sortKeys ctx index orderBy = .ok ((keys, fields), ctx')) (hreserved : IsReserved x)
    (hx : ¬ ctx'.Supplies x) : WritesFirst x (addColumns fields ++ sortBy keys) := by
  obtain ⟨hkeys, -, -⟩ := sortKeys_keys h
  have hcomputed : x ∉ (addColumns fields).flatMap Stage.mentions := by
    rw [mentions_addColumns]
    intro hmention
    obtain ⟨m, hm, hroot⟩ := List.mem_flatMap.mp hmention
    exact hx (sortKeys_computed hplain h m hm x hroot hreserved)
  have hfront : WritesFirst x (addColumns fields) :=
    Stage.writesFirst_of_forall fun s hs hmention =>
      hcomputed (List.mem_flatMap_of_mem hs hmention)
  refine hfront.append ?_
  by_cases hsorted : ∃ key ∈ keys, pathStart key.1 = x
  · obtain ⟨key, hkey, rfl⟩ := hsorted
    obtain ⟨k, -, hread⟩ := (List.exists_mem_zip_of_forall₂ hkeys).2 key hkey
    obtain ⟨before, e, type, after, hpath, hlater, hstored | ⟨-, hmem⟩⟩ := hread.value
    · have hsupplied := fieldExpr_mentions hplain hpath _ (mem_roots_of_storedPath?
        hstored) hreserved
      exact absurd (hsupplied.mono hlater.model hlater.aliases) hx
    · exact .inl (exists_writes_addColumns (List.mem_map_of_mem (f := (·.1)) hmem))
  · refine .inr (Stage.writesFirst_of_forall fun s hs hmention => hsorted ?_)
    unfold sortBy at hs
    split at hs
    · simp at hs
    · obtain rfl := List.mem_singleton.mp hs
      simpa [Stage.mentions] using hmention

theorem not_isReserved_of_sortKeys {index : Nat} {orderBy : List OrderKey}
    {sorted : List (String × Direction) × Document}
    (h : c.sortKeys ctx index orderBy = .ok (sorted, ctx')) :
    ∀ k ∈ orderBy, ¬ IsReserved (pathStart k.path) := by
  induction orderBy generalizing ctx index sorted with
  | nil => simp
  | cons k rest ih =>
    obtain ⟨e, type, after, keys, fields, hpath, hrest, -⟩ := sortKeys_cons_ok h
    exact List.forall_mem_cons.mpr ⟨not_isReserved_pathStart hpath, ih hrest⟩

theorem mentions_windowOf (offset limit : Option Nat) :
    ∀ s ∈ windowOf offset limit, s.mentions = [] := by
  cases offset <;> cases limit <;> simp [windowOf, Stage.mentions]

theorem inner_addColumns (columns : Document) : ∀ s ∈ addColumns columns, s.inner = [] := by
  cases columns <;> simp [addColumns, Stage.inner]

theorem inner_sortBy (keys : List (String × Direction)) : ∀ s ∈ sortBy keys, s.inner = [] := by
  cases keys <;> simp [sortBy, Stage.inner]

theorem inner_windowOf (offset limit : Option Nat) :
    ∀ s ∈ windowOf offset limit, s.inner = [] := by
  cases offset <;> cases limit <;> simp [windowOf, Stage.inner]

/-! ## Columns -/

/-- A returned column whose name starts from no reserved field, and whose expression mentions
only those that stored columns and joined documents are read from. -/
structure ReadsSupplied (ctx : Context) (column : String × Value) : Prop where
  name : ¬ IsReserved (pathStart column.1)
  value : ∀ x ∈ column.2.roots, IsReserved x → ctx.Supplies x

theorem columnsOf_readsSupplied (hplain : c.schema.hasPlainCollections = true)
    {paths : List String}
    {columns : List (String × Value)} (h : c.columnsOf ctx paths = .ok (columns, ctx')) :
    ∀ column ∈ columns, ReadsSupplied ctx' column := by
  induction paths generalizing ctx columns with
  | nil =>
    obtain ⟨rfl, -⟩ := Prod.mk.inj (Except.ok.inj h)
    simp
  | cons path rest ih =>
    obtain ⟨e, type, after, others, hpath, hrest, rfl⟩ := columnsOf_cons_ok h
    have hlater : Nests c after ctx' := nests_alongPaths.columnsOf hrest
    refine List.forall_mem_cons.mpr ⟨⟨not_isReserved_pathStart hpath, fun x hx hreserved =>
      ?_⟩, ih hrest⟩
    exact (fieldExpr_mentions hplain hpath x hx hreserved).mono hlater.model hlater.aliases

theorem readsSupplied_usualColumn (ctx : Context) : ReadsSupplied ctx usualColumn where
  name := not_isReserved_identity
  value := fun x hx hreserved => absurd hreserved (not_isReserved_of_mem_roots
    not_isReserved_identity x hx)

/-! ## Plans -/

/-- What the parts of a plan mention and write, as far as reserved fields of its context are
concerned. -/
structure PlanMentions (c : Compiler) (ctx : Context) (q : Query) (p : Plan) : Prop where
  stored : ∀ column ∈ ctx.model.columns, '.' ∉ column.toList
  chained : Join.Chained ctx.model [] ctx.joins
  nested : NestedStages c ctx 0 ctx.subqueryCount ctx.subqueryStages
  annotations : ∀ x ∈ p.annotations.flatMap Stage.mentions, IsReserved x → ctx.Offers c.config x
  written : ∀ name ∈ q.annotations.map (·.1), ∃ s ∈ p.annotations, pathStart name ∈ s.writes
  filter : ∀ x ∈ p.filter.toList.flatMap Value.roots, IsReserved x → ctx.Offers c.config x
  order : ∀ x, IsReserved x → ¬ ctx.Supplies x → WritesFirst x p.order
  keys : ∀ k ∈ q.orderBy, ¬ IsReserved (pathStart k.path)
  window : ∀ s ∈ p.window, s.mentions = []
  own : ∀ s ∈ p.annotations ++ p.order ++ p.window, s.inner = []
  columns : p.columns = allColumns ctx.model (q.annotations.map (·.1)) ∧ q.values = [] ∨
    ∀ column ∈ p.columns, ReadsSupplied ctx column

theorem planWith_mentions (hplain : c.schema.hasPlainCollections = true) {q : Query}
    {p : Plan} {m : Model}
    (hm : m ∈ c.schema.models) (hstart : ctx = .ofModel m ∨ ctx = .ofSubquery m)
    (h : c.planWith ctx q (fun ctx => c.compileAnnotations [] ctx q.annotations)
      (fun ctx => c.compileCondition ctx q.filter) = .ok (p, ctx')) :
          PlanMentions c ctx' q p := by
  have htraced : Traced c ctx q.uses ctx' := plan_follows hstart h
  obtain ⟨loaded, stages, computed, condition, filtered, keys, fields, sorted, columns, hloaded,
    hstages, hcondition, hsorted, hreturned, rfl⟩ := planWith_ok h
  have hannotations := compileAnnotations_offered hplain (.refl loaded) hstages
  have hfilter := compileCondition_offered hplain hcondition
  have horder : Nests c filtered sorted := nests_alongPaths.sortKeys hsorted
  have hlast : Nests c sorted ctx' := nests_alongPaths.returnedColumns hreturned
  have hbehind := horder.trans hlast
  have hall : Nests c ctx ctx' :=
    (nests_alongPaths.loadRelations hloaded).trans (hannotations.nests.trans
      (hfilter.nests.trans hbehind))
  have hempty : ctx.model = m ∧ ctx.joins = [] ∧ ctx.subqueryStages = [] ∧
      ctx.subqueryCount = 0 := by
    rcases hstart with rfl | rfl <;> exact ⟨rfl, rfl, rfl, rfl⟩
  refine ⟨fun column hcolumn => ?_, ?_, ?_, fun x hx hreserved => ?_, fun name hname => ?_,
    fun x hx hreserved => ?_, fun x hreserved hx => ?_, not_isReserved_of_sortKeys hsorted,
    mentions_windowOf _ _, ?_, ?_⟩
  · rw [hall.model, hempty.1] at hcolumn
    obtain ⟨f, hf, rfl⟩ := List.mem_map.mp hcolumn
    exact ((Schema.plain_of_hasPlainCollections hplain hm).2.2 f hf).1
  · exact traced_chained hplain htraced (by rw [hempty.2.1]; trivial)
  · obtain ⟨added, hadded, hnested⟩ := hall.stages
    rw [hempty.2.2.1, List.nil_append] at hadded
    rw [hempty.2.2.2] at hnested
    exact hadded ▸ hnested
  · exact (hfilter.nests.trans hbehind).offers (hannotations.offered x hx hreserved)
  · exact exists_writes_annotation hstages name (List.mem_append_right _ hname)
  · exact hbehind.offers (hfilter.offered x hx hreserved)
  · exact writesFirst_order hplain hsorted hreserved fun hsupplied =>
      hx (hsupplied.mono hlast.model hlast.aliases)
  · refine List.forall_mem_append.mpr ⟨List.forall_mem_append.mpr ⟨fun s hs => ?_, ?_⟩,
      inner_windowOf _ _⟩
    · obtain ⟨fields, rfl⟩ := compileAnnotations_addFields hstages s hs
      rw [Stage.inner]
    · exact List.forall_mem_append.mpr ⟨inner_addColumns fields, inner_sortBy keys⟩
  · cases hvalues : q.values with
    | nil =>
      rw [hvalues] at hreturned
      obtain ⟨rfl, rfl⟩ := Prod.mk.inj (Except.ok.inj hreturned)
      exact .inl ⟨rfl, rfl⟩
    | cons path rest =>
      rw [hvalues] at hreturned
      exact .inr (columnsOf_readsSupplied hplain hreturned)

/-- The one column of a nested query. -/
theorem PlanMentions.onlyColumn {q : Query} {p : Plan} (h : PlanMentions c ctx q p) {m : Model}
    {column : String × Value} (hcolumn : onlyColumn m q.values p.columns = .ok column) :
        ReadsSupplied ctx column := by
  unfold Compiler.onlyColumn at hcolumn
  split at hcolumn
  · exact Except.ok.inj hcolumn ▸ readsSupplied_usualColumn ctx
  · rename_i only hone hvalues
    obtain rfl := Except.ok.inj hcolumn
    rcases h.columns with ⟨-, hnone⟩ | hall
    · exact absurd hnone hvalues
    · exact hall only (by rw [hone]; exact List.mem_singleton_self only)
  · simp at hcolumn

end DocQuery.Compiler
