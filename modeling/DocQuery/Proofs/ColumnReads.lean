import DocQuery.Proofs.MirroredQueries
set_option autoImplicit false

/-!
# Proofs: what compiled expressions read

An expression reads no other fields of the row than stored columns, joined documents, results of
subqueries, and the computed columns that the context notes while the expression is compiled.
However deep a reference to a computed column stands, it is noted.
-/

namespace DocQuery

/-! ## Contexts -/

namespace Context

variable {config : Config} {ctx ctx' ctx'' : Context}

/-- The fields that a row has before columns are computed: stored columns, joined documents and
the results of subqueries. -/
def Provides (config : Config) (ctx : Context) (name : String) : Prop :=
  name ∈ ctx.model.columns ∨ name ∈ ctx.aliases.map (·.2) ∨ ∃ k < ctx.subqueryCount,
    name = config.subqueryField k

/-- The fields that may be read so far, each related to itself: those of the row, and the
computed columns that were referred to. -/
def Reads (config : Config) (ctx : Context) (x x' : String) : Prop :=
  x = x' ∧ (ctx.Provides config x ∨ x ∈ ctx.annotationRefs)

/-- Whether all that may be read so far can stand in paths as it is, and so can variables. -/
structure ReadsPlain (config : Config) (ctx : Context) : Prop where
  parent : '.' ∉ config.parentPrefix.toList
  fields : ∀ x x', ctx.Reads config x x' → IsPlainName x ∧ IsPlainName x'

/-- A context that another one becomes while an expression is compiled:  there are more joins
and subqueries, and more computed columns were referred to.  The new aliases are the names of no
computed columns. -/
structure Gathers (ctx ctx' : Context) : Prop where
  model : ctx'.model = ctx.model
  annotations : ctx'.annotations = ctx.annotations
  aliases : ctx.aliases ⊆ ctx'.aliases
  fresh : ∀ a ∈ ctx'.aliases, a ∈ ctx.aliases ∨ a.2 ∉ ctx.annotations.map (·.1)
  count : ctx.subqueryCount ≤ ctx'.subqueryCount
  refs : ctx.annotationRefs ⊆ ctx'.annotationRefs
  known : ∀ x ∈ ctx'.annotationRefs, x ∈ ctx.annotationRefs ∨ x ∈ ctx.annotations.map (·.1)

namespace Gathers

theorem refl (ctx : Context) : Gathers ctx ctx :=
  ⟨rfl, rfl, List.Subset.refl _, fun _ ha => .inl ha, Nat.le_refl _, List.Subset.refl _,
    fun _ hx => .inl hx⟩

theorem trans (h : Gathers ctx ctx') (h' : Gathers ctx' ctx'') : Gathers ctx ctx'' where
  model := h'.model.trans h.model
  annotations := h'.annotations.trans h.annotations
  aliases := List.Subset.trans h.aliases h'.aliases
  fresh := by
    intro a ha
    rcases h'.fresh a ha with hold | hnew
    · exact h.fresh a hold
    · exact .inr (h.annotations ▸ hnew)
  count := Nat.le_trans h.count h'.count
  refs := List.Subset.trans h.refs h'.refs
  known := by
    intro x hx
    rcases h'.known x hx with hold | hname
    · exact h.known x hold
    · exact .inr (h.annotations ▸ hname)

theorem of_same (h : IsSame ctx ctx') : Gathers ctx ctx' where
  model := h.model
  annotations := h.annotations
  aliases := by rw [h.aliases]; exact List.Subset.refl _
  fresh := fun a ha => .inl (h.aliases ▸ ha)
  count := Nat.le_of_eq h.count.symm
  refs := by rw [h.refs]; exact List.Subset.refl _
  known := fun x hx => .inl (h.refs ▸ hx)

theorem join (ctx : Context) (text : String) (parent : Option String) (f : Field)
    (t : Model) (k : Field) : Gathers ctx (ctx.join text parent f t k).2 where
  model := (Alike.join ctx text parent f t k).model
  annotations := (Alike.join ctx text parent f t k).annotations
  aliases := (aliases_join ctx text parent f t k).1
  fresh := by
    intro a ha
    refine ((aliases_join ctx text parent f t k).2.2 a ha).imp_right ?_
    rintro rfl
    exact freshAlias_notMem_annotations ctx t.collection
  count := Nat.le_of_eq (Alike.join ctx text parent f t k).count.symm
  refs := by rw [refs_join]; exact List.Subset.refl _
  known := fun x hx => .inl (by rwa [refs_join] at hx)

theorem mem_refs_refer (ctx : Context) (name x : String) :
    x ∈ (ctx.refer name).annotationRefs ↔ x ∈ ctx.annotationRefs ∨ x = name := by
  unfold Context.refer
  split
  · rename_i hold
    have hname : name ∈ ctx.annotationRefs := by simpa using hold
    exact ⟨.inl, fun h => h.elim id fun heq => heq ▸ hname⟩
  · simp

/-- A reference to a computed column is noted. -/
theorem refer {name : String} (h : name ∈ ctx.annotations.map (·.1)) :
    Gathers ctx (ctx.refer name) where
  model := (Alike.refer ctx name).model
  annotations := (Alike.refer ctx name).annotations
  aliases := by rw [aliases_refer]; exact List.Subset.refl _
  fresh := fun a ha => .inl (aliases_refer ctx name ▸ ha)
  count := Nat.le_of_eq (Alike.refer ctx name).count.symm
  refs := fun x hx => (mem_refs_refer ctx name x).mpr (.inl hx)
  known := by
    intro x hx
    rcases (mem_refs_refer ctx name x).mp hx with hold | rfl
    · exact .inl hold
    · exact .inr h

theorem outerRef {path : String} {index : Option Nat} (h : ctx.outerRef path = (index, ctx')) :
    Gathers ctx ctx' := by
  have hsame : ctx'.model = ctx.model ∧ ctx'.annotations = ctx.annotations ∧
    ctx'.aliases = ctx.aliases ∧ ctx'.subqueryCount = ctx.subqueryCount ∧
    ctx'.annotationRefs = ctx.annotationRefs := by
    unfold Context.outerRef at h
    split at h
    · obtain ⟨-, rfl⟩ := Prod.mk.inj h
      exact ⟨rfl, rfl, rfl, rfl, rfl⟩
    · split at h <;> obtain ⟨-, rfl⟩ := Prod.mk.inj h <;> exact ⟨rfl, rfl, rfl, rfl, rfl⟩
  obtain ⟨hmodel, hannotations, haliases, hcount, hrefs⟩ := hsame
  exact ⟨hmodel, hannotations, by rw [haliases]; exact List.Subset.refl _, fun a ha =>
    .inl (haliases ▸ ha), Nat.le_of_eq hcount.symm, by
    rw [hrefs]; exact List.Subset.refl _, fun x hx => .inl (hrefs ▸ hx)⟩

theorem provides (h : Gathers ctx ctx') {x : String} (hx : ctx.Provides config x) :
    ctx'.Provides config x := by
  rcases hx with hcolumn | halias | ⟨k, hk, rfl⟩
  · exact .inl (h.model ▸ hcolumn)
  · obtain ⟨a, ha, rfl⟩ := List.mem_map.mp halias
    exact .inr (.inl (List.mem_map_of_mem (h.aliases ha)))
  · exact .inr (.inr ⟨k, Nat.lt_of_lt_of_le hk h.count, rfl⟩)

theorem reads (h : Gathers ctx ctx') :
    ∀ x x', ctx.Reads config x x' → ctx'.Reads config x x' := by
  rintro x x' ⟨hsame, hx⟩
  exact ⟨hsame, hx.imp h.provides (@h.refs x)⟩

theorem plain (h : Gathers ctx ctx') (hplain : ctx'.ReadsPlain config) :
    ctx.ReadsPlain config :=
  ⟨hplain.parent, fun x x' hx => hplain.fields x x' (h.reads x x' hx)⟩

end Gathers

end Context

namespace Compiler

open Context (Gathers Reads ReadsPlain)

variable {c : Compiler} {ctx ctx' : Context} {path : String}

/-! ## Paths -/

theorem follow_value_reads {R : String → String → Prop} {a : Access} {names : List String}
    {joins : List Nat} {e : Ending} (joined : Option String) (hself : a.under joined = a)
    (ha : Access.Mirrors R a a)
    (h : c.follow path (.value a) names joins ctx = (.ok e, ctx')) :
    ctx' = ctx ∧ Access.Mirrors R e.target e.target := by
  obtain rfl := follow_value_context h
  have hboth : Access.Mirrors R a (a.under joined) := hself.symm ▸ ha
  obtain ⟨e', he', htarget, -⟩ := follow_value_mirrors hboth h joins ctx'
  rw [hself, h] at he'
  obtain rfl := Except.ok.inj (Prod.mk.inj he').1
  exact ⟨rfl, htarget⟩

/-- Names from a document lead to a column of the row or of a joined document. -/
theorem follow_reads {m : Model} {parent : Option String} {relation : String}
    {names : List String} {joins : List Nat}
    {e : Ending} (hplace : (parent = none ∧ m = ctx.model) ∨ ∃ x, parent = some x ∧
      x ∈ ctx.aliases.map (·.2))
    (h : c.follow path (.document m parent relation) names joins ctx = (.ok e, ctx')) :
    Gathers ctx ctx' ∧ Access.Mirrors (ctx'.Reads c.config) e.target e.target := by
  induction names generalizing m parent relation joins ctx with
  | nil => simp [follow] at h
  | cons name rest ih =>
    obtain ⟨name', rest', f, hnames, hf, hcase⟩ := follow_document_ok h
    obtain ⟨rfl, rfl⟩ := List.cons.inj hnames
    rcases hcase with ⟨-, hcolumn⟩ | ⟨_, _, _, target, k, -, -, -, -, hjoin⟩
    · have hread : Access.Mirrors (ctx.Reads c.config) (.column parent f.column
        (.ofField f.kind)) (.column parent f.column (.ofField f.kind)) := by
        rcases hplace with ⟨rfl, rfl⟩ | ⟨x, rfl, hx⟩
        · exact .own _ ⟨rfl, .inl (.inl (List.mem_map_of_mem (List.mem_of_find?_eq_some hf)))⟩
        · exact .joined _ _ ⟨rfl, .inl (.inr (.inl hx))⟩
      obtain ⟨rfl, htarget⟩ := follow_value_reads parent rfl hread hcolumn
      exact ⟨.refl _, htarget⟩
    · obtain ⟨-, hmem, -⟩ := Context.aliases_join ctx (relationPath relation name)
        parent f target k
      obtain ⟨hmore, htarget⟩ := ih (.inr ⟨_, rfl, List.mem_map_of_mem hmem⟩) hjoin
      exact ⟨(Gathers.join ctx _ parent f target k).trans hmore, htarget⟩

theorem followPath_reads {e : Ending} (h : c.followPath ctx path = (.ok e, ctx')) :
    Gathers ctx ctx' ∧ Access.Mirrors (ctx'.Reads c.config) e.target e.target := by
  obtain ⟨name, rest, -, -, hstart⟩ := followPath_ok h
  rcases hstart with ⟨type, htype, hvalue⟩ | ⟨-, hfollow⟩
  · have hname : name ∈ ctx.annotations.map (·.1) :=
      List.mem_map_of_mem (f := Prod.fst) (Context.mem_of_findType htype)
    have hread : Access.Mirrors ((ctx.refer name).Reads c.config) (.computed name type)
        (.computed name type) :=
      .computed type ⟨rfl, .inr ((Gathers.mem_refs_refer ctx name name).mpr (.inr rfl))⟩
    obtain ⟨rfl, htarget⟩ := follow_value_reads none rfl hread hvalue
    exact ⟨.refer hname, htarget⟩
  · exact follow_reads (.inl ⟨rfl, rfl⟩) hfollow

/-- A part of a query was compiled, and what holds of the result holds of expressions that read
no more than the context then allows. -/
structure ReadsOwn (c : Compiler) (ctx ctx' : Context)
    (holds : (String → String → Prop) → Prop) : Prop where
  gathers : Gathers ctx ctx'
  reads : ctx'.ReadsPlain c.config → holds (ctx'.Reads c.config)

namespace ReadsOwn

variable {holds others both : (String → String → Prop) → Prop} {after : Context}

/-- Nothing is read that the context does not allow already. -/
theorem same (hholds : ∀ R, holds R) : ReadsOwn c ctx ctx holds :=
    ⟨.refl ctx, fun _ => hholds _⟩

/-- Two parts were compiled one after the other. -/
theorem and (h : ReadsOwn c ctx after holds) (h' : ReadsOwn c after ctx' others)
    (hmono : ∀ {R S : String → String → Prop}, (∀ x x', R x x' → S x x') → holds R → holds S)
    (hboth : ∀ R, holds R → others R → both R) : ReadsOwn c ctx ctx' both where
  gathers := h.gathers.trans h'.gathers
  reads := fun hplain =>
    hboth _ (hmono h'.gathers.reads (h.reads (h'.gathers.plain hplain))) (h'.reads hplain)

/-- Contexts that differ in what is not read make no difference. -/
theorem within {inside inside' : Context} (hfirst : Context.IsSame ctx inside)
    (h : ReadsOwn c inside inside' holds) (hlast : Context.IsSame inside' ctx')
    (hmono : ∀ {R S : String → String → Prop}, (∀ x x', R x x' → S x x') → holds R → holds S) :
    ReadsOwn c ctx ctx' holds where
  gathers := (Gathers.of_same hfirst).trans (h.gathers.trans (.of_same hlast))
  reads := fun hplain =>
    hmono (Gathers.of_same hlast).reads (h.reads ((Gathers.of_same hlast).plain hplain))

theorem imp (h : ReadsOwn c ctx ctx' holds) (himp : ∀ R, holds R → others R) :
    ReadsOwn c ctx ctx' others :=
  ⟨h.gathers, fun hplain => himp _ (h.reads hplain)⟩

end ReadsOwn

theorem fieldExpr_reads {e : Value} {type : ValueType}
    (h : c.fieldExpr ctx path = .ok ((e, type), ctx')) :
    ReadsOwn c ctx ctx' fun R => Value.Mirrors R e e := by
  obtain ⟨ending, hpath, rfl⟩ := fieldExpr_ok h
  obtain ⟨hgathers, htarget⟩ := followPath_reads hpath
  exact ⟨hgathers, fun hplain => htarget.render hplain.fields⟩

/-- What a lookup compares with something is read from there on. -/
theorem resolveLookup_reads {r : Resolved} {after : Context}
    (h : c.resolveLookup ctx path = (.ok r, after)) :
    ReadsOwn c ctx (noteLookup r after) fun R => Access.Mirrors R r.target r.target := by
  obtain ⟨e, hpath, hcompared⟩ := resolveLookup_ok h
  obtain ⟨rfl, -⟩ := compared_ok hcompared
  obtain ⟨hgathers, htarget⟩ := followPath_reads hpath
  have hnote := Gathers.of_same (.noteLookup ⟨e.target, e.lookup?.getD .exact, e.joins⟩ after)
  exact ⟨hgathers.trans hnote, fun _ => htarget.mono hnote.reads⟩

/-- A lookup reads what its path and its operand read. -/
theorem buildOn_reads {r : Resolved} {after : Context} {w e : Value}
    (htarget : ReadsOwn c ctx after fun R => Access.Mirrors R r.target r.target)
    (hw : ReadsOwn c after ctx' fun R => Value.Mirrors R w w)
    (h : r.lookup.buildOn r.target w = .ok e) :
    ReadsOwn c ctx ctx' fun R => Value.Mirrors R e e where
  gathers := htarget.gathers.trans hw.gathers
  reads := by
    intro hplain
    have hbase := (htarget.reads (hw.gathers.plain hplain)).mono hw.gathers.reads
    obtain ⟨e', he', hmirrors⟩ := hbase.buildOn hplain.fields (hw.reads hplain) h
    obtain rfl := Except.ok.inj (h.symm.trans he')
    exact hmirrors

/-! ## Subqueries -/

theorem gathers_alongPaths : c.AlongPaths Gathers :=
    ⟨.refl, .trans, fun h => (fieldExpr_reads h).gathers⟩

/-- Of the result of a subquery its field is read. -/
theorem compileSubquery_reads {wrap : Bool} {q : Query} {e : Value}
    (h : c.compileSubquery ctx wrap q = .ok (e, ctx')) :
        ReadsOwn c ctx ctx' fun R => Value.Mirrors R e e := by
  obtain ⟨n, -, hplaced⟩ := compileSubquery_ok h
  obtain ⟨bindings, after, hbindings, rfl, rfl⟩ := placeSubquery_ok hplaced
  have hnext : Gathers after (placed c.config after n.model.collection bindings
      (n.placed q wrap)) :=
    ⟨rfl, rfl, List.Subset.refl _, fun _ ha => .inl ha, Nat.le_succ _, List.Subset.refl _,
      fun _ hx => .inl hx⟩
  have hfield : (placed c.config after n.model.collection bindings (n.placed q wrap)).Reads
    c.config (c.config.subqueryField after.subqueryCount)
    (c.config.subqueryField after.subqueryCount) :=
    ⟨rfl, .inl (.inr (.inr ⟨after.subqueryCount, Nat.lt_succ_self _, rfl⟩))⟩
  refine ⟨(gathers_alongPaths.outerBindings hbindings).trans hnext, fun hplain => ?_⟩
  exact .columnPath hfield (hplain.fields _ _ hfield).1 (hplain.fields _ _ hfield).1 n.column.1

/-- A value of the enclosing query is in a variable. -/
theorem outerExpr_reads {e : Value} {type : ValueType}
    (h : c.outerExpr ctx path = .ok ((e, type), ctx')) :
    ReadsOwn c ctx ctx' fun R => Value.Mirrors R e e := by
  obtain ⟨index, hindex, rfl⟩ := outerExpr_ok h
  refine ⟨.outerRef hindex, fun hplain => ?_⟩
  exact .bound (notMem_numbered (by decide) hplain.parent index) (isRootName_numbered _ index)

/-! ## Trees -/

mutual

theorem compileFilter_reads (ctx : Context) {ctx' : Context} (f : Filter) {e : Value}
    (h : c.compileFilter ctx f = .ok (e, ctx')) :
    ReadsOwn c ctx ctx' fun R => Value.Mirrors R e e := by
  match f with
  | .lookup path operand =>
    by_cases hcomputed : isComputed operand = true
    · obtain ⟨r, after, w, type, hr, hbuild, hw⟩ := compileFilter_computed_ok hcomputed h
      exact buildOn_reads (resolveLookup_reads hr) (compileExpr_reads _ operand hw) hbuild
    · match operand with
      | .literal v =>
        obtain ⟨r, after, w, hr, hbuild, hw, rfl⟩ := compileFilter_literal_ok h
        exact buildOn_reads (resolveLookup_reads hr) (.same fun _ =>
          Lookup.mirrors_literal hw) hbuild
      | .list items =>
        obtain ⟨r, after, vs, hr, hbuild, -, hvs⟩ := compileFilter_list_ok h
        exact buildOn_reads (resolveLookup_reads hr) ((compileItems_reads _ items hvs).imp
          fun _ => .array) hbuild
      | .subquery q =>
        obtain ⟨r, after, w, hr, hbuild, hw⟩ := compileFilter_subquery_ok h
        exact buildOn_reads (resolveLookup_reads hr) (compileSubquery_reads hw) hbuild
      | .field _ | .outer _ | .combined _ _ _ | .case _ _ | .condition _ =>
        exact absurd rfl hcomputed
  | .and filters =>
    obtain ⟨es, hes, rfl⟩ := compileFilter_and_ok h
    exact (compileFilters_reads ctx filters hes).imp fun _ => .conjunction
  | .or filters =>
    obtain ⟨es, inside, hes, rfl, rfl⟩ := compileFilter_or_ok h
    have hall := (compileFilters_reads ctx.enter filters hes).imp fun _ =>
      Value.Mirrors.disjunction
    exact .within (.enter ctx) hall (.leave inside) Value.Mirrors.mono
  | .not filter =>
    obtain ⟨v, inside, hv, rfl, rfl⟩ := compileFilter_not_ok h
    have hinside := (compileFilter_reads ctx.enter filter hv).imp fun _ =>
      Value.Mirrors.negation
    exact .within (.enter ctx) hinside (.leave inside) Value.Mirrors.mono
  | .exists q =>
    obtain ⟨v, hv, rfl⟩ := compileFilter_exists_ok h
    exact (compileSubquery_reads hv).imp fun _ hvalue => hvalue.nullCheck false

theorem compileFilters_reads (ctx : Context) {ctx' : Context} (filters : List Filter)
    {es : List Value} (h : c.compileFilters ctx filters = .ok (es, ctx')) :
    ReadsOwn c ctx ctx' fun R => List.Forall₂ (Value.Mirrors R) es es := by
  match filters with
  | [] =>
    rw [compileFilters] at h
    obtain ⟨rfl, rfl⟩ := Prod.mk.inj (Except.ok.inj h)
    exact .same fun _ => .nil
  | f :: rest =>
    obtain ⟨v, after, others, hv, hrest, rfl⟩ := compileFilters_cons_ok h
    exact (compileFilter_reads ctx f hv).and (compileFilters_reads after rest hrest)
      Value.Mirrors.mono fun _ => .cons

theorem compileItems_reads {r : Resolved} (ctx : Context) {ctx' : Context} (items : List Expr)
    {es : List Value} (h : c.compileItems r ctx items = .ok (es, ctx')) :
    ReadsOwn c ctx ctx' fun R => List.Forall₂ (Value.Mirrors R) es es := by
  match items with
  | [] =>
    rw [compileItems] at h
    obtain ⟨rfl, rfl⟩ := Prod.mk.inj (Except.ok.inj h)
    exact .same fun _ => .nil
  | item :: rest =>
    obtain ⟨v, after, others, hrest, rfl, hitem⟩ := compileItems_cons_ok h
    have hfirst : ReadsOwn c ctx after fun R => Value.Mirrors R v v := by
      rcases hitem with ⟨w, -, hw, rfl⟩ | ⟨type, hexpr⟩
      · exact .same fun _ => Lookup.mirrors_scalarLiteral hw
      · exact compileExpr_reads ctx item hexpr
    exact hfirst.and (compileItems_reads after rest hrest) Value.Mirrors.mono fun _ => .cons

theorem compileExpr_reads (ctx : Context) {ctx' : Context} (body : Expr) {e : Value}
    {type : ValueType} (h : c.compileExpr ctx body = .ok ((e, type), ctx')) :
    ReadsOwn c ctx ctx' fun R => Value.Mirrors R e e := by
  match body with
  | .literal v =>
    rw [compileExpr] at h
    obtain ⟨hpair, rfl⟩ := Prod.mk.inj (Except.ok.inj h)
    obtain ⟨rfl, -⟩ := Prod.mk.inj hpair
    exact .same fun _ => .protectAlone v
  | .field path =>
    rw [compileExpr] at h
    exact fieldExpr_reads h
  | .outer path =>
    rw [compileExpr] at h
    exact outerExpr_reads h
  | .list items =>
    obtain ⟨es, hes, rfl⟩ := compileExpr_list_ok h
    exact (compileExprs_reads ctx items hes).imp fun _ => .array
  | .combined op left right =>
    obtain ⟨a, s, after, b, t, ha, hb, rfl⟩ := compileExpr_combined_ok h
    exact (compileExpr_reads ctx left ha).and (compileExpr_reads after right hb)
      Value.Mirrors.mono fun _ => .combine op
  | .case branches otherwise =>
    obtain ⟨bs, after, v, hbs, hv, rfl⟩ := compileExpr_case_ok h
    exact (compileBranches_reads ctx branches hbs).and (compileExpr_reads after otherwise hv)
      (fun hsub hall => hall.imp fun _ _ hb => hb.mono hsub) fun _ => .caseDistinction
  | .condition filter => exact compileFilter_reads ctx filter (compileExpr_condition_ok h)
  | .subquery q => exact compileSubquery_reads (compileExpr_subquery_ok h)

theorem compileExprs_reads (ctx : Context) {ctx' : Context} (items : List Expr)
    {es : List Value} (h : c.compileExprs ctx items = .ok (es, ctx')) :
    ReadsOwn c ctx ctx' fun R => List.Forall₂ (Value.Mirrors R) es es := by
  match items with
  | [] =>
    rw [compileExprs] at h
    obtain ⟨rfl, rfl⟩ := Prod.mk.inj (Except.ok.inj h)
    exact .same fun _ => .nil
  | item :: rest =>
    obtain ⟨v, type, after, others, hv, hrest, rfl⟩ := compileExprs_cons_ok h
    exact (compileExpr_reads ctx item hv).and (compileExprs_reads after rest hrest)
      Value.Mirrors.mono fun _ => .cons

theorem compileBranches_reads (ctx : Context) {ctx' : Context} (branches : List (Filter × Expr))
    {es : List Value} (h : c.compileBranches ctx branches = .ok (es, ctx')) :
    ReadsOwn c ctx ctx' fun R => List.Forall₂ (Value.Mirrors.Branch R) es es := by
  match branches with
  | [] =>
    rw [compileBranches] at h
    obtain ⟨rfl, rfl⟩ := Prod.mk.inj (Except.ok.inj h)
    exact .same fun _ => .nil
  | (f, body) :: rest =>
    obtain ⟨condition, after, v, type, after', others, hf, hv, hrest, rfl⟩ :=
      compileBranches_cons_ok h
    have hbranch : ReadsOwn c ctx after' fun R => Value.Mirrors.Branch R (.branch condition v)
        (.branch condition v) :=
      (compileFilter_reads ctx f hf).and (compileExpr_reads after body hv) Value.Mirrors.mono
        fun _ => .mk
    exact hbranch.and (compileBranches_reads after' rest hrest) Value.Mirrors.Branch.mono
      fun _ => .cons

end

end Compiler

end DocQuery
