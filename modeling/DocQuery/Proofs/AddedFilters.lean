import DocQuery.Proofs.MirroredDerivations
set_option autoImplicit false

/-!
# Proofs: one more condition adds no rows

A query with one more condition returns no document that the query by itself does not return.
The condition may make a join keep documents without a match, though, which the query drops, so
this is only so for documents from which the relation of such a join leads somewhere.
-/

namespace DocQuery

open Value

/-! ## Queries with one more condition -/

namespace Query

variable {c : Compiler} {m : Model} {q : Query} {g : Filter}

theorem annotations_addFilter (q : Query) (g : Filter) :
    (q.addFilter g).annotations = q.annotations := by
  cases q
  rfl

theorem related_addFilter (q : Query) (g : Filter) : (q.addFilter g).related = q.related := by
  cases q
  rfl

theorem filter_addFilter (q : Query) (g : Filter) :
    (q.addFilter g).filter = some (conjoin q.filter g) := by
  cases q
  rfl

theorem model_addFilter (q : Query) (g : Filter) : (q.addFilter g).model = q.model := by
  cases q
  rfl

theorem isUncut_addFilter (h : q.IsUncut) (g : Filter) : (q.addFilter g).IsUncut := by
  cases q
  exact ⟨h.offset, h.limit, h.union⟩

theorem usesOf_append (known : List String) (nested : Bool) (fs gs : List Filter) :
    Filter.usesOf known nested (fs ++ gs) =
        Filter.usesOf known nested fs ++ Filter.usesOf known nested gs := by
  induction fs with
  | nil => rw [Filter.usesOf, List.nil_append, List.nil_append]
  | cons f rest ih => rw [List.cons_append, Filter.usesOf, Filter.usesOf, ih, List.append_assoc]

theorem mem_usesOf_conjoin (known : List String) (f : Option Filter) (g : Filter) (u : Use) :
    u ∈ Filter.usesOf known false [conjoin f g] ↔
      u ∈ Filter.usesOf known false f.toList ∨ u ∈ g.uses known false := by
  unfold conjoin
  split
  · simp [Filter.usesOf]
  · simp [Filter.usesOf, Filter.uses, usesOf_append]
  · simp [Filter.usesOf, Filter.uses]

theorem mem_uses_addFilter (q : Query) (g : Filter) (u : Use) :
    u ∈ (q.addFilter g).uses ↔ u ∈ q.uses ∨ u ∈ g.uses (q.annotations.map (·.1)) false := by
  have hfilter := mem_usesOf_conjoin (q.annotations.map (·.1)) q.filter g u
  obtain ⟨model, filter, annotations, values, orderBy, offset, limit, related, union⟩ := q
  simp only [uses, addFilter, Query.filter, Query.annotations, Query.related,
    Query.orderBy, Query.values, Option.toList_some, List.mem_append] at hfilter ⊢
  rw [hfilter]
  tauto

/-- The relations whose joins a condition makes keep the documents from which they lead nowhere,
while the query by itself drops these documents. -/
def promoted (c : Compiler) (m : Model) (q : Query) (g : Filter) : List (List String) :=
  ((q.uses.flatMap fun u => u.crossings c.schema m).filter fun x =>
    !x.2.nullable && !q.uses.any (fun u => u.GoesThrough c.schema m x.1 ∧
      u.KeepsUnmatched c m) && (g.uses (q.annotations.map (·.1)) false).any
        fun u => u.GoesThrough c.schema m x.1 ∧ u.KeepsUnmatched c m).map (·.1)

theorem mem_promoted {x : List String × Field} {u v : Use} (hu : u ∈ q.uses)
    (hx : x ∈ u.crossings c.schema m) (hnullable : x.2.nullable = false)
    (hunkept : ∀ u ∈ q.uses, u.GoesThrough c.schema m x.1 → ¬u.KeepsUnmatched c m)
    (hv : v ∈ g.uses (q.annotations.map (·.1)) false) (hthrough : v.GoesThrough c.schema m x.1)
    (hkept : v.KeepsUnmatched c m) : x.1 ∈ q.promoted c m g := by
  refine List.mem_map_of_mem (List.mem_filter.mpr ⟨List.mem_flatMap.mpr ⟨u, hu, hx⟩, ?_⟩)
  have hnone : q.uses.any (fun u => u.GoesThrough c.schema m x.1 ∧
      u.KeepsUnmatched c m) = false := by
    simpa using hunkept
  have hsome : (g.uses (q.annotations.map (·.1)) false).any
      (fun u => u.GoesThrough c.schema m x.1 ∧ u.KeepsUnmatched c m) = true := by
    simpa using ⟨v, hv, hthrough, hkept⟩
  rw [hnullable, hnone, hsome]
  rfl

end Query

namespace Compiler

open Context (Grow Pairs Widens)

variable {c : Compiler} {ctx ctx' : Context} {m : Model} {q : Query} {g : Filter}

/-! ## Conditions -/

/-- Whether a condition is true on a row, if there is one. -/
def Selects (condition : Option Value) (row : Value) : Prop :=
    ∀ e ∈ condition, e.IsTrue ⟨row, []⟩

/-- The rows that are kept are those on which the condition is true. -/
theorem mem_of_selecting {condition : Option Value} {store : Store} {rows kept : List Value}
    (h : Stage.runAll store (selecting condition) [] rows = .ok kept) (row : Value) :
    row ∈ kept ↔ row ∈ rows ∧ Selects condition row := by
  cases condition with
  | none =>
    obtain rfl : rows = kept := by simpa [selecting, Stage.runAll] using h
    simp [Selects]
  | some e =>
    rw [selecting, Stage.runAll_singleton, Stage.selectExpr, Stage.run] at h
    rw [Stage.mem_selected_iff h, selects_expr]
    simp [Selects, IsTrue]

theorem compileFilters_snoc_ok {fs : List Filter} {es : List Value}
    (h : c.compileFilters ctx (fs ++ [g]) = .ok (es, ctx')) :
    ∃ front mid e, c.compileFilters ctx fs = .ok (front, mid) ∧
      c.compileFilter mid g = .ok (e, ctx') ∧ es = front ++ [e] := by
  induction fs generalizing ctx es with
  | nil =>
    obtain ⟨e, after, others, he, hothers, rfl⟩ := compileFilters_cons_ok h
    rw [compileFilters] at hothers
    obtain ⟨rfl, rfl⟩ := Prod.mk.inj (Except.ok.inj hothers)
    exact ⟨[], ctx, e, by rw [compileFilters], he, rfl⟩
  | cons f rest ih =>
    obtain ⟨v, after, others, hv, hothers, rfl⟩ := compileFilters_cons_ok h
    obtain ⟨front, mid, e, hfront, he, rfl⟩ := ih hothers
    exact ⟨v :: front, mid, e, by simp only [compileFilters, hv, hfront], he, rfl⟩

/-- Two conditions are compiled one after the other, and both are true where their conjunction
is. -/
theorem compileCondition_conjoin_ok {f : Option Filter} {condition condition' : Option Value}
    {mid : Context} (h : c.compileCondition ctx f = .ok (condition, mid))
    (h' : c.compileCondition ctx (some (Query.conjoin f g)) = .ok (condition', ctx')) :
    ∃ e, c.compileFilter mid g = .ok (e, ctx') ∧ ∀ row, Selects condition' row →
        Selects condition row := by
  obtain ⟨v, hv, rfl⟩ := compileCondition_some_ok h'
  have hsome : ∀ {f : Filter}, c.compileCondition ctx (some f) = .ok (condition, mid) →
      ∃ w, c.compileFilter ctx f = .ok (w, mid) ∧ condition = some w := compileCondition_some_ok
  unfold Query.conjoin at hv
  split at hv
  · rw [compileCondition] at h
    obtain ⟨rfl, rfl⟩ := Prod.mk.inj (Except.ok.inj h)
    exact ⟨v, hv, fun row _ => by simp [Selects]⟩
  · obtain ⟨w, hw, rfl⟩ := hsome h
    obtain ⟨es, hes, rfl⟩ := compileFilter_and_ok hv
    obtain ⟨front, mid', e, hfront, he, rfl⟩ := compileFilters_snoc_ok hes
    obtain ⟨front', hfront', rfl⟩ := compileFilter_and_ok hw
    obtain ⟨rfl, rfl⟩ := Prod.mk.inj (Except.ok.inj (hfront.symm.trans hfront'))
    refine ⟨e, he, fun row hrow => ?_⟩
    simp only [Selects, Option.mem_some_iff, forall_eq', isTrue_conjunction] at hrow ⊢
    exact fun w hw => hrow w (List.mem_append_left _ hw)
  · obtain ⟨w, hw, rfl⟩ := hsome h
    obtain ⟨es, hes, rfl⟩ := compileFilter_and_ok hv
    obtain ⟨w', after, others, hw', hothers, rfl⟩ := compileFilters_cons_ok hes
    obtain ⟨rfl, rfl⟩ := Prod.mk.inj (Except.ok.inj (hw.symm.trans hw'))
    obtain ⟨e, last, rest, he, hrest, rfl⟩ := compileFilters_cons_ok hothers
    rw [compileFilters] at hrest
    obtain ⟨rfl, rfl⟩ := Prod.mk.inj (Except.ok.inj hrest)
    refine ⟨e, he, fun row hrow => ?_⟩
    simp only [Selects, Option.mem_some_iff, forall_eq', isTrue_conjunction] at hrow ⊢
    exact hrow w List.mem_cons_self

/-! ## Contexts -/

namespace Derivation

section Grown

variable (d : c.Derivation m q) (hplain : c.schema.hasPlainCollections = true)
  (hfields : c.HasOwnFields)

include hplain hfields in
/-- Behind the filter the order and the returned columns are compiled. -/
theorem grows (h : Context.Mirrors c.config d.filtered d.filtered) :
    Grow c.config d.filtered d.filtered d.final d.final := by
  obtain ⟨_, _, _, hsorts, hsorted, -⟩ := sortKeys_mirrors hplain hfields h d.sorts
  obtain ⟨-, rfl⟩ := Prod.mk.inj (Except.ok.inj (hsorts.symm.trans d.sorts))
  obtain ⟨_, _, hreturns, hreturned, -⟩ := returnedColumns_mirrors hplain hfields
    hsorted.mirrors (fun name hname => hsorted.first.names name (d.names_filtered name hname))
    d.returns
  obtain ⟨-, rfl⟩ := Prod.mk.inj (Except.ok.inj (hreturns.symm.trans d.returns))
  exact hsorted.trans hreturned

theorem extends_filtered : Context.Extends c.config d.filtered d.final :=
  (extends_alongPaths.sortKeys d.sorts).trans (extends_alongPaths.returnedColumns d.returns)

/-- The stages of the subqueries up to the filter. -/
theorem placed_filtered :
    Placed c.config 0 d.filtered.subqueryCount d.filtered.subqueryStages := by
  obtain ⟨stages, hstages, hplaced⟩ := ((extends_alongPaths.loadRelations d.loads).trans
    ((compileAnnotations_extends d.computes).trans (compileCondition_extends
      d.filters))).subqueries
  have hall : d.filtered.subqueryStages = stages := hstages
  rwa [hall]

end Grown

/-- With one more condition, the same is compiled up to the filter. -/
theorem addFilter_ok (d : c.Derivation m q) (d' : c.Derivation m (q.addFilter g)) :
    d'.stages = d.stages ∧ (∀ row, Selects d'.condition row → Selects d.condition row) ∧
      ∃ e, c.compileFilter d.filtered g = .ok (e, d'.filtered) := by
  have hloads := d'.loads
  rw [Query.related_addFilter] at hloads
  have hloaded := Except.ok.inj (hloads.symm.trans d.loads)
  have hcomputes := d'.computes
  rw [hloaded, Query.annotations_addFilter] at hcomputes
  obtain ⟨hstages, hcomputed⟩ := Prod.mk.inj (Except.ok.inj (hcomputes.symm.trans d.computes))
  have hfilters := d'.filters
  rw [hcomputed, Query.filter_addFilter] at hfilters
  obtain ⟨e, he, hselects⟩ := compileCondition_conjoin_ok d.filters hfilters
  exact ⟨hstages, hselects, e, he⟩

/-- A join has the same kind with one more condition, unless the condition makes it keep
documents. -/
theorem kind_addFilter (d : c.Derivation m q) (d' : c.Derivation m (q.addFilter g))
    {entry : String × Join}
    (hentry : entry ∈ d.final.joins) : ∃ entry' ∈ d'.final.joins, entry'.1 = entry.1 ∧
      (entry'.2.kind = entry.2.kind ∨
        entry.2.kind = .inner ∧ Text.segments entry.1 ∈ q.promoted c m g) := by
  obtain ⟨entry', hentry', hsame, u, hu, x, hx, hsegments, hkind, hkind'⟩ := d.kinds_of_uses d'
    (fun u hu => (Query.mem_uses_addFilter q g u).mpr (.inl hu)) hentry
  refine ⟨entry', hentry', hsame, ?_⟩
  cases hone : entry.2.kind with
  | left =>
    refine .inl (hkind'.mpr ((hkind.mp hone).imp_right fun ⟨v, hv, hkept⟩ => ?_))
    exact ⟨v, (Query.mem_uses_addFilter q g v).mpr (.inl hv), hkept⟩
  | inner =>
    cases hother : entry'.2.kind with
    | inner => exact .inl rfl
    | left =>
      rw [hone] at hkind
      simp only [reduceCtorEq, false_iff, not_or, Bool.not_eq_true, not_exists,
        not_and] at hkind
      obtain ⟨v, hv, hthrough, hkept⟩ := (hkind'.mp hother).resolve_left (by simp [hkind.1])
      rcases (Query.mem_uses_addFilter q g v).mp hv with hold | hnew
      · exact absurd hkept (hkind.2 v hold hthrough)
      · exact .inr ⟨rfl, hsegments ▸ Query.mem_promoted hu hx hkind.1 hkind.2 hnew
          hthrough hkept⟩

end Derivation

/-! ## Rows -/

/-- Rows still agree behind stages that keep the related fields. -/
theorem agree_of_keeps {R : String → String → Prop} {store : Store} {stages others : List Stage}
    (hadds : ∀ s ∈ stages, s.addsFields = true) (hadds' : ∀ s ∈ others, s.addsFields = true)
    (hkeeps : ∀ x x', R x x' → (∀ s ∈ stages, s.Keeps x) ∧ ∀ s ∈ others, s.Keeps x')
    {row other out out' : Value} (hrows : Agree R row other)
    (hrun : Stage.runAll store stages [] [row] = .ok [out])
    (hrun' : Stage.runAll store others [] [other] = .ok [out']) : Agree R out out' where
  first := Stage.items?_of_runAll hadds hrows.first hrun
  second := Stage.items?_of_runAll hadds' hrows.second hrun'
  fields := by
    intro x x' hx
    rw [Stage.field?_of_runAll (hkeeps x x' hx).1 hrun, Stage.field?_of_runAll
      (hkeeps x x' hx).2 hrun', hrows.fields x x' hx]

/-- Whether the names of columns, stored and computed, are not those of the fields of
subqueries, and computed columns can be read by their names. -/
structure NamesApart (c : Compiler) (m : Model) (q : Query) : Prop where
  plain : ∀ name ∈ q.annotations.map (·.1), IsPlainName name
  subqueries : ∀ name ∈ m.columns ++ q.annotations.map (·.1), ∀ k,
    name ≠ c.config.subqueryField k

namespace Derivation

/-- The stages of the subqueries behind the filter keep what can be read there. -/
theorem keeps_filtered (d : c.Derivation m q) (hfields : c.HasOwnFields)
    (hnames : c.NamesApart m q)
    (hmirrors : Context.Mirrors c.config d.filtered d.filtered) {final : Context}
    (h : Context.Extends c.config d.filtered final) :
    ∃ pushed, final.subqueryStages = d.filtered.subqueryStages ++ pushed ∧
      (∀ s ∈ pushed, s.addsFields = true) ∧ ∀ x x', Pairs c.config d.filtered d.filtered x x' →
        (∀ s ∈ pushed, s.Keeps x) ∧ ∀ s ∈ pushed, s.Keeps x' := by
  obtain ⟨pushed, hpushed, hplaced⟩ := h.subqueries
  refine ⟨pushed, hpushed, hplaced.addsFields, ?_⟩
  have hdots : '.' ∉ c.config.subqueryPrefix.toList := fun hmem =>
    (hfields.plain 0).1 (by simp [Config.subqueryField, hmem])
  have halias : ∀ {text x : String}, (text, x) ∈ d.filtered.aliases → ∀ s ∈ pushed,
      s.Keeps x := fun hx =>
    hplaced.keeps hdots fun n _ _ heq => (hmirrors.first _ hx).2 n heq.symm
  rintro x x' (⟨rfl, hname⟩ | ⟨text, hx, hx'⟩)
  · have hkeeps : ∀ s ∈ pushed, s.Keeps x := by
      refine hplaced.keeps hdots fun n hn _ heq => ?_
      have hapart : ∀ name ∈ m.columns ++ q.annotations.map (·.1),
          c.config.subqueryField n ≠ name :=
        fun name hname heq => hnames.subqueries name hname n heq.symm
      rcases hname with hcolumn | hannotation | ⟨k, hk, rfl⟩
      · rw [d.knows.2.2] at hcolumn
        exact hapart x (List.mem_append_left _ hcolumn) heq
      · have hknown := (d.knows.1 x).mp ((d.filtered.knows_annotations x).mpr hannotation)
        exact hapart x (List.mem_append_right _ hknown) heq
      · have hsame := numbered_injective c.config.subqueryPrefix heq
        omega
    exact ⟨hkeeps, hkeeps⟩
  · exact ⟨halias hx, halias hx'⟩

/-- The stages that add fields are the same up to the filter, so their results agree. -/
theorem agree_adding (d : c.Derivation m q) (d' : c.Derivation m (q.addFilter g))
    (hplain : c.schema.hasPlainCollections = true) (hfields : c.HasOwnFields)
    (hm : m ∈ c.schema.models)
    (hnames : c.NamesApart m q)
    (heq : ∀ x x', Pairs c.config d.filtered d.filtered x x' → x = x')
    {store : Store} {row row' out out' : Value}
    (hrows : Agree (Pairs c.config d.filtered d.filtered) row row')
    (hrun : Stage.runAll store d.adding [] [row] = .ok [out])
    (hrun' : Stage.runAll store d'.adding [] [row'] = .ok [out']) :
    Agree (Pairs c.config d.filtered d.filtered) out out' := by
  obtain ⟨hgrow, hstages, -⟩ := d.mirrors_itself hplain hfields hm hnames.plain
  obtain ⟨hsame, -, e, he⟩ := d.addFilter_ok d'
  obtain ⟨pushed, hpushed, hadds, hkeeps⟩ := d.keeps_filtered hfields hnames hgrow.mirrors
    d.extends_filtered
  obtain ⟨pushed', hpushed', hadds', hkeeps'⟩ := d.keeps_filtered hfields hnames hgrow.mirrors
    ((compileFilter_extends _ g he).trans d'.extends_filtered)
  obtain ⟨subqueries, others, hfirst, hsecond, hmirrored⟩ := hgrow.stages
  obtain rfl : subqueries = others := List.append_cancel_left (hfirst.symm.trans hsecond)
  obtain rfl : subqueries = d.filtered.subqueryStages := hfirst.symm
  have hrespects : ∀ name, Respects (Pairs c.config d.filtered d.filtered) name :=
      fun name x x' hx => by
    rw [heq x x' hx]
  have hrowwise : ∀ s ∈ d.filtered.subqueryStages, s.IsRowwise := fun s hs =>
    d.placed_filtered.isRowwise s hs
  have hpushedRowwise := fun s hs => Stage.isRowwise_of_addsFields (hadds s hs)
  have hpushedRowwise' := fun s hs => Stage.isRowwise_of_addsFields (hadds' s hs)
  rw [adding, hpushed, List.append_assoc] at hrun
  rw [adding, hpushed', hsame, List.append_assoc] at hrun'
  obtain ⟨first, hfirst, hrest⟩ := Stage.runAll_row_append hrowwise hrun
  obtain ⟨second, hsecond, hlast⟩ := Stage.runAll_row_append hpushedRowwise hrest
  obtain ⟨first', hfirst', hrest'⟩ := Stage.runAll_row_append hrowwise hrun'
  obtain ⟨second', hsecond', hlast'⟩ := Stage.runAll_row_append hpushedRowwise' hrest'
  -- the subqueries of the query itself, then those of the condition, then the computed columns
  have htargets : ∀ s ∈ d.filtered.subqueryStages, ∀ name ∈ s.targets, '.' ∉ name.toList := by
    intro s hs name hname
    obtain ⟨k, rfl⟩ := d.placed_filtered.targets s hs name hname
    exact (hfields.plain k).1
  obtain ⟨_, hsameRun, hagree⟩ := Stage.runAll_mirrors hmirrored hrows
    (fun s hs name hname => ⟨htargets s hs name hname, hrespects name⟩) hfirst
  obtain rfl := List.singleton_injective (Except.ok.inj (hsameRun.symm.trans hfirst'))
  have hbetween := agree_of_keeps hadds hadds' (fun x x' hx => ⟨(hkeeps x x' hx).1,
    (hkeeps' x x' hx).2⟩) hagree hsecond hsecond'
  have hcolumns : ∀ s ∈ d.stages, ∀ name ∈ s.targets, '.' ∉ name.toList := by
    intro s hs name hname
    have hannotation :=
      (compileAnnotations_targets d.computes s hs name hname).resolve_left
        (by simp [Document.names])
    exact (hnames.plain name hannotation).1
  obtain ⟨_, hsameRun, hout⟩ := Stage.runAll_mirrors hstages hbetween
    (fun s hs name hname => ⟨hcolumns s hs name hname, hrespects name⟩) hlast
  obtain rfl := List.singleton_injective (Except.ok.inj (hsameRun.symm.trans hlast'))
  exact hout

/-- The joins of the query by itself make a row of a document, too, that agrees with the row of
the query with one more condition, unless the condition makes one of its joins keep documents
from which the relation leads nowhere. -/
theorem joined_addFilter (d : c.Derivation m q) (d' : c.Derivation m (q.addFilter g))
    (hplain : c.schema.hasPlainCollections = true) (hfields : c.HasOwnFields)
    (hm : m ∈ c.schema.models)
    (hnames : c.NamesApart m q)
    {store : Store} (hdocs : ∀ t ∈ c.schema.models, ∀ doc ∈ store.collection t.collection,
      doc.items? = none)
    {doc row' : Value} (hdoc : doc ∈ store.collection m.collection)
    (h : Join.Assembled c.config store d'.final.joins doc row') :
    (∃ row, Join.Assembled c.config store d.final.joins doc row ∧
        Agree (Pairs c.config d.filtered d.filtered) row row') ∨
      ∃ names ∈ q.promoted c m g, store.LeadsTo c m doc names .null := by
  obtain ⟨hops, hfinal⟩ := d.exists_hops hplain hm
  obtain ⟨hops', hfinal'⟩ := d'.exists_hops hplain hm
  have hplainHops := hfinal.leads.isPlain hplain hm
  have hplainHops' := hfinal'.leads.isPlain hplain hm
  have hitems := hdocs m hm doc hdoc
  have hsettled := Hop.settled_of_assembled hfinal'.leads hfinal'.joins hplainHops' hitems h
  by_cases hpromoted : ∃ names ∈ q.promoted c m g, store.LeadsTo c m doc names .null
  · exact .inr hpromoted
  refine .inl ?_
  have hcovered : ∀ pair ∈ hops.zip d.final.joins, ∃ pair' ∈ hops'.zip d'.final.joins,
    pair'.1.names = pair.1.names ∧ (pair'.2.2.kind = pair.2.2.kind ∨
        pair.2.2.kind = .inner ∧ row'.field? pair'.1.joined ≠ some .null) := by
    intro pair hpair
    obtain ⟨pair', hpair', hsame, hkind⟩ := hfinal.covered hfinal' (fun entry =>
      d.kind_addFilter d') pair hpair
    refine ⟨pair', hpair', hsame, hkind.imp_right fun ⟨hinner, hmem⟩ =>
      ⟨hinner, fun hnull => ?_⟩⟩
    obtain ⟨v, hv, -, hleadsTo⟩ := hsettled.leadsTo hfinal'.leads hfinal'.joins hplainHops'
      hitems hdocs _ (List.of_mem_zip hpair').1
    obtain rfl := Option.some.inj (hnull.symm.trans hv)
    rw [(List.forall₂_zip hfinal.joins hpair).path,
      (hfinal.leads.route _ (List.of_mem_zip hpair).1).1, ← hsame] at hmem
    exact hpromoted ⟨_, hmem, hleadsTo⟩
  obtain ⟨row, hassembled, hrow, hown, hsame⟩ := Hop.exists_assembled hfinal.leads hfinal.joins
    hplainHops hfinal'.leads hfinal'.joins hplainHops' (hfinal'.names_nodup
    (joinsFor_plan (.inl rfl) d'.planWith_eq).1) hitems hcovered hsettled
  -- what is compiled up to the filter finds the same names in both rows
  obtain ⟨hgrow, -, -⟩ := d.mirrors_itself hplain hfields hm hnames.plain
  obtain ⟨-, -, e, he⟩ := d.addFilter_ok d'
  have hfirst := d.grows hplain hfields hgrow.mirrors
  have hsecond : Grow c.config d.filtered d.filtered d'.final d'.final := by
    obtain ⟨_, _, he', hcondition, -⟩ := compileFilter_mirrors hplain hfields d.filtered g
      hgrow.mirrors he
    obtain ⟨-, rfl⟩ := Prod.mk.inj (Except.ok.inj (he'.symm.trans he))
    exact hcondition.trans (d'.grows hplain hfields hcondition.mirrors)
  refine ⟨row, hassembled, Context.agree_of_choices hfinal hfinal' hfirst.first.aliases
    hsecond.first.aliases (fun x hname => ?_) hrow hsettled.items hown hsettled.own hsame⟩
  by_cases halias : ∃ text, (text, x) ∈ d.filtered.aliases
  · obtain ⟨text, hx⟩ := halias
    exact .inl ⟨text, hx, hx⟩
  · rw [not_exists] at halias
    exact .inr ⟨hfinal.ne_joined hfirst d.knows.2.2 hname halias,
      hfinal'.ne_joined hsecond d.knows.2.2 hname halias⟩

/-- What a query returns is found from the rows that its joins make of documents. -/
theorem run_ok (d : c.Derivation m q) (hplain : c.schema.hasPlainCollections = true)
    (hfields : c.HasOwnFields)
    (hm : m ∈ c.schema.models)
    (hid : "_id" ∈ m.columns ∨ ∀ t ∈ c.schema.models, t.collection ≠ "_id")
    (hshows : c.ShowsIdentities m q) {store : Store}
    (hdocs : ∀ doc ∈ store.collection m.collection, doc.items? = none) {rows : List Value}
    (hrun : store.aggregate m.collection d.pipeline = .ok rows) :
    (∀ doc ∈ store.collection m.collection, ∀ row, Join.Assembled c.config store
      d.final.joins doc row → ∃ out, Stage.runAll store d.adding [] [row] = .ok [out]) ∧
      ∀ id, id ∈ rows.map (fun row => row.field? "_id") ↔
        ∃ doc ∈ store.collection m.collection, doc.field? "_id" = id ∧
          ∃ row out, Join.Assembled c.config store d.final.joins doc row ∧
            Stage.runAll store d.adding [] [row] = .ok [out] ∧ Selects d.condition out := by
  obtain ⟨hops, hfinal⟩ := d.exists_hops hplain hm
  have hplainHops := hfinal.leads.isPlain hplain hm
  have hsettled : ∀ doc ∈ store.collection m.collection, ∀ row,
      Join.Assembled c.config store d.final.joins doc row → row.items? = none ∧
          row.field? "_id" = doc.field? "_id" := by
    intro doc hdoc row hassembled
    have hsettled := Hop.settled_of_assembled hfinal.leads hfinal.joins hplainHops
      (hdocs doc hdoc) hassembled
    exact ⟨hsettled.items, hsettled.own "_id" fun hop hhop heq =>
      hfinal.leads.joined_own hop hhop (heq ▸ Hop.isOwn_id hid)⟩
  have hsubqueries : '.' ∉ c.config.subqueryPrefix.toList := fun hmem =>
    (hfields.plain 0).1 (by simp [Config.subqueryField, hmem])
  have hadding := (d.adds hshows hsubqueries).1
  rw [Store.aggregate, pipeline] at hrun
  obtain ⟨joined, hjoins, hrest⟩ := Stage.runAll_append_ok hrun
  obtain ⟨added, hadded, hrest⟩ := Stage.runAll_append_ok hrest
  obtain ⟨kept, hkept, hfinish⟩ := Stage.runAll_append_ok hrest
  have hmem := Join.mem_rows_iff (hfinal.isPlainName hplainHops) hjoins
  have hall := Stage.forall₂_of_runAll (fun s hs => (hadding s hs).2.rowwise) hadded
  have hitems : ∀ row ∈ joined, row.items? = none := by
    intro row hrow
    obtain ⟨doc, hdoc, hassembled⟩ := (hmem row).mp hrow
    exact (hsettled doc hdoc row hassembled).1
  have hkeptItems : ∀ row ∈ kept, row.items? = none := fun row hrow =>
    Stage.items_of_adding hadding hitems hadded row ((mem_of_selecting hkept row).mp hrow).1
  have hidentity : ∀ {row out : Value}, Stage.runAll store d.adding [] [row] = .ok [out] →
      out.field? "_id" = row.field? "_id" := fun hone => Stage.field?_of_runAll (fun s hs =>
        (hadding s hs).2) hone
  refine ⟨fun doc hdoc row hassembled => ?_, fun id => ?_⟩
  · obtain ⟨out, -, hone⟩ := (List.exists_mem_zip_of_forall₂ hall).1 row ((hmem row).mpr ⟨doc,
      hdoc, hassembled⟩)
    exact ⟨out, hone⟩
  · rw [(d.identities_of_finishing hshows hsubqueries hkeptItems hfinish).mem_iff, List.mem_map]
    constructor
    · rintro ⟨out, hout, rfl⟩
      obtain ⟨houtAdded, hselects⟩ := (mem_of_selecting hkept out).mp hout
      obtain ⟨row, hpair, hone⟩ := (List.exists_mem_zip_of_forall₂ hall).2 out houtAdded
      obtain ⟨doc, hdoc, hassembled⟩ := (hmem row).mp (List.of_mem_zip hpair).1
      exact ⟨doc, hdoc, by rw [hidentity hone, (hsettled doc hdoc row hassembled).2], row, out,
        hassembled, hone, hselects⟩
    · rintro ⟨doc, hdoc, rfl, row, out, hassembled, hone, hselects⟩
      obtain ⟨out', hpair, hone'⟩ :=
        (List.exists_mem_zip_of_forall₂ hall).1 row ((hmem row).mpr ⟨doc, hdoc, hassembled⟩)
      obtain rfl := List.singleton_injective (Except.ok.inj (hone.symm.trans hone'))
      refine ⟨out, (mem_of_selecting hkept out).mpr ⟨(List.of_mem_zip hpair).2, hselects⟩, ?_⟩
      rw [hidentity hone, (hsettled doc hdoc row hassembled).2]

end Derivation

/-! ## Results -/

/-- Each identity that is returned with one more condition is returned without it, or it is that
of a document from which a relation leads nowhere whose join the condition makes keep such
documents. -/
theorem compile_addFilter_returns {a b : Aggregation} {store : Store} {rows others : List Value}
    (hm : c.queryableModel q.model = .ok m) (hplain : c.schema.hasPlainCollections = true)
    (hfields : c.HasOwnFields)
    (hid : "_id" ∈ m.columns ∨ ∀ t ∈ c.schema.models, t.collection ≠ "_id")
    (hnames : c.NamesApart m q)
    (hshows : c.ShowsIdentities m q) (huncut : q.IsUncut)
    (hdocs : ∀ t ∈ c.schema.models, ∀ doc ∈ store.collection t.collection, doc.items? = none)
    (h : c.compile q = .ok a) (h' : c.compile (q.addFilter g) = .ok b)
    (hrun : store.aggregate a.collection a.pipeline = .ok rows)
    (hrun' : store.aggregate b.collection b.pipeline = .ok others) :
    ∀ id ∈ others.map (fun row => row.field? "_id"),
      id ∈ rows.map (fun row => row.field? "_id") ∨
      ∃ doc ∈ store.collection m.collection, doc.field? "_id" = id ∧
        ∃ names ∈ q.promoted c m g, store.LeadsTo c m doc names .null := by
  have hmem : m ∈ c.schema.models :=
    List.mem_of_find?_eq_some ((queryableModel_eq_ok_iff c q.model m).mp hm).1
  obtain ⟨d, hcollection, hpipeline⟩ := exists_derivation hm huncut h
  obtain ⟨d', hcollection', hpipeline'⟩ :=
    exists_derivation ((Query.model_addFilter q g).symm ▸ hm) (Query.isUncut_addFilter huncut g)
      h'
  rw [hcollection, hpipeline] at hrun
  rw [hcollection', hpipeline'] at hrun'
  have hshows' : c.ShowsIdentities m (q.addFilter g) := by
    cases q
    exact ⟨hshows.annotations, hshows.values⟩
  obtain ⟨htotal, hreturned⟩ := d.run_ok hplain hfields hmem hid hshows (hdocs m hmem) hrun
  obtain ⟨-, hreturned'⟩ := d'.run_ok hplain hfields hmem hid hshows' (hdocs m hmem) hrun'
  intro id hidentity
  obtain ⟨doc, hdoc, rfl, row', out', hassembled', hone', hselects'⟩ :=
    (hreturned' id).mp hidentity
  rcases d.joined_addFilter d' hplain hfields hmem hnames hdocs hdoc hassembled' with
    ⟨row, hassembled, hagree⟩ | hlost
  · obtain ⟨out, hone⟩ := htotal doc hdoc row hassembled
    refine .inl ((hreturned _).mpr ⟨doc, hdoc, rfl, row, out, hassembled, hone, ?_⟩)
    -- the condition of the query reads the same of both rows
    obtain ⟨hops, hfinal⟩ := d.exists_hops hplain hmem
    obtain ⟨hgrow, -, hcondition⟩ := d.mirrors_itself hplain hfields hmem hnames.plain
    have heq : ∀ x x', Pairs c.config d.filtered d.filtered x x' → x = x' := hfinal.pairs_eq
      (joinsFor_plan (.inl rfl) d.planWith_eq).1 (d.grows hplain hfields
        hgrow.mirrors).first.aliases
    have hout := d.agree_adding d' hplain hfields hmem hnames heq hagree hone hone'
    obtain ⟨-, hselects, -⟩ := d.addFilter_ok d'
    have hothers := hselects out' hselects'
    cases hvalue : d.condition with
    | none => simp [Selects]
    | some e =>
      rw [hvalue] at hcondition hothers
      cases hcondition with
      | some hmirrors =>
        simp only [Selects, Option.mem_some_iff, forall_eq', Value.IsTrue] at hothers ⊢
        rw [hmirrors.eval_eq hout, hothers]
  · exact .inr ⟨doc, hdoc, rfl, hlost⟩

/-- The loans of known books. -/
def loansOfKnown : Query :=
  (Query.all "Loan").addFilter (.lookup "book__title__in" (.literal (.array [.string "Iliad",
    .string "Odyssey"])))

/-- Three loans of known books, to Ann, to Bob and to somebody who is not known, and one of an
unknown book. -/
def fourLoans : Store :=
  ⟨[("loans",
      [.object [("_id", .int 1), ("book_id", .int 10), ("reader_id", .int 20)],
        .object [("_id", .int 2), ("book_id", .int 10), ("reader_id", .int 21)],
        .object [("_id", .int 3), ("book_id", .int 11), ("reader_id", .int 29)],
        .object [("_id", .int 4), ("book_id", .int 19), ("reader_id", .int 20)]]),
    ("books",
      [.object [("_id", .int 10), ("title", .string "Iliad")],
        .object [("_id", .int 11), ("title", .string "Odyssey")]]),
    ("readers",
      [.object [("_id", .int 20), ("name", .string "Ann")],
        .object [("_id", .int 21), ("name", .string "Bob")]])]⟩

theorem hasOwnFields_lending : lending.HasOwnFields :=
  hasOwnFields_of_prefix (by decide) (by decide) (by decide) (by decide)

/-- The loans of known books to others than Ann are loans of known books. -/
theorem fourLoans_of_others :
    ∃ a b rows others, lending.compile loansOfKnown = .ok a ∧
      lending.compile (loansOfKnown.addFilter
        (.not (.lookup "reader__name" (.literal (.string "Ann"))))) = .ok b ∧
      fourLoans.aggregate a.collection a.pipeline = .ok rows ∧
      fourLoans.aggregate b.collection b.pipeline = .ok others ∧
      others.length = 2 ∧
      ∀ id ∈ others.map (fun row => row.field? "_id"),
          id ∈ rows.map (fun row => row.field? "_id") := by
  obtain ⟨a, ha, hrun⟩ : ∃ a, lending.compile loansOfKnown = .ok a ∧
      Stage.succeedsWith (fun _ => true) (fourLoans.aggregate a.collection a.pipeline) = true :=
    ⟨_, rfl, by decide +kernel⟩
  obtain ⟨b, hb, hrun'⟩ : ∃ b, lending.compile
      (loansOfKnown.addFilter (.not (.lookup "reader__name" (.literal (.string "Ann"))))) =
        .ok b ∧
      Stage.succeedsWith (fun rows => rows.length == 2) (fourLoans.aggregate b.collection
          b.pipeline) = true :=
    ⟨_, rfl, by decide +kernel⟩
  obtain ⟨rows, hrows, -⟩ := Stage.exists_of_succeedsWith hrun
  obtain ⟨others, hothers, hlength⟩ := Stage.exists_of_succeedsWith hrun'
  have hapart : ∀ name ∈ loan.columns ++ loansOfKnown.annotations.map (·.1),
      ¬lending.config.subqueryPrefix.toList <+: name.toList := by decide
  have hnames : lending.NamesApart loan loansOfKnown :=
    ⟨by simp [loansOfKnown, Query.all, Query.addFilter, Query.annotations],
      fun name hname => ne_subqueryField (hapart name hname)⟩
  have hshows : lending.ShowsIdentities loan loansOfKnown :=
    ⟨by simp [loansOfKnown, Query.all, Query.addFilter, Query.annotations],
      by simp [loansOfKnown, Query.all, Query.addFilter, Query.values]⟩
  have hall := compile_addFilter_returns (c := lending) (m := loan) rfl (by decide)
    hasOwnFields_lending (.inl (by decide)) hnames hshows ⟨rfl, rfl, rfl⟩ (by decide) ha
    hb hrows hothers
  refine ⟨a, b, rows, others, ha, hb, hrows, hothers, eq_of_beq hlength, fun id hid =>
    (hall id hid).resolve_right ?_⟩
  have hpromoted : loansOfKnown.promoted lending loan
      (.not (.lookup "reader__name" (.literal (.string "Ann")))) = [] := by
    decide +kernel
  simp [hpromoted]

/-- The loans of books with a title between two bounds neither of which is given. -/
def loansOfAnyTitle : Query :=
  (Query.all "Loan").addFilter (.lookup "book__title__range" (.literal (.array [.null, .null])))

/-- With the condition that the book has no title or the loan is the last one, the join of the
book keeps the loan of the unknown book, which the query by itself does not return. -/
theorem fourLoans_unknown :
    ∃ a b rows others, lending.compile loansOfAnyTitle = .ok a ∧
      lending.compile (loansOfAnyTitle.addFilter
        (.or [.lookup "book__title" (.literal (.string "")), .lookup "pk" (.literal (.int 4))]))
          = .ok b ∧
      fourLoans.aggregate a.collection a.pipeline = .ok rows ∧
      fourLoans.aggregate b.collection b.pipeline = .ok others ∧
      ∃ id ∈ others.map (fun row => row.field? "_id"),
          id ∉ rows.map (fun row => row.field? "_id") := by
  -- whether an identity is that of the last loan
  let isLast : Option Value → Bool := fun id => id.any fun v => v.compare (.int 4) == .eq
  obtain ⟨a, ha, hrun⟩ : ∃ a, lending.compile loansOfAnyTitle = .ok a ∧
      Stage.succeedsWith (fun rows => rows.all fun row => !isLast (row.field? "_id"))
        (fourLoans.aggregate a.collection a.pipeline) = true :=
    ⟨_, rfl, by decide +kernel⟩
  obtain ⟨b, hb, hrun'⟩ : ∃ b, lending.compile (loansOfAnyTitle.addFilter
      (.or [.lookup "book__title" (.literal (.string "")), .lookup "pk" (.literal (.int 4))])) =
        .ok b ∧
      Stage.succeedsWith (fun rows => rows.any fun row => isLast (row.field? "_id"))
        (fourLoans.aggregate b.collection b.pipeline) = true :=
    ⟨_, rfl, by decide +kernel⟩
  obtain ⟨rows, hrows, hnone⟩ := Stage.exists_of_succeedsWith hrun
  obtain ⟨others, hothers, hsome⟩ := Stage.exists_of_succeedsWith hrun'
  obtain ⟨out, hout, hlast⟩ := List.any_eq_true.mp hsome
  refine ⟨a, b, rows, others, ha, hb, hrows, hothers, out.field? "_id", List.mem_map_of_mem
    hout, fun hmem => ?_⟩
  obtain ⟨row, hrow, hsame⟩ := List.mem_map.mp hmem
  have hother := List.all_eq_true.mp hnone row hrow
  rw [hsame, hlast] at hother
  cases hother

end Compiler

end DocQuery
