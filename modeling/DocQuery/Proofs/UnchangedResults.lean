import DocQuery.Proofs.Membership
import DocQuery.Proofs.WidenedQueries
set_option autoImplicit false

/-!
# Proofs: orders and loaded relations keep the results

A query that loads one more relation, or is put in order by one more path, runs where the query
without the path does, and returns the same documents.  In a store where foreign keys refer to
documents, this holds for all paths that go on, with a relation that has to have a match, only
behind documents that are there.
-/

namespace DocQuery

open Value

theorem JoinKind.eq_of_left_iff {kind kind' : JoinKind} (h : kind' = .left ↔ kind = .left) :
    kind' = kind := by
  cases kind <;> cases kind' <;> simp at h ⊢

namespace Compiler

open Context (Grow Pairs)

variable {c : Compiler} {m : Model} {q more : Query} {added : Use}

/-! ## Runs -/

/-- An order fails on no rows. -/
theorem exists_runAll_sortBy (keys : List (String × Direction)) (store : Store)
    (rows : List Value) : ∃ outs, Stage.runAll store (sortBy keys) [] rows = .ok outs := by
  unfold sortBy
  split <;> exact ⟨_, rfl⟩

theorem isFlag_columnsOf {ctx ctx' : Context} {paths : List String}
    {columns : List (String × Value)}
    (h : c.columnsOf ctx paths = .ok (columns, ctx')) :
        ∀ column ∈ columns, Stage.isFlag column.2 = false := by
  induction paths generalizing ctx columns with
  | nil =>
    obtain ⟨rfl, -⟩ := Prod.mk.inj (Except.ok.inj h)
    simp
  | cons path rest ih =>
    obtain ⟨e, type, after, others, he, hrest, rfl⟩ := columnsOf_cons_ok h
    obtain ⟨ending, -, rfl⟩ := fieldExpr_ok he
    exact List.forall_mem_cons.mpr ⟨isFlag_render ending.target, ih hrest⟩

namespace Derivation

/-- The returned columns are expressions, which a projection evaluates. -/
theorem isFlag_columns (d : c.Derivation m q) :
    ∀ column ∈ d.columns, Stage.isFlag column.2 = false := by
  have hreturns := d.returns
  unfold returnedColumns at hreturns
  split at hreturns
  · obtain ⟨hcolumns, -⟩ := Prod.mk.inj (Except.ok.inj hreturns)
    rw [← hcolumns]
    exact List.forall_mem_map.mpr fun name _ => rfl
  · exact isFlag_columnsOf hreturns

/-- Whether a row goes through the stages behind the joins of a query without a filter. -/
def Passes (d : c.Derivation m q) (store : Store) (row : Value) : Prop :=
  ∃ out, Stage.runAll store (d.adding ++ addColumns d.fields) [] [row] = .ok [out] ∧
    ∃ shown, Stage.projection (projectionOf d.columns) [] out = .ok shown

theorem finishing_of_none (d : c.Derivation m q) (hcondition : d.condition = none) :
    d.adding ++ (selecting d.condition ++ d.finishing) =
      (d.adding ++ addColumns d.fields) ++
          (sortBy d.keys ++ [.project (projectionOf d.columns)]) := by
  rw [hcondition, selecting, List.nil_append, finishing, List.append_assoc]

/-- A query without a filter runs if every row of its joins goes through. -/
theorem exists_run_iff (d : c.Derivation m q) (hcondition : d.condition = none) {store : Store}
    {joined : List Value}
    (hjoins : Stage.runAll store (d.final.joins.flatMap fun j => j.2.stages c.config) []
      (store.collection m.collection) = .ok joined) :
    (∃ rows, store.aggregate m.collection d.pipeline = .ok rows) ↔ ∀ row ∈ joined,
        d.Passes store row := by
  have hrowwise : ∀ s ∈ d.adding ++ addColumns d.fields, s.IsRowwise :=
    List.forall_mem_append.mpr ⟨fun s hs => Stage.isRowwise_of_addsFields
      (d.addsFields_adding s hs), fun s hs => Stage.isRowwise_of_addsFields
      (addsFields_addColumns d.fields s hs)⟩
  rw [Store.aggregate, pipeline, d.finishing_of_none hcondition, Stage.runAll_append, hjoins]
  dsimp only [Except.bind]
  constructor
  · rintro ⟨rows, hrun⟩ row hrow
    obtain ⟨added, hadded, hrest⟩ := Stage.runAll_append_ok hrun
    obtain ⟨sorted, hsorted, hproject⟩ := Stage.runAll_append_ok hrest
    rw [Stage.runAll_singleton, Stage.run] at hproject
    obtain ⟨out, hpair, hone⟩ :=
      (List.exists_mem_zip_of_forall₂ (Stage.forall₂_of_runAll hrowwise hadded)).1 row hrow
    exact ⟨out, hone, Stage.exists_each_iff.mp ⟨rows, hproject⟩ out
      ((runAll_sortBy_ok hsorted).mem_iff.mpr (List.of_mem_zip hpair).2)⟩
  · intro hall
    obtain ⟨added, hadded⟩ := (Stage.exists_runAll_iff hrowwise).mpr fun row hrow =>
      (hall row hrow).imp fun out hout => hout.1
    obtain ⟨sorted, hsorted⟩ := exists_runAll_sortBy d.keys store added
    obtain ⟨rows, hproject⟩ : ∃ rows, Stage.each (Stage.projection (projectionOf d.columns) [])
        sorted = .ok rows := by
      refine Stage.exists_each_iff.mpr fun out hout => ?_
      obtain ⟨row, hpair, hone⟩ :=
        (List.exists_mem_zip_of_forall₂ (Stage.forall₂_of_runAll hrowwise hadded)).2 out
        ((runAll_sortBy_ok hsorted).mem_iff.mp hout)
      obtain ⟨out', hout', hshown⟩ := hall row (List.of_mem_zip hpair).1
      obtain rfl := List.singleton_injective (Except.ok.inj (hone.symm.trans hout'))
      exact hshown
    refine ⟨rows, ?_⟩
    rw [Stage.runAll_append, hadded]
    dsimp only [Except.bind]
    rw [Stage.runAll_append, hsorted]
    dsimp only [Except.bind]
    rw [Stage.runAll_singleton, Stage.run, hproject]

end Derivation

/-! ## Rows that agree -/

/-- Whether the names that joined documents can get are those of no columns that a query
computes, which can be read by their names, and of no columns that are computed for an order. -/
structure JoinsApart (c : Compiler) (q : Query) : Prop where
  annotations : ∀ name ∈ q.annotations.map (·.1), IsPlainName name ∧ ¬c.NamesJoin name
  order : ∀ t ∈ c.schema.models, ∀ i, t.collection ≠ orderField i

/-- A name that does not start like the columns of orders is none of them. -/
theorem ne_orderField {name : String} (h : ¬"__order".toList <+: name.toList) (i : Nat) :
    name ≠ orderField i := by
  rintro rfl
  exact h ⟨(toString i).toList, by simp [orderField]⟩

theorem JoinsApart.notNamesJoin_orderField (h : c.JoinsApart q) (i : Nat) :
    ¬c.NamesJoin (orderField i) := by
  rintro (⟨t, ht, hname⟩ | ⟨n, hname⟩)
  · exact h.order t ht i hname.symm
  · have hlist := congrArg String.toList hname
    simp [orderField, Context.numberedAlias] at hlist

namespace Derivation

variable {d : c.Derivation m q} {d' : c.Derivation m more} {extra : Document} {store : Store}
  {row row' doc : Value}

/-- The aliases of all joins are names that joined documents can get. -/
theorem namesJoin_aliases (d : c.Derivation m q) : ∀ a ∈ d.final.aliases, c.NamesJoin a.2 :=
  traced_aliases (plan_follows (.inl rfl) d.planWith_eq) (by simp [Context.aliases,
    Context.ofModel])

/-- Names that joined documents cannot get are only related to themselves. -/
theorem respects_of_notNamesJoin (d : c.Derivation m q) (d' : c.Derivation m more)
    {name : String}
    (hname : ¬c.NamesJoin name) : Respects (Pairs c.config d.final d'.final) name := by
  rintro x x' (⟨rfl, -⟩ | ⟨text, hx, hx'⟩)
  · exact Iff.rfl
  · constructor
    · rintro rfl
      exact absurd (d.namesJoin_aliases _ hx) hname
    · rintro rfl
      exact absurd (d'.namesJoin_aliases _ hx') hname

/-- The names of fields that stages add to rows can be read, and are only related to
themselves. -/
theorem targets_adding (d : c.Derivation m q) (d' : c.Derivation m more)
    (hfields : c.HasOwnFields)
    (hapart : c.JoinsApart q) : ∀ s ∈ d.adding ++ addColumns d.fields, ∀ name ∈ s.targets,
      '.' ∉ name.toList ∧ Respects (Pairs c.config d.final d'.final) name := by
  refine List.forall_mem_append.mpr ⟨List.forall_mem_append.mpr ⟨fun s hs name hname => ?_,
    fun s hs name hname => ?_⟩, fun s hs name hname => ?_⟩
  · obtain ⟨k, rfl⟩ := d.placed.targets s hs name hname
    refine ⟨(hfields.plain k).1, d.respects_of_notNamesJoin d' ?_⟩
    rintro (⟨t, ht, heq⟩ | ⟨n, heq⟩)
    · exact hfields.collections t ht k heq.symm
    · exact hfields.numbered n k heq.symm
  · have hannotation := (compileAnnotations_targets d.computes s hs name hname).resolve_left
      (by simp [Document.names])
    obtain ⟨hplain, hfree⟩ := hapart.annotations name hannotation
    exact ⟨hplain.1, d.respects_of_notNamesJoin d' hfree⟩
  · have hmem : name ∈ d.fields.names := by
      unfold addColumns at hs
      split at hs
      · simp at hs
      · obtain rfl := List.mem_singleton.mp hs
        exact hname
    obtain ⟨i, rfl⟩ := sortKeys_names d.sorts name hmem
    exact ⟨notMem_numbered (by decide) (by decide) i,
      d.respects_of_notNamesJoin d' (hapart.notNamesJoin_orderField i)⟩

/-- What adds fields to a row adds the same to a row that agrees. -/
theorem Beside.adding (h : Beside d d' extra) (hfields : c.HasOwnFields)
    (hapart : c.JoinsApart q)
    (hrows : Agree (Pairs c.config d.final d'.final) row row') {out : Value}
    (hrun : Stage.runAll store d.adding [] [row] = .ok [out]) :
    ∃ out', Stage.runAll store d'.adding [] [row'] = .ok [out'] ∧
      Agree (Pairs c.config d.final d'.final) out out' :=
  Stage.runAll_mirrors (List.rel_append h.subqueries h.stages) hrows
    (fun s hs => d.targets_adding d' hfields hapart s (List.mem_append_left _ hs)) hrun

/-- If no more columns are computed for the order, rows that agree go through as well. -/
theorem Beside.passes (h : Beside d d' []) (hfields : c.HasOwnFields) (hapart : c.JoinsApart q)
    (hrows : Agree (Pairs c.config d.final d'.final) row row') (hrow : d.Passes store row) :
        d'.Passes store row' := by
  obtain ⟨out, hrun, hshown⟩ := hrow
  obtain ⟨others, hall, hcomputed⟩ := h.fields
  rw [List.append_nil] at hall
  subst hall
  obtain ⟨out', hrun', hagree⟩ := Stage.runAll_mirrors
    (List.rel_append (List.rel_append h.subqueries h.stages) hcomputed.addColumns) hrows
    (d.targets_adding d' hfields hapart) hrun
  exact ⟨out', hrun', projection_mirrors h.columns d.isFlag_columns d'.isFlag_columns
    hagree hshown⟩

/-- Each join is among those of a query that follows one more path, and treats documents without
a match alike. -/
theorem kind_adds (d : c.Derivation m q) (d' : c.Derivation m more) (hadds : q.Adds more added)
    {entry : String × Join} (hentry : entry ∈ d.final.joins) :
    ∃ entry' ∈ d'.final.joins, entry'.1 = entry.1 ∧ entry'.2.kind = entry.2.kind := by
  obtain ⟨entry', hentry', hsame, u, hu, x, hx, hsegments, hkind, hkind'⟩ := d.kinds_of_uses d'
    (fun u hu => (hadds.mem_uses u).mpr (.inl hu)) hentry
  refine ⟨entry', hentry', hsame, JoinKind.eq_of_left_iff
    (hkind'.trans (.trans (or_congr_right ⟨?_, ?_⟩) hkind.symm))⟩
  · rintro ⟨v, hv, hthrough, hkept⟩
    rcases (hadds.mem_uses v).mp hv with hold | rfl
    · exact ⟨v, hold, hthrough, hkept⟩
    · exact absurd hkept (hadds.not_keepsUnmatched c m)
  · exact fun ⟨v, hv, hrest⟩ => ⟨v, (hadds.mem_uses v).mpr (.inl hv), hrest⟩

/-- The aliases of the joins are no columns, stored or computed, and no fields of subqueries. -/
theorem ne_alias (d : c.Derivation m q) {hops : List Hop}
    (hfinal : d.final.JoinsHops c.schema m hops)
    (haliases : ∀ a ∈ d.final.aliases, Context.IsAlias c.config a.2) {annotations : List String}
    (hapart : ∀ name ∈ annotations, ¬c.NamesJoin name) {x : String}
    (hname : x ∈ m.columns ∨ x ∈ annotations ∨ ∃ k, x = c.config.subqueryField k) :
    ∀ hop ∈ hops, x ≠ hop.joined := by
  rintro hop hhop rfl
  have ha : (Text.join "__" hop.names, hop.joined) ∈ d.final.aliases := by
    rw [hfinal.aliases_eq]
    exact List.mem_map_of_mem hhop
  rcases hname with hcolumn | hannotation | ⟨k, heq⟩
  · exact hfinal.leads.joined_own hop hhop (.inl hcolumn)
  · exact hapart _ hannotation (d.namesJoin_aliases _ ha)
  · exact (haliases _ ha).2 k heq

/-- Each row that the joins make with one more path agrees with a row that they make without
it. -/
theorem Beside.joined (h : Beside d d' extra) (hplain : c.schema.hasPlainCollections = true)
    (hm : m ∈ c.schema.models) (hapart : c.JoinsApart q) (hadds : q.Adds more added)
    (hdoc : doc.items? = none)
    (hassembled : Join.Assembled c.config store d'.final.joins doc row') :
    ∃ row, Join.Assembled c.config store d.final.joins doc row ∧
      Agree (Pairs c.config d.final d'.final) row row' := by
  obtain ⟨hops, hfinal⟩ := d.exists_hops hplain hm
  obtain ⟨hops', hfinal'⟩ := d'.exists_hops hplain hm
  have hplainHops' := hfinal'.leads.isPlain hplain hm
  have hsettled := Hop.settled_of_assembled hfinal'.leads hfinal'.joins hplainHops'
    hdoc hassembled
  have hcovered : ∀ pair ∈ hops.zip d.final.joins, ∃ pair' ∈ hops'.zip d'.final.joins,
    pair'.1.names = pair.1.names ∧ (pair'.2.2.kind = pair.2.2.kind ∨
        pair.2.2.kind = .inner ∧ row'.field? pair'.1.joined ≠ some .null) := by
    intro pair hpair
    obtain ⟨pair', hpair', hsame, hkind⟩ := hfinal.covered hfinal' (fun entry =>
      d.kind_adds d' hadds) pair hpair
    exact ⟨pair', hpair', hsame, .inl hkind⟩
  obtain ⟨row, hrow, hitems, hown, hsame⟩ := Hop.exists_assembled hfinal.leads hfinal.joins
    (hfinal.leads.isPlain hplain hm) hfinal'.leads hfinal'.joins hplainHops'
    (hfinal'.names_nodup (joinsFor_plan (.inl rfl) d'.planWith_eq).1) hdoc hcovered hsettled
  have hfree : ∀ name ∈ q.annotations.map (·.1), ¬c.NamesJoin name := fun name hname =>
    (hapart.annotations name hname).2
  refine ⟨row, hrow, Context.agree_of_choices hfinal hfinal' (List.Subset.refl _)
    (List.Subset.refl _) (fun x hname => .inr ?_) hitems hsettled.items hown hsettled.own hsame⟩
  have hknown : x ∈ m.columns ∨ x ∈ q.annotations.map (·.1) ∨ ∃ k,
      x = c.config.subqueryField k := by
    rcases hname with hcolumn | hannotation | ⟨k, -, heq⟩
    · exact .inl (hfinal.model ▸ hcolumn)
    · rw [d.annotations_final] at hannotation
      exact .inr (.inl ((d.knows.1 x).mp ((d.filtered.knows_annotations x).mpr hannotation)))
    · exact .inr (.inr ⟨k, heq⟩)
  exact ⟨d.ne_alias hfinal h.contexts.first hfree hknown, d'.ne_alias hfinal'
    h.contexts.second hfree hknown⟩

/-- If a query that keeps every row runs, each row that the joins make with one more path agrees
with a row that goes through all stages of the query by itself. -/
theorem Beside.exists_passes (h : Beside d d' extra)
    (hplain : c.schema.hasPlainCollections = true) (hm : m ∈ c.schema.models)
    (hapart : c.JoinsApart q) (hadds : q.Adds more added) (hcondition : d.condition = none)
    (hdocs : ∀ doc ∈ store.collection m.collection, doc.items? = none) {rows : List Value}
    (hrun : store.aggregate m.collection d.pipeline = .ok rows) {joined' : List Value}
    (hjoins' : Stage.runAll store (d'.final.joins.flatMap fun j => j.2.stages c.config) []
      (store.collection m.collection) = .ok joined') :
    ∀ row' ∈ joined', ∃ row, d.Passes store row ∧
      Agree (Pairs c.config d.final d'.final) row row' := by
  obtain ⟨hops, hfinal⟩ := d.exists_hops hplain hm
  obtain ⟨hops', hfinal'⟩ := d'.exists_hops hplain hm
  obtain ⟨joined, hjoins, -⟩ := Stage.runAll_append_ok hrun
  have hpasses := (d.exists_run_iff hcondition hjoins).mp ⟨rows, hrun⟩
  have hrows := Join.mem_rows_iff (hfinal.isPlainName (hfinal.leads.isPlain hplain hm)) hjoins
  have hrows' := Join.mem_rows_iff (hfinal'.isPlainName (hfinal'.leads.isPlain hplain hm))
    hjoins'
  intro row' hrow'
  obtain ⟨doc, hdoc, hassembled'⟩ := (hrows' row').mp hrow'
  obtain ⟨row, hassembled, hagree⟩ := h.joined hplain hm hapart hadds (hdocs doc hdoc)
    hassembled'
  exact ⟨row, hpasses row ((hrows row).mpr ⟨doc, hdoc, hassembled⟩), hagree⟩

/-- Fields can be added to rows that each agree with one that goes through all stages of the
query by itself. -/
theorem Beside.exists_added (h : Beside d d' extra) (hfields : c.HasOwnFields)
    (hapart : c.JoinsApart q) {joined' : List Value}
    (hrows : ∀ row' ∈ joined', ∃ row, d.Passes store row ∧
      Agree (Pairs c.config d.final d'.final) row row') :
    ∃ added, Stage.runAll store d'.adding [] joined' = .ok added := by
  refine (Stage.exists_runAll_iff fun s hs => Stage.isRowwise_of_addsFields
    (d'.addsFields_adding s hs)).mpr ?_
  intro row' hrow'
  obtain ⟨row, ⟨out, hout, -⟩, hagree⟩ := hrows row' hrow'
  obtain ⟨between, hbetween, -⟩ := Stage.runAll_row_append (fun s hs =>
    Stage.isRowwise_of_addsFields (d.addsFields_adding s hs)) hout
  obtain ⟨between', hbetween', -⟩ := h.adding hfields hapart hagree hbetween
  exact ⟨between', hbetween'⟩

end Derivation

/-! ## Results -/

/-- Whether a pipeline runs up to where it computes the column for a key of an order, and fails
there or behind. -/
def FailsOrdering (store : Store) (a : Aggregation) (index : Nat) : Prop :=
  ∃ front columns behind rows e, a.pipeline = front ++ .addFields columns :: behind ∧
    Document.has columns (orderField index) = true ∧
      store.aggregate a.collection front = .ok rows ∧
    Stage.runAll store (.addFields columns :: behind) [] rows = .error e

/-- If a run fails that adds all fields in front of the filter, it fails on the columns of its
order or behind. -/
theorem Derivation.failsOrdering (d : c.Derivation m q) (hcondition : d.condition = none)
    {store : Store} {a : Aggregation}
    (hcollection : a.collection = m.collection) (hpipeline : a.pipeline = d.pipeline)
    {joined added : List Value}
    (hjoins : Stage.runAll store (d.final.joins.flatMap fun j => j.2.stages c.config) []
      (store.collection m.collection) = .ok joined)
    (hadded : Stage.runAll store d.adding [] joined = .ok added) {index : Nat}
    (hcolumn : Document.has d.fields (orderField index) = true) {e : ExecError}
    (hrun : store.aggregate a.collection a.pipeline = .error e) :
        FailsOrdering store a index := by
  have hfields : addColumns d.fields = [.addFields d.fields] := by
    unfold addColumns
    cases hempty : d.fields with
    | nil => simp [hempty, Document.has] at hcolumn
    | cons => rfl
  have hparts : a.pipeline = (d.final.joins.flatMap (fun j => j.2.stages c.config) ++
    d.adding) ++ .addFields d.fields :: (sortBy d.keys ++
    [.project (projectionOf d.columns)]) := by
    rw [hpipeline, pipeline, d.finishing_of_none hcondition, hfields]
    simp
  have hfront : store.aggregate a.collection
      (d.final.joins.flatMap (fun j => j.2.stages c.config) ++ d.adding) = .ok added := by
    rw [Store.aggregate, hcollection, Stage.runAll_append, hjoins]
    exact hadded
  refine ⟨_, d.fields, _, added, e, hparts, hcolumn, hfront, ?_⟩
  rw [hparts, Store.aggregate, Stage.runAll_append] at hrun
  rw [Store.aggregate] at hfront
  rwa [hfront] at hrun

/-- If all documents that a query returns have what one more path goes through, and both queries
run, the second returns the same identities. -/
theorem identities_perm_of_adds {a b : Aggregation} {store : Store} {rows others : List Value}
    (hm : c.queryableModel q.model = .ok m) (hplain : c.schema.hasPlainCollections = true)
    (hkeys : c.schema.hasMatchingKeys = true)
    (hid : "_id" ∈ m.columns ∨ ∀ t ∈ c.schema.models, t.collection ≠ "_id")
    (hconfig : '.' ∉ c.config.parentPrefix.toList)
    (hsubqueries : '.' ∉ c.config.subqueryPrefix.toList) (hshows : c.ShowsIdentities m q)
    (hwhole : q.IsWhole) (hadds : q.Adds more added) (hkeyed : c.schema.IsKeyed store)
    (hlinked : c.schema.IsLinked store)
    (hdocs : ∀ doc ∈ store.collection m.collection, doc.items? = none)
    (hreached : ∀ doc ∈ store.collection m.collection, ¬q.Drops c m store doc →
      q.IsReached c m store added doc)
    (h : c.compile q = .ok a) (h' : c.compile more = .ok b)
    (hrun : store.aggregate a.collection a.pipeline = .ok rows)
    (hothers : store.aggregate b.collection b.pipeline = .ok others) :
    (others.map fun row => row.field? "_id").Perm (rows.map fun row => row.field? "_id") := by
  have hmem : m ∈ c.schema.models :=
    List.mem_of_find?_eq_some ((queryableModel_eq_ok_iff c q.model m).mp hm).1
  have hm' : c.queryableModel more.model = .ok m := hadds.model ▸ hm
  have hshows' : c.ShowsIdentities m more :=
    ⟨hadds.annotations ▸ hshows.annotations, hadds.values ▸ hshows.values⟩
  have hfound := compile_whole_finds hm hplain hkeys hid hconfig hsubqueries hkeyed hdocs
    hwhole hshows h hrun
  have hfound' := compile_whole_finds hm' hplain hkeys hid hconfig hsubqueries hkeyed hdocs
    (hadds.isWhole hwhole) hshows' h' hothers
  refine hfound'.trans (.trans (.of_eq ?_) hfound.symm)
  congr 1
  refine List.filter_congr fun doc hdoc => ?_
  rw [decide_eq_decide.mpr (hadds.drops_iff hmem hlinked hdoc (hreached doc hdoc))]

/-- One more relation or order changes no identities of the documents that are returned, if all
those that were returned before have what the added path goes through, and the query runs,
unless it fails on the values of the order. -/
theorem compile_adds_keeps {a b : Aggregation} {store : Store} {rows : List Value}
    (hm : c.queryableModel q.model = .ok m) (hplain : c.schema.hasPlainCollections = true)
    (hkeys : c.schema.hasMatchingKeys = true)
    (hid : "_id" ∈ m.columns ∨ ∀ t ∈ c.schema.models, t.collection ≠ "_id")
    (hfields : c.HasOwnFields)
    (hconfig : '.' ∉ c.config.parentPrefix.toList) (hapart : c.JoinsApart q)
    (hshows : c.ShowsIdentities m q)
    (hwhole : q.IsWhole) (hadds : q.Adds more added) (hkeyed : c.schema.IsKeyed store)
    (hlinked : c.schema.IsLinked store)
    (hdocs : ∀ doc ∈ store.collection m.collection, doc.items? = none)
    (hreached : ∀ doc ∈ store.collection m.collection, ¬q.Drops c m store doc →
      q.IsReached c m store added doc)
    (h : c.compile q = .ok a) (h' : c.compile more = .ok b)
    (hrun : store.aggregate a.collection a.pipeline = .ok rows) :
    (∃ others, store.aggregate b.collection b.pipeline = .ok others ∧
        (others.map fun row => row.field? "_id").Perm (rows.map fun row => row.field? "_id")) ∨
      ∃ k, more = q.addOrder k ∧ FailsOrdering store b q.orderBy.length := by
  have hmem : m ∈ c.schema.models :=
    List.mem_of_find?_eq_some ((queryableModel_eq_ok_iff c q.model m).mp hm).1
  have hsubqueries : '.' ∉ c.config.subqueryPrefix.toList := fun hdot =>
    (hfields.plain 0).1 (by simp [Config.subqueryField, hdot])
  have hm' : c.queryableModel more.model = .ok m := hadds.model ▸ hm
  have hwhole' := hadds.isWhole hwhole
  have hperm : ∀ {others : List Value}, store.aggregate b.collection b.pipeline = .ok others →
      (others.map fun row => row.field? "_id").Perm (rows.map fun row => row.field? "_id") :=
    identities_perm_of_adds hm hplain hkeys hid hconfig hsubqueries hshows hwhole hadds hkeyed
      hlinked hdocs hreached h h' hrun
  obtain ⟨d, hcollection, hpipeline⟩ := exists_derivation hm hwhole.toIsUncut h
  obtain ⟨d', hcollection', hpipeline'⟩ := exists_derivation hm' hwhole'.toIsUncut h'
  obtain ⟨hops', hfinal'⟩ := d'.exists_hops hplain hmem
  have hcondition' := d'.condition_eq_none hwhole'.filter
  obtain ⟨joined', hjoins', -⟩ := d'.run_joins hfinal' hmem hplain hkeys hconfig hkeyed hdocs
  obtain ⟨extra, hbeside, hextra⟩ := d.exists_beside hplain hfields hmem
    (fun name hname => (hapart.annotations name hname).1) d' hadds
  rw [hcollection, hpipeline] at hrun
  have hagree := hbeside.exists_passes hplain hmem hapart hadds
    (d.condition_eq_none hwhole.filter) hdocs hrun hjoins'
  rcases hextra with rfl | ⟨k, e, hmore, rfl⟩
  · -- no column is computed for an order: each row goes through as the one it agrees with
    obtain ⟨others, hothers⟩ := (d'.exists_run_iff hcondition' hjoins').mpr fun row' hrow' => by
      obtain ⟨row, hpassed, hrowAgrees⟩ := hagree row' hrow'
      exact hbeside.passes hfields hapart hrowAgrees hpassed
    rw [← hcollection', ← hpipeline'] at hothers
    exact .inl ⟨others, hothers, hperm hothers⟩
  · cases hother : store.aggregate b.collection b.pipeline with
    | ok others => exact .inl ⟨others, rfl, hperm hother⟩
    | error err =>
      obtain ⟨added, hadded⟩ := hbeside.exists_added hfields hapart hagree
      obtain ⟨front, hcolumns, -⟩ := hbeside.fields
      have hcolumn : Document.has d'.fields (orderField q.orderBy.length) = true := by
        simp [hcolumns, Document.has]
      exact .inr ⟨k, hmore, d'.failsOrdering hcondition' hcollection' hpipeline' hjoins' hadded
        hcolumn hother⟩

/-- The people with their teams. -/
def peopleWithTeams : Query := (Query.all "Person").addRelated "team"

/-- Ann and Bob are both found with the leads of their teams as well. -/
theorem annAndBob_with_leads :
    ∃ a b rows others, staff.compile peopleWithTeams = .ok a ∧
      staff.compile (peopleWithTeams.addRelated "team__lead") = .ok b ∧
      annAndBob.aggregate a.collection a.pipeline = .ok rows ∧
      annAndBob.aggregate b.collection b.pipeline = .ok others ∧ rows.length = 2 ∧
      (others.map fun row => row.field? "_id").Perm (rows.map fun row => row.field? "_id") := by
  have hruns : Stage.succeedsWith (fun a => Stage.succeedsWith (fun rows => rows.length == 2)
      (annAndBob.aggregate a.collection a.pipeline)) (staff.compile peopleWithTeams) =
          true := by
    decide +kernel
  obtain ⟨a, ha, hrun⟩ := Stage.exists_of_succeedsWith hruns
  obtain ⟨rows, hrows, hlength⟩ := Stage.exists_of_succeedsWith hrun
  have hcompiles : Stage.succeedsWith (fun _ => true)
      (staff.compile (peopleWithTeams.addRelated "team__lead")) = true := by
    decide +kernel
  obtain ⟨b, hb, -⟩ := Stage.exists_of_succeedsWith hcompiles
  have hfields : staff.HasOwnFields := hasOwnFields_of_prefix (by decide) (by decide)
    (by decide) (by decide)
  have hapart : staff.JoinsApart peopleWithTeams :=
    ⟨by simp [peopleWithTeams, Query.all, Query.addRelated, Query.annotations],
      fun t ht => ne_orderField ((by decide : ∀ t ∈ staff.schema.models, ¬"__order".toList <+:
        t.collection.toList) t ht)⟩
  have hshows : staff.ShowsIdentities person peopleWithTeams :=
    ⟨by simp [peopleWithTeams, Query.all, Query.addRelated, Query.annotations],
      by simp [peopleWithTeams, Query.all, Query.addRelated, Query.values]⟩
  have hwhole : peopleWithTeams.IsWhole := ⟨⟨rfl, rfl, rfl⟩, rfl⟩
  have hlinked : staff.schema.IsLinked annAndBob := by decide +kernel
  have hkeyed : staff.schema.IsKeyed annAndBob := by decide +kernel
  have hreached : ∀ doc ∈ annAndBob.collection person.collection,
    ¬peopleWithTeams.Drops staff person annAndBob doc →
      peopleWithTeams.IsReached staff person annAndBob ⟨Text.extendPath "team__lead" keyName,
          [], false, false⟩ doc := by
    decide +kernel
  have hkept := compile_adds_keeps (m := person) (q := peopleWithTeams) rfl (by decide)
    (by decide) (.inl (by decide)) hfields (by decide) hapart hshows hwhole
    (.related "team__lead") hkeyed hlinked (by decide) hreached ha hb hrows
  obtain ⟨others, hothers, hperm⟩ := hkept.resolve_right (by
    rintro ⟨k, hmore, -⟩
    simp [peopleWithTeams, Query.all, Query.addOrder, Query.addRelated] at hmore)
  exact ⟨a, b, rows, others, ha, hb, hrows, hothers, eq_of_beq hlength, hperm⟩

/-- In the order of the cities of the teams of their bosses only Bob is found: Ann has no boss,
and the team of somebody who is not there has no match. -/
theorem annAndBob_lose_ann :
    ∃ a b rows others, staff.schema.IsLinked annAndBob ∧ staff.schema.IsKeyed annAndBob ∧
      staff.compile (Query.all "Person") = .ok a ∧
      staff.compile ((Query.all "Person").addOrder ⟨"boss__team__city", false⟩) = .ok b ∧
      annAndBob.aggregate a.collection a.pipeline = .ok rows ∧
      annAndBob.aggregate b.collection b.pipeline = .ok others ∧
      ¬(others.map fun row => row.field? "_id").Perm (rows.map fun row =>
          row.field? "_id") := by
  obtain ⟨a, ha, hrun⟩ : ∃ a, staff.compile (Query.all "Person") = .ok a ∧
      Stage.succeedsWith (fun rows => rows.length == 2) (annAndBob.aggregate a.collection
          a.pipeline) = true :=
    ⟨_, rfl, by decide +kernel⟩
  obtain ⟨b, hb, hrun'⟩ : ∃ b, staff.compile ((Query.all "Person").addOrder ⟨"boss__team__city",
    false⟩) = .ok b ∧ Stage.succeedsWith (fun rows => rows.length == 1) (annAndBob.aggregate
    b.collection b.pipeline) = true :=
    ⟨_, rfl, by decide +kernel⟩
  obtain ⟨rows, hrows, hlength⟩ := Stage.exists_of_succeedsWith hrun
  obtain ⟨others, hothers, hlength'⟩ := Stage.exists_of_succeedsWith hrun'
  refine ⟨a, b, rows, others, by decide +kernel, by decide +kernel, ha, hb, hrows, hothers,
    fun hperm => ?_⟩
  have hsame := hperm.length_eq
  rw [List.length_map, List.length_map, eq_of_beq hlength, eq_of_beq hlength'] at hsame
  cases hsame

end Compiler

end DocQuery
