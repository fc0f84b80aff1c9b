import DocQuery.Proofs.JoinRows
set_option autoImplicit false

/-!
# Proofs: filters along foreign keys select what they mean

A query whose filter compares fields at the end of foreign keys returns the documents that the
direct reading of the filter selects: each of them once, and in the order of their collection.
-/

namespace DocQuery

open Value

/-! ## Comparisons -/

namespace Lookup

theorem holdsOf_none {l : Lookup} (h : l.isComparison = true) (operand : Value) :
    l.holdsOf operand none = false := by
  cases l <;> first | rfl | simp [isComparison] at h

/-- A comparison is none of the lookups with a meaning of their own. -/
theorem ne_of_isComparison {l : Lookup} (h : l.isComparison = true) :
    l ≠ .all ∧ l ≠ .containedBy ∧ l ≠ .isnull := by
  cases l <;> simp_all [isComparison]

end Lookup

theorem Store.follow?_append (store : Store) (doc : Value) (links more : List Link) :
    store.follow? doc (links ++ more) =
        (store.follow? doc links).bind (store.follow? · more) := by
  induction links generalizing doc with
  | nil => simp [follow?]
  | cons first rest ih =>
    simp only [List.cons_append, follow?]
    cases store.target? first doc with
    | none => rfl
    | some next => exact ih next

namespace Filter

variable {s : Schema} {m : Model} {f : Filter}

/-- A comparison along foreign keys has a chain and a literal. -/
theorem exists_chain (h : f.isAlongKeys s m = true) :
    ∃ path operand chain v kind, f = .lookup path operand ∧
      s.chain? m (Text.segments path) = some chain ∧ operand.constant? = some v ∧
      ValueType.ofField chain.field.kind = .scalar kind ∧ kind.isExact = true ∧
      chain.lookup.isComparison = true ∧ chain.lookup.fits kind v = true ∧
      ∀ store doc,
          f.holdsAlongKeys s m store doc = chain.lookup.holdsOf v (chain.read store doc) := by
  cases f with
  | lookup path operand =>
    simp only [isAlongKeys] at h
    split at h
    · rename_i chain v hchain hconstant
      unfold Chain.accepts at h
      split at h
      · rename_i kind htype
        simp only [Bool.and_eq_true] at h
        refine ⟨path, operand, chain, v, kind, rfl, hchain, hconstant, htype, h.1.1,
          h.1.2, h.2, ?_⟩
        intro store doc
        simp only [holdsAlongKeys, hchain, hconstant]
      · simp at h
    · simp at h
  | _ => simp [isAlongKeys] at h

end Filter

/-! ## Filters on rows -/

namespace Hop

variable {s : Schema} {m : Model} {hops : List Hop} {store : Store} {doc row : Value}

/-- In a row, an access to a field at the end of links reads what the document there holds. -/
theorem RowOf.eval_render (hrow : RowOf s m hops store doc row)
    (hplain : s.hasPlainCollections = true)
    (hjoined : ∀ hop ∈ hops, hop.IsPlain) {links : List Link} {f : Field} {a : Access}
    (hfinds : Finds s m hops links f a) :
    a.render.items? = none ∧ ∃ x, eval a.render ⟨row, []⟩ = .ok x ∧
      present x = columnOf (store.follow? doc links) f.column := by
  obtain ⟨names, last, joined, hreach, hroute, hlast, hf, rfl⟩ := hfinds
  have hcolumn : names = [] → IsOwn s m f.column := by
    rintro rfl
    obtain ⟨-, rfl⟩ := Prod.mk.inj (Option.some.inj hroute)
    exact isOwn_column hf
  obtain ⟨hread, hsame⟩ := hrow.reaches hreach hcolumn
  have hnames : ∀ name, joined = some name → '.' ∉ name.toList ∧ '$' ∉ name.toList := by
    rintro name rfl
    rcases hreach with ⟨hnone, -⟩ | ⟨hop, hhop, hsome, -⟩
    · simp at hnone
    · rw [Option.some.inj hsome]
      exact (hjoined hop hhop).joined
  have hrender : (Access.column joined f.column (.ofField f.kind)).render =
      .string (Join.parentPath joined f.column) := by
    cases joined <;> rfl
  obtain ⟨x, hx, hpresent⟩ := eval_parentPath
    ((Schema.plain_of_hasPlainCollections hplain hlast).2.2 f hf) hnames hread []
  rw [hrender]
  exact ⟨rfl, x, hx, hpresent.trans hsame⟩

end Hop

namespace Compiler

section Filters

variable {c : Compiler} {m : Model} {hops : List Hop} {ctx ctx' : Context}

/-- A comparison along foreign keys is compiled to an expression that decides it in every row.
It fails where a document on the way is missing. -/
theorem compileFilter_alongKeys (hplain : c.schema.hasPlainCollections = true)
    (hm : m ∈ c.schema.models)
    {f : Filter} {e : Value} (hf : f.isAlongKeys c.schema m = true)
    (hctx : ctx.FollowsHops c.schema m hops)
    (h : c.compileFilter ctx f = .ok (e, ctx')) :
    ∃ more, ctx'.FollowsHops c.schema m (hops ++ more) ∧
      (∀ hop ∈ more, ∀ store doc, store.follow? doc hop.links = none →
        f.holdsAlongKeys c.schema m store doc = false) ∧
      ∀ store doc row, Hop.RowOf c.schema m (hops ++ more) store doc row →
        Decides ⟨row, []⟩ e (f.holdsAlongKeys c.schema m store doc) := by
  obtain ⟨path, operand, chain, v, kind, rfl, hchain, hconstant, htype, hexact, hcomparison,
      hfits, hholds⟩ :=
    Filter.exists_chain hf
  obtain ⟨r, after, w, hr, hoperand, hbuild⟩ :=
    lookupWith_ok (compileFilter_of_constant hconstant h)
  obtain ⟨hliteral, rfl⟩ := literalOperand_ok hoperand
  obtain ⟨more, hmore, hafter, hfinds, hlookup⟩ :=
    resolveLookup_chain hplain hm hctx hchain htype hexact hr
  obtain ⟨hall, hcontained, hisnull⟩ := Lookup.ne_of_isComparison hcomparison
  have hnote : noteLookup r after = after := by
    simp [noteLookup, hlookup, hisnull]
  rw [hnote]
  refine ⟨more, hafter, fun hop hhop store doc hmissing => ?_, fun store doc row hrow => ?_⟩
  · obtain ⟨rest, hrest⟩ := hmore hop hhop
    rw [hholds, Chain.read, ← hrest, Store.follow?_append, hmissing]
    exact Lookup.holdsOf_none hcomparison v
  · have hplainHops := hafter.leads.isPlain hplain hm
    obtain ⟨hsingle, x, hx, hpresent⟩ := hrow.eval_render hplain hplainHops hfinds
    have htarget : r.target.type = .scalar kind := by
      obtain ⟨_, _, _, _, _, _, _, hcolumn⟩ := hfinds
      rw [hcolumn, ← htype]
      rfl
    rw [htarget, hlookup] at hliteral
    have hexpr : e = chain.lookup.build r.target.render w := by
      simpa [Lookup.buildOn, htarget, ValueType.isMapped, hlookup] using hbuild.symm
    rw [hexpr, hholds, Chain.read, ← hpresent]
    exact Lookup.decides_build hexact hfits hall hcontained hliteral hsingle hx

/-- So are several of them. -/
theorem compileFilters_alongKeys (hplain : c.schema.hasPlainCollections = true)
    (hm : m ∈ c.schema.models)
    {filters : List Filter} {es : List Value}
    (hfilters : ∀ f ∈ filters, f.isAlongKeys c.schema m = true)
    (hctx : ctx.FollowsHops c.schema m hops)
    (h : c.compileFilters ctx filters = .ok (es, ctx')) :
    ∃ more, ctx'.FollowsHops c.schema m (hops ++ more) ∧
      (∀ hop ∈ more, ∀ store doc, store.follow? doc hop.links = none →
        ∃ f ∈ filters, f.holdsAlongKeys c.schema m store doc = false) ∧
      ∀ store doc row, Hop.RowOf c.schema m (hops ++ more) store doc row →
        List.Forall₂ (Decides ⟨row, []⟩) es
          (filters.map fun f => f.holdsAlongKeys c.schema m store doc) := by
  induction filters generalizing hops ctx es with
  | nil =>
    simp only [compileFilters, Except.ok.injEq, Prod.mk.injEq] at h
    obtain ⟨rfl, rfl⟩ := h
    exact ⟨[], by simpa using hctx, by simp, fun _ _ _ _ => .nil⟩
  | cons f rest ih =>
    obtain ⟨e, after, others, hfirst, hrest, rfl⟩ := compileFilters_cons_ok h
    obtain ⟨hf, hothers⟩ := List.forall_mem_cons.mp hfilters
    obtain ⟨first, hafter, hfirstMissing, hdecides⟩ :=
      compileFilter_alongKeys hplain hm hf hctx hfirst
    obtain ⟨more, hctx', hmissing, heach⟩ := ih hothers hafter hrest
    rw [List.append_assoc] at hctx' heach
    refine ⟨first ++ more, hctx', List.forall_mem_append.mpr ⟨?_, ?_⟩,
      fun store doc row hrow => ?_⟩
    · exact fun hop hhop store doc hnone =>
        ⟨f, List.mem_cons_self, hfirstMissing hop hhop store doc hnone⟩
    · intro hop hhop store doc hnone
      obtain ⟨g, hg, hfails⟩ := hmissing hop hhop store doc hnone
      exact ⟨g, List.mem_cons_of_mem f hg, hfails⟩
    · have hall : Hop.RowOf c.schema m ((hops ++ first) ++ more) store doc row := by
        simpa using hrow
      exact .cons (hdecides store doc row hall.mono) (heach store doc row hrow)

end Filters

end Compiler

/-! ## Returned columns -/

namespace Stage

/-- Fields that are only marked are kept as they are, as far as they are there. -/
theorem projected_marked {scope : Scope} {fields : Document} (h : ∀ m ∈ fields, m.2 = .int 1)
    (key : String) (output : Document) :
    ∃ out, projected scope output fields = .ok out ∧ Document.value? out key =
      if Document.has fields key then (scope.root.getPath key).or (Document.value? output key)
      else Document.value? output key := by
  induction fields generalizing output with
  | nil => exact ⟨output, rfl, rfl⟩
  | cons member rest ih =>
    obtain ⟨name, v⟩ := member
    obtain ⟨rfl, hrest⟩ := List.forall_mem_cons.mp h
    have hkept : projected scope output ((name, .int 1) :: rest) =
        (scope.root.getPath name).elim (projected scope output rest)
          fun w => projected scope (Document.insert output name w) rest := by
      have htrue : (Value.int 1).isTruthy = true := by decide
      simp only [projected, isFlag, htrue, if_true]
      cases scope.root.getPath name <;> rfl
    have hhas : Document.has ((name, .int 1) :: rest) key =
      (name == key || Document.has rest key) := rfl
    rw [hkept, hhas]
    cases hpath : scope.root.getPath name with
    | none =>
      obtain ⟨out, hout, hvalue⟩ := ih hrest output
      refine ⟨out, hout, hvalue.trans ?_⟩
      by_cases hname : name = key
      · subst hname
        simp [hpath]
      · simp [hname]
    | some w =>
      obtain ⟨out, hout, hvalue⟩ := ih hrest (Document.insert output name w)
      refine ⟨out, hout, hvalue.trans ?_⟩
      by_cases hname : name = key
      · subst hname
        simp [hpath]
      · simp [hname, Document.value?_insert_ne _ _ hname]

/-- Whether a projected row still has the marked fields of a row, and its identity. -/
def KeepsMarked (fields : Document) (row out : Value) : Prop :=
  ∀ key, '.' ∉ key.toList → key = "_id" ∨ key ∈ fields.names → out.field? key = row.field? key

theorem keepsMarked_projected {fields start : Document}
    (h : ∀ m ∈ fields, m.2 = .int 1) {row : Value} (hrow : row.items? = none)
    (hmarked : ∀ key ∈ fields.names, Document.value? start key = none)
    (hid : "_id" ∉ fields.names → Document.value? start "_id" = row.field? "_id") :
    ∃ out, (projected ⟨row, []⟩ start fields).map Value.object = .ok out ∧
        KeepsMarked fields row out := by
  -- the same members are put into the output whatever key is looked up in it
  obtain ⟨out, hout, -⟩ : ∃ out, projected ⟨row, []⟩ start fields = .ok out ∧ _ :=
    projected_marked h "_id" start
  refine ⟨.object out, by rw [hout]; rfl, fun key hdots hkey => ?_⟩
  obtain ⟨out', hout', hvalue⟩ : ∃ out, projected ⟨row, []⟩ start fields = .ok out ∧ _ :=
    projected_marked h key start
  obtain rfl := Except.ok.inj (hout.symm.trans hout')
  have hpath : row.getPath key = row.field? key := by
    rw [getPath, pathNames_of_plain hdots, walk_singleton _ _ hrow]
  rw [field?_object, hvalue]
  by_cases hmem : key ∈ fields.names
  · rw [if_pos (Document.has_iff.mpr hmem), hmarked key hmem, Option.or_none, hpath]
  · obtain rfl := hkey.resolve_right hmem
    rw [if_neg (mt Document.has_iff.mp hmem), hid hmem]

/-- A projection to marked fields keeps them, and the identity of a document. -/
theorem projection_marked {fields : Document} (h : ∀ m ∈ fields, m.2 = .int 1) {row : Value}
    (hrow : row.items? = none) :
    ∃ out, projection fields [] row = .ok out ∧ KeepsMarked fields row out := by
  unfold projection
  split
  · have hall : ∀ m ∈ row.fieldsOrEmpty,
        (!fields.any fun f => f.1 == m.1 && !f.2.isTruthy) = true := by
      intro m _
      have hnone : ∀ f ∈ fields, (f.1 == m.1 && !f.2.isTruthy) = false := by
        intro f hf
        rw [h f hf]
        simp [show (Value.int 1).isTruthy = true by decide]
      simpa using hnone
    refine ⟨_, rfl, fun key _ _ => ?_⟩
    rw [excluded, List.filter_eq_self.mpr hall, field?_object, field?_eq]
  · refine keepsMarked_projected h hrow (fun key hkey => ?_) fun hid => ?_
    · split
      · rfl
      · rename_i hhas
        have hne : "_id" ≠ key := fun heq => hhas (Document.has_iff.mpr (heq ▸ hkey))
        cases row.field? "_id" <;> simp [Document.value?, hne]
    · rw [if_neg (mt Document.has_iff.mp hid)]
      cases row.field? "_id" <;> rfl

theorem each_projection_marked {fields : Document} (h : ∀ m ∈ fields, m.2 = .int 1)
    {rows : List Value} (hrows : ∀ row ∈ rows, row.items? = none) :
    ∃ outs, each (projection fields []) rows = .ok outs ∧ List.Forall₂ (KeepsMarked fields)
        rows outs := by
  induction rows with
  | nil => exact ⟨[], rfl, .nil⟩
  | cons row rest ih =>
    obtain ⟨hrow, hrest⟩ := List.forall_mem_cons.mp hrows
    obtain ⟨out, hout, hkeeps⟩ := projection_marked h hrow
    obtain ⟨outs, houts, hall⟩ := ih hrest
    exact ⟨out :: outs, by simp only [each, hout, houts], .cons hkeeps hall⟩

/-- What is read of each row is the same behind the projection, if it is read from fields that
stay. -/
theorem KeepsMarked.map_eq {α : Type} {fields : Document} {rows outs : List Value}
    {read : Value → α} (h : List.Forall₂ (KeepsMarked fields) rows outs)
    (hread : ∀ row out, KeepsMarked fields row out → read out = read row) :
        outs.map read = rows.map read := by
  induction h with
  | nil => rfl
  | cons hkeeps _ ih => rw [List.map_cons, List.map_cons, hread _ _ hkeeps, ih]

theorem KeepsMarked.map_id {fields : Document} {rows outs : List Value}
    (h : List.Forall₂ (KeepsMarked fields) rows outs) :
    outs.map (fun out => out.field? "_id") = rows.map fun row => row.field? "_id" :=
  map_eq h fun _ _ hkeeps => hkeeps "_id" (by decide) (.inl rfl)

end Stage

/-! ## Queries -/

/-- Rows that are made of some documents, and of which a condition keeps those of which it is
decided. -/
theorem Stage.selected_filterMap {e : Value} {joined : Value → Option Value} {p : Value → Bool}
    {docs : List Value}
    (h : ∀ doc ∈ docs, ∀ row, joined doc = some row → Decides ⟨row, []⟩ e (p doc)) :
    selected (.operator "$expr" e) [] (docs.filterMap joined) =
      .ok ((docs.filter p).filterMap joined) := by
  induction docs with
  | nil => rfl
  | cons doc rest ih =>
    have hrest := ih fun d hd => h d (List.mem_cons_of_mem doc hd)
    cases hrow : joined doc with
    | none =>
      rw [List.filterMap_cons_none hrow, hrest]
      cases hp : p doc <;> simp [hp, hrow]
    | some row =>
      have hdoc : selects (.operator "$expr" e) ⟨row, []⟩ = .ok (p doc) := by
        rw [selects_expr, (h doc List.mem_cons_self row hrow).truthy]
      rw [List.filterMap_cons_some hrow]
      simp only [selected, hdoc, hrest]
      cases hp : p doc <;> simp [hp, hrow]

/-- Documents of each of which there is a row that reads the same. -/
theorem map_filterMap_of_same {α : Type} {read : Value → α} {joined : Value → Option Value}
    {docs : List Value} (h : ∀ doc ∈ docs, ∃ row, joined doc = some row ∧ read row = read doc) :
    (docs.filterMap joined).map read = docs.map read := by
  induction docs with
  | nil => rfl
  | cons doc rest ih =>
    obtain ⟨⟨row, hrow, hsame⟩, hrest⟩ := List.forall_mem_cons.mp h
    rw [List.filterMap_cons_some hrow, List.map_cons, List.map_cons, hsame, ih hrest]

namespace Compiler

variable {c : Compiler}

theorem projectionOf_allColumns (m : Model) :
    ∀ column ∈ projectionOf (allColumns m []), column.2 = .int 1 := by
  intro column hcolumn
  unfold projectionOf Document.ofList at hcolumn
  rcases Document.mem_insertAll hcolumn with hnone | hmem
  · simp at hnone
  · simp only [allColumns, List.append_nil, List.map_map, List.mem_map] at hmem
    obtain ⟨name, -, rfl⟩ := hmem
    simp [plainColumn, projectedColumn]

theorem mem_names_projectionOf_allColumns {m : Model} {key : String} :
    key ∈ (projectionOf (allColumns m [])).names ↔ key ∈ m.columns := by
  rw [projectionOf, Document.mem_names_ofList, allColumns, List.append_nil,
    List.map_map, List.map_map]
  simp [plainColumn, projectedColumn, Function.comp_def]

/-- The stages of a query with nothing but a filter. -/
theorem compile_filter_ok {model : String} {f : Filter} {a : Aggregation}
    (h : c.compile ((Query.all model).addFilter f) = .ok a) :
    ∃ m e ctx, c.schema.model? model = some m ∧ c.compileFilter (.ofModel m) f = .ok (e, ctx) ∧
      a.collection = m.collection ∧
      a.pipeline = ctx.prerequisites c.config ++
        [Stage.selectExpr e, .project (projectionOf (allColumns ctx.model []))] := by
  rw [compile_eq] at h
  obtain ⟨m, p, ctx, hm, hplan, hstages, hcollection⟩ := queryWith_ok h
  obtain ⟨loaded, stages, computed, condition, filtered, keys, fields, sorted, columns, hloaded,
    hannotations, hcondition, hsorted, hreturned, rfl⟩ := planWith_ok hplan
  obtain rfl := Except.ok.inj hloaded
  obtain ⟨rfl, rfl⟩ := Prod.mk.inj (Except.ok.inj hannotations)
  obtain ⟨e, he, rfl⟩ := compileCondition_some_ok hcondition
  obtain ⟨hkeys, rfl⟩ := Prod.mk.inj (Except.ok.inj hsorted)
  obtain ⟨rfl, rfl⟩ := Prod.mk.inj hkeys
  obtain ⟨rfl, rfl⟩ := Prod.mk.inj (Except.ok.inj hreturned)
  refine ⟨m, e, _, ((queryableModel_eq_ok_iff c model m).mp hm).1, he, hcollection, ?_⟩
  rw [← Except.ok.inj hstages]
  simp [single, source, addColumns, sortBy, windowOf, Query.all, Query.addFilter,
    Query.annotations, Query.offset, Query.limit]

/-- A query whose filter compares fields at the end of foreign keys runs, and the rows have the
identities of the documents for which all the comparisons hold:  each of them once, in the order
of their collection.  This needs a key to be that of at most one document, names that can stand
in paths, and documents that are no arrays. -/
theorem compile_finds_documents {model : String} {m : Model} {filters : List Filter}
    {a : Aggregation} {store : Store} (hm : c.schema.model? model = some m)
    (hplain : c.schema.hasPlainCollections = true) (hkeys : c.schema.hasMatchingKeys = true)
    (hid : "_id" ∈ m.columns ∨ ∀ t ∈ c.schema.models, t.collection ≠ "_id")
    (hconfig : '.' ∉ c.config.parentPrefix.toList)
    (hfilters : ∀ f ∈ filters, f.isAlongKeys c.schema m = true)
    (h : c.compile ((Query.all model).addFilter (.and filters)) = .ok a)
    (hkeyed : c.schema.IsKeyed store)
    (hdocs : ∀ doc ∈ store.collection m.collection, doc.items? = none) :
    ∃ rows, store.aggregate a.collection a.pipeline = .ok rows ∧
      rows.map (fun row => row.field? "_id") =
        (store.found c.schema m filters).map fun doc => doc.field? "_id" := by
  obtain ⟨m', e, ctx, hm', hfilter, hcollection, hpipeline⟩ := compile_filter_ok h
  obtain rfl := Option.some.inj (hm.symm.trans hm')
  have hmem : m ∈ c.schema.models := List.mem_of_find?_eq_some hm
  obtain ⟨es, hes, rfl⟩ := compileFilter_and_ok hfilter
  obtain ⟨hops, hctx, hmissing, hdecides⟩ := compileFilters_alongKeys hplain hmem hfilters
    (Context.followsHops_ofModel c.schema m) hes
  rw [List.nil_append] at hctx hdecides
  -- each row behind the joins stands for a document on whose chains nothing is missing
  have hplainHops := hctx.leads.isPlain hplain hmem
  obtain ⟨joined, hjoins, hrows⟩ :=
    Hop.run_joins hctx.leads hctx.joins hplainHops hmem hkeys hkeyed hconfig hdocs
  have hselected : Stage.selected (.operator "$expr" (.conjunction es)) []
      ((store.collection m.collection).filterMap joined) =
      .ok ((store.found c.schema m filters).filterMap joined) := by
    refine Stage.selected_filterMap fun doc hdoc row hrow => ?_
    have hall := Decides.conjunction (hdecides store doc row ((hrows doc hdoc).1 row hrow))
    rwa [List.all_map] at hall
  have hfound : ∀ doc ∈ store.found c.schema m filters, ∃ row, joined doc = some row ∧
      row.field? "_id" = doc.field? "_id" ∧ row.items? = none := by
    intro doc hdoc
    obtain ⟨hdoc, hholds⟩ := List.mem_filter.mp hdoc
    cases hrow : joined doc with
    | none =>
      obtain ⟨hop, hhop, hnone⟩ := (hrows doc hdoc).2 hrow
      obtain ⟨f, hf, hfails⟩ := hmissing hop hhop store doc hnone
      have htrue := List.all_eq_true.mp hholds f hf
      simp [hfails] at htrue
    | some row =>
      have hrow := (hrows doc hdoc).1 row hrow
      exact ⟨row, rfl, hrow.own "_id" (Hop.isOwn_id hid), hrow.items⟩
  have hreadable : ∀ row ∈ (store.found c.schema m filters).filterMap joined,
      row.items? = none := by
    intro row hrow
    obtain ⟨doc, hdoc, hjoined⟩ := List.mem_filterMap.mp hrow
    obtain ⟨row', hrow', -, hitems⟩ := hfound doc hdoc
    obtain rfl := Option.some.inj (hjoined.symm.trans hrow')
    exact hitems
  obtain ⟨rows, hproject, hkept⟩ :=
    Stage.each_projection_marked (projectionOf_allColumns ctx.model) hreadable
  refine ⟨rows, ?_, (Stage.KeepsMarked.map_id hkept).trans (map_filterMap_of_same
    fun doc hdoc => ?_)⟩
  · rw [Store.aggregate, hcollection, hpipeline, Context.prerequisites, hctx.stages,
      List.append_nil, Stage.runAll_append, hjoins]
    simp only [Except.bind, Stage.runAll, Stage.selectExpr, Stage.run, hselected, hproject]
  · obtain ⟨row, hrow, hid, -⟩ := hfound doc hdoc
    exact ⟨row, hrow, hid⟩

/-- People with a boss and a team. -/
def person : Model where
  name := "Person"
  storedCollection := some "people"
  embedded := false
  fields := [Model.primaryKey, ⟨"name", .scalar .string, false, none⟩,
    ⟨"boss", .foreignKey "Person" (some "name") (some .string), true, none⟩,
    ⟨"team", .foreignKey "Team" (some "name") (some .string), false, none⟩]

/-- People, and teams with a lead.  All of them are known by their names. -/
def staff : Compiler where
  schema := ⟨[person,
    ⟨"Team", some "teams", false,
      [Model.primaryKey, ⟨"name", .scalar .string, false, none⟩,
        ⟨"city", .scalar .string, true, none⟩,
        ⟨"lead", .foreignKey "Person" (some "name") (some .string), true, none⟩]⟩]⟩
  config := .usual

/-- The people with a boss in a team in Rome, who are in a team that Ann leads. -/
def romans : List Filter :=
  [.lookup "boss__team__city" (.literal (.string "Rome")),
    .lookup "team__lead__name__in" (.list [.literal (.string "Ann"), .literal (.string "$x")])]

/-- Ann is the boss of Bob and of nobody else. -/
def annAndBob : Store :=
  ⟨[("people",
      [.object [("_id", .int 1), ("name", .string "Ann"), ("team_id", .string "A")],
        .object [("_id", .int 2), ("name", .string "Bob"), ("boss_id", .string "Ann"),
          ("team_id", .string "A")]]),
    ("teams",
      [.object [("name", .string "A"), ("city", .string "Rome"), ("lead_id", .string "Ann")],
        .object [("name", .string "B"), ("city", .string "Rome")]])]⟩

/-- Bob is found, and Ann is not, since she has no boss. -/
theorem annAndBob_finds_bob :
    ∃ a rows, staff.compile ((Query.all "Person").addFilter (.and romans)) = .ok a ∧
      annAndBob.aggregate a.collection a.pipeline = .ok rows ∧
      rows.map (fun row => row.field? "_id") = [some (.int 2)] := by
  have hperson : staff.schema.model? "Person" = some person := rfl
  have hromans : ∀ f ∈ romans, f.isAlongKeys staff.schema person = true := by decide +kernel
  have hkeyed : staff.schema.IsKeyed annAndBob := by decide +kernel
  have hpeople : ∀ doc ∈ annAndBob.collection person.collection, doc.items? = none := by decide
  obtain ⟨a, ha⟩ : ∃ a, staff.compile ((Query.all "Person").addFilter (.and romans)) =
    .ok a := ⟨_, rfl⟩
  obtain ⟨rows, hrun, hids⟩ := compile_finds_documents hperson (by decide) (by decide)
    (.inl (by decide)) (by decide) hromans ha hkeyed hpeople
  exact ⟨a, rows, ha, hrun, hids.trans rfl⟩

/-- Deeds with an owner. -/
def deed : Model where
  name := "Deed"
  storedCollection := some "deeds"
  embedded := false
  fields := [⟨"id", .scalar .integer, false, none⟩,
    ⟨"owner", .foreignKey "Owner" none none, false, none⟩]

/-- Deeds, and owners in a collection that is called like the identity. -/
def registry : Compiler where
  schema := ⟨[deed, ⟨"Owner", some "_id", false, [Model.primaryKey, ⟨"age", .scalar .integer,
    false, none⟩]⟩]⟩
  config := .usual

/-- A deed and its owner. -/
def oneDeed : Store :=
  ⟨[("deeds", [.object [("_id", .int 7), ("id", .int 1), ("owner_id", .int 2)]]),
    ("_id", [.object [("_id", .int 2), ("age", .int 40)]])]⟩

/-- The joined owner takes the place of the identity of the deed, which is no column of
deeds. -/
theorem oneDeed_loses_identity :
    ∃ filters a rows, registry.schema.model? "Deed" = some deed ∧
      registry.schema.hasPlainCollections = true ∧ registry.schema.hasMatchingKeys = true ∧
      registry.schema.IsKeyed oneDeed ∧
      (∀ f ∈ filters, f.isAlongKeys registry.schema deed = true) ∧
      registry.compile ((Query.all "Deed").addFilter (.and filters)) = .ok a ∧
      oneDeed.aggregate a.collection a.pipeline = .ok rows ∧
      rows.map (fun row => row.field? "_id") ≠
        (oneDeed.found registry.schema deed filters).map fun doc => doc.field? "_id" := by
  obtain ⟨a, ha, hrun⟩ : ∃ a, registry.compile ((Query.all "Deed").addFilter
      (.and [.lookup "owner__age" (.literal (.int 40))])) = .ok a ∧
      Stage.succeedsWith (fun rows => rows.map (fun row => typeName? (row.field? "_id"))
        == ["object"]) (oneDeed.aggregate a.collection a.pipeline) = true :=
        ⟨_, rfl, by decide +kernel⟩
  have hfound : (oneDeed.found registry.schema deed [.lookup "owner__age"
    (.literal (.int 40))]).map (fun doc => typeName? (doc.field? "_id")) =
    ["long"] := by decide +kernel
  obtain ⟨rows, hrows, htypes⟩ := Stage.exists_of_succeedsWith hrun
  refine ⟨_, a, rows, rfl, by decide, by decide, by decide +kernel, by decide +kernel,
    ha, hrows, ?_⟩
  intro hids
  have hsame := congrArg (List.map typeName?) hids
  rw [List.map_map, List.map_map] at hsame
  have hnames : ["object"] = ["long"] := (eq_of_beq htypes).symm.trans (hsame.trans hfound)
  simp at hnames

end Compiler

end DocQuery
