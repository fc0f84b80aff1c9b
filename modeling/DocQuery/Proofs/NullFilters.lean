import DocQuery.Proofs.JoinKinds
import DocQuery.Proofs.KeyFilters
import DocQuery.Schema.Check
set_option autoImplicit false

/-!
# Proofs: checks for null along foreign keys

A check for null at the end of foreign keys splits the documents of a collection:  those where a
document on the way or the field at the end is missing, and the others.  No document is dropped
by a join, since the check makes all the joins on its path keep documents without a match.  The
rows show the columns of the documents, so this is what the documents are told apart by.
-/

namespace DocQuery

open Value

/-! ## Paths that end in a check for null -/

namespace Lookup

theorem eq_of_ofName?_isnull {name : String} (h : ofName? name = some .isnull) :
    name = "isnull" := by
  unfold ofName? at h
  split at h <;> first | rfl | simp at h

end Lookup

/-- What a document holds in the columns of a model. -/
def Model.valuesOf (m : Model) (doc : Value) : List (Option Value) := m.columns.map doc.field?

/-- Whether a chain asks whether its field is null: the field holds a scalar, or an embedded
document without a field that has the name of the check. -/
def Chain.asksNull (s : Schema) (chain : Chain) : Bool :=
  chain.lookup == .isnull &&
    match ValueType.ofField chain.field.kind with
    | .scalar _ => true
    | .embedded model => (s.model? model).any fun m => (m.field? "isnull").isNone
    | _ => false

namespace Compiler

variable {c : Compiler} {path : String} {ctx ctx' : Context}

/-- Behind a value that may be null, the name of the check is the check. -/
theorem step_isnull {chain : Chain} (h : chain.asksNull c.schema = true) {a : Access}
    (htype : a.type = .ofField chain.field.kind) :
        c.step a "isnull" true = .ok (.lookup .isnull) := by
  unfold Chain.asksNull at h
  rw [← htype] at h
  cases hkind : a.type with
  | scalar kind => cases kind <;> simp [step, hkind] <;> rfl
  | embedded model =>
    rw [hkind] at h
    cases hm : c.schema.model? model with
    | none => simp [hm] at h
    | some m =>
      obtain ⟨-, hfield⟩ : chain.lookup = .isnull ∧ m.field? "isnull" = none := by
        simpa [hm] using h
      simp only [step, hkind, modelOf, hm, documentStep, hfield]
      rfl
  | embeddedArray model => simp [hkind] at h
  | mapped element => simp [hkind] at h

theorem allowed_isnull {chain : Chain} (h : chain.asksNull c.schema = true) :
    (Lookup.allowed (.ofField chain.field.kind)).contains .isnull = true := by
  unfold Chain.asksNull at h
  cases hkind : ValueType.ofField chain.field.kind with
  | scalar kind => cases kind <;> rfl
  | embedded model => rfl
  | embeddedArray model => simp [hkind] at h
  | mapped element => simp [hkind] at h

/-- A check for null ends a path behind a value. -/
theorem follow_isnull {chain : Chain} (h : chain.asksNull c.schema = true) {a : Access}
    (htype : a.type = .ofField chain.field.kind) {rest : List String}
    (hrest : rest = [] ∧ chain.lookup = .exact ∨
      ∃ last, rest = [last] ∧ Lookup.ofName? last = some chain.lookup) (joins : List Nat) :
    rest = ["isnull"] ∧
    c.follow path (.value a) rest joins ctx = (.ok ⟨a, some .isnull, joins⟩, ctx) := by
  have hnull : chain.lookup = .isnull := by
    unfold Chain.asksNull at h
    simp only [Bool.and_eq_true, beq_iff_eq] at h
    exact h.1
  rcases hrest with ⟨-, hexact⟩ | ⟨last, rfl, hlast⟩
  · simp [hnull] at hexact
  · obtain rfl := Lookup.eq_of_ofName?_isnull (hlast.trans (by rw [hnull]))
    exact ⟨rfl, by simp [follow, step_isnull h htype]⟩

section Documents

variable {m : Model} {parent : Option String} {relation name : String} {rest : List String}
  {joins : List Nat} {f : Field}

/-- A chain that asks whether its field is null can be followed. -/
theorem follow_chain_isnull {names : List String} {chain : Chain}
    (h : chain.asksNull c.schema = true) (hchain : c.schema.chain? m names = some chain) :
    ∃ e ctx', c.follow path (.document m parent relation) names joins ctx = (.ok e, ctx') := by
  induction names generalizing m parent relation joins ctx chain with
  | nil => simp [Schema.chain?] at hchain
  | cons name rest ih =>
    obtain ⟨f, hf, hcase⟩ := Schema.chain?_cons hchain
    rcases hcase with ⟨hstays, -, rfl, hrest⟩ | ⟨hleaves, link, t, tail, hlink, htail, rfl⟩
    · rw [follow_stays hf hstays]
      exact ⟨_, _, (follow_isnull h rfl hrest joins).2⟩
    · obtain ⟨k, hsame⟩ := follow_leaves hf hleaves hlink
      have htailNull : tail.asksNull c.schema = true := h
      rw [hsame]
      exact ih htailNull htail

end Documents

section Filters

variable {m : Model} {chain : Chain} (hplain : c.schema.hasPlainCollections = true)
  (hm : m ∈ c.schema.models)
  (hpath : "" ∉ Text.segments path) (hchain : c.schema.chain? m (Text.segments path) =
    some chain)
  (hnull : chain.asksNull c.schema = true)
include hplain hm hpath hchain hnull

/-- A check for null along foreign keys can be resolved: it reads the field at the end, and all
the joins on the way keep documents without a match. -/
theorem resolveLookup_isnull :
    ∃ r ctx' hops, c.resolveLookup (.ofModel m) path = (.ok r, ctx') ∧ r.lookup = .isnull ∧
      r.target.type = .ofField chain.field.kind ∧
        (noteLookup r ctx').FollowsHops c.schema m hops ∧
      Hop.Finds c.schema m hops chain.links chain.field r.target ∧
      ∀ entry ∈ (noteLookup r ctx').joins, entry.2.kind = .left := by
  obtain ⟨e, ctx', hfollow⟩ : ∃ e ctx', c.followPath (.ofModel m) path = (.ok e, ctx') := by
    have hempty : (Text.segments path).contains "" = false := by simpa using hpath
    simp only [followPath, hempty, Bool.false_eq_true, if_false]
    exact follow_chain_isnull hnull hchain
  obtain ⟨hops, -, hctx', a, rest, through, hfinds, hvalue, hrest⟩ :=
    followPath_chain hplain hm (Context.followsHops_ofModel c.schema m) hchain hfollow
  rw [List.nil_append] at hctx' hfinds
  have htype : a.type = .ofField chain.field.kind := by
    obtain ⟨_, _, _, -, -, -, -, rfl⟩ := hfinds
    rfl
  obtain ⟨-, hends⟩ := follow_isnull hnull htype hrest through
  rw [hends] at hvalue
  obtain ⟨he, -⟩ := Prod.mk.inj hvalue
  obtain rfl := Except.ok.inj he
  refine ⟨⟨a, .isnull, through⟩, ctx', hops, ?_, rfl, htype, ?_, hfinds, ?_⟩
  · simp only [resolveLookup, hfollow, compared, Option.getD_some, htype,
      allowed_isnull hnull, if_true]
  · have halike := Context.Alike.promote ctx' through
    rw [noteLookup, if_pos rfl]
    exact ⟨hctx'.promote through, halike.annotations.trans hctx'.annotations,
      halike.stages.trans hctx'.stages⟩
  · intro entry hentry
    -- the joins are those that the path goes through, and the check is made along all of them
    have hknown : (Context.ofModel m).Knows [] := fun name => by
      simp [Context.computedType?, Context.ofModel, Context.findType]
    have hcrosses : Context.Crosses _ [] through (.ofModel m) ctx' :=
      (followPath_crosses (u := ⟨path, [], false, true⟩) hknown hfollow).1
    obtain ⟨hrelations, hnodup, hleft⟩ := Context.Crosses.noteUse (u := ⟨path, [], false, true⟩)
      (e := ⟨a, some .isnull, through⟩) hcrosses
    rw [noteUse_lookup] at hrelations hnodup hleft
    have hempty : (Context.ofModel m).relations = [] := rfl
    refine (Context.keepsUnmatched_iff (hnodup (by simp [hempty])) hentry).mp
      ((hleft entry.1).mpr (.inr ?_))
    rcases (hrelations entry.1).mp (List.mem_map_of_mem hentry) with hold | ⟨x, hx, hsame⟩
    · simp [hempty] at hold
    · exact ⟨x, hx, hsame, .inr (.inr ⟨rfl, rfl⟩)⟩

/-- So the check is compiled to an expression that decides whether there is no value at the end
of the chain. -/
theorem compileFilter_isnull (isNull : Bool) :
    ∃ e ctx' hops, c.compileFilter (.ofModel m) (.lookup path (.literal (.bool isNull))) =
      .ok (e, ctx') ∧ ctx'.FollowsHops c.schema m hops ∧
      (∀ entry ∈ ctx'.joins, entry.2.kind = .left) ∧
      ∀ store doc row, Hop.RowOf c.schema m hops store doc row →
        Decides ⟨row, []⟩ e ((chain.read store doc).isNone == isNull) := by
  obtain ⟨r, ctx', hops, hr, hlookup, htype, hctx', hfinds, hleft⟩ :=
    resolveLookup_isnull hplain hm hpath hchain hnull
  have hmapped : r.target.type.isMapped = false := by
    rw [htype]
    cases chain.field.kind <;> rfl
  refine ⟨Value.nullCheck r.target.render isNull, noteLookup r ctx', hops, ?_, hctx', hleft, ?_⟩
  · have htruthy : (Value.bool isNull).isTruthy = isNull := rfl
    simp only [compileFilter, lookupWith, hr, literalOperand, hlookup,
      Lookup.literal, Lookup.arity, Lookup.buildOn, hmapped, Lookup.build, htruthy,
      Bool.false_eq_true, if_false]
  · intro store doc row hrow
    obtain ⟨hsingle, x, hx, hpresent⟩ :=
      hrow.eval_render hplain (hctx'.leads.isPlain hplain hm) hfinds
    rw [Chain.read, ← hpresent]
    exact Decides.nullCheck hsingle hx isNull

end Filters

/-! ## Queries -/

/-- A query with a filter can be compiled if the filter can. -/
theorem compile_of_filter {model : String} {m : Model} {f : Filter} {e : Value}
    (hm : c.queryableModel model = .ok m) (hf : c.compileFilter (.ofModel m) f = .ok (e, ctx)) :
    ∃ a, c.compile ((Query.all model).addFilter f) = .ok a := by
  let p : Plan := ⟨[], some e, addColumns [] ++ sortBy [], windowOf none none,
    allColumns ctx.model []⟩
  have hcondition : c.compileCondition (.ofModel m) (some f) = .ok (some e, ctx) := by
    simp only [compileCondition, hf]
  have hrelations : c.loadRelations (.ofModel m) [] = .ok (.ofModel m) := rfl
  have hannotations : c.compileAnnotations [] (.ofModel m) [] = .ok ([], .ofModel m) := by
    simp only [compileAnnotations, addColumns]
    rfl
  have hplan : c.planWith (.ofModel m) ((Query.all model).addFilter f) (fun ctx =>
    c.compileAnnotations [] ctx []) (fun ctx => c.compileCondition ctx (some f)) =
    .ok (p, ctx) := by
    simp only [planWith, Query.all, Query.addFilter, Query.conjoin, Query.related, hrelations,
      hannotations, hcondition]
    rfl
  have hquery : c.queryWith ((Query.all model).addFilter f) (fun ctx =>
    c.compileAnnotations [] ctx []) (fun ctx => c.compileCondition ctx (some f))
    (c.compileUnion none) = .ok ⟨m.collection, c.single ctx p⟩ := by
    have hq : c.queryableModel ((Query.all model).addFilter f).model = .ok m := hm
    simp only [queryWith, hq, hplan]
    rfl
  exact ⟨_, (compile_eq _).trans hquery⟩

/-- A query runs whose joins lose no document that its filter means, and it returns those
documents. -/
theorem run_filtered {m : Model} {hops : List Hop} {e : Value} {store : Store}
    {p : Value → Bool}
    (hctx : ctx.FollowsHops c.schema m hops) (hplain : c.schema.hasPlainCollections = true)
    (hkeys : c.schema.hasMatchingKeys = true) (hm : m ∈ c.schema.models)
    (hconfig : '.' ∉ c.config.parentPrefix.toList)
    (hkeyed : c.schema.IsKeyed store)
    (hdocs : ∀ doc ∈ store.collection m.collection, doc.items? = none)
    (hdecides : ∀ doc row, Hop.RowOf c.schema m hops store doc row →
      Decides ⟨row, []⟩ e (p doc))
    (hkept : ∀ doc ∈ store.collection m.collection, p doc = true →
      ¬Hop.Loses store hops ctx.joins doc) :
    ∃ rows, Stage.runAll store (ctx.prerequisites c.config ++
        [Stage.selectExpr e, .project (projectionOf (allColumns ctx.model []))]) []
        (store.collection m.collection) = .ok rows ∧
      rows.map m.valuesOf = ((store.collection m.collection).filter p).map m.valuesOf := by
  obtain ⟨joined, hjoins, hrows⟩ := Hop.run_joins_kinds hctx.leads hctx.joins
    (hctx.leads.isPlain hplain hm) hm hkeys hkeyed hconfig hdocs
  have hselected : Stage.selected (.operator "$expr" e) []
    ((store.collection m.collection).filterMap joined) =
      .ok (((store.collection m.collection).filter p).filterMap joined) :=
    Stage.selected_filterMap fun doc hdoc row hrow =>
      hdecides doc row ((hrows doc hdoc).1 row hrow)
  have hfound : ∀ doc ∈ (store.collection m.collection).filter p, ∃ row, joined doc = some row ∧
      Hop.RowOf c.schema m hops store doc row := by
    intro doc hdoc
    obtain ⟨hdoc, hp⟩ := List.mem_filter.mp hdoc
    cases hrow : joined doc with
    | none => exact absurd ((hrows doc hdoc).2.mp hrow) (hkept doc hdoc hp)
    | some row => exact ⟨row, rfl, (hrows doc hdoc).1 row hrow⟩
  have hreadable : ∀ row ∈ ((store.collection m.collection).filter p).filterMap joined,
      row.items? = none := by
    intro row hrow
    obtain ⟨doc, hdoc, hjoined⟩ := List.mem_filterMap.mp hrow
    obtain ⟨row', hrow', hof⟩ := hfound doc hdoc
    obtain rfl := Option.some.inj (hjoined.symm.trans hrow')
    exact hof.items
  obtain ⟨rows, hproject, hmarked⟩ := Stage.each_projection_marked (projectionOf_allColumns
    ctx.model) hreadable
  have hshown : ∀ row out, Stage.KeepsMarked (projectionOf (allColumns ctx.model [])) row out →
      m.valuesOf out = m.valuesOf row := by
    refine fun row out hkeeps => List.map_congr_left fun column hcolumn => ?_
    obtain ⟨f, hf, rfl⟩ := List.mem_map.mp hcolumn
    refine hkeeps _ ((Schema.plain_of_hasPlainCollections hplain hm).2.2 f hf).1 (.inr ?_)
    rwa [hctx.model, mem_names_projectionOf_allColumns]
  refine ⟨rows, ?_, (Stage.KeepsMarked.map_eq hmarked hshown).trans (map_filterMap_of_same
    fun doc hdoc => ?_)⟩
  · rw [Context.prerequisites, hctx.stages, List.append_nil, Stage.runAll_append, hjoins]
    simp only [Except.bind, Stage.runAll, Stage.selectExpr, Stage.run, hselected, hproject]
  · obtain ⟨row, hrow, hof⟩ := hfound doc hdoc
    exact ⟨row, hrow, List.map_congr_left fun column hcolumn => hof.own column (.inl hcolumn)⟩

section Partition

variable {model : String} {m : Model} {chain : Chain} {store : Store}
  (hm : c.queryableModel model = .ok m)
  (hplain : c.schema.hasPlainCollections = true) (hkeys : c.schema.hasMatchingKeys = true)
  (hconfig : '.' ∉ c.config.parentPrefix.toList) (hpath : "" ∉ Text.segments path)
  (hchain : c.schema.chain? m (Text.segments path) = some chain)
  (hnull : chain.asksNull c.schema = true)
  (hkeyed : c.schema.IsKeyed store) (hdocs : ∀ doc ∈ store.collection m.collection,
    doc.items? = none)
include hm hplain hkeys hconfig hpath hchain hnull hkeyed hdocs

theorem compile_isnull_finds (isNull : Bool) :
    ∃ a rows, c.compile ((Query.all model).addFilter (.lookup path (.literal (.bool isNull)))) =
      .ok a ∧ store.aggregate a.collection a.pipeline = .ok rows ∧
      rows.map m.valuesOf =
        ((store.collection m.collection).filter fun doc => (chain.read store doc).isNone
          == isNull).map m.valuesOf := by
  have hmodel := ((queryableModel_eq_ok_iff c model m).mp hm).1
  have hmem : m ∈ c.schema.models := List.mem_of_find?_eq_some hmodel
  obtain ⟨e, ctx', hops, hfilter, hctx', hleft, hdecides⟩ :=
    compileFilter_isnull hplain hmem hpath hchain hnull isNull
  obtain ⟨a, ha⟩ := compile_of_filter hm hfilter
  obtain ⟨m', e', ctx'', hm', hfilter', hcollection, hpipeline⟩ := compile_filter_ok ha
  obtain rfl := Option.some.inj (hmodel.symm.trans hm')
  obtain ⟨rfl, rfl⟩ := Prod.mk.inj (Except.ok.inj (hfilter.symm.trans hfilter'))
  have hkept : ∀ doc ∈ store.collection m.collection,
    ((chain.read store doc).isNone == isNull) = true →
      ¬Hop.Loses store hops ctx'.joins doc := by
    rintro doc - - ⟨pair, hpair, hinner, -⟩
    simp [hleft pair.2 (List.of_mem_zip hpair).2] at hinner
  obtain ⟨rows, hrun, hvalues⟩ := run_filtered hctx' hplain hkeys hmem hconfig hkeyed hdocs
    (fun doc row => hdecides store doc row) hkept
  exact ⟨a, rows, ha, by rw [Store.aggregate, hcollection, hpipeline, hrun], hvalues⟩

/-- Checks for null along foreign keys split a collection.  The documents where the chain
breaks, or ends at a document whose field is null or missing, are those for which the check
holds, and the others those for which its opposite does:  each of them once, and in the order of
the collection. -/
theorem compile_isnull_partitions :
    ∃ a b nulls others,
      c.compile ((Query.all model).addFilter (.lookup path (.literal (.bool true)))) = .ok a ∧
      c.compile ((Query.all model).addFilter (.lookup path (.literal (.bool false)))) = .ok b ∧
      store.aggregate a.collection a.pipeline = .ok nulls ∧
      store.aggregate b.collection b.pipeline = .ok others ∧
      nulls.map m.valuesOf =
        ((store.collection m.collection).filter fun doc => (chain.read store doc).isNone).map
          m.valuesOf ∧
      others.map m.valuesOf =
        ((store.collection m.collection).filter fun doc => (chain.read store doc).isSome).map
          m.valuesOf ∧
      ((nulls ++ others).map m.valuesOf).Perm
          ((store.collection m.collection).map m.valuesOf) := by
  obtain ⟨a, nulls, ha, hnulls, hnullValues⟩ :=
    compile_isnull_finds hm hplain hkeys hconfig hpath hchain hnull hkeyed hdocs true
  obtain ⟨b, others, hb, hothers, hotherValues⟩ :=
    compile_isnull_finds hm hplain hkeys hconfig hpath hchain hnull hkeyed hdocs false
  have hsplit : (fun doc => (chain.read store doc).isNone == false) =
      fun doc => (chain.read store doc).isSome := by
    funext doc
    cases chain.read store doc <;> rfl
  have hwhole : (fun doc => (chain.read store doc).isNone == true) =
      fun doc => (chain.read store doc).isNone := by
    funext doc
    exact beq_true _
  rw [hwhole] at hnullValues
  rw [hsplit] at hotherValues
  refine ⟨a, b, nulls, others, ha, hb, hnulls, hothers, hnullValues, hotherValues, ?_⟩
  have hopposite : (fun doc => (chain.read store doc).isSome) =
      fun doc => !(chain.read store doc).isNone := by
    funext doc
    cases chain.read store doc <;> rfl
  rw [List.map_append, hnullValues, hotherValues, ← List.map_append, hopposite]
  exact (List.filter_append_perm _ _).map _

end Partition

/-- The city of the team of the boss of a person. -/
def bossCity : Chain where
  links := [⟨"boss_id", "people", "name"⟩, ⟨"team_id", "teams", "name"⟩]
  field := ⟨"city", .scalar .string, true, none⟩
  lookup := .isnull

/-- Ann has no boss, and the boss of Bob is in a team in Rome. -/
theorem annAndBob_partition :
    ∃ a b nulls others,
      staff.compile ((Query.all "Person").addFilter
        (.lookup "boss__team__city__isnull" (.literal (.bool true)))) = .ok a ∧
      staff.compile ((Query.all "Person").addFilter
        (.lookup "boss__team__city__isnull" (.literal (.bool false)))) = .ok b ∧
      annAndBob.aggregate a.collection a.pipeline = .ok nulls ∧
      annAndBob.aggregate b.collection b.pipeline = .ok others ∧
      nulls.map person.valuesOf = [[some (.int 1), some (.string "Ann"), none,
        some (.string "A")]] ∧
      others.map person.valuesOf =
        [[some (.int 2), some (.string "Bob"), some (.string "Ann"), some (.string "A")]] := by
  have hchain : staff.schema.chain? person (Text.segments "boss__team__city__isnull") =
      some bossCity := by
    decide +kernel
  have hperson : staff.queryableModel "Person" = .ok person := rfl
  have hkeyed : staff.schema.IsKeyed annAndBob := by decide +kernel
  have hpeople : ∀ doc ∈ annAndBob.collection person.collection, doc.items? = none := by decide
  obtain ⟨a, b, nulls, others, ha, hb, hnulls, hothers, hnullValues, hotherValues, -⟩ :=
    compile_isnull_partitions hperson (by decide) (by decide) (by decide) (by decide +kernel)
      hchain (by decide) hkeyed hpeople
  exact ⟨a, b, nulls, others, ha, hb, hnulls, hothers, hnullValues.trans rfl,
    hotherValues.trans rfl⟩

/-- Tenants of flats. -/
def tenant : Model where
  name := "Tenant"
  storedCollection := some "tenants"
  embedded := false
  fields := [Model.primaryKey, ⟨"flat", .foreignKey "Flat" none none, false, none⟩]

/-- Tenants and their flats, with meters.  A meter has a field that is called like the check for
null. -/
def lettings : Compiler where
  schema := ⟨[tenant,
    ⟨"Flat", some "flats", false, [Model.primaryKey, ⟨"meter", .embedded "Meter", true, none⟩]⟩,
    ⟨"Meter", none, true, [⟨"isnull", .scalar .boolean, false, none⟩]⟩]⟩
  config := .usual

/-- The meter of the flat of a tenant. -/
def flatMeter : Chain where
  links := [⟨"flat_id", "flats", "_id"⟩]
  field := ⟨"meter", .embedded "Meter", true, none⟩
  lookup := .isnull

/-- A tenant of a flat without a meter. -/
def oneTenant : Store :=
  ⟨[("tenants", [.object [("_id", .int 1), ("flat_id", .int 5)]]),
    ("flats", [.object [("_id", .int 5)]])]⟩

/-- A name behind an embedded document is that of a field first.  So both queries compare the
field of the meter, and neither of them returns the tenant whose flat has no meter. -/
theorem oneTenant_in_neither :
    ∃ a b doc, lettings.schema.check = [] ∧ lettings.queryableModel "Tenant" = .ok tenant ∧
      lettings.schema.hasPlainCollections = true ∧ lettings.schema.hasMatchingKeys = true ∧
      lettings.schema.IsKeyed oneTenant ∧
      lettings.schema.chain? tenant (Text.segments "flat__meter__isnull") = some flatMeter ∧
      oneTenant.collection tenant.collection = [doc] ∧ flatMeter.read oneTenant doc = none ∧
      lettings.compile ((Query.all "Tenant").addFilter
        (.lookup "flat__meter__isnull" (.literal (.bool true)))) = .ok a ∧
      lettings.compile ((Query.all "Tenant").addFilter
        (.lookup "flat__meter__isnull" (.literal (.bool false)))) = .ok b ∧
      oneTenant.aggregate a.collection a.pipeline = .ok [] ∧
      oneTenant.aggregate b.collection b.pipeline = .ok [] := by
  have hempty : ∀ {r : Except ExecError (List Value)},
      Stage.succeedsWith (fun rows => rows.isEmpty) r = true → r = .ok [] := by
    intro r hr
    obtain ⟨rows, rfl, hrows⟩ := Stage.exists_of_succeedsWith hr
    rw [List.isEmpty_iff.mp hrows]
  refine ⟨_, _, _, rfl, rfl, by decide, by decide, by decide +kernel, by decide +kernel, rfl,
    rfl, rfl, rfl, hempty (by decide +kernel), hempty (by decide +kernel)⟩

end Compiler

end DocQuery
