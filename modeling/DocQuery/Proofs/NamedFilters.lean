import DocQuery.Proofs.ColumnAliases
import DocQuery.Proofs.NamedPaths
import DocQuery.Proofs.Unions
set_option autoImplicit false

/-!
# Proofs: filters on columns that are computed

A query may compute a column that holds what a path leads to, and filter by that column instead
of the path.  It then selects the same documents.
-/

namespace DocQuery

/-! ## Stages -/

namespace Stage

variable {fields vars : Document} {e e' : Value} {docs outs kept kept' : List Value}

/-- A condition that holds alike of documents and of what they become selects the same of
both. -/
theorem selected_addComputed (houts : each (addComputed fields vars) docs = .ok outs)
    (hkept : selected (.operator "$expr" e) vars docs = .ok kept)
    (hkept' : selected (.operator "$expr" e') vars outs = .ok kept')
    (hsame : ∀ doc ∈ docs, ∀ out, addComputed fields vars doc = .ok out → e.eval ⟨doc, vars⟩ =
      e'.eval ⟨out, vars⟩) :
    kept.Sublist docs ∧ each (addComputed fields vars) kept = .ok kept' := by
  induction docs generalizing outs kept kept' with
  | nil =>
    obtain rfl := Except.ok.inj houts
    obtain rfl := Except.ok.inj hkept
    obtain rfl := Except.ok.inj hkept'
    exact ⟨.slnil, rfl⟩
  | cons doc rest ih =>
    obtain ⟨hdoc, hrest⟩ := List.forall_mem_cons.mp hsame
    rw [each_ok_iff] at houts
    obtain ⟨out, others, hout, hothers, rfl⟩ := List.forall₂_cons_left_iff.mp houts
    simp only [selected, Value.selects_expr, hdoc out hout] at hkept hkept'
    cases hkeep : (e'.eval ⟨out, vars⟩).map isTruthy? with
    | error error => simp [hkeep] at hkept
    | ok keep =>
      simp only [hkeep] at hkept hkept'
      split at hkept
      · cases hkept
      · rename_i found hfound
        split at hkept'
        · cases hkept'
        · rename_i found' hfound'
          obtain ⟨hsub, hall⟩ := ih ((each_ok_iff _ _ _).mpr hothers) hfound hfound' hrest
          obtain rfl := Except.ok.inj hkept
          obtain rfl := Except.ok.inj hkept'
          cases keep with
          | true => exact ⟨hsub.cons_cons doc, by simp only [each, hout, hall, if_true]⟩
          | false => exact ⟨hsub.cons doc, hall⟩

end Stage

namespace Compiler

variable {c : Compiler} {model : String} {m : Model} {s : Store} {rows : List Value}

/-! ## Queries -/

/-- Whether queries that return all documents return certain rows of the same documents of a
collection. -/
def OfSame (c : Compiler) (s : Store) (collection : String) (q q' : Query)
    (rows rows' : List Value) : Prop :=
  ∃ docs, docs.Sublist (s.collection collection) ∧
    c.Returns ⟨[(collection, docs)]⟩ q rows ∧ c.Returns ⟨[(collection, docs)]⟩ q' rows'

/-- A query that joins nothing computes its columns, selects by its filter and returns all
columns. -/
theorem compile_of_parts (hm : c.queryableModel model = .ok m) (filter : Option Filter)
    {annotations : List (String × Expr)} {stages : List Stage} {condition : Option Value}
    {computed final : Context}
    (hstages : c.compileAnnotations [] (.ofModel m) annotations = .ok (stages, computed))
    (hfilter : c.compileCondition computed filter = .ok (condition, final))
    (hmodel : final.model = m)
    (hjoins : final.joins = []) (hsubqueries : final.subqueryStages = []) :
    c.compile (.mk model filter annotations [] [] none none [] none) =
      .ok ⟨m.collection, stages ++ selecting condition ++
        [.project (projectionOf (allColumns m (annotations.map (·.1))))]⟩ := by
  refine (compile_ok_iff rfl).mpr ⟨m, ⟨stages, condition, [], [],
    allColumns m (annotations.map (·.1))⟩, final, hm, ?_, ?_⟩
  · unfold planOf planWith
    simp only [Query.related, loadRelations, Query.annotations, hstages, Query.filter, hfilter,
      Query.orderBy, sortKeys, Query.values, returnedColumns, hmodel]
    rfl
  · simp only [single, source, Context.prerequisites, hjoins, hsubqueries]
    cases condition <;> simp [selecting]

section Computed

variable (hm : c.queryableModel model = .ok m) {annotations : List (String × Expr)}
  {stages : List Stage}
  {computed : Context} (hstages : c.compileAnnotations [] (.ofModel m) annotations =
    .ok (stages, computed))
  (hmodel : computed.model = m) (hjoins : computed.joins = [])
  (hsubqueries : computed.subqueryStages = [])
  {docs : List Value}
include hm hstages hmodel hjoins hsubqueries

/-- A query that does nothing but compute columns returns all documents with these. -/
theorem returns_computed_iff :
    c.Returns ⟨[(m.collection, docs)]⟩ (.mk model none annotations [] [] none none
      [] none) rows ↔ Stage.runAll ⟨[(m.collection, docs)]⟩
        (stages ++ [.project (projectionOf (allColumns m (annotations.map (·.1))))])
            [] docs = .ok rows := by
  have hcompile := compile_of_parts hm none hstages rfl hmodel hjoins hsubqueries
  have hstore : Store.collection ⟨[(m.collection, docs)]⟩ m.collection = docs := by
    rw [Store.collection, Store.find, if_pos rfl]
  rw [selecting, List.append_nil] at hcompile
  constructor
  · rintro ⟨a, ha, hrun⟩
    obtain rfl := Except.ok.inj (hcompile.symm.trans ha)
    rwa [Store.aggregate, hstore] at hrun
  · exact fun hrun => ⟨_, hcompile, by rwa [Store.aggregate, hstore]⟩

theorem length_of_returns (hrows : ∀ s ∈ stages, s.IsRowwise)
    (h : c.Returns ⟨[(m.collection, docs)]⟩ (.mk model none annotations [] [] none none [] none)
      rows) :
    rows.length = docs.length := by
  rw [returns_computed_iff hm hstages hmodel hjoins hsubqueries] at h
  refine (Stage.forall₂_of_runAll (fun s hs => ?_) h).length_eq.symm
  obtain hs | hs := List.mem_append.mp hs
  · exact hrows s hs
  · obtain rfl := List.mem_singleton.mp hs
    exact fun _ _ => ⟨_, fun docs => by rw [Stage.run]⟩

end Computed

/-- The condition of a query that does nothing but filter. -/
theorem exists_condition_of_compile (hm : c.queryableModel model = .ok m) {f : Filter}
    {a : Aggregation} (h : c.compile ((Query.all model).addFilter f) = .ok a) :
    ∃ e ctx, c.compileFilter (.ofModel m) f = .ok (e, ctx) := by
  obtain ⟨m', p, ctx, hm', hp, -⟩ := (compile_ok_iff rfl).mp h
  obtain rfl : m = m' := Except.ok.inj (hm.symm.trans hm')
  obtain ⟨d, -, -⟩ := planOf_ok_iff.mp hp
  have hloaded : Context.ofModel m = d.loaded := Except.ok.inj d.loads
  have hcomputed : ([], d.loaded) = (d.stages, d.computed) := Except.ok.inj d.computes
  have hfilters : c.compileCondition d.computed (some f) = .ok (d.condition, d.filtered) :=
    d.filters
  rw [← (Prod.mk.inj hcomputed).2, ← hloaded, compileCondition] at hfilters
  split at hfilters
  · rename_i e after he
    exact ⟨e, after, he⟩
  · cases hfilters

/-! ## Paths within a document -/

/-- A path that names no relation leads from a column of the document itself, and joins
nothing. -/
theorem followPath_local {path : String} {ctx : Context} {e : Ending}
    (hlocal : ∀ f, m.field? ((Text.segments path).headD "") = some f →
      f.kind.isRelation = false)
    (h : c.followPath (.ofModel m) path = (.ok e, ctx)) :
    ∃ f name rest, Text.segments path = name :: rest ∧ "" ∉ name :: rest ∧
      m.field? name = some f ∧ f.kind.isRelation = false ∧
      c.follow path (.value (.column none f.column (.ofField f.kind))) rest [] (.ofModel m) =
          (.ok e, ctx) := by
  obtain ⟨name, rest, hnames, hempty, hstart⟩ := followPath_ok h
  rcases hstart with ⟨type, htype, -⟩ | ⟨-, hfollow⟩
  · cases htype
  · obtain ⟨name', rest', f, heq, hf, hcase⟩ := follow_document_ok hfollow
    obtain ⟨rfl, rfl⟩ := List.cons.inj heq
    have hkind := hlocal f (by rw [hnames]; exact hf)
    rcases hcase with ⟨-, hvalue⟩ | ⟨target, key, storedAs, _, _, hrelation, -⟩
    · exact ⟨f, name, rest, hnames, hempty, hf, hkind, hvalue⟩
    · simp [hrelation, FieldKind.isRelation] at hkind

/-- A path may lead from a computed column instead. -/
theorem followPath_computed {path name : String} {rest : List String} {ctx : Context}
    {t : ValueType}
    (hnames : Text.segments path = name :: rest) (hempty : "" ∉ name :: rest)
    (htype : ctx.computedType? name = some t) :
    c.followPath ctx path =
        c.follow path (.value (.computed name t)) rest [] (ctx.refer name) := by
  have hcontains : (name :: rest).contains "" = false := by simpa using hempty
  simp only [followPath, hnames, hcontains, Bool.false_eq_true, if_false, List.headD_cons,
    htype, List.tail_cons]

theorem resolveField_eq {path : String} {ctx ctx' : Context} {r : Resolved}
    (h : c.resolveField ctx path = (.ok r, ctx')) :
    ∃ joins, c.followPath ctx path = (.ok ⟨r.target, none, joins⟩, ctx') := by
  unfold resolveField at h
  split at h
  · rename_i e after he
    obtain ⟨hreferred, rfl⟩ := Prod.mk.inj h
    unfold referred at hreferred
    split at hreferred
    · cases hreferred
    · rename_i hlookup
      obtain rfl := Except.ok.inj hreferred
      exact ⟨e.joins, by rw [he, ← hlookup]⟩
  · cases (Prod.mk.inj h).1

/-- The rows of a query that filters, and of one that computes a column and filters by it, are
those of the same documents if the conditions hold alike. -/
theorem runAll_by_name {fields columns columns' : Document} {e e' : Value}
    {docs rows rows' : List Value}
    (hrows : Stage.runAll s ([] ++ selecting (some e) ++ [.project columns]) [] docs = .ok rows)
    (hrows' : Stage.runAll s ([.addFields fields] ++ selecting (some e') ++ [.project columns'])
      [] docs = .ok rows')
    (hsame : ∀ doc ∈ docs, ∀ out, Stage.addComputed fields [] doc = .ok out → e.evalOn doc =
      e'.evalOn out) :
    ∃ kept, kept.Sublist docs ∧
      (∀ t, Stage.runAll t ([] ++ [.project columns]) [] kept = .ok rows) ∧
      ∀ t, Stage.runAll t ([.addFields fields] ++ [.project columns']) [] kept = .ok rows' := by
  obtain ⟨kept, hkept, hproject⟩ := Stage.runAll_append_ok hrows
  obtain ⟨kept', hselect', hproject'⟩ := Stage.runAll_append_ok hrows'
  obtain ⟨outs, houts, hkept'⟩ := Stage.runAll_append_ok hselect'
  rw [List.nil_append, selecting, Stage.runAll_singleton, Stage.selectExpr, Stage.run] at hkept
  rw [selecting, Stage.runAll_singleton, Stage.selectExpr, Stage.run] at hkept'
  rw [Stage.runAll_singleton, Stage.run] at houts
  rw [Stage.runAll_singleton, Stage.run] at hproject
  rw [Stage.runAll_singleton, Stage.run] at hproject'
  obtain ⟨hsub, hall⟩ := Stage.selected_addComputed houts hkept hkept' hsame
  refine ⟨kept, hsub, fun t => ?_, fun t => ?_⟩
  · rw [List.nil_append, Stage.runAll_singleton, Stage.run]
    exact hproject
  · rw [Stage.runAll_append, Stage.runAll_singleton, Stage.run, hall]
    exact (Stage.runAll_singleton _).trans (by rw [Stage.run]; exact hproject')

theorem noteLookup_of_nil {r : Resolved} (h : r.joins = []) (ctx : Context) :
    noteLookup r ctx = ctx := by
  unfold noteLookup
  rw [h]
  split <;> rfl

theorem compileFilter_literal {ctx after : Context} {path : String} {r : Resolved}
    {v w e : Value} (hr : c.resolveLookup ctx path = (.ok r, after)) (hjoins : r.joins = [])
    (hliteral : r.lookup.literal r.target.type.scalar? v = .ok w)
    (hbuild : r.lookup.buildOn r.target w = .ok e) :
    c.compileFilter ctx (.lookup path (.literal v)) = .ok (e, after) := by
  simp only [compileFilter, lookupWith, hr, literalOperand, hliteral, hbuild,
    noteLookup_of_nil hjoins]

/-- A column that holds what a path leads to. -/
theorem compileAnnotations_field {path : String} {r : Resolved}
    (h : c.resolveField (.ofModel m) path = (.ok r, .ofModel m)) (name : String) :
    c.compileAnnotations [] (.ofModel m) [(name, .field path)] =
      .ok ([.addFields [(name, r.target.render)]], Context.addAnnotation (.ofModel m) name
          r.target.type) := by
  simp only [compileAnnotations, compileExpr, fieldExpr, h]
  rfl

/-- Rows of the same documents are as many. -/
theorem OfSame.length_eq {path name : String} {r : Resolved} {rows' : List Value}
    (h : c.OfSame s m.collection (Query.all model)
      ((Query.all model).annotate name (.field path)) rows rows')
    (hm : c.queryableModel model = .ok m)
    (hpath : c.resolveField (.ofModel m) path = (.ok r, .ofModel m)) :
    rows.length = rows'.length := by
  obtain ⟨docs, -, hall, hall'⟩ := h
  have hlength := length_of_returns hm rfl rfl rfl rfl (fun _ hs =>
    absurd hs List.not_mem_nil) hall
  have hlength' := length_of_returns hm (compileAnnotations_field hpath name) rfl rfl rfl
    (fun s hs => List.mem_singleton.mp hs ▸ Stage.isRowwise_addFields _) hall'
  exact hlength.trans hlength'.symm

section Names

variable {path filtered named name : String} {suffix : List String} {r r₁ : Resolved}
  {ctx after : Context}
  (hpath : c.resolveField (.ofModel m) path = (.ok r, ctx))
  (hlocal : ∀ f, m.field? ((Text.segments path).headD "") = some f → f.kind.isRelation = false)
  (hflat : r.target.type.isMapped = false)
include hpath hlocal hflat

/-- A longer path leads on by moves, and so it does behind a column that holds what the path in
front of them leads to. -/
theorem exists_moves (hname : name ≠ "")
    (hfiltered : Text.segments filtered = Text.segments path ++ suffix)
    (hnamed : Text.segments named = name :: suffix)
    (h : c.resolveLookup (.ofModel m) filtered = (.ok r₁, after)) :
    ctx = .ofModel m ∧ after = .ofModel m ∧ ∃ moves,
      r₁ = ⟨r.target.along moves, r₁.lookup, []⟩ ∧ (∀ move ∈ moves, move.IsConstant) ∧
      ((r.target.along moves).type.isMapped = true → ∃ array inner, r.target.along moves =
        .each array inner) ∧
      (Lookup.allowed (r.target.along moves).type).contains r₁.lookup = true ∧
      ∀ ctx₂, ctx₂.computedType? name = some r.target.type → c.resolveLookup ctx₂ named =
        (.ok ⟨(Access.computed name r.target.type).along moves, r₁.lookup, []⟩,
            ctx₂.refer name) := by
  obtain ⟨joins, hfollow⟩ := resolveField_eq hpath
  obtain ⟨f, first, rest, hnames, -, hf, -, hvalue⟩ := followPath_local hlocal hfollow
  obtain ⟨e, hfollow₁, hcompared⟩ := resolveLookup_ok h
  have hsegments : Text.segments filtered = first :: (rest ++ suffix) := by
    rw [hfiltered, hnames, List.cons_append]
  obtain ⟨f', first', rest', hnames', hempty, hf', -, hvalue'⟩ := followPath_local (by
    rw [hsegments]
    rwa [hnames] at hlocal) hfollow₁
  obtain ⟨rfl, rfl⟩ := List.cons.inj (hsegments.symm.trans hnames')
  obtain rfl := Option.some.inj (hf.symm.trans hf')
  obtain rfl := follow_value_context hvalue
  rw [follow_append_ok hvalue] at hvalue'
  obtain rfl := follow_value_context hvalue'
  rw [← Access.along_nil r.target] at hvalue'
  obtain ⟨moves, hend, hbehind⟩ := follow_along_ok hflat hvalue'
  obtain ⟨rfl, hallowed⟩ := compared_ok hcompared
  have htarget : e.target = r.target.along moves := congrArg Ending.target hend
  have hjoins : e.joins = [] := congrArg Ending.joins hend
  rw [htarget] at hallowed
  rw [htarget, hjoins]
  refine ⟨rfl, rfl, moves, rfl, ?_, fun hmapped => ?_, hallowed, fun ctx₂ htype => ?_⟩
  · have hitem := hbehind (.item r.target.type) rfl filtered [] (.ofModel m)
    exact Move.isConstant_of_mirrors (follow_value_reads none rfl (.item _) hitem).2
  · have heach := exists_each_of_follow (fun h => absurd h (by simp [hflat])) hvalue'
    rw [htarget] at heach
    exact heach hmapped
  · have hmem : "" ∉ name :: suffix := by
      rw [List.mem_cons, not_or]
      exact ⟨hname.symm, fun hsuffix => hempty (by simp [hsuffix])⟩
    have hfollowed := (followPath_computed hnamed hmem htype).trans
      (hbehind (.computed name r.target.type) rfl named [] _)
    have hsame : ((Access.computed name r.target.type).along moves).type =
        (r.target.along moves).type :=
      Access.type_along r.target (.computed name r.target.type) rfl moves
    unfold resolveLookup compared
    simp only [hfollowed, hsame, hallowed, if_true]

/-- Filtering by a column that holds what a path leads to selects the documents that filtering
by the path selects, as long as the stored documents are read in the same way in one go and in
two. -/
theorem filter_by_name {v : Value} {a : Aggregation} (hm : c.queryableModel model = .ok m)
    (hplain : IsPlainName name)
    (hname : name ≠ "") (hfiltered : Text.segments filtered = Text.segments path ++ suffix)
    (hnamed : Text.segments named = name :: suffix)
    (hcompile : c.compile ((Query.all model).addFilter (.lookup filtered (.literal v))) =
      .ok a) :
    ∃ r₁ moves a', c.resolveLookup (.ofModel m) filtered = (.ok r₁, .ofModel m) ∧
      r₁.target = r.target.along moves ∧
      c.compile (((Query.all model).annotate name (.field path)).addFilter
      (.lookup named (.literal v))) = .ok a' ∧ ∀ (s : Store) (rows rows' : List Value),
      s.aggregate a.collection a.pipeline = .ok rows →
        s.aggregate a'.collection a'.pipeline = .ok rows' →
        (∀ doc ∈ s.collection m.collection, r.target.Splits moves (r₁.lookup.asksNull v) doc) →
        c.OfSame s m.collection (Query.all model)
            ((Query.all model).annotate name (.field path)) rows rows' := by
  obtain ⟨e, ctx₁, hfilter⟩ := exists_condition_of_compile hm hcompile
  obtain ⟨r₁, after, w, hresolve, hbuild, hliteral, hctx₁⟩ := compileFilter_literal_ok hfilter
  -- the longer path is the path and some moves, and the same moves lead on behind the column
  obtain ⟨rfl, rfl, moves, hr₁, hmoves, heach, hallowed, hbehind⟩ :=
    exists_moves hpath hlocal hflat hname hfiltered hnamed hresolve
  have htarget : r₁.target = r.target.along moves := congrArg Resolved.target hr₁
  have hjoins : r₁.joins = [] := congrArg Resolved.joins hr₁
  obtain rfl : ctx₁ = .ofModel m := by rw [hctx₁, noteLookup_of_nil hjoins]
  rw [htarget] at hbuild hliteral
  obtain ⟨u, rfl, hlist, hasks⟩ := Lookup.literal_ok hliteral
  obtain ⟨e', hbuild', heval⟩ := Access.exists_buildOn hplain hmoves rfl hflat heach
    hallowed hlist hbuild
  have hnone : c.compileAnnotations [] (.ofModel m) [] = .ok ([], .ofModel m) := rfl
  have hannotations := compileAnnotations_field hpath name
  have hfilter' := compileFilter_literal
    (hbehind (Context.addAnnotation (.ofModel m) name r.target.type)
      (Context.computedType?_addAnnotation_self _ _ _)) rfl
    ((congrArg (r₁.lookup.literal ·.scalar? v) (Access.type_along r.target
      (.computed name r.target.type) rfl moves)).trans hliteral) hbuild'
  -- neither query joins anything or has subqueries
  have hfinal : ∀ ctx₀ : Context, (ctx₀.refer name).model = ctx₀.model ∧
    (ctx₀.refer name).joins = ctx₀.joins ∧ (ctx₀.refer name).subqueryStages =
    ctx₀.subqueryStages := fun ctx₀ => by
    unfold Context.refer
    split <;> exact ⟨rfl, rfl, rfl⟩
  have hcompile₁ := compile_of_parts hm (some (.lookup filtered (.literal v))) hnone
    (by rw [compileCondition, hfilter]) rfl rfl rfl
  have hcompile₂ := compile_of_parts hm (some (.lookup named (.literal v))) hannotations
    (by rw [compileCondition, hfilter']) (hfinal _).1 (hfinal _).2.1 (hfinal _).2.2
  obtain rfl := Except.ok.inj (hcompile₁.symm.trans hcompile)
  refine ⟨r₁, moves, _, hresolve, htarget, hcompile₂, fun s rows rows' hrows hrows' hsplits =>
    ?_⟩
  have hdots : ∀ x ∈ Document.names [(name, r.target.render)], '.' ∉ x.toList := by
    simpa [Document.names] using hplain.1
  -- the conditions hold alike of a document and of what it becomes with the column
  obtain ⟨docs, hsub, hall, hall'⟩ := runAll_by_name hrows hrows' fun doc hdoc out hout =>
    heval doc out (hasks ▸ hsplits doc hdoc) (Stage.items?_addComputed
      (hsplits doc hdoc).document hout) (Stage.eval_of_addComputed (by simp [Document.names])
      hdots List.mem_cons_self hout)
  exact ⟨docs, hsub, (returns_computed_iff hm hnone rfl rfl rfl).mpr (hall _),
    (returns_computed_iff hm hannotations rfl rfl rfl).mpr (hall' _)⟩

end Names

/-- Albums with their tracks, their maker, and notes with the studio they are from. -/
def album : Model :=
  ⟨"Album", none, false, [Model.primaryKey, ⟨"tracks", .embeddedArray "Track", true, none⟩,
    ⟨"maker", .embedded "Maker", true, none⟩, ⟨"notes", .scalar .json, true, none⟩,
    ⟨"notes_", .embedded "Studio", true, none⟩]⟩

/-- Albums, and what they hold. -/
def albums : Compiler :=
  ⟨⟨[album,
    ⟨"Track", none, true, [⟨"title", .scalar .string, true, none⟩, ⟨"code", .scalar .string,
      true, some "c.d"⟩]⟩,
    ⟨"Maker", none, true, [⟨"studio", .embedded "Studio", true, none⟩]⟩,
    ⟨"Studio", none, true, [⟨"room", .scalar .json, true, none⟩]⟩]⟩, .usual⟩

/-- The first track of an album. -/
def firstTrack : Access :=
    .index (.column none "tracks" (.embeddedArray "Track")) 0 (.embedded "Track")

/-- The albums for which a path compares with a value. -/
def albumsBy (path : String) (v : Value) : Query :=
    (Query.all "Album").addFilter (.lookup path (.literal v))

/-- The albums for which a path that starts with a computed column compares with a value. -/
def albumsNamed (name path named : String) (v : Value) : Query :=
  ((Query.all "Album").annotate name (.field path)).addFilter (.lookup named (.literal v))

/-- An album with a track, and one without. -/
def twoAlbums : Store :=
  ⟨[("album", [.object [("_id", .int 1),
    ("tracks", .array [.object [("title", .string "Overture")]])], .object [("_id", .int 2)]])]⟩

/-- What is read of the two albums as their first track is no array. -/
theorem twoAlbums_splits (doc : Value) (hdoc : doc ∈ twoAlbums.collection "album") :
    firstTrack.Splits [.key "title" (.scalar .string)] false doc := by
  have hdocs : ∀ doc ∈ twoAlbums.collection "album", doc.items? = none ∧
      Stage.succeedsWith (fun v => typeName? v != "array") (firstTrack.render.evalOn doc) =
        true := by decide +kernel
  have hopens : ∀ {front name}, Move.Opens [.key "title" (.scalar .string)] front name →
      front = [] ∧ name = "title" := by
    rintro front name ⟨-, type, back, hmoves⟩
    cases front with
    | nil => cases hmoves; exact ⟨rfl, rfl⟩
    | cons move front => simp at hmoves
  refine ⟨(hdocs doc hdoc).1, fun hpath => absurd hpath (by decide),
    fun _ front name h items heval => ?_, fun _ front name h => ?_, by simp⟩
  · obtain ⟨rfl, rfl⟩ := hopens h
    have hread := (hdocs doc hdoc).2
    rw [← Access.along_nil firstTrack, heval] at hread
    simp [Stage.succeedsWith, typeName?, Value.typeName] at hread
  · obtain ⟨rfl, rfl⟩ := hopens h
    decide

/-- The first album is found by the title of its first track, and by that of the computed
column. -/
theorem twoAlbums_by_name :
    ∃ a a' rows rows', albums.compile (albumsBy "tracks__0__title" (.string "Overture")) =
      .ok a ∧ albums.compile (albumsNamed "first" "tracks__0" "first__title"
      (.string "Overture")) = .ok a' ∧ twoAlbums.aggregate a.collection a.pipeline = .ok rows ∧
      twoAlbums.aggregate a'.collection a'.pipeline = .ok rows' ∧ rows.length = 1 ∧
      albums.OfSame twoAlbums "album" (Query.all "Album")
        ((Query.all "Album").annotate "first" (.field "tracks__0")) rows rows' := by
  obtain ⟨a, ha, hrun⟩ : ∃ a,
    albums.compile (albumsBy "tracks__0__title" (.string "Overture")) = .ok a ∧
      Stage.succeedsWith (fun rows => rows.length == 1) (twoAlbums.aggregate a.collection
          a.pipeline) = true :=
    ⟨_, rfl, by decide +kernel⟩
  have hruns : Stage.succeedsWith
      (fun a' => Stage.succeedsWith (fun _ => true) (twoAlbums.aggregate
        a'.collection a'.pipeline))
      (albums.compile (albumsNamed "first" "tracks__0" "first__title" (.string "Overture"))) =
          true := by decide +kernel
  obtain ⟨a', ha', hrun'⟩ := Stage.exists_of_succeedsWith hruns
  obtain ⟨rows, hrows, hlength⟩ := Stage.exists_of_succeedsWith hrun
  obtain ⟨rows', hrows', -⟩ := Stage.exists_of_succeedsWith hrun'
  have hpath : albums.resolveField (.ofModel album) "tracks__0" = (.ok ⟨firstTrack, .exact, []⟩,
    .ofModel album) := rfl
  have hlocal : ∀ f, album.field? ((Text.segments "tracks__0").headD "") = some f →
      f.kind.isRelation = false := by
    intro f hf
    obtain rfl : f = ⟨"tracks", .embeddedArray "Track", true, none⟩ :=
      Option.some.inj (hf.symm.trans rfl)
    rfl
  have hfiltered : Text.segments "tracks__0__title" = Text.segments "tracks__0" ++
    ["title"] := by decide +kernel
  have hnamed : Text.segments "first__title" = "first" :: ["title"] := by decide +kernel
  obtain ⟨r, moves, b, hresolve, hmoves, hb, hsame⟩ := filter_by_name hpath hlocal rfl rfl
    (by decide) (by decide) hfiltered hnamed ha
  obtain rfl := Except.ok.inj (ha'.symm.trans hb)
  have htitle : albums.resolveLookup (.ofModel album) "tracks__0__title" =
      (.ok ⟨firstTrack.along [.key "title" (.scalar .string)], .exact, []⟩, .ofModel album) :=
          rfl
  obtain rfl := Except.ok.inj (congrArg Prod.fst (hresolve.symm.trans htitle))
  obtain rfl := Access.along_injective firstTrack hmoves
  exact ⟨a, a', rows, rows', ha, ha', hrows, hrows', eq_of_beq hlength,
    hsame twoAlbums rows rows' hrows hrows' twoAlbums_splits⟩

/-- How many rows a query returns. -/
def rowCount? (c : Compiler) (s : Store) (q : Query) : Option Nat :=
  match c.compile q with
  | .ok a => (s.aggregate a.collection a.pipeline).toOption.map List.length
  | .error _ => none

theorem exists_of_rowCount? {q : Query} {n : Nat} (h : c.rowCount? s q = some n) :
    ∃ rows, c.Returns s q rows ∧ rows.length = n := by
  unfold rowCount? at h
  split at h
  · rename_i a ha
    cases hrun : s.aggregate a.collection a.pipeline with
    | error error => simp [hrun, Except.toOption] at h
    | ok rows => exact ⟨rows, ⟨a, ha, hrun⟩, by simpa [hrun, Except.toOption] using h⟩
  · cases h

/-- Whether filters by a path and by a column that holds what is in front of its end select
different albums. -/
def SelectApart (s : Store) (path filtered name named : String) (v : Value) : Prop :=
  ∃ r rows rows', albums.resolveField (.ofModel album) path = (.ok r, .ofModel album) ∧
    albums.Returns s (albumsBy filtered v) rows ∧
      albums.Returns s (albumsNamed name path named v) rows' ∧
    ¬albums.OfSame s "album" (Query.all "Album") ((Query.all "Album").annotate name
      (.field path)) rows rows'

theorem selectApart_of_rowCount? {s : Store} {path filtered name named : String} {v : Value}
    {r : Resolved} {n k : Nat}
    (hpath : albums.resolveField (.ofModel album) path = (.ok r, .ofModel album))
    (h : albums.rowCount? s (albumsBy filtered v) = some n)
    (h' : albums.rowCount? s (albumsNamed name path named v) = some k) (hne : n ≠ k) :
    SelectApart s path filtered name named v := by
  obtain ⟨rows, hrows, rfl⟩ := exists_of_rowCount? h
  obtain ⟨rows', hrows', rfl⟩ := exists_of_rowCount? h'
  exact ⟨r, rows, rows', hpath, hrows, hrows', fun hsame => hne (hsame.length_eq (m :=
    album) rfl hpath)⟩

/-- A single album. -/
def oneAlbum (fields : Document) : Store := ⟨[("album", [.object (("_id", .int 1) :: fields)])]⟩

/-- A filter by a computed column selects other albums than the filter by what it holds, or does
not compile. -/
theorem albums_apart :
    -- there is no first track, so that its title is null, while the column of the first track
    -- has no title
    SelectApart (oneAlbum []) "tracks__0" "tracks__0__title" "first" "first__title" .null ∧
    -- where an array stands for the first track, only the path behind the column goes on in it
    SelectApart (oneAlbum
      [("tracks", .array [.array [.object [("title", .string "Overture")]]])])
      "tracks__0" "tracks__0__title__isnull" "first" "first__title__isnull" (.bool false) ∧
    -- only the path behind the column goes on in the name of a field with a point
    SelectApart (oneAlbum [("tracks", .array [.object [("c", .object [("d", .string "A1")])]])])
      "tracks__0" "tracks__0__code__isnull" "first" "first__code__isnull" (.bool false) ∧
    -- the path goes on in an array that is in an array, and behind the column it does not
    SelectApart (oneAlbum
      [("maker", .array [.object [("studio", .array [.object [("room", .int 1)]])]])])
      "maker__studio" "maker__studio__room" "studio" "studio__room" (.array []) ∧
    -- a document that is an array becomes a document when a column is added
    SelectApart ⟨[("album", [.array []])]⟩ "tracks__0" "tracks__0__isnull" "first"
      "first__isnull" (.bool false) ∧
    -- the column is read as the whole document, or inside of another one
    SelectApart (oneAlbum []) "notes" "notes__isnull" "$ROOT" "$ROOT__isnull" (.bool false) ∧
    SelectApart (oneAlbum [("a", .object [("b", .int 1)])]) "notes" "notes__isnull" "a.b"
      "a.b__isnull" (.bool false) ∧
    -- the end of the path and what follows are read as other names
    SelectApart (oneAlbum [("notes", .object [("_room", .int 1)])])
      "notes_" "notes___room" "place" "place__room" (.int 1) ∧
    -- the name of the column is no name in a path
    (∃ a, albums.compile (albumsBy "notes__isnull" (.bool false)) = .ok a) ∧
    albums.compile (albumsNamed "" "notes" "__isnull" (.bool false)) =
      .error (.invalidPath "__isnull") ∧
    albums.compile (albumsNamed "a__b" "notes" "a__b__isnull" (.bool false)) =
      .error (.fieldDoesNotExist "Album" "a") ∧
    albums.compile (albumsNamed "a_" "notes" "a___isnull" (.bool false)) =
      .error (.fieldDoesNotExist "Album" "a") ∧
    -- a column that holds something of each track is not compared with anything
    (∃ a, albums.compile (albumsBy "tracks__title" (.string "Overture")) = .ok a) ∧
    albums.compile (albumsNamed "titles" "tracks__title" "titles" (.string "Overture")) =
      .error (.invalidPath "exact") := by
  refine ⟨?_, ?_, ?_, ?_, ?_, ?_, ?_, ?_, ⟨_, rfl⟩, rfl, rfl, rfl, ⟨_, rfl⟩, rfl⟩
  · exact selectApart_of_rowCount? (n := 1) (k := 0) rfl (by decide +kernel)
      (by decide +kernel) (by decide)
  · exact selectApart_of_rowCount? (n := 0) (k := 1) rfl (by decide +kernel)
      (by decide +kernel) (by decide)
  · exact selectApart_of_rowCount? (n := 0) (k := 1) rfl (by decide +kernel)
      (by decide +kernel) (by decide)
  · exact selectApart_of_rowCount? (n := 0) (k := 1) rfl (by decide +kernel)
      (by decide +kernel) (by decide)
  · exact selectApart_of_rowCount? (n := 0) (k := 1) rfl (by decide +kernel)
      (by decide +kernel) (by decide)
  · exact selectApart_of_rowCount? (n := 0) (k := 1) rfl (by decide +kernel)
      (by decide +kernel) (by decide)
  · exact selectApart_of_rowCount? (n := 0) (k := 1) rfl (by decide +kernel)
      (by decide +kernel) (by decide)
  · exact selectApart_of_rowCount? (n := 1) (k := 0) rfl (by decide +kernel)
      (by decide +kernel) (by decide)

end Compiler

end DocQuery
