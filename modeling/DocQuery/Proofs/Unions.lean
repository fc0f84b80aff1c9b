import DocQuery.Proofs.Derivations
import DocQuery.Proofs.KeyFilters
set_option autoImplicit false

/-!
# Proofs: united queries

What a query that is united with others is compiled to, and what its stages make of the rows of
the parts.  The other queries are compiled and run by themselves, so what is united is what the
parts return one by one.
-/

namespace DocQuery

/-- What is neither ordered nor cut nor united: all rows that such a query finds are returned as
they are found. -/
structure Query.IsBare (q : Query) : Prop extends q.IsUncut where
  orderBy : q.orderBy = []

/-- The query with an order and a window in place of those that it has. -/
def Query.arranged : Query → List OrderKey → Option Nat → Option Nat → Query
  | .mk m f a v _ _ _ r u, keys, offset, limit => .mk m f a v keys offset limit r u

/-- The documents behind the first ones, as many as there may be. -/
def window (offset limit : Option Nat) (docs : List Value) : List Value :=
  match limit with
  | some n => (docs.drop (offset.getD 0)).take n
  | none => docs.drop (offset.getD 0)

namespace Compiler

variable {c : Compiler} {q : Query} {others : List Query} {keepAll : Bool} {s : Store}
  {m : Model} {p : Plan}
  {ctx : Context}

/-- What a query returns on a store: it compiles, and the pipeline runs. -/
def Returns (c : Compiler) (s : Store) (q : Query) (rows : List Value) : Prop :=
  ∃ a, c.compile q = .ok a ∧ s.aggregate a.collection a.pipeline = .ok rows

theorem Returns.unique {rows rows' : List Value} (h : c.Returns s q rows)
    (h' : c.Returns s q rows') : rows = rows' := by
  obtain ⟨a, ha, hrows⟩ := h
  obtain ⟨b, hb, hothers⟩ := h'
  obtain rfl := Except.ok.inj (ha.symm.trans hb)
  exact Except.ok.inj (hrows.symm.trans hothers)

/-! ## Plans -/

/-- The plan of a query on a model of its own. -/
def planOf (c : Compiler) (m : Model) (q : Query) : Except CompileError (Plan × Context) :=
  c.planWith (.ofModel m) q (fun ctx => c.compileAnnotations [] ctx q.annotations)
    (fun ctx => c.compileCondition ctx q.filter)

theorem planOf_ok_iff :
    c.planOf m q = .ok (p, ctx) ↔ ∃ d : c.Derivation m q, p = d.plan ∧ ctx = d.final := by
  constructor
  · intro h
    obtain ⟨loaded, stages, computed, condition, filtered, keys, fields, sorted, columns,
      hloaded, hcomputed, hfiltered, hsorted, hreturned, rfl⟩ := planWith_ok h
    exact ⟨⟨loaded, stages, computed, condition, filtered, keys, fields, sorted, columns, ctx,
      hloaded, hcomputed, hfiltered, hsorted, hreturned⟩, rfl, rfl⟩
  · rintro ⟨d, rfl, rfl⟩
    exact d.planWith_eq

/-- The queries that a query is united with have no part in its plan. -/
theorem planOf_unite (m : Model) : c.planOf m (q.unite others keepAll) = c.planOf m q := by
  cases q
  rfl

theorem Derivation.of_bare (hq : q.IsBare) (d : c.Derivation m q) :
    d.keys = [] ∧ d.fields = [] ∧ d.sorted = d.filtered := by
  have hsorted := d.sorts
  rw [hq.orderBy, sortKeys] at hsorted
  obtain ⟨hpair, hctx⟩ := Prod.mk.inj (Except.ok.inj hsorted)
  obtain ⟨hkeys, hfields⟩ := Prod.mk.inj hpair
  exact ⟨hkeys.symm, hfields.symm, hctx.symm⟩

/-- Whether an order only reads columns of the documents of a model, for which nothing is joined
and nothing computed. -/
def SortsInPlace (c : Compiler) (m : Model) (known : List String) (keys : List OrderKey) :
    Prop :=
  ∀ ctx : Context, ctx.model = m → ctx.Knows known → ∃ sorted, c.sortKeys ctx 0 keys =
    .ok (sorted, ctx)

theorem sortsInPlace_nil (c : Compiler) (m : Model) (known : List String) :
    c.SortsInPlace m known [] :=
  fun _ _ _ => ⟨([], []), rfl⟩

section Arranged

variable {keys : List OrderKey} (hq : q.IsBare)
  (hkeys : c.SortsInPlace m (q.annotations.map (·.1)) keys)
  (offset limit : Option Nat)
include hq hkeys

/-- Such an order, and a window, leave the other parts of a plan as they are. -/
theorem planOf_arranged (h : c.planOf m q = .ok (p, ctx)) : ∃ order,
    c.planOf m (q.arranged keys offset limit) =
      .ok ({ p with order := order, window := windowOf offset limit }, ctx) := by
  obtain ⟨d, rfl, rfl⟩ := planOf_ok_iff.mp h
  obtain ⟨hknown, -, hmodel⟩ := d.knows
  obtain ⟨⟨found, fields⟩, hsorts⟩ := hkeys d.filtered hmodel hknown
  have hreturns := d.returns
  rw [(d.of_bare hq).2.2] at hreturns
  cases q
  exact ⟨_, planOf_ok_iff.mpr ⟨⟨d.loaded, d.stages, d.computed, d.condition, d.filtered, found,
    fields, d.filtered, d.columns, d.final, d.loads, d.computes, d.filters, hsorts,
    hreturns⟩, rfl, rfl⟩⟩

theorem exists_planOf_of_arranged
    (h : c.planOf m (q.arranged keys offset limit) = .ok (p, ctx)) :
    ∃ p', c.planOf m q = .ok (p', ctx) := by
  obtain ⟨d, -, rfl⟩ := planOf_ok_iff.mp h
  obtain ⟨hknown, -, hmodel⟩ := d.knows
  have hbare : c.sortKeys d.filtered 0 q.orderBy = .ok (([], []), d.filtered) := by
    rw [hq.orderBy]
    rfl
  cases q
  obtain ⟨_, hsorts⟩ := hkeys d.filtered hmodel hknown
  obtain ⟨-, hsorted⟩ := Prod.mk.inj (Except.ok.inj (hsorts.symm.trans d.sorts))
  have hreturns := d.returns
  rw [← hsorted] at hreturns
  exact ⟨_, planOf_ok_iff.mpr ⟨⟨d.loaded, d.stages, d.computed, d.condition, d.filtered, [], [],
    d.filtered, d.columns, d.final, d.loads, d.computes, d.filters, hbare, hreturns⟩, rfl, rfl⟩⟩

end Arranged

/-- A bare query has no stages that order or cut. -/
theorem planOf_bare (hq : q.IsBare) (h : c.planOf m q = .ok (p, ctx)) :
    p.order = [] ∧ p.window = [] := by
  obtain ⟨d, rfl, rfl⟩ := planOf_ok_iff.mp h
  obtain ⟨hkeys, hfields, -⟩ := d.of_bare hq
  simp [Derivation.plan, hkeys, hfields, addColumns, sortBy, hq.offset, hq.limit, windowOf]

/-! ## Compilation -/

theorem compile_ok_iff (hunion : q.union = none) {a : Aggregation} :
    c.compile q = .ok a ↔ ∃ m p ctx, c.queryableModel q.model = .ok m ∧
      c.planOf m q = .ok (p, ctx) ∧ a = ⟨m.collection, c.single ctx p⟩ := by
  rw [compile_eq]
  constructor
  · intro h
    obtain ⟨m, p, ctx, hm, hp, hstages, hcollection⟩ := queryWith_ok h
    simp only [assembleWith, hunion] at hstages
    obtain ⟨collection, pipeline⟩ := a
    obtain rfl : collection = m.collection := hcollection
    obtain rfl : c.single ctx p = pipeline := Except.ok.inj hstages
    exact ⟨m, p, ctx, hm, hp, rfl⟩
  · rintro ⟨m, p, ctx, hm, hp, rfl⟩
    unfold planOf at hp
    simp only [queryWith, hm, hp, assembleWith, hunion]

theorem compile_unite_ok_iff {u : Aggregation} :
    c.compile (q.unite others keepAll) = .ok u ↔ ∃ m p ctx stages,
      c.queryableModel q.model = .ok m ∧ c.planOf m q = .ok (p, ctx) ∧
      c.compileOthers others = .ok stages ∧ u = ⟨m.collection, c.united ctx p q.orderBy stages
      keepAll⟩ := by
  have hunion : (q.unite others keepAll).union = some (others, keepAll) := by cases q; rfl
  have hmodel : (q.unite others keepAll).model = q.model := by cases q; rfl
  have horder : (q.unite others keepAll).orderBy = q.orderBy := by cases q; rfl
  have hplan : ∀ m, c.planWith (.ofModel m) (q.unite others keepAll)
      (fun ctx => c.compileAnnotations [] ctx (q.unite others keepAll).annotations)
      (fun ctx => c.compileCondition ctx (q.unite others keepAll).filter) = c.planOf m q :=
          fun m => planOf_unite m
  rw [compile_eq]
  constructor
  · intro h
    obtain ⟨m, p, ctx, hm, hp, hstages, hcollection⟩ := queryWith_ok h
    rw [hmodel] at hm
    rw [hplan] at hp
    simp only [assembleWith, hunion, compileUnion, horder] at hstages
    cases hothers : c.compileOthers others with
    | error e => simp [hothers] at hstages
    | ok stages =>
      simp only [hothers] at hstages
      obtain ⟨collection, pipeline⟩ := u
      obtain rfl : collection = m.collection := hcollection
      obtain rfl : c.united ctx p q.orderBy stages keepAll = pipeline := Except.ok.inj hstages
      exact ⟨m, p, ctx, stages, hm, hp, rfl, rfl⟩
  · rintro ⟨m, p, ctx, stages, hm, hp, hothers, rfl⟩
    simp only [queryWith, hmodel, hm, hplan, hp, assembleWith, hunion, compileUnion,
      hothers, horder]

/-- The other queries compile together if each of them does. -/
theorem exists_compileOthers_iff :
    (∃ stages, c.compileOthers others = .ok stages) ↔ ∀ o ∈ others, ∃ a,
        c.compile o = .ok a := by
  induction others with
  | nil => simp [compileOthers]
  | cons o rest ih =>
    rw [List.forall_mem_cons, ← ih]
    cases ho : c.compile o with
    | error e => simp [compileOthers, ho]
    | ok a => cases hrest : c.compileOthers rest <;> simp [compileOthers, ho, hrest]

/-! ## Running -/

/-- Stages behind others run on what those make of the documents. -/
theorem runAll_append_ok_iff {first rest : List Stage} {vars : Document}
    {docs rows : List Value} : Stage.runAll s (first ++ rest) vars docs = .ok rows ↔
      ∃ between, Stage.runAll s first vars docs = .ok between ∧
          Stage.runAll s rest vars between = .ok rows := by
  refine ⟨Stage.runAll_append_ok, ?_⟩
  rintro ⟨between, hfirst, hrest⟩
  rw [Stage.runAll_append, hfirst]
  exact hrest

theorem runAll_windowOf (offset limit : Option Nat) (vars : Document) (docs : List Value) :
    Stage.runAll s (windowOf offset limit) vars docs = .ok (window offset limit docs) := by
  cases offset <;> cases limit <;> simp [windowOf, window, Stage.runAll, Stage.run]

theorem run_unionWith (a : Aggregation) (docs : List Value) :
    Stage.run s (.unionWith a.collection a.pipeline) [] docs =
      (s.aggregate a.collection a.pipeline).map fun added => docs ++ added := by
  rw [Stage.run, Store.aggregate]
  cases Stage.runAll s a.pipeline [] (s.collection a.collection) <;> rfl

/-- The rows of the other queries come behind those that are there, query by query. -/
theorem runAll_others_iff {stages : List Stage} (h : c.compileOthers others = .ok stages)
    {docs rows : List Value} : Stage.runAll s stages [] docs = .ok rows ↔
      ∃ rest, List.Forall₂ (c.Returns s) others rest ∧ rows = docs ++ rest.flatten := by
  induction others generalizing stages docs with
  | nil =>
    obtain rfl : [] = stages := by simpa [compileOthers] using h
    simp [Stage.runAll, eq_comm]
  | cons o others ih =>
    obtain ⟨a, behind, ha, hbehind, rfl⟩ := compileOthers_cons_ok h
    rw [Stage.runAll, run_unionWith]
    cases hadded : s.aggregate a.collection a.pipeline with
    | error e =>
      refine iff_of_false (by simp [Except.map]) ?_
      rintro ⟨rest, hrest, -⟩
      obtain ⟨first, _, ⟨b, hb, hfirst⟩, -, -⟩ := List.forall₂_cons_left_iff.mp hrest
      obtain rfl := Except.ok.inj (ha.symm.trans hb)
      simp [hadded] at hfirst
    | ok added =>
      have hreturns : c.Returns s o added := ⟨a, ha, hadded⟩
      simp only [Except.map, ih hbehind]
      constructor
      · rintro ⟨rest, hrest, rfl⟩
        exact ⟨added :: rest, .cons hreturns hrest, by simp⟩
      · rintro ⟨rest, hrest, rfl⟩
        obtain ⟨first, last, hfirst, hlast, rfl⟩ := List.forall₂_cons_left_iff.mp hrest
        obtain rfl := hfirst.unique hreturns
        exact ⟨last, hlast, by simp⟩

/-- The rows of a bare query and of those that it is united with, one after the other.  This is
what the stages in front of the removal of duplicates, the order and the window make. -/
def Gathers (c : Compiler) (s : Store) (q : Query) (others : List Query)
    (rows : List Value) : Prop :=
  ∃ first rest, c.Returns s q first ∧ List.Forall₂ (c.Returns s) others rest ∧
    rows = first ++ rest.flatten

theorem Gathers.unique {rows rows' : List Value} (h : c.Gathers s q others rows)
    (h' : c.Gathers s q others rows') : rows = rows' := by
  obtain ⟨first, rest, hfirst, hrest, rfl⟩ := h
  obtain ⟨first', rest', hfirst', hrest', rfl⟩ := h'
  obtain rfl := hfirst.unique hfirst'
  have hsame : rest = rest' := by
    clear hfirst hfirst'
    induction hrest generalizing rest' with
    | nil =>
      cases hrest'
      rfl
    | cons hone _ ih =>
      obtain ⟨added, more, hadded, hmore, rfl⟩ := List.forall₂_cons_left_iff.mp hrest'
      rw [hone.unique hadded, ih more hmore]
  rw [hsame]

/-- The stages that gather the rows of the parts. -/
def gathering (c : Compiler) (ctx : Context) (p : Plan) (stages : List Stage) : List Stage :=
  c.source ctx p ++ [.project (projectionOf p.columns)] ++ stages

theorem runAll_gathering_iff (hq : q.IsBare) {stages : List Stage}
    (hm : c.queryableModel q.model = .ok m)
    (hp : c.planOf m q = .ok (p, ctx)) (hothers : c.compileOthers others = .ok stages)
    {rows : List Value} :
    Stage.runAll s (c.gathering ctx p stages) [] (s.collection m.collection) = .ok rows ↔
      c.Gathers s q others rows := by
  have hfirst : ∀ first, Stage.runAll s (c.source ctx p ++ [.project (projectionOf p.columns)])
    [] (s.collection m.collection) = .ok first ↔ c.Returns s q first := by
    obtain ⟨horder, hwindow⟩ := planOf_bare hq hp
    have hcompile : c.compile q = .ok ⟨m.collection, c.single ctx p⟩ :=
      (compile_ok_iff hq.union).mpr ⟨m, p, ctx, hm, hp, rfl⟩
    have hsingle : c.single ctx p = c.source ctx p ++ [.project (projectionOf p.columns)] := by
      simp [single, horder, hwindow]
    intro first
    constructor
    · exact fun h => ⟨_, hcompile, by rw [hsingle]; exact h⟩
    · rintro ⟨a, ha, hrows⟩
      obtain rfl := Except.ok.inj (hcompile.symm.trans ha)
      rw [hsingle] at hrows
      exact hrows
  rw [gathering, runAll_append_ok_iff]
  simp only [hfirst, runAll_others_iff hothers]
  constructor
  · rintro ⟨first, hreturns, rest, hrest, rfl⟩
    exact ⟨first, rest, hreturns, hrest, rfl⟩
  · rintro ⟨first, rest, hreturns, hrest, rfl⟩
    exact ⟨first, hreturns, rest, hrest, rfl⟩

/-! ## What a union returns -/

/-- The names of the columns that a query projects its rows to. -/
def Projects (c : Compiler) (q : Query) (names : List String) : Prop :=
  ∃ m p ctx, c.queryableModel q.model = .ok m ∧ c.planOf m q = .ok (p, ctx) ∧
    names = Document.names (projectionOf p.columns)

theorem Projects.unique {names names' : List String} (h : c.Projects q names)
    (h' : c.Projects q names') : names = names' := by
  obtain ⟨m, p, ctx, hm, hp, rfl⟩ := h
  obtain ⟨m', p', ctx', hm', hp', rfl⟩ := h'
  obtain rfl := Except.ok.inj (hm.symm.trans hm')
  obtain ⟨rfl, -⟩ := Prod.mk.inj (Except.ok.inj (hp.symm.trans hp'))
  rfl

/-- The rows that a union keeps of those that it gathers: all, or one of those that are alike in
the columns of the first query. -/
def Keeps (c : Compiler) (s : Store) (q : Query) (keepAll : Bool) (gathered kept : List Value) :
    Prop :=
  if keepAll then kept = gathered
  else ∃ names, c.Projects q names ∧ Stage.runAll s (distinct names) [] gathered = .ok kept

theorem sorted_nil (docs : List Value) : Stage.sorted [] docs = docs :=
  List.mergeSort_of_pairwise (List.pairwise_of_forall fun _ _ => rfl)

theorem runAll_sortBy (keys : List (String × Direction)) (vars : Document) (docs : List Value) :
    Stage.runAll s (sortBy keys) vars docs = .ok (Stage.sorted keys docs) := by
  cases keys with
  | nil => rw [sorted_nil]; rfl
  | cons key rest => rfl

section Arranged

variable {keys : List OrderKey} (hq : q.IsBare)
  (hkeys : ∀ m, c.queryableModel q.model = .ok m →
    c.SortsInPlace m (q.annotations.map (·.1)) keys)
include hq hkeys

theorem compile_arranged_ok_iff {offset limit : Option Nat} {u : Aggregation} :
    c.compile ((q.unite others keepAll).arranged keys offset limit) = .ok u ↔
      ∃ m p ctx stages, c.queryableModel q.model = .ok m ∧ c.planOf m q = .ok (p, ctx) ∧
        c.compileOthers others = .ok stages ∧
        u = ⟨m.collection, c.gathering ctx p stages ++
          ((if keepAll then [] else distinct (Document.names (projectionOf p.columns))) ++
            (sortBy (namedKeys keys) ++ windowOf offset limit))⟩ := by
  have hshape : (q.unite others keepAll).arranged keys offset limit =
      (q.arranged keys offset limit).unite others keepAll := by cases q; rfl
  have hmodel : (q.arranged keys offset limit).model = q.model := by cases q; rfl
  have horder : (q.arranged keys offset limit).orderBy = keys := by cases q; rfl
  have hstages : ∀ (ctx : Context) (p : Plan) (order stages : List Stage),
      c.united ctx { p with order := order, window := windowOf offset limit } keys
        stages keepAll = c.gathering ctx p stages ++
        ((if keepAll then [] else distinct (Document.names (projectionOf p.columns))) ++
          (sortBy (namedKeys keys) ++ windowOf offset limit)) := fun ctx p order stages => by
    simp only [united, gathering, source, List.append_assoc]
  rw [hshape, compile_unite_ok_iff, hmodel, horder]
  constructor
  · rintro ⟨m, p, ctx, stages, hm, hp, hothers, rfl⟩
    obtain ⟨p', hp'⟩ := exists_planOf_of_arranged hq (hkeys m hm) offset limit hp
    obtain ⟨order, harranged⟩ := planOf_arranged hq (hkeys m hm) offset limit hp'
    obtain ⟨rfl, -⟩ := Prod.mk.inj (Except.ok.inj (hp.symm.trans harranged))
    exact ⟨m, p', ctx, stages, hm, hp', hothers, by rw [hstages]⟩
  · rintro ⟨m, p, ctx, stages, hm, hp, hothers, rfl⟩
    obtain ⟨order, harranged⟩ := planOf_arranged hq (hkeys m hm) offset limit hp
    exact ⟨m, _, ctx, stages, hm, harranged, hothers, by rw [hstages]⟩

/-- A union compiles if all its parts do. -/
theorem exists_compile_arranged_iff (offset limit : Option Nat) :
    (∃ u, c.compile ((q.unite others keepAll).arranged keys offset limit) = .ok u) ↔
      (∃ a, c.compile q = .ok a) ∧ ∀ o ∈ others, ∃ a, c.compile o = .ok a := by
  simp only [compile_arranged_ok_iff hq hkeys, ← exists_compileOthers_iff,
    compile_ok_iff hq.union]
  constructor
  · rintro ⟨u, m, p, ctx, stages, hm, hp, hothers, -⟩
    exact ⟨⟨_, m, p, ctx, hm, hp, rfl⟩, stages, hothers⟩
  · rintro ⟨⟨a, m, p, ctx, hm, hp, -⟩, stages, hothers⟩
    exact ⟨_, m, p, ctx, stages, hm, hp, hothers, rfl⟩

/-- A union gathers the rows of its parts, keeps all or different ones, sorts these by the
columns that its keys are called like, and cuts the window. -/
theorem returns_arranged_iff (offset limit : Option Nat) {rows : List Value} :
    c.Returns s ((q.unite others keepAll).arranged keys offset limit) rows ↔
      ∃ gathered kept, c.Gathers s q others gathered ∧ c.Keeps s q keepAll gathered kept ∧
        rows = window offset limit (Stage.sorted (namedKeys keys) kept) := by
  have hbehind : ∀ {kept rows : List Value},
      Stage.runAll s (sortBy (namedKeys keys) ++ windowOf offset limit) [] kept = .ok rows ↔
        rows = window offset limit (Stage.sorted (namedKeys keys) kept) := fun {kept rows} => by
    rw [runAll_append_ok_iff]
    simp only [runAll_sortBy, runAll_windowOf, Except.ok.injEq, exists_eq_left']
    exact eq_comm
  constructor
  · rintro ⟨u, hu, hrows⟩
    obtain ⟨m, p, ctx, stages, hm, hp, hothers, rfl⟩ := (compile_arranged_ok_iff hq hkeys).mp hu
    obtain ⟨gathered, hgathered, hrest⟩ := Stage.runAll_append_ok hrows
    obtain ⟨kept, hkept, hlast⟩ := Stage.runAll_append_ok hrest
    refine ⟨gathered, kept, (runAll_gathering_iff hq hm hp hothers).mp hgathered, ?_,
      hbehind.mp hlast⟩
    cases keepAll with
    | true => exact (Except.ok.inj hkept).symm
    | false => exact ⟨_, ⟨m, p, ctx, hm, hp, rfl⟩, hkept⟩
  · rintro ⟨gathered, kept, hgathers, hkeeps, hrows⟩
    obtain ⟨first, rest, hfirst, hrest, -⟩ := id hgathers
    obtain ⟨m, p, ctx, hm, hp, -⟩ := (compile_ok_iff hq.union).mp hfirst.choose_spec.1
    obtain ⟨stages, hothers⟩ : ∃ stages, c.compileOthers others = .ok stages := by
      refine exists_compileOthers_iff.mpr fun o ho => ?_
      obtain ⟨rows, -, a, ha, -⟩ := (List.exists_mem_zip_of_forall₂ hrest).1 o ho
      exact ⟨a, ha⟩
    refine ⟨_, (compile_arranged_ok_iff hq hkeys).mpr ⟨m, p, ctx, stages, hm, hp, hothers, rfl⟩,
      ?_⟩
    refine runAll_append_ok_iff.mpr ⟨_, (runAll_gathering_iff hq hm hp hothers).mpr hgathers,
      ?_⟩
    refine runAll_append_ok_iff.mpr ⟨kept, ?_, hbehind.mpr hrows⟩
    cases keepAll with
    | true =>
      obtain rfl : kept = gathered := hkeeps
      rfl
    | false =>
      obtain ⟨names, hnames, hkept⟩ := hkeeps
      obtain rfl := hnames.unique ⟨m, p, ctx, hm, hp, rfl⟩
      exact hkept

end Arranged

theorem IsBare.arranged_unite (hq : q.IsBare) :
    (q.unite others keepAll).arranged [] none none = q.unite others keepAll := by
  obtain ⟨model, filter, annotations, values, orderBy, offset, limit, related, union⟩ := q
  obtain rfl : orderBy = [] := hq.orderBy
  obtain rfl : offset = none := hq.offset
  obtain rfl : limit = none := hq.limit
  rfl

/-- A union of a bare query compiles if all its parts do. -/
theorem exists_compile_unite_iff (hq : q.IsBare) :
    (∃ u, c.compile (q.unite others keepAll) = .ok u) ↔
    (∃ a, c.compile q = .ok a) ∧ ∀ o ∈ others, ∃ a, c.compile o = .ok a := by
  rw [← IsBare.arranged_unite hq]
  exact exists_compile_arranged_iff hq (fun m _ => sortsInPlace_nil c m _) none none

theorem returns_unite_iff (hq : q.IsBare) {rows : List Value} :
    c.Returns s (q.unite others keepAll) rows ↔
    ∃ gathered, c.Gathers s q others gathered ∧ c.Keeps s q keepAll gathered rows := by
  rw [← IsBare.arranged_unite hq, returns_arranged_iff hq (fun m _ => sortsInPlace_nil c m _)]
  simp only [namedKeys, List.map_nil, sorted_nil, window, Option.getD_none, List.drop_zero]
  constructor
  · rintro ⟨gathered, kept, hgathers, hkeeps, rfl⟩
    exact ⟨gathered, hgathers, hkeeps⟩
  · rintro ⟨gathered, hgathers, hkeeps⟩
    exact ⟨gathered, rows, hgathers, hkeeps, rfl⟩

/-! ## Unions that keep all rows -/

/-- A union that keeps all rows returns the rows of the query and then those of each of the
others, in order; a window cuts these rows.  It compiles if all its parts do. -/
theorem unite_all_concatenates (hq : q.IsBare) (others : List Query)
    (offset limit : Option Nat) :
    ((∃ u, c.compile ((q.unite others true).arranged [] offset limit) = .ok u) ↔
      (∃ a, c.compile q = .ok a) ∧ ∀ o ∈ others, ∃ a, c.compile o = .ok a) ∧
    ∀ s rows, c.Returns s ((q.unite others true).arranged [] offset limit) rows ↔
      ∃ first rest, c.Returns s q first ∧ List.Forall₂ (c.Returns s) others rest ∧
        rows = window offset limit (first ++ rest.flatten) := by
  have hkeys : ∀ m, c.queryableModel q.model = .ok m → c.SortsInPlace m
      (q.annotations.map (·.1)) [] :=
    fun m _ => sortsInPlace_nil c m _
  refine ⟨exists_compile_arranged_iff hq hkeys offset limit, fun s rows => ?_⟩
  rw [returns_arranged_iff hq hkeys]
  simp only [Keeps, if_true, namedKeys, List.map_nil, sorted_nil]
  constructor
  · rintro ⟨_, _, ⟨first, rest, hfirst, hrest, rfl⟩, rfl, rfl⟩
    exact ⟨first, rest, hfirst, hrest, rfl⟩
  · rintro ⟨first, rest, hfirst, hrest, rfl⟩
    exact ⟨_, _, ⟨first, rest, hfirst, hrest, rfl⟩, rfl, rfl⟩

/-- The names of the people. -/
def namesOfPeople : Query := (Query.all "Person").withValues ["name"]

/-- The names of the teams behind the first one. -/
def namesOfTeams : Query := ((Query.all "Team").withValues ["name"]).withOffset 1

/-- The second and third of the names of people, teams and people again. -/
theorem annAndBob_then_teams :
    staff.Returns annAndBob
      ((namesOfPeople.unite [namesOfTeams, namesOfPeople.unite [] true] true).arranged []
        (some 1) (some 2))
      [.object [("_id", .int 2), ("name", .string "Bob")],
          .object [("name", .string "B")]] := by
  have hpeople : ∀ q ∈ [namesOfPeople, namesOfPeople.unite [] true], staff.Returns annAndBob q
      [.object [("_id", .int 1), ("name", .string "Ann")],
          .object [("_id", .int 2), ("name", .string "Bob")]] :=
    List.forall_mem_cons.mpr ⟨⟨_, rfl, rfl⟩, List.forall_mem_singleton.mpr ⟨_, rfl, rfl⟩⟩
  have hteams : staff.Returns annAndBob namesOfTeams [.object [("name", .string "B")]] :=
    ⟨_, rfl, rfl⟩
  exact ((unite_all_concatenates ⟨⟨rfl, rfl, rfl⟩, rfl⟩ _ (some 1) (some 2)).2 annAndBob _).mpr
    ⟨_, _, hpeople _ (by simp), .cons hteams (.cons (hpeople _ (by simp)) .nil), rfl⟩

end Compiler

end DocQuery
