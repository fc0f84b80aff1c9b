import DocQuery.Proofs.AddedPaths
import DocQuery.Proofs.MirroredDerivations
set_option autoImplicit false

/-!
# Proofs: queries that follow one more path

A query that loads one more relation, or is put in order by one more path, joins more documents,
and what is compiled behind the path mirrors what is compiled without it.  Each row that its
joins make agrees with a row that is made without the path, so its stages do the same, apart
from the one that computes the new key of an order.
-/

namespace DocQuery

open Value

/-! ## Contexts -/

namespace Context

variable {config : Config} {start ctx after final final' : Context}

/-- A context mirrors what one more path makes of it. -/
theorem Mirrors.beside (h : Grow config ctx ctx after after) (hctx : Mirrors config ctx ctx)
    (halike : Alike ctx after) : Mirrors config ctx after where
  model := halike.model
  annotations := halike.annotations
  count := halike.count
  outer := hctx.outer
  joined := fun a ha => ⟨a.2, h.first.aliases ha⟩
  first := hctx.first
  second := h.mirrors.first
  names := hctx.names

/-- What is compiled before a path is followed mirrors itself, and what is compiled behind the
path mirrors what is compiled without it. -/
theorem subqueryStages_beside (hstart : start.subqueryStages = [])
    (hbefore : Grow config start start ctx ctx)
    (hpath : Grow config ctx ctx after after) (halike : Alike ctx after)
    (hbehind : Grow config ctx after final final') :
    List.Forall₂ (Stage.Mirrors (Pairs config final final')) final.subqueryStages
        final'.subqueryStages := by
  obtain ⟨stages, others, hstages, hothers, hsame⟩ := hbefore.stages
  rw [hstart, List.nil_append] at hstages hothers
  obtain ⟨pushed, pushed', hpushed, hpushed', hmirrors⟩ := hbehind.stages
  rw [hpushed, hpushed', halike.stages]
  refine List.rel_append ?_ hmirrors
  rw [← hstages, ← hothers] at hsame
  refine hsame.imp fun _ _ hs => hs.mono fun x x' hx => hbehind.pairs x x' (hx.imp_right ?_)
  exact fun ⟨text, hold, hnew⟩ => ⟨text, hold, hpath.first.aliases hnew⟩

end Context

namespace Compiler

open Context (Grow Pairs Traced Alike)

variable {c : Compiler} {ctx ctx' : Context} {path : String} {m : Model}
  {q more : Query} {added : Use}

/-! ## Aliases -/

/-- What the joins on a path keep is kept by the path. -/
theorem follow_keeps {P : Context → Prop}
    (hjoin : ∀ (ctx : Context) (text : String) (parent : Option String)
      (f : Field) (t : Model) (k : Field), t ∈ c.schema.models → P ctx →
        P (ctx.join text parent f t k).2)
    {place : Place} {names : List String} {joins : List Nat} {e : Ending} (hctx : P ctx)
    (h : c.follow path place names joins ctx = (.ok e, ctx')) : P ctx' := by
  induction names generalizing place joins ctx with
  | nil =>
    cases place with
    | document m joined relation => simp [follow] at h
    | value a => exact (follow_value_nil_ok h).2 ▸ hctx
  | cons name rest ih =>
    cases place with
    | value a => exact follow_value_context h ▸ hctx
    | document m joined relation =>
      obtain ⟨_, _, f, hnames, -, hcase⟩ := follow_document_ok h
      obtain ⟨rfl, rfl⟩ := List.cons.inj hnames
      rcases hcase with ⟨-, hcolumn⟩ | ⟨_, _, _, target, k, -, ht, -, -, hrest⟩
      · exact follow_value_context hcolumn ▸ hctx
      · exact ih (hjoin _ _ _ _ _ _ (List.mem_of_find?_eq_some ht) hctx) hrest

/-- The names that joined documents can get: those of collections, and numbered ones. -/
def NamesJoin (c : Compiler) (name : String) : Prop :=
  (∃ t ∈ c.schema.models, name = t.collection) ∨ ∃ n, name = Context.numberedAlias n

/-- The aliases of the joins that paths make are names that joined documents can get. -/
theorem traced_aliases {us : List Use} (h : Traced c ctx us ctx')
    (hctx : ∀ a ∈ ctx.aliases, c.NamesJoin a.2) : ∀ a ∈ ctx'.aliases, c.NamesJoin a.2 := by
  induction h with
  | quiet hmodel hjoins => rwa [Context.aliases, hjoins]
  | @use ctx after u e _ _ hpath =>
    have hjoin : ∀ (ctx : Context) (text : String) (parent : Option String) (f : Field)
      (t : Model) (k : Field), t ∈ c.schema.models → (∀ a ∈ ctx.aliases, c.NamesJoin a.2) →
          ∀ a ∈ (ctx.join text parent f t k).2.aliases, c.NamesJoin a.2 := by
      intro ctx text parent f t k ht hctx a ha
      rcases (Context.aliases_join ctx text parent f t k).2.2 a ha with hold | rfl
      · exact hctx a hold
      · exact (Context.freshAlias_cases ctx t.collection).imp (fun hname => ⟨t, ht, hname⟩) id
    have hafter : ∀ a ∈ after.aliases, c.NamesJoin a.2 := by
      obtain ⟨name, rest, -, -, hstart⟩ := followPath_ok hpath
      rcases hstart with ⟨type, -, hvalue⟩ | ⟨-, hfollow⟩
      · rw [follow_value_context hvalue, Context.aliases_refer]
        exact hctx
      · exact follow_keeps hjoin hctx hfollow
    unfold Context.noteUse
    split
    · rwa [Context.aliases_promote]
    · exact hafter
  | append _ _ ihfirst ihrest => exact ihrest (ihfirst hctx)
  | listed _ _ ih => exact ih hctx

/-! ## Derivations -/

theorem loadRelations_snoc_ok {related : List String} {relation : String}
    (h : c.loadRelations ctx (related ++ [relation]) = .ok ctx') :
    ∃ mid e type, c.loadRelations ctx related = .ok mid ∧
      c.fieldExpr mid (Text.extendPath relation keyName) = .ok ((e, type), ctx') := by
  induction related generalizing ctx with
  | nil =>
    obtain ⟨e, type, after, he, hrest⟩ := loadRelations_cons_ok h
    obtain rfl := Except.ok.inj hrest
    exact ⟨ctx, e, type, rfl, he⟩
  | cons first rest ih =>
    obtain ⟨e, type, after, he, hrest⟩ := loadRelations_cons_ok h
    obtain ⟨mid, e', type', hmid, he'⟩ := ih hrest
    exact ⟨mid, e', type', by simp only [loadRelations, he, hmid], he'⟩

theorem sortKeys_snoc_ok {index : Nat} {orderBy : List OrderKey} {k : OrderKey}
    {keys : List (String × Direction)}
    {computed : Document}
    (h : c.sortKeys ctx index (orderBy ++ [k]) = .ok ((keys, computed), ctx')) :
    ∃ keys' computed' mid e type extra, c.sortKeys ctx index orderBy =
      .ok ((keys', computed'), mid) ∧ c.fieldExpr mid k.path = .ok ((e, type), ctx') ∧
      computed = computed' ++ extra ∧
      (extra = [] ∨ extra = [(orderField (index + orderBy.length), e)]) := by
  induction orderBy generalizing ctx index keys computed with
  | nil =>
    obtain ⟨e, type, after, _, _, he, hrest, hcomputed⟩ := sortKeys_cons_ok h
    obtain ⟨hpair, rfl⟩ := Prod.mk.inj (Except.ok.inj hrest)
    obtain ⟨rfl, rfl⟩ := Prod.mk.inj hpair
    exact ⟨[], [], ctx, e, type, computed, rfl, he, rfl, hcomputed⟩
  | cons first rest ih =>
    rw [List.cons_append] at h
    obtain ⟨e, type, after, keys₁, computed₁, he, hrest, -⟩ := sortKeys_cons_ok h
    obtain ⟨keys', computed', mid, e', type', extra, hmid, he', rfl, hextra⟩ := ih hrest
    have hindex : index + 1 + rest.length = index + (first :: rest).length := by
      rw [List.length_cons]
      omega
    rw [hindex] at hextra
    simp only [sortKeys, he, hrest] at h
    simp only [sortKeys, he, hmid]
    cases hpath : storedPath? e with
    | some stored =>
      simp only [hpath, Except.ok.injEq, Prod.mk.injEq, and_true] at h
      exact ⟨_, computed', mid, e', type', extra, rfl, he', h.2.symm, hextra⟩
    | none =>
      simp only [hpath, Except.ok.injEq, Prod.mk.injEq, and_true] at h
      exact ⟨_, (orderField index, e) :: computed', mid, e', type', extra, rfl, he',
        h.2.symm, hextra⟩

/-- A path that starts at no computed column refers to none. -/
theorem followPath_refs {e : Ending} (hnone : ∀ name, ctx.computedType? name = none)
    (h : c.followPath ctx path = (.ok e, ctx')) : ctx'.annotationRefs = ctx.annotationRefs := by
  obtain ⟨name, rest, -, -, hstart⟩ := followPath_ok h
  rcases hstart with ⟨type, hsome, -⟩ | ⟨-, hfollow⟩
  · simp [hnone] at hsome
  · have hjoin : ∀ (mid : Context) (text : String) (parent : Option String) (f : Field)
      (t : Model) (k : Field), t ∈ c.schema.models → mid.annotationRefs = ctx.annotationRefs →
          (mid.join text parent f t k).2.annotationRefs = ctx.annotationRefs :=
      fun mid text parent f t k _ hrefs => (Context.refs_join mid text parent f t k).trans hrefs
    exact follow_keeps hjoin rfl hfollow

namespace Derivation

/-- Whether what a query is compiled to is mirrored by what another one is compiled to, which
computes some more columns for its order. -/
structure Beside (d : c.Derivation m q) (d' : c.Derivation m more)
    (extra : Document) : Prop where
  contexts : Context.Mirrors c.config d.final d'.final
  subqueries : List.Forall₂ (Stage.Mirrors (Pairs c.config d.final d'.final))
    d.final.subqueryStages d'.final.subqueryStages
  stages : List.Forall₂ (Stage.Mirrors (Pairs c.config d.final d'.final)) d.stages d'.stages
  fields : ∃ others, d'.fields = others ++ extra ∧
    Document.Mirrors (Pairs c.config d.final d'.final) d.fields others
  columns : Document.Mirrors (Pairs c.config d.final d'.final) d.columns d'.columns

section Beside

variable (d : c.Derivation m q) (hplain : c.schema.hasPlainCollections = true)
  (hfields : c.HasOwnFields)
  (hm : m ∈ c.schema.models) (hnames : ∀ name ∈ q.annotations.map (·.1), IsPlainName name)
include hplain hfields hm hnames

/-- One more relation is loaded in front of everything else. -/
theorem beside_related {relation : String} (d' : c.Derivation m (q.addRelated relation)) :
    Beside d d' [] := by
  obtain ⟨model, filter, annotations, values, orderBy, offset, limit, related, union⟩ := q
  have hstart := Context.mirrors_ofModel c.config hplain hm
  obtain ⟨_, hloads, hloaded⟩ := loadRelations_mirrors hplain hfields hstart d.loads
  obtain rfl := Except.ok.inj (hloads.symm.trans d.loads)
  obtain ⟨mid, e, type, hmid, hpath⟩ := loadRelations_snoc_ok d'.loads
  obtain rfl : mid = d.loaded := Except.ok.inj (hmid.symm.trans d.loads)
  obtain ⟨ending, hend, -⟩ := fieldExpr_ok hpath
  have halike := followPath_alike hend
  obtain ⟨_, _, hsame, hadded, -⟩ := fieldExpr_mirrors hplain hfields hloaded.mirrors hpath
  obtain ⟨-, rfl⟩ := Prod.mk.inj (Except.ok.inj (hsame.symm.trans hpath))
  have hnone : ∀ name, d.loaded.computedType? name = none := by
    have hknows : (Context.ofModel m).Knows [] := by
      simp [Context.Knows, Context.computedType?, Context.ofModel, Context.findType]
    have hannotations := (loadRelations_follows hknows rfl d.loads).annotations
    intro name
    rw [Context.computedType?, hannotations]
    rfl
  have hrefs := followPath_refs hnone hend
  -- everything else is compiled in both contexts
  obtain ⟨_, _, hcomputes, hcomputed, hstages⟩ := compileAnnotations_mirrors hplain hfields
    (.beside hadded hloaded.mirrors halike) hrefs hnames .nil d.computes
  obtain ⟨rfl, rfl⟩ := Prod.mk.inj (Except.ok.inj (hcomputes.symm.trans d'.computes))
  obtain ⟨_, _, hfilters, hfiltered, -⟩ := compileCondition_mirrors hplain hfields
    hcomputed.mirrors d.filters
  obtain ⟨rfl, rfl⟩ := Prod.mk.inj (Except.ok.inj (hfilters.symm.trans d'.filters))
  obtain ⟨_, _, _, hsorts, hsorted, hcomputedKeys⟩ := sortKeys_mirrors hplain hfields
    hfiltered.mirrors d.sorts
  obtain ⟨hpair, rfl⟩ := Prod.mk.inj (Except.ok.inj (hsorts.symm.trans d'.sorts))
  obtain ⟨rfl, rfl⟩ := Prod.mk.inj hpair
  obtain ⟨_, _, hreturns, hreturned, hcolumns⟩ := returnedColumns_mirrors hplain hfields
    hsorted.mirrors (fun name hname => hsorted.first.names name (d.names_filtered name hname))
    d.returns
  obtain ⟨rfl, rfl⟩ := Prod.mk.inj (Except.ok.inj (hreturns.symm.trans d'.returns))
  have hbehind := hfiltered.trans (hsorted.trans hreturned)
  exact ⟨hreturned.mirrors, Context.subqueryStages_beside rfl hloaded hadded halike
    (hcomputed.trans hbehind), hstages.imp fun _ _ hs => hs.mono hbehind.pairs,
    ⟨_, (List.append_nil _).symm, hcomputedKeys.mono hreturned.pairs⟩, hcolumns⟩

/-- One more key of the order is found behind all that the order and the filter need. -/
theorem beside_order {k : OrderKey} (d' : c.Derivation m (q.addOrder k)) :
    ∃ extra, Beside d d' extra ∧
        (extra = [] ∨ ∃ e, extra = [(orderField q.orderBy.length, e)]) := by
  obtain ⟨model, filter, annotations, values, orderBy, offset, limit, related, union⟩ := q
  obtain ⟨hgrow, hstages, -⟩ := d.mirrors_itself hplain hfields hm hnames
  obtain ⟨_, _, _, hsorts, hsorted, hcomputed⟩ := sortKeys_mirrors hplain hfields
    hgrow.mirrors d.sorts
  obtain ⟨hpair, rfl⟩ := Prod.mk.inj (Except.ok.inj (hsorts.symm.trans d.sorts))
  obtain ⟨rfl, rfl⟩ := Prod.mk.inj hpair
  -- up to the order the same is compiled
  have hloaded : d'.loaded = d.loaded := Except.ok.inj (d'.loads.symm.trans d.loads)
  have hcomputes := d'.computes
  rw [hloaded] at hcomputes
  obtain ⟨hsame, hcontext⟩ := Prod.mk.inj (Except.ok.inj (hcomputes.symm.trans d.computes))
  have hfilters := d'.filters
  rw [hcontext] at hfilters
  obtain ⟨-, hfiltered⟩ := Prod.mk.inj (Except.ok.inj (hfilters.symm.trans d.filters))
  have hsorts' := d'.sorts
  rw [hfiltered] at hsorts'
  obtain ⟨keys', computed', mid, e, type, extra, hmid, hpath, hall, hextra⟩ :=
    sortKeys_snoc_ok hsorts'
  obtain ⟨hpair, rfl⟩ := Prod.mk.inj (Except.ok.inj (hmid.symm.trans d.sorts))
  obtain ⟨rfl, rfl⟩ := Prod.mk.inj hpair
  obtain ⟨ending, hend, -⟩ := fieldExpr_ok hpath
  have halike := followPath_alike hend
  obtain ⟨_, _, hsamePath, hadded, -⟩ := fieldExpr_mirrors hplain hfields hsorted.mirrors hpath
  obtain ⟨-, rfl⟩ := Prod.mk.inj (Except.ok.inj (hsamePath.symm.trans hpath))
  obtain ⟨_, _, hreturns, hreturned, hcolumns⟩ := returnedColumns_mirrors hplain hfields
    (.beside hadded hsorted.mirrors halike)
    (fun name hname => hsorted.first.names name (d.names_filtered name hname)) d.returns
  obtain ⟨rfl, rfl⟩ := Prod.mk.inj (Except.ok.inj (hreturns.symm.trans d'.returns))
  -- names that are read before the last path are read in the same way behind it
  have hpairs : ∀ x x', Pairs c.config d.sorted d.sorted x x' →
      Pairs c.config d.final d'.final x x' :=
    fun x x' hx => hreturned.pairs x x'
      (hx.imp_right fun ⟨text, hold, hnew⟩ => ⟨text, hold, hadded.first.aliases hnew⟩)
  refine ⟨extra, ⟨hreturned.mirrors,
    Context.subqueryStages_beside rfl (hgrow.trans hsorted) hadded halike hreturned, ?_,
    ⟨d.fields, hall, hcomputed.mono hpairs⟩, hcolumns⟩, hextra.imp_right fun hone =>
      ⟨e, Nat.zero_add orderBy.length ▸ hone⟩⟩
  rw [hsame]
  exact hstages.imp fun _ _ hs => hs.mono fun x x' hx => hpairs x x' (hsorted.pairs x x' hx)

theorem exists_beside (d' : c.Derivation m more) (hadds : q.Adds more added) :
    ∃ extra, Beside d d' extra ∧
      (extra = [] ∨ ∃ k e, more = q.addOrder k ∧
          extra = [(orderField q.orderBy.length, e)]) := by
  cases hadds with
  | related relation => exact ⟨[], d.beside_related hplain hfields hm hnames d', .inl rfl⟩
  | order k =>
    obtain ⟨extra, hbeside, hextra⟩ := d.beside_order hplain hfields hm hnames d'
    exact ⟨extra, hbeside, hextra.imp_right fun ⟨e, he⟩ => ⟨k, e, rfl, he⟩⟩

end Beside

end Derivation

end Compiler

end DocQuery
