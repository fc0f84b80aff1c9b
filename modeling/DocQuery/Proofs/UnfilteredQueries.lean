import DocQuery.Proofs.Derivations
import DocQuery.Proofs.KeyFilters
set_option autoImplicit false

/-!
# Proofs: queries without a filter

A query without a filter returns a row for each document that its joins do not drop.  A join
drops a document if it keeps none without a match and its relation leads nowhere from the
document.  In a store where foreign keys refer to documents, this only happens behind a relation
that may be null.
-/

namespace DocQuery

open Value

/-! ## Documents that are dropped -/

/-- Whether a relation leads nowhere from a document. -/
def Store.lacks (store : Store) (s : Schema) (m : Model) (doc : Value)
    (names : List String) : Bool :=
  (s.relations? m names).any fun route => (store.follow? doc route.1).isNone

namespace Query

/-- Whether a query drops a document: a path goes through a relation that leads nowhere from it
and that has to have a match. -/
def Drops (c : Compiler) (m : Model) (store : Store) (q : Query) (doc : Value) : Prop :=
  ∃ u ∈ q.uses, ∃ x ∈ u.crossings c.schema m, x.2.nullable = false ∧
    (∀ v ∈ q.uses, v.GoesThrough c.schema m x.1 → ¬v.KeepsUnmatched c m) ∧
    store.lacks c.schema m doc x.1 = true

instance (c : Compiler) (m : Model) (store : Store) (q : Query) (doc : Value) :
    Decidable (q.Drops c m store doc) :=
  inferInstanceAs (Decidable (∃ u ∈ q.uses, _))

/-- Whether a query asks for all documents of its model. -/
structure IsWhole (q : Query) : Prop extends q.IsUncut where
  filter : q.filter = none

end Query

/-! ## Joins -/

namespace Compiler

variable {c : Compiler} {m : Model} {q : Query}

/-- The joins of a query drop the documents that the query drops. -/
theorem loses_iff_drops {p : Plan} {final : Context} {hops : List Hop} {store : Store}
    (hplan : c.planWith (.ofModel m) q (fun ctx => c.compileAnnotations [] ctx q.annotations)
      (fun ctx => c.compileCondition ctx q.filter) = .ok (p, final))
    (hfinal : final.JoinsHops c.schema m hops) (doc : Value) :
    Hop.Loses store hops final.joins doc ↔ q.Drops c m store doc := by
  obtain ⟨-, hrelations, -⟩ := joinsFor_plan (.inl rfl) hplan
  constructor
  · rintro ⟨⟨hop, entry⟩, hpair, hinner, hmissing⟩
    obtain ⟨hhop, hentry⟩ := List.of_mem_zip hpair
    obtain ⟨htext, target, hroute⟩ := hfinal.leads.route hop hhop
    have hpath := (List.forall₂_zip hfinal.joins hpair).path
    obtain ⟨u, hu, x, hx, hsame⟩ := (hrelations entry.1).mp (List.mem_map_of_mem hentry)
    obtain ⟨hsegments, hfield⟩ := Use.segments_of_mem_crossings hx
    obtain ⟨f, hf, hkind⟩ := kind_of_plan (.inl rfl) hplan hentry
    have hnames : x.1 = hop.names := by rw [← hsegments, ← hsame, hpath, htext]
    rw [hsame, hsegments] at hf hkind
    rw [hfield] at hf
    rw [← Option.some.inj hf, hinner] at hkind
    simp only [reduceCtorEq, false_iff, not_or, Bool.not_eq_true, not_exists, not_and] at hkind
    exact ⟨u, hu, x, hx, hkind.1, hkind.2, by simp [Store.lacks, hnames, hroute, hmissing]⟩
  · rintro ⟨u, hu, x, hx, hnullable, hkept, hlacks⟩
    obtain ⟨hsegments, hfield⟩ := Use.segments_of_mem_crossings hx
    obtain ⟨entry, hentry, hpath⟩ := List.mem_map.mp ((hrelations _).mpr ⟨u, hu, x, hx, rfl⟩)
    obtain ⟨hop, hpair, hdescribes⟩ :=
      (List.exists_mem_zip_of_forall₂ hfinal.joins).2 entry hentry
    obtain ⟨htext, target, hroute⟩ := hfinal.leads.route hop (List.of_mem_zip hpair).1
    obtain ⟨f, hf, hkind⟩ := kind_of_plan (.inl rfl) hplan hentry
    have hnames : hop.names = x.1 := by rw [← hsegments, ← hpath, hdescribes.path, htext]
    rw [hpath, hsegments] at hf hkind
    rw [hfield] at hf
    refine ⟨(hop, entry), hpair, ?_, ?_⟩
    · cases hentryKind : entry.2.kind with
      | inner => rfl
      | left =>
        rcases hkind.mp hentryKind with hnull | ⟨v, hv, hthrough, hkeeps⟩
        · simp [← Option.some.inj hf, hnullable] at hnull
        · exact absurd hkeeps (hkept v hv hthrough)
    · rw [hnames] at hroute
      simpa [Store.lacks, hroute] using hlacks

/-! ## Rows -/

/-- A query without a filter has no condition. -/
theorem Derivation.condition_eq_none (d : c.Derivation m q) (hfilter : q.filter = none) :
    d.condition = none := by
  have hfilters := d.filters
  rw [hfilter] at hfilters
  exact (congrArg Prod.fst (Except.ok.inj hfilters)).symm

/-- The joins of a query make a row of each document that the query does not drop. -/
theorem Derivation.run_joins (d : c.Derivation m q) {hops : List Hop}
    (hfinal : d.final.JoinsHops c.schema m hops)
    (hm : m ∈ c.schema.models) (hplain : c.schema.hasPlainCollections = true)
    (hkeys : c.schema.hasMatchingKeys = true) (hconfig : '.' ∉ c.config.parentPrefix.toList)
    {store : Store}
    (hkeyed : c.schema.IsKeyed store)
    (hdocs : ∀ doc ∈ store.collection m.collection, doc.items? = none) :
    ∃ joined : Value → Option Value,
      Stage.runAll store (d.final.joins.flatMap fun j => j.2.stages c.config) []
        (store.collection m.collection) =
          .ok ((store.collection m.collection).filterMap joined) ∧
      ∀ doc ∈ store.collection m.collection, (∀ row, joined doc = some row →
        Hop.RowOf c.schema m hops store doc row) ∧
        (joined doc = none ↔ q.Drops c m store doc) := by
  obtain ⟨joined, hjoins, hrows⟩ := Hop.run_joins_kinds hfinal.leads hfinal.joins
    (hfinal.leads.isPlain hplain hm) hm hkeys hkeyed hconfig hdocs
  exact ⟨joined, hjoins, fun doc hdoc =>
    ⟨(hrows doc hdoc).1, (hrows doc hdoc).2.trans (loses_iff_drops d.planWith_eq hfinal doc)⟩⟩

/-- A query for all documents returns the identity of each document that it does not drop. -/
theorem compile_whole_finds {a : Aggregation} {store : Store} {rows : List Value}
    (hm : c.queryableModel q.model = .ok m) (hplain : c.schema.hasPlainCollections = true)
    (hkeys : c.schema.hasMatchingKeys = true)
    (hid : "_id" ∈ m.columns ∨ ∀ t ∈ c.schema.models, t.collection ≠ "_id")
    (hconfig : '.' ∉ c.config.parentPrefix.toList)
    (hsubqueries : '.' ∉ c.config.subqueryPrefix.toList)
    (hkeyed : c.schema.IsKeyed store)
    (hdocs : ∀ doc ∈ store.collection m.collection, doc.items? = none)
    (hwhole : q.IsWhole) (hshows : c.ShowsIdentities m q) (h : c.compile q = .ok a)
    (hrun : store.aggregate a.collection a.pipeline = .ok rows) :
    (rows.map fun row => row.field? "_id").Perm
      (((store.collection m.collection).filter fun doc => !decide (q.Drops c m store doc)).map
        fun doc => doc.field? "_id") := by
  obtain ⟨d, hcollection, hpipeline⟩ := exists_derivation hm hwhole.toIsUncut h
  have hmem : m ∈ c.schema.models :=
    List.mem_of_find?_eq_some ((queryableModel_eq_ok_iff c q.model m).mp hm).1
  obtain ⟨hops, hfinal⟩ := d.exists_hops hplain hmem
  obtain ⟨joined, hjoins, hrows⟩ := d.run_joins hfinal hmem hplain hkeys hconfig hkeyed hdocs
  rw [Store.aggregate, hcollection, hpipeline, Derivation.pipeline, d.condition_eq_none
    hwhole.filter] at hrun
  obtain ⟨between, hbetween, hrest⟩ := Stage.runAll_append_ok hrun
  obtain rfl := Except.ok.inj (hjoins.symm.trans hbetween)
  obtain ⟨added, hadded, hfinish⟩ := Stage.runAll_append_ok hrest
  have hadding := (d.adds hshows hsubqueries).1
  have hitems : ∀ row ∈ (store.collection m.collection).filterMap joined,
      row.items? = none := by
    intro row hrow
    obtain ⟨doc, hdoc, hjoined⟩ := List.mem_filterMap.mp hrow
    exact ((hrows doc hdoc).1 row hjoined).items
  refine (d.identities_of_finishing hshows hsubqueries (Stage.items_of_adding hadding hitems
    hadded) hfinish).trans (.of_eq ?_)
  rw [Stage.identities_of_runAll (fun s hs => (hadding s hs).2) hadded]
  have hkept : (store.collection m.collection).filterMap joined =
      ((store.collection m.collection).filter fun doc =>
          !decide (q.Drops c m store doc)).filterMap joined := by
    rw [List.filterMap_filter]
    refine List.filterMap_congr fun doc hdoc => ?_
    cases hjoined : joined doc with
    | none => simp
    | some row =>
      have hnot : ¬q.Drops c m store doc := by
        rw [← (hrows doc hdoc).2, hjoined]
        simp
      simp [hnot]
  rw [hkept]
  refine map_filterMap_of_same fun doc hdoc => ?_
  obtain ⟨hdoc, hnot⟩ := List.mem_filter.mp hdoc
  cases hjoined : joined doc with
  | none => simp [(hrows doc hdoc).2.mp hjoined] at hnot
  | some row => exact ⟨row, rfl, ((hrows doc hdoc).1 row hjoined).own "_id" (Hop.isOwn_id hid)⟩

end Compiler

end DocQuery
