import DocQuery.Proofs.UnfilteredQueries
set_option autoImplicit false

/-!
# Proofs: orders and loaded relations lose no rows

A query for all documents that loads one more relation, or is put in order by one more path,
joins more documents.  Where foreign keys refer to documents, this drops none of those that it
returned before, unless the path goes on, behind a document that is missing, with a relation
that has to have a match.
-/

namespace DocQuery

open Value

/-! ## Linked stores -/

namespace Schema

/-- Whether the foreign keys of all documents refer to documents, unless they may be null and
are. -/
def IsLinked (s : Schema) (store : Store) : Prop :=
  ∀ m ∈ s.models, ∀ f ∈ m.fields, ∀ ending ∈ s.link? f, ∀ doc ∈ store.collection m.collection,
    (store.target? ending.1 doc).isSome = true ∨
      f.nullable = true ∧ columnOf (some doc) ending.1.column = none

instance (s : Schema) (store : Store) : Decidable (s.IsLinked store) :=
  inferInstanceAs (Decidable (∀ m ∈ s.models, _))

end Schema

/-- A relation that may not be null leads nowhere only if the relation in front of it does. -/
theorem Store.lacks_dropLast {s : Schema} {m : Model} {store : Store}
    {names : List String} {f : Field}
    {doc : Value} (hm : m ∈ s.models) (hlinked : s.IsLinked store)
    (hdoc : doc ∈ store.collection m.collection) (hfield : s.fieldAlong? m names = some f)
    (hnullable : f.nullable = false) (h : store.lacks s m doc names = true) :
    store.lacks s m doc names.dropLast = true := by
  obtain ⟨⟨links, last⟩, hroute, hnone⟩ := (Option.any_eq_true _ _).mp h
  obtain ⟨front, m', link, hfront, hf, hlink, rfl⟩ := Schema.relations?_fieldAlong hfield hroute
  rw [follow?_snoc] at hnone
  unfold lacks
  rw [hfront, Option.any_some]
  cases hd : store.follow? doc front with
  | none => rfl
  | some d =>
    have hmem := mem_of_follow? hfront hdoc hd
    rcases hlinked m' (Schema.mem_models_of_relations? hm hfront) f hf (link, last) hlink d
      hmem with hsome | hnull
    · simp [hd] at hnone
      simp [hnone] at hsome
    · simp [hnullable] at hnull

/-! ## One more path -/

namespace Query

/-- Whether a query only follows one more path than another one: it loads one more relation, or
has one more key in its order. -/
inductive Adds (q : Query) : Query → Use → Prop where
  | related (relation : String) :
    Adds q (q.addRelated relation) ⟨Text.extendPath relation Compiler.keyName, [], false, false⟩
  | order (k : OrderKey) : Adds q (q.addOrder k) ⟨k.path, q.annotations.map (·.1), false, false⟩

namespace Adds

variable {q more : Query} {added : Use}

theorem mem_uses (h : q.Adds more added) (u : Use) :
    u ∈ more.uses ↔ u ∈ q.uses ∨ u = added := by
  obtain ⟨model, filter, annotations, values, orderBy, offset, limit, related, union⟩ := q
  cases h with
  | related relation =>
    simp only [uses, addRelated, Query.related, references, List.map_append, List.mem_append,
      List.map_cons, List.map_nil, List.mem_singleton, Query.annotations, Query.filter,
      Query.orderBy, Query.values]
    tauto
  | order k =>
    simp only [uses, addOrder, Query.orderBy, references, List.map_append, List.mem_append,
      List.map_cons, List.map_nil, List.mem_singleton, Query.annotations, Query.filter,
      Query.related, Query.values]
    tauto

theorem model (h : q.Adds more added) : more.model = q.model := by
  cases q
  cases h <;> rfl

theorem annotations (h : q.Adds more added) : more.annotations = q.annotations := by
  cases q
  cases h <;> rfl

theorem values (h : q.Adds more added) : more.values = q.values := by
  cases q
  cases h <;> rfl

theorem isWhole (h : q.Adds more added) (hq : q.IsWhole) : more.IsWhole := by
  cases q
  obtain ⟨⟨hoffset, hlimit, hunion⟩, hfilter⟩ := hq
  cases h <;> exact ⟨⟨hoffset, hlimit, hunion⟩, hfilter⟩

/-- The added path is no check for null, and it stands below no disjunction or negation. -/
theorem not_keepsUnmatched (h : q.Adds more added) (c : Compiler) (m : Model) :
    ¬added.KeepsUnmatched c m := by
  cases h <;> simp [Use.KeepsUnmatched, Use.checksNull]

end Adds

/-- Whether an added path goes on, with a relation that has to have a match, only behind
documents that are there. -/
def IsReached (c : Compiler) (m : Model) (store : Store) (q : Query) (added : Use)
    (doc : Value) : Prop :=
  ∀ x ∈ added.crossings c.schema m, x.2.nullable = false →
    (∀ u ∈ q.uses, u.GoesThrough c.schema m x.1 → ¬u.KeepsUnmatched c m) →
    store.lacks c.schema m doc x.1.dropLast = false

instance (c : Compiler) (m : Model) (store : Store) (q : Query) (added : Use) (doc : Value) :
    Decidable (q.IsReached c m store added doc) :=
  inferInstanceAs (Decidable (∀ x ∈ _, _))

/-- In a linked store, one more path drops no more documents. -/
theorem Adds.drops_iff {c : Compiler} {m : Model} {store : Store} {q more : Query}
    {added : Use} {doc : Value}
    (h : q.Adds more added) (hm : m ∈ c.schema.models) (hlinked : c.schema.IsLinked store)
    (hdoc : doc ∈ store.collection m.collection)
    (hreached : ¬q.Drops c m store doc → q.IsReached c m store added doc) :
    more.Drops c m store doc ↔ q.Drops c m store doc := by
  constructor
  · rintro ⟨u, hu, x, hx, hnullable, hunkept, hlacks⟩
    have hkept : ∀ v ∈ q.uses, v.GoesThrough c.schema m x.1 →
        ¬v.KeepsUnmatched c m := fun v hv =>
      hunkept v ((h.mem_uses v).mpr (.inl hv))
    rcases (h.mem_uses u).mp hu with hold | rfl
    · exact ⟨u, hold, x, hx, hnullable, hkept, hlacks⟩
    · by_contra hnot
      have hfront := hreached hnot x hx hnullable hkept
      have hmissing := Store.lacks_dropLast hm hlinked hdoc (Use.segments_of_mem_crossings hx).2
        hnullable hlacks
      simp [hfront] at hmissing
  · rintro ⟨u, hu, x, hx, hnullable, hunkept, hlacks⟩
    refine ⟨u, (h.mem_uses u).mpr (.inl hu), x, hx, hnullable, fun v hv hthrough => ?_, hlacks⟩
    rcases (h.mem_uses v).mp hv with hold | rfl
    · exact hunkept v hold hthrough
    · exact h.not_keepsUnmatched c m

end Query

end DocQuery
