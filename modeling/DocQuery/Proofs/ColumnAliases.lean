import DocQuery.Proofs.ColumnStages
import DocQuery.Proofs.WidenedQueries
set_option autoImplicit false

/-!
# Proofs: computed columns and joined documents

A join gets an alias that no column has, stored or computed until then.  A column that is
computed later is not kept apart from the aliases:  where it has the name of one, it takes the
place of the joined document, and otherwise the joined document stays.
-/

namespace DocQuery

namespace Document

theorem nodup_names_insert {d : Document} (h : d.names.Nodup) (key : String) (v : Value) :
    (insert d key v).names.Nodup := by
  induction d with
  | nil => simp [insert, names]
  | cons m rest ih =>
    obtain ⟨k, w⟩ := m
    obtain ⟨hfirst, hrest⟩ := List.nodup_cons.mp h
    by_cases hk : k = key
    · simpa [insert, hk, names] using List.nodup_cons.mpr ⟨hk ▸ hfirst, hrest⟩
    · simp only [insert, hk, if_false]
      refine List.nodup_cons.mpr ⟨fun hmem => ?_, ih hrest⟩
      exact (mem_names_insert.mp hmem).elim hfirst hk

end Document

/-! ## Computed fields -/

namespace Stage

variable {store : Store} {vars : Document} {row out : Value} {name : String}

theorem field?_foldl_setComputed_mem {results : List (String × Option Value)}
    (hnodup : (results.map (·.1)).Nodup)
    (hdots : ∀ r ∈ results, '.' ∉ r.1.toList) {v : Option Value} (hmem : (name, v) ∈ results)
    (doc : Value) :
    (results.foldl setComputed doc).field? name = v := by
  induction results generalizing doc with
  | nil => simp at hmem
  | cons r rest ih =>
    obtain ⟨hfirst, hothers⟩ := List.nodup_cons.mp hnodup
    obtain ⟨hdot, hothersDots⟩ := List.forall_mem_cons.mp hdots
    rcases List.mem_cons.mp hmem with rfl | hrest
    · have hlater : ∀ t ∈ rest, Value.Spares t.1 name := fun t ht =>
        Value.spares_of_plain (hothersDots t ht) fun heq =>
          hfirst (List.mem_map.mpr ⟨t, ht, heq⟩)
      rw [List.foldl_cons, field?_foldl_setComputed hlater, field?_setComputed_self hdot]
    · exact ih hothers hothersDots hrest _

/-- Each field is computed by its expression. -/
theorem exists_computed {scope : Scope} {fields : Document} {e : Value}
    {results : List (String × Option Value)}
    (hmem : (name, e) ∈ fields) (h : computed scope fields = .ok results) :
    ∃ v, (name, v) ∈ results ∧ e.eval scope = .ok v := by
  induction fields generalizing results with
  | nil => simp at hmem
  | cons m rest ih =>
    obtain ⟨x, body⟩ := m
    obtain ⟨v, others, hv, hothers, rfl⟩ := computed_cons_ok h
    rcases List.mem_cons.mp hmem with heq | hrest
    · obtain ⟨rfl, rfl⟩ := Prod.mk.inj heq
      exact ⟨v, List.mem_cons_self, hv⟩
    · obtain ⟨w, hw, heval⟩ := ih hrest hothers
      exact ⟨w, List.mem_cons_of_mem _ hw, heval⟩

/-- A computed field holds what its expression evaluates to. -/
theorem eval_of_addComputed {fields : Document} {e : Value} (hnodup : fields.names.Nodup)
    (hdots : ∀ x ∈ fields.names, '.' ∉ x.toList) (hmem : (name, e) ∈ fields)
    (hout : addComputed fields vars row = .ok out) :
        e.eval ⟨row, vars⟩ = .ok (out.field? name) := by
  unfold addComputed at hout
  obtain ⟨results, hresults, rfl⟩ := exists_of_map_eq_ok hout
  obtain ⟨v, hv, heval⟩ := exists_computed hmem hresults
  have hnames := names_computed hresults
  rw [field?_foldl_setComputed_mem (hnames ▸ hnodup) (fun r hr =>
    hdots r.1 (hnames ▸ List.mem_map_of_mem hr)) hv]
  exact heval

end Stage

/-! ## Aliases -/

/-- A context that gathers more widens. -/
theorem Context.Gathers.widens {ctx ctx' : Context} (h : Gathers ctx ctx') (config : Config) :
    Widens config ctx ctx' where
  aliases := h.aliases
  names := by
    rintro x (hcolumn | hannotation | ⟨k, hk, rfl⟩)
    · exact .inl (h.model ▸ hcolumn)
    · exact .inr (.inl (h.annotations ▸ hannotation))
    · exact .inr (.inr ⟨k, Nat.lt_of_lt_of_le hk h.count, rfl⟩)
  annotations := by rw [h.annotations]; exact List.Subset.refl _
  fresh := h.fresh

namespace Compiler

variable {c : Compiler} {ctx ctx' final : Context} {name : String}

theorem compileAlone_widens {annotations : List (String × Expr)} {stages : List Stage}
    (h : c.compileAlone ctx annotations = .ok (stages, ctx')) :
    Context.Widens c.config ctx ctx' ∧ annotations.map (·.1) ⊆ ctx'.annotations.map (·.1) := by
  induction annotations generalizing ctx stages with
  | nil =>
    rw [compileAlone] at h
    obtain ⟨-, rfl⟩ := Prod.mk.inj (Except.ok.inj h)
    exact ⟨.refl _ _, List.nil_subset _⟩
  | cons annotation rest ih =>
    obtain ⟨name, body⟩ := annotation
    obtain ⟨v, type, after, others, hv, hothers, -⟩ := compileAlone_cons_ok h
    obtain ⟨hmore, hnames⟩ := ih hothers
    have hfirst := (compileExpr_reads ctx body hv).gathers.widens c.config
    have hafter := widens_addAnnotation c.config after name type
    refine ⟨(hfirst.trans hafter).trans hmore, ?_⟩
    exact List.cons_subset.mpr ⟨hmore.annotations (mem_names_setType.mpr (.inr rfl)), hnames⟩

/-- Columns are compiled one after another. -/
theorem compileAlone_append_ok {first rest : List (String × Expr)} {stages : List Stage}
    (h : c.compileAlone ctx (first ++ rest) = .ok (stages, ctx')) :
    ∃ front mid back, c.compileAlone ctx first = .ok (front, mid) ∧
      c.compileAlone mid rest = .ok (back, ctx') ∧ stages = front ++ back := by
  induction first generalizing ctx stages with
  | nil => exact ⟨[], ctx, stages, rfl, h, rfl⟩
  | cons annotation others ih =>
    obtain ⟨name, body⟩ := annotation
    obtain ⟨v, type, after, stages', hv, hstages', rfl⟩ := compileAlone_cons_ok h
    obtain ⟨front, mid, back, hfront, hback, rfl⟩ := ih hstages'
    exact ⟨.addFields [(name, v)] :: front, mid, back, by simp only [compileAlone, hv, hfront],
      hback, rfl⟩

/-- A column is computed by the last stage that sets it. -/
theorem exists_stage_of_column {pending : Document} {annotations : List (String × Expr)}
    {stages : List Stage}
    (hnodup : pending.names.Nodup)
    (h : c.compileAnnotations pending ctx annotations = .ok (stages, ctx'))
    (hname : name ∈ pending.names ∨ name ∈ annotations.map (·.1)) :
    ∃ front fields back, stages = front ++ .addFields fields :: back ∧ fields.names.Nodup ∧
      name ∈ fields.names ∧ ∀ s ∈ back, name ∉ s.targets := by
  induction annotations generalizing pending ctx stages with
  | nil =>
    rw [compileAnnotations] at h
    obtain ⟨rfl, rfl⟩ := Prod.mk.inj (Except.ok.inj h)
    have hpending : name ∈ pending.names := by simpa using hname
    cases pending with
    | nil => simp [Document.names] at hpending
    | cons m rest => exact ⟨[], m :: rest, [], rfl, hnodup, hpending, by simp⟩
  | cons annotation rest ih =>
    obtain ⟨other, body⟩ := annotation
    obtain ⟨v, type, after, -, hrest⟩ := compileAnnotations_cons_ok h
    rcases hrest with ⟨others, hothers, rfl⟩ | ⟨-, hothers⟩
    · by_cases hlater : name = other ∨ name ∈ rest.map (·.1)
      · obtain ⟨front, fields, back, rfl, hfields⟩ :=
          ih (by simp [Document.names]) hothers (by simpa [Document.names] using hlater)
        exact ⟨.addFields pending :: front, fields, back, rfl, hfields⟩
      · have hpending : name ∈ pending.names := by
          rw [List.map_cons, List.mem_cons] at hname
          exact hname.resolve_right hlater
        refine ⟨[], pending, others, rfl, hnodup, hpending, fun s hs hmem => hlater ?_⟩
        simpa [Document.names] using compileAnnotations_targets hothers s hs name hmem
    · refine ih (Document.nodup_names_insert hnodup other v) hothers ?_
      rw [Document.mem_names_insert]
      rw [List.map_cons, List.mem_cons] at hname
      tauto

/-- The names that joined documents can get can stand in paths as they are. -/
theorem NamesJoin.isPlainName (hplain : c.schema.hasPlainCollections = true)
    (h : c.NamesJoin name) : IsPlainName name := by
  rcases h with ⟨t, ht, rfl⟩ | ⟨n, rfl⟩
  · obtain ⟨hdots, hdollars, -⟩ := Schema.plain_of_hasPlainCollections hplain ht
    exact ⟨hdots, isOperatorName_of_notMem hdollars⟩
  · exact ⟨notMem_numbered (by decide) (by decide) n, isOperatorName_numbered (by decide) n⟩

section Plans

variable {m : Model} {start : Context} {q : Query} {p : Plan} {loaded computed : Context}

/-- A join has the name of a computed column exactly if it had it when the column was compiled:
one that is made later gets another alias. -/
theorem mem_aliases_iff {before after : List (String × Expr)} {body : Expr}
    {stages : List Stage} (hannotations : q.annotations = before ++ (name, body) :: after)
    (hstages : c.compileAnnotations [] loaded q.annotations = .ok (stages, computed))
    (hlater : Context.Gathers computed final) :
    ∃ alone mid, c.compileAlone loaded (before ++ [(name, body)]) = .ok (alone, mid) ∧
      ∀ path, (path, name) ∈ final.aliases ↔ (path, name) ∈ mid.aliases := by
  obtain ⟨alone, halone⟩ := exists_compileAlone hstages
  rw [hannotations, List.append_cons] at halone
  obtain ⟨front, mid, back, hfront, hback, -⟩ := compileAlone_append_ok halone
  have hname : name ∈ mid.annotations.map (·.1) := (compileAlone_widens hfront).2 (by simp)
  have hwidens := (compileAlone_widens hback).1.trans (hlater.widens c.config)
  exact ⟨front, mid, hfront, fun path =>
    ⟨fun hmem => (hwidens.fresh _ hmem).resolve_right fun hnone => hnone hname, fun hmem =>
      hwidens.aliases hmem⟩⟩

section Columns

variable {stages : List Stage} (hnames : ∀ x ∈ q.annotations.map (·.1), IsPlainName x)
  (hstages : c.compileAnnotations [] loaded q.annotations = .ok (stages, computed))
include hnames hstages

theorem dots_targets : ∀ s ∈ stages, ∀ x ∈ s.targets, '.' ∉ x.toList := by
  intro s hs x hx
  have hmem := compileAnnotations_targets hstages s hs x hx
  exact (hnames x (by simpa [Document.names] using hmem)).1

/-- What is read behind the name of no computed column is read as before. -/
theorem read_beside_columns (hplain : IsPlainName name) (hname : name ∉ q.annotations.map (·.1))
    {store : Store} {vars : Document} {row out : Value} (hrow : row.items? = none)
    (hrun : Stage.runAll store stages vars [row] = .ok [out]) (column : String) :
    (Value.string ("$" ++ name ++ "." ++ column)).eval ⟨out, vars⟩ =
      (Value.string ("$" ++ name ++ "." ++ column)).eval ⟨row, vars⟩ := by
  have hkeeps : ∀ s ∈ stages, s.Keeps name :=
    compileAnnotations_keeps (by simp [Document.names])
      (fun x hx => Value.spares_of_plain (hnames x hx).1 fun heq => hname (heq ▸ hx)) hstages
  have hadds := compileAnnotations_addsFields hstages
  have hagree : Value.Agree (fun x x' => x = x' ∧ x = name) out row := by
    refine ⟨Stage.items?_of_runAll hadds hrow hrun, hrow, ?_⟩
    rintro x _ ⟨rfl, rfl⟩
    exact Stage.field?_of_runAll hkeeps hrun
  exact (Value.Mirrors.columnPath (R := fun x x' => x = x' ∧ x = name) ⟨rfl, rfl⟩ hplain hplain
    column).eval_eq hagree vars

/-- The field of a computed column holds what the column evaluates to, whatever the row held
there. -/
theorem read_column (hname : name ∈ q.annotations.map (·.1)) :
    ∃ front fields back v, stages = front ++ .addFields fields :: back ∧ (name, v) ∈ fields ∧
      ∀ (store : Store) (vars : Document) (row out : Value),
        Stage.runAll store stages vars [row] = .ok [out] →
        ∃ between, Stage.runAll store front vars [row] = .ok [between] ∧
          v.eval ⟨between, vars⟩ = .ok (out.field? name) := by
  obtain ⟨front, fields, back, rfl, hnodup, hfield, hback⟩ :=
    exists_stage_of_column (by simp [Document.names]) hstages (.inr hname)
  obtain ⟨v, hmem⟩ : ∃ v, (name, v) ∈ fields := by simpa [Document.names] using hfield
  have hdots := dots_targets hnames hstages
  have hrowwise : ∀ s ∈ front ++ .addFields fields :: back, s.IsRowwise := fun s hs =>
    Stage.isRowwise_of_addsFields (compileAnnotations_addsFields hstages s hs)
  have hkeeps : ∀ s ∈ back, s.Keeps name := by
    intro s hs
    have hlater : s ∈ front ++ .addFields fields :: back :=
      List.mem_append_right _ (List.mem_cons_of_mem _ hs)
    obtain ⟨others, rfl⟩ := compileAnnotations_addFields hstages s hlater
    refine Stage.keeps_addFields fun x hx => Value.spares_of_plain (hdots _ hlater x hx) ?_
    rintro rfl
    exact hback _ hs hx
  refine ⟨front, fields, back, v, rfl, hmem, fun store vars row out hrun => ?_⟩
  obtain ⟨hfront, hlast⟩ := List.forall_mem_append.mp hrowwise
  obtain ⟨between, hbetween, hrest⟩ := Stage.runAll_row_append hfront hrun
  obtain ⟨next, hnext, hbehind⟩ := Stage.runAll_row_cons (List.forall_mem_cons.mp hlast).1 hrest
  rw [Stage.run, Stage.each_ok_iff, List.forall₂_cons] at hnext
  refine ⟨between, hbetween, ?_⟩
  rw [Stage.field?_of_runAll hkeeps hbehind]
  refine Stage.eval_of_addComputed hnodup (hdots (.addFields fields) ?_) hmem hnext.1
  exact List.mem_append_right _ List.mem_cons_self

end Columns

/-- Which joined documents are still there behind the computed columns of a query.  A join has
the name of a computed column only if it was made when the column was compiled, so not if it is
made for a filter, an order or returned columns; a join that does is replaced by the column, and
the columns of the other joined documents are read as before. -/
theorem plan_spares_joins (hstart : start = .ofModel m ∨ start = .ofSubquery m)
    (h : c.planWith start q (fun ctx => c.compileAnnotations [] ctx q.annotations)
      (fun ctx => c.compileCondition ctx q.filter) = .ok (p, final))
    (hplain : c.schema.hasPlainCollections = true)
    (hnames : ∀ x ∈ q.annotations.map (·.1), IsPlainName x) :
    (∀ before name body after, q.annotations = before ++ (name, body) :: after →
      ∃ loaded alone mid, c.loadRelations start q.related = .ok loaded ∧
        c.compileAlone loaded (before ++ [(name, body)]) = .ok (alone, mid) ∧
        ∀ path, (path, name) ∈ final.aliases ↔ (path, name) ∈ mid.aliases) ∧
    (∀ a ∈ final.aliases, a.2 ∉ q.annotations.map (·.1) →
      ∀ (column : String) (store : Store) (vars : Document) (row out : Value),
        row.items? = none → Stage.runAll store p.annotations vars [row] = .ok [out] →
        (Value.string ("$" ++ a.2 ++ "." ++ column)).eval ⟨out, vars⟩ =
          (Value.string ("$" ++ a.2 ++ "." ++ column)).eval ⟨row, vars⟩) ∧
    ∀ name ∈ q.annotations.map (·.1), ∃ front fields back v,
      p.annotations = front ++ .addFields fields :: back ∧ (name, v) ∈ fields ∧
      ∀ (store : Store) (vars : Document) (row out : Value),
        Stage.runAll store p.annotations vars [row] = .ok [out] →
        ∃ between, Stage.runAll store front vars [row] = .ok [between] ∧
          v.eval ⟨between, vars⟩ = .ok (out.field? name) := by
  have haliases : ∀ a ∈ final.aliases, c.NamesJoin a.2 := by
    refine traced_aliases (plan_follows hstart h) ?_
    rcases hstart with rfl | rfl <;> simp [Context.aliases, Context.ofModel, Context.ofSubquery]
  obtain ⟨loaded, stages, computed, condition, filtered, keys, fields, sorted, columns, hloaded,
    hstages, hcondition, hsorted, hcolumns, rfl⟩ := planWith_ok h
  have hlater := ((compileCondition_gathers hcondition).trans (gathers_alongPaths.sortKeys
    hsorted)).trans (gathers_alongPaths.returnedColumns hcolumns)
  refine ⟨fun before name body after hsplit => ?_,
    fun a ha hname column store vars row out hrow hrun => ?_,
    fun name hname => read_column hnames hstages hname⟩
  · obtain ⟨alone, mid, hmid, hsame⟩ := mem_aliases_iff hsplit hstages hlater
    exact ⟨loaded, alone, mid, hloaded, hmid, hsame⟩
  · exact read_beside_columns hnames hstages ((haliases a ha).isPlainName hplain) hname
      hrow hrun column

end Plans

/-- The loans with their books and readers, and with a number of books. -/
def loansOfFive : Query :=
    .mk "Loan" none [("books", .literal (.int 5))] [] [] none none ["book", "reader"] none

/-- The number takes the place of the book, which is joined under this name before; the reader
stays. -/
theorem loansOfFive_lose_book :
    ∃ (p : Plan) (final : Context),
      lending.planWith (.ofModel loan) loansOfFive
        (fun ctx => lending.compileAnnotations [] ctx loansOfFive.annotations)
        (fun ctx => lending.compileCondition ctx loansOfFive.filter) = .ok (p, final) ∧
      ("book", "books") ∈ final.aliases ∧ ("reader", "readers") ∈ final.aliases ∧
      ∀ (store : Store) (vars : Document) (row out : Value), row.items? = none →
        Stage.runAll store p.annotations vars [row] = .ok [out] →
        out.field? "books" = some (.int 5) ∧
          (Value.string "$readers.name").eval ⟨out, vars⟩ =
              (Value.string "$readers.name").eval ⟨row, vars⟩ := by
  obtain ⟨p, final, hplan, hstages, hbook, hreader⟩ : ∃ (p : Plan) (final : Context),
      lending.planWith (.ofModel loan) loansOfFive
        (fun ctx => lending.compileAnnotations [] ctx loansOfFive.annotations)
        (fun ctx => lending.compileCondition ctx loansOfFive.filter) = .ok (p, final) ∧
      p.annotations = [.addFields [("books", (Value.int 5).protectAlone)]] ∧
      ("book", "books") ∈ final.aliases ∧ ("reader", "readers") ∈ final.aliases :=
    ⟨_, _, rfl, rfl, by decide, by decide⟩
  obtain ⟨-, hspares, hcolumns⟩ := plan_spares_joins (.inl rfl) hplan (by decide) (by decide)
  obtain ⟨front, fields, back, v, hsplit, hmem, hholds⟩ := hcolumns "books" (by decide)
  have hv : v = (Value.int 5).protectAlone := by
    rw [hstages] at hsplit
    cases front with
    | nil =>
      obtain ⟨hfields, -⟩ := List.cons.inj hsplit
      rw [← Stage.addFields.inj hfields] at hmem
      simpa using hmem
    | cons s rest => simp at hsplit
  refine ⟨p, final, hplan, hbook, hreader, fun store vars row out hrow hrun => ⟨?_, ?_⟩⟩
  · obtain ⟨between, -, hbetween⟩ := hholds store vars row out hrun
    rw [hv, Value.protectAlone, Value.eval_quote] at hbetween
    exact (Except.ok.inj hbetween).symm
  · exact hspares ("reader", "readers") hreader (by decide) "name" store vars row out hrow hrun

end Compiler

end DocQuery
