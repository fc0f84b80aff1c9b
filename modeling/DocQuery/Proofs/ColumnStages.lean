import DocQuery.Proofs.ColumnReads
import DocQuery.Proofs.MirroredRows
import DocQuery.Proofs.StageDocuments
set_option autoImplicit false

/-!
# Proofs: stages for computed columns

The columns that a stage computes do not read each other, since a column that refers to one of
its stage starts a new one.  So the stages do the same as stages that compute one column each.
-/

namespace DocQuery

namespace Value

/-- Whether an expression can be evaluated without the fields of some names. -/
def Avoids (names : List String) (e : Value) : Prop :=
    Mirrors (fun x x' => x = x' ∧ x ∉ names) e e

theorem Avoids.mono {names others : List String} {e : Value} (hsub : others ⊆ names)
    (h : Avoids names e) : Avoids others e :=
  Mirrors.mono (fun _ _ hx => ⟨hx.1, fun hmem => hx.2 (hsub hmem)⟩) h

/-- Whether rows that differ at most in the fields of some names make no difference to an
expression. -/
def Ignores (names : List String) (e : Value) : Prop :=
  ∀ (vars : Document) (row other : Value), row.items? = none → other.items? = none →
    (∀ x ∉ names, row.field? x = other.field? x) → e.eval ⟨row, vars⟩ = e.eval ⟨other, vars⟩

theorem Avoids.ignores {names : List String} {e : Value} (h : Avoids names e) :
    Ignores names e := by
  intro vars row other hrow hother hfields
  refine h.eval_eq ⟨hrow, hother, ?_⟩ vars
  rintro x _ ⟨rfl, hx⟩
  exact hfields x hx

end Value

namespace Stage

variable {store : Store} {vars : Document} {row : Value}

/-- Stages that add fields one at a time. -/
def oneByOne (fields : Document) : List Stage := fields.map fun m => .addFields [m]

theorem run_addFields_row (fields : Document) :
    run store (.addFields fields) vars [row] = (addComputed fields vars row).map fun out =>
        [out] := by
  rw [run, each, each]
  cases addComputed fields vars row <;> rfl

/-- A field that others do not read can be added before them. -/
theorem addComputed_cons {name : String} {e : Value} {rest : Document}
    (hname : '.' ∉ name.toList)
    (hrest : ∀ m ∈ rest, m.2.Avoids [name]) (hrow : row.items? = none) :
    addComputed ((name, e) :: rest) vars row =
      (addComputed [(name, e)] vars row).bind fun next => addComputed rest vars next := by
  unfold addComputed
  simp only [computed]
  cases hv : e.eval ⟨row, vars⟩ with
  | error err => rfl
  | ok v =>
    have hagree : Value.Agree (fun x x' => x = x' ∧ x ∉ [name]) row
        (setComputed row (name, v)) := by
      refine ⟨hrow, items?_setComputed hrow _, ?_⟩
      rintro x _ ⟨rfl, hx⟩
      have hne : name ≠ x := fun heq => hx (List.mem_singleton.mpr heq.symm)
      exact (field?_setComputed_ne (Value.spares_of_plain hname hne) row).symm
    have hself : Document.Mirrors (fun x x' => x = x' ∧ x ∉ [name]) rest rest :=
      List.forall₂_same.mpr fun m hm => ⟨rfl, hrest m hm⟩
    rw [computed_mirrors hself hagree]
    cases hothers : computed ⟨setComputed row (name, v), vars⟩ rest with
    | error err => simp [Except.map, Except.bind, hothers]
    | ok others => simp [Except.map, Except.bind, hothers]

theorem items?_addComputed {fields : Document} {out : Value} (hrow : row.items? = none)
    (hout : addComputed fields vars row = .ok out) : out.items? = none := by
  unfold addComputed at hout
  obtain ⟨results, -, rfl⟩ := exists_of_map_eq_ok hout
  exact items?_foldl_setComputed hrow results

/-- Fields of which none is read by the others can be added one at a time. -/
theorem runAll_oneByOne {fields : Document} (hnames : ∀ name ∈ fields.names, '.' ∉ name.toList)
    (hfields : ∀ m ∈ fields, m.2.Avoids fields.names) (hrow : row.items? = none) :
    runAll store [.addFields fields] vars [row] =
        runAll store (oneByOne fields) vars [row] := by
  induction fields generalizing row with
  | nil => rfl
  | cons m rest ih =>
    obtain ⟨name, e⟩ := m
    have hmem : name ∈ Document.names ((name, e) :: rest) := by simp [Document.names]
    have hsub : Document.names rest ⊆ Document.names ((name, e) :: rest) := by
      simp [Document.names]
    have hothers := (List.forall_mem_cons.mp hfields).2
    have halone (n) (hn : n ∈ rest) : n.2.Avoids [name] :=
      (hothers n hn).mono (List.cons_subset.mpr ⟨hmem, List.nil_subset _⟩)
    have hstep : addComputed ((name, e) :: rest) vars row =
        (addComputed [(name, e)] vars row).bind fun next => addComputed rest vars next :=
      addComputed_cons (hnames name hmem) halone hrow
    simp only [oneByOne, List.map_cons, runAll, run_addFields_row, hstep]
    cases hfirst : addComputed [(name, e)] vars row with
    | error err => rfl
    | ok next =>
      have hnext : next.items? = none := items?_addComputed hrow hfirst
      have hlast := ih (fun x hx => hnames x (hsub hx)) (fun n hn =>
        (hothers n hn).mono hsub) hnext
      simp only [runAll, run_addFields_row, oneByOne] at hlast
      exact hlast

/-- What stages do behind fields that are added at once, others do behind the fields that are
added one at a time, if they do the same with rows that are no arrays. -/
theorem runAll_oneByOne_append {fields : Document}
    (hnames : ∀ name ∈ fields.names, '.' ∉ name.toList)
    (hfields : ∀ m ∈ fields, m.2.Avoids fields.names) {stages others : List Stage}
    (hsame : ∀ row : Value, row.items? = none → runAll store stages vars [row] =
      runAll store others vars [row])
    (hrow : row.items? = none) :
    runAll store (.addFields fields :: stages) vars [row] =
        runAll store (oneByOne fields ++ others) vars [row] := by
  rw [← List.singleton_append, runAll_append, runAll_append,
    ← runAll_oneByOne hnames hfields hrow]
  simp only [runAll, run_addFields_row]
  cases hout : addComputed fields vars row with
  | error e => rfl
  | ok out => exact hsame out (items?_addComputed hrow hout)

end Stage

namespace Compiler

open Context (Gathers)

variable {c : Compiler} {ctx ctx' final : Context}

/-! ## One column at a time -/

/-- The stages that compute columns one at a time, each in a stage of its own. -/
def compileAlone (c : Compiler) (ctx : Context) :
    List (String × Expr) → Except CompileError (List Stage × Context)
  | [] => .ok ([], ctx)
  | (name, e) :: rest =>
    match c.compileExpr ctx e with
    | .error e => .error e
    | .ok ((v, t), ctx) =>
      match c.compileAlone (ctx.clearRefs.addAnnotation name t) rest with
      | .ok (stages, ctx) => .ok (.addFields [(name, v)] :: stages, ctx)
      | .error e => .error e

theorem compileAlone_cons_ok {name : String} {body : Expr} {rest : List (String × Expr)}
    {stages : List Stage} (h : c.compileAlone ctx ((name, body) :: rest) = .ok (stages, ctx')) :
    ∃ v type after others, c.compileExpr ctx body = .ok ((v, type), after) ∧
      c.compileAlone (after.clearRefs.addAnnotation name type) rest = .ok (others, ctx') ∧
      stages = .addFields [(name, v)] :: others := by
  rw [compileAlone] at h
  split at h
  · simp at h
  · rename_i v type after hv
    split at h
    · rename_i others last hothers
      obtain ⟨rfl, rfl⟩ := Prod.mk.inj (Except.ok.inj h)
      exact ⟨v, type, after, others, hv, hothers, rfl⟩
    · simp at h

theorem compileAlone_addFields {annotations : List (String × Expr)} {stages : List Stage}
    (h : c.compileAlone ctx annotations = .ok (stages, ctx')) :
        ∀ s ∈ stages, ∃ m, s = .addFields [m] := by
  induction annotations generalizing ctx stages with
  | nil =>
    rw [compileAlone] at h
    obtain ⟨rfl, -⟩ := Prod.mk.inj (Except.ok.inj h)
    simp
  | cons annotation rest ih =>
    obtain ⟨name, body⟩ := annotation
    obtain ⟨v, type, after, others, -, hothers, rfl⟩ := compileAlone_cons_ok h
    exact List.forall_mem_cons.mpr ⟨⟨(name, v), rfl⟩, ih hothers⟩

/-- Columns that are compiled to stages for several can be compiled one at a time, and to the
same context. -/
theorem exists_compileAlone {pending : Document} {annotations : List (String × Expr)}
    {stages : List Stage}
    (h : c.compileAnnotations pending ctx annotations = .ok (stages, ctx')) :
    ∃ alone, c.compileAlone ctx annotations = .ok (alone, ctx') := by
  induction annotations generalizing pending ctx stages with
  | nil =>
    rw [compileAnnotations] at h
    obtain ⟨-, rfl⟩ := Prod.mk.inj (Except.ok.inj h)
    exact ⟨[], rfl⟩
  | cons annotation rest ih =>
    obtain ⟨name, body⟩ := annotation
    obtain ⟨v, type, after, hv, hrest⟩ := compileAnnotations_cons_ok h
    obtain ⟨alone, halone⟩ : ∃ alone,
        c.compileAlone (after.clearRefs.addAnnotation name type) rest = .ok (alone, ctx') := by
      rcases hrest with ⟨others, hothers, -⟩ | ⟨-, hothers⟩
      · exact ih hothers
      · exact ih hothers
    exact ⟨.addFields [(name, v)] :: alone, by simp only [compileAlone, hv, halone]⟩

/-- What a row provides before columns are computed, it still does after columns were
compiled. -/
theorem compileAnnotations_provides {pending : Document} {annotations : List (String × Expr)}
    {stages : List Stage}
    (h : c.compileAnnotations pending ctx annotations = .ok (stages, ctx')) {x : String}
    (hx : ctx.Provides c.config x) : ctx'.Provides c.config x := by
  induction annotations generalizing pending ctx stages with
  | nil =>
    rw [compileAnnotations] at h
    obtain ⟨-, rfl⟩ := Prod.mk.inj (Except.ok.inj h)
    exact hx
  | cons annotation rest ih =>
    obtain ⟨name, body⟩ := annotation
    obtain ⟨v, type, after, hv, hrest⟩ := compileAnnotations_cons_ok h
    have hnext : (after.clearRefs.addAnnotation name type).Provides c.config x :=
      (compileExpr_reads ctx body hv).gathers.provides hx
    rcases hrest with ⟨others, hothers, -⟩ | ⟨-, hothers⟩
    · exact ih hothers hnext
    · exact ih hothers hnext

/-- Whether columns can be computed one at a time in a context that becomes `final`: their names
are plain and new, and those that already wait for their stage read none of them. -/
structure Batching (c : Compiler) (final ctx : Context) (pending : Document)
    (names : List String) : Prop where
  plain : ∀ x ∈ ctx.annotations.map (·.1) ++ names, IsPlainName x ∧ ¬final.Provides c.config x
  nodup : names.Nodup
  fresh : ∀ name ∈ names, name ∉ ctx.annotations.map (·.1)
  refs : ctx.annotationRefs = []
  waits : pending.names ⊆ ctx.annotations.map (·.1)
  avoids : ∀ m ∈ pending, m.2.Avoids (pending.names ++ names)

namespace Batching

/-- Those that wait have plain names. -/
theorem dots {pending : Document} {names : List String}
    (h : Batching c final ctx pending names) : ∀ name ∈ pending.names, '.' ∉ name.toList :=
  fun name hname => (h.plain name (List.mem_append_left _ (h.waits hname))).1.1

/-- Those that wait do not read each other. -/
theorem apart {pending : Document} {names : List String}
    (h : Batching c final ctx pending names) : ∀ m ∈ pending, m.2.Avoids pending.names :=
  fun m hm => (h.avoids m hm).mono (List.subset_append_left _ _)

variable {pending : Document} {name : String} {names : List String} {body : Expr} {v : Value}
  {type : ValueType}
  {after : Context}

/-- What the expression of a column does not read: all names of columns but those that it
referred to. -/
theorem reads (hparent : '.' ∉ c.config.parentPrefix.toList)
    (hprovided : ∀ x, final.Provides c.config x → IsPlainName x)
    (h : Batching c final ctx pending (name :: names))
    (hv : c.compileExpr ctx body = .ok ((v, type), after))
    (hafter : ∀ x, after.Provides c.config x → final.Provides c.config x) {others : List String}
    (hothers : ∀ x ∈ others, x ∈ pending.names ∧ x ∉ after.annotationRefs ∨ x ∈ name :: names) :
    v.Avoids others := by
  obtain ⟨hgathers, hreads⟩ := compileExpr_reads ctx body hv
  have hknown : ∀ x ∈ after.annotationRefs, x ∈ ctx.annotations.map (·.1) := by
    intro x hx
    rcases hgathers.known x hx with hold | hname
    · simp [h.refs] at hold
    · exact hname
  have hplain : after.ReadsPlain c.config := by
    refine ⟨hparent, ?_⟩
    rintro x _ ⟨rfl, hx⟩
    have hx : IsPlainName x := by
      rcases hx with hprovides | href
      · exact hprovided x (hafter x hprovides)
      · exact (h.plain x (List.mem_append_left _ (hknown x href))).1
    exact ⟨hx, hx⟩
  refine Value.Mirrors.mono ?_ (hreads hplain)
  rintro x _ ⟨rfl, hx⟩
  refine ⟨rfl, fun hmem => ?_⟩
  rcases hx with hprovides | href
  · have hname : x ∈ ctx.annotations.map (·.1) ++ name :: names := by
      rcases hothers x hmem with ⟨hpending, -⟩ | hname
      · exact List.mem_append_left _ (h.waits hpending)
      · exact List.mem_append_right _ hname
    exact (h.plain x hname).2 (hafter x hprovides)
  · rcases hothers x hmem with ⟨-, hnone⟩ | hname
    · exact hnone href
    · exact h.fresh x hname (hknown x href)

/-- The context after a column, of which the names stay apart. -/
theorem next (h : Batching c final ctx pending (name :: names)) (hgathers : Gathers ctx after)
    {others : Document} (hpending : others.names ⊆ name :: pending.names)
    (havoids : ∀ m ∈ others, m.2.Avoids (others.names ++ names)) :
    Batching c final (after.clearRefs.addAnnotation name type) others names := by
  have hnames : ∀ x, x ∈ (after.clearRefs.addAnnotation name type).annotations.map (·.1) ↔
      x ∈ ctx.annotations.map (·.1) ∨ x = name := by
    intro x
    rw [← hgathers.annotations]
    exact mem_names_setType
  obtain ⟨hfirst, hnodup⟩ := List.nodup_cons.mp h.nodup
  refine ⟨fun x hx => h.plain x ?_, hnodup, fun x hx => ?_, rfl, fun x hx => ?_, havoids⟩
  · rw [List.mem_append, hnames] at hx
    rw [List.mem_append, List.mem_cons]
    tauto
  · rw [hnames, not_or]
    refine ⟨h.fresh x (List.mem_cons_of_mem name hx), ?_⟩
    rintro rfl
    exact hfirst hx
  · rw [hnames]
    rcases List.mem_cons.mp (hpending hx) with rfl | hold
    · exact .inr rfl
    · exact .inl (h.waits hold)

/-- A column that refers to none of those that wait joins them. -/
theorem snoc (hparent : '.' ∉ c.config.parentPrefix.toList)
    (hprovided : ∀ x, final.Provides c.config x → IsPlainName x)
    (h : Batching c final ctx pending (name :: names))
    (hv : c.compileExpr ctx body = .ok ((v, type), after))
    (hafter : ∀ x, after.Provides c.config x → final.Provides c.config x)
    (hstays : after.annotationRefs.any pending.has = false) :
    pending.insert name v = pending ++ [(name, v)] ∧
      Batching c final (after.clearRefs.addAnnotation name type)
          (pending ++ [(name, v)]) names := by
  have hnew : name ∉ pending.names := fun hmem => h.fresh name List.mem_cons_self (h.waits hmem)
  have hunread : ∀ x ∈ pending.names, x ∉ after.annotationRefs := by
    intro x hx href
    have hhas := List.any_eq_false.mp hstays x href
    rw [Document.has_iff] at hhas
    exact hhas hx
  have hcolumn : v.Avoids (pending.names ++ name :: names) := by
    refine h.reads hparent hprovided hv hafter fun x hx => ?_
    exact (List.mem_append.mp hx).imp (fun hpending => ⟨hpending, hunread x hpending⟩) id
  have hnames : Document.names (pending ++ [(name, v)]) ++ names =
      pending.names ++ name :: names := by
    simp [Document.names]
  refine ⟨Document.insert_of_notMem v hnew, h.next (compileExpr_reads ctx body hv).gathers ?_
    ?_⟩
  · simp [Document.names]
  · rw [hnames]
    exact List.forall_mem_append.mpr ⟨h.avoids, List.forall_mem_singleton.mpr hcolumn⟩

/-- The columns that wait can be computed at once: none of them reads another one. -/
theorem addColumns (h : Batching c final ctx pending names) :
    (∀ (store : Store) (vars : Document) (row : Value), row.items? = none →
      Stage.runAll store (addColumns pending) vars [row] =
        Stage.runAll store (Stage.oneByOne pending) vars [row]) ∧
    ∀ fields, Stage.addFields fields ∈ Compiler.addColumns pending →
      ∀ m ∈ fields, m.2.Avoids fields.names := by
  refine ⟨fun store vars row hrow => ?_, fun fields hfields => ?_⟩
  · cases pending with
    | nil => rfl
    | cons m rest => exact Stage.runAll_oneByOne h.dots h.apart hrow
  · unfold Compiler.addColumns at hfields
    split at hfields
    · simp at hfields
    · obtain rfl := Stage.addFields.inj (List.mem_singleton.mp hfields)
      exact h.apart

end Batching

/-- The stages that compute one column each do the same with a row as those that compute several
at once, and none of the latter has a column that reads another one of its stage. -/
theorem compileAnnotations_alone (hparent : '.' ∉ c.config.parentPrefix.toList)
    (hprovided : ∀ x, final.Provides c.config x → IsPlainName x) {pending : Document}
    {annotations : List (String × Expr)} {stages alone : List Stage}
    (hbatching : Batching c final ctx pending (annotations.map (·.1)))
    (hfinal : ∀ x, ctx'.Provides c.config x → final.Provides c.config x)
    (h : c.compileAnnotations pending ctx annotations = .ok (stages, ctx'))
    (halone : c.compileAlone ctx annotations = .ok (alone, ctx')) :
    (∀ (store : Store) (vars : Document) (row : Value), row.items? = none →
      Stage.runAll store stages vars [row] =
        Stage.runAll store (Stage.oneByOne pending ++ alone) vars [row]) ∧
    ∀ fields, Stage.addFields fields ∈ stages → ∀ m ∈ fields, m.2.Avoids fields.names := by
  induction annotations generalizing pending ctx stages alone with
  | nil =>
    rw [compileAnnotations] at h
    rw [compileAlone] at halone
    obtain ⟨rfl, rfl⟩ := Prod.mk.inj (Except.ok.inj h)
    obtain ⟨rfl, -⟩ := Prod.mk.inj (Except.ok.inj halone)
    simpa only [List.append_nil] using hbatching.addColumns
  | cons annotation rest ih =>
    obtain ⟨name, body⟩ := annotation
    obtain ⟨v, type, after, others, hv, halone', rfl⟩ := compileAlone_cons_ok halone
    obtain ⟨_, _, _, hv', hrest⟩ := compileAnnotations_cons_ok h
    obtain ⟨hpair, rfl⟩ := Prod.mk.inj (Except.ok.inj (hv.symm.trans hv'))
    obtain ⟨rfl, rfl⟩ := Prod.mk.inj hpair
    have hgathers := (compileExpr_reads ctx body hv).gathers
    have hlater : ∀ x, after.Provides c.config x → final.Provides c.config x := by
      intro x hx
      have hnext : (after.clearRefs.addAnnotation name type).Provides c.config x := hx
      rcases hrest with ⟨stages', hstages', -⟩ | ⟨-, hstages'⟩
      · exact hfinal x (compileAnnotations_provides hstages' hnext)
      · exact hfinal x (compileAnnotations_provides hstages' hnext)
    rcases hrest with ⟨stages', hstages', rfl⟩ | ⟨hstays, hstages'⟩
    · -- the column starts a new stage
      have hcolumn := hbatching.reads hparent hprovided hv hlater fun x hx => .inr hx
      have hnext : Batching c final (after.clearRefs.addAnnotation name type) [(name, v)]
          (rest.map (·.1)) :=
        hbatching.next hgathers (by simp [Document.names]) (by simpa [Document.names]
          using hcolumn)
      obtain ⟨hsame, hall⟩ := ih hnext hstages' halone'
      refine ⟨fun store vars row hrow => ?_, fun fields hfields => ?_⟩
      · exact Stage.runAll_oneByOne_append hbatching.dots hbatching.apart
          (hsame store vars) hrow
      · rcases List.mem_cons.mp hfields with heq | hmem
        · obtain rfl := Stage.addFields.inj heq
          exact hbatching.apart
        · exact hall fields hmem
    · -- the column joins those that wait
      obtain ⟨hinsert, hnext⟩ := hbatching.snoc hparent hprovided hv hlater hstays
      rw [hinsert] at hstages'
      obtain ⟨hsame, hall⟩ := ih hnext hstages' halone'
      refine ⟨fun store vars row hrow => ?_, hall⟩
      rw [hsame store vars row hrow]
      simp [Stage.oneByOne]

theorem compileCondition_gathers {f : Option Filter} {condition : Option Value}
    (h : c.compileCondition ctx f = .ok (condition, ctx')) : Gathers ctx ctx' := by
  cases f with
  | none =>
    rw [compileCondition] at h
    obtain ⟨-, rfl⟩ := Prod.mk.inj (Except.ok.inj h)
    exact .refl ctx
  | some f =>
    obtain ⟨v, hv, -⟩ := compileCondition_some_ok h
    exact (compileFilter_reads ctx f hv).gathers

/-- The stages for the columns of a query do the same with rows as stages that compute one
column each, in the order in which the columns are given, and no column reads another one of its
stage.  The columns have different and plain names, which are none of those that a row has
before. -/
theorem plan_columns_one_by_one {m : Model} {start : Context} {q : Query} {p : Plan}
    (hstart : start = .ofModel m ∨ start = .ofSubquery m)
    (h : c.planWith start q (fun ctx => c.compileAnnotations [] ctx q.annotations)
      (fun ctx => c.compileCondition ctx q.filter) = .ok (p, final))
    (hnodup : (q.annotations.map (·.1)).Nodup)
    (hnames : ∀ name ∈ q.annotations.map (·.1), IsPlainName name ∧
      ¬final.Provides c.config name)
    (hprovided : ∀ x, final.Provides c.config x → IsPlainName x)
    (hparent : '.' ∉ c.config.parentPrefix.toList) :
    ∃ loaded computed alone, c.loadRelations start q.related = .ok loaded ∧
      c.compileAnnotations [] loaded q.annotations = .ok (p.annotations, computed) ∧
      c.compileAlone loaded q.annotations = .ok (alone, computed) ∧
      (∀ (store : Store) (vars : Document) (row : Value), row.items? = none →
        Stage.runAll store p.annotations vars [row] = Stage.runAll store alone vars [row]) ∧
      (∀ (store : Store) (vars : Document) (rows outs : List Value),
        (∀ row ∈ rows, row.items? = none) →
        (Stage.runAll store p.annotations vars rows = .ok outs ↔
          Stage.runAll store alone vars rows = .ok outs)) ∧
      ∀ s ∈ p.annotations, ∃ fields, s = .addFields fields ∧ ∀ m ∈ fields,
          m.2.Ignores fields.names := by
  obtain ⟨loaded, stages, computed, condition, filtered, keys, fields, sorted, columns, hloaded,
    hstages, hcondition, hsorted, hcolumns, rfl⟩ := planWith_ok h
  have hfirst : start.annotations = [] ∧ start.annotationRefs = [] := by
    rcases hstart with rfl | rfl <;> exact ⟨rfl, rfl⟩
  have hload := gathers_alongPaths.loadRelations hloaded
  have hannotations : loaded.annotations = [] := hload.annotations.trans hfirst.1
  have hrefs : loaded.annotationRefs = [] := by
    refine List.eq_nil_iff_forall_not_mem.mpr fun x hx => ?_
    simpa [hfirst.1, hfirst.2] using hload.known x hx
  have hlater := ((compileCondition_gathers hcondition).trans (gathers_alongPaths.sortKeys
    hsorted)).trans (gathers_alongPaths.returnedColumns hcolumns)
  have hbatching : Batching c final loaded [] (q.annotations.map (·.1)) := by
    refine ⟨?_, hnodup, by simp [hannotations], hrefs, by simp [Document.names], by simp⟩
    simpa [hannotations] using hnames
  obtain ⟨alone, halone⟩ := exists_compileAlone hstages
  obtain ⟨hsame, havoids⟩ :=
    compileAnnotations_alone hparent hprovided hbatching (fun _ hx => hlater.provides hx)
      hstages halone
  refine ⟨loaded, computed, alone, hloaded, hstages, halone, hsame,
    fun store vars rows outs hrows => ?_, fun s hs => ?_⟩
  · have hrowwise : ∀ s ∈ stages, s.IsRowwise := fun s hs =>
      Stage.isRowwise_of_addsFields (compileAnnotations_addsFields hstages s hs)
    have hrowwise' : ∀ s ∈ alone, s.IsRowwise := by
      intro s hs
      obtain ⟨m, rfl⟩ := compileAlone_addFields halone s hs
      exact Stage.isRowwise_addFields [m]
    rw [Stage.runAll_ok_iff hrowwise, Stage.runAll_ok_iff hrowwise', List.forall₂_iff_zip,
      List.forall₂_iff_zip]
    refine and_congr_right fun _ => forall₂_congr fun row out => imp_congr_right fun hmem => ?_
    rw [hsame store vars row (hrows row (List.of_mem_zip hmem).1)]
    rfl
  · obtain ⟨fields, rfl⟩ := compileAnnotations_addFields hstages s hs
    exact ⟨fields, rfl, fun m hm => (havoids fields hs m hm).ignores⟩

/-- A part with a price and a number. -/
def part : Model :=
  ⟨"Part", some "parts", false,
    [Model.primaryKey, ⟨"price", .scalar .integer, false, none⟩, ⟨"number", .scalar .integer,
      false, none⟩]⟩

/-- Parts with the usual settings. -/
def parts : Compiler := ⟨⟨[part]⟩, .usual⟩

/-- The parts with what they cost together, their price again, and twice what they cost
together. -/
def totals : Query :=
  .mk "Part" none
    [("total", .combined (.arithmetic .multiply) (.field "price") (.field "number")),
      ("each", .field "price"), ("twice", .combined (.arithmetic .add) (.field "total")
      (.field "total"))] [] [] none none [] none

/-- The three columns are computed in two stages, which do the same with the parts as three
stages. -/
theorem totals_one_by_one :
    ∃ (p : Plan) (loaded computed : Context) (alone : List Stage),
      parts.loadRelations (.ofModel part) totals.related = .ok loaded ∧
      parts.compileAnnotations [] loaded totals.annotations = .ok (p.annotations, computed) ∧
      parts.compileAlone loaded totals.annotations = .ok (alone, computed) ∧
      p.annotations.length = 2 ∧ alone.length = 3 ∧
      ∀ (store : Store) (vars : Document) (row : Value), row.items? = none →
        Stage.runAll store p.annotations vars [row] = Stage.runAll store alone vars [row] := by
  obtain ⟨p, final, hplan, hmodel, haliases, hcount, htwo⟩ : ∃ (p : Plan) (final : Context),
      parts.planWith (.ofModel part) totals
        (fun ctx => parts.compileAnnotations [] ctx totals.annotations)
        (fun ctx => parts.compileCondition ctx totals.filter) =
        .ok (p, final) ∧
      final.model = part ∧ final.aliases = [] ∧ final.subqueryCount = 0 ∧
          p.annotations.length = 2 :=
    ⟨_, _, rfl, rfl, rfl, rfl, rfl⟩
  have hprovides : ∀ x, final.Provides parts.config x ↔ x ∈ ["_id", "price", "number"] := by
    intro x
    simp [Context.Provides, hmodel, haliases, hcount, part, Model.columns, Field.column,
      Model.primaryKey, Model.primaryKeyColumn, FieldKind.isRelation]
  have hnames : ∀ name ∈ totals.annotations.map (·.1), IsPlainName name ∧
      name ∉ ["_id", "price", "number"] := by
    decide
  have hstored : ∀ x ∈ ["_id", "price", "number"], IsPlainName x := by decide
  obtain ⟨loaded, computed, alone, hloaded, hstages, halone, hsame, -⟩ :=
    plan_columns_one_by_one (.inl rfl) hplan (by decide) (fun name hname =>
    ⟨(hnames name hname).1, fun hx => (hnames name hname).2 ((hprovides name).mp hx)⟩)
    (fun x hx => hstored x ((hprovides x).mp hx)) (by decide)
  have hthree : alone.length = 3 := by
    obtain rfl := Except.ok.inj hloaded
    obtain ⟨rfl, -⟩ := Prod.mk.inj (Except.ok.inj halone)
    rfl
  exact ⟨p, loaded, computed, alone, hloaded, hstages, halone, htwo, hthree, hsame⟩

/-- An item with a column whose name has a point. -/
def boxedItem : Model :=
  ⟨"Item", some "items", false, [Model.primaryKey, ⟨"size", .scalar .json, true,
    some "box.size"⟩]⟩

/-- Items with the usual settings. -/
def boxedItems : Compiler := ⟨⟨[boxedItem]⟩, .usual⟩

/-- The items in another box, and with the size of the box that they had before. -/
def reboxed : Query :=
  .mk "Item" none [("box", .literal (.object [("size", .int 5)])), ("before", .field "size")] []
    [] none none [] none

/-- An item in a box of its own. -/
def oneItem : Value := .object [("_id", .int 7), ("box", .object [("size", .int 1)])]

/-- Whether the size before is that of the box of its own. -/
def showsOwnSize (rows : List Value) : Bool :=
  rows.all fun row => (row.field? "before").any fun v => v.compare (.int 1) == .eq

/-- The computed box takes the place of the stored one, and with it that of the column inside
it: a stage of its own for each of the two columns gives the size of the computed box. -/
theorem oneItem_reboxed :
    ∃ (p : Plan) (final loaded computed : Context) (alone : List Stage) (row : Value),
      boxedItems.planWith (.ofModel boxedItem) reboxed
        (fun ctx => boxedItems.compileAnnotations [] ctx reboxed.annotations)
        (fun ctx => boxedItems.compileCondition ctx reboxed.filter) = .ok (p, final) ∧
      boxedItems.loadRelations (.ofModel boxedItem) reboxed.related = .ok loaded ∧
      boxedItems.compileAlone loaded reboxed.annotations = .ok (alone, computed) ∧
      (reboxed.annotations.map (·.1)).Nodup ∧
      (∀ name ∈ reboxed.annotations.map (·.1), IsPlainName name ∧
        ¬final.Provides boxedItems.config name) ∧
      row.items? = none ∧ Stage.runAll ⟨[]⟩ p.annotations [] [row] ≠ Stage.runAll ⟨[]⟩ alone
          [] [row] := by
  obtain ⟨p, final, hplan, hmodel, haliases, hcount, hbatched⟩ : ∃ (p : Plan) (final : Context),
      boxedItems.planWith (.ofModel boxedItem) reboxed
        (fun ctx => boxedItems.compileAnnotations [] ctx reboxed.annotations)
        (fun ctx => boxedItems.compileCondition ctx reboxed.filter) = .ok (p, final) ∧
      final.model = boxedItem ∧ final.aliases = [] ∧ final.subqueryCount = 0 ∧
      Stage.succeedsWith showsOwnSize (Stage.runAll ⟨[]⟩ p.annotations [] [oneItem]) = true :=
    ⟨_, _, rfl, rfl, rfl, rfl, by decide +kernel⟩
  obtain ⟨loaded, computed, alone, hloaded, halone, hsingle⟩ :
    ∃ (loaded computed : Context) (alone : List Stage),
      boxedItems.loadRelations (.ofModel boxedItem) reboxed.related = .ok loaded ∧
      boxedItems.compileAlone loaded reboxed.annotations = .ok (alone, computed) ∧
      Stage.succeedsWith showsOwnSize (Stage.runAll ⟨[]⟩ alone [] [oneItem]) = false :=
    ⟨_, _, _, rfl, rfl, by decide +kernel⟩
  have hprovides : ∀ x, final.Provides boxedItems.config x ↔ x ∈ ["_id", "box.size"] := by
    intro x
    simp [Context.Provides, hmodel, haliases, hcount, boxedItem, Model.columns, Field.column,
      Model.primaryKey, Model.primaryKeyColumn]
  have hnames : ∀ name ∈ reboxed.annotations.map (·.1), IsPlainName name ∧
    name ∉ ["_id", "box.size"] := by decide
  refine ⟨p, final, loaded, computed, alone, oneItem, hplan, hloaded, halone, by decide,
    fun name hname => ?_, rfl, fun hsame => ?_⟩
  · exact ⟨(hnames name hname).1, fun hx => (hnames name hname).2 ((hprovides name).mp hx)⟩
  · rw [hsame, hsingle] at hbatched
    cases hbatched

end Compiler

end DocQuery
