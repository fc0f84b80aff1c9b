import DocQuery.Proofs.PlannedMentions
set_option autoImplicit false

/-!
# Proofs: internal fields are written before they are read

Joined documents, results of subqueries and computed sort keys are put into fields that the
documents of a collection do not have by themselves.  In each pipeline that a query is compiled
to, be it its own, that of a subquery or that of a query it is united with, a stage that
mentions such a field stands behind one that writes it.
-/

namespace DocQuery

open Value (pathStart)

namespace Compiler

open Context (NestedStages)
open Stage (WritesFirst)

variable {c : Compiler} {ctx : Context} {q : Query} {p : Plan} {x : String}

/-! ## Stages around the columns -/

/-- The stages that collect the values of an expression mention no other reserved fields than it
does. -/
theorem notMem_mentions_collecting {field : String} {e : Value} (hreserved : IsReserved x)
    (he : x ∉ e.roots) : ∀ s ∈ collecting field e, x ∉ s.mentions := by
  have hitem : ¬ IsReserved (pathStart itemField) :=
    not_isReserved_of_plain (by decide) (by decide)
  have hgroup : ¬ IsReserved (pathStart groupField) :=
    not_isReserved_of_plain (by decide) (by decide)
  have hunwind : x ≠ pathStart itemField := fun heq => hitem (heq ▸ hreserved)
  have hroots : x ∉ (Value.string ("$" ++ itemField)).roots := fun hx =>
    not_isReserved_of_mem_roots hitem x hx hreserved
  have hgroups : x ∉ (Value.string ("$" ++ groupField)).roots := fun hx =>
    not_isReserved_of_mem_roots hgroup x hx hreserved
  have hname : Value.rootOf? itemField = none := Value.rootOf?_text rfl
  refine List.forall_mem_cons.mpr ⟨?_, List.forall_mem_singleton.mpr ?_⟩
  · simpa [Stage.mentions, Stage.mentionsOfFacets, Stage.mentionsOfAll, Stage.unwindAll, he,
      hunwind] using hroots
  · simpa [Stage.mentions, Value.roots_fieldOf, hname] using hgroups

/-- Those that keep one of equal documents mention no reserved field that is none of their
columns. -/
theorem notMem_mentions_distinct {names : List String} (hreserved : IsReserved x)
    (hnames : ∀ name ∈ names, x ≠ pathStart name) : ∀ s ∈ distinct names, x ∉ s.mentions := by
  refine List.forall_mem_cons.mpr ⟨fun hx => ?_, List.forall_mem_singleton.mpr fun hx => ?_⟩
  · simp only [Stage.mentions, Value.roots_object, List.flatMap_nil, List.append_nil,
      List.mem_flatMap, List.mem_map] at hx
    obtain ⟨m, ⟨name, hname, rfl⟩, hroot⟩ := hx
    split at hroot
    · simp at hroot
    · exact hnames name hname (Value.eq_of_mem_roots_path hroot)
  · obtain ⟨m, hm, hroot⟩ := List.mem_flatMap.mp hx
    obtain ⟨name, -, rfl⟩ := List.mem_map.mp hm
    have hid : ¬ IsReserved (pathStart ("_id" ++ "." ++ name)) := by
      rw [Value.pathStart_extend]
      exact not_isReserved_identity
    have hpath : "$" ++ ("_id" ++ "." ++ name) = "$_id." ++ name := rfl
    exact not_isReserved_of_mem_roots hid x (hpath ▸ hroot) hreserved

theorem projectedColumn_plainColumn (name : String) :
    projectedColumn (plainColumn name) = (name, .int 1) := by
  simp [projectedColumn, plainColumn]

/-- A projection mentions what the columns read that it does not just keep. -/
theorem notMem_mentions_projectionOf {columns : List (String × Value)}
    (h : ∀ column ∈ columns, column = plainColumn column.1 ∨ x ∉ column.2.roots) :
    x ∉ (Stage.project (projectionOf columns)).mentions := by
  intro hx
  obtain ⟨m, hm, hroot⟩ := List.mem_flatMap.mp hx
  rcases Document.mem_insertAll hm with hnil | hmem
  · simp at hnil
  · obtain ⟨column, hcolumn, rfl⟩ := List.mem_map.mp hmem
    rcases h column hcolumn with hplain | hnot
    · rw [hplain, projectedColumn_plainColumn] at hroot
      simp at hroot
    · rcases projectedColumn_cases column with hsame | ⟨hmarked, -⟩
      · exact hnot (hsame ▸ hroot)
      · simp [hmarked] at hroot

/-- The stages of united queries add what the queries are compiled to. -/
theorem eq_unionWith_of_mem {others : List Query} {stages : List Stage}
    (h : c.compileOthers others = .ok stages) :
    ∀ s ∈ stages, ∃ q a, c.compile q = .ok a ∧ s = .unionWith a.collection a.pipeline := by
  induction others generalizing stages with
  | nil =>
    rw [compileOthers] at h
    obtain rfl := Except.ok.inj h
    simp
  | cons q rest ih =>
    obtain ⟨a, added, ha, hadded, rfl⟩ := compileOthers_cons_ok h
    exact List.forall_mem_cons.mpr ⟨⟨q, a, ha, rfl⟩, ih hadded⟩

theorem mentions_compileOthers {others : List Query} {stages : List Stage}
    (h : c.compileOthers others = .ok stages) : ∀ s ∈ stages, s.mentions = [] := by
  intro s hs
  obtain ⟨q, a, -, rfl⟩ := eq_unionWith_of_mem h s hs
  rw [Stage.mentions]

/-! ## Pipelines -/

theorem assembleWith_cases {others : Except CompileError (List Stage)} {stages : List Stage}
    (h : c.assembleWith ctx q p others = .ok stages) :
    q.union = none ∧ stages = c.single ctx p ∨
      ∃ queries keepAll added, q.union = some (queries, keepAll) ∧ others = .ok added ∧
        stages = c.united ctx p q.orderBy added keepAll := by
  grind [assembleWith]

theorem source_isPrefix_assembled {stages : List Stage}
    (h : c.assembleWith ctx q p (c.compileUnion q.union) = .ok stages) :
        c.source ctx p <+: stages := by
  rcases assembleWith_cases h with ⟨-, rfl⟩ | ⟨_, _, _, -, -, rfl⟩
  · simp only [single, List.append_assoc]
    exact List.prefix_append _ _
  · simp only [united, List.append_assoc]
    exact List.prefix_append _ _

theorem source_isPrefix_wrapped {stages : List Stage} (column : String × Value)
    (h : c.assembleWith ctx q p (c.compileUnion q.union) = .ok stages) :
    c.source ctx p <+: wrapped stages column q.union.isSome := by
  rcases assembleWith_cases h with ⟨hunion, rfl⟩ | ⟨_, _, _, hunion, -, -⟩
  · rw [hunion, wrapped, single, List.dropLast_concat]
    simp only [List.append_assoc]
    exact List.prefix_append _ _
  · rw [hunion, wrapped]
    exact (source_isPrefix_assembled h).trans (List.prefix_append _ _)

section Pipelines

variable (hp : PlanMentions c ctx q p)
include hp

theorem hooks_of_alias (halias : x ∈ ctx.aliases.map (·.2)) :
    ∃ (j : Join) (before : List String), j.Hooks ctx.model before ∧ x = j.joined := by
  obtain ⟨a, ha, rfl⟩ := List.mem_map.mp halias
  obtain ⟨j, hj, rfl⟩ := List.mem_map.mp ha
  obtain ⟨before, hhooks⟩ := hp.chained.hooks_of_mem hj
  exact ⟨j.2, before, hhooks, rfl⟩

theorem not_supplies (hx : x ∉ ctx.model.columns) (halias : x ∉ ctx.aliases.map (·.2)) :
    ¬ ctx.Supplies x := by
  rintro ⟨name, hcolumn | hjoined, rfl⟩
  · rw [Value.pathStart_of_notMem (hp.stored name hcolumn)] at hx
    exact hx hcolumn
  · obtain ⟨j, before, hhooks, rfl⟩ := hooks_of_alias hp hjoined
    rw [Value.pathStart_of_notMem hhooks.plain] at halias
    exact halias hjoined

/-- The projection to the columns mentions reserved fields only where stored columns or joined
documents are read. -/
theorem notMem_mentions_columns (hreserved : IsReserved x) (hsupplied : ¬ ctx.Supplies x) :
    x ∉ (Stage.project (projectionOf p.columns)).mentions := by
  refine notMem_mentions_projectionOf fun column hcolumn => ?_
  rcases hp.columns with ⟨hall, -⟩ | hread
  · rw [hall] at hcolumn
    obtain ⟨name, -, rfl⟩ := List.mem_map.mp hcolumn
    exact .inl rfl
  · exact .inr fun hx => hsupplied ((hread column hcolumn).value x hx hreserved)

/-- A returned column that is called like a reserved field is a computed one. -/
theorem ne_shown (hreserved : IsReserved x) (hsupplied : ¬ ctx.Supplies x)
    (hwritten : ¬ ∃ s ∈ p.annotations, x ∈ s.writes) :
        ∀ name ∈ (projectionOf p.columns).names, x ≠ pathStart name := by
  rintro name hname rfl
  obtain ⟨projected, hprojected, rfl⟩ := List.mem_map.mp (Document.mem_names_ofList.mp hname)
  obtain ⟨column, hcolumn, rfl⟩ := List.mem_map.mp hprojected
  rw [projectedColumn_name] at *
  rcases hp.columns with ⟨hall, -⟩ | hread
  · rw [hall] at hcolumn
    obtain ⟨shown, hshown, rfl⟩ := List.mem_map.mp hcolumn
    rcases List.mem_append.mp hshown with hstored | hcomputed
    · exact hsupplied ⟨shown, .inl hstored, rfl⟩
    · exact hwritten (hp.written shown hcomputed)
  · exact (hread column hcolumn).name hreserved

variable (hinternal : x ∈ ctx.aliases.map (·.2) ∨ IsReserved x) (hx : x ∉ ctx.model.columns)
include hinternal hx

/-- Behind joins and subqueries, the computed columns and the filter, stages have to be in order
only for fields that no computed column is put into. -/
theorem writesFirst_source {rest : List Stage}
    (hrest : IsReserved x → ¬ ctx.Supplies x → (∃ s ∈ p.annotations, x ∈ s.writes) ∨
      WritesFirst x rest) :
    WritesFirst x (c.source ctx p ++ rest) := by
  obtain ⟨hjoins, hwritten⟩ := hp.chained.writesFirst c.config hp.stored (by simp) hx (by simp)
  simp only [source, Context.prerequisites, List.append_assoc]
  refine hjoins.append ?_
  -- An alias is written by the stages of its join, which come before everything else.
  by_cases halias : x ∈ ctx.aliases.map (·.2)
  · exact .inl (hwritten (by simpa [Context.aliases] using halias))
  have hreserved : IsReserved x := hinternal.resolve_left halias
  have hsupplied : ¬ ctx.Supplies x := not_supplies hp hx halias
  refine .inr ((writesFirst_nested hp.nested hreserved hsupplied).append ?_)
  -- What is offered and not supplied is the result of a subquery; what is not offered is
  -- mentioned nowhere in front.
  by_cases hoffered : ctx.Offers c.config x
  · obtain ⟨k, hk, rfl⟩ := hoffered.resolve_left hsupplied
    exact .inl (exists_writes_placed hp.nested.placed (Nat.zero_le k) hk)
  have hannotations : WritesFirst x p.annotations :=
      Stage.writesFirst_of_forall fun s hs hmention =>
    hoffered (hp.annotations x (List.mem_flatMap_of_mem hs hmention) hreserved)
  refine .inr (hannotations.append ((hrest hreserved hsupplied).imp_right fun hbehind => ?_))
  cases hfilter : p.filter with
  | none => exact hbehind
  | some f =>
    refine ⟨fun hmention => hoffered (hp.filter x ?_ hreserved), .inr hbehind⟩
    simpa [hfilter, Stage.selectExpr, Stage.mentions] using hmention

/-- The stages up to the window are in order, and so are those behind it that read from stored
columns and joined documents. -/
theorem writesFirst_ordered {rest : List Stage}
    (hrest : IsReserved x → ¬ ctx.Supplies x → ∀ s ∈ rest, x ∉ s.mentions) :
    WritesFirst x (c.source ctx p ++ p.order ++ p.window ++ rest) := by
  rw [List.append_assoc, List.append_assoc]
  refine writesFirst_source hp hinternal hx fun hreserved hsupplied => .inr ?_
  refine (hp.order x hreserved hsupplied).append (.inr (Stage.writesFirst_of_forall ?_))
  refine List.forall_mem_append.mpr ⟨fun s hs => ?_, hrest hreserved hsupplied⟩
  simp [hp.window s hs]

theorem writesFirst_united {added rest : List Stage} {keepAll : Bool}
    (hadded : ∀ s ∈ added, s.mentions = [])
    (hrest : IsReserved x → ∀ s ∈ rest, x ∉ s.mentions) :
    WritesFirst x (c.united ctx p q.orderBy added keepAll ++ rest) := by
  simp only [united, List.append_assoc]
  refine writesFirst_source hp hinternal hx fun hreserved hsupplied => ?_
  by_cases hwritten : ∃ s ∈ p.annotations, x ∈ s.writes
  · exact .inl hwritten
  refine .inr (Stage.writesFirst_of_forall ?_)
  simp only [List.forall_mem_append, List.forall_mem_singleton]
  refine ⟨notMem_mentions_columns hp hreserved hsupplied, fun s hs => ?_, ?_,
    fun s hs hmention => ?_, fun s hs => ?_, hrest hreserved⟩
  · simp [hadded s hs]
  · split
    · simp
    · exact notMem_mentions_distinct hreserved (ne_shown hp hreserved hsupplied hwritten)
  · unfold sortBy at hs
    split at hs
    · simp at hs
    · obtain rfl := List.mem_singleton.mp hs
      obtain ⟨key, hkey, rfl⟩ := List.mem_map.mp hmention
      obtain ⟨k, hk, rfl⟩ := List.mem_map.mp hkey
      exact hp.keys k hk hreserved
  · simp [hp.window s hs]

theorem writesFirst_assembled {stages : List Stage}
    (h : c.assembleWith ctx q p (c.compileUnion q.union) = .ok stages) :
    WritesFirst x stages := by
  rcases assembleWith_cases h with ⟨-, rfl⟩ | ⟨queries, keepAll, added, hunion, hadded, rfl⟩
  · refine writesFirst_ordered hp hinternal hx fun hreserved hsupplied => ?_
    exact List.forall_mem_singleton.mpr (notMem_mentions_columns hp hreserved hsupplied)
  · rw [hunion, compileUnion] at hadded
    rw [← List.append_nil (c.united _ _ _ _ _)]
    exact writesFirst_united hp hinternal hx (mentions_compileOthers hadded) (by simp)

/-- So are the stages that collect the values of the one column. -/
theorem writesFirst_wrapped {stages : List Stage} {column : String × Value}
    (hread : ReadsSupplied ctx column)
    (h : c.assembleWith ctx q p (c.compileUnion q.union) = .ok stages) :
    WritesFirst x (wrapped stages column q.union.isSome) := by
  rcases assembleWith_cases h with ⟨hunion, rfl⟩ | ⟨queries, keepAll, added,
    hunion, hadded, rfl⟩
  · rw [hunion, wrapped, single, List.dropLast_concat]
    exact writesFirst_ordered hp hinternal hx fun hreserved hsupplied =>
      notMem_mentions_collecting hreserved fun hroot =>
        hsupplied (hread.value x hroot hreserved)
  · rw [hunion, compileUnion] at hadded
    rw [hunion, wrapped]
    refine writesFirst_united hp hinternal hx (mentions_compileOthers hadded) ?_
    exact fun hreserved => notMem_mentions_collecting hreserved fun hroot =>
      not_isReserved_of_mem_roots hread.name x hroot hreserved

end Pipelines

/-! ## Pipelines inside -/

/-- The pipelines that the stages of a query run on documents of other collections. -/
inductive Runs (c : Compiler) (ctx : Context) : List Stage → Prop where
  | matching {j : String × Join} (hj : j ∈ ctx.joins) : Runs c ctx (j.2.matching c.config)
  | nested {q : Query} {n : Nested} (wrap : Bool) (hn : c.nested q = .ok n) :
    Runs c ctx (n.placed q wrap)
  | united {q : Query} {a : Aggregation} (ha : c.compile q = .ok a) : Runs c ctx a.pipeline

theorem runs_nested {first last : Nat} {stages : List Stage}
    (h : NestedStages c ctx first last stages) : ∀ s ∈ stages, ∀ r ∈ s.inner, Runs c ctx r := by
  induction h with
  | nil => simp
  | snoc _ wrap hn _ ih =>
    refine List.forall_mem_append.mpr ⟨ih, List.forall_mem_cons.mpr ⟨fun r hr => ?_, ?_⟩⟩
    · rw [Stage.inner] at hr
      exact List.mem_singleton.mp hr ▸ .nested wrap hn
    · simp [firstOrEmpty, Stage.inner]

theorem runs_compileOthers {others : List Query} {stages : List Stage}
    (h : c.compileOthers others = .ok stages) : ∀ s ∈ stages, ∀ r ∈ s.inner, Runs c ctx r := by
  intro s hs r hr
  obtain ⟨q, a, ha, rfl⟩ := eq_unionWith_of_mem h s hs
  rw [Stage.inner] at hr
  exact List.mem_singleton.mp hr ▸ .united ha

theorem inner_collecting (field : String) (e : Value) :
    ∀ s ∈ collecting field e, s.inner = [] := by
  simp [collecting, Stage.inner, Stage.innerOfFacets, Stage.innerOfAll, Stage.unwindAll]

theorem inner_distinct (names : List String) : ∀ s ∈ distinct names, s.inner = [] := by
  simp [distinct, Stage.inner]

theorem runs_source (hp : PlanMentions c ctx q p) :
    ∀ s ∈ c.source ctx p, ∀ r ∈ s.inner, Runs c ctx r := by
  have hannotations : ∀ s ∈ p.annotations, s.inner = [] := fun s hs =>
    hp.own s (List.mem_append_left _ (List.mem_append_left _ hs))
  simp only [source, Context.prerequisites, List.forall_mem_append]
  refine ⟨⟨⟨fun s hs r hr => ?_, runs_nested hp.nested⟩,
    fun s hs => by simp [hannotations s hs]⟩, ?_⟩
  · obtain ⟨j, hj, hstage⟩ := List.mem_flatMap.mp hs
    exact Join.inner_stages hstage hr ▸ .matching hj
  · split <;> simp [Stage.selectExpr, Stage.inner]

theorem runs_ordered (hp : PlanMentions c ctx q p) :
    ∀ s ∈ c.source ctx p ++ p.order ++ p.window, ∀ r ∈ s.inner, Runs c ctx r := by
  obtain ⟨hfront, hwindow⟩ := List.forall_mem_append.mp hp.own
  obtain ⟨-, horder⟩ := List.forall_mem_append.mp hfront
  simp only [List.forall_mem_append]
  exact ⟨⟨runs_source hp, fun s hs => by simp [horder s hs]⟩,
    fun s hs => by simp [hwindow s hs]⟩

theorem runs_assembled (hp : PlanMentions c ctx q p) {stages : List Stage}
    (h : c.assembleWith ctx q p (c.compileUnion q.union) = .ok stages) :
    ∀ s ∈ stages, ∀ r ∈ s.inner, Runs c ctx r := by
  rcases assembleWith_cases h with ⟨-, rfl⟩ | ⟨queries, keepAll, added, hunion, hadded, rfl⟩
  · exact List.forall_mem_append.mpr ⟨runs_ordered hp, by simp [Stage.inner]⟩
  · rw [hunion, compileUnion] at hadded
    obtain ⟨-, hwindow⟩ := List.forall_mem_append.mp hp.own
    simp only [united, List.forall_mem_append]
    refine ⟨⟨⟨⟨⟨runs_source hp, by simp [Stage.inner]⟩, runs_compileOthers hadded⟩, ?_⟩,
      fun s hs => ?_⟩, fun s hs => ?_⟩
    · split
      · simp
      · exact fun s hs => by simp [inner_distinct _ s hs]
    · simp [inner_sortBy _ s hs]
    · simp [hwindow s hs]

theorem runs_wrapped (hp : PlanMentions c ctx q p) {stages : List Stage}
    (column : String × Value)
    (h : c.assembleWith ctx q p (c.compileUnion q.union) = .ok stages) :
    ∀ s ∈ wrapped stages column q.union.isSome, ∀ r ∈ s.inner, Runs c ctx r := by
  have hall := runs_assembled hp h
  have hcollecting : ∀ (field : String) (e : Value), ∀ s ∈ collecting field e, ∀ r ∈ s.inner,
      Runs c ctx r :=
    fun field e s hs => by simp [inner_collecting field e s hs]
  unfold wrapped
  split
  · exact List.forall_mem_append.mpr ⟨hall, hcollecting _ _⟩
  · exact List.forall_mem_append.mpr ⟨fun s hs => hall s (List.dropLast_subset _ hs),
      hcollecting _ _⟩

/-- The pipelines that a query is laid out as, by itself or inside another one, with the context
that it ends in. -/
inductive Lays (c : Compiler) : Query → Context → List Stage → Prop where
  | alone {q : Query} {m : Model} {p : Plan} {ctx : Context} {stages : List Stage}
      (hm : c.queryableModel q.model = .ok m)
      (hplan : c.planWith (.ofModel m) q (fun ctx => c.compileAnnotations [] ctx q.annotations)
        (fun ctx => c.compileCondition ctx q.filter) = .ok (p, ctx))
      (hstages : c.assembleWith ctx q p (c.compileUnion q.union) = .ok stages) :
      Lays c q ctx stages
  | inside {q : Query} {n : Nested} {p : Plan} {ctx : Context} (wrap : Bool)
    (hn : c.nested q = .ok n)
      (hplan : c.planWith (.ofSubquery n.model) q
        (fun ctx => c.compileAnnotations [] ctx q.annotations)
        (fun ctx => c.compileCondition ctx q.filter) = .ok (p, ctx)) :
        Lays c q ctx (n.placed q wrap)

/-- A laid out pipeline holds the stages of its plan, whose values are collected or not. -/
theorem Lays.exists_plan {stages : List Stage} (hplain : c.schema.hasPlainCollections = true)
    (h : Lays c q ctx stages) :
    ∃ p assembled, PlanMentions c ctx q p ∧ c.assembleWith ctx q p (c.compileUnion q.union) =
      .ok assembled ∧ (stages = assembled ∨
        ∃ column, ReadsSupplied ctx column ∧
            stages = wrapped assembled column q.union.isSome) := by
  cases h with
  | alone hm hplan hstages =>
    obtain ⟨hfind, -⟩ := (queryableModel_eq_ok_iff c _ _).mp hm
    have hp := planWith_mentions hplain (List.mem_of_find?_eq_some hfind) (.inl rfl) hplan
    exact ⟨_, _, hp, hstages, .inl rfl⟩
  | inside wrap hn hplan =>
    rename_i n p
    obtain ⟨p', inner, hm, hplan', hcolumn, hstages, -⟩ := nested_ok hn
    obtain ⟨rfl, rfl⟩ : p' = p ∧ inner = ctx := by simpa using hplan'.symm.trans hplan
    obtain ⟨hfind, -⟩ := (queryableModel_eq_ok_iff c _ _).mp hm
    have hp := planWith_mentions hplain (List.mem_of_find?_eq_some hfind) (.inr rfl) hplan
    have hread := hp.onlyColumn hcolumn
    have hnested : PlanMentions c inner q { p' with columns := [n.column] } :=
      { hp with columns := .inr (List.forall_mem_singleton.mpr hread) }
    refine ⟨_, n.stages, hnested, hstages, ?_⟩
    unfold Nested.placed
    split
    · exact .inr ⟨n.column, hread, rfl⟩
    · exact .inl rfl

/-- Pipelines that laid out ones run on other documents are those of joins, or laid out
themselves. -/
theorem Lays.runs {stages : List Stage} (hplain : c.schema.hasPlainCollections = true)
    (h : Lays c q ctx stages)
    {s : Stage} (hs : s ∈ stages) {r : List Stage} (hr : r ∈ s.inner) :
    (∃ j : Join, r = j.matching c.config) ∨ ∃ sub inner, Lays c sub inner r := by
  obtain ⟨p, assembled, hp, hassembled, hstages⟩ := h.exists_plan hplain
  have hruns : Runs c ctx r := by
    rcases hstages with rfl | ⟨column, -, rfl⟩
    · exact runs_assembled hp hassembled s hs r hr
    · exact runs_wrapped hp column hassembled s hs r hr
  cases hruns with
  | matching _ => exact .inl ⟨_, rfl⟩
  | @nested sub n wrap hn =>
    obtain ⟨_, _, -, hplan, -⟩ := nested_ok hn
    exact .inr ⟨sub, _, .inside wrap hn hplan⟩
  | @united sub a ha =>
    rw [compile_eq] at ha
    obtain ⟨m, _, _, hm, hplan, hassembled, -⟩ := queryWith_ok ha
    exact .inr ⟨sub, _, .alone hm hplan hassembled⟩

/-- So do the pipelines that these run in turn. -/
theorem Lays.holds {stages r : List Stage} (hplain : c.schema.hasPlainCollections = true)
    (h : Lays c q ctx stages) (hr : Stage.Holds stages r) :
    (∃ j : Join, r = j.matching c.config) ∨ ∃ sub inner, Lays c sub inner r := by
  induction hr generalizing q ctx with
  | self stages => exact .inr ⟨q, ctx, h⟩
  | @inside stages part r s hs hpart hr ih =>
    rcases h.runs hplain hs hpart with ⟨j, rfl⟩ | ⟨sub, inner, hsub⟩
    -- The pipeline of a join is one filter, which runs no pipelines.
    · cases hr with
      | self => exact .inl ⟨j, rfl⟩
      | inside hs' hpart' =>
        obtain rfl := List.mem_singleton.mp hs'
        simp [Stage.selectExpr, Stage.inner] at hpart'
    · exact ih hsub

/-! ## Internal fields -/

/-- Whether a field is one that a pipeline puts something into by itself: the alias of a joined
document, or else the result of a subquery or a computed sort key, if no stored column has its
name. -/
def IsInternal (config : Config) (ctx : Context) (x : String) : Prop :=
  x ∈ ctx.aliases.map (·.2) ∨
    x ∉ ctx.model.columns ∧ ((∃ k, x = config.subqueryField k) ∨ ∃ i, x = orderField i)

/-- A pipeline writes its internal fields before it reads them: what the stages mention, what
the joins stand behind and what the subqueries are put into. -/
structure WritesInternals (config : Config) (ctx : Context) (stages : List Stage) : Prop where
  starts : ctx.prerequisites config <+: stages
  written : ∀ x, IsInternal config ctx x → ∀ front s back, stages = front ++ s :: back →
    x ∈ s.mentions → ∃ t ∈ front, x ∈ t.writes
  joined : ∀ front j back, ctx.joins = front ++ j :: back → ∀ a ∈ j.2.parentAlias,
    a ∈ front.map (·.2.joined)
  outputs : (ctx.subqueryStages.filterMap Stage.output?).Nodup

theorem isReserved_numbered {front : String} (h : IsReserved front) (n : Nat) :
    IsReserved (front ++ toString n) := by
  refine List.IsPrefix.trans h ?_
  simp

theorem Lays.writesInternals {stages : List Stage}
    (hplain : c.schema.hasPlainCollections = true)
    (hconfig : IsReserved c.config.subqueryPrefix) (h : Lays c q ctx stages) :
    WritesInternals c.config ctx stages := by
  obtain ⟨p, assembled, hp, hassembled, hstages⟩ := h.exists_plan hplain
  refine ⟨?_, fun x hx front s back heq hmention => ?_, fun front j back heq a ha => ?_,
    nodup_outputs hp.nested.placed⟩
  · have hsource : ctx.prerequisites c.config <+: c.source ctx p := by
      simp only [source, List.append_assoc]
      exact List.prefix_append _ _
    rcases hstages with rfl | ⟨column, -, rfl⟩
    · exact hsource.trans (source_isPrefix_assembled hassembled)
    · exact hsource.trans (source_isPrefix_wrapped column hassembled)
  · have hinternal : (x ∈ ctx.aliases.map (·.2) ∨ IsReserved x) ∧ x ∉ ctx.model.columns := by
      rcases hx with halias | ⟨hcolumn, ⟨k, rfl⟩ | ⟨i, rfl⟩⟩
      · obtain ⟨j, before, hhooks, rfl⟩ := hooks_of_alias hp halias
        exact ⟨.inl halias, hhooks.fresh⟩
      · exact ⟨.inr (isReserved_numbered hconfig k), hcolumn⟩
      · exact ⟨.inr (isReserved_numbered (by decide) i), hcolumn⟩
    have hall : WritesFirst x stages := by
      rcases hstages with rfl | ⟨column, hread, rfl⟩
      · exact writesFirst_assembled hp hinternal.1 hinternal.2 hassembled
      · exact writesFirst_wrapped hp hinternal.1 hinternal.2 hread hassembled
    rw [heq] at hall
    exact hall.exists_writes hmention
  · have hchained := hp.chained
    rw [heq] at hchained
    simpa using hchained.hooks.parent a ha

/-- In each pipeline that a query is compiled to, its own, that of a subquery or that of a query
it is united with, at any depth, internal fields are written before they are read.  The only
other pipelines are those that find the matching documents of joins, which see nothing but
documents of the other collection. -/
theorem compile_writes_internals {schema : Schema} {q : Query} {a : Aggregation}
    {r : List Stage}
    (hplain : schema.hasPlainCollections = true)
    (h : (Compiler.mk schema .usual).compile q = .ok a)
    (hr : Stage.Holds a.pipeline r) :
    (∃ j : Join, r = j.matching .usual) ∨
      ∃ sub ctx, Lays ⟨schema, .usual⟩ sub ctx r ∧ WritesInternals .usual ctx r := by
  rw [compile_eq] at h
  obtain ⟨m, p, ctx, hm, hplan, hassembled, -⟩ := queryWith_ok h
  refine (Lays.holds hplain (.alone hm hplan hassembled) hr).imp_right ?_
  rintro ⟨sub, inner, hsub⟩
  have hprefix : IsReserved Config.usual.subqueryPrefix := by decide
  exact ⟨sub, inner, hsub, hsub.writesInternals hplain hprefix⟩

/-- Crates for whose weight, or that of their size, there is a size, by the number of their
lids. -/
def cratesLikeSizes (path : String) : Query :=
  .mk "Crate" (some (.exists (.mk "Size" (some (.lookup "weight" (.outer path))) [] [] [] none
    none [] none))) [] [] [⟨"lids__len", false⟩] none none [] none

/-- The subquery for the sizes reads the joined size, whose join the subquery itself asks
for. -/
theorem cratesLikeSizes_write_first :
    ∃ a s r, (crates none "sizes").compile (cratesLikeSizes "size__weight") = .ok a ∧
    a.pipeline[3]? = some s ∧ s.output? = some "__subquery0" ∧ s.inner = [r] ∧
    ∀ found ∈ [a.pipeline, r],
      ∃ sub ctx, Lays (crates none "sizes") sub ctx found ∧
          WritesInternals .usual ctx found := by
  obtain ⟨a, s, r, ha, hs, houtput, hinner, hlengths⟩ : ∃ a s r,
      (crates none "sizes").compile (cratesLikeSizes "size__weight") = .ok a ∧
        a.pipeline[3]? = some s ∧
      s.output? = some "__subquery0" ∧ s.inner = [r] ∧ a.pipeline.length = 9 ∧ r.length = 2 :=
    ⟨_, _, _, rfl, rfl, rfl, rfl, rfl, rfl⟩
  have hplain : (crates none "sizes").schema.hasPlainCollections = true := by decide
  refine ⟨a, s, r, ha, hs, houtput, hinner, fun found hfound => ?_⟩
  have hholds : Stage.Holds a.pipeline found ∧ found.length ≠ 1 := by
    rcases List.mem_pair.mp hfound with rfl | rfl
    · exact ⟨.self _, by omega⟩
    · exact ⟨.inside (List.mem_of_getElem? hs) (by simp [hinner]) (.self _), by omega⟩
  refine (compile_writes_internals hplain ha hholds.1).resolve_left ?_
  rintro ⟨j, rfl⟩
  exact hholds.2 rfl

/-- Whether a pipeline writes a field, but mentions it in front of all stages that do. -/
def ReadsEarly (x : String) (stages : List Stage) : Prop :=
  ∃ front s back, stages = front ++ s :: back ∧ x ∈ s.mentions ∧ (∀ t ∈ front, x ∉ t.writes) ∧
    ∃ t ∈ s :: back, x ∈ t.writes

/-- Crates of a weight, by the number of their lids. -/
def cratesOfWeight : Query :=
  .mk "Crate" (some (.lookup "weight" (.literal (.int 1)))) [] [] [⟨"lids__len", false⟩]
    none none [] none

/-- Where the weight is stored under the name of a computed sort key, or of the result of a
subquery, it is read before the other one is written. -/
theorem crates_read_early :
    ((crates (some "__order0") "sizes").schema.hasPlainCollections = true ∧
      ∃ a, (crates (some "__order0") "sizes").compile cratesOfWeight = .ok a ∧
        ReadsEarly (orderField 0) a.pipeline) ∧
    (crates (some "__subquery0") "sizes").schema.hasPlainCollections = true ∧
      ∃ a, (crates (some "__subquery0") "sizes").compile (cratesLikeSizes "weight") = .ok a ∧
        ReadsEarly (Config.usual.subqueryField 0) a.pipeline := by
  refine ⟨⟨by decide, ?_⟩, by decide, ?_⟩
  -- In both pipelines it is the first stage that mentions the field.
  · refine ⟨_, rfl, [], _, _, rfl, by decide +kernel, by simp, _, List.mem_cons_of_mem _
      List.mem_cons_self, ?_⟩
    decide +kernel
  · refine ⟨_, rfl, [], _, _, rfl, by decide +kernel, by simp, _, List.mem_cons_self, ?_⟩
    decide +kernel

end Compiler

end DocQuery
