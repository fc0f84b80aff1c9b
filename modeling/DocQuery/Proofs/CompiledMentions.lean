import DocQuery.Proofs.MentionedFields
import DocQuery.Proofs.NamedPaths
set_option autoImplicit false

/-!
# Proofs: what compiled expressions mention

A path in a query cannot start with the mark between the names of a path.  So a compiled
expression that mentions a field with such a name reads a stored column, a joined document or
the result of a subquery.  The stages of subqueries are followed along:  what they take from the
rows of the enclosing query mentions no results of other subqueries.
-/

namespace DocQuery

open Value (pathStart rootOf?)

/-! ## Fields of the row -/

namespace Context

variable {config : Config} {ctx ctx' : Context} {x : String}

/-- Whether a field is one that stored columns or joined documents are read from. -/
def Supplies (ctx : Context) (x : String) : Prop :=
  ∃ name, (name ∈ ctx.model.columns ∨ name ∈ ctx.aliases.map (·.2)) ∧ x = pathStart name

/-- Whether a field is one that stored columns, joined documents or the results of subqueries
are read from. -/
def Offers (config : Config) (ctx : Context) (x : String) : Prop :=
  ctx.Supplies x ∨ ∃ k < ctx.subqueryCount, x = pathStart (config.subqueryField k)

/-- Stages for subqueries of given numbers: each puts a query that was compiled by itself into
its field, and takes no results of other subqueries for it. -/
inductive NestedStages (c : Compiler) (ctx : Context) : Nat → Nat → List Stage → Prop where
  | nil (n : Nat) : NestedStages c ctx n n []
  | snoc {first next : Nat} {stages : List Stage} (h : NestedStages c ctx first next stages)
    {q : Query}
    {n : Compiler.Nested} (wrap : Bool) {bindings : Document} (hn : c.nested q = .ok n)
    (hbindings : ∀ m ∈ bindings, ∀ x ∈ m.2.roots, IsReserved x → ctx.Supplies x) :
    NestedStages c ctx first (next + 1) (stages ++
      [.lookup n.model.collection bindings (n.placed q wrap) (c.config.subqueryField next),
        Compiler.firstOrEmpty (c.config.subqueryField next)])

/-- A context to which joins and subqueries may have been added. -/
structure Nests (c : Compiler) (ctx ctx' : Context) : Prop where
  model : ctx'.model = ctx.model
  aliases : ctx.aliases ⊆ ctx'.aliases
  stages : ∃ added, ctx'.subqueryStages = ctx.subqueryStages ++ added ∧
    NestedStages c ctx' ctx.subqueryCount ctx'.subqueryCount added

theorem Supplies.mono (hmodel : ctx'.model = ctx.model) (haliases : ctx.aliases ⊆ ctx'.aliases)
    (h : ctx.Supplies x) : ctx'.Supplies x := by
  obtain ⟨name, hname, rfl⟩ := h
  refine ⟨name, ?_, rfl⟩
  rcases hname with hcolumn | halias
  · exact .inl (hmodel ▸ hcolumn)
  · exact .inr (List.map_subset _ haliases halias)

namespace NestedStages

variable {c : Compiler} {first middle last : Nat} {stages others : List Stage}

theorem le (h : NestedStages c ctx first last stages) : first ≤ last := by
  induction h with
  | nil => exact Nat.le_refl _
  | snoc _ _ _ _ ih => exact Nat.le_succ_of_le ih

theorem mono (hmodel : ctx'.model = ctx.model) (haliases : ctx.aliases ⊆ ctx'.aliases)
    (h : NestedStages c ctx first last stages) : NestedStages c ctx' first last stages := by
  induction h with
  | nil => exact .nil _
  | snoc _ wrap hn hbindings ih =>
    exact .snoc ih wrap hn fun m hm x hx hreserved => (hbindings m hm x hx hreserved).mono
      hmodel haliases

theorem append (h : NestedStages c ctx first middle stages)
    (h' : NestedStages c ctx middle last others) :
    NestedStages c ctx first last (stages ++ others) := by
  induction h' with
  | nil => simpa using h
  | snoc _ wrap hn hbindings ih =>
    rw [← List.append_assoc]
    exact .snoc ih wrap hn hbindings

/-- They are placed in the fields of their numbers. -/
theorem placed (h : NestedStages c ctx first last stages) :
    Placed c.config first last stages := by
  induction h with
  | nil => exact .nil _
  | snoc _ _ _ _ ih => exact .snoc _ _ _ ih

end NestedStages

namespace Nests

variable {c : Compiler} {ctx'' : Context}

theorem count_le (h : Nests c ctx ctx') : ctx.subqueryCount ≤ ctx'.subqueryCount := by
  obtain ⟨_, -, hstages⟩ := h.stages
  exact hstages.le

theorem offers (h : Nests c ctx ctx') (hx : ctx.Offers config x) : ctx'.Offers config x := by
  rcases hx with hsupplied | ⟨k, hk, rfl⟩
  · exact .inl (hsupplied.mono h.model h.aliases)
  · exact .inr ⟨k, Nat.lt_of_lt_of_le hk h.count_le, rfl⟩

/-- No subquery was added. -/
theorem quiet (hmodel : ctx'.model = ctx.model) (haliases : ctx.aliases ⊆ ctx'.aliases)
    (hstages : ctx'.subqueryStages = ctx.subqueryStages)
    (hcount : ctx'.subqueryCount = ctx.subqueryCount) :
    Nests c ctx ctx' :=
  ⟨hmodel, haliases, [], by simp [hstages], by rw [hcount]; exact .nil _⟩

theorem refl (ctx : Context) : Nests c ctx ctx := quiet rfl (List.Subset.refl _) rfl rfl

theorem of_same (h : IsSame ctx ctx') : Nests c ctx ctx' :=
  quiet h.model (by rw [h.aliases]; exact List.Subset.refl _) h.stages h.count

theorem trans (h : Nests c ctx ctx') (h' : Nests c ctx' ctx'') : Nests c ctx ctx'' where
  model := h'.model.trans h.model
  aliases := List.Subset.trans h.aliases h'.aliases
  stages := by
    obtain ⟨added, hadded, hnested⟩ := h.stages
    obtain ⟨others, hothers, hnested'⟩ := h'.stages
    exact ⟨added ++ others, by rw [hothers, hadded, List.append_assoc],
      (hnested.mono h'.model h'.aliases).append hnested'⟩

theorem addAnnotation (ctx : Context) (name : String) (type : ValueType) :
    Nests c ctx (ctx.clearRefs.addAnnotation name type) :=
      quiet rfl (List.Subset.refl _) rfl rfl

theorem outerRef {path : String} {index : Option Nat} (h : ctx.outerRef path = (index, ctx')) :
    Nests c ctx ctx' := by
  unfold Context.outerRef at h
  split at h
  · exact (Prod.mk.inj h).2 ▸ refl ctx
  · split at h
    · exact (Prod.mk.inj h).2 ▸ refl ctx
    · exact (Prod.mk.inj h).2 ▸ quiet rfl (List.Subset.refl _) rfl rfl

end Nests

end Context

namespace Compiler

open Context (Nests Supplies Offers NestedStages)

variable {c : Compiler} {ctx ctx' : Context} {path : String} {x : String} {e : Value}
  {type : ValueType}

/-! ## Paths -/

/-- No name of a path is a path into a reserved field. -/
theorem rootOf?_ne_of_mem_segments {name : String} (hname : name ∈ Text.segments path)
    (hx : IsReserved x) : rootOf? name ≠ some x := fun h =>
  Text.not_isInfix_of_mem_segments hname (hx.isInfix.trans (Value.isInfix_of_rootOf? h))

/-- No name of a path starts from a reserved field. -/
theorem pathStart_ne_of_mem_segments {name : String} (hname : name ∈ Text.segments path)
    (hx : IsReserved x) : x ≠ pathStart name := by
  rintro rfl
  exact Text.not_isInfix_of_mem_segments hname (hx.isInfix.trans (Value.pathStart_isPrefix
    name).isInfix)

section Paths

variable (hplain : c.schema.hasPlainCollections = true) (hx : IsReserved x)
include hplain hx

/-- Going on from an access mentions no other reserved fields. -/
theorem follow_value_mentions {a : Access} {names : List String} {joins : List Nat}
    {ending : Ending}
    (hnames : names ⊆ Text.segments path)
    (h : c.follow path (.value a) names joins ctx = (.ok ending, ctx'))
    (hmention : x ∈ ending.target.render.roots) : x ∈ a.render.roots := by
  by_contra ha
  refine @kept_followBy c _ _ (Access.isKeptBy_roots x) [] a (fun m hm f hf => ?_) ctx ctx' path
    names joins ending (fun name hname => rootOf?_ne_of_mem_segments (hnames hname)
    hx) ha h hmention
  have hcolumn := ((Schema.plain_of_hasPlainCollections hplain hm).2.2 f hf).2
  rw [Value.rootOf?_text (isOperatorName_of_notMem hcolumn)]
  simp

theorem follow_mentions {m : Model} {parent : Option String} {relation : String}
    {names : List String} {joins : List Nat} {ending : Ending}
    (hplace : (parent = none ∧ m = ctx.model) ∨ ∃ a, parent = some a ∧
      a ∈ ctx.aliases.map (·.2))
    (hnames : names ⊆ Text.segments path)
    (h : c.follow path (.document m parent relation) names joins ctx = (.ok ending, ctx'))
    (hmention : x ∈ ending.target.render.roots) : ctx'.Supplies x := by
  induction names generalizing m parent relation joins ctx with
  | nil => simp [follow] at h
  | cons name rest ih =>
    obtain ⟨_, hrest⟩ := List.cons_subset.mp hnames
    obtain ⟨_, _, f, heq, hf, hcase⟩ := follow_document_ok h
    obtain ⟨rfl, rfl⟩ := List.cons.inj heq
    rcases hcase with ⟨-, hcolumn⟩ | ⟨_, _, _, target, k, -, -, -, -, hjoin⟩
    · obtain rfl := follow_value_context hcolumn
      have hstart := follow_value_mentions hplain hx hrest hcolumn hmention
      rcases hplace with ⟨rfl, rfl⟩ | ⟨a, rfl, ha⟩
      · refine ⟨f.column, .inl ?_, Value.eq_of_mem_roots_path hstart⟩
        exact List.mem_map_of_mem (List.mem_of_find?_eq_some hf)
      · refine ⟨a, .inr ha, ?_⟩
        rw [← Value.pathStart_extend a f.column]
        refine Value.eq_of_mem_roots_path ?_
        simpa only [Access.render, String.append_assoc] using hstart
    · obtain ⟨-, hmem, -⟩ := Context.aliases_join ctx (relationPath relation name)
        parent f target k
      exact ih (.inr ⟨_, rfl, List.mem_map_of_mem hmem⟩) hrest hjoin

/-- A path that leads somewhere mentions a reserved field only if it starts there at a stored
column or a joined document. -/
theorem followPath_mentions {ending : Ending} (h : c.followPath ctx path = (.ok ending, ctx'))
    (hmention : x ∈ ending.target.render.roots) : ctx'.Supplies x := by
  obtain ⟨name, rest, hsegments, -, hstart⟩ := followPath_ok h
  have hnames : name :: rest ⊆ Text.segments path := by rw [hsegments]; exact List.Subset.refl _
  obtain ⟨hname, hrest⟩ := List.cons_subset.mp hnames
  rcases hstart with ⟨type, -, hvalue⟩ | ⟨-, hfollow⟩
  · have hcomputed := follow_value_mentions hplain hx hrest hvalue hmention
    exact absurd (Value.eq_of_mem_roots_path hcomputed) (pathStart_ne_of_mem_segments hname hx)
  · exact follow_mentions hplain hx (.inl ⟨rfl, rfl⟩) hnames hfollow hmention

end Paths

theorem fieldExpr_mentions (hplain : c.schema.hasPlainCollections = true)
    (h : c.fieldExpr ctx path = .ok ((e, type), ctx')) :
        ∀ x ∈ e.roots, IsReserved x → ctx'.Supplies x := by
  intro x hmention hx
  obtain ⟨ending, hpath, rfl⟩ := fieldExpr_ok h
  exact followPath_mentions hplain hx hpath hmention

theorem followPath_nests {ending : Ending} (h : c.followPath ctx path = (.ok ending, ctx')) :
    Nests c ctx ctx' :=
  have halike := followPath_alike h
  .quiet halike.model (followPath_reads h).1.aliases halike.stages halike.count

theorem fieldExpr_nests (h : c.fieldExpr ctx path = .ok ((e, type), ctx')) :
    Nests c ctx ctx' := by
  obtain ⟨ending, hpath, -⟩ := fieldExpr_ok h
  exact followPath_nests hpath

theorem nests_alongPaths : c.AlongPaths (Nests c) := ⟨.refl, .trans, fieldExpr_nests⟩

/-! ## Parts of queries -/

/-- A part of a query was compiled to expressions that mention given fields.  Among the reserved
ones are only those that the context then offers. -/
structure MentionsOffered (c : Compiler) (ctx ctx' : Context) (mentions : List String) :
    Prop where
  nests : Nests c ctx ctx'
  offered : ∀ x ∈ mentions, IsReserved x → ctx'.Offers c.config x

namespace MentionsOffered

variable {after : Context} {xs ys zs : List String}

theorem of_nests (h : Nests c ctx ctx') : MentionsOffered c ctx ctx' [] := ⟨h, by simp⟩

theorem refl (ctx : Context) : MentionsOffered c ctx ctx [] := .of_nests (.refl ctx)

/-- Two parts were compiled one after the other. -/
theorem append (h : MentionsOffered c ctx after xs) (h' : MentionsOffered c after ctx' ys) :
    MentionsOffered c ctx ctx' (xs ++ ys) where
  nests := h.nests.trans h'.nests
  offered := by
    intro x hx hreserved
    rcases List.mem_append.mp hx with hfirst | hsecond
    · exact h'.nests.offers (h.offered x hfirst hreserved)
    · exact h'.offered x hsecond hreserved

/-- What is put together of parts mentions no more than they do. -/
theorem subset (h : MentionsOffered c ctx ctx' xs) (hsub : ys ⊆ xs) :
    MentionsOffered c ctx ctx' ys :=
  ⟨h.nests, fun x hx => h.offered x (hsub hx)⟩

/-- Contexts that differ in what is not mentioned make no difference. -/
theorem within {inside inside' : Context} (hfirst : Context.IsSame ctx inside)
    (h : MentionsOffered c inside inside' xs)
    (hlast : Context.IsSame inside' ctx') : MentionsOffered c ctx ctx' xs where
  nests := (Nests.of_same hfirst).trans (h.nests.trans (.of_same hlast))
  offered := fun x hx hreserved => (Nests.of_same (c := c) hlast).offers
    (h.offered x hx hreserved)

end MentionsOffered

section Parts

variable (hplain : c.schema.hasPlainCollections = true)
include hplain

theorem fieldExpr_offered (h : c.fieldExpr ctx path = .ok ((e, type), ctx')) :
    MentionsOffered c ctx ctx' e.roots :=
  ⟨fieldExpr_nests h, fun x hx hreserved => .inl (fieldExpr_mentions hplain h x hx hreserved)⟩

theorem resolveLookup_offered {r : Resolved} {after : Context}
    (h : c.resolveLookup ctx path = (.ok r, after)) :
    MentionsOffered c ctx (noteLookup r after) r.target.render.roots := by
  obtain ⟨ending, hpath, hcompared⟩ := resolveLookup_ok h
  obtain ⟨rfl, -⟩ := compared_ok hcompared
  have hnote := Nests.of_same (c := c) (.noteLookup ⟨ending.target, ending.lookup?.getD .exact,
    ending.joins⟩ after)
  exact ⟨(followPath_nests hpath).trans hnote, fun x hx hreserved =>
    hnote.offers (.inl (followPath_mentions hplain hreserved hpath hx))⟩

omit hplain in
theorem buildOn_offered {r : Resolved} {after : Context} {w : Value} {xs : List String}
    (htarget : MentionsOffered c ctx after r.target.render.roots)
    (hw : MentionsOffered c after ctx' xs)
    (hroots : w.roots ⊆ xs) (h : r.lookup.buildOn r.target w = .ok e) :
        MentionsOffered c ctx ctx' e.roots := by
  refine (htarget.append hw).subset fun x hx => ?_
  rcases Lookup.mem_roots_buildOn h hx with hpath | hoperand
  · exact List.mem_append_left _ hpath
  · exact List.mem_append_right _ (hroots hoperand)

/-- What a subquery takes from the rows of its enclosing query. -/
theorem outerBindings_mentions {index : Nat} {paths : List String} {bindings : Document}
    (h : c.outerBindings ctx index paths = .ok (bindings, ctx')) :
    ∀ m ∈ bindings, ∀ x ∈ m.2.roots, IsReserved x → ctx'.Supplies x := by
  induction paths generalizing ctx index bindings with
  | nil =>
    obtain ⟨rfl, -⟩ := Prod.mk.inj (Except.ok.inj h)
    simp
  | cons path rest ih =>
    obtain ⟨v, type, after, others, hv, hrest, rfl⟩ := outerBindings_cons_ok h
    have hlater : Nests c after ctx' := nests_alongPaths.outerBindings hrest
    refine List.forall_mem_cons.mpr ⟨fun x hx hreserved => ?_, ih hrest⟩
    exact (fieldExpr_mentions hplain hv x hx hreserved).mono hlater.model hlater.aliases

/-- Of the result of a subquery its field is mentioned. -/
theorem compileSubquery_offered {wrap : Bool} {q : Query}
    (h : c.compileSubquery ctx wrap q = .ok (e, ctx')) :
    MentionsOffered c ctx ctx' e.roots := by
  obtain ⟨n, hn, hplaced⟩ := compileSubquery_ok h
  obtain ⟨bindings, after, hbindings, rfl, rfl⟩ := placeSubquery_ok hplaced
  have hmentions := outerBindings_mentions hplain hbindings
  have hplace : Nests c after (after.nextSubquery.2.pushStages
      [.lookup n.model.collection bindings (n.placed q wrap) (c.config.subqueryField
        after.subqueryCount), firstOrEmpty (c.config.subqueryField after.subqueryCount)]) :=
    ⟨rfl, List.Subset.refl _, _, rfl, .snoc (.nil _) wrap hn hmentions⟩
  refine ⟨(nests_alongPaths.outerBindings hbindings).trans hplace, fun x hx _ => ?_⟩
  refine .inr ⟨after.subqueryCount, Nat.lt_succ_self _, ?_⟩
  rw [← Value.pathStart_extend _ n.column.1]
  refine Value.eq_of_mem_roots_path ?_
  simpa only [String.append_assoc] using hx

end Parts

/-! ## Trees -/

mutual

theorem compileFilter_offered (hplain : c.schema.hasPlainCollections = true) (ctx : Context)
    {ctx' : Context} (f : Filter) {e : Value}
    (h : c.compileFilter ctx f = .ok (e, ctx')) : MentionsOffered c ctx ctx' e.roots := by
  match f with
  | .lookup path operand =>
    by_cases hcomputed : isComputed operand = true
    · obtain ⟨r, after, w, type, hr, hbuild, hw⟩ := compileFilter_computed_ok hcomputed h
      exact buildOn_offered (resolveLookup_offered hplain hr) (compileExpr_offered
        hplain _ operand hw) (List.Subset.refl _) hbuild
    · match operand with
      | .literal v =>
        obtain ⟨r, after, w, hr, hbuild, hw, rfl⟩ := compileFilter_literal_ok h
        obtain ⟨u, rfl, -⟩ := Lookup.literal_ok hw
        exact buildOn_offered (resolveLookup_offered hplain hr) (.refl _) (by simp) hbuild
      | .list items =>
        obtain ⟨r, after, vs, hr, hbuild, -, hvs⟩ := compileFilter_list_ok h
        exact buildOn_offered (resolveLookup_offered hplain hr) (compileItems_offered hplain _
          items hvs) (by simp) hbuild
      | .subquery q =>
        obtain ⟨r, after, w, hr, hbuild, hw⟩ := compileFilter_subquery_ok h
        exact buildOn_offered (resolveLookup_offered hplain hr)
          (compileSubquery_offered hplain hw) (List.Subset.refl _) hbuild
      | .field _ | .outer _ | .combined _ _ _ | .case _ _ | .condition _ =>
        exact absurd rfl hcomputed
  | .and filters =>
    obtain ⟨es, hes, rfl⟩ := compileFilter_and_ok h
    exact (compileFilters_offered hplain ctx filters hes).subset fun x hx =>
      List.mem_flatMap.mpr (Value.mem_roots_conjunction hx)
  | .or filters =>
    obtain ⟨es, inside, hes, rfl, rfl⟩ := compileFilter_or_ok h
    refine .within (.enter ctx) ((compileFilters_offered hplain ctx.enter filters hes).subset
      ?_) (.leave inside)
    exact fun x hx => List.mem_flatMap.mpr (Value.mem_roots_disjunction hx)
  | .not filter =>
    obtain ⟨v, inside, hv, rfl, rfl⟩ := compileFilter_not_ok h
    rw [Value.roots_negation]
    exact .within (.enter ctx) (compileFilter_offered hplain ctx.enter filter hv)
      (.leave inside)
  | .exists q =>
    obtain ⟨v, hv, rfl⟩ := compileFilter_exists_ok h
    exact (compileSubquery_offered hplain hv).subset fun _ => Value.mem_roots_nullCheck

theorem compileFilters_offered (hplain : c.schema.hasPlainCollections = true) (ctx : Context)
    {ctx' : Context} (filters : List Filter) {es : List Value}
    (h : c.compileFilters ctx filters = .ok (es, ctx')) :
        MentionsOffered c ctx ctx' (es.flatMap Value.roots) := by
  match filters with
  | [] =>
    rw [compileFilters] at h
    obtain ⟨rfl, rfl⟩ := Prod.mk.inj (Except.ok.inj h)
    exact .refl _
  | f :: rest =>
    obtain ⟨v, after, others, hv, hrest, rfl⟩ := compileFilters_cons_ok h
    exact (compileFilter_offered hplain ctx f hv).append (compileFilters_offered hplain
      after rest hrest)

theorem compileItems_offered (hplain : c.schema.hasPlainCollections = true) {r : Resolved}
    (ctx : Context)
    {ctx' : Context} (items : List Expr) {es : List Value}
    (h : c.compileItems r ctx items = .ok (es, ctx')) :
    MentionsOffered c ctx ctx' (es.flatMap Value.roots) := by
  match items with
  | [] =>
    rw [compileItems] at h
    obtain ⟨rfl, rfl⟩ := Prod.mk.inj (Except.ok.inj h)
    exact .refl _
  | item :: rest =>
    obtain ⟨v, after, others, hrest, rfl, hitem⟩ := compileItems_cons_ok h
    have hfirst : MentionsOffered c ctx after v.roots := by
      rcases hitem with ⟨w, -, hw, rfl⟩ | ⟨type, hexpr⟩
      · obtain ⟨u, -, rfl⟩ := Lookup.scalarLiteral_ok hw
        rw [Value.roots_protect]
        exact .refl _
      · exact compileExpr_offered hplain ctx item hexpr
    exact hfirst.append (compileItems_offered hplain after rest hrest)

theorem compileExpr_offered (hplain : c.schema.hasPlainCollections = true) (ctx : Context)
    {ctx' : Context} (body : Expr) {e : Value} {type : ValueType}
    (h : c.compileExpr ctx body = .ok ((e, type), ctx')) :
        MentionsOffered c ctx ctx' e.roots := by
  match body with
  | .literal v =>
    rw [compileExpr] at h
    obtain ⟨hpair, rfl⟩ := Prod.mk.inj (Except.ok.inj h)
    obtain ⟨rfl, -⟩ := Prod.mk.inj hpair
    rw [Value.roots_protectAlone]
    exact .refl _
  | .field path =>
    rw [compileExpr] at h
    exact fieldExpr_offered hplain h
  | .outer path =>
    rw [compileExpr] at h
    obtain ⟨index, hindex, rfl⟩ := outerExpr_ok h
    exact ⟨.outerRef hindex, by rw [Value.roots_variable]; simp⟩
  | .list items =>
    obtain ⟨es, hes, rfl⟩ := compileExpr_list_ok h
    rw [Value.roots_array]
    exact compileExprs_offered hplain ctx items hes
  | .combined op left right =>
    obtain ⟨a, s, after, b, t, ha, hb, rfl⟩ := compileExpr_combined_ok h
    rw [Value.roots_combine]
    exact (compileExpr_offered hplain ctx left ha).append (compileExpr_offered hplain
      after right hb)
  | .case branches otherwise =>
    obtain ⟨bs, after, v, hbs, hv, rfl⟩ := compileExpr_case_ok h
    have hboth :=
      (compileBranches_offered hplain ctx branches hbs).append (compileExpr_offered hplain
        after otherwise hv)
    refine hboth.subset fun x hx => ?_
    rw [List.mem_append, List.mem_flatMap]
    exact Value.mem_roots_caseDistinction hx
  | .condition filter =>
    exact compileFilter_offered hplain ctx filter (compileExpr_condition_ok h)
  | .subquery q => exact compileSubquery_offered hplain (compileExpr_subquery_ok h)

theorem compileExprs_offered (hplain : c.schema.hasPlainCollections = true) (ctx : Context)
    {ctx' : Context} (items : List Expr) {es : List Value}
    (h : c.compileExprs ctx items = .ok (es, ctx')) :
        MentionsOffered c ctx ctx' (es.flatMap Value.roots) := by
  match items with
  | [] =>
    rw [compileExprs] at h
    obtain ⟨rfl, rfl⟩ := Prod.mk.inj (Except.ok.inj h)
    exact .refl _
  | item :: rest =>
    obtain ⟨v, type, after, others, hv, hrest, rfl⟩ := compileExprs_cons_ok h
    exact (compileExpr_offered hplain ctx item hv).append (compileExprs_offered hplain
      after rest hrest)

theorem compileBranches_offered (hplain : c.schema.hasPlainCollections = true) (ctx : Context)
    {ctx' : Context} (branches : List (Filter × Expr)) {es : List Value}
    (h : c.compileBranches ctx branches = .ok (es, ctx')) :
        MentionsOffered c ctx ctx' (es.flatMap Value.roots) := by
  match branches with
  | [] =>
    rw [compileBranches] at h
    obtain ⟨rfl, rfl⟩ := Prod.mk.inj (Except.ok.inj h)
    exact .refl _
  | (f, body) :: rest =>
    obtain ⟨condition, after, v, type, after', others, hf, hv, hrest, rfl⟩ :=
      compileBranches_cons_ok h
    rw [List.flatMap_cons, Value.roots_branch]
    exact ((compileFilter_offered hplain ctx f hf).append (compileExpr_offered hplain after
      body hv)).append (compileBranches_offered hplain after' rest hrest)

end

end Compiler

end DocQuery
