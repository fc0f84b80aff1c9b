import DocQuery.Proofs.ClosedQueries
import DocQuery.Proofs.FilledPipelines
import DocQuery.Proofs.Subqueries
set_option autoImplicit false

/-!
# Proofs: outer references stand for values

A subquery refers to the enclosing query by variables, and so do the joins and subqueries inside
it, by variables of the same names.  Still each of them sees its own:  the stages of a subquery
give what they give with the values of its outer references written into its own expressions.
-/

namespace DocQuery

/-! ## Bound variables -/

namespace Document

theorem value?_insertAll_of_notMem {members : Document} {name : String}
    (h : name ∉ members.names)
    (d : Document) : value? (insertAll d members) name = value? d name := by
  induction members generalizing d with
  | nil => rfl
  | cons m rest ih =>
    simp only [names, List.map_cons, List.mem_cons, not_or] at h
    exact (ih h.2 _).trans (value?_insert_ne d m.2 (Ne.symm h.1))

/-- Members of different names are all set. -/
theorem value?_insertAll_of_nodup {members : Document} (hnodup : members.names.Nodup)
    {name : String} {v : Value} (h : value? members name = some v) (d : Document) :
    value? (insertAll d members) name = some v := by
  induction members generalizing d with
  | nil => simp at h
  | cons m rest ih =>
    obtain ⟨key, w⟩ := m
    simp only [names, List.map_cons, List.nodup_cons] at hnodup
    by_cases hkey : key = name
    · subst hkey
      have hw : w = v := by simpa [value?] using h
      refine (value?_insertAll_of_notMem hnodup.1 _).trans ?_
      rw [hw]
      exact value?_insert_self d key v
    · rw [value?, if_neg hkey] at h
      exact ih hnodup.2 h _

theorem isSome_value?_iff {d : Document} {name : String} :
    (value? d name).isSome = true ↔ name ∈ d.names := by
  induction d with
  | nil => simp [names]
  | cons m rest ih =>
    obtain ⟨key, w⟩ := m
    simp only [names] at ih
    by_cases hkey : key = name
    · simp [value?, names, hkey]
    · simp [value?, names, hkey, ih, Ne.symm hkey]

/-- Variables on top of others are known. -/
theorem knows_insertAll {known : Document} (hnodup : known.names.Nodup)
    (hplain : ∀ name ∈ known.names, Scope.isRootName name = false) (vars lacking : Document) :
    Knows known known.names (insertAll vars known) lacking where
  plain := fun name hname _ _ => hplain name hname
  bound := fun name _ v hv => value?_insertAll_of_nodup hnodup hv vars
  others := by
    intro name hname hnone
    rw [← isSome_value?_iff, hnone] at hname
    simp at hname

end Document

/-! ## Names of variables -/

namespace Config

theorem nodup_parentVariables (config : Config) (first count : Nat) :
    (config.parentVariables first count).Nodup :=
  List.Nodup.map (fun _ _ h => numbered_injective config.parentPrefix h) List.nodup_range'

/-- A name that a numbered one with a usual prefix is not: it starts with another letter. -/
theorem parentVariable_usual_ne {name : String} (h : name.toList.head? ≠ some 'p')
    (index : Nat) : Config.usual.parentVariable index ≠ name := by
  rintro rfl
  simp [parentVariable, usual] at h

theorem not_isRootName_of_mem {first count : Nat} {name : String}
    (h : name ∈ Config.usual.parentVariables first count) : Scope.isRootName name = false := by
  obtain ⟨index, -, rfl⟩ := List.mem_map.mp h
  exact isRootName_numbered _ index

theorem itemName_notMem (first count : Nat) :
    Access.itemName ∉ Config.usual.parentVariables first count := by
  intro h
  obtain ⟨index, -, heq⟩ := List.mem_map.mp h
  exact parentVariable_usual_ne (by decide) index heq

end Config

namespace Compiler

open Context (Extends)
open Stage (RefersAtMost boundValues)

variable {c : Compiler} {ctx ctx' : Context}

/-! ## References -/

theorem names_outerBindings {index : Nat} {paths : List String} {bindings : Document}
    (h : c.outerBindings ctx index paths = .ok (bindings, ctx')) :
    bindings.names = c.config.parentVariables index paths.length := by
  induction paths generalizing ctx index bindings with
  | nil =>
    obtain ⟨rfl, -⟩ := Prod.mk.inj (Except.ok.inj h)
    rfl
  | cons path rest ih =>
    obtain ⟨e, type, after, others, -, hrest, rfl⟩ := outerBindings_cons_ok h
    have hothers := ih hrest
    rw [List.length_cons, Config.parentVariables_succ, ← hothers]
    rfl

theorem nodup_outerBindings {index : Nat} {paths : List String} {bindings : Document}
    (h : c.outerBindings ctx index paths = .ok (bindings, ctx')) : bindings.names.Nodup := by
  rw [names_outerBindings h]
  exact Config.nodup_parentVariables _ _ _

/-- The variable of an outer reference is bound to what its path leads to in the enclosing
query. -/
theorem outerBindings_getElem? {index : Nat} {paths : List String} {bindings : Document}
    (h : c.outerBindings ctx index paths = .ok (bindings, ctx')) {i : Nat} {path : String}
    (hpath : paths[i]? = some path) :
    ∃ before e type after, c.fieldExpr before path = .ok ((e, type), after) ∧
      bindings[i]? = some (c.config.parentVariable (index + i), e) ∧
      Extends c.config ctx before ∧ Extends c.config after ctx' := by
  induction paths generalizing ctx index bindings i with
  | nil => simp at hpath
  | cons first rest ih =>
    obtain ⟨e, type, after, others, he, hrest, rfl⟩ := outerBindings_cons_ok h
    cases i with
    | zero =>
      obtain rfl : first = path := by simpa using hpath
      exact ⟨ctx, e, type, after, he, rfl, .refl ctx, extends_alongPaths.outerBindings hrest⟩
    | succ i =>
      obtain ⟨before, e', type', last, he', hi, hbefore, hlast⟩ :=
        ih hrest (by simpa using hpath)
      refine ⟨before, e', type', last, he', ?_, (fieldExpr_extends he).trans hbefore, hlast⟩
      rw [List.getElem?_cons_succ, hi, Nat.add_right_comm, Nat.add_assoc]

/-- An outer reference has the number of its path. -/
theorem outerRef_getElem? {path : String} {index : Nat}
    (h : ctx.outerRef path = (some index, ctx')) :
    (ctx'.outerRefs.getD [])[index]? = some path := by
  unfold Context.outerRef at h
  split at h
  · simp at h
  · rename_i refs hrefs
    split at h
    · rename_i found hfound
      obtain ⟨hindex, rfl⟩ := Prod.mk.inj h
      obtain rfl := Option.some.inj hindex
      obtain ⟨hlt, heq, -⟩ := List.findIdx?_eq_some_iff_getElem.mp hfound
      simp only [hrefs, Option.getD_some]
      rw [List.getElem?_eq_getElem hlt, eq_of_beq heq]
    · obtain ⟨hindex, rfl⟩ := Prod.mk.inj h
      obtain rfl := Option.some.inj hindex
      simp

/-- Where the filter of a nested query mentions a path of the enclosing query, the path is
compiled to its variable. -/
theorem nested_mentions_outer {q : Query} {n : Nested} {g : Filter} {path : String}
    (hn : c.nested q = .ok n) (hg : q.filter = some g) (hmention : g.Mentions (.outer path)) :
    ∃ i before type after, n.outer[i]? = some path ∧
      Extends c.config (.ofSubquery n.model) before ∧
      c.outerExpr before path = .ok ((.string ("$$" ++ c.config.parentVariable i),
          type), after) := by
  obtain ⟨p, inner, -, hplan, -, -, houter⟩ := nested_ok hn
  obtain ⟨loaded, computed, condition, filtered, -, -, hcondition, -, hinto, hout, -⟩ :=
    planWith_filter_ok hg hplan
  obtain ⟨before, e, after, ⟨type, he⟩, hbefore, hafter⟩ :=
    compileFilter_mentions hmention hcondition
  obtain ⟨i, hi, rfl⟩ := outerExpr_ok he
  obtain ⟨others, hothers⟩ := (hafter.trans hout).outer
  have hnumber := outerRef_getElem? hi
  obtain ⟨hlt, -⟩ := List.getElem?_eq_some_iff.mp hnumber
  refine ⟨i, before, type, after, ?_, hinto.trans hbefore, he⟩
  rw [houter, ← hothers, List.getElem?_append_left hlt, hnumber]

/-- A query that the filter of a planned query mentions has its stages in the plan, and its
outer references are resolved where the computed columns are known. -/
theorem planned_mention_ok {m : Model} {start final : Context} {outer q : Query}
    {p : Plan} {f : Filter}
    (hstart : start = .ofModel m ∨ start = .ofSubquery m) (hfilter : outer.filter = some f)
    (hmention : f.Mentions (.query q))
    (hplan : c.planWith start outer (fun ctx => c.compileAnnotations [] ctx outer.annotations)
      (fun ctx => c.compileCondition ctx outer.filter) = .ok (p, final)) :
    ∃ (n : Nested) (bindings : Document) (wrap : Bool) (k : Nat) (condition : Value)
      (before after : Context), c.nested q = .ok n ∧ PlacedAt c.config final n bindings
      (n.placed q wrap) k ∧ c.outerBindings before 0 n.outer = .ok (bindings, after) ∧
      Extends c.config start before ∧ (∀ name ∈ outer.annotations.map (·.1),
      (before.computedType? name).isSome = true) ∧
      (∀ s ∈ p.annotations, ∃ fields, s = .addFields fields) ∧
      c.source final p = final.joins.flatMap (fun j => j.2.stages c.config) ++
        (final.subqueryStages ++ p.annotations) ++ [Stage.selectExpr condition] := by
  obtain ⟨loaded, computed, condition, filtered, hannotations, -, hcondition, hsource, hinto,
      hout, hknown⟩ :=
    planWith_filter_ok hfilter hplan
  obtain ⟨before, e, after, ⟨wrap, he⟩, hbefore, hafter⟩ :=
    compileFilter_mentions hmention hcondition
  obtain ⟨n, bindings, resolved, hn, hbindings, -, hplaced⟩ :=
    compileSubquery_placedAt hstart (hinto.trans hbefore) he (hafter.trans hout)
  exact ⟨n, bindings, wrap, _, condition, before, resolved, hn, hplaced, hbindings,
    hinto.trans hbefore, fun name hname => hbefore.computed name (hknown name hname),
    compileAnnotations_addFields hannotations, hsource⟩

/-! ## Own stages -/

/-- Computed columns are added by flat stages. -/
theorem compileAnnotations_flat {pending : Document} {annotations : List (String × Expr)}
    {stages : List Stage}
    (h : c.compileAnnotations pending ctx annotations = .ok (stages, ctx')) :
    ∀ s ∈ stages, s.isFlat = true := by
  intro s hs
  obtain ⟨fields, rfl⟩ := compileAnnotations_addFields h s hs
  rfl

/-- Whether a stage is flat or refers to no variables. -/
def IsOwn (s : Stage) : Prop := s.isFlat = true ∨ s.Closed []

theorem isOwn_addColumns (columns : Document) : ∀ s ∈ addColumns columns, IsOwn s := by
  unfold addColumns
  split
  · simp
  · exact List.forall_mem_singleton.mpr (.inl rfl)

theorem isOwn_source (hc : c.IsPlain) {p : Plan} (hctx : ctx.IsTidy c.config)
    (hannotations : ∀ s ∈ p.annotations, s.isFlat = true) : ∀ s ∈ c.source ctx p, IsOwn s := by
  refine List.forall_mem_append.mpr
    ⟨List.forall_mem_append.mpr ⟨?_, fun s hs => .inl (hannotations s hs)⟩, ?_⟩
  · refine List.forall_mem_append.mpr ⟨fun s hs => ?_, fun s hs => .inr (hctx.subqueries s hs)⟩
    obtain ⟨j, hj, hstage⟩ := List.mem_flatMap.mp hs
    exact .inr (Join.closed_stages hc.config (hctx.joins j hj) s hstage)
  · cases p.filter with
    | none => simp
    | some f => exact List.forall_mem_singleton.mpr (.inl rfl)

theorem isOwn_of_closed {stages : List Stage} (h : ∀ s ∈ stages, s.Closed []) :
    ∀ s ∈ stages, IsOwn s :=
  fun s hs => .inr (h s hs)

theorem isOwn_assembled (hc : c.IsPlain) {q : Query} {p : Plan}
    {others : Except CompileError (List Stage)}
    {stages : List Stage} (hctx : ctx.IsTidy c.config) (hcolumns : ClosedColumns [] p.columns)
    (hannotations : ∀ s ∈ p.annotations, s.isFlat = true) (horder : ∀ s ∈ p.order, IsOwn s)
    (hwindow : ∀ s ∈ p.window, s.Closed [])
    (hothers : ∀ added, others = .ok added → ∀ s ∈ added, s.Closed [])
    (h : c.assembleWith ctx q p others = .ok stages) : ∀ s ∈ stages, IsOwn s := by
  have hsource := isOwn_source hc hctx hannotations
  have hproject : ∀ s ∈ [Stage.project (projectionOf p.columns)], IsOwn s :=
    List.forall_mem_singleton.mpr (.inl rfl)
  rcases assembleWith_ok h with rfl | ⟨added, keepAll, hadded, rfl⟩
  · refine List.forall_mem_append.mpr ⟨?_, hproject⟩
    exact List.forall_mem_append.mpr
      ⟨List.forall_mem_append.mpr ⟨hsource, horder⟩, isOwn_of_closed hwindow⟩
  · have hnames : ∀ name ∈ (projectionOf p.columns).names, isOperatorName name = false := by
      intro name hname
      obtain ⟨m, hm, rfl⟩ := List.mem_map.mp hname
      exact (closed_projectionOf hcolumns m hm).1
    have hdistinct : ∀ s ∈ if keepAll then [] else distinct (projectionOf p.columns).names,
        s.Closed [] := by
      split
      · simp
      · exact closed_distinct hnames
    have hfront := List.forall_mem_append.mpr
      ⟨List.forall_mem_append.mpr ⟨hsource, hproject⟩, isOwn_of_closed (hothers added hadded)⟩
    refine List.forall_mem_append.mpr ⟨?_, isOwn_of_closed hwindow⟩
    exact List.forall_mem_append.mpr
      ⟨List.forall_mem_append.mpr ⟨hfront, isOwn_of_closed hdistinct⟩,
        isOwn_of_closed (closed_sortBy _)⟩

theorem isOwn_placed {n : Nested} (hn : ClosedNested c.config n)
    (h : ∀ s ∈ n.stages, IsOwn s) (q : Query)
    (wrap : Bool) : ∀ s ∈ n.placed q wrap, IsOwn s := by
  have hname : Value.Closed [] (.string ("$" ++ n.column.1)) := Value.closed_column hn.name
  unfold Nested.placed wrapped
  split
  · split
    · exact List.forall_mem_append.mpr ⟨h, isOwn_of_closed (closed_collecting _ hname)⟩
    · refine List.forall_mem_append.mpr ⟨fun s hs => h s (List.dropLast_subset _ hs), ?_⟩
      exact isOwn_of_closed (closed_collecting _ hn.column)
  · exact h

/-- A nested query only refers to variables of its own outer references, and that only outside
the joins and the subqueries inside it. -/
theorem nested_refersAtMost (hc : c.IsPlain) {q : Query} {n : Nested}
    (hq : q.hasPlainNames = true) (hn : c.nested q = .ok n) (wrap : Bool) :
    ∀ s ∈ n.placed q wrap, RefersAtMost (c.config.parentVariables 0 n.outer.length) s := by
  match q with
  | .mk model filter annotations values orderBy offset limit related union =>
    simp only [Query.hasPlainNames, Bool.and_eq_true] at hq
    obtain ⟨p, inner, hplan, hstages, houter, htidy, hclosed⟩ := nested_plan_closed_of hc
      (q := .mk model filter annotations values orderBy offset limit related union)
      (Query.plain_of_columnsHavePlainNames hq.1.2)
      (fun hctx h => compileAnnotations_closed hc annotations hq.1.2 hctx (by simp) h)
      (fun hctx h => compileCondition_closed hc filter hq.1.1 hctx h) hn
    have hothers : ∀ added, c.compileUnion union = .ok added → ∀ s ∈ added, s.Closed [] :=
      fun added hadded => compileUnion_closed hc union hq.2 hadded
    obtain ⟨loaded, stages, computed, condition, filtered, keys, fields, sorted, columns, -,
      hannotations, -, -, -, rfl⟩ := planWith_ok hplan
    have horder : ∀ s ∈ addColumns fields ++ sortBy keys, IsOwn s :=
      List.forall_mem_append.mpr ⟨isOwn_addColumns fields, isOwn_of_closed (closed_sortBy keys)⟩
    have hown := isOwn_assembled hc htidy hclosed.columns (compileAnnotations_flat hannotations)
      horder (closed_windowOf offset limit) hothers hstages
    have hnested := hclosed.closedNested hc htidy houter hstages hothers
    exact fun s hs => ⟨hnested.placed _ wrap s hs, isOwn_placed hnested hown _ wrap s hs⟩

/-! ## Runs -/

/-- Where the outer references of a nested query are bound, it gives what it gives where nothing
is bound, once their values are filled in. -/
theorem runAll_filled (hc : c.IsPlain) (husual : c.config = .usual) {q : Query} {n : Nested}
    (hq : q.hasPlainNames = true) (hn : c.nested q = .ok n) {bindings : Document}
    (hbindings : c.outerBindings ctx 0 n.outer = .ok (bindings, ctx')) {scope : Scope}
    {values : List (String × Option Value)}
    (hvalues : Stage.computed scope bindings = .ok values)
    (wrap : Bool) (store : Store) (vars lacking : Document) (docs : List Value) :
    Stage.runAll store ((n.placed q wrap).map (Stage.fill (boundValues values))) lacking docs =
      Stage.runAll store (n.placed q wrap) (Document.insertAll vars (boundValues values))
          docs := by
  have hnames : (boundValues values).names = c.config.parentVariables 0 n.outer.length :=
    (Stage.names_boundValues hvalues).trans (names_outerBindings hbindings)
  have hknows : Document.Knows (boundValues values) (boundValues values).names
      (Document.insertAll vars (boundValues values)) lacking := by
    refine Document.knows_insertAll ?_ (fun name hname => ?_) vars lacking
    · rw [hnames]
      exact Config.nodup_parentVariables _ _ _
    · rw [hnames, husual] at hname
      exact Config.not_isRootName_of_mem hname
  have hitem : Document.value? (boundValues values) Access.itemName = none := by
    have hnotMem : Access.itemName ∉ (boundValues values).names := by
      rw [hnames, husual]
      exact Config.itemName_notMem _ _
    rw [← Document.isSome_value?_iff] at hnotMem
    simpa using hnotMem
  rw [hnames] at hknows
  exact Stage.runAll_fill (nested_refersAtMost hc hq hn wrap) hitem hknows docs

/-- The value of an outer reference: what its path leads to, or null. -/
theorem value?_boundValues {scope : Scope} {bindings : Document}
    {values : List (String × Option Value)}
    (hvalues : Stage.computed scope bindings = .ok values)
    (hnodup : bindings.names.Nodup) {i : Nat}
    {name : String} {e : Value} (hi : bindings[i]? = some (name, e)) :
    ∃ v, e.eval scope = .ok v ∧
      Document.value? (boundValues values) name = some (v.getD .null) := by
  induction bindings generalizing values i with
  | nil => simp at hi
  | cons m rest ih =>
    obtain ⟨key, body⟩ := m
    simp only [Document.names, List.map_cons, List.nodup_cons] at hnodup
    simp only [Stage.computed] at hvalues
    split at hvalues
    · simp at hvalues
    · rename_i v hv
      split at hvalues
      · simp at hvalues
      · rename_i others hothers
        obtain rfl := Except.ok.inj hvalues
        cases i with
        | zero =>
          obtain ⟨rfl, rfl⟩ : key = name ∧ body = e := by simpa using hi
          exact ⟨v, hv, by simp [boundValues, Document.value?]⟩
        | succ i =>
          obtain ⟨w, hw, hvalue⟩ := ih hothers hnodup.2 (by simpa using hi)
          have hne : key ≠ name := by
            rintro rfl
            have hmem : (key, e) ∈ rest := List.mem_of_getElem? (by simpa using hi)
            exact hnodup.1 (List.mem_map_of_mem hmem)
          refine ⟨w, hw, ?_⟩
          simpa [boundValues, Document.value?, hne] using hvalue

/-- Outer references are hygienic.  Where a filter, at any depth, mentions another query, the
lookup for that query gives for a row what it gives without any variables, once the value of
each outer reference on the row stands in its place in the query's own expressions. -/
theorem outer_references_stand_for_values {m : Model} {start final : Context}
    {outer q : Query} {p : Plan} {f : Filter} (hc : c.IsPlain) (husual : c.config = .usual)
    (hstart : start = .ofModel m ∨ start = .ofSubquery m) (hfilter : outer.filter = some f)
    (hmention : f.Mentions (.query q)) (hq : q.hasPlainNames = true)
    (hplan : c.planWith start outer (fun ctx => c.compileAnnotations [] ctx outer.annotations)
      (fun ctx => c.compileCondition ctx outer.filter) = .ok (p, final)) :
    ∃ (n : Nested) (bindings : Document) (wrap : Bool) (k : Nat),
      c.nested q = .ok n ∧ PlacedAt c.config final n bindings (n.placed q wrap) k ∧
      (∀ g path, q.filter = some g → g.Mentions (.outer path) →
        ∃ i before type after, n.outer[i]? = some path ∧
          Extends c.config (.ofSubquery n.model) before ∧
          c.outerExpr before path = .ok ((.string ("$$" ++ c.config.parentVariable i),
            type), after)) ∧
      ∀ (store : Store) (vars : Document) (d : Value) (values : List (String × Option Value)),
        Stage.computed ⟨d, vars⟩ bindings = .ok values →
        (∀ i path, n.outer[i]? = some path → ∃ before e type after v,
          Extends c.config start before ∧ c.fieldExpr before path = .ok ((e, type), after) ∧
          e.eval ⟨d, vars⟩ = .ok v ∧ Document.value? (boundValues values)
          (c.config.parentVariable i) = some (v.getD .null)) ∧
        ∃ inner, Stage.bound ⟨d, vars⟩ vars bindings = .ok inner ∧
          ∀ (lacking : Document) (docs : List Value),
            Stage.runAll store (n.placed q wrap) inner docs =
              Stage.runAll store ((n.placed q wrap).map (Stage.fill (boundValues values)))
                  lacking docs := by
  obtain ⟨n, bindings, wrap, k, condition, before, after, hn, hplaced, hbindings,
      hbefore, -, -, -⟩ :=
    planned_mention_ok hstart hfilter hmention hplan
  refine ⟨n, bindings, wrap, k, hn, hplaced, fun g path hg hpath =>
    nested_mentions_outer hn hg hpath, fun store vars d values hvalues =>
    ⟨fun i path hi => ?_, ?_⟩⟩
  · obtain ⟨before', e', type, after', hpath, hbinding, hbefore', -⟩ :=
      outerBindings_getElem? hbindings hi
    rw [Nat.zero_add] at hbinding
    obtain ⟨v, hv, hvalue⟩ := value?_boundValues hvalues (nodup_outerBindings
      hbindings) hbinding
    exact ⟨before', e', type, after', v, hbefore.trans hbefore', hpath, hv, hvalue⟩
  · refine ⟨Document.insertAll vars (boundValues values), ?_, fun lacking docs => ?_⟩
    · rw [Stage.bound_eq, hvalues]
      rfl
    · exact (runAll_filled hc husual hq hn hbindings hvalues wrap store vars lacking docs).symm

/-- Authors and books. -/
def library : Compiler := ⟨⟨libraryModels⟩, .usual⟩

/-- The books whose author has the name asked for outside, and whose title is that of a book.
The join with the authors and the question for a title use one variable each, and both are
called like that for the name. -/
def booksByName : Query :=
  .mk "Book"
    (some (.and [.lookup "author__name" (.outer "name"),
      .exists (.mk "Book" (some (.lookup "title" (.outer "title"))) [] [] [] none
        none [] none)]))
    [] [] [] none none [] none

/-- The authors who have such a book. -/
def authorsOfBooks : Query :=
    .mk "Author" (some (.exists booksByName)) [] [] [] none none [] none

/-- An author with a book. -/
def oneBook : Store :=
  ⟨[("authors", [.object [("_id", .int 1), ("name", .string "Ann")]]),
    ("books", [.object [("_id", .int 5), ("author_id", .int 1), ("title", .string "Logic")]])]⟩

/-- The plan of the authors with such a book. -/
def authorsOfBooksPlan : Except CompileError (Plan × Context) :=
  library.planWith (.ofModel ⟨"Author", some "authors", false,
      [Model.primaryKey, ⟨"name", .scalar .string, true, none⟩]⟩) authorsOfBooks
    (fun ctx => library.compileAnnotations [] ctx authorsOfBooks.annotations)
    (fun ctx => library.compileCondition ctx authorsOfBooks.filter)

/-- Whether a plan asks for books once, with the author's name bound, and finds one. -/
def findsBookByName : Except CompileError (Plan × Context) → Bool
  | .ok (_, final) =>
    match final.subqueryStages with
    | [.lookup _ bindings pipeline _, _] =>
      match Stage.computed ⟨.object [("_id", .int 1), ("name", .string "Ann")],
          []⟩ bindings with
      | .ok [(name, some (.string value))] =>
        name == library.config.parentVariable 0 && value == "Ann" &&
          Stage.givesOne (Stage.runAll oneBook pipeline [(library.config.parentVariable 0,
            .string "Ann")] (oneBook.collection "books"))
      | _ => false
    | _ => false
  | .error _ => false

/-- The name is bound for the author, and one book is found. -/
theorem authorsOfBooksPlan_ok :
    ∃ (p : Plan) (final : Context) (bindings : Document) (pipeline : List Stage)
      (source target : String) (last : Stage) (book : Value), authorsOfBooksPlan =
      .ok (p, final) ∧ final.subqueryStages = [.lookup source bindings pipeline target, last] ∧
      Stage.computed ⟨.object [("_id", .int 1), ("name", .string "Ann")], []⟩ bindings =
        .ok [(library.config.parentVariable 0, some (.string "Ann"))] ∧
      Stage.runAll oneBook pipeline [(library.config.parentVariable 0, .string "Ann")]
        (oneBook.collection "books") = .ok [book] := by
  have hcheck : findsBookByName authorsOfBooksPlan = true := by decide +kernel
  unfold findsBookByName at hcheck
  split at hcheck <;> try simp at hcheck
  rename_i p final hplan
  split at hcheck <;> try simp at hcheck
  rename_i source bindings pipeline target last hstages
  split at hcheck <;> try simp at hcheck
  rename_i name value hvalues
  obtain ⟨⟨rfl, rfl⟩, hone⟩ := hcheck
  obtain ⟨book, hbook⟩ := Stage.exists_of_givesOne hone
  exact ⟨p, final, bindings, pipeline, source, target, last, book, hplan, hstages,
    hvalues, hbook⟩

/-- The book is found with the name in the place of the variable, whatever the variable is bound
to. -/
theorem oneBook_found_without_variable :
    ∃ (n : Nested) (wrap : Bool) (book : Value), library.nested booksByName = .ok n ∧
      ∀ lacking : Document,
        Stage.runAll oneBook
          ((n.placed booksByName wrap).map (Stage.fill [(library.config.parentVariable 0,
            .string "Ann")]))
          lacking (oneBook.collection "books") = .ok [book] := by
  obtain ⟨p, final, bindings, pipeline, source, target, last, book, hplan, hstages,
      hvalues, hbook⟩ :=
    authorsOfBooksPlan_ok
  have hc : library.IsPlain := ⟨by decide, Config.usual_isPlain⟩
  obtain ⟨n, others, wrap, k, hn, ⟨front, back, hfinal, -, -⟩, -, hruns⟩ :=
    outer_references_stand_for_values (q := booksByName) hc rfl (.inl rfl) rfl (.exists rfl)
    (by decide) hplan
  obtain rfl : front = [] := by
    have hlength := congrArg List.length (hstages.symm.trans hfinal)
    simp only [List.length_append, List.length_cons, List.length_nil] at hlength
    exact List.length_eq_zero_iff.mp (by omega)
  obtain ⟨-, rfl, rfl, -⟩ := Stage.lookup.inj (List.cons.inj (hstages.symm.trans hfinal)).1
  obtain ⟨-, inner, hinner, hsame⟩ := hruns oneBook [] _ _ hvalues
  rw [Stage.bound_eq, hvalues] at hinner
  obtain rfl := Except.ok.inj hinner
  exact ⟨n, wrap, book, hn, fun lacking =>
    (hsame lacking (oneBook.collection "books")).symm.trans hbook⟩

end Compiler

end DocQuery
