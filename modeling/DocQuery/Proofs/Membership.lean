import DocQuery.Proofs.Collecting
import DocQuery.Proofs.Existence
set_option autoImplicit false

/-!
# Proofs: membership in the values of a subquery

A lookup may ask whether what its path leads to is among the values of another query.  The other
query is wrapped, so that its first and only document holds these values in one array.
-/

namespace DocQuery

open Value
open Operator (found truth)

/-! ## What is compared -/

/-- The values that a lookup compares: what the access reaches, or what it reaches from each
item of an array. -/
def Access.compared (scope : Scope) : Access → Except ExecError (List (Option Value))
  | .each base inner =>
    match eval base.render scope with
    | .error e => .error e
    | .ok (some (.array items)) =>
      Stage.each (fun item => eval inner.render (scope.bind itemName item)) items
    | .ok v =>
      if (present v).isNone then .ok [] else .error (.typeError (.mapInput (typeName? v)))
  | a => (eval a.render scope).map fun v => [v]

/-- Whether one of some values is equal to one of some others. -/
def Value.meet (xs : List (Option Value)) (set : List Value) : Bool :=
  xs.any fun x => set.any fun y => compare? x (some y) == .eq

/-- An expression has a value that only depends on the document. -/
def Value.ReadsAs (e root : Value) (v : Option Value) : Prop :=
  ∀ vars, eval e ⟨root, vars⟩ = .ok v

theorem Access.compared_single {a : Access} (h : ∀ base inner, a ≠ .each base inner)
    (scope : Scope) : a.compared scope = (eval a.render scope).map fun v => [v] := by
  unfold Access.compared
  split
  · rename_i base inner
    exact absurd rfl (h base inner)
  · rfl

/-- A lookup for membership is a test of the value, or of some item. -/
theorem Lookup.buildOn_in_ok {target : Access} {e w : Value}
    (h : Lookup.in.buildOn target w = .ok e) : (∃ base inner, target = .each base inner ∧
        e = .operator "$anyElementTrue" (Access.mapOf base.render
          (binary "$in" inner.render w))) ∨
      (target.type.isMapped = false ∧ (∀ base inner, target ≠ .each base inner) ∧
        e = binary "$in" target.render w) := by
  unfold buildOn buildMapped at h
  split at h
  · split at h
    · rename_i hwhole
      simp at hwhole
    · split at h
      · exact .inl ⟨_, _, rfl, (Except.ok.inj h).symm⟩
      · simp at h
  · rename_i hmapped
    refine .inr ⟨by simpa using hmapped, ?_, (Except.ok.inj h).symm⟩
    rintro base inner rfl
    exact hmapped rfl

/-! ## Tests -/

namespace Value

variable {root : Value} {vars : Document}

/-- A membership test evaluates its left operand first. -/
theorem eval_in {a w : Value} {v : Option Value} (hw : w.ReadsAs root v) :
    eval (binary "$in" a w) ⟨root, vars⟩ =
      (eval a ⟨root, vars⟩).bind fun x => Operator.applyMembership x v := by
  refine (eval_operator_array .membership [a, w] ⟨root, vars⟩).trans ?_
  cases ha : eval a ⟨root, vars⟩ with
  | error error =>
    simp only [evalItems, ha]
    rfl
  | ok x =>
    rw [evalItems_pair ha (hw vars)]
    rfl

/-- A test of each item gives a truth value for each of them. -/
theorem mapItems_of_test (step : Value → Evaluation) (p : Option Value → Bool)
    (items : List Value) : mapItems (fun item => (step item).bind fun x => truth (p x)) items =
      (Stage.each step items).map fun xs => xs.map fun x => .bool (p x) := by
  induction items with
  | nil => rfl
  | cons item rest ih =>
    simp only [mapItems, Stage.each, ih]
    cases step item with
    | error error => rfl
    | ok x =>
      simp only [Except.bind, truth]
      cases Stage.each step rest <;> rfl

/-- Some item passes a test if the value of one of them does. -/
theorem eval_someItem {base inner : Access} {body : Value} {scope : Scope}
    {p : Option Value → Bool} (hbody : ∀ item, eval body (scope.bind Access.itemName item) =
      (eval inner.render (scope.bind Access.itemName item)).bind fun x => truth (p x)) :
    eval (.operator "$anyElementTrue" (Access.mapOf base.render body)) scope =
      ((Access.each base inner).compared scope).bind fun xs => truth (xs.any p) := by
  refine (eval_operator_single .anyElementTrue rfl scope).trans ?_
  rw [eval_mapOf_eq]
  simp only [hbody, Access.compared]
  cases hbase : eval base.render scope with
  | error error => rfl
  | ok v =>
    rcases v with _ | v
    · rfl
    · cases v with
      | array items =>
        show _ = (Stage.each (fun item => eval inner.render (scope.bind Access.itemName item))
          items).bind _
        have hitems := mapItems_of_test (fun item =>
          eval inner.render (scope.bind Access.itemName item)) p items
        rw [Except.bind, applyMap, hitems]
        cases Stage.each (fun item => eval inner.render (scope.bind Access.itemName item))
            items with
        | error error => rfl
        | ok xs =>
          show truth ((xs.map fun x => Value.bool (p x)).any isTruthy) = truth (xs.any p)
          rw [List.any_map]
          rfl
      | _ => rfl

/-- A map whose body fails on every item only has a value where there are no items. -/
theorem compared_of_failing {base inner : Access} {body : Value} {scope : Scope}
    {y : Option Value} (hbody : ∀ item z, eval body (scope.bind Access.itemName item) ≠ .ok z)
    (h : eval (.operator "$anyElementTrue" (Access.mapOf base.render body)) scope = .ok y) :
    (Access.each base inner).compared scope = .ok [] := by
  have h := (eval_operator_single .anyElementTrue rfl scope).symm.trans h
  rw [eval_mapOf_eq] at h
  simp only [Access.compared]
  cases hbase : eval base.render scope with
  | error error => simp [hbase, Except.bind] at h
  | ok v =>
    rw [hbase] at h
    rcases v with _ | v
    · rfl
    · cases v with
      | null => rfl
      | array items =>
        cases items with
        | nil => rfl
        | cons item rest =>
          cases hitem : eval body (scope.bind Access.itemName item) with
          | error error => simp [Except.bind, applyMap, mapItems, hitem, Except.map] at h
          | ok z => exact absurd hitem (hbody item z)
      | _ => simp [Except.bind, applyMap, Operator.fail] at h

end Value

namespace Lookup

variable {target : Access} {e w root : Value} {vars : Document}

/-- A lookup for membership in an array holds if one of the compared values is equal to one of
the items. -/
theorem eval_in_array {set : List Value} (h : Lookup.in.buildOn target w = .ok e)
    (hw : w.ReadsAs root (some (.array set))) :
    eval e ⟨root, vars⟩ = (target.compared ⟨root, vars⟩).bind fun xs => truth
        (meet xs set) := by
  rcases buildOn_in_ok h with ⟨base, inner, rfl, rfl⟩ | ⟨-, hsingle, rfl⟩
  · exact eval_someItem fun item => eval_in hw
  · rw [eval_in hw, Access.compared_single hsingle]
    cases eval target.render ⟨root, vars⟩ with
    | error error => rfl
    | ok x =>
      show truth _ = truth (meet [x] set)
      simp only [meet, List.any_cons, List.any_nil, Bool.or_false]

/-- A lookup for membership in nothing has no value, unless there is nothing to compare. -/
theorem compared_of_eval_in_none {y : Option Value} (h : Lookup.in.buildOn target w = .ok e)
    (hw : w.ReadsAs root none) (hy : eval e ⟨root, vars⟩ = .ok y) :
    target.compared ⟨root, vars⟩ = .ok [] := by
  have hfails : ∀ (a : Value) (vars : Document) (z : Option Value),
      eval (binary "$in" a w) ⟨root, vars⟩ ≠ .ok z := by
    intro a vars z hz
    rw [eval_in hw] at hz
    cases ha : eval a ⟨root, vars⟩ <;> simp [ha, Except.bind, Operator.applyMembership,
      Operator.fail] at hz
  rcases buildOn_in_ok h with ⟨base, inner, rfl, rfl⟩ | ⟨-, -, rfl⟩
  · exact compared_of_failing (fun item z => hfails _ _ z) hy
  · exact absurd hy (hfails _ vars y)

end Lookup

/-! ## Wrapped subqueries -/

namespace Compiler

open Context (Extends)

variable {c : Compiler} {ctx ctx' : Context}

/-- The stages that select the documents of a query that is not united with others: all but the
projection at the end. -/
def Nested.selection (n : Nested) : List Stage := n.stages.dropLast

theorem nested_selection {q : Query} {n : Nested} (hunion : q.union = none)
    (h : c.nested q = .ok n) :
    n.stages = n.selection ++ [.project (projectionOf [n.column])] := by
  obtain ⟨p, inner, -, -, -, hstages, -⟩ := nested_ok h
  rw [assembleWith, hunion] at hstages
  rw [Nested.selection, ← Except.ok.inj hstages]
  simp only [single, List.dropLast_concat]

theorem nested_placed {q : Query} (hunion : q.union = none) (n : Nested) :
    n.placed q true = n.selection ++ collecting n.column.1 n.column.2 := by
  simp only [Nested.placed, wrapped, hunion, Nested.selection]
  rfl

/-- An access is not written as a flag, which a projection would not evaluate. -/
theorem isFlag_render (a : Access) : Stage.isFlag a.render = false := by
  cases a with
  | column joined name type => cases joined <;> rfl
  | key base name type =>
    rw [Access.render]
    unfold Access.keyOf
    split <;> rfl
  | _ => rfl

/-- The one column of a nested query: the identity if no path is given, else that of the
path. -/
theorem nested_column {q : Query} {n : Nested} (h : c.nested q = .ok n) :
    Stage.isFlag n.column.2 = false ∧ (q.values = [] → n.column.1 = "_id") ∧
      ∀ path, q.values = [path] → n.column.1 = path := by
  obtain ⟨p, inner, -, hplan, hcolumn, -⟩ := nested_ok h
  obtain ⟨loaded, stages, computed, condition, filtered, keys, fields, sorted,
    columns, -, -, -, -, hreturned, rfl⟩ := planWith_ok hplan
  cases hvalues : q.values with
  | nil =>
    rw [hvalues] at hcolumn
    rw [← Except.ok.inj hcolumn]
    exact ⟨rfl, fun _ => rfl, by simp⟩
  | cons path rest =>
    rw [hvalues] at hcolumn hreturned
    obtain ⟨e, type, after, others, he, hothers, rfl⟩ := columnsOf_cons_ok hreturned
    obtain ⟨ending, -, rfl⟩ := fieldExpr_ok he
    cases others with
    | nil =>
      rw [← Except.ok.inj hcolumn]
      refine ⟨isFlag_render _, by simp, fun path' hpath => ?_⟩
      exact (List.cons.inj hpath).1
    | cons other others => simp [onlyColumn] at hcolumn

/-- What a nested query has in its column for a row: its variables are bound for the row, and
these are the values of the column on the documents that it selects. -/
structure Nested.GivesFor (n : Nested) (config : Config) (bindings : Document) (store : Store)
    (vars : Document) (row : Value) (inner : Document) (values : List (Option Value)) :
        Prop where
  bound : BoundFor config bindings vars row inner
  values : ∃ selected,
    Stage.runAll store n.selection inner (store.collection n.model.collection) = .ok selected ∧
    Stage.each (fun d => n.column.2.eval ⟨d, inner⟩) selected = .ok values

/-- The single result of a wrapped query. -/
theorem runAll_placed_ok {q : Query} {n : Nested} {store : Store} {inner : Document}
    {docs results : List Value} (hunion : q.union = none) (hn : c.nested q = .ok n)
    (hrun : Stage.runAll store (n.placed q true) inner docs = .ok results) :
    ∃ selected values, Stage.runAll store n.selection inner docs = .ok selected ∧
      Stage.each (fun d => n.column.2.eval ⟨d, inner⟩) selected = .ok values ∧
      results = [wrappedResult n.column.1 (values.flatMap spread)] := by
  rw [nested_placed hunion, Stage.runAll_append] at hrun
  cases hselected : Stage.runAll store n.selection inner docs with
  | error error => simp [hselected, Except.bind] at hrun
  | ok selected =>
    rw [hselected] at hrun
    obtain ⟨values, hvalues⟩ := exists_values_of_collecting (nested_column hn).1 hrun
    refine ⟨selected, values, rfl, hvalues, Except.ok.inj (hrun.symm.trans ?_)⟩
    exact runAll_collecting n.column.1 (nested_column hn).1 hvalues

/-- A lookup in a subquery, wherever it stands in the filter of a planned query: its operand
reads the collected values of the subquery for the row. -/
theorem planned_lookup_ok {m : Model} {start final : Context} {outer q : Query}
    {p : Plan} {f : Filter} {path : String} (hdots : '.' ∉ c.config.subqueryPrefix.toList)
    (hplain : isOperatorName c.config.subqueryPrefix = false)
    (hstart : start = .ofModel m ∨ start = .ofSubquery m)
    (hcolumns : ∀ name ∈ outer.annotations.map (·.1), ∀ k,
      (pathNames name).head? ≠ some (c.config.subqueryField k))
    (hfilter : outer.filter = some f) (hlookup : f.Has (.lookup path (.subquery q)))
    (hunion : q.union = none)
    (hplan : c.planWith start outer (fun ctx => c.compileAnnotations [] ctx outer.annotations)
      (fun ctx => c.compileCondition ctx outer.filter) = .ok (p, final)) :
    ∃ (n : Nested) (bindings : Document) (r : Resolved) (operand fragment condition : Value)
      (computed first last before after : Context),
      c.nested q = .ok n ∧ c.outerBindings before 0 n.outer = .ok (bindings, after) ∧
      c.resolveLookup first path = (.ok r, last) ∧
      r.lookup.buildOn r.target operand = .ok fragment ∧
      c.source final p = final.joins.flatMap (fun j => j.2.stages c.config) ++
        (final.subqueryStages ++ p.annotations) ++ [Stage.selectExpr condition] ∧
      fragment.Within condition ∧ c.filterContext start outer = .ok computed ∧
      (f = .lookup path (.subquery q) → fragment = condition ∧ first = computed) ∧
      (r.lookup.arity = .list → ∀ (store : Store) (vars : Document) (rows docs : List Value),
        Stage.runAll store (final.subqueryStages ++ p.annotations) vars rows = .ok docs →
        List.Forall₂ (fun row doc => ∃ inner values,
          n.GivesFor c.config bindings store vars row inner values ∧
          Stage.runAll store (n.placed q true) inner (store.collection n.model.collection) =
            .ok [wrappedResult n.column.1 (values.flatMap spread)] ∧
          operand.ReadsAs doc
            ((wrappedResult n.column.1 (values.flatMap spread)).getPath n.column.1))
                rows docs) := by
  obtain ⟨loaded, computed, condition, filtered, hstages, hcomputed, hcondition, hsource,
      hinto, hout, -⟩ :=
    planWith_filter_ok hfilter hplan
  obtain ⟨before, fragment, after, hfragment, hwithin, hbefore, hafter, hsame⟩ :
      ∃ before fragment after, c.compileFilter before (.lookup path (.subquery q)) =
        .ok (fragment, after) ∧ fragment.Within condition ∧ Extends c.config computed before ∧
        Extends c.config after filtered ∧ (f = .lookup path (.subquery q) →
        fragment = condition ∧ before = computed) := by
    by_cases hf : f = .lookup path (.subquery q)
    · subst hf
      exact ⟨computed, condition, filtered, hcondition, .refl, .refl _, .refl _,
        fun _ => ⟨rfl, rfl⟩⟩
    · obtain ⟨before, fragment, after, hfragment, hwithin, hbefore, hafter⟩ :=
        compileFilter_has hlookup hcondition
      exact ⟨before, fragment, after, hfragment, hwithin, hbefore, hafter, fun h => absurd h hf⟩
  obtain ⟨r, last, operand, hr, hbuild, hoperand⟩ := compileFilter_subquery_ok hfragment
  have hbetween : Extends c.config start (noteLookup r last) :=
    hinto.trans (hbefore.trans ((resolveLookup_extends hr).trans (.noteLookup r last)))
  obtain ⟨n, bindings, resolved, hn, hbindings, rfl, hplaced⟩ :=
    compileSubquery_placedAt hstart hbetween hoperand (hafter.trans hout)
  refine ⟨n, bindings, r, _, fragment, condition, computed, before, last,
    noteLookup r last, resolved, hn, hbindings, hr, hbuild, hsource, hwithin, hcomputed, hsame,
    fun hlist store vars rows docs hrun => ?_⟩
  have hwrap : (r.lookup.arity == .list) = true := by rw [hlist]; rfl
  rw [hwrap] at hplaced
  have hfield : '.' ∉ (c.config.subqueryField resolved.subqueryCount).toList :=
    notMem_numbered (by decide) hdots _
  have hkeeps : ∀ s ∈ p.annotations,
      s.Keeps (c.config.subqueryField resolved.subqueryCount) := by
    refine compileAnnotations_keeps (by simp [Document.names]) (fun name hname => ?_) hstages
    exact spares_of_head hfield (hcolumns name hname _)
  refine (hplaced.rows hdots hplain (fun s hs => (hkeeps s hs).rowwise) hrun).imp
    fun row doc hrow => ?_
  obtain ⟨inner, results, hbound, hresults, hdoc⟩ := hrow
  obtain ⟨selected, values, hselected, hvalues, rfl⟩ := runAll_placed_ok hunion hn hresults
  refine ⟨inner, values, ⟨hbound, selected, hselected, hvalues⟩, hresults, fun vars' => ?_⟩
  rw [eval_string]
  exact read_behind_subquery vars' n.column.1 hfield (isOperatorName_numbered hplain _)
    (hdoc hkeeps (by simp))

/-- A lookup for membership in the identities of a subquery.  The stages that wrap the subquery
lose them, so the lookup fails for every row for which it compares anything. -/
theorem lookup_in_identities_fails {m : Model} {start final : Context} {outer q : Query}
    {p : Plan} {f : Filter} {path : String} (hdots : '.' ∉ c.config.subqueryPrefix.toList)
    (hplain : isOperatorName c.config.subqueryPrefix = false)
    (hstart : start = .ofModel m ∨ start = .ofSubquery m)
    (hcolumns : ∀ name ∈ outer.annotations.map (·.1), ∀ k,
      (pathNames name).head? ≠ some (c.config.subqueryField k))
    (hfilter : outer.filter = some f) (hlookup : f.Has (.lookup path (.subquery q)))
    (hvalues : q.values = []) (hunion : q.union = none)
    (hplan : c.planWith start outer (fun ctx => c.compileAnnotations [] ctx outer.annotations)
      (fun ctx => c.compileCondition ctx outer.filter) = .ok (p, final)) :
    ∃ (r : Resolved) (fragment condition : Value) (computed first last : Context),
      c.source final p = final.joins.flatMap (fun j => j.2.stages c.config) ++
        (final.subqueryStages ++ p.annotations) ++ [Stage.selectExpr condition] ∧
      fragment.Within condition ∧ c.filterContext start outer = .ok computed ∧
      c.resolveLookup first path = (.ok r, last) ∧
      (f = .lookup path (.subquery q) → fragment = condition ∧ first = computed) ∧
      (r.lookup = .in → ∀ (store : Store) (vars : Document) (rows docs : List Value),
        Stage.runAll store (final.subqueryStages ++ p.annotations) vars rows = .ok docs →
        (∀ doc ∈ docs, ∀ v, fragment.eval ⟨doc, vars⟩ = .ok v →
          r.target.compared ⟨doc, vars⟩ = .ok []) ∧
        (f = .lookup path (.subquery q) → r.target.type.isMapped = false → ∀ kept,
          Stage.run store (.selectExpr condition) vars docs = .ok kept → rows = [])) := by
  obtain ⟨n, bindings, r, operand, fragment, condition, computed, first, last, before,
    after, hn, -, hr, hbuild, hsource, hwithin, hcomputed, hsame, hrows⟩ :=
    planned_lookup_ok hdots hplain hstart hcolumns hfilter hlookup hunion hplan
  refine ⟨r, fragment, condition, computed, first, last, hsource, hwithin, hcomputed, hr, hsame,
    fun hin store vars rows docs hrun => ?_⟩
  rw [hin] at hbuild
  have hall := hrows (by rw [hin]; rfl) store vars rows docs hrun
  have hreads : ∀ doc ∈ docs, operand.ReadsAs doc none := by
    clear hrun
    induction hall with
    | nil => simp
    | cons hrow _ ih =>
      obtain ⟨inner, values, -, -, hreads⟩ := hrow
      rw [(nested_column hn).2.1 hvalues, getPath_wrappedResult, if_pos (.inl rfl)] at hreads
      exact List.forall_mem_cons.mpr ⟨hreads, ih⟩
  have hnothing : ∀ doc ∈ docs, ∀ v, fragment.eval ⟨doc, vars⟩ = .ok v →
      r.target.compared ⟨doc, vars⟩ = .ok [] := fun doc hdoc v hv =>
    Lookup.compared_of_eval_in_none hbuild (hreads doc hdoc) hv
  refine ⟨hnothing, fun hf hsingle kept hkept => ?_⟩
  cases hall with
  | nil => rfl
  | @cons row doc rows docs hrow _ =>
    obtain ⟨v, hv⟩ : ∃ v, fragment.eval ⟨doc, vars⟩ = .ok v := by
      rw [← (hsame hf).1, Stage.selectExpr, Stage.run, Stage.selected, selects_expr] at hkept
      cases hv : fragment.eval ⟨doc, vars⟩ with
      | ok v => exact ⟨v, rfl⟩
      | error error => simp [hv, Except.map] at hkept
    have hcompared := hnothing doc List.mem_cons_self v hv
    have heach : ∀ base inner, r.target ≠ .each base inner := by
      rintro base inner heq
      simp [heq, Access.type, ValueType.isMapped] at hsingle
    rw [Access.compared_single heach] at hcompared
    cases hx : eval r.target.render ⟨doc, vars⟩ <;> simp [hx, Except.map] at hcompared

/-- All labels, with no column given. -/
def allLabels : Query := .mk "Label" none [] [] [] none none [] none

/-- The parcels that have the number of a label. -/
def numberedLikeLabels : Query :=
  .mk "Parcel" (some (.lookup "id__in" (.subquery allLabels))) [] [] [] none none [] none

/-- A parcel and a label of one number. -/
def sameNumber : Store :=
  ⟨[("parcels", [.object [("_id", .int 7)]]), ("labels", [.object [("_id", .int 7)]])]⟩

/-- A parcel and a label have the same identity, but the lookup for it fails. -/
theorem sameNumber_fails :
    ∃ (p : Plan) (final : Context) (condition doc : Value),
      parcels.planWith (.ofModel ⟨"Parcel", some "parcels", false, [Model.primaryKey]⟩)
        numberedLikeLabels
        (fun ctx => parcels.compileAnnotations [] ctx numberedLikeLabels.annotations)
        (fun ctx => parcels.compileCondition ctx numberedLikeLabels.filter) = .ok (p, final) ∧
      parcels.source final p =
        final.subqueryStages ++ p.annotations ++ [Stage.selectExpr condition] ∧
      Stage.runAll sameNumber (final.subqueryStages ++ p.annotations) []
        [.object [("_id", .int 7)]] = .ok [doc] ∧
      ∀ kept, Stage.run sameNumber (.selectExpr condition) [] [doc] ≠ .ok kept := by
  obtain ⟨p, final, hplan, hjoins, hruns⟩ : ∃ (p : Plan) (final : Context),
      parcels.planWith (.ofModel ⟨"Parcel", some "parcels", false, [Model.primaryKey]⟩)
        numberedLikeLabels
        (fun ctx => parcels.compileAnnotations [] ctx numberedLikeLabels.annotations)
        (fun ctx => parcels.compileCondition ctx numberedLikeLabels.filter) = .ok (p, final) ∧
      final.joins = [] ∧
      Stage.givesOne (Stage.runAll sameNumber (final.subqueryStages ++ p.annotations) []
        [.object [("_id", .int 7)]]) = true := ⟨_, _, rfl, rfl, by decide +kernel⟩
  obtain ⟨doc, hdoc⟩ := Stage.exists_of_givesOne hruns
  have hnames : ∀ name ∈ numberedLikeLabels.annotations.map (·.1), ∀ k,
      (pathNames name).head? ≠ some (parcels.config.subqueryField k) := by
    simp [numberedLikeLabels, Query.annotations]
  obtain ⟨r, fragment, condition, computed, first, last, hsource, -, hcomputed, hr,
      hwhole, hrows⟩ :=
    lookup_in_identities_fails (c := parcels) (q := allLabels) (by decide) (by decide)
      (.inl rfl) hnames rfl (.refl _) rfl rfl hplan
  obtain ⟨-, rfl⟩ := hwhole rfl
  obtain rfl := Except.ok.inj (hcomputed.symm.trans rfl)
  obtain ⟨hr, -⟩ := Prod.mk.inj hr
  obtain rfl := Except.ok.inj (hr.symm.trans rfl)
  refine ⟨p, final, condition, doc, hplan, by simpa [hjoins] using hsource, hdoc,
    fun kept hkept => ?_⟩
  have hnothing := (hrows rfl sameNumber [] [.object [("_id", .int 7)]] [doc] hdoc).2 rfl
    rfl kept hkept
  simp at hnothing

/-- A lookup for membership in a given column of a subquery.  For every row, the wrapped
subquery gives one array that stands for the values of the column on the documents that it
selects for the row, where an array counts item by item; and the lookup holds if one of the
compared values is equal to one of the array's.  A name with a point is read as a path, so that
the lookup fails. -/
theorem lookup_in_column_means_membership {m : Model} {start final : Context}
    {outer q : Query} {p : Plan}
    {f : Filter} {path column : String} (hdots : '.' ∉ c.config.subqueryPrefix.toList)
    (hplain : isOperatorName c.config.subqueryPrefix = false)
    (hstart : start = .ofModel m ∨ start = .ofSubquery m)
    (hcolumns : ∀ name ∈ outer.annotations.map (·.1), ∀ k,
      (pathNames name).head? ≠ some (c.config.subqueryField k))
    (hfilter : outer.filter = some f) (hlookup : f.Has (.lookup path (.subquery q)))
    (hvalues : q.values = [column]) (hid : column ≠ "_id") (hunion : q.union = none)
    (hplan : c.planWith start outer (fun ctx => c.compileAnnotations [] ctx outer.annotations)
      (fun ctx => c.compileCondition ctx outer.filter) = .ok (p, final)) :
    ∃ (n : Nested) (bindings : Document) (r : Resolved) (fragment condition : Value)
      (computed first last before after : Context),
      c.nested q = .ok n ∧ n.column.1 = column ∧
      n.stages = n.selection ++ [.project (projectionOf [n.column])] ∧
      c.outerBindings before 0 n.outer = .ok (bindings, after) ∧
      c.source final p = final.joins.flatMap (fun j => j.2.stages c.config) ++
        (final.subqueryStages ++ p.annotations) ++ [Stage.selectExpr condition] ∧
      fragment.Within condition ∧ c.filterContext start outer = .ok computed ∧
      c.resolveLookup first path = (.ok r, last) ∧
      (f = .lookup path (.subquery q) → fragment = condition ∧ first = computed) ∧
      (r.lookup = .in → ∀ (store : Store) (vars : Document) (rows docs : List Value),
        Stage.runAll store (final.subqueryStages ++ p.annotations) vars rows = .ok docs →
        List.Forall₂ (fun row doc => ∃ inner values set,
          n.GivesFor c.config bindings store vars row inner values ∧
          Accumulator.Represents set (values.flatMap spread) ∧
          Stage.runAll store (n.placed q true) inner (store.collection n.model.collection) =
            .ok [.object [(column, .array set)]] ∧
          ('.' ∉ column.toList → fragment.eval ⟨doc, vars⟩ =
            (r.target.compared ⟨doc, vars⟩).bind fun xs => truth (meet xs set)) ∧
          ('.' ∈ column.toList → ∀ v, fragment.eval ⟨doc, vars⟩ = .ok v →
            r.target.compared ⟨doc, vars⟩ = .ok [])) rows docs) := by
  obtain ⟨n, bindings, r, operand, fragment, condition, computed, first, last, before, after,
    hn, hbindings, hr, hbuild, hsource, hwithin, hcomputed, hsame, hrows⟩ :=
    planned_lookup_ok hdots hplain hstart hcolumns hfilter hlookup hunion hplan
  have hcolumn : n.column.1 = column := (nested_column hn).2.2 column hvalues
  refine ⟨n, bindings, r, fragment, condition, computed, first, last, before,
    after, hn, hcolumn, nested_selection hunion hn, hbindings, hsource, hwithin,
    hcomputed, hr, hsame, fun hin store vars rows docs hrun => ?_⟩
  rw [hin] at hbuild
  refine (hrows (by rw [hin]; rfl) store vars rows docs hrun).imp fun row doc hrow => ?_
  obtain ⟨inner, values, hgives, hresults, hreads⟩ := hrow
  rw [hcolumn, wrappedResult, if_neg hid] at hresults
  rw [hcolumn, getPath_wrappedResult] at hreads
  refine ⟨inner, values, _, hgives, Accumulator.represents_distinct _, hresults,
    fun hpoint => ?_, fun hpoint v hv => ?_⟩
  · rw [if_neg (not_or.mpr ⟨hid, hpoint⟩)] at hreads
    exact Lookup.eval_in_array hbuild hreads
  · rw [if_pos (.inr hpoint)] at hreads
    exact Lookup.compared_of_eval_in_none hbuild hreads hv

/-- Items, and marks that may be on an item. -/
def markedItems : Compiler where
  schema := ⟨[⟨"Item", some "items", false, [Model.primaryKey]⟩,
    ⟨"Mark", some "marks", false,
      [Model.primaryKey, ⟨"item", .scalar .integer, true, none⟩]⟩]⟩
  config := .usual

/-- The items that marks are on. -/
def itemsOfMarks : Query := .mk "Mark" none [] ["item"] [] none none [] none

/-- The items with a mark. -/
def itemsWithMark : Query :=
  .mk "Item" (some (.lookup "id__in" (.subquery itemsOfMarks))) [] [] [] none none [] none

/-- Two items, one of which has two marks, and two marks on nothing. -/
def fourMarks : Store :=
  ⟨[("items", [.object [("_id", .int 2)], .object [("_id", .int 4)]]),
    ("marks", [.object [("item", .int 2)], .object [("item", .null)],
      .object [("item", .int 2)], .object []])]⟩

/-- The marks give the array of the one marked item. -/
theorem fourMarks_items :
    ∃ n, markedItems.nested itemsOfMarks = .ok n ∧ n.outer = [] ∧
      Stage.runAll fourMarks (n.placed itemsOfMarks true) [] (fourMarks.collection
        n.model.collection) = .ok [.object [("item", .array [.int 2])]] := by
  refine ⟨_, rfl, rfl, ?_⟩
  have hvalues : Stage.each (fun doc => Value.eval (.string "$item") ⟨doc, []⟩)
    (fourMarks.collection "marks") = .ok [some (.int 2), some .null, some (.int 2), none] := rfl
  rw [nested_placed rfl]
  exact (runAll_collecting "item" rfl hvalues).trans rfl

/-- Behind the stages in front of the filter, only one of the items has an identity that is
marked. -/
theorem fourMarks_rows :
    ∃ (p : Plan) (final : Context) (two four : Value),
      markedItems.planWith (.ofModel ⟨"Item", some "items", false, [Model.primaryKey]⟩)
        itemsWithMark
        (fun ctx => markedItems.compileAnnotations [] ctx itemsWithMark.annotations)
        (fun ctx => markedItems.compileCondition ctx itemsWithMark.filter) = .ok (p, final) ∧
      Stage.runAll fourMarks (final.subqueryStages ++ p.annotations) []
        (fourMarks.collection "items") = .ok [two, four] ∧
      meet [two.getPath "_id"] [.int 2] = true ∧
      meet [four.getPath "_id"] [.int 2] = false := by
  obtain ⟨p, final, hplan, hruns⟩ : ∃ (p : Plan) (final : Context),
      markedItems.planWith (.ofModel ⟨"Item", some "items", false, [Model.primaryKey]⟩)
        itemsWithMark
        (fun ctx => markedItems.compileAnnotations [] ctx itemsWithMark.annotations)
        (fun ctx => markedItems.compileCondition ctx itemsWithMark.filter) = .ok (p, final) ∧
      Stage.succeedsWith
        (fun docs => docs.map (fun doc => meet [doc.getPath "_id"] [.int 2]) == [true, false])
        (Stage.runAll fourMarks (final.subqueryStages ++ p.annotations) []
          (fourMarks.collection "items")) = true := ⟨_, _, rfl, by decide +kernel⟩
  obtain ⟨docs, hdocs, hmet⟩ := Stage.exists_of_succeedsWith hruns
  obtain ⟨two, rest, rfl, htwo, hrest⟩ := List.map_eq_cons_iff.mp (eq_of_beq hmet)
  obtain ⟨four, last, rfl, hfour, hlast⟩ := List.map_eq_cons_iff.mp hrest
  obtain rfl := List.map_eq_nil_iff.mp hlast
  exact ⟨p, final, two, four, hplan, hdocs, htwo, hfour⟩

theorem compared_identity (doc : Value) :
    Access.compared ⟨doc, []⟩ (.column none "_id" (.scalar .integer)) =
      .ok [doc.getPath "_id"] := by
  rw [Access.compared_single (by simp), Access.render, eval_string,
    PathText.read_root _ (by decide)]
  rfl

/-- The marked item is found, and the other one is not. -/
theorem fourMarks_find_item :
    ∃ (p : Plan) (final : Context) (condition two four : Value),
      markedItems.planWith (.ofModel ⟨"Item", some "items", false, [Model.primaryKey]⟩)
        itemsWithMark
        (fun ctx => markedItems.compileAnnotations [] ctx itemsWithMark.annotations)
        (fun ctx => markedItems.compileCondition ctx itemsWithMark.filter) = .ok (p, final) ∧
      Stage.runAll fourMarks (final.subqueryStages ++ p.annotations) []
        (fourMarks.collection "items") = .ok [two, four] ∧
      condition.eval ⟨two, []⟩ = .ok (some (.bool true)) ∧
      condition.eval ⟨four, []⟩ = .ok (some (.bool false)) := by
  obtain ⟨p, final, two, four, hplan, hdocs, htwomet, hfourmet⟩ := fourMarks_rows
  have hnames : ∀ name ∈ itemsWithMark.annotations.map (·.1), ∀ k,
      (pathNames name).head? ≠ some (markedItems.config.subqueryField k) := by
    simp [itemsWithMark, Query.annotations]
  obtain ⟨n, bindings, r, fragment, condition, computed, first, last, before, after, hn, -, -,
    hbindings, -, -, hcomputed, hr, hwhole, hrows⟩ := lookup_in_column_means_membership
    (c := markedItems) (q := itemsOfMarks) (by decide) (by decide) (.inl rfl)
    hnames rfl (.refl _) rfl (by decide) rfl hplan
  obtain ⟨rfl, rfl⟩ := hwhole rfl
  obtain rfl := Except.ok.inj (hcomputed.symm.trans rfl)
  obtain ⟨hr, -⟩ := Prod.mk.inj hr
  obtain rfl := Except.ok.inj (hr.symm.trans rfl)
  obtain ⟨n', hn', houter, hitems⟩ := fourMarks_items
  obtain rfl := Except.ok.inj (hn.symm.trans hn')
  rw [houter] at hbindings
  obtain ⟨rfl, -⟩ := Prod.mk.inj (Except.ok.inj hbindings)
  have hfound := hrows rfl fourMarks [] [.object [("_id", .int 2)], .object [("_id", .int 4)]]
    [two, four] hdocs
  rw [List.forall₂_cons, List.forall₂_cons] at hfound
  obtain ⟨⟨inner, values, set, ⟨⟨seen, -, -, hinner⟩, -⟩, -, hset, htwo, -⟩,
    ⟨inner', values', set', ⟨⟨seen', -, -, hinner'⟩, -⟩, -, hset', hfour, -⟩, -⟩ := hfound
  obtain rfl := Except.ok.inj hinner
  obtain rfl := Except.ok.inj hinner'
  obtain rfl : set = [.int 2] := by simpa using hset.symm.trans hitems
  obtain rfl : set' = [.int 2] := by simpa using hset'.symm.trans hitems
  refine ⟨p, final, fragment, two, four, hplan, hdocs, ?_, ?_⟩
  · rw [htwo (by decide)]
    refine (congrArg (Except.bind · _) (compared_identity two)).trans ?_
    rw [Except.bind, htwomet]
    rfl
  · rw [hfour (by decide)]
    refine (congrArg (Except.bind · _) (compared_identity four)).trans ?_
    rw [Except.bind, hfourmet]
    rfl

/-- An item, and a mark where, against the schema, items are listed. -/
def listMark : Store :=
  ⟨[("items", [.object [("_id", .int 2)]]),
    ("marks", [.object [("item", .array [.int 2, .int 4])]])]⟩

/-- The items with a mark, where a computed column takes the place of the result of the
subquery. -/
def itemsWithHiddenMark : Query :=
  itemsWithMark.annotate (markedItems.config.subqueryField 0)
    (.literal (.object [("item", .array [.int 2])]))

/-- An item, and no marks. -/
def noMark : Store := ⟨[("items", [.object [("_id", .int 2)]]), ("marks", [])]⟩

/-- Marked items, where the results of subqueries are written into the key. -/
def markedInKeys : Compiler :=
    { markedItems with config := { Config.usual with subqueryPrefix := "_id.mark" } }

/-- An item with a mark. -/
def oneMark : Store :=
  ⟨[("items", [.object [("_id", .int 2)]]), ("marks", [.object [("item", .int 2)]])]⟩

/-- What membership is restricted by.  An array counts item by item:  the item is found, though
the mark's column is not equal to it.  A computed column can hide the result:  the item is found
without a mark.  And a result can be written into a column:  the item is not found, though there
is a mark on it. -/
theorem membership_restricted :
    (∃ a, markedItems.compile itemsWithMark = .ok a ∧
      (∃ row, listMark.aggregate a.collection a.pipeline = .ok [row]) ∧
      ∀ mark ∈ listMark.collection "marks",
        compare? (some (.int 2)) (mark.getPath "item") ≠ .eq) ∧
    (∃ a, markedItems.compile itemsWithHiddenMark = .ok a ∧
      (∃ row, noMark.aggregate a.collection a.pipeline = .ok [row]) ∧
        noMark.collection "marks" = []) ∧
    ∃ a, markedInKeys.compile itemsWithMark = .ok a ∧
      oneMark.aggregate a.collection a.pipeline = .ok [] ∧
      oneMark.collection "items" = [.object [("_id", .int 2)]] ∧
      oneMark.collection "marks" = [.object [("item", .int 2)]] := by
  refine ⟨?listed, ?hidden, ?overwritten⟩
  case listed =>
    obtain ⟨a, ha, hrow⟩ : ∃ a, markedItems.compile itemsWithMark = .ok a ∧
        Stage.givesOne (listMark.aggregate a.collection a.pipeline) = true :=
          ⟨_, rfl, by decide +kernel⟩
    exact ⟨a, ha, Stage.exists_of_givesOne hrow, by decide +kernel⟩
  case hidden =>
    obtain ⟨a, ha, hrow⟩ : ∃ a, markedItems.compile itemsWithHiddenMark = .ok a ∧
        Stage.givesOne (noMark.aggregate a.collection a.pipeline) = true :=
          ⟨_, rfl, by decide +kernel⟩
    exact ⟨a, ha, Stage.exists_of_givesOne hrow, rfl⟩
  case overwritten =>
    obtain ⟨a, ha, hrows⟩ : ∃ a, markedInKeys.compile itemsWithMark = .ok a ∧
        Stage.succeedsWith List.isEmpty (oneMark.aggregate a.collection a.pipeline) = true :=
      ⟨_, rfl, by decide +kernel⟩
    obtain ⟨rows, hrun, hempty⟩ := Stage.exists_of_succeedsWith hrows
    exact ⟨a, ha, hrun.trans (congrArg _ (List.isEmpty_iff.mp hempty)), rfl, rfl⟩

end Compiler

end DocQuery
