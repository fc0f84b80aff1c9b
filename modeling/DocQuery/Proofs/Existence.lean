import DocQuery.Proofs.Subqueries
set_option autoImplicit false

/-!
# Proofs: what the test for existence asks

A filter may ask whether another query finds a document.  It is compiled to a test on one column
of the first document that the stages of the other query return:  it holds if that column is
there.
-/

namespace DocQuery

open Value

/-! ## Where a query is asked for -/

/-- Whether a filter asks for another query, alone or in conjunctions, disjunctions and
negations. -/
inductive Filter.AsksFor (q : Query) : Filter → Prop where
  | exists : AsksFor q (.exists q)
  | and {filters : List Filter} {f : Filter} (hf : f ∈ filters) (h : AsksFor q f) :
    AsksFor q (.and filters)
  | or {filters : List Filter} {f : Filter} (hf : f ∈ filters) (h : AsksFor q f) :
    AsksFor q (.or filters)
  | not {f : Filter} (h : AsksFor q f) : AsksFor q (.not f)

theorem Filter.AsksFor.has {q : Query} {f : Filter} (h : f.AsksFor q) : f.Has (.exists q) := by
  induction h with
  | «exists» => exact .refl _
  | and hf _ ih => exact .and hf ih
  | or hf _ ih => exact .or hf ih
  | not _ ih => exact .not ih

namespace Compiler

variable {c : Compiler}

/-! ## The meaning of the test -/

/-- Whether the first of some results holds something in the column of a nested query. -/
def Nested.finds (n : Nested) (results : List Value) : Bool :=
  results.head?.any fun first => (present (first.getPath n.column.1)).isSome

/-- The test for null on the column of a nested query tells whether the first result holds
something there. -/
theorem eval_existsFragment {n : Nested} {output : String} {doc : Value} {results : List Value}
    (vars : Document) (hdots : '.' ∉ output.toList) (hplain : isOperatorName output = false)
    (hdoc : doc.field? output = some (firstResult results)) :
    Decides ⟨doc, vars⟩ (Value.nullCheck (.string ("$" ++ output ++ "." ++ n.column.1)) false)
      (n.finds results) := by
  have hread := read_behind_subquery vars n.column.1 hdots hplain hdoc
  have hcheck := Decides.nullCheck (a := .string ("$" ++ output ++ "." ++ n.column.1)) rfl
    ((eval_string _ _).trans hread) false
  have hfinds : ((present ((firstResult results).getPath n.column.1)).isNone == false)
      = n.finds results := by
    cases results with
    | nil =>
      have hempty : (firstResult []).getPath n.column.1 = none := by
        show walk (.object []) (pathNames n.column.1) = none
        cases hnames : pathNames n.column.1 with
        | nil => exact absurd hnames (Text.split_ne_nil '.' _)
        | cons name rest => rfl
      rw [hempty]
      rfl
    | cons first rest =>
      show ((present (first.getPath n.column.1)).isNone == false) =
        (present (first.getPath _)).isSome
      cases present (first.getPath n.column.1) <;> rfl
  rwa [hfinds] at hcheck

/-- What a query is asked for in the filter of another one is whether its first document holds
something in its column.  The filter contains a fragment for the question; where it is
evaluated, the stages of the query have run for the row, seen with its outer references bound,
and the fragment is true exactly if the first of their results has its column, neither missing
nor null. -/
theorem asked_query_finds {m : Model} {start final : Context} {outer q : Query} {p : Plan}
    {f : Filter} (hdots : '.' ∉ c.config.subqueryPrefix.toList)
    (hplain : isOperatorName c.config.subqueryPrefix = false)
    (hstart : start = .ofModel m ∨ start = .ofSubquery m)
    (hcolumns : ∀ name ∈ outer.annotations.map (·.1), ∀ k,
      (pathNames name).head? ≠ some (c.config.subqueryField k))
    (hfilter : outer.filter = some f) (hq : f.AsksFor q)
    (hplan : c.planWith start outer (fun ctx => c.compileAnnotations [] ctx outer.annotations)
      (fun ctx => c.compileCondition ctx outer.filter) = .ok (p, final)) :
    ∃ (n : Nested) (bindings : Document) (fragment condition : Value) (before after : Context),
      c.nested q = .ok n ∧ c.outerBindings before 0 n.outer = .ok (bindings, after) ∧
      c.source final p = final.joins.flatMap (fun j => j.2.stages c.config) ++
        (final.subqueryStages ++ p.annotations) ++ [Stage.selectExpr condition] ∧
      fragment.Within condition ∧
      ∀ (store : Store) (vars : Document) (rows docs : List Value),
        Stage.runAll store (final.subqueryStages ++ p.annotations) vars rows = .ok docs →
        List.Forall₂ (fun row doc => ∃ seen inner results,
          (∀ key, (∀ k, c.config.subqueryField k ≠ key) → seen.field? key = row.field? key) ∧
          Stage.bound ⟨seen, vars⟩ vars bindings = .ok inner ∧
          Stage.runAll store n.stages inner (store.collection n.model.collection) =
            .ok results ∧
          (results.length < 2 ^ 63 →
            fragment.eval ⟨doc, vars⟩ = .ok (some (.bool (n.finds results))))) rows docs := by
  obtain ⟨loaded, computed, condition, filtered, hstages, -, hf, hsource, hinto, hout, -⟩ :=
    planWith_filter_ok hfilter hplan
  obtain ⟨before, fragment, after, hfragment, hwithin, hbefore, hafter⟩ :=
    compileFilter_has hq.has hf
  obtain ⟨v, hv, rfl⟩ := compileFilter_exists_ok hfragment
  obtain ⟨n, bindings, resolved, hn, hbindings, rfl, hplaced⟩ :=
    compileSubquery_placedAt hstart (hinto.trans hbefore) hv (hafter.trans hout)
  refine ⟨n, bindings, _, condition, before, resolved, hn, hbindings, hsource, hwithin,
    fun store vars rows docs hrun => ?_⟩
  have hfield : '.' ∉ (c.config.subqueryField resolved.subqueryCount).toList :=
    notMem_numbered (by decide) hdots _
  have hkeeps : ∀ s ∈ p.annotations, s.Keeps (c.config.subqueryField resolved.subqueryCount) :=
    compileAnnotations_keeps (by simp [Document.names])
      (fun name hname => spares_of_head hfield (hcolumns name hname _)) hstages
  refine (hplaced.rows hdots hplain (fun s hs => (hkeeps s hs).rowwise) hrun).imp
    fun row doc hrow => ?_
  obtain ⟨inner, results, ⟨seen, hseen, -, hinner⟩, hresults, hdoc⟩ := hrow
  refine ⟨seen, inner, results, hseen, hinner, hresults, fun hlength => ?_⟩
  exact eval_existsFragment vars hfield (isOperatorName_numbered hplain _) (hdoc hkeeps hlength)

/-- Parcels, and labels that may have no text. -/
def parcels : Compiler where
  schema := ⟨[⟨"Parcel", some "parcels", false, [Model.primaryKey]⟩,
    ⟨"Label", some "labels", false,
      [Model.primaryKey, ⟨"text", .scalar .string, true, none⟩]⟩]⟩
  config := .usual

/-- The texts of all labels. -/
def labelTexts : Query := .mk "Label" none [] ["text"] [] none none [] none

/-- The parcels, if there is a label. -/
def labelled : Query := .mk "Parcel" (some (.exists labelTexts)) [] [] [] none none [] none

/-- A parcel, and a label without a text. -/
def oneLabel : Store :=
  ⟨[("parcels", [.object [("_id", .int 7)]]), ("labels", [.object [("_id", .int 1)]])]⟩

/-- There is a label, but it has no text, so the label is not found. -/
theorem oneLabel_notFound :
    ∃ (n : Nested) (p : Plan) (final : Context) (fragment doc : Value),
      parcels.nested labelTexts = .ok n ∧
      parcels.planWith (.ofModel ⟨"Parcel", some "parcels", false, [Model.primaryKey]⟩) labelled
        (fun ctx => parcels.compileAnnotations [] ctx labelled.annotations)
        (fun ctx => parcels.compileCondition ctx labelled.filter) = .ok (p, final) ∧
      Stage.runAll oneLabel n.stages [] (oneLabel.collection n.model.collection) =
        .ok [.object [("_id", .int 1)]] ∧
      Stage.runAll oneLabel (final.subqueryStages ++ p.annotations) []
        [.object [("_id", .int 7)]] = .ok [doc] ∧
      fragment.eval ⟨doc, []⟩ = .ok (some (.bool false)) := by
  obtain ⟨p, final, hplan, hruns⟩ : ∃ (p : Plan) (final : Context),
      parcels.planWith (.ofModel ⟨"Parcel", some "parcels", false, [Model.primaryKey]⟩) labelled
        (fun ctx => parcels.compileAnnotations [] ctx labelled.annotations)
        (fun ctx => parcels.compileCondition ctx labelled.filter) = .ok (p, final) ∧
      Stage.givesOne (Stage.runAll oneLabel (final.subqueryStages ++ p.annotations) []
        [.object [("_id", .int 7)]]) = true := ⟨_, _, rfl, by decide +kernel⟩
  obtain ⟨doc, hdoc⟩ := Stage.exists_of_givesOne hruns
  have hnames : ∀ name ∈ labelled.annotations.map (·.1), ∀ k,
      (pathNames name).head? ≠ some (parcels.config.subqueryField k) := by
    simp [labelled, Query.annotations]
  obtain ⟨n, bindings, fragment, condition, before, after, hn, hbindings, -, -, hrows⟩ :=
    asked_query_finds (c := parcels) (q := labelTexts) (by decide) (by decide) (.inl rfl)
      hnames rfl .exists hplan
  obtain rfl := Except.ok.inj (hn.symm.trans rfl)
  obtain ⟨rfl, -⟩ := Prod.mk.inj (Except.ok.inj hbindings)
  have hfound := hrows oneLabel [] [.object [("_id", .int 7)]] [doc] hdoc
  rw [List.forall₂_cons] at hfound
  obtain ⟨⟨seen, inner, results, -, hinner, hresults, heval⟩, -⟩ := hfound
  obtain rfl := Except.ok.inj hinner
  obtain rfl : results = [.object [("_id", .int 1)]] := Except.ok.inj (hresults.symm.trans rfl)
  exact ⟨_, p, final, fragment, doc, hn, hplan, hresults, hdoc, heval (by decide)⟩

end Compiler

end DocQuery
