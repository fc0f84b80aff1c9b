import DocQuery.Proofs.NormalizedExpressions
set_option autoImplicit false

/-!
# Proofs: queries of one normal form select the same

Queries are a language of their own around expressions.  A junction looks at all its clauses
before it is decided, so that their order does not count, also where the junction is one
condition among several.  All other conditions quote what they compare a path with.
-/

namespace DocQuery

namespace Value

/-! ## Data in queries -/

mutual

/-- The data in a query. -/
def dataOfQuery : Value → List Datum
  | .object conditions => dataOfConditions conditions
  | _ => []

/-- The data in the conditions of a query. -/
def dataOfConditions : List (String × Value) → List Datum
  | [] => []
  | (key, condition) :: rest => dataOfCondition key condition ++ dataOfConditions rest

/-- The data in a condition: those of an expression, those of the queries that a junction holds,
or else what a path is compared with. -/
def dataOfCondition (key : String) : Value → List Datum
  | .array clauses =>
    if key = "$expr" then data (.array clauses)
    else if key = "$and" ∨ key = "$or" then dataOfClauses clauses
    else [.quotation key (.array clauses)]
  | condition => if key = "$expr" then data condition else [.quotation key condition]

/-- The data in queries. -/
def dataOfClauses : List Value → List Datum
  | [] => []
  | query :: rest => dataOfQuery query ++ dataOfClauses rest

end

variable {v w : Value} {items others : List Value} {fields members : Document} {key : String}
  {scope : Scope} {n : Nat}

theorem dataOfQuery_subset_clauses (h : v ∈ items) : dataOfQuery v ⊆ dataOfClauses items := by
  induction items with
  | nil => simp at h
  | cons u rest ih =>
    rw [dataOfClauses]
    rcases List.mem_cons.mp h with rfl | hrest
    · exact List.subset_append_left _ _
    · exact List.Subset.trans (ih hrest) (List.subset_append_right _ _)

theorem dataOfCondition_expr (v : Value) : dataOfCondition "$expr" v = data v := by
  cases v <;> rfl

theorem dataOfCondition_path (hexpr : key ≠ "$expr")
    (hjunction : ¬ (key = "$and" ∨ key = "$or")) (v : Value) :
    dataOfCondition key v = [.quotation key v] := by
  cases v <;> simp only [dataOfCondition, if_neg hexpr, if_neg hjunction]

/-- Whether two queries have one normal form, and hold data that it tells apart. -/
structure SameNormalQuery (v w : Value) : Prop where
  normal : normalize v = normalize w
  data : Datum.ToldApart (dataOfQuery v) (dataOfQuery w)

/-- Whether two queries select the same documents wherever both can be decided. -/
def QueriesAgree (v w : Value) : Prop := ∀ scope, Consistent (selects v scope) (selects w scope)

/-! ## Conditions -/

/-- Whether a document fulfils the condition of a name in a query. -/
def fulfils (key : String) (condition : Value) (scope : Scope) : Except ExecError Bool :=
  if key = "$expr" then (condition.eval scope).map isTruthy?
  else if key = "$and" ∨ key = "$or" then
    match condition with
    | .array clauses =>
      match selectsEach clauses scope with
      | .error e => .error e
      | .ok results => .ok (if key = "$and" then results.all id else results.any id)
    | _ => .error (.typeError (.clauses key))
  else matchesCondition (scope.root.getPath key) condition

theorem selectsAll_cons (key : String) (condition : Value) (rest : Document) (scope : Scope) :
    selectsAll ((key, condition) :: rest) scope =
      match fulfils key condition scope with
      | .error e => .error e
      | .ok true => selectsAll rest scope
      | .ok false => .ok false := by
  cases condition <;> rfl

theorem selectsAll_cons_eq (key : String) (condition : Value) (rest : Document)
    (scope : Scope) : selectsAll ((key, condition) :: rest) scope =
      (fulfils key condition scope).bind fun b => if b then selectsAll rest scope else
          .ok false := by
  rw [selectsAll_cons]
  cases fulfils key condition scope with
  | error e => rfl
  | ok b => cases b <;> rfl

/-- The results of queries are those of each of them. -/
theorem selectsEach_ok {results : List Bool} (h : selectsEach items scope = .ok results) :
    (∀ query ∈ items, ∃ b ∈ results, selects query scope = .ok b) ∧
      ∀ b ∈ results, ∃ query ∈ items, selects query scope = .ok b := by
  induction items generalizing results with
  | nil =>
    obtain rfl := Except.ok.inj h
    simp
  | cons query rest ih =>
    rw [selectsEach] at h
    cases hfirst : selects query scope with
    | error e => simp [hfirst] at h
    | ok b =>
      cases hrest : selectsEach rest scope with
      | error e => simp [hfirst, hrest] at h
      | ok bs =>
        simp only [hfirst, hrest, Except.ok.injEq] at h
        obtain ⟨hqueries, hresults⟩ := ih hrest
        subst h
        refine ⟨List.forall_mem_cons.mpr ⟨⟨b, List.mem_cons_self, hfirst⟩, fun q hq => ?_⟩,
          List.forall_mem_cons.mpr ⟨⟨query, List.mem_cons_self, hfirst⟩, fun c hc => ?_⟩⟩
        · obtain ⟨c, hc, hqc⟩ := hqueries q hq
          exact ⟨c, List.mem_cons_of_mem b hc, hqc⟩
        · obtain ⟨q, hq, hqc⟩ := hresults c hc
          exact ⟨q, List.mem_cons_of_mem query hq, hqc⟩

/-- Junctions of queries that agree in any order have the same results in some order. -/
theorem mem_results_iff (hleft : ∀ v ∈ items, ∃ w ∈ others, QueriesAgree v w)
    (hright : ∀ w ∈ others, ∃ v ∈ items, QueriesAgree v w) {results results' : List Bool}
    (h : selectsEach items scope = .ok results)
    (h' : selectsEach others scope = .ok results') (b : Bool) :
    b ∈ results ↔ b ∈ results' := by
  obtain ⟨hqueries, hresults⟩ := selectsEach_ok h
  obtain ⟨hqueries', hresults'⟩ := selectsEach_ok h'
  constructor
  · intro hb
    obtain ⟨v, hv, hvb⟩ := hresults b hb
    obtain ⟨w, hw, hagrees⟩ := hleft v hv
    obtain ⟨c, hc, hwc⟩ := hqueries' w hw
    exact hagrees scope b c hvb hwc ▸ hc
  · intro hb
    obtain ⟨w, hw, hwb⟩ := hresults' b hb
    obtain ⟨v, hv, hagrees⟩ := hright w hw
    obtain ⟨c, hc, hvc⟩ := hqueries v hv
    exact (hagrees scope c b hvc hwb).symm ▸ hc

/-- A junction only asks which results there are. -/
theorem consistent_junction (hleft : ∀ v ∈ items, ∃ w ∈ others, QueriesAgree v w)
    (hright : ∀ w ∈ others, ∃ v ∈ items, QueriesAgree v w) (hexpr : key ≠ "$expr")
    (hjunction : key = "$and" ∨ key = "$or") :
    Consistent (fulfils key (.array items) scope) (fulfils key (.array others) scope) := by
  simp only [fulfils, if_neg hexpr, if_pos hjunction]
  cases hitems : selectsEach items scope with
  | error e => exact .error_left e _
  | ok results =>
    cases hothers : selectsEach others scope with
    | error e => exact .error_right _ e
    | ok results' =>
      have hmem := mem_results_iff hleft hright hitems hothers
      have hall : results.all id = results'.all id :=
        Bool.eq_iff_iff.mpr (by simp only [List.all_eq_true, hmem])
      have hany : results.any id = results'.any id :=
        Bool.eq_iff_iff.mpr (by simp only [List.any_eq_true, hmem])
      simp only [hall, hany]
      exact .refl _

/-! ## Queries with one normal form -/

/-- Whether queries up to a size agree if they have one normal form. -/
def QueriesAgreeBelow (n : Nat) : Prop :=
    ∀ v w : Value, sizeOf v < n → SameNormalQuery v w → QueriesAgree v w

theorem QueriesAgreeBelow.forCondition (ih : QueriesAgreeBelow n) (hsize : sizeOf v ≤ n)
    (hnormal : sortOperands key (normalize v) = sortOperands key (normalize w))
    (hdata : Datum.ToldApart (dataOfCondition key v) (dataOfCondition key w)) :
    Consistent (fulfils key v scope) (fulfils key w scope) := by
  by_cases hexpr : key = "$expr"
  · subst hexpr
    rw [sortOperands_of_ordered rfl, sortOperands_of_ordered rfl] at hnormal
    rw [dataOfCondition_expr, dataOfCondition_expr] at hdata
    exact (SameNormalForm.agrees ⟨hnormal, hdata⟩ scope).map isTruthy?
  by_cases hjunction : key = "$and" ∨ key = "$or"
  · have hsort : isUnordered key = true := by rcases hjunction with rfl | rfl <;> rfl
    cases v with
    | array clauses =>
      obtain ⟨clauses', rfl, hleft, hright⟩ := exists_partners hsort hnormal
      simp only [dataOfCondition, if_neg hexpr, if_pos hjunction] at hdata
      have hagree : ∀ q ∈ clauses, ∀ q' ∈ clauses', normalize q = normalize q' →
          QueriesAgree q q' := by
        intro q hq q' hq' hqq'
        have hlt := List.sizeOf_lt_of_mem hq
        rw [array.sizeOf_spec] at hsize
        exact ih q q' (by omega)
          ⟨hqq', hdata.mono (dataOfQuery_subset_clauses hq) (dataOfQuery_subset_clauses hq')⟩
      refine consistent_junction (fun q hq => ?_) (fun q' hq' => ?_) hexpr hjunction
      · obtain ⟨q', hq', hqq'⟩ := hleft q hq
        exact ⟨q', hq', hagree q hq q' hq' hqq'⟩
      · obtain ⟨q, hq, hqq'⟩ := hright q' hq'
        exact ⟨q, hq, hagree q hq q' hq' hqq'⟩
    | _ =>
      simp only [fulfils, if_neg hexpr, if_pos hjunction]
      exact .error_left _ _
  · rw [dataOfCondition_path hexpr hjunction, dataOfCondition_path hexpr hjunction] at hdata
    have hquotation := hdata _ List.mem_cons_self _ List.mem_cons_self
      (congrArg (Datum.quotation key) hnormal)
    obtain ⟨-, rfl⟩ := Datum.quotation.inj hquotation
    exact .refl _

theorem QueriesAgreeBelow.forConditions (ih : QueriesAgreeBelow n) (hsize : sizeOf fields ≤ n)
    (hnormal : normalizeFields fields = normalizeFields members)
    (hdata : Datum.ToldApart (dataOfConditions fields) (dataOfConditions members)) :
    Consistent (selectsAll fields scope) (selectsAll members scope) := by
  induction fields generalizing members with
  | nil =>
    cases members with
    | nil => exact .refl _
    | cons n members => simp [normalizeFields] at hnormal
  | cons m rest ihrest =>
    cases members with
    | nil => simp [normalizeFields] at hnormal
    | cons m' members =>
      obtain ⟨name, v⟩ := m
      obtain ⟨name', w⟩ := m'
      simp only [normalizeFields, List.cons.injEq, Prod.mk.injEq] at hnormal
      obtain ⟨⟨rfl, hvalue⟩, hrest⟩ := hnormal
      rw [dataOfConditions, dataOfConditions] at hdata
      rw [List.cons.sizeOf_spec, Prod.mk.sizeOf_spec] at hsize
      rw [selectsAll_cons_eq, selectsAll_cons_eq]
      have hfirst : Consistent (fulfils name v scope) (fulfils name w scope) :=
        ih.forCondition (by omega) hvalue (hdata.mono (List.subset_append_left _ _)
          (List.subset_append_left _ _))
      refine hfirst.bind fun b => ?_
      split
      · exact ihrest (by omega) hrest (hdata.mono (List.subset_append_right _ _)
          (List.subset_append_right _ _))
      · exact .refl _

/-- By induction on the size of queries. -/
theorem queriesAgreeBelow (n : Nat) : QueriesAgreeBelow n := by
  induction n with
  | zero => exact fun v w hsize => absurd hsize (Nat.not_lt_zero _)
  | succ n ih =>
    intro v w hsize h scope
    cases v with
    | object fields =>
      have hnormal := h.normal
      cases w with
      | object members =>
        rw [normalize, normalize, Value.object.injEq] at hnormal
        rw [object.sizeOf_spec] at hsize
        exact ih.forConditions (by omega) hnormal h.data
      | _ => simp [normalize] at hnormal
    | _ => exact .error_left _ _

theorem SameNormalQuery.agree (h : SameNormalQuery v w) : QueriesAgree v w :=
  queriesAgreeBelow (sizeOf v + 1) v w (Nat.lt_succ_self _) h

end Value

end DocQuery
