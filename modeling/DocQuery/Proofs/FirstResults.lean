import DocQuery.Proofs.Accesses
import DocQuery.Proofs.Growth
import DocQuery.Proofs.Names
import DocQuery.Proofs.Rows
set_option autoImplicit false

/-!
# Proofs: the first results of subqueries

The stages of a subquery leave the first of its results in a field of their own, and nothing
else of a row changes. So behind other stages that spare the field, the column of the subquery
is read from there.
-/

namespace DocQuery

open Value
open Operator (found)

/-! ## First results -/

namespace Compiler

/-- The first of some results, or a document without fields if there are none. -/
def firstResult (results : List Value) : Value := results.head?.getD (.object [])

theorem eval_firstOrEmpty {output : String} {results : List Value} {scope : Scope}
    (hread : scope.read ("$" ++ output) = .ok (some (.array results)))
    (hcount : results.length < 2 ^ 63) :
    eval (Join.choice (Join.isEmptyArray (.string ("$" ++ output))) (.object [])
      (.operator "$arrayElemAt" (.array [.string ("$" ++ output), .int 0]))) scope =
      found (firstResult results) := by
  have hpath : eval (.string ("$" ++ output)) scope = .ok (some (.array results)) := by
    rw [eval_string, hread]
  have hzero : eval (.int 0) scope = .ok (some (.int 0)) := by simp only [eval, found]
  rw [Join.choice, eval_cond (Decides.isEmptyArray rfl hpath), countsZero_eq hcount]
  cases results with
  | nil => rfl
  | cons first rest =>
    have hfirst := eval_operator_pair .elementAt hpath hzero
    exact hfirst

/-- Behind its stages, the field of a subquery holds the first of its results. -/
theorem field?_firstOrEmpty {store : Store} {vars : Document} {output : String}
    {row out : Value}
    {results : List Value} (hdots : '.' ∉ output.toList)
    (hplain : isOperatorName output = false)
    (hcount : results.length < 2 ^ 63)
    (hrun : Stage.run store (firstOrEmpty output) vars [row.setPath output (.array results)] =
      .ok [out]) :
    out.field? output = some (firstResult results) := by
  have hread : Scope.read ⟨row.setPath output (.array results), vars⟩ ("$" ++ output) =
      .ok (some (.array results)) := by
    rw [PathText.read_root _ hplain, setPath_of_plain hdots, getPath_of_plain hdots,
      Document.value?_insert_self]
  have hset : Stage.addComputed
    [(output, Join.choice (Join.isEmptyArray (.string ("$" ++ output)))
      (.object []) (.operator "$arrayElemAt" (.array [.string ("$" ++ output), .int 0])))] vars
      (row.setPath output (.array results)) = .ok out := by
    rw [firstOrEmpty, Stage.run, Stage.each_ok_iff, List.forall₂_cons] at hrun
    exact hrun.1
  simp only [Stage.addComputed, Stage.computed, eval_firstOrEmpty hread hcount, found,
    Except.map, List.foldl_cons, List.foldl_nil, Except.ok.injEq, Stage.setComputed] at hset
  rw [← hset]
  exact field?_setPath_self hdots _ _

end Compiler

/-! ## Stages of subqueries -/

theorem keeps_firstOrEmpty {output key : String} (hdots : '.' ∉ output.toList)
    (hne : output ≠ key) : (Compiler.firstOrEmpty output).Keeps key := by
  refine Stage.keeps_set fun name hname => ?_
  obtain rfl := List.mem_singleton.mp hname
  exact spares_of_plain hdots hne

/-- The stages of subqueries only change the fields that hold their results. -/
theorem Placed.keeps {config : Config} {first last : Nat} {stages : List Stage} {key : String}
    (hdots : '.' ∉ config.subqueryPrefix.toList) (h : Placed config first last stages)
    (hkey : ∀ n, first ≤ n → n < last → config.subqueryField n ≠ key) :
    ∀ s ∈ stages, s.Keeps key := by
  induction h with
  | nil => simp
  | @snoc next stages source bindings pipeline h ih =>
    have hoften : first ≤ next := by
      clear ih hkey
      induction h with
      | nil => exact Nat.le_refl _
      | snoc _ _ _ _ ih => exact Nat.le_succ_of_le ih
    have hfield : '.' ∉ (config.subqueryField next).toList :=
      notMem_numbered (by decide) hdots next
    have hne : config.subqueryField next ≠ key := hkey next hoften (Nat.lt_succ_self next)
    refine List.forall_mem_append.mpr ⟨ih fun n hfirst hlast => ?_, ?_⟩
    · exact hkey n hfirst (Nat.lt_succ_of_lt hlast)
    · refine List.forall_mem_cons.mpr ⟨?_, List.forall_mem_singleton.mpr
        (keeps_firstOrEmpty hfield hne)⟩
      exact Stage.keeps_lookup (spares_of_plain hfield hne).2

theorem Placed.isRowwise {config : Config} {first last : Nat} {stages : List Stage}
    (h : Placed config first last stages) : ∀ s ∈ stages, s.IsRowwise := by
  induction h with
  | nil => simp
  | snoc source bindings pipeline _ ih =>
    refine List.forall_mem_append.mpr ⟨ih, List.forall_mem_cons.mpr
      ⟨Stage.isRowwise_lookup _ _ _ _, ?_⟩⟩
    exact List.forall_mem_singleton.mpr (Stage.isRowwise_set _)

/-- The stages of subqueries make no array of a row that is none. -/
theorem Placed.items?_of_runAll {config : Config} {first last : Nat} {stages : List Stage}
    (h : Placed config first last stages) {store : Store} {vars : Document} {row out : Value}
    (hrow : row.items? = none) (hrun : Stage.runAll store stages vars [row] = .ok [out]) :
    out.items? = none := by
  cases h with
  | nil =>
    obtain rfl : row = out := by simpa [Stage.runAll] using hrun
    exact hrow
  | snoc source bindings pipeline hfront =>
    obtain ⟨between, -, hlast⟩ := Stage.runAll_row_append hfront.isRowwise hrun
    obtain ⟨found, hlookup, hset⟩ :=
      Stage.runAll_row_cons (Stage.isRowwise_lookup _ _ _ _) hlast
    obtain ⟨inner, results, -, -, rfl⟩ := Stage.run_lookup_row hlookup
    obtain ⟨last, hfirst, hnil⟩ := Stage.runAll_row_cons (Stage.isRowwise_set _) hset
    obtain rfl : last = out := by simpa [Stage.runAll] using hnil
    exact Stage.items?_run_set (Value.items?_setPath _ _ _) hfirst

/-! ## Filters in filters -/

/-- Whether a filter is another one, or has it in conjunctions, disjunctions and negations. -/
inductive Filter.Has : Filter → Filter → Prop where
  | refl (f : Filter) : Has f f
  | and {filters : List Filter} {f g : Filter} (hf : f ∈ filters) (h : Has f g) :
    Has (.and filters) g
  | or {filters : List Filter} {f g : Filter} (hf : f ∈ filters) (h : Has f g) :
    Has (.or filters) g
  | not {f g : Filter} (h : Has f g) : Has (.not f) g

/-- Whether an expression stands in a condition, alone or in conjunctions, disjunctions and
negations. -/
inductive Value.Within (e : Value) : Value → Prop where
  | refl : Within e e
  | conjunction {es : List Value} {v : Value} (hv : v ∈ es) (h : Within e v) :
    Within e (conjunction es)
  | disjunction {es : List Value} {v : Value} (hv : v ∈ es) (h : Within e v) :
    Within e (disjunction es)
  | negation {v : Value} (h : Within e v) : Within e (negation v)

namespace Compiler

open Context (Extends)

variable {c : Compiler} {ctx ctx' : Context}

theorem compileFilters_mem {filters : List Filter} {es : List Value}
    (h : c.compileFilters ctx filters = .ok (es, ctx')) {f : Filter} (hf : f ∈ filters) :
    ∃ before v after, c.compileFilter before f = .ok (v, after) ∧ v ∈ es ∧
      Extends c.config ctx before ∧ Extends c.config after ctx' := by
  induction filters generalizing ctx es with
  | nil => simp at hf
  | cons g rest ih =>
    obtain ⟨v, after, others, hv, hrest, rfl⟩ := compileFilters_cons_ok h
    rcases List.mem_cons.mp hf with rfl | hmem
    · exact ⟨ctx, v, after, hv, List.mem_cons_self, .refl ctx, compileFilters_extends
        after rest hrest⟩
    · obtain ⟨before, w, last, hw, hwmem, hbefore, hlast⟩ := ih hrest hmem
      exact ⟨before, w, last, hw, List.mem_cons_of_mem v hwmem,
        (compileFilter_extends ctx g hv).trans hbefore, hlast⟩

/-- A filter is compiled to a condition in which stand the fragments for the filters that it
has. -/
theorem compileFilter_has {f g : Filter} (hg : f.Has g) {e : Value}
    (h : c.compileFilter ctx f = .ok (e, ctx')) :
    ∃ before fragment after, c.compileFilter before g = .ok (fragment, after) ∧
      fragment.Within e ∧ Extends c.config ctx before ∧ Extends c.config after ctx' := by
  induction hg generalizing ctx e ctx' with
  | refl f => exact ⟨ctx, e, ctx', h, .refl, .refl ctx, .refl ctx'⟩
  | and hf _ ih =>
    obtain ⟨es, hes, rfl⟩ := compileFilter_and_ok h
    obtain ⟨before, v, after, hv, hmem, hbefore, hafter⟩ := compileFilters_mem hes hf
    obtain ⟨first, fragment, last, hfragment, hwithin, hfirst, hlast⟩ := ih hv
    exact ⟨first, fragment, last, hfragment, .conjunction hmem hwithin, hbefore.trans hfirst,
      hlast.trans hafter⟩
  | or hf _ ih =>
    obtain ⟨es, inside, hes, rfl, rfl⟩ := compileFilter_or_ok h
    obtain ⟨before, v, after, hv, hmem, hbefore, hafter⟩ := compileFilters_mem hes hf
    obtain ⟨first, fragment, last, hfragment, hwithin, hfirst, hlast⟩ := ih hv
    exact ⟨first, fragment, last, hfragment, .disjunction hmem hwithin,
      (Extends.enter ctx).trans (hbefore.trans hfirst),
        hlast.trans (hafter.trans (.leave inside))⟩
  | not _ ih =>
    obtain ⟨v, inside, hv, rfl, rfl⟩ := compileFilter_not_ok h
    obtain ⟨first, fragment, last, hfragment, hwithin, hfirst, hlast⟩ := ih hv
    exact ⟨first, fragment, last, hfragment, .negation hwithin,
      (Extends.enter ctx).trans hfirst, hlast.trans (.leave inside)⟩

/-- Computed columns only change the fields that their names start with. -/
theorem compileAnnotations_keeps {pending : Document} {annotations : List (String × Expr)}
    {stages : List Stage} {key : String} (hpending : ∀ name ∈ pending.names, Spares name key)
    (hnames : ∀ name ∈ annotations.map (·.1), Spares name key)
    (h : c.compileAnnotations pending ctx annotations = .ok (stages, ctx')) :
    ∀ s ∈ stages, s.Keeps key := by
  induction annotations generalizing ctx pending stages with
  | nil =>
    rw [compileAnnotations] at h
    obtain ⟨rfl, -⟩ := Prod.mk.inj (Except.ok.inj h)
    unfold addColumns
    split
    · simp
    · exact List.forall_mem_singleton.mpr (Stage.keeps_addFields hpending)
  | cons annotation rest ih =>
    obtain ⟨name, body⟩ := annotation
    obtain ⟨hname, hrestNames⟩ := List.forall_mem_cons.mp hnames
    obtain ⟨v, type, after, -, hrest⟩ := compileAnnotations_cons_ok h
    rcases hrest with ⟨others, hothers, rfl⟩ | ⟨-, hothers⟩
    · refine List.forall_mem_cons.mpr ⟨Stage.keeps_addFields hpending, ih ?_ hrestNames hothers⟩
      exact List.forall_mem_singleton.mpr hname
    · refine ih (fun other hother => ?_) hrestNames hothers
      obtain ⟨m, hm, rfl⟩ := List.mem_map.mp hother
      rcases Document.mem_insert hm with hold | rfl
      · exact hpending m.1 (List.mem_map_of_mem hold)
      · exact hname

/-! ## Rows behind a subquery -/

/-- Behind the stages of a subquery, and others that leave its field as it is, the field holds
the first of its results for the row. -/
theorem field?_behind_subquery {store : Store} {vars bindings : Document}
    {front back stages : List Stage}
    {source output : String} {row doc : Value} (hdots : '.' ∉ output.toList)
    (hplain : isOperatorName output = false) (hfront : ∀ s ∈ front, s.IsRowwise)
    (hback : ∀ s ∈ back, s.Keeps output)
    (hrun : Stage.runAll store
      (front ++ (.lookup source bindings stages output :: firstOrEmpty output :: back))
      vars [row] = .ok [doc]) :
    ∃ seen inner results, Stage.runAll store front vars [row] = .ok [seen] ∧
      Stage.bound ⟨seen, vars⟩ vars bindings = .ok inner ∧
      Stage.runAll store stages inner (store.collection source) = .ok results ∧
      (results.length < 2 ^ 63 → doc.field? output = some (firstResult results)) := by
  obtain ⟨seen, hseen, hbehind⟩ := Stage.runAll_row_append hfront hrun
  obtain ⟨looked, hlooked, hnext⟩ := Stage.runAll_row_cons (Stage.isRowwise_lookup _
    _ _ _) hbehind
  obtain ⟨first, hfirst, hlast⟩ := Stage.runAll_row_cons (Stage.isRowwise_set _) hnext
  obtain ⟨inner, results, hinner, hresults, hlookup⟩ := Stage.run_lookup_row hlooked
  refine ⟨seen, inner, results, hseen, hinner, hresults, fun hcount => ?_⟩
  rw [Stage.field?_of_runAll hback hlast]
  exact field?_firstOrEmpty hdots hplain hcount (hlookup ▸ hfirst)

/-- A column of a subquery is read from the document that its field holds. -/
theorem read_behind_subquery {output : String} {doc result : Value} (vars : Document)
    (column : String) (hdots : '.' ∉ output.toList) (hplain : isOperatorName output = false)
    (hdoc : doc.field? output = some result) :
    Scope.read ⟨doc, vars⟩ ("$" ++ output ++ "." ++ column) = .ok (result.getPath column) := by
  have hlonger : isOperatorName (output ++ "." ++ column) = false :=
    Text.startsWith_append hplain column
  have hpath := PathText.read_root ⟨doc, vars⟩ hlonger
  rw [← String.append_assoc, ← String.append_assoc] at hpath
  rw [hpath]
  cases doc with
  | object fields =>
    rw [getPath_front hdots, show Document.value? fields output = _ from hdoc]; rfl
  | _ => simp [field?] at hdoc

end Compiler

end DocQuery
