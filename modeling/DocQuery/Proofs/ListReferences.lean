import DocQuery.Proofs.FieldPaths
import DocQuery.Proofs.JoinKinds
import DocQuery.Proofs.Moves
import DocQuery.Proofs.NamedValues
set_option autoImplicit false

/-!
# Proofs: lookups in a list that stands in a field

A lookup for membership, for all items of a list or for items of a list only may take its list
from a field of the document.  The lookup is true or false if there is an array in the field.
What it makes of a field without a list differs:  membership in nothing fails as soon as there
is something to compare, null is a list that nothing is compared with in the other lookups, and
what is missing makes these fail.
-/

namespace DocQuery

open Value
open Operator (found truth)

/-! ## What is compared has a value -/

namespace Simulates

variable {c : Compiler} {model name : String} {a b : Access} {last : Bool}

/-- A member behind a value without declared fields. -/
theorem memberStep_access {type : ValueType}
    (h : Compiler.memberStep a type name last = .access b) :
    b = .jsonKey a name (.scalar .json) := by
  simp only [Compiler.memberStep] at h
  split at h
  · split at h
    · cases h
    · exact (Landing.access.inj h).symm
  · exact (Landing.access.inj h).symm

/-- A name that leads on from an access that shows what a route reads leads to another such
access. -/
theorem exists_step (hplain : c.schema.hasPlainColumns = true)
    (hsim : ∃ r, Simulates c.schema model a r)
    (h : c.step a name last = .ok (.access b)) : ∃ r, Simulates c.schema model b r := by
  obtain ⟨r, hsim⟩ := hsim
  by_cases hjson : r.type = .scalar .json
  · cases hsim with
    | one a read hmapped hshows =>
      have htype : a.type = .scalar .json := hjson
      simp only [Compiler.step, htype] at h
      obtain rfl := memberStep_access (Except.ok.inj h)
      exact ⟨_, .one (.jsonKey a name (.scalar .json)) _ rfl fun doc hdoc =>
        (htype ▸ hshows doc hdoc).jsonKey name⟩
    | each array inner items source read hmapped harray hinner =>
      have htype : inner.type = .scalar .json := hjson
      simp only [Compiler.step, Access.type, Compiler.elementStep, htype] at h
      obtain ⟨next, hnext, rfl⟩ := Compiler.insideEach_eq_access (Except.ok.inj h)
      obtain rfl := memberStep_access hnext
      exact ⟨_, .each array (.jsonKey inner name (.scalar .json)) items source _ rfl harray
        fun doc item hitem => (htype ▸ hinner doc item hitem).jsonKey name⟩
  · rcases hsim.step hplain hjson h with ⟨next, r', hnext, -, hsim'⟩ | ⟨l, hl, -⟩
    · exact ⟨r', Landing.access.inj hnext ▸ hsim'⟩
    · cases hl

end Simulates

namespace Compiler

variable {c : Compiler} {ctx ctx' : Context} {model path : String} {m : Model} {e : Ending}
  {r : Resolved}

/-- The joins on a path are only added to. -/
theorem follow_joins {place : Place} {names : List String} {joins : List Nat}
    (h : c.follow path place names joins ctx = (.ok e, ctx')) : joins <+: e.joins := by
  induction names generalizing place joins ctx with
  | nil =>
    cases place with
    | document m joined relation => simp [follow] at h
    | value a =>
      obtain ⟨rfl, -⟩ := follow_value_nil_ok h
      exact List.prefix_refl _
  | cons name rest ih =>
    cases place with
    | value a => exact (follow_value_ok h).2.1 ▸ List.prefix_refl _
    | document m joined relation =>
      obtain ⟨name', rest', f, hnames, -, hcase⟩ := follow_document_ok h
      obtain ⟨rfl, rfl⟩ := List.cons.inj hnames
      rcases hcase with ⟨-, hcolumn⟩ | ⟨_, _, _, target, k, -, -, -, -, hjoin⟩
      · exact ih hcolumn
      · exact (List.prefix_append _ _).trans (ih hjoin)

/-- What names behind such an access lead to shows what a route reads, too. -/
theorem exists_route_of_follow (hplain : c.schema.hasPlainColumns = true) {a : Access}
    {names : List String} {joins : List Nat} (ha : ∃ r, Simulates c.schema model a r)
    (h : c.follow path (.value a) names joins ctx = (.ok e, ctx')) :
        ∃ r, Simulates c.schema model e.target r := by
  induction names generalizing a with
  | nil =>
    obtain ⟨rfl, -⟩ := follow_value_nil_ok h
    exact ha
  | cons name rest ih =>
    rcases follow_value_cons_ok h with ⟨next, hstep, hnext⟩ | ⟨l, -, rfl, -⟩
    · exact ih (Simulates.exists_step hplain ha hstep) hnext
    · exact ha

/-- A path without joins leaves the context of a query as it is, and shows what a route reads
from every document. -/
theorem inside_of_resolveLookup (hplain : c.schema.hasPlainColumns = true)
    (hm : c.schema.model? model = some m)
    (h : c.resolveLookup (.ofModel m) path = (.ok r, ctx'))
    (hjoins : r.joins = []) :
        ctx' = .ofModel m ∧ ∃ route, Simulates c.schema model r.target route := by
  obtain ⟨ending, hend, hcompared⟩ := resolveLookup_ok h
  obtain ⟨rfl, -⟩ := compared_ok hcompared
  obtain ⟨name, rest, -, -, ⟨type, hcomputed, -⟩ | ⟨-, hdocument⟩⟩ := followPath_ok hend
  · simp [Context.computedType?, Context.ofModel, Context.findType] at hcomputed
  · obtain ⟨_, _, f, hnames, hf, hcase⟩ := follow_document_ok hdocument
    obtain ⟨rfl, rfl⟩ := List.cons.inj hnames
    rcases hcase with ⟨-, hcolumn⟩ | ⟨_, _, _, target, k, -, -, -, -, hjoin⟩
    · have hmem := List.mem_of_find?_eq_some hf
      obtain ⟨hpoint, hdollar⟩ := Schema.plain_column hplain hm hmem
      have hstart : ∃ route, Simulates c.schema model
          (.column none f.column (.ofField f.kind)) route :=
        ⟨_, .one _ (fun doc => columnOf (some doc) f.column) (isMapped_ofField f.kind)
            fun doc hdoc =>
          Shows.column hm hmem hdoc hpoint hdollar⟩
      exact ⟨(follow_value_ok hcolumn).1, exists_route_of_follow hplain hstart hcolumn⟩
    · have hgrown := follow_joins hjoin
      rw [show ending.joins = [] from hjoins] at hgrown
      simp at hgrown

end Compiler

/-- What an access compares can be evaluated in every document if the access shows what a route
reads. -/
theorem Simulates.exists_compared {s : Schema} {model : String} {a : Access} {route : Route}
    (hsim : Simulates s model a route) {doc : Value}
    (hdoc : s.conforms (.embedded model) doc = true) :
    ∃ xs, a.compared ⟨doc, []⟩ = .ok xs := by
  cases hsim with
  | one a read hmapped hshows =>
    have hsingle : ∀ base inner, a ≠ .each base inner := by
      rintro base inner rfl
      simp [Access.type, ValueType.isMapped] at hmapped
    obtain ⟨x, hx, -⟩ := (hshows doc hdoc).evaluates
    exact ⟨[x], by rw [Access.compared_single hsingle, hx]; rfl⟩
  | each array inner items source read hmapped harray hinner =>
    obtain ⟨x, hx, hsource, hshape⟩ := (harray doc hdoc).array
    simp only [Access.compared, hx]
    rcases hshape with hnone | ⟨values, rfl⟩
    · rcases eq_none_or_null_of_present hnone with rfl | rfl <;> exact ⟨[], rfl⟩
    · have hsame : source doc = some (.array values) := hsource.symm
      refine Stage.exists_each_iff.mpr fun item hitem => ?_
      have hconforms := (harray doc hdoc).conforms_item (by rw [hsame]; exact hitem)
      obtain ⟨y, hy, -⟩ := (hinner doc item hconforms).evaluates
      exact ⟨y, hy⟩

/-! ## What a lookup makes of a list -/

namespace Lookup

/-- What a lookup that takes a list makes of the compared values and of its list, which may be
null or missing. -/
def applyList (l : Lookup) (xs : List (Option Value)) (list : Option Value) : Evaluation :=
  match l with
  | .in =>
    match list with
    | some (.array set) => truth (meet xs set)
    | other => if xs.isEmpty then truth false else Operator.fail (.membership (typeName? other))
  | .all =>
    if list.any isNull then truth false
    else Operator.applySubset list (some (.array (xs.map fun x => x.getD .null)))
  | _ =>
    if list.any isNull then truth false
    else Operator.applySubset (some (.array (xs.map fun x => x.getD .null))) list

/-- Whether a lookup fails for its list: membership if there is something to compare with no
array, the others if the list is neither an array nor null. -/
def failsOnList (l : Lookup) (xs : List (Option Value)) (list : Option Value) : Bool :=
  match l, list with
  | _, some (.array _) => false
  | .in, _ => !xs.isEmpty
  | _, some .null => false
  | _, _ => true

/-- A lookup with a list is true or false, and false if the list is not there, unless it fails
for the list. -/
theorem applyList_evaluates {l : Lookup} (hl : l.arity = .list) (xs : List (Option Value))
    (list : Option Value) :
    (l.failsOnList xs list = false → ∃ b, l.applyList xs list = truth b ∧
      (present list = none → b = false)) ∧ (l.failsOnList xs list = true → ∃ fault,
      l.applyList xs list = Operator.fail fault) := by
  cases l <;> simp [arity] at hl
  case «in» =>
    rcases list with _ | list
    · cases xs <;> simp [failsOnList, applyList, truth, found, Operator.fail]
    · cases list <;> cases xs <;> simp [failsOnList, applyList, truth, found,
        Operator.fail, present]
  all_goals
    rcases list with _ | list
    · simp [failsOnList, applyList, Operator.applySubset, Operator.fail]
    · cases list <;> simp [failsOnList, applyList, Operator.applySubset, isNull, truth, found,
        Operator.fail, present]

end Lookup

namespace Value

variable {base inner : Access} {scope : Scope} {xs : List (Option Value)}

/-- The values of a step on some items, in an array. -/
theorem mapItems_eq_each (step : Value → Evaluation) (items : List Value) :
    mapItems step items = (Stage.each step items).map fun xs => xs.map fun x =>
        x.getD .null := by
  induction items with
  | nil => rfl
  | cons item rest ih =>
    simp only [mapItems, Stage.each, ih]
    cases step item with
    | error error => rfl
    | ok x => cases Stage.each step rest <;> rfl

/-- Where there is something to compare in an array, the array evaluates to its items. -/
theorem compared_each_ok (h : (Access.each base inner).compared scope = .ok xs) :
    ∃ x, eval base.render scope = .ok x ∧
      ((present x = none ∧ xs = []) ∨ ∃ items, x = some (.array items) ∧
        Stage.each (fun item => eval inner.render (scope.bind Access.itemName item))
            items = .ok xs) := by
  simp only [Access.compared] at h
  cases hbase : eval base.render scope with
  | error error => simp [hbase] at h
  | ok x =>
    refine ⟨x, rfl, ?_⟩
    rw [hbase] at h
    rcases x with _ | v
    · exact .inl ⟨rfl, (Except.ok.inj h).symm⟩
    · cases v with
      | array items => exact .inr ⟨items, rfl, h⟩
      | null => exact .inl ⟨rfl, (Except.ok.inj h).symm⟩
      | _ => cases h

/-- The compared values of an array as an array, in which what is missing is null. -/
theorem eval_mapOf_of_compared (h : (Access.each base inner).compared scope = .ok xs) :
    eval (Access.mapOf base.render inner.render) scope =
        found (.array (xs.map fun x => x.getD .null)) := by
  obtain ⟨x, hx, ⟨hnone, rfl⟩ | ⟨items, rfl, hitems⟩⟩ := compared_each_ok h
  · rw [eval_mapOf_eq, hx]
    rcases eq_none_or_null_of_present hnone with rfl | rfl <;> rfl
  · rw [eval_mapOf_eq, hx]
    simp only [Except.bind, applyMap, mapItems_eq_each, hitems]
    rfl

/-- A test of the items of an array that always fails does so as soon as there is an item. -/
theorem eval_someItem_of_failing {body : Value} {error : ExecError}
    (h : (Access.each base inner).compared scope = .ok xs)
    (hbody : ∀ item x, eval inner.render (scope.bind Access.itemName item) = .ok x →
      eval body (scope.bind Access.itemName item) = .error error) :
    eval (.operator "$anyElementTrue" (Access.mapOf base.render body)) scope =
      if xs.isEmpty then truth false else .error error := by
  refine (eval_operator_single .anyElementTrue rfl scope).trans ?_
  rw [eval_mapOf_eq]
  obtain ⟨x, hx, ⟨hnone, rfl⟩ | ⟨items, rfl, hitems⟩⟩ := compared_each_ok h
  · rw [hx]
    rcases eq_none_or_null_of_present hnone with rfl | rfl <;> rfl
  · rw [hx]
    cases items with
    | nil =>
      obtain rfl := Except.ok.inj hitems
      rfl
    | cons item rest =>
      simp only [Stage.each] at hitems
      cases hitem : eval inner.render (scope.bind Access.itemName item) with
      | error error => simp [hitem] at hitems
      | ok y =>
        cases hrest : Stage.each (fun item => eval inner.render (scope.bind Access.itemName
            item)) rest with
        | error error => simp [hitem, hrest] at hitems
        | ok ys =>
          obtain rfl : y :: ys = xs := by simpa [hitem, hrest] using hitems
          simp only [Except.bind, applyMap, mapItems, hbody item y hitem]
          rfl

end Value

namespace Lookup

variable {l : Lookup} {target : Access} {e w root : Value} {vars : Document}
  {xs : List (Option Value)}
  {list : Option Value}

/-- A lookup for membership in what need not be an array. -/
theorem eval_in_list (h : Lookup.in.buildOn target w = .ok e) (hw : w.ReadsAs root list)
    (hxs : target.compared ⟨root, vars⟩ = .ok xs) :
        eval e ⟨root, vars⟩ = Lookup.in.applyList xs list := by
  by_cases harray : ∃ set, list = some (.array set)
  · obtain ⟨set, rfl⟩ := harray
    rw [eval_in_array h hw, hxs]
    rfl
  · have hfails : ∀ x,
      Operator.applyMembership x list = Operator.fail (.membership (typeName? list)) := by
      intro x
      rcases list with _ | v
      · rfl
      · cases v <;> first | rfl | exact absurd ⟨_, rfl⟩ harray
    have hlist : Lookup.in.applyList xs list =
        if xs.isEmpty then truth false else Operator.fail (.membership (typeName? list)) := by
      rcases list with _ | v
      · rfl
      · cases v <;> first | rfl | exact absurd ⟨_, rfl⟩ harray
    rw [hlist]
    rcases buildOn_in_ok h with ⟨base, inner, rfl, rfl⟩ | ⟨-, hsingle, rfl⟩
    · refine eval_someItem_of_failing hxs fun item x hx => (eval_in hw).trans ?_
      exact (congrArg (Except.bind · _) hx).trans (hfails x)
    · rw [eval_in hw]
      rw [Access.compared_single hsingle] at hxs
      cases hx : eval target.render ⟨root, vars⟩ with
      | error error => simp [hx, Except.map] at hxs
      | ok x =>
        obtain rfl : [x] = xs := by simpa [hx, Except.map] using hxs
        exact hfails x

/-- A lookup on all items of an array is built on their values in an array. -/
theorem buildOn_whole_ok (hwhole : l = .all ∨ l = .containedBy)
    (hallowed : (allowed target.type).contains l = true)
    (h : l.buildOn target w = .ok e) :
        target.type.isMapped = true ∧ e = l.build target.render w := by
  have hmapped : target.type.isMapped = true := by
    cases hflat : target.type.isMapped with
    | true => rfl
    | false =>
      obtain ⟨hall, hcontained⟩ := ne_all_of_allowed hflat hallowed
      rcases hwhole with rfl | rfl
      · exact absurd rfl hall
      · exact absurd rfl hcontained
  simp only [buildOn, hmapped, if_true, buildMapped, if_pos hwhole, Except.ok.injEq] at h
  exact ⟨hmapped, h.symm⟩

theorem applySubset_eq (x y : Option Value) :
    (∃ b, Operator.applySubset x y = truth b) ∨ ∃ fault, Operator.applySubset x y =
        Operator.fail fault := by
  unfold Operator.applySubset
  split
  · exact .inl ⟨_, rfl⟩
  · exact .inr ⟨_, rfl⟩

/-- The guarded test for a subset, where one list is an array and the other one need not be. -/
theorem eval_subsetCheck {mapped subset superset : Value} {scope : Scope} {ms : List Value}
    {x y : Option Value}
    (hmapped : eval mapped scope = .ok (some (.array ms))) (hw : eval w scope = .ok list)
    (hsubset : eval subset scope = .ok x) (hsuperset : eval superset scope = .ok y) :
    eval (subsetCheck mapped w subset superset) scope =
      if list.any isNull then truth false else Operator.applySubset x y := by
  have hnull : eval .null scope = .ok (some .null) := by simp only [eval, found]
  have hne : eval (binary "$ne" mapped .null) scope = truth true :=
    Decides.comparison .ne hmapped hnull
  have hlist : eval (binary "$ne" w .null) scope = truth (!list.any isNull) := by
    refine (Decides.comparison .ne hw hnull).trans (congrArg truth ?_)
    rcases list with _ | v
    · rfl
    · cases v <;> rfl
  have hsub : eval (.operator "$setIsSubset" (.array [subset, superset])) scope =
      Operator.applySubset x y :=
    eval_operator_pair .setIsSubset hsubset hsuperset
  have hjunction : eval (subsetCheck mapped w subset superset) scope =
      evalUntil false [binary "$ne" mapped .null, binary "$ne" w .null,
        .operator "$setIsSubset" (.array [subset, superset])] scope := eval_and _ scope
  rw [hjunction]
  simp only [evalUntil, hne, hlist, hsub, truth, found]
  cases list.any isNull with
  | true => rfl
  | false =>
    rcases applySubset_eq x y with ⟨b, hb⟩ | ⟨fault, hfault⟩
    · rw [hb]
      cases b <;> rfl
    · rw [hfault]
      rfl

/-- A lookup that takes a list, in the compared values and what its list evaluates to. -/
theorem eval_applyList (hl : l.arity = .list)
    (hallowed : (allowed target.type).contains l = true)
    (heach : target.type.isMapped = true → ∃ base inner, target = .each base inner)
    (h : l.buildOn target w = .ok e) (hw : w.ReadsAs root list)
    (hxs : target.compared ⟨root, vars⟩ = .ok xs) :
    eval e ⟨root, vars⟩ = l.applyList xs list := by
  by_cases hwhole : l = .all ∨ l = .containedBy
  · obtain ⟨hmapped, rfl⟩ := buildOn_whole_ok hwhole hallowed h
    obtain ⟨base, inner, rfl⟩ := heach hmapped
    have hvalues : eval (Access.each base inner).render ⟨root, vars⟩ = _ :=
      eval_mapOf_of_compared hxs
    rcases hwhole with rfl | rfl
    · exact eval_subsetCheck hvalues (hw vars) (hw vars) hvalues
    · exact eval_subsetCheck hvalues (hw vars) hvalues (hw vars)
  · obtain rfl : l = .in := by
      cases l <;> simp [arity] at hl hwhole ⊢
    exact eval_in_list h hw hxs

end Lookup

namespace Compiler

variable {c : Compiler} {after : Context} {model path reference : String} {m : Model}
  {r : Resolved}
  {names : List String} {reads : Option Value → Option Value}

/-- What is compared item by item is reached into each item of an array. -/
theorem exists_each_of_resolveLookup (h : c.resolveLookup (.ofModel m) path = (.ok r, after))
    (hmapped : r.target.type.isMapped = true) : ∃ base inner, r.target = .each base inner := by
  obtain ⟨ending, hend, hcompared⟩ := resolveLookup_ok h
  obtain ⟨rfl, -⟩ := compared_ok hcompared
  obtain ⟨name, rest, -, -, ⟨type, hcomputed, -⟩ | ⟨-, hdocument⟩⟩ := followPath_ok hend
  · simp [Context.computedType?, Context.ofModel, Context.findType] at hcomputed
  · exact exists_each_of_follow_document hdocument hmapped

/-- A lookup that takes a list compiles with a reference to a field as its list.  On every
document, the reference gives a list or nothing.  Unless the lookup fails for the list, it is
true or false of the document, and false if the list is null or missing:  it fails for a list
that is missing, or null in a lookup for membership, unless that compares nothing.  What is
compared always has a value where the path of the lookup needs no join. -/
theorem list_reference_evaluates (hplain : c.schema.hasPlainColumns = true)
    (hm : c.schema.model? model = some m) (htop : m.embedded = false)
    (hr : c.resolveLookup (.ofModel m) path = (.ok r, after)) (hlist : r.lookup.arity = .list)
    (hreads : c.schema.Locates (.embedded model) names (.scalar .json) reads)
    (hreference : Text.segments reference = names) (hempty : "" ∉ names) :
    ∃ e cond, c.compileExpr (.ofModel m) (.field reference) =
      .ok ((e, .scalar .json), .ofModel m) ∧
      c.compileFilterOn model (.lookup path (.field reference)) = .ok cond ∧
      (r.joins = [] → cond.stages = []) ∧
      ∀ doc, c.schema.conforms (.embedded model) doc = true → ∃ list,
        e.evalOn doc = .ok list ∧ present list = reads (some doc) ∧
        (r.joins = [] → ∃ xs, r.target.compared ⟨doc, []⟩ = .ok xs) ∧
        ∀ xs, r.target.compared ⟨doc, []⟩ = .ok xs →
          (r.lookup.failsOnList xs list = false →
            ∃ b, cond.expr.evalOn doc = truth b ∧ (reads (some doc) = none → b = false)) ∧
          (r.lookup.failsOnList xs list = true → ∃ fault, cond.expr.evalOn doc =
              Operator.fail fault) := by
  obtain ⟨a, ha⟩ := exists_fieldAccess hm hreads
  obtain ⟨ending, hend, hcompared⟩ := resolveLookup_ok hr
  obtain ⟨-, hallowed⟩ := compared_ok hcompared
  have halike := followPath_alike hend
  have hisnull : r.lookup ≠ .isnull := by
    intro heq
    simp [heq, Lookup.arity] at hlist
  have hnote : noteLookup r after = after := by simp only [noteLookup, if_neg hisnull]
  have hoperand : c.compileExpr after (.field reference) =
      .ok ((a.render, .scalar .json), after) :=
    ha.compileExpr hreference hempty halike.model halike.annotations
  have heach := exists_each_of_resolveLookup hr
  obtain ⟨e, hbuild⟩ : ∃ e, r.lookup.buildOn r.target a.render = .ok e := by
    cases hmapped : r.target.type.isMapped with
    | false =>
      refine ⟨r.lookup.build r.target.render a.render, ?_⟩
      simp only [Lookup.buildOn, hmapped, Bool.false_eq_true, if_false]
    | true =>
      obtain ⟨base, inner, htarget⟩ := heach hmapped
      simp only [Lookup.buildOn, hmapped, if_true, Lookup.buildMapped]
      split
      · exact ⟨_, rfl⟩
      · exact ⟨_, by rw [htarget]⟩
  have hcompiled : c.compileFilter (.ofModel m) (.lookup path (.field reference)) =
      .ok (e, after) := by
    rw [compileFilter_computed rfl]
    simp only [lookupWith, hr, hnote, hoperand, withoutType, hbuild]
  have hq : c.queryableModel model = .ok m :=
    (queryableModel_eq_ok_iff c model m).mpr ⟨hm, htop⟩
  refine ⟨a.render, ⟨after.prerequisites c.config, e⟩, ha.compileExpr hreference hempty rfl rfl,
    by simp only [compileFilterOn, hq, hcompiled], fun hjoins => ?_, fun doc hdoc => ?_⟩
  · rw [(inside_of_resolveLookup hplain hm hr hjoins).1]
    rfl
  · obtain ⟨list, hreads, hpresent⟩ := ha.readsAs hplain hm hdoc
    refine ⟨list, hreads [], hpresent, fun hjoins => ?_, fun xs hxs => ?_⟩
    · obtain ⟨-, route, hsim⟩ := inside_of_resolveLookup hplain hm hr hjoins
      exact hsim.exists_compared hdoc
    · have hvalue := Lookup.eval_applyList hlist hallowed heach hbuild hreads hxs
      have houtcome := Lookup.applyList_evaluates hlist xs list
      rw [hpresent] at houtcome
      rw [show e.evalOn doc = _ from hvalue]
      exact houtcome

/-- Notes with parts of some kind, and with tags of any form. -/
def taggedModel : Model :=
  ⟨"Note", some "notes", false, [Model.primaryKey,
    ⟨"parts", .embeddedArray "Part", false, none⟩, ⟨"tags", .scalar .json, true, none⟩]⟩

/-- A compiler for such notes. -/
def tagged : Compiler :=
    ⟨⟨[taggedModel, ⟨"Part", none, true, [⟨"kind", .scalar .integer, false, none⟩]⟩]⟩, .usual⟩

/-- A note with one part and without tags. -/
def untaggedNote : Value :=
    .object [("_id", .int 1), ("parts", .array [.object [("kind", .int 1)]])]

/-- That all tags of a note are kinds of its parts cannot be asked for if there are no tags. -/
theorem untaggedNote_fails : ∃ cond,
    tagged.compileFilterOn "Note" (.lookup "parts__kind__all" (.field "tags")) = .ok cond ∧
      cond.stages = [] ∧ ∃ fault, cond.expr.evalOn untaggedNote = Operator.fail fault := by
  have htags : tagged.schema.Locates (.embedded "Note") ["tags"] (.scalar .json) _ :=
    .field rfl rfl rfl (.here _)
  have hkinds : tagged.resolveLookup (.ofModel taggedModel) "parts__kind__all" =
      (.ok ⟨.each (.column none "parts" (.embeddedArray "Part"))
        (.key (.item (.embedded "Part")) "kind" (.scalar .integer)), .all, []⟩,
        .ofModel taggedModel) := rfl
  have hreference : Text.segments "tags" = ["tags"] := rfl
  obtain ⟨e, cond, he, hcond, hstages, hdocs⟩ :=
    list_reference_evaluates (c := tagged) (by decide) rfl rfl hkinds rfl htags
      hreference (by decide)
  obtain ⟨list, hlist, -, hcompared, houtcome⟩ := hdocs untaggedNote (by decide)
  obtain rfl : .string "$tags" = e := congrArg (fun compiled => compiled.1.1) (Except.ok.inj he)
  obtain rfl : none = list := Except.ok.inj hlist
  obtain ⟨xs, hxs⟩ := hcompared rfl
  exact ⟨cond, hcond, hstages rfl, (houtcome xs hxs).2 rfl⟩

end Compiler

end DocQuery
