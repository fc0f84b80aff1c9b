import DocQuery.Proofs.Filling
import DocQuery.Proofs.ClosedParts
import DocQuery.Proofs.Rows
set_option autoImplicit false

/-!
# Proofs: pipelines with values in the place of variables

A stage that is closed does not see variables that it does not refer to.  So in a pipeline whose
nested pipelines bind all their variables themselves, the known variables can be filled in
outside these, and need not be bound any more.
-/

namespace DocQuery

open Value (fillFields)

namespace Stage

/-! ## Filled stages -/

/-- Whether a stage has expressions, but no pipelines inside it and no accumulators. -/
def isFlat : Stage → Bool
  | .select _ => true
  | .project _ => true
  | .addFields _ => true
  | .set _ => true
  | _ => false

/-- A stage with literals in the place of known variables.  Only flat stages change; in
particular, a lookup stays as it is, with the pipeline inside it and the variables that it
binds. -/
def fill (known : Document) : Stage → Stage
  | .select query => .select (query.fill known)
  | .project fields => .project (fillFields known fields)
  | .addFields fields => .addFields (fillFields known fields)
  | .set fields => .set (fillFields known fields)
  | s => s

theorem fill_of_not_isFlat (known : Document) {s : Stage} (h : s.isFlat = false) :
    s.fill known = s := by
  cases s <;> first | rfl | simp [isFlat] at h

theorem fill_nil (s : Stage) : s.fill [] = s := by
  cases s <;> simp only [fill, Value.fill_nil, Value.fillFields_nil]

/-! ## Flat stages -/

section Flat

variable {known vars lacking : Document} {fields : Document} {root : Value}

/-- Filling in changes texts, lists and objects only, and never to something of another
truth. -/
theorem isFlag_fill (known : Document) (v : Value) :
    isFlag (v.fill known) = isFlag v ∧ (v.fill known).isTruthy = v.isTruthy := by
  cases v with
  | string s =>
    rw [Value.fill]
    rcases Value.fillText_cases known s with htext | ⟨filled, htext⟩
    · rw [htext]
      exact ⟨rfl, rfl⟩
    · rw [htext]
      exact ⟨rfl, rfl⟩
  | object fields =>
    obtain ⟨filled, hfilled⟩ := Value.exists_fill_object known fields
    rw [hfilled]
    exact ⟨rfl, rfl⟩
  | _ => exact ⟨rfl, rfl⟩

theorem selected_fill {e : Value}
    (h : ∀ root, (e.fill known).eval ⟨root, lacking⟩ = e.eval ⟨root, vars⟩)
    (docs : List Value) :
    selected (.operator "$expr" (e.fill known)) lacking docs =
        selected (.operator "$expr" e) vars docs := by
  induction docs with
  | nil => rfl
  | cons doc rest ih => simp only [selected, Value.selects_expr, h doc, ih]

theorem computed_fill
    (h : ∀ m ∈ fields, (m.2.fill known).eval ⟨root, lacking⟩ = m.2.eval ⟨root, vars⟩) :
    computed ⟨root, lacking⟩ (fillFields known fields) = computed ⟨root, vars⟩ fields := by
  induction fields with
  | nil => rfl
  | cons m rest ih =>
    obtain ⟨name, e⟩ := m
    have hfirst : (e.fill known).eval ⟨root, lacking⟩ = e.eval ⟨root, vars⟩ :=
      h (name, e) List.mem_cons_self
    have hrest := ih fun i hi => h i (List.mem_cons_of_mem _ hi)
    simp only [fillFields, computed, hfirst, hrest]

theorem addComputed_fill
    (h : ∀ root, ∀ m ∈ fields, (m.2.fill known).eval ⟨root, lacking⟩ = m.2.eval ⟨root, vars⟩) :
    addComputed (fillFields known fields) lacking = addComputed fields vars := by
  funext doc
  simp only [addComputed, computed_fill (h doc)]

theorem projected_fill
    (h : ∀ m ∈ fields, (m.2.fill known).eval ⟨root, lacking⟩ = m.2.eval ⟨root, vars⟩)
    (output : Document) :
    projected ⟨root, lacking⟩ output (fillFields known fields) =
        projected ⟨root, vars⟩ output fields := by
  induction fields generalizing output with
  | nil => rfl
  | cons m rest ih =>
    obtain ⟨name, e⟩ := m
    have hfirst : (e.fill known).eval ⟨root, lacking⟩ = e.eval ⟨root, vars⟩ :=
      h (name, e) List.mem_cons_self
    have hrest := ih fun i hi => h i (List.mem_cons_of_mem _ hi)
    obtain ⟨hflag, htruthy⟩ := isFlag_fill known e
    simp only [fillFields, projected, hflag, htruthy, hfirst, hrest]

theorem isExclusion_fill (known fields : Document) :
    isExclusion (fillFields known fields) = isExclusion fields := by
  rw [isExclusion, isExclusion, Value.fillFields_eq_map, List.all_map, List.isEmpty_map]
  simp only [Function.comp_def, isFlag_fill]

theorem excluded_fill (known fields : Document) (doc : Value) :
    excluded doc (fillFields known fields) = excluded doc fields := by
  rw [excluded, excluded, Value.fillFields_eq_map]
  simp only [List.any_map, Function.comp_def, isFlag_fill]

theorem has_fillFields (known fields : Document) (key : String) :
    Document.has (fillFields known fields) key = Document.has fields key := by
  rw [Document.has, Document.has, Value.fillFields_eq_map, List.any_map]
  rfl

theorem projection_fill
    (h : ∀ root, ∀ m ∈ fields, (m.2.fill known).eval ⟨root, lacking⟩ = m.2.eval ⟨root, vars⟩) :
    projection (fillFields known fields) lacking = projection fields vars := by
  funext doc
  simp only [projection, isExclusion_fill, excluded_fill, has_fillFields,
    projected_fill (h doc)]

end Flat

variable {known vars lacking : Document} {names : List String} {store : Store}

/-- A flat stage runs as it did, once the known variables are filled in. -/
theorem Closed.run_fill_flat {s : Stage} (h : s.Closed names) (hflat : s.isFlat = true)
    (hitem : Document.value? known Access.itemName = none)
    (hvars : Document.Knows known names vars lacking) (docs : List Value) :
    run store (s.fill known) lacking docs = run store s vars docs := by
  have heval : ∀ {fields : Document}, (∀ m ∈ fields, Value.Closed names m.2) →
    ∀ root, ∀ m ∈ fields, (m.2.fill known).eval ⟨root, lacking⟩ = m.2.eval ⟨root, vars⟩ :=
    fun hfields root m hm => (hfields m hm).eval_fill hitem hvars root
  cases h with
  | @select _ e he =>
    have hselect : (selectExpr e).fill known = .select (.operator "$expr" (e.fill known)) := by
      rw [selectExpr, fill, Value.fill_operator known (by decide) (by decide)]
    rw [hselect, selectExpr, run, run, selected_fill fun root => he.eval_fill hitem hvars root]
  | project hfields => rw [fill, run, run, projection_fill (heval hfields)]
  | addFields hfields => rw [fill, run, run, addComputed_fill (heval hfields)]
  | set hfields => rw [fill, run, run, addComputed_fill (heval hfields)]
  | _ => simp [isFlat] at hflat

/-! ## Independence -/

/-- The variables that a lookup binds, as they are bound. -/
def boundValues (values : List (String × Option Value)) : Document :=
  values.map fun m => (m.1, m.2.getD .null)

theorem bound_eq (scope : Scope) (start bindings : Document) :
    bound scope start bindings =
      (computed scope bindings).map fun values => Document.insertAll start
          (boundValues values) := by
  induction bindings generalizing start with
  | nil => rfl
  | cons m rest ih =>
    obtain ⟨name, e⟩ := m
    simp only [bound, computed, ih]
    cases e.eval scope with
    | error error => rfl
    | ok v => cases computed scope rest <;> rfl

theorem names_boundValues {scope : Scope} {bindings : Document}
    {values : List (String × Option Value)}
    (h : computed scope bindings = .ok values) :
        (boundValues values).names = bindings.names := by
  rw [← names_computed h, boundValues, Document.names, List.map_map]
  rfl

end Stage

/-- Variables that are the same as far as given names go. -/
def Document.Agrees (names : List String) (vars others : Document) : Prop :=
  ∀ name ∈ names, Document.value? others name = Document.value? vars name

namespace Document.Agrees

variable {names : List String} {vars others : Document}

theorem knows (h : Agrees names vars others) : Document.Knows [] names vars others where
  plain := by simp
  bound := by simp
  others := fun name hname _ => h name hname

theorem insertAll (h : Agrees names vars others) (members : Document) :
    Agrees (members.names ++ names) (Document.insertAll vars members)
        (Document.insertAll others members) := by
  induction members generalizing names vars others with
  | nil => exact h
  | cons m rest ih =>
    have hfirst : Agrees (m.1 :: names) (Document.insert vars m.1 m.2)
        (Document.insert others m.1 m.2) := by
      intro name hname
      by_cases hne : m.1 = name
      · subst hne
        rw [value?_insert_self, value?_insert_self]
      · rw [value?_insert_ne _ _ hne, value?_insert_ne _ _ hne]
        exact h name (List.mem_of_ne_of_mem (Ne.symm hne) hname)
    intro name hname
    refine ih hfirst name ?_
    simp only [Document.names, List.map_cons, List.cons_append, List.mem_cons,
      List.mem_append] at hname ⊢
    tauto

end Document.Agrees

/-- A closed expression only sees the variables that it refers to. -/
theorem Value.Closed.eval_congr {names : List String} {e : Value} {vars others : Document}
    (h : e.Closed names) (hvars : Document.Agrees names vars others) (root : Value) :
    e.eval ⟨root, others⟩ = e.eval ⟨root, vars⟩ := by
  have hfill := h.eval_fill (Document.value?_nil Access.itemName) hvars.knows root
  rwa [Value.fill_nil] at hfill

namespace Stage

variable {vars others : Document} {names : List String} {store : Store}

theorem computed_congr {fields : Document} {root : Value}
    (hfields : ∀ m ∈ fields, Value.Closed names m.2)
    (hvars : Document.Agrees names vars others) :
    computed ⟨root, others⟩ fields = computed ⟨root, vars⟩ fields := by
  induction fields with
  | nil => rfl
  | cons m rest ih =>
    obtain ⟨name, e⟩ := m
    have hfirst : e.eval ⟨root, others⟩ = e.eval ⟨root, vars⟩ :=
      (hfields (name, e) List.mem_cons_self).eval_congr hvars root
    have hrest := ih fun i hi => hfields i (List.mem_cons_of_mem _ hi)
    simp only [computed, hfirst, hrest]

/-! ### Groups -/

section Groups

variable {fields : Document}

theorem accumulated_congr {v e : Value} {operator : String}
    (hoperator : v.operator? = some (operator, e))
    (he : e.Closed names) (hvars : Document.Agrees names vars others) (members : List Value)
    (name : String) :
    accumulated others members name v = accumulated vars members name v := by
  have heval : (fun doc => e.eval ⟨doc, others⟩) = fun doc => e.eval ⟨doc, vars⟩ :=
    funext fun doc => he.eval_congr hvars doc
  simp only [accumulated, hoperator, heval]

theorem accumulatedFields_congr
    (hfields : ∀ m ∈ fields, ∃ operator e, m.2.operator? = some (operator, e) ∧ e.Closed names)
    (hvars : Document.Agrees names vars others) (members : List Value) (output : Document) :
    accumulatedFields others members output fields =
        accumulatedFields vars members output fields := by
  induction fields generalizing output with
  | nil => rfl
  | cons m rest ih =>
    obtain ⟨name, v⟩ := m
    obtain ⟨operator, e, hoperator, he⟩ := hfields (name, v) List.mem_cons_self
    have hrest := ih fun i hi => hfields i (List.mem_cons_of_mem _ hi)
    simp only [accumulatedFields, accumulated_congr hoperator he hvars, hrest]

theorem groupDocuments_congr
    (hfields : ∀ m ∈ fields, ∃ operator e, m.2.operator? = some (operator, e) ∧ e.Closed names)
    (hvars : Document.Agrees names vars others) (groups : List Group) :
    groupDocuments fields others groups = groupDocuments fields vars groups := by
  induction groups with
  | nil => rfl
  | cons g rest ih => simp only [groupDocuments, accumulatedFields_congr hfields hvars, ih]

theorem grouped_congr {key : Value} (hkey : key.Closed names)
    (hfields : ∀ m ∈ fields, ∃ operator e, m.2.operator? = some (operator, e) ∧ e.Closed names)
    (hvars : Document.Agrees names vars others) (docs : List Value) :
    grouped key fields others docs = grouped key fields vars docs := by
  have hkeys : (fun doc => (key.eval ⟨doc, others⟩).map fun k => (k.getD .null, doc)) =
      fun doc => (key.eval ⟨doc, vars⟩).map fun k => (k.getD .null, doc) :=
    funext fun doc => by rw [hkey.eval_congr hvars doc]
  simp only [grouped, hkeys, groupDocuments_congr hfields hvars]

end Groups

/-! ### Runs -/

theorem runAll_congr {pipeline : List Stage}
    (h : ∀ s ∈ pipeline, ∀ docs, run store s others docs = run store s vars docs)
    (docs : List Value) :
    runAll store pipeline others docs = runAll store pipeline vars docs := by
  induction pipeline generalizing docs with
  | nil => rfl
  | cons s rest ih =>
    have hrest := ih fun t ht => h t (List.mem_cons_of_mem s ht)
    simp only [runAll, h s List.mem_cons_self, hrest]

theorem runFacets_congr {facets : List (String × List Stage)}
    (h : ∀ f ∈ facets, ∀ s ∈ f.2, ∀ docs, run store s others docs = run store s vars docs)
    (docs : List Value) :
    runFacets store facets others docs = runFacets store facets vars docs := by
  induction facets with
  | nil => rfl
  | cons f rest ih =>
    obtain ⟨name, pipeline⟩ := f
    have hfirst := runAll_congr (h (name, pipeline) List.mem_cons_self) docs
    have hrest := ih fun g hg => h g (List.mem_cons_of_mem _ hg)
    simp only [runFacets, hfirst, hrest]

theorem Closed.run_congr_flat {s : Stage} (h : s.Closed names) (hflat : s.isFlat = true)
    (hvars : Document.Agrees names vars others) (docs : List Value) :
    run store s others docs = run store s vars docs := by
  have hfill : run store (s.fill []) others docs = run store s vars docs :=
    h.run_fill_flat hflat (Document.value?_nil Access.itemName) hvars.knows docs
  rwa [fill_nil] at hfill

/-- A closed stage only sees the variables that it refers to. -/
theorem Closed.run_congr {s : Stage} (h : s.Closed names)
    (hvars : Document.Agrees names vars others)
    (docs : List Value) : run store s others docs = run store s vars docs := by
  induction h generalizing vars others docs with
  | select he => exact Closed.run_congr_flat (.select he) rfl hvars docs
  | project hfields => exact Closed.run_congr_flat (.project hfields) rfl hvars docs
  | addFields hfields => exact Closed.run_congr_flat (.addFields hfields) rfl hvars docs
  | set hfields => exact Closed.run_congr_flat (.set hfields) rfl hvars docs
  | @lookup names bindings pipeline source target hbindings hpipeline ih =>
    rw [run, run]
    refine congrArg (fun step => each step docs) (funext fun doc => ?_)
    rw [bound_eq, bound_eq, computed_congr hbindings hvars]
    cases hvalues : computed ⟨doc, vars⟩ bindings with
    | error e => rfl
    | ok values =>
      have hinner := hvars.insertAll (boundValues values)
      rw [names_boundValues hvalues] at hinner
      simp only [Except.map, runAll_congr fun s hs docs => ih s hs hinner docs]
  | unwind path keepEmpty => rfl
  | facet hfacets ih =>
    simp only [run, runFacets_congr fun f hf s hs docs => ih f hf s hs hvars docs]
  | @group names key fields hkey hfields =>
    have hinputs : ∀ m ∈ fields, ∃ operator e, m.2.operator? = some (operator, e) ∧
        e.Closed names := by
      intro m hm
      obtain ⟨operator, e, hoperator, -, he⟩ := hfields m hm
      exact ⟨operator, e, hoperator, he⟩
    rw [run, run, grouped_congr hkey hinputs hvars]
  | sort keys => rfl
  | skip count => rfl
  | limit count => rfl
  | unionWith collection hpipeline ih =>
    simp only [run, runAll_congr fun s hs docs => ih s hs hvars docs]

/-! ## Filled pipelines -/

/-- Whether a stage refers to variables at most in its own expressions, not in pipelines inside
it, and only to given ones. -/
structure RefersAtMost (names : List String) (s : Stage) : Prop where
  closed : s.Closed names
  inside : s.isFlat = true ∨ s.Closed []

/-- A stage runs as it did, once the known variables are filled in where they are not bound
again. -/
theorem RefersAtMost.run_fill {known vars lacking : Document} {s : Stage}
    (h : RefersAtMost names s) (hitem : Document.value? known Access.itemName = none)
    (hvars : Document.Knows known names vars lacking) (docs : List Value) :
    run store (s.fill known) lacking docs = run store s vars docs := by
  cases hflat : s.isFlat with
  | true => exact h.closed.run_fill_flat hflat hitem hvars docs
  | false =>
    rcases h.inside with hflat' | hclosed
    · simp [hflat] at hflat'
    · rw [fill_of_not_isFlat known hflat]
      exact hclosed.run_congr (by simp [Document.Agrees]) docs

theorem runAll_fill {known vars lacking : Document} {pipeline : List Stage}
    (h : ∀ s ∈ pipeline, RefersAtMost names s)
    (hitem : Document.value? known Access.itemName = none)
    (hvars : Document.Knows known names vars lacking) (docs : List Value) :
    runAll store (pipeline.map (fill known)) lacking docs =
        runAll store pipeline vars docs := by
  induction pipeline generalizing docs with
  | nil => rfl
  | cons s rest ih =>
    have hrest := ih fun t ht => h t (List.mem_cons_of_mem s ht)
    simp only [List.map_cons, runAll, (h s List.mem_cons_self).run_fill hitem hvars, hrest]

end Stage

end DocQuery
