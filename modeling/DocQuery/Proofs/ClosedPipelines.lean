import DocQuery.Proofs.Closed
set_option autoImplicit false

/-!
# Proofs: closed pipelines

A stage is closed if its expressions are.  A lookup binds variables for the pipeline inside it.
-/

namespace DocQuery

/-- A stage whose expressions only refer to given variables, and to those that the lookups
around them bind. -/
inductive Stage.Closed : List String → Stage → Prop where
  | select {vars : List String} {e : Value} (he : e.Closed vars) : Closed vars (selectExpr e)
  | project {vars : List String} {fields : Document} (hfields : ∀ m ∈ fields,
    Value.Closed vars m.2) :
    Closed vars (.project fields)
  | addFields {vars : List String} {fields : Document}
    (hfields : ∀ m ∈ fields, Value.Closed vars m.2) : Closed vars (.addFields fields)
  | set {vars : List String} {fields : Document} (hfields : ∀ m ∈ fields,
    Value.Closed vars m.2) :
    Closed vars (.set fields)
  | lookup {vars : List String} {bindings : Document} {pipeline : List Stage}
    (source target : String)
    (hbindings : ∀ m ∈ bindings, Value.Closed vars m.2)
    (hpipeline : ∀ s ∈ pipeline, Closed (bindings.names ++ vars) s) :
    Closed vars (.lookup source bindings pipeline target)
  | unwind {vars : List String} (path : String) (keepEmpty : Bool) :
    Closed vars (.unwind path keepEmpty)
  | facet {vars : List String} {facets : List (String × List Stage)}
    (hfacets : ∀ f ∈ facets, ∀ s ∈ f.2, Closed vars s) : Closed vars (.facet facets)
  | group {vars : List String} {key : Value} {fields : Document} (hkey : key.Closed vars)
    (hfields : ∀ m ∈ fields, ∃ operator e, m.2.operator? = some (operator, e) ∧
      (Accumulator.ofName? operator).isSome = true ∧ e.Closed vars) :
      Closed vars (.group key fields)
  | sort {vars : List String} (keys : List (String × Direction)) : Closed vars (.sort keys)
  | skip {vars : List String} (count : Nat) : Closed vars (.skip count)
  | limit {vars : List String} (count : Nat) : Closed vars (.limit count)
  | unionWith {vars : List String} {pipeline : List Stage} (collection : String)
    (hpipeline : ∀ s ∈ pipeline, Closed vars s) : Closed vars (.unionWith collection pipeline)

namespace Stage

variable {vars : List String} {d : Document}

/-! ## Single documents -/

theorem defined_each {α : Type} {step : Value → Except ExecError α}
    (h : ∀ doc, Defined (step doc)) (docs : List Value) : Defined (each step docs) := by
  induction docs with
  | nil => exact .ok _
  | cons doc rest ih =>
    simp only [each]
    split
    · rename_i e he
      exact .error (h doc e he)
    · split
      · rename_i e he
        exact .error (ih e he)
      · exact .ok _

theorem defined_selected {e : Value} (he : e.Closed vars) (hd : Document.Binds d vars)
    (docs : List Value) : Defined (selected (.operator "$expr" e) d docs) := by
  induction docs with
  | nil => exact .ok _
  | cons doc rest ih =>
    have hselects : Defined (Value.selects (.operator "$expr" e) ⟨doc, d⟩) := by
      have hvalue := (he.defined_eval ⟨doc, d⟩ hd).map isTruthy?
      rwa [Value.selects_expr]
    simp only [selected]
    split
    · rename_i error herror
      exact .error (hselects error herror)
    · split
      · rename_i error herror
        exact .error (ih error herror)
      · exact .ok _

theorem defined_projected {fields : Document} {scope : Scope}
    (hfields : ∀ m ∈ fields, Value.Closed vars m.2) (hscope : Document.Binds scope.vars vars)
    (output : Document) : Defined (projected scope output fields) := by
  induction fields generalizing output with
  | nil => exact .ok _
  | cons m rest ih =>
    have hfirst := (hfields m List.mem_cons_self).defined_eval scope hscope
    have hrest := ih fun i hi => hfields i (List.mem_cons_of_mem m hi)
    simp only [projected]
    split
    · rename_i error herror
      split at herror
      · simp at herror
      · exact .error (hfirst error herror)
    · exact hrest _
    · exact hrest _

theorem defined_projection {fields : Document} (hfields : ∀ m ∈ fields, Value.Closed vars m.2)
    (hd : Document.Binds d vars) (doc : Value) : Defined (projection fields d doc) := by
  simp only [projection]
  split
  · exact .ok _
  · exact (defined_projected hfields hd _).map _

theorem defined_computed {fields : Document} {scope : Scope}
    (hfields : ∀ m ∈ fields, Value.Closed vars m.2) (hscope : Document.Binds scope.vars vars) :
    Defined (computed scope fields) := by
  induction fields with
  | nil => exact .ok _
  | cons m rest ih =>
    have hfirst := (hfields m List.mem_cons_self).defined_eval scope hscope
    have hrest := ih fun i hi => hfields i (List.mem_cons_of_mem m hi)
    simp only [computed]
    split
    · rename_i error herror
      exact .error (hfirst error herror)
    · split
      · rename_i error herror
        exact .error (hrest error herror)
      · exact .ok _

theorem defined_bound {bindings : Document} {scope : Scope}
    (hbindings : ∀ m ∈ bindings, Value.Closed vars m.2)
    (hscope : Document.Binds scope.vars vars) (start : Document) :
    Defined (bound scope start bindings) := by
  induction bindings generalizing start with
  | nil => exact .ok _
  | cons m rest ih =>
    have hfirst := (hbindings m List.mem_cons_self).defined_eval scope hscope
    simp only [bound]
    split
    · rename_i error herror
      exact .error (hfirst error herror)
    · exact ih (fun i hi => hbindings i (List.mem_cons_of_mem m hi)) _

/-- Inside a lookup, its own variables are bound as well as those around it. -/
theorem binds_of_bound {bindings : Document} {scope : Scope} {start inner : Document}
    (h : bound scope start bindings = .ok inner) (hstart : Document.Binds start vars) :
    Document.Binds inner (bindings.names ++ vars) := by
  induction bindings generalizing start vars with
  | nil => exact Except.ok.inj h ▸ hstart
  | cons m rest ih =>
    simp only [bound] at h
    split at h
    · simp at h
    · refine (ih h (hstart.insert m.1 _)).mono ?_
      intro name hname
      simp only [Document.names, List.map_cons, List.cons_append, List.mem_cons,
        List.mem_append] at hname ⊢
      tauto

/-! ## Groups -/

theorem defined_sumFrom (total : Value) (inputs : List Value) :
    Defined (Accumulator.sumFrom total inputs) := by
  induction inputs generalizing total with
  | nil => exact .ok _
  | cons v rest ih =>
    simp only [Accumulator.sumFrom]
    split
    · split
      · rename_i error herror
        exact .error (Arithmetic.defined_apply .add total v error herror)
      · exact ih _
    · exact ih _

theorem defined_accumulated {v e : Value} {operator : String}
    (hoperator : v.operator? = some (operator, e))
    (hknown : (Accumulator.ofName? operator).isSome = true) (he : e.Closed vars)
    (hd : Document.Binds d vars) (members : List Value) (name : String) :
    Defined (accumulated d members name v) := by
  have hinputs : Defined (each (fun doc => e.eval ⟨doc, d⟩) members) :=
    defined_each (fun doc => he.defined_eval ⟨doc, d⟩ hd) members
  obtain ⟨a, ha⟩ := Option.isSome_iff_exists.mp hknown
  simp only [accumulated, hoperator, ha]
  split
  · rename_i error herror
    exact .error (hinputs error herror)
  · cases a with
    | sum => exact defined_sumFrom _ _
    | _ => exact .ok _

theorem defined_accumulatedFields {fields : Document}
    (hfields : ∀ m ∈ fields, ∃ operator e, m.2.operator? = some (operator, e) ∧
      (Accumulator.ofName? operator).isSome = true ∧ e.Closed vars)
    (hd : Document.Binds d vars) (members : List Value) (output : Document) :
    Defined (accumulatedFields d members output fields) := by
  induction fields generalizing output with
  | nil => exact .ok _
  | cons m rest ih =>
    obtain ⟨operator, e, hoperator, hknown, he⟩ := hfields m List.mem_cons_self
    simp only [accumulatedFields]
    split
    · rename_i error herror
      exact .error (defined_accumulated hoperator hknown he hd members m.1 error herror)
    · exact ih (fun i hi => hfields i (List.mem_cons_of_mem m hi)) _

theorem defined_groupDocuments {fields : Document}
    (hfields : ∀ m ∈ fields, ∃ operator e, m.2.operator? = some (operator, e) ∧
      (Accumulator.ofName? operator).isSome = true ∧ e.Closed vars)
    (hd : Document.Binds d vars) (groups : List Group) :
        Defined (groupDocuments fields d groups) := by
  induction groups with
  | nil => exact .ok _
  | cons g rest ih =>
    simp only [groupDocuments]
    split
    · rename_i error herror
      exact .error (defined_accumulatedFields hfields hd g.members _ error herror)
    · split
      · rename_i error herror
        exact .error (ih error herror)
      · exact .ok _

/-! ## Runs -/

theorem defined_runAll {store : Store} {pipeline : List Stage}
    (h : ∀ s ∈ pipeline, ∀ docs, Defined (run store s d docs)) (docs : List Value) :
    Defined (runAll store pipeline d docs) := by
  induction pipeline generalizing docs with
  | nil => exact .ok _
  | cons s rest ih =>
    simp only [runAll]
    split
    · rename_i error herror
      exact .error (h s List.mem_cons_self docs error herror)
    · exact ih (fun t ht => h t (List.mem_cons_of_mem s ht)) _

theorem defined_runFacets {store : Store} {facets : List (String × List Stage)}
    (h : ∀ f ∈ facets, ∀ s ∈ f.2, ∀ docs, Defined (run store s d docs)) (docs : List Value) :
    Defined (runFacets store facets d docs) := by
  induction facets with
  | nil => exact .ok _
  | cons f rest ih =>
    have hfirst := defined_runAll (h f List.mem_cons_self) docs
    simp only [runFacets]
    split
    · rename_i error herror
      exact .error (hfirst error herror)
    · split
      · rename_i error herror
        exact .error (ih (fun g hg => h g (List.mem_cons_of_mem f hg)) error herror)
      · exact .ok _

theorem defined_lookup {store : Store} {bindings : Document} {pipeline : List Stage}
    (source target : String) (hbindings : ∀ m ∈ bindings, Value.Closed vars m.2)
    (hd : Document.Binds d vars)
    (h : ∀ s ∈ pipeline, ∀ {inner : Document}, Document.Binds inner (bindings.names ++ vars) →
      ∀ docs, Defined (run store s inner docs))
    (docs : List Value) :
    Defined (run store (.lookup source bindings pipeline target) d docs) := by
  rw [run]
  refine defined_each (fun doc => ?_) docs
  split
  · rename_i error herror
    exact .error (defined_bound hbindings hd d error herror)
  · rename_i inner hinner
    have hpipe := defined_runAll (fun s hs docs => h s hs (binds_of_bound hinner hd) docs)
      (store.collection source)
    split
    · rename_i error herror
      exact .error (hpipe error herror)
    · exact .ok _

theorem defined_grouped {key : Value} {fields : Document} (hkey : key.Closed vars)
    (hfields : ∀ m ∈ fields, ∃ operator e, m.2.operator? = some (operator, e) ∧
      (Accumulator.ofName? operator).isSome = true ∧ e.Closed vars)
    (hd : Document.Binds d vars) (docs : List Value) : Defined (grouped key fields d docs) := by
  have hkeys : Defined (each (fun doc => (key.eval ⟨doc, d⟩).map fun k =>
      (k.getD .null, doc)) docs) :=
    defined_each (fun doc => (hkey.defined_eval ⟨doc, d⟩ hd).map _) docs
  rw [grouped]
  split
  · rename_i error herror
    exact .error (hkeys error herror)
  · exact defined_groupDocuments hfields hd _

/-- Where its variables are bound, a closed stage does not fail because something is unknown. -/
theorem Closed.defined_run {s : Stage} (h : Closed vars s) (store : Store)
    (hd : Document.Binds d vars) (docs : List Value) : Defined (run store s d docs) := by
  induction h generalizing d docs with
  | select he =>
    rw [selectExpr, run]
    exact defined_selected he hd docs
  | project hfields =>
    rw [run]
    exact defined_each (defined_projection hfields hd) docs
  | addFields hfields =>
    rw [run]
    exact defined_each (fun doc => (defined_computed hfields hd).map _) docs
  | set hfields =>
    rw [run]
    exact defined_each (fun doc => (defined_computed hfields hd).map _) docs
  | lookup source target hbindings _ ih =>
    exact defined_lookup source target hbindings hd (fun s hs => ih s hs) docs
  | unwind path keepEmpty =>
    rw [run]
    exact .ok _
  | facet hfacets ih =>
    have hruns := defined_runFacets (fun f hf s hs docs => ih f hf s hs hd docs) docs
    rw [run]
    split
    · rename_i error herror
      exact .error (hruns error herror)
    · exact .ok _
  | group hkey hfields =>
    rw [run]
    exact defined_grouped hkey hfields hd docs
  | sort keys =>
    rw [run]
    exact .ok _
  | skip count =>
    rw [run]
    exact .ok _
  | limit count =>
    rw [run]
    exact .ok _
  | unionWith collection hpipeline ih =>
    have hruns := defined_runAll (fun s hs docs => ih s hs hd docs)
      (store.collection collection)
    rw [run]
    split
    · rename_i error herror
      exact .error (hruns error herror)
    · exact .ok _

/-- Neither does a pipeline of closed stages. -/
theorem Closed.defined_runAll {pipeline : List Stage} (h : ∀ s ∈ pipeline, Closed vars s)
    (store : Store) (hd : Document.Binds d vars) (docs : List Value) :
    Defined (runAll store pipeline d docs) :=
  Stage.defined_runAll (fun s hs docs => (h s hs).defined_run store hd docs) docs

end Stage

end DocQuery
