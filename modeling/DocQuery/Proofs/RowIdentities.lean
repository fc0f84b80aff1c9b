import DocQuery.Proofs.Subqueries
set_option autoImplicit false

/-!
# Proofs: rows keep their identities

Behind the joins and the filter of a query, its stages add fields to the rows, put them in order
and project them.  Through all of this a row keeps its identity, unless a field of that name is
computed.
-/

namespace DocQuery

open Value

namespace Stage

variable {store : Store} {vars : Document} {s : Stage}

/-! ## Stages that add fields -/

/-- Whether a stage adds fields to each row. -/
def addsFields : Stage → Bool
  | .lookup _ _ _ _ => true
  | .addFields _ => true
  | .set _ => true
  | _ => false

theorem isRowwise_of_addsFields (h : s.addsFields = true) : s.IsRowwise := by
  cases s with
  | lookup source bindings pipeline target => exact isRowwise_lookup _ _ _ _
  | addFields fields => exact isRowwise_addFields fields
  | set fields => exact isRowwise_set fields
  | _ => simp [addsFields] at h

/-- Fields that are added make no array of a row that is none. -/
theorem items?_run (h : s.addsFields = true) {row out : Value} (hrow : row.items? = none)
    (hrun : run store s vars [row] = .ok [out]) : out.items? = none := by
  cases s with
  | lookup source bindings pipeline target =>
    obtain ⟨inner, results, -, -, rfl⟩ := run_lookup_row hrun
    exact items?_setPath row target _
  | addFields fields =>
    have hset : run store (.set fields) vars [row] = .ok [out] := by simpa only [run] using hrun
    exact items?_run_set hrow hset
  | set fields => exact items?_run_set hrow hrun
  | _ => simp [addsFields] at h

theorem items?_of_runAll {stages : List Stage} (h : ∀ s ∈ stages, s.addsFields = true)
    {row out : Value}
    (hrow : row.items? = none) (hrun : runAll store stages vars [row] = .ok [out]) :
        out.items? = none := by
  induction stages generalizing row with
  | nil =>
    obtain rfl : row = out := by simpa [runAll] using hrun
    exact hrow
  | cons s rest ih =>
    have hs := h s List.mem_cons_self
    obtain ⟨between, hfirst, hrest⟩ := runAll_row_cons (isRowwise_of_addsFields hs) hrun
    exact ih (fun t ht => h t (List.mem_cons_of_mem s ht)) (items?_run hs hrow hfirst) hrest

/-! ## Projections -/

theorem value?_filter {d : Document} {key : String} {p : String × Value → Bool}
    (h : ∀ m ∈ d, m.1 = key → p m = true) :
        Document.value? (d.filter p) key = Document.value? d key := by
  induction d with
  | nil => rfl
  | cons m rest ih =>
    obtain ⟨k, v⟩ := m
    obtain ⟨hfirst, hrest⟩ := List.forall_mem_cons.mp h
    by_cases hk : k = key
    · rw [List.filter_cons_of_pos (hfirst hk), Document.value?, Document.value?,
        if_pos hk, if_pos hk]
    · cases hp : p (k, v) with
      | true =>
        rw [List.filter_cons_of_pos hp, Document.value?, Document.value?, if_neg hk,
          if_neg hk, ih hrest]
      | false =>
        rw [List.filter_cons_of_neg (by simp [hp]), Document.value?, if_neg hk, ih hrest]

/-- Whether a projection only mentions the identity to keep it. -/
def SparesIdentity (fields : Document) : Prop := ∀ m ∈ fields, m.1 = "_id" → m.2 = .int 1

theorem projected_identity {scope : Scope} {fields output out : Document}
    (h : SparesIdentity fields) (hout : projected scope output fields = .ok out) :
    Document.value? out "_id" =
      if Document.has fields "_id" then (scope.root.getPath "_id").or
        (Document.value? output "_id")
      else Document.value? output "_id" := by
  induction fields generalizing output with
  | nil =>
    obtain rfl := Except.ok.inj hout
    rfl
  | cons m rest ih =>
    obtain ⟨name, v⟩ := m
    obtain ⟨hfirst, hrest⟩ := List.forall_mem_cons.mp h
    have hhas : Document.has ((name, v) :: rest) "_id" =
      (name == "_id" || Document.has rest "_id") := rfl
    simp only [projected] at hout
    by_cases hname : name = "_id"
    · subst hname
      obtain rfl : v = .int 1 := hfirst rfl
      have htrue : (Value.int 1).isTruthy = true := by decide
      simp only [isFlag, htrue, if_true] at hout
      cases hpath : scope.root.getPath "_id" with
      | none =>
        rw [hpath] at hout
        simpa [hhas, hpath] using ih hrest hout
      | some w =>
        rw [hpath] at hout
        simpa [hhas, hpath] using ih hrest hout
    · have hother : ∀ w, Document.value? (Document.insert output name w) "_id" =
          Document.value? output "_id" := fun w => Document.value?_insert_ne output w hname
      split at hout
      · simp at hout
      · simpa [hhas, hname, hother] using ih hrest hout
      · simpa [hhas, hname] using ih hrest hout

theorem exists_of_map_eq_ok {ε α β : Type} {f : α → β} {r : Except ε α} {b : β}
    (h : r.map f = .ok b) : ∃ a, r = .ok a ∧ f a = b := by
  cases r with
  | error e => simp [Except.map] at h
  | ok a => exact ⟨a, rfl, Except.ok.inj h⟩

/-- A projection that only mentions the identity to keep it keeps it. -/
theorem projection_identity {fields : Document} (h : SparesIdentity fields) {row out : Value}
    (hrow : row.items? = none) (hout : projection fields vars row = .ok out) :
    out.field? "_id" = row.field? "_id" := by
  have hpath : row.getPath "_id" = row.field? "_id" := by
    rw [getPath, pathNames_of_plain (by decide), walk_singleton _ _ hrow]
  unfold projection at hout
  split at hout
  · obtain rfl := Except.ok.inj hout
    rw [excluded, field?_object, field?_eq]
    refine value?_filter fun m _ hm => ?_
    simp only [hm, Bool.not_eq_true', List.any_eq_false, Bool.and_eq_true, beq_iff_eq, not_and]
    intro f hf hname
    rw [h f hf hname]
    decide
  · obtain ⟨output, houtput, rfl⟩ := exists_of_map_eq_ok hout
    rw [field?_object, projected_identity h houtput, hpath]
    cases Document.has fields "_id" with
    | true => simp
    | false => cases row.field? "_id" <;> simp [Document.value?]

/-! ## Many rows -/

section Rows

variable {rows outs : List Value}

/-- Stages that add other fields leave the identities of the rows as they are. -/
theorem identities_of_runAll {stages : List Stage} (h : ∀ s ∈ stages, s.Keeps "_id")
    (hrun : runAll store stages vars rows = .ok outs) :
    outs.map (fun row => row.field? "_id") = rows.map fun row => row.field? "_id" := by
  have hall := forall₂_of_runAll (fun s hs => (h s hs).rowwise) hrun
  clear hrun
  induction hall with
  | nil => rfl
  | cons hrow _ ih => rw [List.map_cons, List.map_cons, ih, field?_of_runAll h hrow]

theorem runAll_singleton (s : Stage) : runAll store [s] vars rows = run store s vars rows := by
  simp only [runAll]
  cases run store s vars rows <;> rfl

theorem runAll_append_ok {first rest : List Stage}
    (h : runAll store (first ++ rest) vars rows = .ok outs) :
    ∃ between, runAll store first vars rows = .ok between ∧
      runAll store rest vars between = .ok outs := by
  rw [runAll_append] at h
  cases hfirst : runAll store first vars rows with
  | error e => simp [hfirst, Except.bind] at h
  | ok between => exact ⟨between, rfl, by simpa [hfirst, Except.bind] using h⟩

theorem sorted_perm (keys : List (String × Direction)) (docs : List Value) :
    (sorted keys docs).Perm docs :=
  List.mergeSort_perm docs _

/-- A projection that only mentions the identities to keep them keeps them. -/
theorem identities_of_project {fields : Document} (h : SparesIdentity fields)
    (hrows : ∀ row ∈ rows, row.items? = none)
    (hrun : run store (.project fields) vars rows = .ok outs) :
    outs.map (fun row => row.field? "_id") = rows.map fun row => row.field? "_id" := by
  have hall := (each_ok_iff _ _ _).mp hrun
  clear hrun
  induction hall with
  | nil => rfl
  | cons hout _ ih =>
    obtain ⟨hrow, hrest⟩ := List.forall_mem_cons.mp hrows
    rw [List.map_cons, List.map_cons, ih hrest, projection_identity h hrow hout]

end Rows

end Stage

/-- The stages of subqueries add the fields that hold their results. -/
theorem Placed.addsFields {config : Config} {first last : Nat} {stages : List Stage}
    (h : Placed config first last stages) : ∀ s ∈ stages, s.addsFields = true := by
  induction h with
  | nil => simp
  | snoc source bindings pipeline _ ih =>
    refine List.forall_mem_append.mpr ⟨ih, List.forall_mem_cons.mpr ⟨rfl, ?_⟩⟩
    exact List.forall_mem_singleton.mpr rfl

namespace Compiler

theorem addsFields_addColumns (columns : Document) :
    ∀ s ∈ addColumns columns, s.addsFields = true := by
  unfold addColumns
  split
  · simp
  · exact List.forall_mem_singleton.mpr rfl

/-- The stages of computed columns add the fields that hold the columns. -/
theorem compileAnnotations_addsFields {c : Compiler} {ctx ctx' : Context} {pending : Document}
    {annotations : List (String × Expr)} {stages : List Stage}
    (h : c.compileAnnotations pending ctx annotations = .ok (stages, ctx')) :
    ∀ s ∈ stages, s.addsFields = true := by
  intro s hs
  obtain ⟨fields, rfl⟩ := compileAnnotations_addFields h s hs
  rfl

end Compiler

end DocQuery
