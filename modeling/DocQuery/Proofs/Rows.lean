import DocQuery.Execution.Pipeline
import DocQuery.Proofs.PathText
import Mathlib.Data.List.Forall2
set_option autoImplicit false

/-!
# Proofs: rows and their fields

What setting a path does to the fields of a document, and what stages that work document by
document do to a single one.
-/

namespace DocQuery

/-- Every member of two lists whose members are related in order has a partner. -/
theorem List.exists_mem_zip_of_forall₂ {α β : Type} {R : α → β → Prop}
    {as : List α} {bs : List β} (h : List.Forall₂ R as bs) :
    (∀ a ∈ as, ∃ b, (a, b) ∈ as.zip bs ∧ R a b) ∧ ∀ b ∈ bs, ∃ a,
        (a, b) ∈ as.zip bs ∧ R a b := by
  induction h with
  | nil => simp
  | cons hab _ ih =>
    refine ⟨List.forall_mem_cons.mpr ⟨⟨_, List.mem_cons_self, hab⟩, fun x hx => ?_⟩,
      List.forall_mem_cons.mpr ⟨⟨_, List.mem_cons_self, hab⟩, fun y hy => ?_⟩⟩
    · obtain ⟨b, hmem, hb⟩ := ih.1 x hx
      exact ⟨b, List.mem_cons_of_mem _ hmem, hb⟩
    · obtain ⟨a, hmem, ha⟩ := ih.2 y hy
      exact ⟨a, List.mem_cons_of_mem _ hmem, ha⟩

/-! ## Members -/

theorem Document.mem_insert {d : Document} {key : String} {v : Value} {m : String × Value}
    (h : m ∈ Document.insert d key v) : m ∈ d ∨ m = (key, v) := by
  induction d with
  | nil => simpa [insert] using h
  | cons n rest ih =>
    obtain ⟨k, w⟩ := n
    by_cases hk : k = key
    · simp only [insert, hk, if_true, List.mem_cons] at h ⊢
      tauto
    · simp only [insert, hk, if_false, List.mem_cons] at h ⊢
      rcases h with h | h
      · exact .inl (.inl h)
      · exact (ih h).imp_left .inr

theorem Document.mem_insertAll {d members : Document} {m : String × Value}
    (h : m ∈ Document.insertAll d members) : m ∈ d ∨ m ∈ members := by
  induction members generalizing d with
  | nil => exact .inl h
  | cons n rest ih =>
    rcases ih h with hinsert | hrest
    · rcases mem_insert hinsert with hd | rfl
      · exact .inl hd
      · exact .inr List.mem_cons_self
    · exact .inr (List.mem_cons_of_mem n hrest)

theorem Document.has_iff {d : Document} {key : String} :
    Document.has d key = true ↔ key ∈ d.names := by
  simp [Document.has, Document.names]

theorem Document.mem_names_insert {d : Document} {key x : String} {v : Value} :
    x ∈ (insert d key v).names ↔ x ∈ d.names ∨ x = key := by
  induction d with
  | nil => simp [insert, names]
  | cons m rest ih =>
    obtain ⟨k, w⟩ := m
    by_cases hk : k = key
    · simp only [insert, hk, if_true, names, List.map_cons, List.mem_cons]
      tauto
    · simp only [insert, hk, if_false, names, List.map_cons, List.mem_cons] at ih ⊢
      rw [ih]
      tauto

theorem Document.mem_names_ofList {members : List (String × Value)} {key : String} :
    key ∈ (Document.ofList members).names ↔ key ∈ members.map (·.1) := by
  suffices hall : ∀ d : Document, key ∈ (Document.insertAll d members).names ↔
      key ∈ d.names ∨ key ∈ members.map (·.1) by
    exact (hall []).trans (by simp [Document.names])
  induction members with
  | nil => simp [Document.insertAll]
  | cons member rest ih =>
    intro d
    have hrest := ih (Document.insert d member.1 member.2)
    rw [Document.insertAll, List.foldl_cons, ← Document.insertAll, hrest,
      Document.mem_names_insert, List.map_cons, List.mem_cons]
    tauto

theorem Document.erase_insert_self (d : Document) (key : String) (v : Value) :
    erase (insert d key v) key = erase d key := by
  induction d with
  | nil => simp [insert, erase]
  | cons m rest ih =>
    obtain ⟨k, w⟩ := m
    simp only [erase] at ih
    by_cases hk : k = key <;> simp [insert, erase, hk, ih]

theorem Document.erase_erase_self (d : Document) (key : String) :
    erase (erase d key) key = erase d key := by
  simp [erase]

/-! ## Paths of one name and more -/

namespace Text

theorem partsOf_front {sep : Char} {front : List Char} (h : sep ∉ front) (rest : List Char) :
    partsOf sep (front ++ sep :: rest) =
      (front, (partsOf sep rest).1 :: (partsOf sep rest).2) := by
  induction front with
  | nil => simp [partsOf]
  | cons c cs ih =>
    simp only [List.mem_cons, not_or] at h
    simp [partsOf, ih h.2, Ne.symm h.1]

theorem split_front {front : String} (h : '.' ∉ front.toList) (rest : String) :
    split '.' (front ++ "." ++ rest) = front :: split '.' rest := by
  simp [split, partsOf_front h, String.ofList_toList]

end Text

namespace Value

theorem pathNames_of_plain {name : String} (h : '.' ∉ name.toList) : pathNames name = [name] :=
  Text.split_of_notMem h

theorem pathNames_front {name : String} (h : '.' ∉ name.toList) (rest : String) :
    pathNames (name ++ "." ++ rest) = name :: pathNames rest :=
  Text.split_front h rest

/-! ## Fields -/

theorem field?_eq (doc : Value) (key : String) :
    doc.field? key = Document.value? doc.fieldsOrEmpty key := by
  cases doc <;> rfl

theorem field?_object (fields : Document) (key : String) :
    (Value.object fields).field? key = Document.value? fields key := rfl

theorem setPath_of_plain {name : String} (h : '.' ∉ name.toList) (doc v : Value) :
    doc.setPath name v = .object (Document.insert doc.fieldsOrEmpty name v) := by
  rw [setPath, pathNames_of_plain h, setNames]

theorem walk_setNames {names : List String} (h : names ≠ []) (doc v : Value) :
    walk (setNames doc names v) names = some v := by
  induction names generalizing doc with
  | nil => exact absurd rfl h
  | cons name rest ih =>
    cases rest with
    | nil => simp [setNames, walk, walkField_eq]
    | cons next rest =>
      rw [setNames, walk, walkField_eq, Document.value?_insert_self]
      exact ih (List.cons_ne_nil next rest) _

theorem setNames_setNames (names : List String) (doc v w : Value) :
    setNames (setNames doc names v) names w = setNames doc names w := by
  induction names generalizing doc with
  | nil => rfl
  | cons name rest ih =>
    cases rest with
    | nil => simp only [setNames, fieldsOrEmpty, Document.insert_insert]
    | cons next rest =>
      simp only [setNames, fieldsOrEmpty, Document.value?_insert_self, Option.getD_some, ih,
        Document.erase_insert_self, Document.erase_erase_self]

/-- What was set at a path is what the path reads. -/
theorem getPath_setPath (doc : Value) (path : String) (v : Value) :
    (doc.setPath path v).getPath path = some v :=
  walk_setNames (Text.split_ne_nil '.' path) doc v

/-- Of two values that are set at one path the second one counts. -/
theorem setPath_setPath (doc : Value) (path : String) (v w : Value) :
    (doc.setPath path v).setPath path w = doc.setPath path w :=
  setNames_setNames (pathNames path) doc v w

theorem field?_setPath_self {name : String} (h : '.' ∉ name.toList) (doc v : Value) :
    (doc.setPath name v).field? name = some v := by
  rw [setPath_of_plain h, field?_object, Document.value?_insert_self]

/-- Setting a path only changes the field that the path starts with. -/
theorem field?_setPath_ne {path key : String} (h : (pathNames path).head? ≠ some key)
    (doc v : Value) : (doc.setPath path v).field? key = doc.field? key := by
  rw [setPath]
  cases hnames : pathNames path with
  | nil => exact absurd hnames (Text.split_ne_nil '.' path)
  | cons name rest =>
    have hne : name ≠ key := by simpa [hnames] using h
    cases rest with
    | nil => rw [setNames, field?_object, Document.value?_insert_ne _ _ hne, field?_eq]
    | cons next rest =>
      rw [setNames, field?_object, Document.value?_insert_ne _ _ hne, Document.value?_erase_ne _
        hne, field?_eq]

/-- What a path was set in is an object. -/
theorem items?_setPath (doc : Value) (path : String) (v : Value) :
    (doc.setPath path v).items? = none := by
  rw [setPath]
  cases hnames : pathNames path with
  | nil => exact absurd hnames (Text.split_ne_nil '.' path)
  | cons name rest => cases rest <;> rfl

/-- A path that goes on behind a plain name reads what the field of that name holds. -/
theorem getPath_front {name : String} (h : '.' ∉ name.toList) (fields : Document)
    (rest : String) : (Value.object fields).getPath (name ++ "." ++ rest) =
      (Document.value? fields name).bind fun v => v.getPath rest := by
  rw [getPath, pathNames_front h, walk, walkField_eq]
  rfl

theorem getPath_of_plain {name : String} (h : '.' ∉ name.toList) (fields : Document) :
    (Value.object fields).getPath name = Document.value? fields name := by
  rw [getPath, pathNames_of_plain h, walk, walkField_eq]
  simp

/-- Whether setting or removing what stands at a path leaves the field of a name as it is. -/
def Spares (path key : String) : Prop := path ≠ key ∧ (pathNames path).head? ≠ some key

theorem spares_of_plain {path key : String} (hpath : '.' ∉ path.toList) (hne : path ≠ key) :
    Spares path key := by
  refine ⟨hne, ?_⟩
  rw [pathNames_of_plain hpath]
  simpa using hne

theorem spares_of_head {path key : String} (hkey : '.' ∉ key.toList)
    (h : (pathNames path).head? ≠ some key) : Spares path key := by
  refine ⟨?_, h⟩
  rintro rfl
  simp [pathNames_of_plain hkey] at h

end Value

namespace Stage

open Value

variable {store : Store} {vars : Document} {key : String} {s : Stage}

theorem field?_setComputed_ne {field : String × Option Value} (h : Spares field.1 key)
    (doc : Value) : (setComputed doc field).field? key = doc.field? key := by
  unfold setComputed
  split
  · exact field?_setPath_ne h.2 doc _
  · cases doc with
    | object members => exact Document.value?_erase_ne members h.1
    | _ => rfl

theorem field?_foldl_setComputed {results : List (String × Option Value)}
    (h : ∀ r ∈ results, Spares r.1 key) (doc : Value) :
    (results.foldl setComputed doc).field? key = doc.field? key := by
  induction results generalizing doc with
  | nil => rfl
  | cons r rest ih =>
    rw [List.foldl_cons, ih (fun t ht => h t (List.mem_cons_of_mem r ht)),
      field?_setComputed_ne (h r List.mem_cons_self)]

theorem computed_cons_ok {scope : Scope} {name : String} {e : Value} {rest : Document}
    {results : List (String × Option Value)}
    (h : computed scope ((name, e) :: rest) = .ok results) :
    ∃ v others, e.eval scope = .ok v ∧ computed scope rest = .ok others ∧
        results = (name, v) :: others := by
  simp only [computed] at h
  split at h
  · simp at h
  · rename_i v hv
    split at h
    · simp at h
    · rename_i others hothers
      exact ⟨v, others, hv, hothers, (Except.ok.inj h).symm⟩

theorem names_computed {scope : Scope} {fields : Document}
    {results : List (String × Option Value)}
    (h : computed scope fields = .ok results) : results.map (·.1) = fields.names := by
  induction fields generalizing results with
  | nil => simp [← Except.ok.inj h, Document.names]
  | cons m rest ih =>
    obtain ⟨name, e⟩ := m
    obtain ⟨v, others, -, hothers, rfl⟩ := computed_cons_ok h
    simpa [Document.names] using ih hothers

/-- Fields that are computed for a row leave its other fields as they are. -/
theorem field?_addComputed {fields : Document} {doc out : Value}
    (h : ∀ name ∈ fields.names, Spares name key)
    (hout : addComputed fields vars doc = .ok out) : out.field? key = doc.field? key := by
  unfold addComputed at hout
  cases hresults : computed ⟨doc, vars⟩ fields with
  | error e => simp [hresults, Except.map] at hout
  | ok results =>
    rw [hresults] at hout
    rw [← Except.ok.inj hout]
    refine field?_foldl_setComputed (fun r hr => ?_) doc
    have hname : r.1 ∈ fields.names := by
      rw [← names_computed hresults]
      exact List.mem_map_of_mem hr
    exact h r.1 hname

theorem items?_foldl_setComputed {doc : Value} (h : doc.items? = none)
    (results : List (String × Option Value)) :
        (results.foldl setComputed doc).items? = none := by
  induction results generalizing doc with
  | nil => exact h
  | cons r rest ih =>
    refine ih ?_
    unfold setComputed
    split
    · exact items?_setPath doc r.1 _
    · split
      · rfl
      · exact h

/-! ## Tests on results -/

/-- Whether something succeeds with a result that passes a test. -/
def succeedsWith {ε α : Type} (test : α → Bool) : Except ε α → Bool
  | .ok a => test a
  | .error _ => false

theorem exists_of_succeedsWith {ε α : Type} {test : α → Bool} {r : Except ε α}
    (h : succeedsWith test r = true) : ∃ a, r = .ok a ∧ test a = true := by
  cases r with
  | error e => simp [succeedsWith] at h
  | ok a => exact ⟨a, rfl, h⟩

/-- Whether a run gives a single document. -/
def givesOne (r : Except ExecError (List Value)) : Bool :=
    succeedsWith (fun docs => docs.length == 1) r

theorem exists_of_givesOne {r : Except ExecError (List Value)} (h : givesOne r = true) :
    ∃ doc, r = .ok [doc] := by
  obtain ⟨docs, hdocs, hlength⟩ := exists_of_succeedsWith h
  obtain ⟨doc, rfl⟩ := List.length_eq_one_iff.mp (eq_of_beq hlength)
  exact ⟨doc, hdocs⟩

/-! ## Row by row -/

/-- Going through documents succeeds if every step does. -/
theorem each_ok_iff {α : Type} (step : Value → Except ExecError α) (docs : List Value)
    (as : List α) :
    each step docs = .ok as ↔ List.Forall₂ (fun doc a => step doc = .ok a) docs as := by
  induction docs generalizing as with
  | nil => simp [each, eq_comm]
  | cons doc rest ih =>
    simp only [each, List.forall₂_cons_left_iff]
    cases hstep : step doc with
    | error e => simp
    | ok a =>
      cases hrest : each step rest with
      | error e => simp [← ih, hrest]
      | ok others => simp [← ih, hrest, eq_comm]

theorem exists_each_iff {α : Type} {step : Value → Except ExecError α} {docs : List Value} :
    (∃ as, each step docs = .ok as) ↔ ∀ doc ∈ docs, ∃ a, step doc = .ok a := by
  induction docs with
  | nil => simp [each]
  | cons doc rest ih =>
    rw [List.forall_mem_cons, ← ih]
    cases hstep : step doc with
    | error e => simp [each, hstep]
    | ok a => cases hrest : each step rest <;> simp [each, hstep, hrest]

/-- A stage that makes one row of each row. -/
def IsRowwise (s : Stage) : Prop :=
  ∀ store vars, ∃ step : Value → Except ExecError Value, ∀ docs, run store s vars docs =
    each step docs

theorem isRowwise_lookup (source : String) (bindings : Document) (pipeline : List Stage)
    (target : String) : (Stage.lookup source bindings pipeline target).IsRowwise :=
  fun _ _ => ⟨_, fun docs => by rw [run]⟩

theorem isRowwise_set (fields : Document) : (Stage.set fields).IsRowwise :=
  fun _ _ => ⟨_, fun docs => by rw [run]⟩

theorem isRowwise_addFields (fields : Document) : (Stage.addFields fields).IsRowwise :=
  fun _ _ => ⟨_, fun docs => by rw [run]⟩

/-- A single row becomes a single row. -/
theorem IsRowwise.run_row (h : s.IsRowwise) {row : Value} {outs : List Value}
    (hrun : run store s vars [row] = .ok outs) : ∃ out, outs = [out] := by
  obtain ⟨step, hstep⟩ := h store vars
  rw [hstep, each_ok_iff] at hrun
  cases hrun with
  | cons _ hrest =>
    cases hrest
    exact ⟨_, rfl⟩

/-- Stages that work row by row do the same with many rows as with each of them. -/
theorem forall₂_of_runAll {stages : List Stage} (h : ∀ s ∈ stages, s.IsRowwise)
    {rows outs : List Value} (hrun : runAll store stages vars rows = .ok outs) :
    List.Forall₂ (fun row out => runAll store stages vars [row] = .ok [out]) rows outs := by
  induction stages generalizing rows outs with
  | nil =>
    rw [← Except.ok.inj hrun]
    exact List.forall₂_same.mpr fun row _ => rfl
  | cons s rest ih =>
    obtain ⟨step, hstep⟩ := h s List.mem_cons_self store vars
    simp only [runAll, hstep] at hrun ⊢
    cases hmids : each step rows with
    | error e => simp [hmids] at hrun
    | ok mids =>
      rw [hmids] at hrun
      have hlast := ih (fun t ht => h t (List.mem_cons_of_mem s ht)) hrun
      have hfirst := (each_ok_iff step rows mids).mp hmids
      clear hmids hrun
      induction hfirst generalizing outs with
      | nil =>
        cases hlast
        exact .nil
      | cons hrow _ ihrows =>
        cases hlast with
        | cons hout hrest => exact .cons (by simpa only [each, hrow] using hout) (ihrows hrest)

/-- A stage that works row by row and leaves a field as it is. -/
structure Keeps (key : String) (s : Stage) : Prop where
  rowwise : s.IsRowwise
  field? : ∀ {store : Store} {vars : Document} {row out : Value},
    run store s vars [row] = .ok [out] → out.field? key = row.field? key

/-- A lookup puts into a row what its pipeline makes of the other collection. -/
theorem run_lookup_row {source target : String} {bindings : Document} {pipeline : List Stage}
    {row out : Value} (hrun : run store (.lookup source bindings pipeline target) vars
      [row] = .ok [out]) :
    ∃ inner results, bound ⟨row, vars⟩ vars bindings = .ok inner ∧
      runAll store pipeline inner (store.collection source) = .ok results ∧
      out = row.setPath target (.array results) := by
  rw [run, each_ok_iff, List.forall₂_cons] at hrun
  obtain ⟨hrow, -⟩ := hrun
  split at hrow
  · simp at hrow
  · rename_i inner hinner
    split at hrow
    · simp at hrow
    · rename_i results hresults
      exact ⟨inner, results, hinner, hresults, (Except.ok.inj hrow).symm⟩

/-- Fields that are set make no array of a row that is none. -/
theorem items?_run_set {fields : Document} {row out : Value} (h : row.items? = none)
    (hrun : run store (.set fields) vars [row] = .ok [out]) : out.items? = none := by
  rw [run, each_ok_iff, List.forall₂_cons] at hrun
  obtain ⟨hrow, -⟩ := hrun
  unfold addComputed at hrow
  cases hresults : computed ⟨row, vars⟩ fields with
  | error e => simp [hresults, Except.map] at hrow
  | ok results =>
    rw [hresults] at hrow
    rw [← Except.ok.inj hrow]
    exact items?_foldl_setComputed h results

theorem keeps_lookup {source target : String} {bindings : Document} {pipeline : List Stage}
    (h : (pathNames target).head? ≠ some key) :
        (Stage.lookup source bindings pipeline target).Keeps key where
  rowwise := isRowwise_lookup _ _ _ _
  field? := by
    intro store vars row out hrun
    obtain ⟨inner, results, -, -, rfl⟩ := run_lookup_row hrun
    exact field?_setPath_ne h row _

theorem keeps_set {fields : Document} (h : ∀ name ∈ fields.names, Spares name key) :
    (Stage.set fields).Keeps key where
  rowwise := isRowwise_set fields
  field? := by
    intro store vars row out hrun
    rw [run, each_ok_iff, List.forall₂_cons] at hrun
    exact field?_addComputed h hrun.1

theorem keeps_addFields {fields : Document} (h : ∀ name ∈ fields.names, Spares name key) :
    (Stage.addFields fields).Keeps key where
  rowwise := isRowwise_addFields fields
  field? := by
    intro store vars row out hrun
    rw [run, each_ok_iff, List.forall₂_cons] at hrun
    exact field?_addComputed h hrun.1

/-- A run of a row through a stage and then through others. -/
theorem runAll_row_cons (h : s.IsRowwise) {rest : List Stage} {row out : Value}
    (hrun : runAll store (s :: rest) vars [row] = .ok [out]) :
    ∃ between, run store s vars [row] = .ok [between] ∧
      runAll store rest vars [between] = .ok [out] := by
  simp only [runAll] at hrun
  cases hfirst : run store s vars [row] with
  | error e => simp [hfirst] at hrun
  | ok betweens =>
    obtain ⟨between, rfl⟩ := h.run_row hfirst
    exact ⟨between, rfl, by simpa only [hfirst] using hrun⟩

/-- A run of a row through some stages and then through others. -/
theorem runAll_row_append {stages others : List Stage} (h : ∀ s ∈ stages, s.IsRowwise)
    {row out : Value} (hrun : runAll store (stages ++ others) vars [row] = .ok [out]) :
    ∃ between, runAll store stages vars [row] = .ok [between] ∧
      runAll store others vars [between] = .ok [out] := by
  induction stages generalizing row with
  | nil => exact ⟨row, rfl, hrun⟩
  | cons s rest ih =>
    obtain ⟨next, hnext, hrest⟩ := runAll_row_cons (h s List.mem_cons_self) hrun
    obtain ⟨between, hbetween, hothers⟩ :=
      ih (fun t ht => h t (List.mem_cons_of_mem s ht)) hrest
    exact ⟨between, by simpa only [runAll, hnext] using hbetween, hothers⟩

/-- Stages that work row by row make rows of many rows if they do of each of them. -/
theorem exists_runAll_iff {stages : List Stage} (h : ∀ s ∈ stages, s.IsRowwise)
    {rows : List Value} : (∃ outs, runAll store stages vars rows = .ok outs) ↔
      ∀ row ∈ rows, ∃ out, runAll store stages vars [row] = .ok [out] := by
  constructor
  · rintro ⟨outs, hrun⟩ row hrow
    obtain ⟨out, -, hone⟩ := (List.exists_mem_zip_of_forall₂ (forall₂_of_runAll h hrun)).1 row
      hrow
    exact ⟨out, hone⟩
  · intro hall
    induction stages generalizing rows with
    | nil => exact ⟨rows, rfl⟩
    | cons s rest ih =>
      obtain ⟨hs, hrest⟩ := List.forall_mem_cons.mp h
      obtain ⟨step, hstep⟩ := hs store vars
      have hone : ∀ row between, run store s vars [row] = .ok [between] ↔
          step row = .ok between := by
        intro row between
        rw [hstep, each_ok_iff]
        simp
      obtain ⟨betweens, hbetweens⟩ : ∃ betweens, each step rows = .ok betweens := by
        refine exists_each_iff.mpr fun row hrow => ?_
        obtain ⟨out, hout⟩ := hall row hrow
        obtain ⟨between, hbetween, -⟩ := runAll_row_cons hs hout
        exact ⟨between, (hone row between).mp hbetween⟩
      simp only [runAll, hstep, hbetweens]
      refine ih hrest fun between hmem => ?_
      obtain ⟨row, hpair, hrow⟩ :=
        (List.exists_mem_zip_of_forall₂ ((each_ok_iff _ _ _).mp hbetweens)).2 between hmem
      obtain ⟨out, hout⟩ := hall row (List.of_mem_zip hpair).1
      obtain ⟨between', hbetween', hlast⟩ := runAll_row_cons hs hout
      obtain rfl := Except.ok.inj (((hone row between').mp hbetween').symm.trans hrow)
      exact ⟨out, hlast⟩

/-- A run of many rows is the runs of each of them. -/
theorem runAll_ok_iff {stages : List Stage} (h : ∀ s ∈ stages, s.IsRowwise)
    {rows outs : List Value} : runAll store stages vars rows = .ok outs ↔
      List.Forall₂ (fun row out => runAll store stages vars [row] = .ok [out]) rows outs := by
  refine ⟨forall₂_of_runAll h, fun hall => ?_⟩
  obtain ⟨others, hothers⟩ := (exists_runAll_iff h).mpr fun row hrow => by
    obtain ⟨out, -, hout⟩ := (List.exists_mem_zip_of_forall₂ hall).1 row hrow
    exact ⟨out, hout⟩
  have hunique : Relator.RightUnique fun row out => runAll store stages vars [row] =
      .ok [out] := by
    intro row out out' hout hout'
    exact (List.cons.inj (Except.ok.inj (hout.symm.trans hout'))).1
  rw [hothers, List.right_unique_forall₂' hunique (forall₂_of_runAll h hothers) hall]

/-- Stages that leave a field as it is do so one after another. -/
theorem field?_of_runAll {stages : List Stage} (h : ∀ s ∈ stages, s.Keeps key) {row out : Value}
    (hrun : runAll store stages vars [row] = .ok [out]) : out.field? key = row.field? key := by
  induction stages generalizing row with
  | nil => simp [List.cons.inj (Except.ok.inj hrun)]
  | cons s rest ih =>
    have hs := h s List.mem_cons_self
    obtain ⟨between, hfirst, hrest⟩ := runAll_row_cons hs.rowwise hrun
    rw [ih (fun t ht => h t (List.mem_cons_of_mem s ht)) hrest, hs.field? hfirst]

end Stage

end DocQuery
