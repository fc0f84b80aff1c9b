import DocQuery.Proofs.ColumnAliases
import DocQuery.Proofs.UnchangedResults
import DocQuery.Proofs.Unions
set_option autoImplicit false

/-!
# Proofs: the columns that rows show

The last stage of a query shows its columns and the identity, and hides what the stages in front
of it added:  joined documents, results of subqueries and columns of orders.  Whether a
projection shows fields or leaves fields out is read off its members, and the identity counts
for neither.  So a projection to nothing but the identity leaves out no field, and all of them
are shown.
-/

namespace DocQuery

namespace Stage

variable {scope : Scope} {fields vars : Document} {doc out : Value}

/-! ## Projections -/

/-- If no member of a projection is false then it leaves fields out only where it mentions the
identity alone. -/
theorem isExclusion_iff_of_truthy (h : ∀ member ∈ fields, member.2.isTruthy = true) :
    isExclusion fields = true ↔ fields.names ≠ [] ∧ ∀ name ∈ fields.names, name = "_id" := by
  have hall : (fields.all fun m => m.1 == "_id" || (isFlag m.2 && !m.2.isTruthy)) =
      fields.all fun m => m.1 == "_id" := by
    rw [Bool.eq_iff_iff, List.all_eq_true, List.all_eq_true]
    exact forall₂_congr fun member hmember => by simp [h member hmember]
  rw [isExclusion, hall]
  simp [Document.names]

/-- Such a projection then leaves nothing out. -/
theorem excluded_of_truthy (h : ∀ member ∈ fields, member.2.isTruthy = true) (doc : Value) :
    excluded doc fields = .object doc.fieldsOrEmpty := by
  unfold excluded
  refine congrArg Value.object (List.filter_eq_self.mpr fun m _ => ?_)
  simp only [Bool.not_eq_true', List.any_eq_false, Bool.and_eq_true, not_and]
  intro f hf _
  simp [h f hf]

theorem names_projected {output result : Document}
    (h : projected scope output fields = .ok result) :
    ∀ key ∈ result.names, key ∈ output.names ∨ key ∈ fields.names := by
  induction fields generalizing output with
  | nil =>
    obtain rfl := Except.ok.inj h
    exact fun key hkey => .inl hkey
  | cons member rest ih =>
    obtain ⟨name, v⟩ := member
    intro key hkey
    have hnames : Document.names ((name, v) :: rest) = name :: Document.names rest := rfl
    rw [hnames, List.mem_cons]
    simp only [projected] at h
    split at h
    · simp at h
    · rcases ih h key hkey with hold | hlater
      · rcases Document.mem_names_insert.mp hold with hold | hname
        · exact .inl hold
        · exact .inr (.inl hname)
      · exact .inr (.inr hlater)
    · exact (ih h key hkey).imp_right .inr

/-- A projection that does not leave fields out shows the identity and the fields that it
mentions. -/
theorem names_projection (hexclusion : isExclusion fields = false)
    (h : projection fields vars doc = .ok out) :
    ∃ shown, out = .object shown ∧ ∀ key ∈ Document.names shown, key = "_id" ∨
        key ∈ fields.names := by
  simp only [projection, hexclusion, Bool.false_eq_true, if_false] at h
  obtain ⟨shown, hshown, rfl⟩ := exists_of_map_eq_ok h
  refine ⟨shown, rfl, fun key hkey => ?_⟩
  rcases names_projected hshown key hkey with hstart | hfield
  · left
    split at hstart
    · simp [Document.names] at hstart
    · split at hstart
      · simpa [Document.names] using hstart
      · simp [Document.names] at hstart
  · exact .inr hfield

end Stage

namespace Compiler

variable {c : Compiler} {m : Model} {q : Query}

/-! ## The columns of a query -/

/-- The names of the columns that a query returns: those that it asks for, or else all of its
model and all that it computes. -/
def shownNames (m : Model) (q : Query) : List String :=
  if q.values = [] then m.columns ++ q.annotations.map (·.1) else q.values

theorem isTruthy_render (a : Access) : a.render.isTruthy = true := by
  cases a with
  | column joined name type => cases joined <;> rfl
  | key base name type =>
    rw [Access.render]
    unfold Access.keyOf
    split <;> rfl
  | _ => rfl

theorem columnsOf_shown {ctx ctx' : Context} {paths : List String}
    {columns : List (String × Value)} (h : c.columnsOf ctx paths = .ok (columns, ctx')) :
    columns.map (·.1) = paths ∧ ∀ column ∈ columns, column.2.isTruthy = true := by
  induction paths generalizing ctx columns with
  | nil =>
    obtain ⟨rfl, rfl⟩ := Prod.mk.inj (Except.ok.inj h)
    simp
  | cons path rest ih =>
    obtain ⟨e, type, after, others, he, hrest, rfl⟩ := columnsOf_cons_ok h
    obtain ⟨ending, -, rfl⟩ := fieldExpr_ok he
    obtain ⟨hnames, htruthy⟩ := ih hrest
    exact ⟨by rw [List.map_cons, hnames], List.forall_mem_cons.mpr
      ⟨isTruthy_render ending.target, htruthy⟩⟩

namespace Derivation

/-- The columns of a query have the names that it asks for, and none of them reads like a field
that is left out. -/
theorem columns_shown (d : c.Derivation m q) :
    d.columns.map (·.1) = shownNames m q ∧ ∀ column ∈ d.columns, column.2.isTruthy = true := by
  obtain ⟨hknown, hdepth, hmodel⟩ := d.knows
  have hsorted : d.sorted.model = m :=
    (traced_model (sortKeys_follows hknown hdepth d.sorts).traced).trans hmodel
  have hreturns := d.returns
  unfold returnedColumns at hreturns
  split at hreturns
  · rename_i hvalues
    obtain ⟨hcolumns, -⟩ := Prod.mk.inj (Except.ok.inj hreturns)
    rw [← hcolumns, hsorted, shownNames, if_pos hvalues]
    exact ⟨by simp [allColumns, plainColumn, Function.comp_def], List.forall_mem_map.mpr
      fun name _ => rfl⟩
  · rename_i hvalues
    rw [shownNames, if_neg hvalues]
    exact columnsOf_shown hreturns

end Derivation

/-- The projection to columns mentions these columns, and marks none of them as left out. -/
theorem projectionOf_shown {columns : List (String × Value)}
    (h : ∀ column ∈ columns, column.2.isTruthy = true) :
    (∀ key, key ∈ (projectionOf columns).names ↔ key ∈ columns.map (·.1)) ∧
      ∀ member ∈ projectionOf columns, member.2.isTruthy = true := by
  constructor
  · intro key
    have hsame : (columns.map projectedColumn).map (·.1) = columns.map (·.1) := by
      rw [List.map_map]
      exact List.map_congr_left fun column _ => projectedColumn_name column
    rw [projectionOf, Document.mem_names_ofList, hsame]
  · intro member hmember
    rcases Document.mem_insertAll hmember with hnone | hcolumn
    · simp at hnone
    · obtain ⟨column, hmem, rfl⟩ := List.mem_map.mp hcolumn
      rcases projectedColumn_cases column with hsame | ⟨hmarked, -⟩
      · rw [hsame]
        exact h column hmem
      · have hone : (Value.int 1).isTruthy = true := by decide
        rw [hmarked]
        exact hone

namespace Derivation

/-- The projection of a query mentions the columns that the query returns. -/
theorem mem_names_projection (d : c.Derivation m q) (key : String) :
    key ∈ (projectionOf d.columns).names ↔ key ∈ shownNames m q := by
  obtain ⟨hnames, htruthy⟩ := d.columns_shown
  exact hnames ▸ (projectionOf_shown htruthy).1 key

/-- It counts as one that leaves fields out if it mentions the identity alone. -/
theorem isExclusion_iff (d : c.Derivation m q) :
    Stage.isExclusion (projectionOf d.columns) = true ↔
    shownNames m q ≠ [] ∧ ∀ name ∈ shownNames m q, name = "_id" := by
  have hempty : (projectionOf d.columns).names = [] ↔ shownNames m q = [] := by
    rw [List.eq_nil_iff_forall_not_mem, List.eq_nil_iff_forall_not_mem]
    exact forall_congr' fun key => not_congr (d.mem_names_projection key)
  rw [Stage.isExclusion_iff_of_truthy (projectionOf_shown d.columns_shown.2).2]
  exact and_congr (not_congr hempty) (forall_congr' fun key =>
    imp_congr_left (d.mem_names_projection key))

end Derivation

/-! ## Rows -/

/-- The rows of a query that is not united with others show the identity and the columns that it
returns, and nothing else, unless these are all called like the identity.  If they are, all
fields that its documents have in the end are shown. -/
theorem rows_show_columns {s : Store} {rows : List Value} (hunion : q.union = none)
    (hm : c.queryableModel q.model = .ok m) (h : c.Returns s q rows) :
    ((shownNames m q = [] ∨ ∃ name ∈ shownNames m q, name ≠ "_id") → ∀ row ∈ rows, ∃ shown,
      row = .object shown ∧ ∀ key ∈ Document.names shown, key = "_id" ∨ key ∈ shownNames m q) ∧
    (shownNames m q ≠ [] → (∀ name ∈ shownNames m q, name = "_id") → ∃ p ctx docs,
      c.planOf m q = .ok (p, ctx) ∧ Stage.runAll s (c.source ctx p ++ p.order ++ p.window) []
      (s.collection m.collection) = .ok docs ∧ rows = docs.map fun doc =>
      .object doc.fieldsOrEmpty) := by
  obtain ⟨a, ha, hrows⟩ := h
  obtain ⟨m', p, ctx, hm', hp, rfl⟩ := (compile_ok_iff hunion).mp ha
  obtain rfl := Except.ok.inj (hm.symm.trans hm')
  obtain ⟨d, rfl, rfl⟩ := planOf_ok_iff.mp hp
  obtain ⟨docs, hdocs, hproject⟩ := Stage.runAll_append_ok hrows
  rw [Stage.runAll_singleton, Stage.run] at hproject
  constructor
  · intro hshown row hrow
    have hkept : Stage.isExclusion (projectionOf d.columns) = false := by
      rw [Bool.eq_false_iff, ne_eq, d.isExclusion_iff]
      rintro ⟨hnonempty, hall⟩
      rcases hshown with hempty | ⟨name, hname, hother⟩
      · exact hnonempty hempty
      · exact hother (hall name hname)
    have hall := (Stage.each_ok_iff _ _ _).mp hproject
    obtain ⟨doc, -, hone⟩ := (List.exists_mem_zip_of_forall₂ hall).2 row hrow
    obtain ⟨shown, hrow, hkeys⟩ := Stage.names_projection hkept hone
    exact ⟨shown, hrow, fun key hkey => (hkeys key hkey).imp_right
      (d.mem_names_projection key).mp⟩
  · intro hnonempty hall
    have hleft : Stage.isExclusion (projectionOf d.columns) = true :=
      d.isExclusion_iff.mpr ⟨hnonempty, hall⟩
    have hdoc : ∀ doc ∈ docs, Stage.projection (projectionOf d.columns) [] doc =
        .ok (.object doc.fieldsOrEmpty) :=
      fun doc _ => by
        rw [Stage.projection, if_pos hleft, Stage.excluded_of_truthy (projectionOf_shown
          d.columns_shown.2).2]
    exact ⟨d.plan, d.final, docs, hp, hdocs,
      Except.ok.inj (hproject.symm.trans (Stage.each_eq_map hdoc))⟩

/-- Documents of which nothing but the identity is known. -/
def bareDocument : Model := ⟨"Note", some "notes", false, [Model.primaryKey]⟩

/-- Notes, which have no columns of their own. -/
def notes : Compiler := ⟨⟨[bareDocument]⟩, .usual⟩

/-- A note with a field that no model knows. -/
def oneNote : Store := ⟨[("notes", [.object [("_id", .int 1), ("x", .int 2)]])]⟩

/-- The names of the people are shown with the identities and nothing else, and a note is shown
with all its fields. -/
theorem oneNote_shows_field :
    (∃ rows, staff.Returns annAndBob namesOfPeople rows ∧ rows ≠ [] ∧ ∀ row ∈ rows, ∃ shown,
      row = .object shown ∧ ∀ key ∈ Document.names shown, key = "_id" ∨ key = "name") ∧
    ∃ rows, notes.Returns oneNote (Query.all "Note") rows ∧
      shownNames bareDocument (Query.all "Note") = ["_id"] ∧
      rows = [.object [("_id", .int 1), ("x", .int 2)]] := by
  have hpeople : staff.Returns annAndBob namesOfPeople
      [.object [("_id", .int 1), ("name", .string "Ann")],
          .object [("_id", .int 2), ("name", .string "Bob")]] :=
    ⟨_, rfl, rfl⟩
  have hnotes : notes.Returns oneNote (Query.all "Note")
    [.object [("_id", .int 1), ("x", .int 2)]] := ⟨_, rfl, rfl⟩
  have hnames : shownNames person namesOfPeople = ["name"] := rfl
  have hshown := (rows_show_columns (m := person) rfl rfl hpeople).1
    (.inr ⟨"name", by simp [hnames], by decide⟩)
  simp only [hnames, List.mem_singleton] at hshown
  obtain ⟨p, ctx, docs, -, -, hrows⟩ := (rows_show_columns (m := bareDocument) rfl rfl hnotes).2
    (by decide) (by decide)
  exact ⟨⟨_, hpeople, by simp, hshown⟩, docs.map fun doc => .object doc.fieldsOrEmpty,
    hrows ▸ hnotes, rfl, hrows.symm⟩

end Compiler

end DocQuery
