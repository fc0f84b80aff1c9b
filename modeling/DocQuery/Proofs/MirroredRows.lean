import DocQuery.Proofs.MirroredQueries
import DocQuery.Proofs.RowIdentities
set_option autoImplicit false

/-!
# Proofs: mirrored stages on rows that agree

Rows agree if related fields hold the same.  Stages that mirror each other do the same with such
rows, and what comes out of them agrees again.
-/

namespace DocQuery

open Value

/-- Whether a name is only related to itself. -/
def Respects (R : String → String → Prop) (name : String) : Prop :=
    ∀ x x', R x x' → (x = name ↔ x' = name)

namespace Stage

variable {R : String → String → Prop} {store : Store} {vars : Document} {row other out : Value}
  {s s' : Stage}

/-! ## Fields -/

/-- The fields that a stage sets. -/
def targets : Stage → List String
  | .lookup _ _ _ target => [target]
  | .addFields fields => fields.names
  | .set fields => fields.names
  | _ => []

theorem field?_setComputed_self {name : String} (hplain : '.' ∉ name.toList) (v : Option Value)
    (doc : Value) : (setComputed doc (name, v)).field? name = v := by
  cases v with
  | some v => exact field?_setPath_self hplain doc v
  | none =>
    cases doc with
    | object members =>
      rw [setComputed, field?_object]
      exact Document.value?_erase_self members name
    | _ => rfl

theorem items?_setComputed (h : row.items? = none) (field : String × Option Value) :
    (setComputed row field).items? = none :=
  items?_foldl_setComputed h [field]

/-- Rows still agree where the same was set in both. -/
theorem agree_setComputed (h : Agree R row other) {name : String} (hplain : '.' ∉ name.toList)
    (hname : Respects R name) (v : Option Value) :
    Agree R (setComputed row (name, v)) (setComputed other (name, v)) where
  first := items?_setComputed h.first _
  second := items?_setComputed h.second _
  fields := by
    intro x x' hx
    by_cases hsame : x = name
    · obtain rfl := (hname x x' hx).mp hsame
      subst hsame
      rw [field?_setComputed_self hplain, field?_setComputed_self hplain]
    · have hsame' : x' ≠ name := fun heq => hsame ((hname x x' hx).mpr heq)
      rw [field?_setComputed_ne (spares_of_plain hplain (Ne.symm hsame)),
        field?_setComputed_ne (spares_of_plain hplain (Ne.symm hsame')), h.fields x x' hx]

theorem agree_foldl_setComputed {results : List (String × Option Value)} (h : Agree R row other)
    (hresults : ∀ r ∈ results, '.' ∉ r.1.toList ∧ Respects R r.1) :
    Agree R (results.foldl setComputed row) (results.foldl setComputed other) := by
  induction results generalizing row other with
  | nil => exact h
  | cons r rest ih =>
    obtain ⟨⟨hplain, hname⟩, hrest⟩ := List.forall_mem_cons.mp hresults
    exact ih (agree_setComputed h hplain hname r.2) hrest

/-! ## Stages -/

theorem computed_mirrors {fields others : Document} (h : Document.Mirrors R fields others)
    (hrows : Agree R row other) :
        computed ⟨row, vars⟩ fields = computed ⟨other, vars⟩ others := by
  induction h with
  | nil => rfl
  | cons hm _ ih =>
    obtain ⟨hname, hvalue⟩ := hm
    simp only [computed, hvalue.eval_eq hrows vars, ih, hname]

theorem bound_mirrors {bindings others : Document} (h : Document.Mirrors R bindings others)
    (hrows : Agree R row other) (start : Document) :
    bound ⟨row, vars⟩ start bindings = bound ⟨other, vars⟩ start others := by
  induction h generalizing start with
  | nil => rfl
  | cons hm _ ih =>
    obtain ⟨hname, hvalue⟩ := hm
    simp only [bound, hvalue.eval_eq hrows vars, ih, hname]

theorem addComputed_mirrors {fields others : Document} (h : Document.Mirrors R fields others)
    (hrows : Agree R row other)
    (hnames : ∀ name ∈ fields.names, '.' ∉ name.toList ∧ Respects R name)
    (hout : addComputed fields vars row = .ok out) :
    ∃ out', addComputed others vars other = .ok out' ∧ Agree R out out' := by
  unfold addComputed at hout ⊢
  rw [← computed_mirrors h hrows]
  obtain ⟨results, hresults, rfl⟩ := exists_of_map_eq_ok hout
  rw [hresults]
  refine ⟨_, rfl, agree_foldl_setComputed hrows fun r hr => hnames r.1 ?_⟩
  rw [← names_computed hresults]
  exact List.mem_map_of_mem hr

/-- Mirrored stages do the same with rows that agree. -/
theorem run_mirrors (h : Stage.Mirrors R s s') (hrows : Agree R row other)
    (hnames : ∀ name ∈ s.targets, '.' ∉ name.toList ∧ Respects R name)
    (hrun : run store s vars [row] = .ok [out]) :
    ∃ out', run store s' vars [other] = .ok [out'] ∧ Agree R out out' := by
  cases h with
  | lookup source pipeline target hbindings =>
    obtain ⟨inner, results, hinner, hresults, rfl⟩ := run_lookup_row hrun
    obtain ⟨hplain, hname⟩ := hnames target List.mem_cons_self
    refine ⟨other.setPath target (.array results), ?_, agree_setComputed hrows hplain hname
      (some (.array results))⟩
    rw [bound_mirrors hbindings hrows] at hinner
    simp only [run, each, hinner, hresults]
  | addFields hfields =>
    rw [run, each_ok_iff, List.forall₂_cons] at hrun
    obtain ⟨out', hout, hagree⟩ := addComputed_mirrors hfields hrows hnames hrun.1
    exact ⟨out', by simp only [run, each, hout], hagree⟩
  | set hfields =>
    rw [run, each_ok_iff, List.forall₂_cons] at hrun
    obtain ⟨out', hout, hagree⟩ := addComputed_mirrors hfields hrows hnames hrun.1
    exact ⟨out', by simp only [run, each, hout], hagree⟩

theorem isRowwise_of_mirrors (h : Stage.Mirrors R s s') : s.IsRowwise ∧ s'.IsRowwise := by
  cases h with
  | lookup source pipeline target _ =>
    exact ⟨isRowwise_lookup _ _ _ _, isRowwise_lookup _ _ _ _⟩
  | addFields _ => exact ⟨isRowwise_addFields _, isRowwise_addFields _⟩
  | set _ => exact ⟨isRowwise_set _, isRowwise_set _⟩

/-- So do pipelines of mirrored stages. -/
theorem runAll_mirrors {stages others : List Stage}
    (h : List.Forall₂ (Stage.Mirrors R) stages others) (hrows : Agree R row other)
    (hnames : ∀ s ∈ stages, ∀ name ∈ s.targets, '.' ∉ name.toList ∧ Respects R name)
    (hrun : runAll store stages vars [row] = .ok [out]) :
    ∃ out', runAll store others vars [other] = .ok [out'] ∧ Agree R out out' := by
  induction h generalizing row other with
  | nil =>
    obtain rfl : row = out := by simpa [runAll] using hrun
    exact ⟨other, rfl, hrows⟩
  | @cons s s' rest rest' hs _ ih =>
    obtain ⟨hfirst, hlast⟩ := List.forall_mem_cons.mp hnames
    obtain ⟨between, hstep, hrest⟩ := runAll_row_cons (isRowwise_of_mirrors hs).1 hrun
    obtain ⟨between', hstep', hagree⟩ := run_mirrors hs hrows hfirst hstep
    obtain ⟨out', hrest', hout⟩ := ih hagree hlast hrest
    exact ⟨out', by simp only [runAll, hstep', hrest'], hout⟩

/-! ## Projections -/

/-- Whether a projection can tell what becomes of a member: the member is only marked, or it has
a value. -/
def IsShown (scope : Scope) (v : Value) : Prop := isFlag v = true ∨ ∃ w, eval v scope = .ok w

/-- Whether a projection leaves fields out depends on its names and on the fields that are
marked. -/
theorem isExclusion_eq {fields others : Document} (h : List.Forall₂ (fun m n => m.1 = n.1 ∧
    (isFlag m.2 && !m.2.isTruthy) = (isFlag n.2 && !n.2.isTruthy)) fields others) :
    isExclusion fields = isExclusion others := by
  have hall : fields.all (fun m => m.1 == "_id" || (isFlag m.2 && !m.2.isTruthy)) =
      others.all fun m => m.1 == "_id" || (isFlag m.2 && !m.2.isTruthy) := by
    induction h with
    | nil => rfl
    | cons hm _ ih => rw [List.all_cons, List.all_cons, hm.1, hm.2, ih]
  rw [isExclusion, isExclusion, hall]
  cases h <;> rfl

theorem exists_projected_iff {scope : Scope} {output fields : Document} :
    (∃ out, projected scope output fields = .ok out) ↔ ∀ member ∈ fields,
        IsShown scope member.2 := by
  induction fields generalizing output with
  | nil => simp [projected]
  | cons member rest ih =>
    obtain ⟨name, v⟩ := member
    rw [List.forall_mem_cons]
    cases hflag : isFlag v with
    | true =>
      have hshown : IsShown scope v := .inl hflag
      simp only [hshown, true_and]
      cases htruthy : v.isTruthy with
      | true =>
        cases hpath : scope.root.getPath name <;> simpa [projected, hflag, htruthy,
          hpath] using ih
      | false => simpa [projected, hflag, htruthy] using ih
    | false =>
      cases hvalue : eval v scope with
      | error e => simp [projected, IsShown, hflag, hvalue]
      | ok w =>
        have hshown : IsShown scope v := .inr ⟨w, hvalue⟩
        simp only [hshown, true_and]
        cases w <;> simpa [projected, hflag, hvalue] using ih

theorem exists_projection_iff {fields : Document} :
    (∃ out, projection fields vars row = .ok out) ↔
      isExclusion fields = true ∨ ∀ member ∈ fields, IsShown ⟨row, vars⟩ member.2 := by
  unfold projection
  cases hexclusion : isExclusion fields with
  | true => simp
  | false =>
    simp only [Bool.false_eq_true, if_false, false_or]
    rw [← exists_projected_iff]
    constructor
    · rintro ⟨out, hout⟩
      obtain ⟨output, houtput, -⟩ := exists_of_map_eq_ok hout
      exact ⟨output, houtput⟩
    · rintro ⟨output, houtput⟩
      exact ⟨.object output, by rw [houtput]; rfl⟩

/-- Whether a projection shows a member of a scope if it shows another one of another scope, and
leaves out both or none. -/
structure Shows (scope other : Scope) (v w : Value) : Prop where
  excluded : (isFlag v && !v.isTruthy) = (isFlag w && !w.isTruthy)
  shown : IsShown scope v → IsShown other w

end Stage

/-- What mirrors a text is this text, or the path of a field. -/
theorem Value.Mirrors.string_cases {R : String → String → Prop} {s : String} {e' : Value}
    (h : Value.Mirrors R (.string s) e') :
        e' = .string s ∨ ∀ scope, ∃ v, eval e' scope = .ok v := by
  generalize he : Value.string s = e at h
  cases h with
  | path _ _ _ _ hplain' =>
    exact .inr fun scope => ⟨_, by rw [eval_string, PathText.read_root _ hplain']⟩
  | _ => first | exact .inl rfl | cases he

namespace Compiler

variable {R : String → String → Prop} {row other : Value} {vars : Document}

theorem projectedColumn_cases (column : String × Value) : projectedColumn column = column ∨
    projectedColumn column = (column.1, .int 1) ∧ column.2 = .string ("$" ++ column.1) := by
  unfold projectedColumn
  split
  · split
    · rename_i hsame
      exact .inr ⟨rfl, congrArg Value.string hsame⟩
    · exact .inl rfl
  · exact .inl rfl

theorem projectedColumn_name (column : String × Value) :
    (projectedColumn column).1 = column.1 := by
  rcases projectedColumn_cases column with hsame | ⟨hmarked, -⟩
  · rw [hsame]
  · rw [hmarked]

/-- A mirrored column is projected as the column is: where only the column itself keeps its
name, the other one is the path of a field. -/
theorem shows_projectedColumn {name : String} {e e' : Value} (h : Value.Mirrors R e e')
    (hflag : Stage.isFlag e = false) (hflag' : Stage.isFlag e' = false)
    (hrows : Agree R row other) :
    Stage.Shows ⟨row, vars⟩ ⟨other, vars⟩ (projectedColumn (name, e)).2
        (projectedColumn (name, e')).2 := by
  have hmark : (Stage.isFlag (.int 1) && !(Value.int 1).isTruthy) = false := by decide
  rcases projectedColumn_cases (name, e) with hsame | ⟨hmarked, htext⟩ <;>
    rcases projectedColumn_cases (name, e') with hsame' | ⟨hmarked', -⟩
  · rw [hsame, hsame']
    refine ⟨by simp [hflag, hflag'], fun hshown => .inr ?_⟩
    obtain ⟨w, hw⟩ := hshown.resolve_left (by simp [hflag])
    exact ⟨w, (h.eval_eq hrows vars).symm.trans hw⟩
  · rw [hsame, hmarked']
    exact ⟨by simp [hmark, hflag], fun _ => .inl rfl⟩
  · rw [hmarked, hsame']
    refine ⟨by simp [hmark, hflag'], fun _ => .inr ?_⟩
    obtain rfl : e = .string ("$" ++ name) := htext
    rcases h.string_cases with rfl | hvalue
    · simp [projectedColumn] at hsame'
    · exact hvalue _
  · rw [hmarked, hmarked']
    exact ⟨rfl, id⟩

/-- If columns can be shown of a row, mirrored columns can be shown of a row that agrees. -/
theorem projection_mirrors {columns columns' : List (String × Value)}
    (h : Document.Mirrors R columns columns')
    (hflags : ∀ column ∈ columns, Stage.isFlag column.2 = false)
    (hflags' : ∀ column ∈ columns', Stage.isFlag column.2 = false) (hrows : Agree R row other)
    (hout : ∃ out, Stage.projection (projectionOf columns) vars row = .ok out) :
    ∃ out, Stage.projection (projectionOf columns') vars other = .ok out := by
  have hall : List.Forall₂ (fun m n => m.1 = n.1 ∧ Stage.Shows ⟨row, vars⟩ ⟨other,
    vars⟩ m.2 n.2) (projectionOf columns) (projectionOf columns') := by
    refine Document.forall₂_insertAll .nil ?_
    rw [List.forall₂_map_left_iff, List.forall₂_map_right_iff, List.forall₂_iff_zip]
    refine ⟨h.length_eq, fun {m n} hmem => ?_⟩
    obtain ⟨name, e⟩ := m
    obtain ⟨name', e'⟩ := n
    obtain ⟨hname, hmirrors⟩ := List.forall₂_zip h hmem
    obtain ⟨hm, hn⟩ := List.of_mem_zip hmem
    obtain rfl : name = name' := hname
    refine ⟨?_, shows_projectedColumn hmirrors (hflags _ hm) (hflags' _ hn) hrows⟩
    rw [projectedColumn_name, projectedColumn_name]
  have hsame := Stage.isExclusion_eq (hall.imp fun _ _ hm => ⟨hm.1, hm.2.excluded⟩)
  rw [Stage.exists_projection_iff] at hout ⊢
  rw [← hsame]
  refine hout.imp_right fun hshown member hmember => ?_
  obtain ⟨shown, hpair⟩ := (List.exists_mem_zip_of_forall₂ hall).2 member hmember
  obtain ⟨hmem, -⟩ := List.of_mem_zip hpair.1
  exact hpair.2.2.shown (hshown shown hmem)

end Compiler

end DocQuery
