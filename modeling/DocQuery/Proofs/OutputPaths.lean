import DocQuery.Proofs.Rows
set_option autoImplicit false

/-!
# Proofs: what a computed field shows at its path

A stage that sets a field takes its name for a path, and so does one that shows a field by a
flag.  Two things do not fit in:  a field that is missing is removed under the whole text of its
name, and a projection puts its fields under the whole text as well.  So names without a point
show what was computed, and those with one do not always.
-/

namespace DocQuery

namespace Value

variable {name : String} {members : Document}

/-- A name with a point is a path behind its first part. -/
theorem exists_front_of_point (h : '.' ∈ name.toList) :
    ∃ front rest : String, '.' ∉ front.toList ∧ front ≠ name ∧ name = front ++ "." ++ rest := by
  obtain ⟨front, rest, hname, hfront⟩ := List.eq_append_cons_of_mem h
  refine ⟨String.ofList front, String.ofList rest, by simpa using hfront, ?_,
    String.toList_injective (by simp [hname])⟩
  rintro rfl
  simp [hfront] at h

/-- Removing a member under the whole text of a path does not change what the path reads. -/
theorem getPath_erase (h : '.' ∈ name.toList) (members : Document) :
    (Value.object (Document.erase members name)).getPath name =
        (Value.object members).getPath name := by
  obtain ⟨front, rest, hfront, hne, hname⟩ := exists_front_of_point h
  rw [hname, getPath_front hfront, getPath_front hfront, ← hname,
    Document.value?_erase_ne _ hne.symm]

theorem getPath_insert_of_point (h : '.' ∈ name.toList) (members : Document) (v : Value) :
    (Value.object (Document.insert members name v)).getPath name =
        (Value.object members).getPath name := by
  obtain ⟨front, rest, hfront, hne, hname⟩ := exists_front_of_point h
  rw [hname, getPath_front hfront, getPath_front hfront, ← hname,
    Document.value?_insert_ne _ _ hne.symm]

end Value

namespace Stage

open Value

variable {store : Store} {vars members : Document} {name : String} {e : Value}
  {result : Option Value}

/-! ## Setting a field -/

/-- A field that is missing is removed, but not what stands at the end of a path. -/
theorem getPath_setComputed (members : Document) (name : String) (result : Option Value) :
    (setComputed (.object members) (name, result)).getPath name =
      if result.isNone ∧ '.' ∈ name.toList then (Value.object members).getPath
          name else result := by
  cases result with
  | some v =>
    rw [if_neg (by simp)]
    exact getPath_setPath (.object members) name v
  | none =>
    change (Value.object (Document.erase members name)).getPath name = _
    by_cases hpoint : '.' ∈ name.toList
    · rw [if_pos ⟨rfl, hpoint⟩, getPath_erase hpoint]
    · rw [if_neg fun h => hpoint h.2, getPath_of_plain hpoint, Document.value?_erase_self]

theorem addComputed_single (hresult : e.eval ⟨.object members, vars⟩ = .ok result) :
    addComputed [(name, e)] vars (.object members) = .ok (setComputed (.object members) (name,
        result)) := by
  simp only [addComputed, computed, hresult]
  rfl

/-! ## Projecting to a field -/

/-- What a projection shows a field of: the value at its path if it is a flag, else the value of
its expression. -/
def projectedResult (scope : Scope) (name : String) (e : Value) : Evaluation :=
  if isFlag e then .ok (scope.root.getPath name) else e.eval scope

/-- The identity that a projection starts with. -/
def identityOf (members : Document) : Document :=
  match Document.value? members "_id" with
  | some id => [("_id", id)]
  | none => []

theorem isExclusion_single (hid : name ≠ "_id") (hflag : isFlag e = true → e.isTruthy = true) :
    isExclusion [(name, e)] = false := by
  cases hf : isFlag e <;> simp_all [isExclusion]

theorem projection_single (hid : name ≠ "_id") (hflag : isFlag e = true → e.isTruthy = true)
    (hresult : projectedResult ⟨.object members, vars⟩ name e = .ok result) :
    projection [(name, e)] vars (.object members) =
      .ok (.object (result.elim (identityOf members)
          (Document.insert (identityOf members) name))) := by
  have hshown : (if isFlag e then .ok (if e.isTruthy then (Value.object members).getPath
    name else none)
      else e.eval ⟨.object members, vars⟩) = (.ok result : Evaluation) := by
    rw [← hresult, projectedResult]
    split
    · rename_i hf
      rw [hflag hf, if_pos rfl]
    · rfl
  have hhas : Document.has [(name, e)] "_id" = false := by simpa [Document.has] using hid
  simp only [projection, isExclusion_single hid hflag, hhas, Bool.false_eq_true, if_false,
    projected, hshown, field?_object]
  cases result <;> rfl

theorem value?_identityOf (members : Document) (key : String) :
    Document.value? (identityOf members) key =
      if key = "_id" then Document.value? members "_id" else none := by
  unfold identityOf
  cases Document.value? members "_id" with
  | some id => simp [Document.value?, eq_comm]
  | none => simp

/-- A projection shows nothing behind a point, but for the identity, which it keeps as it is. -/
theorem getPath_projected (hid : name ≠ "_id") (members : Document) (result : Option Value) :
    (Value.object (result.elim (identityOf members) (Document.insert (identityOf members)
      name))).getPath name =
      if '.' ∉ name.toList then result
      else if (pathNames name).head? = some "_id" then (Value.object members).getPath name
      else none := by
  by_cases hpoint : '.' ∈ name.toList
  · have hstart : (Value.object (result.elim (identityOf members)
      (Document.insert (identityOf members) name))).getPath name =
        (Value.object (identityOf members)).getPath name := by
      cases result with
      | none => rfl
      | some v => exact getPath_insert_of_point hpoint (identityOf members) v
    rw [hstart, if_neg (not_not_intro hpoint)]
    obtain ⟨front, rest, hfront, -, rfl⟩ := exists_front_of_point hpoint
    rw [getPath_front hfront, getPath_front hfront, pathNames_front hfront, value?_identityOf]
    by_cases hidentity : front = "_id"
    · simp [hidentity]
    · simp [hidentity]
  · rw [if_pos hpoint, getPath_of_plain hpoint]
    cases result with
    | none => exact (value?_identityOf members name).trans (if_neg hid)
    | some v => exact Document.value?_insert_self (identityOf members) name v

/-! ## Stages of one field -/

/-- What the path of a field shows behind a stage that computes just this field.  It is what the
field evaluates to, except in two cases.  A stage that sets a field at a path and finds it
missing leaves the path as it was.  And a projection to a field at a path shows nothing there,
or what was there if the path goes into the identity. -/
theorem field_stages_show (store : Store) (vars members : Document) {name : String}
    (hid : name ≠ "_id") (e : Value) :
    (∀ stage ∈ [Stage.set [(name, e)], Stage.addFields [(name, e)]], ∀ result,
        e.eval ⟨.object members, vars⟩ = .ok result →
        ∃ out, run store stage vars [.object members] = .ok [out] ∧
          out.getPath name =
            if result.isNone ∧ '.' ∈ name.toList then (Value.object members).getPath
              name else result) ∧
      ((isFlag e = true → e.isTruthy = true) → ∀ result, projectedResult ⟨.object members, vars⟩
        name e = .ok result → ∃ out, run store (.project [(name, e)]) vars [.object members] =
        .ok [out] ∧ out.getPath name =
            if '.' ∉ name.toList then result
            else if (pathNames name).head? = some "_id" then
              (Value.object members).getPath name
            else none) := by
  refine ⟨fun stage hstage result hresult => ?_, fun hflag result hresult => ?_⟩
  · refine ⟨_, ?_, getPath_setComputed members name result⟩
    have hrun : run store stage vars [.object members] =
        each (addComputed [(name, e)] vars) [.object members] := by
      rcases List.mem_pair.mp hstage with rfl | rfl <;> simp only [run]
    rw [hrun]
    simp only [each, addComputed_single hresult]
  · refine ⟨_, ?_, getPath_projected hid members result⟩
    simp only [run, each, projection_single hid hflag hresult]

/-- A field inside of a document stays when it is set to what is missing, and is not shown when
a flag asks for it. -/
theorem nestedField_stays :
    "a.b" ≠ "_id" ∧
      (∃ out, run .empty (.set [("a.b", .string "$x")]) []
        [.object [("a", .object [("b", .int 1)])]] = .ok [out] ∧
        out.getPath "a.b" = (Value.object [("a", .object [("b", .int 1)])]).getPath "a.b") ∧
      ∃ out, run .empty (.project [("a.b", .int 1)]) []
        [.object [("a", .object [("b", .int 1)])]] = .ok [out] ∧ out.getPath "a.b" = none := by
  have hid : "a.b" ≠ "_id" := by decide
  have hpoint : '.' ∈ "a.b".toList := by decide
  have hmissing : (Value.string "$x").eval ⟨.object [("a", .object [("b", .int 1)])], []⟩ =
    .ok none := by cbv
  have hnames : pathNames "a.b" = ["a", "b"] := by decide
  obtain ⟨hset, -⟩ := field_stages_show .empty [] [("a", .object [("b", .int 1)])] hid
    (.string "$x")
  obtain ⟨-, hproject⟩ := field_stages_show .empty [] [("a", .object [("b", .int 1)])] hid
    (.int 1)
  obtain ⟨out, hrun, hout⟩ := hset _ List.mem_cons_self none hmissing
  obtain ⟨shown, hshow, hshown⟩ := hproject (fun _ => by decide) _ rfl
  rw [if_pos ⟨rfl, hpoint⟩] at hout
  rw [if_neg (not_not_intro hpoint), hnames, if_neg (by decide)] at hshown
  exact ⟨hid, ⟨out, hrun, hout⟩, shown, hshow, hshown⟩

end Stage

end DocQuery
