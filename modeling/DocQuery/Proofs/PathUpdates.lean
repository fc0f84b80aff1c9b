import DocQuery.Proofs.Rows
set_option autoImplicit false

/-!
# Proofs: reading and setting paths

What is set at a path is read there and replaces what was set there before.  Elsewhere nothing
changes:  a path that parts from the one that is set reads what it read before, as long as the
two lead through objects up to where they part.
-/

namespace DocQuery.Value

/-! ## Paths that part -/

/-- Whether two paths have different names at some place that both of them have. -/
def Part (p q : List String) : Prop :=
    ∃ (i : Nat) (a b : String), p[i]? = some a ∧ q[i]? = some b ∧ a ≠ b

/-- Whether a document is an object, and so is all that it holds behind names that both paths
start with. -/
def ObjectsAbove (d : Value) (p q : List String) : Prop :=
  ∀ names, names <+: p → names <+: q → ∀ u, d.walk names = some u → ∃ fields, u = .object fields

variable {a b : String} {p q : List String} {d v : Value} {fields : Document}

theorem not_part_nil_left : ¬ Part [] q := by
  rintro ⟨i, a, b, ha, -, -⟩
  simp at ha

theorem not_part_nil_right : ¬ Part p [] := by
  rintro ⟨i, a, b, -, hb, -⟩
  simp at hb

/-- Paths that start with the same name part behind it. -/
theorem part_cons_iff : Part (a :: p) (a :: q) ↔ Part p q := by
  constructor
  · rintro ⟨i, b, c, hb, hc, hne⟩
    cases i with
    | zero => exact absurd ((Option.some.inj hb).symm.trans (Option.some.inj hc)) hne
    | succ i => exact ⟨i, b, c, hb, hc, hne⟩
  · rintro ⟨i, b, c, hb, hc, hne⟩
    exact ⟨i + 1, b, c, hb, hc, hne⟩

theorem ObjectsAbove.exists_fields (h : ObjectsAbove d p q) : ∃ fields, d = .object fields :=
  h [] List.nil_prefix List.nil_prefix d (walk_nil d)

theorem ObjectsAbove.member (h : ObjectsAbove (.object fields) (a :: p) (a :: q))
    (hv : Document.value? fields a = some v) : ObjectsAbove v p q := by
  intro names hp hq u hu
  refine h (a :: names) ((List.prefix_cons_inj a).mpr hp) ((List.prefix_cons_inj a).mpr hq) u ?_
  rw [walk, walkField_eq, hv]
  exact hu

theorem walk_empty (a : String) (q : List String) : walk (.object []) (a :: q) = none := by
  rw [walk, walkField]

theorem objectsAbove_empty (p q : List String) : ObjectsAbove (.object []) p q := by
  intro names _ _ u hu
  cases names with
  | nil => exact ⟨[], (Option.some.inj (walk_nil (.object []) ▸ hu)).symm⟩
  | cons a names => simp [walk_empty] at hu

/-! ## What setting a path leaves alone -/

/-- A path is set in what is there, or in an empty document. -/
theorem setNames_null (hp : p ≠ []) (v : Value) :
    setNames .null p v = setNames (.object []) p v := by
  match p with
  | [] => exact absurd rfl hp
  | [_] => rfl
  | _ :: _ :: _ => rfl

theorem value?_setNames_ne (hne : a ≠ b) (d : Value) (p : List String) (v : Value) :
    ∃ fields, setNames d (a :: p) v = .object fields ∧
      Document.value? fields b = Document.value? d.fieldsOrEmpty b := by
  cases p with
  | nil => exact ⟨_, rfl, Document.value?_insert_ne _ _ hne⟩
  | cons next p =>
    exact ⟨_, rfl, (Document.value?_insert_ne _ _ hne).trans (Document.value?_erase_ne _ hne)⟩

/-- By induction along both paths: up to where they part the one is read from what the other one
was set in. -/
theorem walk_setNames_of_part (hpart : Part p q) (h : ObjectsAbove d p q) (v : Value) :
    walk (setNames d p v) q = walk d q := by
  induction p generalizing q d with
  | nil => exact absurd hpart not_part_nil_left
  | cons a p ih =>
    obtain ⟨fields, rfl⟩ := h.exists_fields
    cases q with
    | nil => exact absurd hpart not_part_nil_right
    | cons b q =>
      by_cases hab : a = b
      · subst hab
        have hrest := part_cons_iff.mp hpart
        cases p with
        | nil => exact absurd hrest not_part_nil_left
        | cons next p =>
          rw [setNames, walk, walk, walkField_eq, walkField_eq, Document.value?_insert_self,
            Option.bind_some, fieldsOrEmpty]
          cases hchild : Document.value? fields a with
          | some child => exact ih hrest (h.member hchild)
          | none =>
            rw [Option.getD_none, setNames_null (List.cons_ne_nil next p),
              ih hrest (objectsAbove_empty _ _)]
            cases q with
            | nil => exact absurd hrest not_part_nil_right
            | cons c q => exact walk_empty c q
      · obtain ⟨others, hset, hvalue⟩ := value?_setNames_ne hab (.object fields) p v
        rw [hset, walk, walk, walkField_eq, walkField_eq, hvalue, fieldsOrEmpty]

/-- Paths are set and read like the fields of a record, also empty names, names that are not
there, and values on the way that are no objects.  What is set at a path is read there; of two
values that are set at a path the second one counts, and the members are in the same order as if
only it had been set; and a path that parts from the one that is set reads the same as before,
if there are only objects up to where they part. -/
theorem setPath_laws (d v w : Value) (p : String) :
    (d.setPath p v).getPath p = some v ∧
      (d.setPath p v).setPath p w = d.setPath p w ∧
      ∀ q, Part (pathNames p) (pathNames q) → ObjectsAbove d (pathNames p) (pathNames q) →
        (d.setPath p v).getPath q = d.getPath q :=
  ⟨getPath_setPath d p v, setPath_setPath d p v w, fun _ hpart h =>
    walk_setNames_of_part hpart h v⟩

/-- A path is set inside of a member that another path goes through as well. -/
theorem setPath_laws_shared :
    Part (pathNames "a.b") (pathNames "a.c.x") ∧
      ObjectsAbove (.object [("a", .object [("c", .array [.object [("x", .int 2)]])])])
        (pathNames "a.b") (pathNames "a.c.x") ∧
      ((Value.object [("a", .object [("c", .array [.object [("x", .int 2)]])])]).setPath "a.b"
        .null).getPath "a.c.x" =
        (Value.object [("a", .object [("c", .array [.object [("x", .int 2)]])])]).getPath
        "a.c.x" := by
  have hp : pathNames "a.b" = ["a", "b"] := by decide
  have hq : pathNames "a.c.x" = ["a", "c", "x"] := by decide
  have hpart : Part (pathNames "a.b") (pathNames "a.c.x") :=
    ⟨1, "b", "c", by simp [hp], by simp [hq], by decide⟩
  have habove : ObjectsAbove
    (.object [("a", .object [("c", .array [.object [("x", .int 2)]])])])
      (pathNames "a.b") (pathNames "a.c.x") := by
    rw [hp, hq]
    intro names hb hc u hu
    rcases names with _ | ⟨a, _ | ⟨b, names⟩⟩
    · exact ⟨_, (Option.some.inj (walk_nil (.object _) ▸ hu)).symm⟩
    · obtain rfl : a = "a" := by simpa using hb
      simp only [walk, walkField, if_true, Option.some.injEq] at hu
      exact ⟨_, hu.symm⟩
    · simp at hb hc
      exact absurd (hb.2.1.symm.trans hc.2.1) (by decide)
  exact ⟨hpart, habove, (setPath_laws _ .null .null "a.b").2.2 "a.c.x" hpart habove⟩

end DocQuery.Value
