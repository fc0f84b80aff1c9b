import DocQuery.Proofs.Inversion
set_option autoImplicit false

/-!
# Proofs: the same names behind other documents

A path that is behind a value goes on in the same way, whatever document the value is read from:
the one of the query or one that was joined.
-/

namespace DocQuery

namespace Access

/-- The access that reads the same from the document joined as an alias, or from that of the
query itself. -/
def under (joined : Option String) : Access → Access
  | .column _ name type => .column joined name type
  | .item type => .item type
  | .computed name type => .computed name type
  | .key base name type => .key (base.under joined) name type
  | .jsonKey base name type => .jsonKey (base.under joined) name type
  | .index base position type => .index (base.under joined) position type
  | .slice base start stop type => .slice (base.under joined) start stop type
  | .length base type => .length (base.under joined) type
  | .each base inner => .each (base.under joined) (inner.under joined)

@[simp] theorem type_under (joined : Option String) (a : Access) :
    (a.under joined).type = a.type := by
  induction a with
  | each base inner _ ih => simp [under, type, ih]
  | _ => rfl

end Access

/-- The same landing for the access that reads from another document. -/
def Landing.under (joined : Option String) : Landing → Landing
  | .access a => .access (a.under joined)
  | .lookup l => .lookup l

namespace Compiler

variable {c : Compiler} (joined : Option String)

theorem under_insideEach (array : Access) (landing : Landing) :
    (landing.insideEach array).under joined =
        (landing.under joined).insideEach (array.under joined) := by
  cases landing <;> rfl

theorem keyStep_under (base : Access) (m : Model) (f : Field) :
    keyStep (base.under joined) m f = (keyStep base m f).map (Landing.under joined) := by
  unfold keyStep
  split <;> rfl

theorem lookupOr_under (name : String) (last : Bool) (e : CompileError) :
    (lookupOr name last e).map (Landing.under joined) = lookupOr name last e := by
  unfold lookupOr
  split <;> rfl

theorem memberStep_under (base : Access) (type : ValueType) (name : String) (last : Bool) :
    memberStep (base.under joined) type name last =
        (memberStep base type name last).under joined := by
  unfold memberStep
  dsimp only
  split
  · split <;> rfl
  · rfl

theorem arrayStep_under (array : Access) (model name : String) :
    arrayStep (array.under joined) model name =
      (arrayStep array model name).map (Option.map (Access.under joined)) := by
  unfold arrayStep
  split
  · rfl
  · split
    · rfl
    · split
      · split <;> rfl
      · rfl

theorem documentStep_under (base : Access) (m : Model) (name : String) (last : Bool)
    (e : CompileError) : documentStep (base.under joined) m name last e =
      (documentStep base m name last e).map (Landing.under joined) := by
  unfold documentStep
  split
  · exact keyStep_under joined base m _
  · exact (lookupOr_under joined name last e).symm

theorem itemStep_under (array : Access) (m : Model) (model name : String) :
    itemStep (array.under joined) m model name =
        (itemStep array m model name).map (Landing.under joined) := by
  unfold itemStep
  split
  · rename_i f _
    have hkey := keyStep_under joined (.item (.embedded model)) m f
    rw [show (Access.item (.embedded model)).under joined = .item (.embedded model)
      from rfl] at hkey
    cases hstep : keyStep (.item (.embedded model)) m f with
    | error e => rfl
    | ok landing =>
      rw [hstep] at hkey
      have hsame : landing = landing.under joined := Except.ok.inj hkey
      simp only [Except.map, under_insideEach, ← hsame]
  · split <;> rfl

theorem elementStep_under (inner : Access) (mapped : ValueType) (name : String) (last : Bool) :
    c.elementStep (inner.under joined) mapped name last =
      (c.elementStep inner mapped name last).map (Landing.under joined) := by
  unfold elementStep
  rw [Access.type_under]
  split
  · rename_i model _
    rw [arrayStep_under]
    rcases arrayStep inner model name with e | (_ | a)
    · rfl
    · simp only [Except.map, Option.map]
      split
      · rfl
      · split
        · rfl
        · exact (lookupOr_under joined name last _).symm
    · rfl
  · split
    · rfl
    · exact documentStep_under joined inner _ name last _
  · rw [memberStep_under]
    rfl
  · exact (lookupOr_under joined name last _).symm

theorem step_under (a : Access) (name : String) (last : Bool) :
    c.step (a.under joined) name last = (c.step a name last).map (Landing.under joined) := by
  unfold step
  rw [Access.type_under]
  split
  · split
    · rfl
    · exact documentStep_under joined a _ name last _
  · rename_i model _
    rw [arrayStep_under]
    rcases arrayStep a model name with e | (_ | b)
    · rfl
    · simp only [Except.map, Option.map]
      split
      · rfl
      · exact itemStep_under joined a _ model name
    · rfl
  · rename_i element _
    cases a with
    | each array inner =>
      simp only [Access.under, elementStep_under]
      cases c.elementStep inner (.mapped element) name last with
      | error e => rfl
      | ok landing => simp only [Except.map, under_insideEach]
    | _ => rfl
  · rw [memberStep_under]
    rfl
  · split
    · rfl
    · exact (lookupOr_under joined name last _).symm

variable {joined}

/-- Behind a value, names lead to the same one of another document, and to the same lookup. -/
theorem follow_under {path : String} {a : Access} {names : List String} {joins : List Nat}
    {ctx ctx' : Context}
    {e : Ending} (h : c.follow path (.value a) names joins ctx = (.ok e, ctx'))
    (others : List Nat)
    (other : Context) :
    c.follow path (.value (a.under joined)) names others other =
      (.ok ⟨e.target.under joined, e.lookup?, others⟩, other) := by
  induction names generalizing a with
  | nil =>
    obtain ⟨rfl, -⟩ := follow_value_nil_ok h
    rfl
  | cons name rest ih =>
    rcases follow_value_cons_ok h with ⟨next, hstep, hnext⟩ | ⟨l, hstep, rfl, -⟩
    · simp only [follow, step_under, hstep, Except.map, Landing.under]
      exact ih hnext
    · simp only [follow, step_under, hstep, Except.map, Landing.under]

end Compiler

end DocQuery
