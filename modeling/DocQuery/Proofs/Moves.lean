import DocQuery.Proofs.ClosedPaths
import DocQuery.Proofs.Routes
import Mathlib.Data.List.Induction
set_option autoImplicit false

/-!
# Proofs: how a path goes on behind a value

What the names of a path add to an access can be told apart from the access itself.  It depends
on nothing but the type of the value, so the same names lead the same way behind every other
value of that type.
-/

namespace DocQuery

/-- What one name of a path adds to an access. -/
inductive Move where
  | key (name : String) (type : ValueType)
  | jsonKey (name : String) (type : ValueType)
  | index (position : Int64) (type : ValueType)
  | slice (start stop : Int64) (type : ValueType)
  | length (type : ValueType)
  | each (inner : Access)

namespace Move

/-- Whether a move leads to a field of an embedded document. -/
def isKey : Move → Bool
  | .key _ _ => true
  | _ => false

/-- Whether a move leads to a field or a member, which a null has as well. -/
def isMember : Move → Bool
  | .key _ _ => true
  | .jsonKey _ _ => true
  | _ => false

/-- The type of what a move leads to. -/
def type : Move → ValueType
  | .key _ t => t
  | .jsonKey _ t => t
  | .index _ t => t
  | .slice _ _ t => t
  | .length t => t
  | .each inner => .mapped inner.type

end Move

namespace Access

variable {base other : Access}

/-- An access that goes on by one move. -/
def go (base : Access) : Move → Access
  | .key name type => .key base name type
  | .jsonKey name type => .jsonKey base name type
  | .index position type => .index base position type
  | .slice start stop type => .slice base start stop type
  | .length type => .length base type
  | .each inner => .each base inner

/-- An access that goes on by some moves. -/
def along (base : Access) (moves : List Move) : Access := moves.foldl go base

@[simp] theorem along_nil (base : Access) : base.along [] = base := rfl

@[simp] theorem along_cons (base : Access) (move : Move) (moves : List Move) :
    base.along (move :: moves) = (base.go move).along moves := rfl

theorem along_append (base : Access) (moves more : List Move) :
    base.along (moves ++ more) = (base.along moves).along more :=
  List.foldl_append

theorem along_concat (base : Access) (moves : List Move) (move : Move) :
    base.along (moves ++ [move]) = (base.along moves).go move := along_append base moves [move]

/-- An access grows with every move. -/
theorem sizeOf_lt_along (base : Access) {moves : List Move} (hne : moves ≠ []) :
    sizeOf base < sizeOf (base.along moves) := by
  induction moves using List.reverseRecOn with
  | nil => exact absurd rfl hne
  | append_singleton moves move ih =>
    have hgo : sizeOf (base.along moves) < sizeOf ((base.along moves).go move) := by
      cases move <;> simp only [go, key.sizeOf_spec, jsonKey.sizeOf_spec, index.sizeOf_spec,
        slice.sizeOf_spec, length.sizeOf_spec, each.sizeOf_spec] <;> omega
    rw [along_concat]
    by_cases hmoves : moves = []
    · subst hmoves
      exact hgo
    · exact (ih hmoves).trans hgo

/-- The moves from one access to another are the only ones. -/
theorem along_injective (base : Access) : Function.Injective base.along := by
  intro moves others h
  induction moves using List.reverseRecOn generalizing others with
  | nil =>
    by_contra hne
    have hlt := sizeOf_lt_along base (Ne.symm hne)
    rw [← h] at hlt
    exact Nat.lt_irrefl _ hlt
  | append_singleton moves move ih =>
    induction others using List.reverseRecOn with
    | nil =>
      have hlt : sizeOf base < sizeOf (base.along (moves ++ [move])) :=
        sizeOf_lt_along base (by simp)
      rw [h] at hlt
      exact absurd hlt (Nat.lt_irrefl _)
    | append_singleton others other =>
      rw [along_concat, along_concat] at h
      have hboth : base.along moves = base.along others ∧ move = other := by
        cases move <;> cases other <;> simp_all [go]
      rw [ih hboth.1, hboth.2]

@[simp] theorem type_go (base : Access) (move : Move) : (base.go move).type = move.type := by
  cases move <;> rfl

theorem type_along (base other : Access) (htype : other.type = base.type) (moves : List Move) :
    (other.along moves).type = (base.along moves).type := by
  induction moves using List.reverseRecOn with
  | nil => exact htype
  | append_singleton moves move => simp only [along_concat, type_go]

/-- Behind a value that is read in one piece, items are read one by one only by the last
move. -/
theorem exists_of_along_eq_each (hflat : base.type.isMapped = false) {moves : List Move}
    {array inner : Access}
    (h : base.along moves = .each array inner) :
        ∃ front, moves = front ++ [.each inner] ∧ array = base.along front := by
  induction moves using List.reverseRecOn with
  | nil =>
    rw [along_nil] at h
    rw [h] at hflat
    simp [type, ValueType.isMapped] at hflat
  | append_singleton front move =>
    rw [along_concat] at h
    cases move <;> simp only [go, reduceCtorEq, each.injEq] at h
    obtain ⟨rfl, rfl⟩ := h
    exact ⟨front, rfl, rfl⟩

end Access

namespace Compiler

variable {c : Compiler} {path : String} {base a : Access} {name : String} {last : Bool}

/-! ## One name -/

/-- Where a name leads, seen from what is before it. -/
def landing (a : Access) : Move ⊕ Lookup → Landing
  | .inl move => .access (a.go move)
  | .inr l => .lookup l

section Outcomes

variable {m : Model} {model : String}

theorem exists_lookupOr (name : String) (last : Bool) (e : CompileError) :
    ∃ o : Except CompileError (Move ⊕ Lookup), ∀ a,
        lookupOr name last e = o.map (landing a) := by
  unfold lookupOr
  split
  · rename_i l _
    exact ⟨.ok (.inr l), fun _ => rfl⟩
  · exact ⟨.error e, fun _ => rfl⟩

theorem exists_keyStep (m : Model) (f : Field) :
    ∃ o : Except CompileError (Move ⊕ Lookup), ∀ a, keyStep a m f = o.map (landing a) := by
  unfold keyStep
  split
  · exact ⟨.error _, fun _ => rfl⟩
  · exact ⟨.ok (.inl (.key f.column (.ofField f.kind))), fun _ => rfl⟩

theorem exists_documentStep (m : Model) (name : String) (last : Bool) (e : CompileError) :
    ∃ o : Except CompileError (Move ⊕ Lookup), ∀ a,
        documentStep a m name last e = o.map (landing a) := by
  unfold documentStep
  split
  · exact exists_keyStep m _
  · exact exists_lookupOr name last e

theorem exists_memberStep (type : ValueType) (name : String) (last : Bool) :
    ∃ o : Move ⊕ Lookup, ∀ a, memberStep a type name last = landing a o := by
  unfold memberStep
  dsimp only
  split
  · split
    · rename_i l _ _
      exact ⟨.inr l, fun _ => rfl⟩
    · exact ⟨.inl (.jsonKey name (.scalar .json)), fun _ => rfl⟩
  · exact ⟨.inl (.jsonKey name (.scalar .json)), fun _ => rfl⟩

theorem exists_arrayStep (model name : String) :
    ∃ o : Except CompileError (Option Move), ∀ a,
        arrayStep a model name = o.map (Option.map a.go) := by
  unfold arrayStep
  split
  · exact ⟨.ok (some (.length _)), fun _ => rfl⟩
  · split
    · exact ⟨.ok (some (.index _ _)), fun _ => rfl⟩
    · split
      · split
        · exact ⟨.ok (some (.slice _ _ _)), fun _ => rfl⟩
        · exact ⟨.error _, fun _ => rfl⟩
      · exact ⟨.ok none, fun _ => rfl⟩

theorem exists_itemStep (m : Model) (model name : String) :
    ∃ o : Except CompileError (Move ⊕ Lookup), ∀ a,
        itemStep a m model name = o.map (landing a) := by
  unfold itemStep
  split
  · rename_i f _
    obtain ⟨o, ho⟩ := exists_keyStep m f
    rw [ho]
    rcases o with e | (move | l)
    · exact ⟨.error e, fun _ => rfl⟩
    · exact ⟨.ok (.inl (.each ((Access.item (.embedded model)).go move))), fun _ => rfl⟩
    · exact ⟨.ok (.inr l), fun _ => rfl⟩
  · split
    · exact ⟨.error _, fun _ => rfl⟩
    · exact ⟨.error _, fun _ => rfl⟩

end Outcomes

/-- A name leads the same way behind all values of a type that are read in one piece. -/
theorem exists_step (c : Compiler) {t : ValueType} (hflat : t.isMapped = false) (name : String)
    (last : Bool) :
    ∃ o : Except CompileError (Move ⊕ Lookup), ∀ a,
        a.type = t → c.step a name last = o.map (landing a) := by
  cases t with
  | mapped element => simp [ValueType.isMapped] at hflat
  | embedded model =>
    cases hm : c.modelOf model with
    | error e => exact ⟨.error e, fun a ha => by simp only [step, ha, hm]; rfl⟩
    | ok m =>
      obtain ⟨o, ho⟩ := exists_documentStep m name last (.fieldDoesNotExist m.name name)
      exact ⟨o, fun a ha => by simp only [step, ha, hm, ho a]⟩
  | embeddedArray model =>
    obtain ⟨found, hfound⟩ := exists_arrayStep model name
    rcases found with e | (_ | move)
    · exact ⟨.error e, fun a ha => by simp only [step, ha, hfound a]; rfl⟩
    · cases hm : c.modelOf model with
      | error e => exact ⟨.error e, fun a ha => by simp only [step, ha, hfound a, hm]; rfl⟩
      | ok m =>
        obtain ⟨o, ho⟩ := exists_itemStep m model name
        exact ⟨o, fun a ha => by simp only [step, ha, hfound a, hm, ho a]; rfl⟩
    · exact ⟨.ok (.inl move), fun a ha => by simp only [step, ha, hfound a]; rfl⟩
  | scalar kind =>
    by_cases hjson : kind = .json
    · subst hjson
      obtain ⟨o, ho⟩ := exists_memberStep (.scalar .json) name last
      exact ⟨.ok o, fun a ha => by simp only [step, ha, ho a]; rfl⟩
    · by_cases hlength : name = lengthName
      · exact ⟨.error (c.unsupported name (.scalar kind)), fun a ha => by
          cases kind <;> simp_all [step, Except.map]⟩
      · obtain ⟨o, ho⟩ := exists_lookupOr name last (c.unsupported name (.scalar kind))
        exact ⟨o, fun a ha => by rw [← ho a]; cases kind <;> simp_all [step]⟩

/-- A name behind moves adds a move, or leads on from each of the items that are read one by
one. -/
theorem step_along_ok (hflat : base.type.isMapped = false) {moves : List Move}
    {target : Landing} (h : c.step (base.along moves) name last = .ok target) :
    (∃ l, target = .lookup l ∧
        ∀ other : Access, other.type = base.type → c.step (other.along moves) name last =
          .ok (.lookup l)) ∨
      ∃ moves', target = .access (base.along moves') ∧ ∀ other : Access,
        other.type = base.type → c.step (other.along moves) name last =
        .ok (.access (other.along moves')) := by
  cases hmapped : (base.along moves).type.isMapped with
  | false =>
    -- the type alone decides, and it is that of the last move
    obtain ⟨o, ho⟩ := exists_step c hmapped name last
    rw [ho _ rfl] at h
    have hother := fun (other : Access) htype => ho (other.along moves) (Access.type_along base
      other htype moves)
    rcases o with e | (move | l)
    · simp [Except.map] at h
    · obtain rfl := Except.ok.inj h
      exact .inr ⟨moves ++ [move], by rw [Access.along_concat]; rfl,
        fun other htype => by rw [hother other htype, Access.along_concat]; rfl⟩
    · obtain rfl := Except.ok.inj h
      exact .inl ⟨l, rfl, hother⟩
  | true =>
    obtain ⟨element, helement⟩ : ∃ element, (base.along moves).type = .mapped element := by
      cases hkind : (base.along moves).type <;> simp_all [ValueType.isMapped]
    cases hbase : base.along moves with
    | each array inner =>
      -- the last move reads items one by one, and the name leads on inside of it
      obtain ⟨front, rfl, rfl⟩ := Access.exists_of_along_eq_each hflat hbase
      rw [hbase] at h helement
      simp only [Access.along_concat, step, Access.go, Access.type] at h ⊢
      cases hinside : c.elementStep inner (.mapped inner.type) name last with
      | error e => simp [hinside] at h
      | ok found =>
        simp only [hinside, Except.ok.injEq] at h ⊢
        cases found with
        | access next =>
          exact .inr ⟨front ++ [.each next], by rw [← h, Access.along_concat]; rfl,
            fun other _ => by rw [Access.along_concat]; rfl⟩
        | lookup l => exact .inl ⟨l, h.symm, fun _ _ => rfl⟩
    | _ =>
      rw [hbase] at h helement
      simp only [step, helement] at h
      simp at h

section Within

variable {m : Model} {type : ValueType} {b : Access}

theorem documentStep_within {e : CompileError}
    (h : documentStep a m name true e = .ok (.access b)) :
    documentStep a m name false e = .ok (.access b) := by
  unfold documentStep at h ⊢
  split at h
  · exact h
  · exact absurd h lookupOr_ne_access

theorem memberStep_within (h : memberStep a type name true = .access b) :
    memberStep a type name false = .access b := by
  unfold memberStep at h
  dsimp only at h
  split at h
  · split at h
    · cases h
    · exact h
  · exact h

theorem elementStep_within (h : c.elementStep a type name true = .ok (.access b)) :
    c.elementStep a type name false = .ok (.access b) := by
  unfold elementStep at h ⊢
  split at h
  · split at h
    · cases h
    · exact h
    · split at h
      · cases h
      · split at h
        · exact h
        · exact absurd h lookupOr_ne_access
  · split at h
    · cases h
    · exact documentStep_within h
  · exact congrArg _ (memberStep_within (Except.ok.inj h))
  · exact absurd h lookupOr_ne_access

/-- A name at the end of a path that leads on to a value does so within a longer path. -/
theorem step_within (h : c.step a name true = .ok (.access b)) :
    c.step a name false = .ok (.access b) := by
  unfold step at h ⊢
  split at h
  · split at h
    · cases h
    · exact documentStep_within h
  · split at h
    · cases h
    · exact h
    · split at h
      · cases h
      · exact h
  · rename_i element _
    cases a with
    | each array inner =>
      cases hinside : c.elementStep inner (.mapped element) name true with
      | error e => simp [hinside] at h
      | ok found =>
        simp only [hinside, Except.ok.injEq] at h
        cases found with
        | access next =>
          simp only [elementStep_within hinside]
          exact congrArg _ h
        | lookup l => cases h
    | _ => cases h
  · exact congrArg _ (memberStep_within (Except.ok.inj h))
  · split at h
    · cases h
    · exact absurd h lookupOr_ne_access

end Within

/-! ## Items -/

section Items

variable {b : Access}

theorem isMapped_of_documentStep {m : Model} {e : CompileError}
    (h : documentStep a m name last e = .ok (.access b)) : b.type.isMapped = false := by
  unfold documentStep at h
  split at h
  · obtain rfl := Landing.access.inj (keyStep_ok h)
    exact isMapped_ofField _
  · exact absurd h lookupOr_ne_access

theorem isMapped_of_arrayStep {model : String} (h : arrayStep a model name = .ok (some b)) :
    b.type.isMapped = false := by
  unfold arrayStep at h
  split at h
  · obtain rfl := Option.some.inj (Except.ok.inj h)
    rfl
  · split at h
    · obtain rfl := Option.some.inj (Except.ok.inj h)
      rfl
    · split at h
      · split at h
        · obtain rfl := Option.some.inj (Except.ok.inj h)
          rfl
        · cases h
      · cases h

/-- What is read item by item is written as such. -/
theorem exists_each_of_step (h : c.step a name last = .ok (.access b))
    (hmapped : b.type.isMapped = true) : ∃ array inner, b = .each array inner := by
  have hflat : b.type.isMapped = false → ∃ array inner, b = .each array inner :=
      fun hfalse => by
    simp [hfalse] at hmapped
  unfold step at h
  split at h
  · split at h
    · cases h
    · exact hflat (isMapped_of_documentStep h)
  · split at h
    · cases h
    · rename_i next hnext
      obtain rfl := Landing.access.inj (Except.ok.inj h)
      exact hflat (isMapped_of_arrayStep hnext)
    · split at h
      · cases h
      · obtain ⟨f, -, hland⟩ := itemStep_ok h
        obtain rfl := Landing.access.inj hland
        exact ⟨_, _, rfl⟩
  · split at h
    · split at h
      · cases h
      · obtain ⟨inner, -, rfl⟩ := insideEach_eq_access (Except.ok.inj h)
        exact ⟨_, _, rfl⟩
    · cases h
  · have hmember : memberStep a (.scalar .json) name last = .access b := Except.ok.inj h
    obtain rfl : b = .jsonKey a name (.scalar .json) := by grind [memberStep]
    exact hflat rfl
  · split at h
    · cases h
    · exact absurd h lookupOr_ne_access

theorem exists_each_of_follow {names : List String} {joins : List Nat}
    {ctx ctx' : Context} {e : Ending}
    (ha : a.type.isMapped = true → ∃ array inner, a = .each array inner)
    (h : c.follow path (.value a) names joins ctx = (.ok e, ctx'))
    (hmapped : e.target.type.isMapped = true) :
    ∃ array inner, e.target = .each array inner := by
  induction names generalizing a with
  | nil =>
    obtain ⟨rfl, -⟩ := follow_value_nil_ok h
    exact ha hmapped
  | cons name rest ih =>
    rcases follow_value_cons_ok h with ⟨next, hstep, hnext⟩ | ⟨l, -, rfl, -⟩
    · exact ih (exists_each_of_step hstep) hnext
    · exact ha hmapped

/-- So is what a path leads to from a document. -/
theorem exists_each_of_follow_document {m : Model} {joined : Option String} {relation : String}
    {names : List String} {joins : List Nat} {ctx ctx' : Context} {e : Ending}
    (h : c.follow path (.document m joined relation) names joins ctx = (.ok e, ctx'))
    (hmapped : e.target.type.isMapped = true) :
        ∃ array inner, e.target = .each array inner := by
  induction names generalizing m joined relation joins ctx with
  | nil => simp [follow] at h
  | cons name rest ih =>
    obtain ⟨_, _, f, hnames, -, hcase⟩ := follow_document_ok h
    obtain ⟨rfl, rfl⟩ := List.cons.inj hnames
    rcases hcase with ⟨-, hcolumn⟩ | ⟨_, _, _, target, k, -, -, -, -, hjoin⟩
    · have hflat : (Access.column joined f.column (.ofField f.kind)).type.isMapped = false :=
        isMapped_ofField f.kind
      exact exists_each_of_follow (fun hstart => by rw [hflat] at hstart; cases hstart)
        hcolumn hmapped
    · exact ih hjoin

end Items

/-! ## Names -/

/-- Names lead the same way behind all values of a type that are read in one piece. -/
theorem follow_along_ok (hflat : base.type.isMapped = false) {moves : List Move}
    {names : List String} {joins : List Nat} {ctx ctx' : Context} {e : Ending}
    (h : c.follow path (.value (base.along moves)) names joins ctx = (.ok e, ctx')) :
    ∃ moves', e = ⟨base.along moves', e.lookup?, joins⟩ ∧
      ∀ other : Access, other.type = base.type →
        ∀ (text : String) (others : List Nat) (after : Context),
        c.follow text (.value (other.along moves)) names others after =
          (.ok ⟨other.along moves', e.lookup?, others⟩, after) := by
  induction names generalizing moves with
  | nil =>
    obtain ⟨rfl, -⟩ := follow_value_nil_ok h
    exact ⟨moves, rfl, fun _ _ _ _ _ => rfl⟩
  | cons name rest ih =>
    rcases follow_value_cons_ok h with ⟨next, hstep, hnext⟩ | ⟨l, hstep, rfl, -⟩
    · rcases step_along_ok hflat hstep with ⟨l, hl, -⟩ | ⟨moves', hmoves, hother⟩
      · cases hl
      · obtain rfl := Landing.access.inj hmoves
        obtain ⟨final, he, hall⟩ := ih hnext
        exact ⟨final, he, fun other htype text others after => by
          simp only [follow, hother other htype, hall other htype]⟩
    · rcases step_along_ok hflat hstep with ⟨l', hl, hother⟩ | ⟨moves', hmoves, -⟩
      · obtain rfl := Landing.lookup.inj hl
        exact ⟨moves, rfl, fun other htype text others after => by
          simp only [follow, hother other htype]⟩
      · cases hmoves

/-- A path that leads to a value goes on from there. -/
theorem follow_append_ok {names : List String} {joins : List Nat} {ctx ctx' : Context}
    {b : Access} {found : List Nat}
    (h : c.follow path (.value a) names joins ctx = (.ok ⟨b, none, found⟩, ctx'))
    (rest : List String) (text : String) :
    c.follow text (.value a) (names ++ rest) joins ctx =
        c.follow text (.value b) rest joins ctx := by
  induction names generalizing a with
  | nil =>
    obtain ⟨hend, -⟩ := follow_value_nil_ok h
    obtain ⟨rfl, -, -⟩ := Ending.mk.inj hend
    rfl
  | cons name names ih =>
    rcases follow_value_cons_ok h with ⟨next, hstep, hnext⟩ | ⟨l, -, hend, -⟩
    · -- the last name of the path is the last one no more
      have hlonger : c.step a name (names ++ rest).isEmpty = .ok (.access next) := by
        cases names with
        | nil =>
          cases rest with
          | nil => exact hstep
          | cons => exact step_within hstep
        | cons => exact hstep
      simp only [List.cons_append, follow, hlonger]
      exact ih hnext
    · simp at hend

end Compiler

end DocQuery
