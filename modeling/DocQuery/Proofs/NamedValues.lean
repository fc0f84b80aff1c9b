import DocQuery.Proofs.ColumnReads
import DocQuery.Proofs.Moves
set_option autoImplicit false

/-!
# Proofs: what is read behind a value that has a name

A path may go on behind a value where the value stands, or behind a computed column that holds
it.  Both read the same, except that a field of null is null for the operator `$getField`, and
missing for a path.
-/

namespace DocQuery

open Operator (found truth)

/-- Whether a lookup with a value tells null from what is missing. -/
def Lookup.asksNull : Lookup → Value → Bool
  | .exact, v => v.isNull
  | .gte, v => v.isNull
  | .in, .array items => items.any Value.isNull
  | _, _ => false

/-- Lookups on arrays as a whole are for what is read item by item. -/
theorem Lookup.ne_all_of_allowed {type : ValueType} {l : Lookup} (hflat : type.isMapped = false)
    (h : (allowed type).contains l = true) : l ≠ .all ∧ l ≠ .containedBy := by
  cases type with
  | mapped element => simp [ValueType.isMapped] at hflat
  | scalar kind => cases kind <;> constructor <;> rintro rfl <;> revert h <;> decide
  | embedded model => constructor <;> rintro rfl <;> simp [allowed, embedded] at h
  | embeddedArray model => simp [allowed] at h

namespace Value

/-- Null, or nothing at all. -/
def IsBlank (x : Evaluation) : Prop := ∃ v, x = .ok v ∧ present v = none

/-- Two expressions come to the same.  Null and nothing count as the same, unless they have to
be told apart. -/
def Coincide (exactly : Prop) (x y : Evaluation) : Prop :=
    x = y ∨ ¬exactly ∧ IsBlank x ∧ IsBlank y

theorem isBlank_none : IsBlank (.ok none) := ⟨none, rfl, rfl⟩

theorem isBlank_null : IsBlank (found .null) := ⟨_, rfl, rfl⟩

theorem IsBlank.cases {x : Evaluation} (h : IsBlank x) : x = .ok none ∨ x = found .null := by
  obtain ⟨v, rfl, hv⟩ := h
  rcases eq_none_or_null_of_present hv with rfl | rfl
  · exact .inl rfl
  · exact .inr rfl

theorem Coincide.mono {exactly strictly : Prop} {x y : Evaluation} (h : Coincide exactly x y)
    (himp : strictly → exactly) : Coincide strictly x y :=
  h.imp_right fun ⟨hnot, hx, hy⟩ => ⟨fun hs => hnot (himp hs), hx, hy⟩

theorem Coincide.trans {exactly : Prop} {x y z : Evaluation} (h : Coincide exactly x y)
    (h' : Coincide exactly y z) : Coincide exactly x z := by
  rcases h with rfl | ⟨hnot, hx, hy⟩
  · exact h'
  · rcases h' with rfl | ⟨-, -, hz⟩
    · exact .inr ⟨hnot, hx, hy⟩
    · exact .inr ⟨hnot, hx, hz⟩

/-! ## Lookups -/

section Lookups

variable {s s' : Scope} {a a' b b' u : Value} {es es' : List Value}

theorem eval_binary_congr (op : Operator) (ha : eval a s = eval a' s')
    (hb : eval b s = eval b' s') :
    eval (binary op.name a b) s = eval (binary op.name a' b') s' := by
  rw [binary, binary, eval_operator_array, eval_operator_array]
  simp only [evalItems, ha, hb]

theorem eval_junction_congr (settles : Bool)
    (h : List.Forall₂ (fun e e' => eval e s = eval e' s') es es') :
    eval (junction settles es) s = eval (junction settles es') s' := by
  rw [eval_junction, eval_junction]
  induction h with
  | nil => rfl
  | cons he _ ih => simp only [evalUntil, he, ih]

theorem eval_subsetCheck_congr
    {mapped mapped' values values' subset subset' superset superset' : Value}
    (hmapped : eval mapped s = eval mapped' s') (hvalues : eval values s = eval values' s')
    (hsubset : eval subset s = eval subset' s')
    (hsuperset : eval superset s = eval superset' s') :
    eval (subsetCheck mapped values subset superset) s =
        eval (subsetCheck mapped' values' subset' superset') s' := by
  have hnull : eval (.null : Value) s = eval .null s' := by simp only [eval]
  exact eval_junction_congr false (.cons (eval_binary_congr (.comparison .ne) hmapped hnull)
    (.cons (eval_binary_congr (.comparison .ne) hvalues hnull)
      (.cons (eval_binary_congr .setIsSubset hsubset hsuperset) .nil)))

theorem eval_protect_congr (u : Value) : eval u.protect s = eval u.protect s' := by
  rw [eval_protect, eval_protect]

section Single

variable (hsingle : a.items? = none) (hsingle' : a'.items? = none)
  (ha : Coincide False (eval a s) (eval a' s'))
include hsingle hsingle' ha

/-- The test for null does not tell null from what is missing. -/
theorem eval_nullCheck_congr (flag : Bool) :
    eval (a.nullCheck flag) s = eval (a'.nullCheck flag) s' := by
  rcases ha with hsame | ⟨-, ⟨x, hx, hnone⟩, y, hy, hnone'⟩
  · have htype : eval (.operator "$type" a) s = eval (.operator "$type" a') s' := by
      refine (eval_operator_single .type hsingle s).trans ?_
      rw [hsame]
      exact (eval_operator_single .type hsingle' s').symm
    have hnull : eval (.null : Value) s = eval .null s' := by simp only [eval]
    have hmissing : eval (.string "missing") s = eval (.string "missing") s' := by
      rw [eval_string, eval_string, read_of_not_operatorName rfl, read_of_not_operatorName rfl]
    have hcheck := eval_junction_congr true (.cons (eval_binary_congr (.comparison .eq)
      htype hmissing) (.cons (eval_binary_congr (.comparison .eq) hsame hnull) .nil))
    cases flag with
    | true => exact hcheck
    | false =>
      refine (eval_operator_single .not rfl s).trans
        (.trans ?_ (eval_operator_single .not rfl s').symm)
      exact congrArg (fun e : Evaluation => e.bind fun v => Operator.not.apply [v]) hcheck
  · rw [Decides.nullCheck hsingle hx flag, Decides.nullCheck hsingle' hy flag, hnone, hnone']

/-- Neither do comparisons that do not hold for null. -/
theorem eval_presentAnd_congr (c : Comparison) (u : Value) :
    eval (presentAnd c.name a u.protect) s = eval (presentAnd c.name a' u.protect) s' := by
  have hcheck := eval_nullCheck_congr hsingle hsingle' ha false
  rcases ha with hsame | ⟨-, ⟨x, hx, hnone⟩, y, hy, hnone'⟩
  · exact eval_junction_congr false
      (.cons (eval_binary_congr (.comparison c) hsame (eval_protect_congr u))
        (.cons hcheck .nil))
  · have hfirst := Decides.and₂ (Decides.comparison c hx (eval_protect u s)) (Decides.nullCheck
      hsingle hx false)
    have hsecond := Decides.and₂ (Decides.comparison c hy (eval_protect u s'))
      (Decides.nullCheck hsingle' hy false)
    rw [hnone, show (none : Option Value).isNone = true from rfl, show (true == false) =
      false from rfl, Bool.and_false] at hfirst
    rw [hnone', show (none : Option Value).isNone = true from rfl, show (true == false) =
      false from rfl, Bool.and_false] at hsecond
    exact hfirst.trans hsecond.symm

end Single

/-- Nothing matches a pattern that is null or missing. -/
theorem eval_patternCheck_congr (ha : Coincide False (eval a s) (eval a' s'))
    (hes : eval (patternOf es) s = eval (patternOf es) s') (ignoreCase : Bool) :
    eval (patternCheck a es ignoreCase) s = eval (patternCheck a' es ignoreCase) s' := by
  rw [patternCheck, patternCheck, eval_patternMatch, eval_patternMatch, hes]
  rcases ha with hsame | ⟨-, hx, hy⟩
  · rw [hsame]
  · rcases hx.cases with hx | hx <;> rcases hy.cases with hy | hy <;> rw [hx, hy] <;> rfl

/-- A comparison that treats null and what is missing alike. -/
theorem eval_comparison_congr (c : Comparison) {exactly : Prop}
    (ha : Coincide exactly (eval a s) (eval a' s')) (u : Value)
    (hu : ¬exactly → c.holds (compare? none (some u)) =
      c.holds (compare? (some .null) (some u))) :
    eval (binary c.name a u.protect) s = eval (binary c.name a' u.protect) s' := by
  rcases ha with hsame | ⟨hnot, hx, hy⟩
  · exact eval_binary_congr (.comparison c) hsame (eval_protect_congr u)
  · rcases hx.cases with hx | hx <;> rcases hy.cases with hy | hy <;>
      rw [Decides.comparison c hx (eval_protect u s), Decides.comparison c hy
        (eval_protect u s')] <;> simp [hu hnot]

theorem eval_membership_congr {exactly : Prop} (ha : Coincide exactly (eval a s) (eval a' s'))
    (items : List Value) (hitems : ¬exactly → ∀ item ∈ items, item.isNull = false) :
    eval (binary "$in" a (Value.array items).protect) s =
        eval (binary "$in" a' (Value.array items).protect) s' := by
  rcases ha with hsame | ⟨hnot, ⟨x, hx, hnone⟩, y, hy, hnone'⟩
  · exact eval_binary_congr .membership hsame (eval_protect_congr _)
  · rw [Decides.membership hx (eval_protect _ s) (hitems hnot), Decides.membership hy
      (eval_protect _ s') (hitems hnot), hnone, hnone']

end Lookups

theorem boundsOf_protect (u : Value) :
    boundsOf u.protect = ((boundsOf u).1.protect, (boundsOf u).2.protect) := by
  cases u with
  | array items =>
    rcases items with _ | ⟨low, _ | ⟨high, _ | ⟨more, rest⟩⟩⟩ <;> rfl
  | string text =>
    rw [protect]
    split <;> rename_i htext <;> simp [boundsOf, protect, htext, quote, operator]
  | _ => rfl

section Rows

variable {row other : Value} (hrow : row.items? = none) (hother : other.items? = none)
  {vars : Document}
  {a a' u : Value} {es : List Value}
include hrow hother

/-- What reads no fields is the same on all rows. -/
theorem eval_constant {e : Value} (h : Mirrors (fun _ _ => False) e e) :
    eval e ⟨row, vars⟩ = eval e ⟨other, vars⟩ :=
  h.eval_eq ⟨hrow, hother, fun _ _ hfalse => hfalse.elim⟩ vars

theorem eval_patternOf_congr (hes : ∀ e ∈ es, Mirrors (fun _ _ => False) e e) :
    eval (patternOf es) ⟨row, vars⟩ = eval (patternOf es) ⟨other, vars⟩ :=
  eval_constant hrow hother (.patternOf (List.forall₂_same.mpr hes))

/-- A bound of a range that is null does not count, so it need not be compared. -/
theorem eval_bound_congr (c : Comparison) (hc : ∀ w : Value, w.isNull = false →
      c.holds (compare? none (some w)) = c.holds (compare? (some .null) (some w)))
    (ha : Coincide False (eval a ⟨row, vars⟩) (eval a' ⟨other, vars⟩)) (w : Value) :
    eval (junction true [nullCheck w.protect true, binary c.name a w.protect]) ⟨row, vars⟩ =
      eval (junction true [nullCheck w.protect true, binary c.name a' w.protect])
          ⟨other, vars⟩ := by
  cases hw : w.isNull with
  | false =>
    have hcheck : eval (nullCheck w.protect true) ⟨row, vars⟩ =
        eval (nullCheck w.protect true) ⟨other, vars⟩ :=
      eval_constant hrow hother (.nullCheck (.protect w) true)
    exact eval_junction_congr true (.cons hcheck (.cons (eval_comparison_congr c ha w fun _ =>
      hc w hw) .nil))
  | true =>
    obtain rfl : w = .null := by cases w <;> simp_all [isNull]
    -- the check for null settles the disjunction
    have hnull : ∀ s : Scope, ∀ e, eval (junction true [nullCheck Value.null.protect true, e])
        s = truth true := by
      intro s e
      have hcheck : eval (nullCheck Value.null.protect true) s = truth true :=
        Decides.nullCheck rfl (eval_protect .null s) true
      rw [eval_junction]
      simp only [evalUntil, hcheck]
      rfl
    rw [hnull, hnull]

theorem eval_rangeCheck_congr (ha : Coincide False (eval a ⟨row, vars⟩) (eval a' ⟨other, vars⟩))
    (u : Value) : eval (rangeCheck a u.protect) ⟨row, vars⟩ =
      eval (rangeCheck a' u.protect) ⟨other, vars⟩ := by
  rw [rangeCheck, rangeCheck, boundsOf_protect]
  have hlow := eval_bound_congr hrow hother .gte
    (fun w hw => by rw [compare?_some (some .null) hw]; rfl) ha (boundsOf u).1
  have hhigh := eval_bound_congr hrow hother .lte
    (fun w hw => by rw [compare?_some (some .null) hw]; rfl) ha (boundsOf u).2
  exact eval_junction_congr false (.cons hlow (.cons hhigh .nil))

/-- The pieces of a pattern that read no fields are the same on all rows. -/
theorem eval_patternLookup_congr
    (ha : Coincide False (eval a ⟨row, vars⟩) (eval a' ⟨other, vars⟩))
    (hes : ∀ e ∈ es, Mirrors (fun _ _ => False) e e) (ignoreCase : Bool) :
    eval (patternCheck a es ignoreCase) ⟨row, vars⟩ =
      eval (patternCheck a' es ignoreCase) ⟨other, vars⟩ :=
  eval_patternCheck_congr ha (eval_patternOf_congr hrow hother hes) ignoreCase

variable {l : Lookup} {exactly : Prop} (hsingle : a.items? = none) (hsingle' : a'.items? = none)
  (ha : Coincide exactly (eval a ⟨row, vars⟩) (eval a' ⟨other, vars⟩))
include hsingle hsingle' ha

/-- A lookup holds alike of values that come to the same, if it does not tell null from what is
missing where they do. -/
theorem eval_build_congr (hlist : l = .in → ∃ items, u = .array items)
    (hasks : ¬exactly → l.asksNull u = false)
    (hwhole : ¬exactly → l ≠ .all ∧ l ≠ .containedBy) :
    eval (l.build a u.protect) ⟨row, vars⟩ = eval (l.build a' u.protect) ⟨other, vars⟩ := by
  have hnear : Coincide False (eval a ⟨row, vars⟩) (eval a' ⟨other, vars⟩) := ha.mono False.elim
  have hu : Mirrors (fun _ _ => False) u.protect u.protect := .protect u
  have hstart : Mirrors (fun _ _ => False) startPiece startPiece := .text rfl
  have hend : Mirrors (fun _ _ => False) endPiece endPiece := .quote _
  have hpattern := fun (es : List Value) (hes : ∀ e ∈ es, Mirrors (fun _ _ => False) e e)
      ignoreCase => eval_patternLookup_congr hrow hother hnear hes ignoreCase
  cases l with
  | exact =>
    refine eval_comparison_congr .eq ha u fun hnot => ?_
    rw [compare?_some (some .null) (hasks hnot)]
    rfl
  | gt =>
    refine eval_comparison_congr .gt ha u fun _ => ?_
    cases u <;> rfl
  | gte =>
    refine eval_comparison_congr .gte ha u fun hnot => ?_
    rw [compare?_some (some .null) (hasks hnot)]
    rfl
  | lt => exact eval_presentAnd_congr hsingle hsingle' hnear .lt u
  | lte => exact eval_presentAnd_congr hsingle hsingle' hnear .lte u
  | «in» =>
    obtain ⟨items, rfl⟩ := hlist rfl
    refine eval_membership_congr ha items fun hnot item hitem => ?_
    simpa using List.any_eq_false.mp (hasks hnot) item hitem
  | range => exact eval_rangeCheck_congr hrow hother hnear u
  | isnull => exact eval_nullCheck_congr hsingle hsingle' hnear _
  | all =>
    rcases ha with hsame | ⟨hnot, -, -⟩
    · exact eval_subsetCheck_congr hsame (eval_protect_congr u) (eval_protect_congr u) hsame
    · exact absurd rfl (hwhole hnot).1
  | containedBy =>
    rcases ha with hsame | ⟨hnot, -, -⟩
    · exact eval_subsetCheck_congr hsame (eval_protect_congr u) hsame (eval_protect_congr u)
    · exact absurd rfl (hwhole hnot).2
  | iexact => exact hpattern _ (by simp [hstart, hu, hend]) true
  | startswith => exact hpattern _ (by simp [hstart, hu]) false
  | istartswith => exact hpattern _ (by simp [hstart, hu]) true
  | endswith => exact hpattern _ (by simp [hu, hend]) false
  | iendswith => exact hpattern _ (by simp [hu, hend]) true
  | contains => exact hpattern _ (by simp [hu]) false
  | icontains => exact hpattern _ (by simp [hu]) true
  | regex => exact hpattern _ (by simp [hu]) false
  | iregex => exact hpattern _ (by simp [hu]) true

end Rows

end Value

/-- Whether a move reads nothing but what it starts from. -/
def Move.IsConstant (move : Move) : Prop :=
  ∀ inner, move = .each inner → Value.Mirrors (fun _ _ => False) inner.render inner.render

namespace Access

open Value

/-- Whether an access is written as a path. -/
def isPath (a : Access) : Bool := a.render.string?.isSome

theorem render_key {base : Access} (h : base.isPath = false) (name : String)
    (type : ValueType) : (Access.key base name type).render = fieldOf base.render name := by
  rw [render, keyOf]
  intro text htext
  simp [isPath, htext, string?] at h

theorem isPath_go {base : Access} {move : Move}
    (hkey : move.isKey = true → base.isPath = false) : (base.go move).isPath = false := by
  cases move with
  | key name type =>
    rw [isPath, go, render_key (hkey rfl)]
    rfl
  | _ => rfl

section Moves

variable {row other : Value} (hrow : row.items? = none) (hother : other.items? = none)
  {vars : Document}
  {b b' : Access} {exactly : Prop}

theorem coincide_fieldOf {x y : Evaluation} (h : Coincide exactly x y) (name : String) :
    Coincide exactly (x.bind (applyGetField (some name)))
        (y.bind (applyGetField (some name))) := by
  have hblank : ∀ {z : Evaluation}, IsBlank z →
      IsBlank (z.bind (applyGetField (some name))) := by
    intro z hz
    rcases hz.cases with rfl | rfl
    · exact isBlank_none
    · exact isBlank_null
  rcases h with rfl | ⟨hnot, hx, hy⟩
  · exact .inl rfl
  · exact .inr ⟨hnot, hblank hx, hblank hy⟩

theorem eval_member_congr {move : Move} (hmember : move.isMember = true)
    (hkey : move.isKey = true → b.isPath = false ∧ b'.isPath = false)
    (h : Coincide exactly (eval b.render ⟨row, vars⟩) (eval b'.render ⟨other, vars⟩)) :
    Coincide exactly (eval (b.go move).render ⟨row, vars⟩)
        (eval (b'.go move).render ⟨other, vars⟩) := by
  cases move with
  | key name type =>
    rw [go, go, render_key (hkey rfl).1, render_key (hkey rfl).2, eval_fieldOf, eval_fieldOf]
    exact coincide_fieldOf h name
  | jsonKey name type =>
    rw [go, go, render, render, eval_fieldOf, eval_fieldOf]
    exact coincide_fieldOf h name
  | _ => simp [Move.isMember] at hmember

include hrow hother

theorem eval_mapOf_congr {body : Value} (hbody : Value.Mirrors (fun _ _ => False) body body)
    (h : Coincide False (eval b.render ⟨row, vars⟩) (eval b'.render ⟨other, vars⟩)) :
    eval (mapOf b.render body) ⟨row, vars⟩ = eval (mapOf b'.render body) ⟨other, vars⟩ := by
  have hitem : ∀ item, eval body (Scope.bind ⟨row, vars⟩ itemName item) =
      eval body (Scope.bind ⟨other, vars⟩ itemName item) := fun item =>
        eval_constant hrow hother hbody
  rw [eval_mapOf_eq, eval_mapOf_eq]
  simp only [hitem]
  rcases h with hsame | ⟨-, hx, hy⟩
  · rw [hsame]
  · rcases hx.cases with hx | hx <;> rcases hy.cases with hy | hy <;> rw [hx, hy] <;> rfl

/-- Neither does a lookup that holds for some item tell null from what is missing, as there are
no items. -/
theorem eval_someItem_congr {inner : Access}
    (hinner : Value.Mirrors (fun _ _ => False) inner.render inner.render)
    (h : Coincide False (eval b.render ⟨row, vars⟩) (eval b'.render ⟨other, vars⟩))
    (l : Lookup) (u : Value) :
    eval (l.someItem b inner u.protect) ⟨row, vars⟩ =
        eval (l.someItem b' inner u.protect) ⟨other, vars⟩ := by
  have hmap := eval_mapOf_congr hrow hother (.build l hinner (.protect u)) h
  refine (eval_operator_single .anyElementTrue rfl _).trans
    (.trans ?_ (eval_operator_single .anyElementTrue rfl _).symm)
  rw [hmap]

/-- A position, a length and what is read item by item are the same for null and for what is
missing. -/
theorem eval_array_congr {move : Move} (hmember : move.isMember = false)
    (hmove : move.IsConstant)
    (h : Coincide False (eval b.render ⟨row, vars⟩) (eval b'.render ⟨other, vars⟩)) :
    eval (b.go move).render ⟨row, vars⟩ = eval (b'.go move).render ⟨other, vars⟩ := by
  have hint : ∀ (n : Int64) (s : Scope), eval (.int n) s = found (.int n) := fun n s => by
    simp only [eval]
  cases move with
  | key name type => simp [Move.isMember] at hmember
  | jsonKey name type => simp [Move.isMember] at hmember
  | index position type =>
    refine (eval_operator_array .elementAt _ _).trans
      (.trans ?_ (eval_operator_array .elementAt _ _).symm)
    simp only [evalItems, hint]
    rcases h with hsame | ⟨-, hx, hy⟩
    · rw [hsame]
    · rcases hx.cases with hx | hx <;> rcases hy.cases with hy | hy <;> rw [hx, hy] <;> rfl
  | slice start stop type =>
    refine (eval_operator_array .slice _ _).trans
      (.trans ?_ (eval_operator_array .slice _ _).symm)
    simp only [evalItems, hint]
    rcases h with hsame | ⟨-, hx, hy⟩
    · rw [hsame]
    · rcases hx.cases with hx | hx <;> rcases hy.cases with hy | hy <;> rw [hx, hy] <;> rfl
  | length type =>
    have hcheck : ∀ (e : Access) (s : Scope), eval (.operator "$isArray" e.render) s =
        (eval e.render s).bind fun v => Operator.isArray.apply [v] :=
      fun e s => eval_operator_single .isArray e.items?_render s
    have hsize : ∀ (e : Access) (s : Scope), eval (.operator "$size" e.render) s =
        (eval e.render s).bind fun v => Operator.size.apply [v] :=
      fun e s => eval_operator_single .size e.items?_render s
    have hnull : ∀ s : Scope, eval (.null : Value) s = found .null := fun s => by
      simp only [eval]
    rw [go, go, render, render, lengthOf, lengthOf, eval_choice, eval_choice]
    simp only [hcheck, hsize, hnull]
    rcases h with hsame | ⟨-, hx, hy⟩
    · rw [hsame]
    · rcases hx.cases with hx | hx <;> rcases hy.cases with hy | hy <;> rw [hx, hy] <;> rfl
  | each inner => exact eval_mapOf_congr hrow hother (hmove inner rfl) h

/-- Where both are no paths, or no field comes first, moves lead on in the same way. -/
theorem eval_along_congr {moves : List Move}
    (hhead : ∀ move, moves.head? = some move → move.isKey = true → b.isPath = false ∧
      b'.isPath = false)
    (hmoves : ∀ move ∈ moves, move.IsConstant)
    (h : Coincide exactly (eval b.render ⟨row, vars⟩) (eval b'.render ⟨other, vars⟩)) :
    Coincide (exactly ∨ moves.all Move.isMember = false)
      (eval (b.along moves).render ⟨row, vars⟩)
      (eval (b'.along moves).render ⟨other, vars⟩) := by
  -- once something other than a member is read, nothing is left to be told apart
  induction moves generalizing b b' exactly with
  | nil => exact h.mono fun hor => hor.resolve_right (by simp)
  | cons move rest ih =>
    obtain ⟨hmove, hrest⟩ := List.forall_mem_cons.mp hmoves
    have hkey := hhead move rfl
    have hnext : ∀ next, rest.head? = some next → next.isKey = true →
        (b.go move).isPath = false ∧ (b'.go move).isPath = false :=
      fun _ _ _ => ⟨isPath_go fun hk => (hkey hk).1, isPath_go fun hk => (hkey hk).2⟩
    cases hmember : move.isMember with
    | true =>
      refine (ih hnext hrest (eval_member_congr hmember hkey h)).mono ?_
      simp [hmember]
    | false =>
      have hsame : Coincide True (eval (b.go move).render ⟨row, vars⟩)
          (eval (b'.go move).render ⟨other, vars⟩) :=
        .inl (eval_array_congr hrow hother hmember hmove (h.mono False.elim))
      exact (ih hnext hrest hsame).mono fun _ => .inl trivial

end Moves

end Access

end DocQuery
