import DocQuery.Proofs.JoinRegistry
set_option autoImplicit false

/-!
# Proofs: paths that are resolved again

A path changes the context that it is resolved in:  relations on its way become joins, and joins
that are there may come to keep documents without a match.  Whatever a path needs of a context
stays there when more is joined, so the same path finds all of it the next time, leads to the
same and changes nothing more, also if it is wrong.
-/

namespace DocQuery

namespace Context

variable {ctx after later : Context} {path : String}

/-! ## Contexts with more joins -/

/-- Whether a context comes before another one of the same query: nothing but joins was added in
between. -/
structure Precedes (ctx later : Context) : Prop extends Alike ctx later where
  joins : JoinsKept ctx.joins later.joins

namespace Precedes

theorem refl (ctx : Context) : Precedes ctx ctx := ⟨.refl ctx, .refl _⟩

theorem trans (h : Precedes ctx after) (h' : Precedes after later) : Precedes ctx later :=
  ⟨h.toAlike.trans h'.toAlike, h.joins.trans h'.joins⟩

end Precedes

theorem joinsKept_join (ctx : Context) (path : String) (parent : Option String) (f : Field)
    (target : Model) (k : Field) :
    JoinsKept ctx.joins (ctx.join path parent f target k).2.joins := by
  unfold join
  split
  · dsimp only
    split
    · exact .promoteAt ctx _
    · exact .refl _
  · exact .append _ _

theorem precedes_join (ctx : Context) (path : String) (parent : Option String) (f : Field)
    (target : Model) (k : Field) : ctx.Precedes (ctx.join path parent f target k).2 :=
  ⟨.join ctx path parent f target k, joinsKept_join ctx path parent f target k⟩

/-! ## Joins that are made again -/

/-- The first join of a relation path stays the first one. -/
theorem JoinsKept.joinIndex? (h : JoinsKept ctx.joins later.joins) {i : Nat}
    (hi : ctx.joinIndex? path = some i) : later.joinIndex? path = some i := by
  obtain ⟨hlt, hpath, hfirst⟩ := List.findIdx?_eq_some_iff_getElem.mp hi
  -- up to this place the later joins are for the same relation paths
  have hsame : ∀ k (hk : k < ctx.joins.length), ∃ hk' : k < later.joins.length,
      later.joins[k].1 = ctx.joins[k].1 := by
    intro k hk
    obtain ⟨kind, hkept, -⟩ := h k _ _ (List.getElem?_eq_getElem hk)
    obtain ⟨hk', heq⟩ := List.getElem?_eq_some_iff.mp hkept
    exact ⟨hk', by rw [heq]; rfl⟩
  obtain ⟨hlt', hpath'⟩ := hsame i hlt
  refine List.findIdx?_eq_some_iff_getElem.mpr ⟨hlt', by rw [hpath']; exact hpath,
    fun k hk => ?_⟩
  obtain ⟨hk', hother⟩ := hsame k (hk.trans hlt)
  rw [hother]
  exact hfirst k hk

/-- To keep documents without a match twice is to keep them once. -/
theorem promoteAt_of_left {i : Nat} {j : Join} (hi : ctx.joins[i]? = some (path, j))
    (hkind : j.kind = .left) : ctx.promoteAt i = ctx := by
  have hentry : keepUnmatched (path, j) = (path, j) := by rw [keepUnmatched, ← hkind]
  have hjoins : ctx.joins.modify i keepUnmatched = ctx.joins := by
    refine List.ext_getElem? fun k => ?_
    rw [List.getElem?_modify]
    by_cases hk : i = k
    · subst hk
      simp [hi, hentry]
    · simp [hk]
  rw [promoteAt, hjoins]

/-- The join of a relation path is where it says, under its alias, and keeps documents without a
match if it has to. -/
theorem joined_join (ctx : Context) (path : String) (parent : Option String) (f : Field)
    (target : Model) (k : Field) :
    (ctx.join path parent f target k).2.joinIndex? path =
      some (ctx.join path parent f target k).1.2 ∧
      ∃ j, (ctx.join path parent f target k).2.joins[(ctx.join path parent f target k).1.2]? =
        some (path, j) ∧ j.joined = (ctx.join path parent f target k).1.1 ∧
        (ctx.joinKind f = .left → j.kind = .left) := by
  unfold join
  split
  · rename_i i hi
    obtain ⟨⟨_, j⟩, hj, rfl⟩ := Option.map_eq_some_iff.mp ((List.getElem?_map ..).symm.trans
      (relations_joinIndex? hi))
    dsimp only
    cases hkind : ctx.joinKind f with
    | left =>
      refine ⟨(JoinsKept.promoteAt ctx i).joinIndex? hi, { j with kind := .left }, ?_,
        ?_, fun _ => rfl⟩
      · simp [promoteAt, hj, keepUnmatched]
      · simp [aliasAt, hj]
    | inner => exact ⟨hi, j, hj, by simp [aliasAt, hj], by simp⟩
  · rename_i hnone
    refine ⟨?_, _, List.getElem?_concat_length, rfl, fun hkind => hkind⟩
    have hfront : ctx.joins.findIdx? (fun j => j.1 == path) = none := hnone
    simp [joinIndex?, List.findIdx?_append, hfront]

/-- A join that was made before is found again, and nothing about it changes. -/
theorem join_again (parent : Option String) (f : Field) (target : Model) (k : Field)
    (h : (ctx.join path parent f target k).2.Precedes later) :
    later.join path parent f target k = ((ctx.join path parent f target k).1, later) := by
  obtain ⟨hindex, j, hj, hjoined, hleft⟩ := joined_join ctx path parent f target k
  obtain ⟨kind, hlater, hkind⟩ := h.joins _ path j hj
  have hdepth : later.joinKind f = ctx.joinKind f := by
    rw [joinKind, joinKind, ((precedes_join ctx path parent f target k).trans h).depth]
  have halias : later.aliasAt (ctx.join path parent f target k).1.2 =
      (ctx.join path parent f target k).1.1 := by
    rw [aliasAt, hlater, ← hjoined]
  rw [join, h.joins.joinIndex? hindex]
  dsimp only
  rw [halias]
  cases hneeds : later.joinKind f with
  | left =>
    have hkept : kind = .left := by
      rcases hkind with rfl | rfl
      · exact hleft (hdepth ▸ hneeds)
      · rfl
    rw [promoteAt_of_left hlater hkept]
  | inner => rfl

/-- A computed column counts as referred to once. -/
theorem refer_refer (ctx : Context) (name : String) :
    (ctx.refer name).refer name = ctx.refer name := by
  have hreferred : (ctx.refer name).annotationRefs.contains name = true := by
    unfold refer
    split
    · assumption
    · simp
  rw [refer, if_pos hreferred]

end Context

namespace Compiler

open Context (Precedes)

variable {c : Compiler} {ctx later : Context} {path : String}

/-! ## Names that are followed again -/

/-- What a path leads to behind a value does not depend on the context. -/
theorem follow_value_eq (a : Access) (names : List String) (joins : List Nat)
    (ctx later : Context) :
    c.follow path (.value a) names joins later = ((c.follow path (.value a) names joins ctx).1,
        later) := by
  induction names generalizing a with
  | nil => rfl
  | cons name rest ih =>
    rw [follow, follow]
    split
    · rfl
    · exact ih _
    · rfl

/-- A context comes before what names make of it, wherever they lead. -/
theorem precedes_follow (place : Place) (names : List String) (joins : List Nat)
    (ctx : Context) : ctx.Precedes (c.follow path place names joins ctx).2 := by
  induction names generalizing place joins ctx with
  | nil => cases place <;> exact .refl ctx
  | cons name rest ih =>
    cases place with
    | value a => rw [follow_value_snd]; exact .refl ctx
    | document m joined relation =>
      rw [follow]
      split
      · exact .refl ctx
      dsimp only
      split
      · split
        · exact .refl ctx
        split
        · exact ih _ _ ctx
        split
        · exact .refl ctx
        exact (Context.precedes_join ctx _ joined _ _ _).trans (ih _ _ _)
      · exact ih _ _ ctx

/-- Names that are followed again when more is joined lead to the same and change nothing. -/
theorem follow_again_eq {place : Place} {names : List String} {joins : List Nat}
    (h : (c.follow path place names joins ctx).2.Precedes later) :
    c.follow path place names joins later =
        ((c.follow path place names joins ctx).1, later) := by
  -- on the names: all joins of the first time come before `later`, the one for this name as
  -- well as those behind it
  induction names generalizing place joins ctx with
  | nil => cases place <;> rfl
  | cons name rest ih =>
    cases place with
    | value a => exact follow_value_eq a _ joins ctx later
    | document m joined relation =>
      rw [follow] at h ⊢
      rw [follow]
      cases hf : m.field? name with
      | none => rfl
      | some f =>
        simp only [hf] at h ⊢
        split at h
        · rename_i target key storedAs _
          cases ht : c.modelOf target with
          | error e => rfl
          | ok t =>
            simp only [ht] at h ⊢
            split at h
            · rename_i hreads
              simp only [hreads, if_true]
              exact ih h
            · rename_i hreads
              simp only [hreads]
              cases hk : t.field? (key.getD usualKey) with
              | none => rfl
              | some k =>
                simp only [hk] at h ⊢
                have hjoined := (precedes_follow _ _ _ _).trans h
                simp only [Context.join_again joined f t k hjoined]
                exact ih h
        · exact ih h

theorem followPath_again_eq (ctx : Context) (path : String) :
    c.followPath (c.followPath ctx path).2 path = c.followPath ctx path := by
  unfold followPath
  dsimp only
  cases hempty : (Text.segments path).contains "" with
  | true => rfl
  | false =>
    cases htype : ctx.computedType? ((Text.segments path).headD "") with
    | some type =>
      simp only [Bool.false_eq_true, if_false]
      rw [follow_value_snd]
      have htype' : (ctx.refer ((Text.segments path).headD "")).computedType?
        ((Text.segments path).headD "") = some type := by
        rw [Context.computedType?, (Context.Alike.refer ctx _).annotations]
        exact htype
      simp only [htype', Context.refer_refer]
    | none =>
      simp only [Bool.false_eq_true, if_false]
      have hfirst : ctx.Precedes (c.follow path (.document ctx.model none "")
          (Text.segments path) [] ctx).2 :=
        precedes_follow ..
      have htype' : (c.follow path (.document ctx.model none "") (Text.segments path) []
        ctx).2.computedType? ((Text.segments path).headD "") = none := by
        rw [Context.computedType?, hfirst.annotations]
        exact htype
      simp only [htype', hfirst.model, follow_again_eq (Precedes.refl _)]

/-! ## Paths that are resolved again -/

/-- For every schema, context and path:  a path that is resolved twice in a row, as what a
filter compares or as a reference, gives the same both times, be it a value with its lookup and
the places of its joins or an error, and the second time leaves the whole context as the first
time left it, with all its joins.  The first time leaves the same context whichever of the two
the path is resolved as. -/
theorem resolution_repeats (c : Compiler) (ctx : Context) (path : String) :
    (c.resolveField ctx path).2 = (c.resolveLookup ctx path).2 ∧
      c.resolveLookup (c.resolveLookup ctx path).2 path = c.resolveLookup ctx path ∧
      c.resolveField (c.resolveField ctx path).2 path = c.resolveField ctx path := by
  rw [resolveLookup_snd, resolveField_snd]
  refine ⟨rfl, ?_, ?_⟩
  · simp only [resolveLookup, followPath_again_eq]
  · simp only [resolveField, followPath_again_eq]

/-- A path that fails behind two relations registers their joins the first time only. -/
example :
    let first := Context.exhibits.resolveLookup (Context.ofModel Context.exhibit).enter
      "owner__boss__salary"
    let second := Context.exhibits.resolveLookup first.2 "owner__boss__salary"
    first.1 = .error (.fieldDoesNotExist "Curator" "salary") ∧ second.1 = first.1 ∧
      first.2.joins.length = 2 ∧ second.2.joins = first.2.joins := by
  decide +kernel

end Compiler

end DocQuery
