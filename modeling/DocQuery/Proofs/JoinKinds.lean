import DocQuery.Proofs.Relocation
import DocQuery.Proofs.UsedPaths
set_option autoImplicit false

/-!
# Proofs: which joins keep documents without a match

A join keeps documents without a match exactly if its foreign key may be null, a path through it
stands below a disjunction or negation, or a check for null is made along it.  The order in
which the paths of a query are followed makes no difference.
-/

namespace DocQuery

/-! ## Lookups at the ends of paths -/

namespace Compiler

variable {c : Compiler}

theorem lookupBehind?_under (joined : Option String) (a : Access) (names : List String) :
    c.lookupBehind? (a.under joined) names = c.lookupBehind? a names := by
  induction names generalizing a with
  | nil => rfl
  | cons name rest ih =>
    rw [lookupBehind?, lookupBehind?, step_under]
    rcases c.step a name rest.isEmpty with e | (b | l)
    · rfl
    · exact ih b
    · rfl

/-- Behind a value nothing is joined. -/
theorem follow_value_ok {path : String} {a : Access} {names : List String} {joins : List Nat}
    {ctx ctx' : Context} {e : Ending}
    (h : c.follow path (.value a) names joins ctx = (.ok e, ctx')) :
    ctx' = ctx ∧ e.joins = joins ∧ e.lookup? = c.lookupBehind? (a.under none) names := by
  induction names generalizing a with
  | nil =>
    obtain ⟨rfl, rfl⟩ := follow_value_nil_ok h
    exact ⟨rfl, rfl, rfl⟩
  | cons name rest ih =>
    rw [lookupBehind?_under, lookupBehind?]
    rcases follow_value_cons_ok h with ⟨next, hstep, hnext⟩ | ⟨l, hstep, rfl, rfl⟩
    · obtain ⟨hctx, hjoins, hlookup⟩ := ih hnext
      exact ⟨hctx, hjoins, by rw [hstep, hlookup, lookupBehind?_under]⟩
    · exact ⟨rfl, rfl, by rw [hstep]⟩

end Compiler

/-! ## Crossings -/

namespace Schema

variable {s : Schema}

theorem crossings_cons {m t : Model} {name : String} {rest : List String}
    {f : Field} {link : Link}
    (hf : m.field? name = some f) (hstays : s.staysInside f rest = false)
    (hlink : s.link? f = some (link, t)) :
    s.crossings m (name :: rest) = ([name], f) :: (s.crossings t rest).map fun x =>
        (name :: x.1, x.2) := by
  simp [crossings, hf, hstays, hlink]

theorem crossings_of_stays {m : Model} {name : String} {rest : List String} {f : Field}
    (hf : m.field? name = some f) (hstays : s.staysInside f rest = true) :
    s.crossings m (name :: rest) = [] := by
  simp [crossings, hf, hstays]

/-- A crossing is made at names that further ones follow. -/
theorem prefix_of_mem_crossings {m : Model} {names : List String} {x : List String × Field}
    (h : x ∈ s.crossings m names) :
    (∃ rest, names = x.1 ++ rest ∧ rest ≠ []) ∧ x.1 ≠ [] ∧ s.fieldAlong? m x.1 = some x.2 := by
  induction names generalizing m x with
  | nil => simp [crossings] at h
  | cons name rest ih =>
    rw [crossings] at h
    split at h
    · simp at h
    · rename_i f hf
      split at h
      · simp at h
      · rename_i hstays
        split at h
        · simp at h
        · rename_i link t hlink
          rcases List.mem_cons.mp h with rfl | hmem
          · refine ⟨⟨rest, rfl, ?_⟩, by simp, by simp [fieldAlong?, relations?, hf]⟩
            rintro rfl
            obtain ⟨target, key, storedAs, k, hkind, ht, -, -⟩ := link?_ok hlink
            simp [staysInside, hkind, ht, Compiler.readsStoredKey] at hstays
          · obtain ⟨y, hy, rfl⟩ := List.mem_map.mp hmem
            obtain ⟨⟨behind, hbehind, hne⟩, hnames, hfield⟩ := ih hy
            refine ⟨⟨behind, by simp [hbehind], hne⟩, by simp, ?_⟩
            unfold fieldAlong? at hfield ⊢
            obtain ⟨⟨links, last⟩, hrelations, hlast⟩ := Option.bind_eq_some_iff.mp hfield
            rw [List.dropLast_cons_of_ne_nil hnames, List.getLast?_cons_of_ne_nil hnames]
            simp [relations?, hf, hlink, hrelations, hlast]

end Schema

namespace Use

variable {s : Schema} {m : Model}

/-- The text of a relation path tells the relation. -/
theorem segments_of_mem_crossings {u : Use} {x : List String × Field}
    (h : x ∈ u.crossings s m) :
    Text.segments (Text.join "__" x.1) = x.1 ∧ s.fieldAlong? m x.1 = some x.2 := by
  unfold crossings at h
  split at h
  · simp at h
  · obtain ⟨⟨rest, hnames, hne⟩, hsome, hfield⟩ := Schema.prefix_of_mem_crossings h
    exact ⟨Text.segments_join hsome (Text.isPart_of_segments hnames hne), hfield⟩

/-- Whether the path goes through a relation. -/
def GoesThrough (s : Schema) (m : Model) (names : List String) (u : Use) : Prop :=
  names ∈ (u.crossings s m).map (·.1)

/-- Whether documents without a match are kept on the path, apart from those whose keys may be
null. -/
def KeepsUnmatched (c : Compiler) (m : Model) (u : Use) : Prop :=
    u.nested = true ∨ u.checksNull c m = true

instance (s : Schema) (m : Model) (names : List String) (u : Use) :
    Decidable (u.GoesThrough s m names) :=
  inferInstanceAs (Decidable (names ∈ _))

instance (c : Compiler) (m : Model) (u : Use) : Decidable (u.KeepsUnmatched c m) :=
  inferInstanceAs (Decidable (_ ∨ _))

end Use

/-! ## Joins of a context -/

namespace Context

variable {ctx : Context} {path : String}

theorem knows_annotations (ctx : Context) : ctx.Knows (ctx.annotations.map (·.1)) := by
  intro name
  rw [computedType?]
  induction ctx.annotations with
  | nil => simp [findType]
  | cons entry rest ih =>
    obtain ⟨k, t⟩ := entry
    by_cases hname : k = name
    · simp [findType, hname]
    · simp [findType, hname, Ne.symm hname, ih]

/-- The relation paths that have a join. -/
def relations (ctx : Context) : List String := ctx.joins.map (·.1)

/-- Whether the join of a relation path keeps documents without a match. -/
def KeepsUnmatched (ctx : Context) (path : String) : Prop :=
  ∃ j, (path, j) ∈ ctx.joins ∧ j.kind = .left

theorem keepsUnmatched_iff (hnodup : ctx.relations.Nodup) {entry : String × Join}
    (hentry : entry ∈ ctx.joins) : ctx.KeepsUnmatched entry.1 ↔ entry.2.kind = .left := by
  refine ⟨fun ⟨j, hj, hkind⟩ => ?_, fun hkind => ⟨entry.2, hentry, hkind⟩⟩
  rw [List.inj_on_of_nodup_map hnodup hentry hj rfl]
  exact hkind

@[simp] theorem relations_promoteAt (ctx : Context) (index : Nat) :
    (ctx.promoteAt index).relations = ctx.relations := map_promoteAt (fun _ => rfl) ctx index

@[simp] theorem relations_promote (ctx : Context) (indices : List Nat) :
    (ctx.promote indices).relations = ctx.relations := by
  induction indices generalizing ctx with
  | nil => rfl
  | cons index rest ih => exact (ih (ctx.promoteAt index)).trans (relations_promoteAt ctx index)

theorem keepsUnmatched_promoteAt (index : Nat) :
    (ctx.promoteAt index).KeepsUnmatched path ↔
      ctx.KeepsUnmatched path ∨ ctx.relations[index]? = some path := by
  simp only [KeepsUnmatched, promoteAt, relations, List.mem_iff_getElem?, List.getElem?_modify,
    List.getElem?_map]
  constructor
  · rintro ⟨j, ⟨i, hi⟩, hkind⟩
    by_cases hindex : index = i
    · subst hindex
      cases hentry : ctx.joins[index]? with
      | none => simp [hentry] at hi
      | some entry =>
        simp [hentry, keepUnmatched] at hi
        exact .inr (by simp [hi.1])
    · exact .inl ⟨j, ⟨i, by simpa [hindex] using hi⟩, hkind⟩
  · rintro (⟨j, ⟨i, hi⟩, hkind⟩ | hpath)
    · by_cases hindex : index = i
      · subst hindex
        exact ⟨{ j with kind := .left }, ⟨index, by simp [hi, keepUnmatched]⟩, rfl⟩
      · exact ⟨j, ⟨i, by simpa [hindex] using hi⟩, hkind⟩
    · obtain ⟨entry, hentry, rfl⟩ := Option.map_eq_some_iff.mp hpath
      exact ⟨{ entry.2 with kind := .left }, ⟨index, by simp [hentry, keepUnmatched]⟩, rfl⟩

theorem keepsUnmatched_promote (indices : List Nat) :
    (ctx.promote indices).KeepsUnmatched path ↔
      ctx.KeepsUnmatched path ∨ ∃ index ∈ indices, ctx.relations[index]? = some path := by
  induction indices generalizing ctx with
  | nil => simp [promote]
  | cons index rest ih =>
    have hrest : (ctx.promote (index :: rest)).KeepsUnmatched path ↔
        ((ctx.promoteAt index).promote rest).KeepsUnmatched path := Iff.rfl
    rw [hrest, ih, keepsUnmatched_promoteAt, relations_promoteAt, or_assoc,
      List.exists_mem_cons_iff]

theorem relations_joinIndex? {index : Nat} (h : ctx.joinIndex? path = some index) :
    ctx.relations[index]? = some path := by
  obtain ⟨hlt, heq, -⟩ := List.findIdx?_eq_some_iff_getElem.mp h
  simpa [relations, hlt] using heq

theorem joinIndex?_eq_none_iff : ctx.joinIndex? path = none ↔ path ∉ ctx.relations := by
  simp only [joinIndex?, relations, List.findIdx?_eq_none_iff, List.mem_map, not_exists,
    not_and, beq_eq_false_iff_ne]

/-- What a join along a relation makes of a context. -/
theorem join_relations (text : String) (parent : Option String) (f : Field)
    (t : Model) (k : Field) : ctx.relations <+: (ctx.join text parent f t k).2.relations ∧
      (ctx.join text parent f t k).2.relations[(ctx.join text parent f t k).1.2]? = some text ∧
      (∀ path, path ∈ (ctx.join text parent f t k).2.relations ↔ path ∈ ctx.relations ∨
        path = text) ∧
      (ctx.relations.Nodup → (ctx.join text parent f t k).2.relations.Nodup) ∧
      ∀ path, (ctx.join text parent f t k).2.KeepsUnmatched path ↔
        ctx.KeepsUnmatched path ∨ (path = text ∧ ctx.joinKind f = .left) := by
  unfold Context.join
  split
  · rename_i index hindex
    have hentry := relations_joinIndex? hindex
    have hmem : text ∈ ctx.relations := List.mem_of_getElem? hentry
    have hsame : ∀ path, path ∈ ctx.relations ↔ path ∈ ctx.relations ∨ path = text :=
      fun path => ⟨.inl, fun h => h.elim id fun heq => heq ▸ hmem⟩
    dsimp only
    cases hkind : ctx.joinKind f with
    | left =>
      rw [relations_promoteAt]
      refine ⟨List.prefix_refl _, hentry, hsame, id, fun path => ?_⟩
      rw [keepsUnmatched_promoteAt, hentry]
      simp [eq_comm]
    | inner => exact ⟨List.prefix_refl _, hentry, hsame, id, by simp⟩
  · rename_i hindex
    have hfresh := joinIndex?_eq_none_iff.mp hindex
    simp only [relations, List.map_append, List.map_cons, List.map_nil]
    refine ⟨List.prefix_append _ _, by simp, by simp, fun hnodup => ?_, fun path => ?_⟩
    · exact List.nodup_append.mpr ⟨hnodup, by simp, fun a ha b hb => by
        rw [List.mem_singleton.mp hb]
        exact fun heq => hfresh (heq ▸ ha)⟩
    · simp only [KeepsUnmatched, List.mem_append, List.mem_singleton, Prod.mk.injEq]
      constructor
      · rintro ⟨j, hold | ⟨rfl, rfl⟩, hleft⟩
        · exact .inl ⟨j, hold, hleft⟩
        · exact .inr ⟨rfl, hleft⟩
      · rintro (⟨j, hold, hleft⟩ | ⟨rfl, hleft⟩)
        · exact ⟨j, .inl hold, hleft⟩
        · exact ⟨_, .inr ⟨rfl, rfl⟩, hleft⟩

theorem joinKind_eq_left {f : Field} :
    ctx.joinKind f = .left ↔ f.nullable = true ∨ 0 < ctx.nullableDepth := by
  unfold joinKind
  split <;> simp_all

end Context

/-! ## One path -/

namespace Context

/-- The joins of a context are those of another one and those of some crossings.  The places of
the joins on the path grow by those of the crossings. -/
structure Crosses (xs : List (List String × Field)) (joins joins' : List Nat)
    (ctx ctx' : Context) : Prop where
  grows : ctx.relations <+: ctx'.relations
  relations : ∀ path, path ∈ ctx'.relations ↔ path ∈ ctx.relations ∨ ∃ x ∈ xs,
    path = Text.join "__" x.1
  nodup : ctx.relations.Nodup → ctx'.relations.Nodup
  left : ∀ path, ctx'.KeepsUnmatched path ↔ ctx.KeepsUnmatched path ∨
    ∃ x ∈ xs, path = Text.join "__" x.1 ∧ (x.2.nullable = true ∨ 0 < ctx.nullableDepth)
  places : ∃ indices, joins' = joins ++ indices ∧
    indices.map (ctx'.relations[·]?) = xs.map fun x => some (Text.join "__" x.1)

theorem Crosses.refl (ctx : Context) (joins : List Nat) : Crosses [] joins joins ctx ctx where
  grows := List.prefix_refl _
  relations := by simp
  nodup := id
  left := by simp
  places := ⟨[], by simp, rfl⟩

theorem Crosses.cons {names : List String} {f : Field} {xs : List (List String × Field)}
    {joins joins' : List Nat}
    {ctx ctx' : Context} (parent : Option String) (t : Model) (k : Field)
    (h : Crosses xs (joins ++ [(ctx.join (Text.join "__" names) parent f t k).1.2]) joins'
      (ctx.join (Text.join "__" names) parent f t k).2 ctx') :
    Crosses ((names, f) :: xs) joins joins' ctx ctx' := by
  obtain ⟨hgrows, hplace, hrelations, hnodup, hleft⟩ :=
    join_relations (Text.join "__" names) parent f t k
  have hdepth := (Alike.join ctx (Text.join "__" names) parent f t k).depth
  generalize ctx.join (Text.join "__" names) parent f t k = joined at *
  obtain ⟨⟨_, index⟩, mid⟩ := joined
  refine ⟨hgrows.trans h.grows, fun path => ?_, fun hctx => h.nodup (hnodup hctx),
    fun path => ?_, ?_⟩
  · rw [h.relations, hrelations, List.exists_mem_cons_iff, or_assoc]
  · rw [h.left, hleft, hdepth, List.exists_mem_cons_iff, or_assoc, joinKind_eq_left]
  · obtain ⟨indices, hindices, hmap⟩ := h.places
    refine ⟨index :: indices, by simp [hindices], ?_⟩
    obtain ⟨more, hmore⟩ := h.grows
    have hlt := (List.getElem?_eq_some_iff.mp hplace).1
    have hkept : ctx'.relations[index]? = some (Text.join "__" names) := by
      rw [← hmore, List.getElem?_append_left hlt, hplace]
    rw [List.map_cons, hmap, hkept, List.map_cons]

/-- The context after the check for null of a path is noted. -/
theorem Crosses.noteUse {xs : List (List String × Field)} {ctx after : Context}
    {u : Use} {e : Ending} (h : Crosses xs [] e.joins ctx after) :
    (∀ path, path ∈ (noteUse u e after).relations ↔
        path ∈ ctx.relations ∨ ∃ x ∈ xs, path = Text.join "__" x.1) ∧
      (ctx.relations.Nodup → (Context.noteUse u e after).relations.Nodup) ∧
      ∀ path, (Context.noteUse u e after).KeepsUnmatched path ↔ ctx.KeepsUnmatched path ∨
        ∃ x ∈ xs, path = Text.join "__" x.1 ∧ (x.2.nullable = true ∨ 0 < ctx.nullableDepth ∨
          (u.isLookup = true ∧ e.lookup? = some .isnull)) := by
  unfold Context.noteUse
  split
  · rename_i hnull
    rw [relations_promote]
    refine ⟨h.relations, h.nodup, fun path => ?_⟩
    obtain ⟨indices, hindices, hmap⟩ := h.places
    have hplaces : (∃ index ∈ e.joins, after.relations[index]? = some path) ↔
        ∃ x ∈ xs, path = Text.join "__" x.1 := by
      have hmem : some path ∈ indices.map (after.relations[·]?) ↔
          some path ∈ xs.map fun x => some (Text.join "__" x.1) := by rw [hmap]
      simpa [hindices, eq_comm] using hmem
    rw [keepsUnmatched_promote, h.left, hplaces]
    constructor
    · rintro ((hold | ⟨x, hx, heq, -⟩) | ⟨x, hx, heq⟩)
      · exact .inl hold
      · exact .inr ⟨x, hx, heq, .inr (.inr hnull)⟩
      · exact .inr ⟨x, hx, heq, .inr (.inr hnull)⟩
    · rintro (hold | ⟨x, hx, heq, -⟩)
      · exact .inl (.inl hold)
      · exact .inr ⟨x, hx, heq⟩
  · rename_i hnull
    refine ⟨h.relations, h.nodup, fun path => ?_⟩
    simp only [h.left, hnull, or_false]

end Context

namespace Compiler

open Context (Crosses Traced)

variable {c : Compiler} {path : String} {ctx ctx' : Context} {e : Ending}

/-- Following names from a document makes the crossings on them. -/
theorem follow_crosses {m : Model} {done names : List String} {parent : Option String}
    {joins : List Nat} (hempty : "" ∉ done ++ names)
    (h : c.follow path (.document m parent (Text.join "__" done)) names joins ctx =
      (.ok e, ctx')) :
    Crosses ((c.schema.crossings m names).map fun x => (done ++ x.1, x.2)) joins
      e.joins ctx ctx' ∧ e.lookup? = c.lookupAlong? m names := by
  induction names generalizing m done parent joins ctx with
  | nil => simp [follow] at h
  | cons name rest ih =>
    obtain ⟨_, _, f, hnames, hf, -⟩ := follow_document_ok h
    obtain ⟨rfl, rfl⟩ := List.cons.inj hnames
    cases hstays : c.schema.staysInside f rest with
    | true =>
      obtain ⟨rfl, hjoins, hlookup⟩ := follow_value_ok (follow_stays_ok hf hstays h)
      rw [Schema.crossings_of_stays hf hstays, hjoins]
      refine ⟨.refl _ _, ?_⟩
      simp only [hlookup, lookupAlong?, hf, hstays, if_true, Access.under]
    | false =>
      obtain ⟨link, t, hlink⟩ := link?_of_leaves hf hstays h
      obtain ⟨target, key, storedAs, k, -, -, -, -, -, hrest⟩ :=
        follow_leaves_ok hf hstays hlink h
      have hdone : "" ∉ done := fun hmem => hempty (List.mem_append_left _ hmem)
      rw [relationPath_join hdone] at hrest
      obtain ⟨hcrosses, hlookup⟩ := ih (by simpa using hempty) hrest
      rw [Schema.crossings_cons hf hstays hlink]
      refine
        ⟨?_, by
        simp only [hlookup, lookupAlong?, hf, hstays, hlink, Bool.false_eq_true, if_false]⟩
      have hmore : (c.schema.crossings t rest).map (fun x => ((done ++ [name]) ++ x.1, x.2)) =
          ((c.schema.crossings t rest).map fun x => (name :: x.1, x.2)).map fun x =>
              (done ++ x.1, x.2) := by
        rw [List.map_map]
        refine List.map_congr_left fun x _ => ?_
        simp
      rw [hmore] at hcrosses
      exact .cons parent t k hcrosses

/-- Following the path of a use makes its crossings. -/
theorem followPath_crosses {u : Use} (hknown : ctx.Knows u.known)
    (h : c.followPath ctx u.path = (.ok e, ctx')) :
    Crosses (u.crossings c.schema ctx.model) [] e.joins ctx ctx' ∧
      (u.crossings c.schema ctx.model ≠ [] → e.lookup? = c.lookupAlong? ctx.model u.names) := by
  obtain ⟨name, rest, hnames, hempty, hstart⟩ := followPath_ok h
  have hname : u.names = name :: rest := hnames
  rcases hstart with ⟨type, hsome, hfollow⟩ | ⟨hnone, hfollow⟩
  · have hmem : name ∈ u.known := (hknown name).mp (by simp [hsome])
    obtain ⟨rfl, hjoins, -⟩ := follow_value_ok hfollow
    have hcrossings : u.crossings c.schema ctx.model = [] := by
      simp [Use.crossings, hname, hmem]
    have hsame : (ctx.refer name).relations = ctx.relations := by simp [Context.relations]
    have hleft : ∀ path, (ctx.refer name).KeepsUnmatched path ↔ ctx.KeepsUnmatched path := by
      simp [Context.KeepsUnmatched]
    rw [hcrossings, hjoins]
    refine ⟨⟨hsame ▸ List.prefix_refl _, by simp [hsame], by simp [hsame], by simp [hleft], [],
      rfl, rfl⟩, ?_⟩
    simp
  · have hmem : name ∉ u.known := fun hmem => by simpa [hnone] using (hknown name).mpr hmem
    have hnothing : "" ∉ ([] : List String) ++ (name :: rest) := by simpa using hempty
    obtain ⟨hcrosses, hlookup⟩ := follow_crosses hnothing hfollow
    have hcrossings : u.crossings c.schema ctx.model =
        c.schema.crossings ctx.model (name :: rest) := by
      simp [Use.crossings, hname, hmem]
    rw [hcrossings]
    exact ⟨by simpa using hcrosses, fun _ => by rw [hlookup, hname]⟩

/-- Following a path keeps every document that was kept before, also if the path turns out to be
wrong. -/
theorem keepsUnmatched_follow {t : String} {place : Place} {names : List String}
    {joins : List Nat}
    (h : ctx.KeepsUnmatched t) : (c.follow path place names joins ctx).2.KeepsUnmatched t := by
  induction names generalizing place joins ctx with
  | nil => cases place <;> simpa [follow] using h
  | cons name rest ih =>
    cases place with
    | value a =>
      rw [follow]
      split
      · exact h
      · exact ih h
      · exact h
    | document m joined relation =>
      rw [follow]
      split
      · exact h
      · split
        · split
          · exact h
          · split
            · exact ih h
            · dsimp only
              split
              · exact h
              · exact ih (((Context.join_relations _ _ _ _ _).2.2.2.2 t).mpr (.inl h))
        · exact ih h

theorem keepsUnmatched_followPath {t : String} (h : ctx.KeepsUnmatched t) (path : String) :
    (c.followPath ctx path).2.KeepsUnmatched t := by
  unfold followPath
  dsimp only
  split
  · exact h
  · split
    · refine keepsUnmatched_follow ?_
      simpa [Context.KeepsUnmatched] using h
    · exact keepsUnmatched_follow h

/-! ## All paths of a query -/

/-- What following paths makes of the joins of a context. -/
structure JoinsFor (c : Compiler) (us : List Use) (ctx ctx' : Context) : Prop where
  relations : ∀ path, path ∈ ctx'.relations ↔ path ∈ ctx.relations ∨
    ∃ u ∈ us, ∃ x ∈ u.crossings c.schema ctx.model, path = Text.join "__" x.1
  nodup : ctx.relations.Nodup → ctx'.relations.Nodup
  left : ∀ path, ctx'.KeepsUnmatched path ↔ ctx.KeepsUnmatched path ∨
    ∃ u ∈ us, ∃ x ∈ u.crossings c.schema ctx.model, path = Text.join "__" x.1 ∧
      (x.2.nullable = true ∨ u.KeepsUnmatched c ctx.model)

theorem joinsFor_use {u : Use} (hknown : ctx.Knows u.known)
    (hnested : u.nested = decide (0 < ctx.nullableDepth))
    (h : c.followPath ctx u.path = (.ok e, ctx')) :
    JoinsFor c [u] ctx (Context.noteUse u e ctx') := by
  obtain ⟨hcrosses, hlookup⟩ := followPath_crosses hknown h
  obtain ⟨hrelations, hnodup, hleft⟩ := hcrosses.noteUse
  refine ⟨by simpa using hrelations, hnodup, fun path => ?_⟩
  rw [hleft]
  simp only [List.mem_singleton, exists_eq_left]
  refine or_congr_right (exists_congr fun x => and_congr_right fun hx =>
      and_congr_right fun _ =>
    or_congr_right ?_)
  rw [hlookup (List.ne_nil_of_mem hx)]
  simp [Use.KeepsUnmatched, Use.checksNull, hnested]

/-- The joins of a context are those that the paths go through, and the paths tell which of them
keep documents without a match. -/
theorem joinsFor_traced {us : List Use} (h : Traced c ctx us ctx') :
    JoinsFor c us ctx ctx' := by
  induction h with
  | quiet hmodel hjoins =>
    exact ⟨by simp [Context.relations, hjoins], by simp [Context.relations, hjoins],
      by simp [Context.KeepsUnmatched, hjoins]⟩
  | use hknown hnested hpath => exact joinsFor_use hknown hnested hpath
  | append hfirst _ ihfirst ihrest =>
    have hmodel := traced_model hfirst
    refine ⟨fun path => ?_, fun hctx => ihrest.nodup (ihfirst.nodup hctx), fun path => ?_⟩
    · rw [ihrest.relations, ihfirst.relations, hmodel, or_assoc]
      simp only [List.mem_append, or_and_right, exists_or]
    · rw [ihrest.left, ihfirst.left, hmodel, or_assoc]
      simp only [List.mem_append, or_and_right, exists_or]
  | listed hsame _ ih =>
    exact ⟨by simpa only [hsame] using ih.relations,
      ih.nodup, by simpa only [hsame] using ih.left⟩

theorem keepsUnmatched_follows {t : String} {us : List Use} {paths : List String}
    (h : Context.Follows c us paths ctx ctx') (hkept : ctx.KeepsUnmatched t) :
        ctx'.KeepsUnmatched t :=
  ((joinsFor_traced h.traced).left t).mpr (.inl hkept)

/-- Recognizing a lookup keeps every document that was kept before. -/
theorem keepsUnmatched_noteLookup {t : String} (h : ctx.KeepsUnmatched t) (r : Resolved) :
    (noteLookup r ctx).KeepsUnmatched t := by
  unfold noteLookup
  split
  · exact Context.keepsUnmatched_promote _ |>.mpr (.inl h)
  · exact h

section Plans

variable {start start' final final' : Context} {m : Model} {q q' : Query} {p p' : Plan}

theorem joinsFor_plan (hstart : start = .ofModel m ∨ start = .ofSubquery m)
    (hplan : c.planWith start q (fun ctx => c.compileAnnotations [] ctx q.annotations)
      (fun ctx => c.compileCondition ctx q.filter) = .ok (p, final)) :
    final.relations.Nodup ∧
      (∀ path, path ∈ final.relations ↔
        ∃ u ∈ q.uses, ∃ x ∈ u.crossings c.schema m, path = Text.join "__" x.1) ∧
      ∀ path, final.KeepsUnmatched path ↔
        ∃ u ∈ q.uses, ∃ x ∈ u.crossings c.schema m, path = Text.join "__" x.1 ∧
          (x.2.nullable = true ∨ u.KeepsUnmatched c m) := by
  have hjoins := joinsFor_traced (plan_follows hstart hplan)
  have hempty : start.relations = [] ∧ start.model = m ∧ ∀ path,
      ¬start.KeepsUnmatched path := by
    rcases hstart with rfl | rfl <;>
      simp [Context.relations, Context.KeepsUnmatched, Context.ofSubquery, Context.ofModel]
  obtain ⟨hrelations, rfl, hnone⟩ := hempty
  refine ⟨hjoins.nodup (by simp [hrelations]), fun path => ?_, fun path => ?_⟩
  · simpa [hrelations] using hjoins.relations path
  · simpa [hnone] using hjoins.left path

/-- Each join of a query belongs to a foreign key, and it keeps documents without a match
exactly if the key may be null or a path through it asks for that. -/
theorem kind_of_plan (hstart : start = .ofModel m ∨ start = .ofSubquery m)
    (hplan : c.planWith start q (fun ctx => c.compileAnnotations [] ctx q.annotations)
      (fun ctx => c.compileCondition ctx q.filter) = .ok (p, final)) {entry : String × Join}
    (hentry : entry ∈ final.joins) :
    ∃ f, c.schema.fieldAlong? m (Text.segments entry.1) = some f ∧
      (entry.2.kind = .left ↔ f.nullable = true ∨
        ∃ u ∈ q.uses, u.GoesThrough c.schema m (Text.segments entry.1) ∧
            u.KeepsUnmatched c m) := by
  obtain ⟨hnodup, hrelations, hleft⟩ := joinsFor_plan hstart hplan
  have hmem : entry.1 ∈ final.relations := List.mem_map_of_mem hentry
  obtain ⟨u, hu, x, hx, hpath⟩ := (hrelations entry.1).mp hmem
  obtain ⟨hsegments, hfield⟩ := Use.segments_of_mem_crossings hx
  rw [← hpath] at hsegments
  refine ⟨x.2, hsegments ▸ hfield, ?_⟩
  rw [← Context.keepsUnmatched_iff hnodup hentry, hleft, hsegments]
  constructor
  · rintro ⟨v, hv, y, hy, hsame, hkept⟩
    -- the text of the relation path tells the foreign key
    obtain ⟨hother, hfield'⟩ := Use.segments_of_mem_crossings hy
    rw [← hsame, hsegments] at hother
    rw [← hother, hfield] at hfield'
    rw [Option.some.inj hfield']
    exact hkept.imp_right fun hv' => ⟨v, hv, hother ▸ List.mem_map_of_mem hy, hv'⟩
  · rintro (hnullable | ⟨v, hv, hthrough, hkept⟩)
    · exact ⟨u, hu, x, hx, hpath, .inl hnullable⟩
    · obtain ⟨y, hy, hsame⟩ := List.mem_map.mp hthrough
      exact ⟨v, hv, y, hy, by rw [hpath, hsame], .inr hkept⟩

/-- A join keeps documents without a match exactly if its foreign key may be null, or a path
through it stands below a disjunction or negation or is that of a check for null.  Two queries
with the same paths, in whichever order, have joins of the same kinds, and nothing that is
compiled makes a join drop documents again. -/
theorem join_kinds_of_uses (hstart : start = .ofModel m ∨ start = .ofSubquery m)
    (hplan : c.planWith start q (fun ctx => c.compileAnnotations [] ctx q.annotations)
      (fun ctx => c.compileCondition ctx q.filter) = .ok (p, final)) :
    (∀ entry ∈ final.joins, ∃ f, c.schema.fieldAlong? m (Text.segments entry.1) = some f ∧
      (entry.2.kind = .left ↔ f.nullable = true ∨
        ∃ u ∈ q.uses, u.GoesThrough c.schema m (Text.segments entry.1) ∧
          u.KeepsUnmatched c m)) ∧
      (∀ (start' final' : Context) (q' : Query) (p' : Plan),
        (start' = .ofModel m ∨ start' = .ofSubquery m) →
        c.planWith start' q' (fun ctx => c.compileAnnotations [] ctx q'.annotations)
          (fun ctx => c.compileCondition ctx q'.filter) = .ok (p', final') →
        (∀ u, u ∈ q'.uses ↔ u ∈ q.uses) →
        ∀ entry ∈ final.joins, ∃ entry' ∈ final'.joins,
          entry'.1 = entry.1 ∧ entry'.2.kind = entry.2.kind) ∧
      ∀ (ctx : Context) (t : String), ctx.KeepsUnmatched t →
        (∀ path, (c.followPath ctx path).2.KeepsUnmatched t) ∧
          (∀ r, (noteLookup r ctx).KeepsUnmatched t) ∧
          (∀ f v ctx', c.compileFilter ctx f = .ok (v, ctx') → ctx'.KeepsUnmatched t) ∧
          ∀ e v type ctx', c.compileExpr ctx e = .ok ((v, type), ctx') →
              ctx'.KeepsUnmatched t := by
  refine ⟨fun entry hentry => kind_of_plan hstart hplan hentry, ?_, fun ctx t hkept =>
    ⟨?_, ?_, ?_, ?_⟩⟩
  · intro start' final' q' p' hstart' hplan' hsame entry hentry
    have hthere := (joinsFor_plan hstart hplan).2.1 entry.1 |>.mp (List.mem_map_of_mem hentry)
    simp only [← hsame] at hthere
    obtain ⟨entry', hentry', hpath⟩ :=
      List.mem_map.mp (((joinsFor_plan hstart' hplan').2.1 entry.1).mpr hthere)
    refine ⟨entry', hentry', hpath, ?_⟩
    obtain ⟨f, hf, hkind⟩ := kind_of_plan hstart hplan hentry
    obtain ⟨g, hg, hkind'⟩ := kind_of_plan hstart' hplan' hentry'
    rw [hpath, hf] at hg
    simp only [hpath, hsame, ← Option.some.inj hg, ← hkind] at hkind'
    cases hone : entry.2.kind <;> cases hother : entry'.2.kind <;> simp_all
  · exact keepsUnmatched_followPath hkept
  · exact keepsUnmatched_noteLookup hkept
  · exact fun f v ctx' hf =>
      keepsUnmatched_follows (compileFilter_follows ctx f ctx.knows_annotations rfl hf) hkept
  · exact fun e v type ctx' he =>
      keepsUnmatched_follows (compileExpr_follows ctx e ctx.knows_annotations rfl he) hkept

end Plans

/-- Loans of books to people. -/
def loan : Model where
  name := "Loan"
  storedCollection := some "loans"
  embedded := false
  fields := [Model.primaryKey, ⟨"book", .foreignKey "Book" none none, false, none⟩,
    ⟨"reader", .foreignKey "Reader" none none, false, none⟩]

/-- Loans with the books and their readers. -/
def lending : Compiler where
  schema := ⟨[loan,
    ⟨"Book", some "books", false, [Model.primaryKey, ⟨"title", .scalar .string, false, none⟩]⟩,
    ⟨"Reader", some "readers", false, [Model.primaryKey, ⟨"name", .scalar .string,
      false, none⟩]⟩]⟩
  config := .usual

/-- The loans of a book, in the order of the readers, apart from those to Ann. -/
def loansOfOthers : Query :=
  .mk "Loan"
    (some (.and [.lookup "book__title" (.literal (.string "Iliad")),
      .not (.lookup "reader__name" (.literal (.string "Ann")))]))
    [] [] [⟨"reader__name", false⟩] none none [] none

/-- The negation keeps the loans without a reader, also for the order, but those without a book
are dropped. -/
theorem loansOfOthers_kinds :
    ∃ p final book reader,
      lending.planWith (.ofModel loan) loansOfOthers
        (fun ctx => lending.compileAnnotations [] ctx loansOfOthers.annotations)
        (fun ctx => lending.compileCondition ctx loansOfOthers.filter) = .ok (p, final) ∧
      final.joins = [("book", book), ("reader", reader)] ∧ book.kind ≠ .left ∧
          reader.kind = .left := by
  obtain ⟨p, final, book, reader, hplan, hjoins⟩ : ∃ p final book reader,
      lending.planWith (.ofModel loan) loansOfOthers
        (fun ctx => lending.compileAnnotations [] ctx loansOfOthers.annotations)
        (fun ctx => lending.compileCondition ctx loansOfOthers.filter) = .ok (p, final) ∧
      final.joins = [("book", book), ("reader", reader)] := ⟨_, _, _, _, rfl, rfl⟩
  obtain ⟨hkinds, -, -⟩ := join_kinds_of_uses (.inl rfl) hplan
  obtain ⟨f, hf, hbook⟩ := hkinds ("book", book) (by simp [hjoins])
  obtain ⟨g, hg, hreader⟩ := hkinds ("reader", reader) (by simp [hjoins])
  have hfield : lending.schema.fieldAlong? loan (Text.segments "book") =
      some ⟨"book", .foreignKey "Book" none none, false, none⟩ := by decide +kernel
  obtain rfl := Option.some.inj (hf.symm.trans hfield)
  dsimp only at hbook hreader
  refine ⟨p, final, book, reader, hplan, hjoins, ?_, hreader.mpr (.inr ?_)⟩
  · rw [ne_eq, hbook]
    decide +kernel
  · decide +kernel

end Compiler

end DocQuery
