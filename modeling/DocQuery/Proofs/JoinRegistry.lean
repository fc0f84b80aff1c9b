import DocQuery.Proofs.JoinKinds
import Mathlib.Logic.Relation
set_option autoImplicit false

/-!
# Proofs: the joins that a context registers

A context registers a join for each relation that a path goes through.  Whatever is done with
the context, the joins have different aliases, which are apart from the collection and the
columns of the model, each of them belongs to one relation, and each starts where the relation
before its last name leads.  Joins are never taken back:  all that changes about one is that it
may come to keep documents without a match.
-/

namespace DocQuery

namespace Context

variable {m : Model} {ctx ctx' : Context}

/-! ## The search for an alias -/

/-- The search for an alias: a name that is taken is followed by the next numbered one, and one
that is not taken is found. -/
inductive Searches (ctx : Context) : String → Nat → String → Prop where
  | free {name : String} {n : Nat} (h : name ∉ ctx.takenNames) : Searches ctx name n name
  | taken {name found : String} {n : Nat} (h : name ∈ ctx.takenNames)
    (rest : Searches ctx (numberedAlias (n + 1)) (n + 1) found) : Searches ctx name n found

/-- The search finds at most one alias. -/
theorem Searches.unique {name found other : String} {n : Nat} (h : ctx.Searches name n found)
    (h' : ctx.Searches name n other) : found = other := by
  induction h with
  | free hfree =>
    cases h' with
    | free => rfl
    | taken htaken => exact absurd htaken hfree
  | taken htaken _ ih =>
    cases h' with
    | free hfree => exact absurd htaken hfree
    | taken _ hrest => exact ih hrest

/-- The search goes through the numbered names in order. -/
theorem searches_of_find? {name found : String} {n count : Nat}
    (h : (name :: (List.range count).map fun i => numberedAlias (n + 1 + i)).find?
      (fun a => !ctx.takenNames.contains a) = some found) : ctx.Searches name n found := by
  induction count generalizing name n with
  | zero =>
    have hfree : name ∉ ctx.takenNames := fun htaken => by simp [htaken] at h
    rw [List.find?_cons_of_pos (by simpa using hfree)] at h
    exact Option.some.inj h ▸ .free hfree
  | succ count ih =>
    by_cases htaken : name ∈ ctx.takenNames
    · refine .taken htaken (ih ?_)
      have hnumbers : (List.range (count + 1)).map (fun i => numberedAlias (n + 1 + i)) =
          numberedAlias (n + 1) :: (List.range count).map fun i => numberedAlias
              (n + 1 + 1 + i) := by
        rw [List.range_succ_eq_map, List.map_cons, List.map_map]
        refine congrArg _ (List.map_congr_left fun i _ => ?_)
        rw [Function.comp_apply, Nat.add_right_comm (n + 1) 1 i]
        rfl
      rwa [hnumbers, List.find?_cons_of_neg (by simpa using htaken)] at h
    · rw [List.find?_cons_of_pos (by simpa using htaken)] at h
      obtain rfl := Option.some.inj h
      exact .free htaken

/-- The search for an alias ends, in any context: there are more numbered names than taken
ones. -/
theorem searches_iff (ctx : Context) (collection found : String) :
    ctx.Searches collection ctx.joins.length found ↔ found = ctx.freshAlias collection := by
  have hends : ctx.Searches collection ctx.joins.length (ctx.freshAlias collection) := by
    obtain ⟨a, ha, hfree⟩ := exists_candidate_notMem ctx collection
    cases hfind : (ctx.candidateAliases collection).find? fun a =>
        !ctx.takenNames.contains a with
    | none =>
      have hall := List.find?_eq_none.mp hfind a ha
      simp [hfree] at hall
    | some b =>
      rw [freshAlias, hfind]
      exact searches_of_find? hfind
  exact ⟨fun h => h.unique hends, fun h => h ▸ hends⟩

/-! ## Joins that are kept -/

/-- Whether joins are kept among later ones, at their places and for their relations.  They are
the same up to their kinds, of which only that of a left join can be new. -/
def JoinsKept (joins later : List (String × Join)) : Prop :=
  ∀ (i : Nat) (path : String) (j : Join), joins[i]? = some (path, j) →
    ∃ kind, later[i]? = some (path, { j with kind := kind }) ∧ (kind = j.kind ∨ kind = .left)

namespace JoinsKept

variable {joins later latest : List (String × Join)}

theorem refl (joins : List (String × Join)) : JoinsKept joins joins :=
    fun _ _ j hj => ⟨j.kind, hj, .inl rfl⟩

theorem trans (h : JoinsKept joins later) (h' : JoinsKept later latest) :
    JoinsKept joins latest := by
  intro i path j hj
  obtain ⟨kind, hkept, hkind⟩ := h i path j hj
  obtain ⟨kind', hkept', hkind'⟩ := h' i path _ hkept
  refine ⟨kind', hkept', ?_⟩
  rcases hkind' with rfl | rfl
  · exact hkind
  · exact .inr rfl

theorem append (joins more : List (String × Join)) : JoinsKept joins (joins ++ more) := by
  intro i path j hj
  exact ⟨j.kind, by rw [List.getElem?_append_left (List.getElem?_eq_some_iff.mp hj).1, hj],
    .inl rfl⟩

theorem take (h : JoinsKept joins later) (n : Nat) :
    JoinsKept (joins.take n) (later.take n) := by
  intro i path j hj
  rw [List.getElem?_take] at hj
  split at hj
  · rename_i hi
    rw [List.getElem?_take, if_pos hi]
    exact h i path j hj
  · simp at hj

theorem promoteAt (ctx : Context) (index : Nat) :
    JoinsKept ctx.joins (ctx.promoteAt index).joins := by
  intro i path j hj
  rw [Context.promoteAt, List.getElem?_modify, hj]
  by_cases hi : index = i
  · exact ⟨.left, by simp [hi, keepUnmatched], .inr rfl⟩
  · exact ⟨j.kind, by simp [hi], .inl rfl⟩

theorem promote (ctx : Context) (indices : List Nat) :
    JoinsKept ctx.joins (ctx.promote indices).joins := by
  induction indices generalizing ctx with
  | nil => exact refl _
  | cons index rest ih => exact (promoteAt ctx index).trans (ih (ctx.promoteAt index))

end JoinsKept

/-! ## Where joins start -/

/-- The alias of the documents that some names lead to, of which those of the query itself have
none. -/
inductive JoinedAs (joins : List (String × Join)) : List String → Option String → Prop where
  | query : JoinedAs joins [] none
  | along {path : String} {j : Join} (h : (path, j) ∈ joins) :
    JoinedAs joins (Text.segments path) (some j.joined)

theorem JoinedAs.mono {joins later : List (String × Join)} {names : List String}
    {joined : Option String}
    (h : JoinedAs joins names joined) (hkept : JoinsKept joins later) :
        JoinedAs later names joined := by
  cases h with
  | query => exact .query
  | @along path j hmem =>
    obtain ⟨i, hi⟩ := List.mem_iff_getElem?.mp hmem
    obtain ⟨kind, hlater, -⟩ := hkept i path j hi
    exact .along (j := { j with kind := kind }) (List.mem_of_getElem? hlater)

/-- Whether a join starts where the names before the last one of its path lead. -/
def StartsIn (joins : List (String × Join)) (path : String) (j : Join) : Prop :=
  ∃ front name, Text.segments path = front ++ [name] ∧ JoinedAs joins front j.parentAlias

theorem StartsIn.mono {joins later : List (String × Join)} {path : String} {j : Join}
    (h : StartsIn joins path j) (hkept : JoinsKept joins later) : StartsIn later path j := by
  obtain ⟨front, name, hpath, hparent⟩ := h
  exact ⟨front, name, hpath, hparent.mono hkept⟩

/-! ## The registry -/

/-- The aliases of the joins, in order. -/
def joinAliases (ctx : Context) : List String := ctx.joins.map (·.2.joined)

/-- A context whose joins are a registry of the relations from a model. -/
structure Registers (m : Model) (ctx : Context) : Prop where
  model : ctx.model = m
  /-- joins have different aliases -/
  aliases : ctx.joinAliases.Nodup
  /-- no alias hides what documents of the model have by themselves -/
  apart : ∀ name ∈ ctx.joinAliases, name ≠ m.collection ∧ name ∉ m.columns
  /-- a relation has one join -/
  relations : ctx.relations.Nodup
  /-- a join starts at the documents of the query or at an earlier join -/
  starts : ∀ (i : Nat) (path : String) (j : Join), ctx.joins[i]? = some (path, j) →
    StartsIn (ctx.joins.take i) path j

/-- The join of a relation path is the only one that was registered for it. -/
theorem joinIndex?_eq_some_iff (hnodup : ctx.relations.Nodup) {path : String} {i : Nat} :
    ctx.joinIndex? path = some i ↔ ∃ j, ctx.joins[i]? = some (path, j) := by
  have hjoin : (∃ j, ctx.joins[i]? = some (path, j)) ↔ ctx.relations[i]? = some path := by
    simp [relations]
  rw [hjoin]
  refine ⟨relations_joinIndex?, fun hi => ?_⟩
  cases hk : ctx.joinIndex? path with
  | none => exact absurd (List.mem_of_getElem? hi) (joinIndex?_eq_none_iff.mp hk)
  | some k =>
    have hpath := relations_joinIndex? hk
    have hlt : k < ctx.relations.length := (List.getElem?_eq_some_iff.mp hpath).1
    rw [(List.getElem?_inj hlt hnodup).mp (hpath.trans hi.symm)]

@[simp] theorem joinAliases_promoteAt (ctx : Context) (index : Nat) :
    (ctx.promoteAt index).joinAliases = ctx.joinAliases :=
        map_promoteAt (fun _ => rfl) ctx index

namespace Registers

theorem of_eq (h : ctx.Registers m) (hmodel : ctx'.model = ctx.model)
    (hjoins : ctx'.joins = ctx.joins) : ctx'.Registers m where
  model := hmodel.trans h.model
  aliases := by rw [joinAliases, hjoins]; exact h.aliases
  apart := by rw [joinAliases, hjoins]; exact h.apart
  relations := by rw [Context.relations, hjoins]; exact h.relations
  starts := by rw [hjoins]; exact h.starts

theorem promoteAt (h : ctx.Registers m) (index : Nat) : (ctx.promoteAt index).Registers m where
  model := h.model
  aliases := by rw [joinAliases_promoteAt]; exact h.aliases
  apart := by rw [joinAliases_promoteAt]; exact h.apart
  relations := by rw [relations_promoteAt]; exact h.relations
  starts := by
    intro i path j hj
    -- the join was there before, with the same path and the same parent
    have hsame := congrArg (·[i]?) (map_promoteAt (g := fun entry =>
      (entry.1, entry.2.parentAlias)) (fun _ => rfl) ctx index)
    simp only [List.getElem?_map, hj] at hsame
    obtain ⟨⟨_, k⟩, hk, hentry⟩ := Option.map_eq_some_iff.mp hsame.symm
    obtain ⟨rfl, hparent⟩ := Prod.mk.inj hentry
    have hstarts := (h.starts i _ k hk).mono ((JoinsKept.promoteAt ctx index).take i)
    rwa [StartsIn, hparent] at hstarts

theorem promote (h : ctx.Registers m) (indices : List Nat) :
    (ctx.promote indices).Registers m := by
  induction indices generalizing ctx with
  | nil => exact h
  | cons index rest ih => exact ih (h.promoteAt index)

/-- One more join, with an alias that is not taken, for a relation without a join. -/
theorem append (h : ctx.Registers m) {path : String} {j : Join}
    (halias : j.joined ∉ ctx.takenNames)
    (hpath : path ∉ ctx.relations) (hstarts : StartsIn ctx.joins path j) :
    { ctx with joins := ctx.joins ++ [(path, j)] }.Registers m where
  model := h.model
  aliases := by
    have hnew : j.joined ∉ ctx.joinAliases := fun hmem =>
      halias (List.mem_cons_of_mem _ (List.mem_append_right _ hmem))
    simpa [joinAliases] using h.aliases.concat hnew
  apart := by
    rw [joinAliases, List.map_append, List.forall_mem_append]
    have hmodel := h.model
    simp only [takenNames, Context.collection, List.mem_cons, List.mem_append, not_or] at halias
    exact ⟨h.apart, by simpa [← hmodel] using ⟨halias.1, halias.2.1.1⟩⟩
  relations := by simpa [Context.relations] using h.relations.concat hpath
  starts := by
    intro i path' j' hj
    rcases Nat.lt_or_ge i ctx.joins.length with hi | hi
    · rw [List.getElem?_append_left hi] at hj
      rw [List.take_append_of_le_length hi.le]
      exact h.starts i path' j' hj
    · rw [List.getElem?_append_right hi, List.getElem?_singleton] at hj
      split at hj
      · obtain ⟨rfl, rfl⟩ := Prod.mk.inj (Option.some.inj hj)
        rw [show i = ctx.joins.length by omega, List.take_left]
        exact hstarts
      · simp at hj

/-- A relation from where documents are joined keeps the registry, and the documents behind it
are joined as the alias that it gives. -/
theorem join (h : ctx.Registers m) {path name : String} {front : List String}
    {parent : Option String}
    (hpath : Text.segments path = front ++ [name])
    (hparent : JoinedAs ctx.joins front parent) (f : Field)
    (target : Model) (k : Field) :
    (ctx.join path parent f target k).2.Registers m ∧
      JoinsKept ctx.joins (ctx.join path parent f target k).2.joins ∧
      JoinedAs (ctx.join path parent f target k).2.joins (front ++ [name])
        (some (ctx.join path parent f target k).1.1) := by
  unfold Context.join
  split
  · rename_i index hindex
    obtain ⟨j, hj⟩ := (joinIndex?_eq_some_iff h.relations).mp hindex
    have hjoined : JoinedAs ctx.joins (front ++ [name]) (some (ctx.aliasAt index)) := by
      rw [← hpath, aliasAt, hj]
      exact .along (List.mem_of_getElem? hj)
    dsimp only
    cases ctx.joinKind f with
    | left =>
      have hkept := JoinsKept.promoteAt ctx index
      exact ⟨h.promoteAt index, hkept, hjoined.mono hkept⟩
    | inner => exact ⟨h, .refl _, hjoined⟩
  · rename_i hindex
    have hfresh := joinIndex?_eq_none_iff.mp hindex
    refine ⟨h.append (freshAlias_notMem ctx target.collection) hfresh ⟨front, name, hpath,
      hparent⟩, .append _ _, ?_⟩
    rw [← hpath]
    exact .along (List.mem_append_right _ List.mem_cons_self)

end Registers

end Context

/-! ## Paths -/

namespace Compiler

open Context (JoinedAs JoinsKept)

variable {c : Compiler} {m : Model} {ctx : Context} {path : String}

/-- Names from where documents are joined keep the registry, even if the path turns out to be
wrong. -/
theorem follow_registers {m' : Model} {names done : List String} {joined : Option String}
    (joins : List Nat)
    (hpath : Text.segments path = done ++ names) (hempty : "" ∉ done ++ names)
    (h : ctx.Registers m)
    (hjoined : JoinedAs ctx.joins done joined) :
    (c.follow path (.document m' joined (Text.join "__" done)) names joins ctx).2.Registers m ∧
      JoinsKept ctx.joins (c.follow path (.document m' joined (Text.join "__" done)) names joins
          ctx).2.joins := by
  -- on the names that are left; what the names done so far are joined as stays true when there
  -- are more joins
  induction names generalizing m' done joined joins ctx with
  | nil => exact ⟨h, .refl _⟩
  | cons name rest ih =>
    rw [follow]
    split
    · exact ⟨h, .refl _⟩
    rename_i f _
    dsimp only
    split
    · split
      · exact ⟨h, .refl _⟩
      rename_i target _
      split
      · rw [follow_value_snd]
        exact ⟨h, .refl _⟩
      rename_i hreads
      split
      · exact ⟨h, .refl _⟩
      rename_i k _
      have hsplit : Text.segments path = (done ++ [name]) ++ rest := by simpa using hpath
      -- names follow, without which the text of the relation could be split into other names
      have hrest : rest ≠ [] := by
        rintro rfl
        simp [readsStoredKey] at hreads
      have htext := Text.segments_join (by simp) (Text.isPart_of_segments hsplit hrest)
      rw [relationPath_join fun hmem => hempty (List.mem_append_left _ hmem)]
      obtain ⟨hregisters, hkept, hbehind⟩ := h.join htext hjoined f target k
      obtain ⟨hregisters', hkept'⟩ := ih (joins ++ [_]) hsplit (by simpa using hempty)
        hregisters hbehind
      exact ⟨hregisters', hkept.trans hkept'⟩
    · rw [follow_value_snd]
      exact ⟨h, .refl _⟩

theorem followPath_registers (h : ctx.Registers m) (path : String) :
    (c.followPath ctx path).2.Registers m ∧ JoinsKept ctx.joins
        (c.followPath ctx path).2.joins := by
  unfold followPath
  dsimp only
  split
  · exact ⟨h, .refl _⟩
  rename_i hfull
  have hempty : "" ∉ [] ++ Text.segments path := by simpa using hfull
  split
  · rw [follow_value_snd, Context.joins_refer]
    exact ⟨h.of_eq (Context.Alike.refer ctx _).model (Context.joins_refer ctx _), .refl _⟩
  · exact follow_registers [] (List.nil_append _).symm hempty h .query

theorem resolveLookup_snd (c : Compiler) (ctx : Context) (path : String) :
    (c.resolveLookup ctx path).2 = (c.followPath ctx path).2 := by
  unfold resolveLookup
  split <;> simp_all

theorem resolveField_snd (c : Compiler) (ctx : Context) (path : String) :
    (c.resolveField ctx path).2 = (c.followPath ctx path).2 := by
  unfold resolveField
  split <;> simp_all

end Compiler

/-! ## Runs -/

namespace Context

open Relation (ReflTransGen)

variable {c : Compiler} {m : Model} {start ctx ctx' : Context}

/-- A context and what it becomes by one of the things that are done with it.  Of these, paths
are the ones that register joins, also if they turn out to be wrong. -/
inductive Advances (c : Compiler) : Context → Context → Prop where
  | lookup (ctx : Context) (path : String) : Advances c ctx (c.resolveLookup ctx path).2
  | field (ctx : Context) (path : String) : Advances c ctx (c.resolveField ctx path).2
  | addAnnotation (ctx : Context) (name : String) (type : ValueType) :
    Advances c ctx (ctx.addAnnotation name type)
  | clearRefs (ctx : Context) : Advances c ctx ctx.clearRefs
  | promote (ctx : Context) (indices : List Nat) : Advances c ctx (ctx.promote indices)
  | enter (ctx : Context) : Advances c ctx ctx.enter
  | leave (ctx : Context) : Advances c ctx ctx.leave
  | nextSubquery (ctx : Context) : Advances c ctx ctx.nextSubquery.2
  | pushStages (ctx : Context) (stages : List Stage) : Advances c ctx (ctx.pushStages stages)
  | outerRef (ctx : Context) (path : String) : Advances c ctx (ctx.outerRef path).2

/-- An outer reference leaves the model and the joins as they are. -/
theorem outerRef_registers (h : ctx.Registers m) (path : String) :
    (ctx.outerRef path).2.Registers m ∧ JoinsKept ctx.joins (ctx.outerRef path).2.joins := by
  unfold outerRef
  split
  · exact ⟨h, .refl _⟩
  · split <;> exact ⟨h.of_eq rfl rfl, .refl _⟩

/-- One step keeps the registry and the joins in it. -/
theorem Advances.registers (h : Advances c ctx ctx') (hctx : ctx.Registers m) :
    ctx'.Registers m ∧ JoinsKept ctx.joins ctx'.joins := by
  cases h with
  | lookup path =>
    rw [Compiler.resolveLookup_snd]
    exact Compiler.followPath_registers hctx path
  | field path =>
    rw [Compiler.resolveField_snd]
    exact Compiler.followPath_registers hctx path
  | promote indices => exact ⟨hctx.promote indices, .promote _ _⟩
  | outerRef path => exact outerRef_registers hctx path
  | addAnnotation name type => exact ⟨hctx.of_eq rfl rfl, .refl _⟩
  | clearRefs => exact ⟨hctx.of_eq rfl rfl, .refl _⟩
  | enter => exact ⟨hctx.of_eq rfl rfl, .refl _⟩
  | leave => exact ⟨hctx.of_eq rfl rfl, .refl _⟩
  | nextSubquery => exact ⟨hctx.of_eq rfl rfl, .refl _⟩
  | pushStages stages => exact ⟨hctx.of_eq rfl rfl, .refl _⟩

/-- Any number of steps keeps the registry and the joins in it. -/
theorem registers_of_advances (h : ReflTransGen (Advances c) ctx ctx')
    (hctx : ctx.Registers m) : ctx'.Registers m ∧ JoinsKept ctx.joins ctx'.joins := by
  induction h with
  | refl => exact ⟨hctx, .refl _⟩
  | tail _ hstep ih =>
    obtain ⟨hregisters, hkept⟩ := hstep.registers ih.1
    exact ⟨hregisters, ih.2.trans hkept⟩

theorem registers_ofModel (m : Model) : (ofModel m).Registers m := by
  refine ⟨rfl, ?_, ?_, ?_, ?_⟩ <;> simp [ofModel, joinAliases, relations]

/-- Whatever sequence of things is done with the context of a query or a subquery, with any
schema, its joins are a registry:  their aliases are different, and none is the name of the
collection or a column of the model, there is one join for each relation, and each starts at the
documents of the query or at the alias of an earlier join.  All that later changes about a join
is that its kind comes to be left.  And the search for an alias ends in any such context. -/
theorem joins_registered (hstart : start = ofModel m ∨ start = ofSubquery m)
    (h : ReflTransGen (Advances c) start ctx) :
    ctx.Registers m ∧
      (∀ path i, ctx.joinIndex? path = some i ↔ ∃ j, ctx.joins[i]? = some (path, j)) ∧
      (∀ ctx', ReflTransGen (Advances c) ctx ctx' → JoinsKept ctx.joins ctx'.joins) ∧
      ∀ collection found, ctx.Searches collection ctx.joins.length found ↔
          found = ctx.freshAlias collection := by
  have hfirst : start.Registers m := by
    rcases hstart with rfl | rfl
    · exact registers_ofModel m
    · exact (registers_ofModel m).of_eq rfl rfl
  have hctx := (registers_of_advances h hfirst).1
  exact ⟨hctx, fun _ _ => joinIndex?_eq_some_iff hctx.relations, fun _ hlater =>
    (registers_of_advances hlater hctx).2, searches_iff ctx⟩

/-- Curators, who may have a boss. -/
def curator : Model where
  name := "Curator"
  storedCollection := none
  embedded := false
  fields := [Model.primaryKey, ⟨"name", .scalar .string, false, none⟩,
    ⟨"boss", .foreignKey "Curator" none none, true, none⟩]

/-- Exhibits with an owner among the curators.  Two columns have the first names that an alias
of curators could have. -/
def exhibit : Model where
  name := "Exhibit"
  storedCollection := none
  embedded := false
  fields := [Model.primaryKey, ⟨"curator", .scalar .string, false, none⟩,
    ⟨"T1", .scalar .string, true, none⟩,
    ⟨"owner", .foreignKey "Curator" none none, false, none⟩]

/-- Exhibits and curators. -/
def exhibits : Compiler := ⟨⟨[curator, exhibit]⟩, .usual⟩

/-- The context after a path in a disjunction that turns out to be wrong behind two relations,
and one that is right. -/
def exhibitOwners : Context :=
  (exhibits.resolveField (exhibits.resolveLookup (ofModel exhibit).enter
    "owner__boss__salary").2.leave "owner__name").2

/-- The wrong path registers the owner and the boss of the owner, whose aliases pass over the
columns and over one another, and the other path finds the owner again. -/
theorem exhibitOwners_registered :
    exhibitOwners.joins =
        [("owner", ⟨none, "curator", "T2", [⟨"owner_id", "_id", "long", "long"⟩], .left⟩),
          ("owner__boss", ⟨some "T2", "curator", "T3", [⟨"boss_id", "_id", "long", "long"⟩],
            .left⟩)] ∧
      exhibitOwners.Registers exhibit := by
  have hrun : ReflTransGen (Advances exhibits) (ofModel exhibit) exhibitOwners :=
    (((ReflTransGen.single (.enter _)).tail (.lookup _ "owner__boss__salary")).tail
      (.leave _)).tail (.field _ "owner__name")
  exact ⟨by decide +kernel, (joins_registered (.inl rfl) hrun).1⟩

end Context

end DocQuery
