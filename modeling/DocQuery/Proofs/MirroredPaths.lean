import DocQuery.Proofs.ClosedPaths
import DocQuery.Proofs.MirroredExpressions
import DocQuery.Proofs.Relations
import DocQuery.Proofs.Relocation
set_option autoImplicit false

/-!
# Proofs: paths in contexts that mirror each other

The same path leads to the same value in two contexts that have joined the same relations,
though a document may be joined under different aliases there.
-/

namespace DocQuery

/-- Whether a name can stand in a path as it is. -/
def IsPlainName (name : String) : Prop := '.' ∉ name.toList ∧ isOperatorName name = false

instance (name : String) : Decidable (IsPlainName name) := inferInstanceAs (Decidable (_ ∧ _))

namespace Value.Mirrors

variable {R : String → String → Prop} {x x' : String}

/-- A field of the row. -/
theorem column (h : R x x') (hx : IsPlainName x) (hx' : IsPlainName x') :
    Mirrors R (.string ("$" ++ x)) (.string ("$" ++ x')) :=
  .path h (pathNames_of_plain hx.1) (pathNames_of_plain hx'.1) hx.2 hx'.2

/-- What stands at a path in a field of the row. -/
theorem columnPath (h : R x x') (hx : IsPlainName x) (hx' : IsPlainName x') (path : String) :
    Mirrors R (.string ("$" ++ x ++ "." ++ path)) (.string ("$" ++ x' ++ "." ++ path)) :=
  extend (column h hx hx') path

end Value.Mirrors

/-! ## Accesses -/

/-- Whether two accesses differ at most in the fields of the row that they start from, which are
then related. -/
inductive Access.Mirrors (R : String → String → Prop) : Access → Access → Prop where
  | own {name : String} (type : ValueType) (h : R name name) :
    Mirrors R (.column none name type) (.column none name type)
  | joined {x x' : String} (name : String) (type : ValueType) (h : R x x') :
    Mirrors R (.column (some x) name type) (.column (some x') name type)
  | item (type : ValueType) : Mirrors R (.item type) (.item type)
  | computed {name : String} (type : ValueType) (h : R name name) :
    Mirrors R (.computed name type) (.computed name type)
  | key {base base' : Access} (name : String) (type : ValueType) (h : Mirrors R base base') :
    Mirrors R (.key base name type) (.key base' name type)
  | jsonKey {base base' : Access} (name : String) (type : ValueType)
    (h : Mirrors R base base') :
    Mirrors R (.jsonKey base name type) (.jsonKey base' name type)
  | index {base base' : Access} (position : Int64) (type : ValueType)
    (h : Mirrors R base base') :
    Mirrors R (.index base position type) (.index base' position type)
  | slice {base base' : Access} (start stop : Int64) (type : ValueType)
    (h : Mirrors R base base') :
    Mirrors R (.slice base start stop type) (.slice base' start stop type)
  | length {base base' : Access} (type : ValueType) (h : Mirrors R base base') :
    Mirrors R (.length base type) (.length base' type)
  | each {base base' inner inner' : Access} (hbase : Mirrors R base base')
    (hinner : Mirrors R inner inner') :
    Mirrors R (.each base inner) (.each base' inner')

namespace Access.Mirrors

variable {R : String → String → Prop} {a a' : Access}

theorem mono {S : String → String → Prop} (hsub : ∀ x x', R x x' → S x x')
    (h : Access.Mirrors R a a') : Access.Mirrors S a a' := by
  induction h with
  | own type h => exact .own type (hsub _ _ h)
  | joined name type h => exact .joined name type (hsub _ _ h)
  | item type => exact .item type
  | computed type h => exact .computed type (hsub _ _ h)
  | key name type _ ih => exact .key name type ih
  | jsonKey name type _ ih => exact .jsonKey name type ih
  | index position type _ ih => exact .index position type ih
  | slice start stop type _ ih => exact .slice start stop type ih
  | length type _ ih => exact .length type ih
  | each _ _ ihbase ihinner => exact .each ihbase ihinner

theorem type_eq (h : Access.Mirrors R a a') : a'.type = a.type := by
  induction h with
  | each _ _ _ ihinner => exact congrArg ValueType.mapped ihinner
  | _ => rfl

/-- It is kept by the names on a path that an access mirrors itself behind another alias. -/
theorem isKept (R : String → String → Prop) (joined : Option String) :
    Access.IsKept fun _ a => Access.Mirrors R a (a.under joined) where
  item := fun type _ => .item type
  key := fun name type h => .key name type h
  jsonKey := fun name type h => .jsonKey name type h
  index := fun position type h => .index position type h
  slice := fun start stop type h => .slice start stop type h
  length := fun type h => .length type h
  each := by
    intro _ base inner
    constructor
    · rintro ⟨⟩
      exact ⟨‹_›, ‹_›⟩
    · exact fun h => .each h.1 h.2

section Render

variable (hR : ∀ x x', R x x' → IsPlainName x ∧ IsPlainName x')
include hR

open Value.Mirrors

/-- Mirrored accesses are written as mirrored expressions. -/
theorem render (h : Access.Mirrors R a a') : Value.Mirrors R a.render a'.render := by
  induction h with
  | own type h => exact Value.Mirrors.column h (hR _ _ h).1 (hR _ _ h).1
  | joined name type h => exact Value.Mirrors.columnPath h (hR _ _ h).1 (hR _ _ h).2 name
  | item type => exact Value.Mirrors.item
  | computed type h => exact Value.Mirrors.column h (hR _ _ h).1 (hR _ _ h).1
  | key name type _ ih => exact Value.Mirrors.keyOf ih name
  | jsonKey name type _ ih => exact .field name ih
  | index position type _ ih => exact .apply .elementAt (array (pair ih (int position)))
  | slice start stop type _ ih =>
    exact .apply .slice (array (.cons ih (pair (int start) (int (stop - start)))))
  | length type _ ih => exact Value.Mirrors.lengthOf ih
  | each _ _ ihbase ihinner => exact Value.Mirrors.mapOf ihbase ihinner

/-- A lookup on mirrored accesses with mirrored operands gives mirrored expressions. -/
theorem buildOn {l : Lookup} {w w' e : Value} (h : Access.Mirrors R a a')
    (hw : Value.Mirrors R w w')
    (he : l.buildOn a w = .ok e) : ∃ e', l.buildOn a' w' = .ok e' ∧ Value.Mirrors R e e' := by
  have hplain := build l (render hR h) hw
  unfold Lookup.buildOn at he ⊢
  rw [h.type_eq]
  split at he
  · rename_i hmapped
    rw [if_pos hmapped]
    unfold Lookup.buildMapped at he ⊢
    split at he
    · rename_i hwhole
      obtain rfl := Except.ok.inj he
      exact ⟨_, if_pos hwhole, hplain⟩
    · rename_i hwhole
      rw [if_neg hwhole]
      cases h with
      | each hbase hinner =>
        obtain rfl := Except.ok.inj he
        refine ⟨_, rfl, .apply .anyElementTrue (Value.Mirrors.mapOf (render hR hbase) ?_)⟩
        exact build l (render hR hinner) hw
      | _ => simp at he
  · rename_i hmapped
    obtain rfl := Except.ok.inj he
    exact ⟨_, if_neg hmapped, hplain⟩

end Render

end Access.Mirrors

/-! ## Stages -/

/-- Whether fields have the same names and mirrored expressions. -/
def Document.Mirrors (R : String → String → Prop) (fields others : Document) : Prop :=
  List.Forall₂ (fun m n => m.1 = n.1 ∧ Value.Mirrors R m.2 n.2) fields others

theorem Document.Mirrors.mono {R S : String → String → Prop} (hsub : ∀ x x', R x x' → S x x')
    {fields others : Document} (h : Document.Mirrors R fields others) :
        Document.Mirrors S fields others :=
  List.Forall₂.imp (fun _ _ hm => ⟨hm.1, hm.2.mono hsub⟩) h

/-- Whether two stages add the same fields to rows, and by mirrored expressions. -/
inductive Stage.Mirrors (R : String → String → Prop) : Stage → Stage → Prop where
  | lookup {bindings others : Document} (source : String) (pipeline : List Stage)
    (target : String)
    (h : Document.Mirrors R bindings others) :
    Mirrors R (.lookup source bindings pipeline target) (.lookup source others pipeline target)
  | addFields {fields others : Document} (h : Document.Mirrors R fields others) :
    Mirrors R (.addFields fields) (.addFields others)
  | set {fields others : Document} (h : Document.Mirrors R fields others) :
    Mirrors R (.set fields) (.set others)

theorem Stage.Mirrors.mono {R S : String → String → Prop} (hsub : ∀ x x', R x x' → S x x')
    {s s' : Stage} (h : Stage.Mirrors R s s') : Stage.Mirrors S s s' := by
  cases h with
  | lookup source pipeline target h => exact .lookup source pipeline target (h.mono hsub)
  | addFields h => exact .addFields (h.mono hsub)
  | set h => exact .set (h.mono hsub)

/-! ## Contexts -/

namespace Context

variable {config : Config} {ctx other ctx' other' ctx'' other'' : Context}

/-- The aliases of the relations that have a join. -/
def aliases (ctx : Context) : List (String × String) := ctx.joins.map fun j => (j.1, j.2.joined)

@[simp] theorem aliases_promoteAt (ctx : Context) (index : Nat) :
    (ctx.promoteAt index).aliases = ctx.aliases :=
  map_promoteAt (fun _ => rfl) ctx index

@[simp] theorem aliases_promote (ctx : Context) (indices : List Nat) :
    (ctx.promote indices).aliases = ctx.aliases := by
  induction indices generalizing ctx with
  | nil => rfl
  | cons index rest ih => exact (ih (ctx.promoteAt index)).trans (aliases_promoteAt ctx index)

@[simp] theorem aliases_refer (ctx : Context) (name : String) :
    (ctx.refer name).aliases = ctx.aliases := by
  rw [aliases, joins_refer]
  rfl

/-- A join has an alias, an old or a fresh one, and the other aliases stay. -/
theorem aliases_join (ctx : Context) (text : String) (parent : Option String) (f : Field)
    (t : Model) (k : Field) : ctx.aliases ⊆ (ctx.join text parent f t k).2.aliases ∧
      (text, (ctx.join text parent f t k).1.1) ∈ (ctx.join text parent f t k).2.aliases ∧
      ∀ a ∈ (ctx.join text parent f t k).2.aliases, a ∈ ctx.aliases ∨
          a = (text, ctx.freshAlias t.collection) := by
  unfold join
  split
  · rename_i index hindex
    obtain ⟨hlt, hpath, -⟩ := List.findIdx?_eq_some_iff_getElem.mp hindex
    have hfound : (text, ctx.aliasAt index) ∈ ctx.aliases := by
      refine List.mem_map.mpr ⟨ctx.joins[index], List.getElem_mem hlt, ?_⟩
      simp only [beq_iff_eq] at hpath
      simp [aliasAt, hlt, hpath]
    dsimp only
    split
    · rw [aliases_promoteAt]
      exact ⟨List.Subset.refl _, hfound, fun a ha => .inl ha⟩
    · exact ⟨List.Subset.refl _, hfound, fun a ha => .inl ha⟩
  · simp [aliases, newJoin]

/-- A fresh alias is the name of no computed column. -/
theorem freshAlias_notMem_annotations (ctx : Context) (collection : String) :
    ctx.freshAlias collection ∉ ctx.annotations.map (·.1) := by
  have hfresh := freshAlias_notMem ctx collection
  simp only [takenNames, List.mem_cons, List.mem_append, not_or] at hfresh
  exact hfresh.2.1.2

/-- The names that are read from a row as they are. -/
def Names (config : Config) (ctx : Context) (name : String) : Prop :=
  name ∈ ctx.model.columns ∨ name ∈ ctx.annotations.map (·.1) ∨
    ∃ k < ctx.subqueryCount, name = config.subqueryField k

/-- The names that stand for the same in two contexts: those that are read as they are, and the
aliases of the same relation. -/
def Pairs (config : Config) (ctx other : Context) (x x' : String) : Prop :=
  (x = x' ∧ ctx.Names config x) ∨ ∃ text, (text, x) ∈ ctx.aliases ∧ (text, x') ∈ other.aliases

/-- Whether a name can be an alias: it can stand in a path as it is, and is not that of the
field of a subquery. -/
def IsAlias (config : Config) (name : String) : Prop :=
    IsPlainName name ∧ ∀ k, name ≠ config.subqueryField k

/-- A context of a query by itself and another one that has joined at least as much. -/
structure Mirrors (config : Config) (ctx other : Context) : Prop where
  model : other.model = ctx.model
  annotations : other.annotations = ctx.annotations
  count : other.subqueryCount = ctx.subqueryCount
  outer : ctx.outerRefs = none
  joined : ∀ a ∈ ctx.aliases, ∃ x', (a.1, x') ∈ other.aliases
  first : ∀ a ∈ ctx.aliases, IsAlias config a.2
  second : ∀ a ∈ other.aliases, IsAlias config a.2
  names : ∀ name, ctx.Names config name → IsPlainName name

/-- A context to which joins, computed columns and subqueries may have been added.  The new
aliases are the names of no columns that were computed before. -/
structure Widens (config : Config) (ctx ctx' : Context) : Prop where
  aliases : ctx.aliases ⊆ ctx'.aliases
  names : ∀ name, ctx.Names config name → ctx'.Names config name
  annotations : ctx.annotations.map (·.1) ⊆ ctx'.annotations.map (·.1)
  fresh : ∀ a ∈ ctx'.aliases, a ∈ ctx.aliases ∨ a.2 ∉ ctx.annotations.map (·.1)

/-- What mirrored contexts become if the same is compiled in both: they grow, and get mirrored
stages. -/
structure Grow (config : Config) (ctx other ctx' other' : Context) : Prop where
  mirrors : Mirrors config ctx' other'
  first : Widens config ctx ctx'
  second : Widens config other other'
  refs : other.annotationRefs = ctx.annotationRefs → other'.annotationRefs = ctx'.annotationRefs
  stages : ∃ pushed others, ctx'.subqueryStages = ctx.subqueryStages ++ pushed ∧
    other'.subqueryStages = other.subqueryStages ++ others ∧
    List.Forall₂ (Stage.Mirrors (Pairs config ctx' other')) pushed others

theorem Mirrors.plain (h : Mirrors config ctx other) :
    ∀ x x', Pairs config ctx other x x' → IsPlainName x ∧ IsPlainName x' := by
  rintro x x' (⟨rfl, hname⟩ | ⟨text, hx, hx'⟩)
  · exact ⟨h.names x hname, h.names x hname⟩
  · exact ⟨(h.first _ hx).1, (h.second _ hx').1⟩

namespace Widens

theorem refl (config : Config) (ctx : Context) : Widens config ctx ctx :=
  ⟨List.Subset.refl _, fun _ hname => hname, List.Subset.refl _, fun _ ha => .inl ha⟩

theorem trans (h : Widens config ctx ctx') (h' : Widens config ctx' ctx'') :
    Widens config ctx ctx'' where
  aliases := List.Subset.trans h.aliases h'.aliases
  names := fun name hname => h'.names name (h.names name hname)
  annotations := List.Subset.trans h.annotations h'.annotations
  fresh := by
    intro a ha
    rcases h'.fresh a ha with hold | hnew
    · exact h.fresh a hold
    · exact .inr fun hmem => hnew (h.annotations hmem)

/-- A context widens if its joins do and the rest is as before. -/
theorem of_alike (h : Alike ctx ctx') (haliases : ctx.aliases ⊆ ctx'.aliases)
    (hfresh : ∀ a ∈ ctx'.aliases, a ∈ ctx.aliases ∨ a.2 ∉ ctx.annotations.map (·.1)) :
        Widens config ctx ctx' where
  aliases := haliases
  names := by
    intro name
    rw [Names, Names, h.model, h.annotations, h.count]
    exact id
  annotations := by rw [h.annotations]; exact List.Subset.refl _
  fresh := hfresh

theorem join (config : Config) (ctx : Context) (text : String) (parent : Option String)
    (f : Field) (t : Model) (k : Field) : Widens config ctx (ctx.join text parent f t k).2 := by
  obtain ⟨hkept, -, hcases⟩ := aliases_join ctx text parent f t k
  refine .of_alike (.join ctx text parent f t k) hkept fun a ha => (hcases a ha).imp_right ?_
  rintro rfl
  exact freshAlias_notMem_annotations ctx t.collection

theorem refer (config : Config) (ctx : Context) (name : String) :
    Widens config ctx (ctx.refer name) := by
  refine .of_alike (.refer ctx name) ?_ fun a ha => .inl ?_
  · rw [aliases_refer]
    exact List.Subset.refl _
  · rwa [aliases_refer] at ha

end Widens

namespace Grow

theorem pairs (h : Grow config ctx other ctx' other') :
    ∀ x x', Pairs config ctx other x x' → Pairs config ctx' other' x x' := by
  rintro x x' (⟨rfl, hname⟩ | ⟨text, hx, hx'⟩)
  · exact .inl ⟨rfl, h.first.names x hname⟩
  · exact .inr ⟨text, h.first.aliases hx, h.second.aliases hx'⟩

theorem refl (h : Mirrors config ctx other) : Grow config ctx other ctx other :=
  ⟨h, .refl _ _, .refl _ _, id, [], [], by simp, by simp, .nil⟩

theorem trans (h : Grow config ctx other ctx' other')
    (h' : Grow config ctx' other' ctx'' other'') : Grow config ctx other ctx'' other'' where
  mirrors := h'.mirrors
  first := h.first.trans h'.first
  second := h.second.trans h'.second
  refs := fun hrefs => h'.refs (h.refs hrefs)
  stages := by
    obtain ⟨pushed, others, hpushed, hothers, hall⟩ := h.stages
    obtain ⟨pushed', others', hpushed', hothers', hall'⟩ := h'.stages
    refine ⟨pushed ++ pushed', others ++ others', by rw [hpushed', hpushed, List.append_assoc],
      by rw [hothers', hothers, List.append_assoc], ?_⟩
    exact List.rel_append (hall.imp fun _ _ hs => hs.mono h'.pairs) hall'

end Grow

/-- Contexts that are alike the ones before, apart from more joins in both, still mirror each
other. -/
theorem Mirrors.alike (h : Mirrors config ctx other) (hfirst : Alike ctx ctx')
    (hsecond : Alike other other')
    (hjoined : ∀ a ∈ ctx'.aliases, ∃ x', (a.1, x') ∈ other'.aliases)
    (haliases : ∀ a ∈ ctx'.aliases, IsAlias config a.2)
    (hothers : ∀ a ∈ other'.aliases, IsAlias config a.2) :
    Mirrors config ctx' other' where
  model := by rw [hsecond.model, hfirst.model, h.model]
  annotations := by rw [hsecond.annotations, hfirst.annotations, h.annotations]
  count := by rw [hsecond.count, hfirst.count, h.count]
  outer := hfirst.outer.trans h.outer
  joined := hjoined
  first := haliases
  second := hothers
  names := by
    intro name hname
    refine h.names name ?_
    rwa [Names, hfirst.model, hfirst.annotations, hfirst.count] at hname

theorem refs_join (ctx : Context) (text : String) (parent : Option String) (f : Field)
    (t : Model) (k : Field) :
    (ctx.join text parent f t k).2.annotationRefs = ctx.annotationRefs := by
  unfold Context.join
  split
  · dsimp only
    split <;> rfl
  · rfl

/-- The same relation is joined in mirrored contexts. -/
theorem Mirrors.join (h : Mirrors config ctx other) (text : String)
    (parent parent' : Option String) (f : Field)
    {t : Model} (k : Field)
    (hfresh : ∀ ctx : Context, IsAlias config (ctx.freshAlias t.collection)) :
    Grow config ctx other (ctx.join text parent f t k).2 (other.join text parent' f t k).2 ∧
      (text, (ctx.join text parent f t k).1.1) ∈ (ctx.join text parent f t k).2.aliases ∧
      (text, (other.join text parent' f t k).1.1) ∈
          (other.join text parent' f t k).2.aliases := by
  obtain ⟨hkept, hmem, hcases⟩ := aliases_join ctx text parent f t k
  obtain ⟨hkept', hmem', hcases'⟩ := aliases_join other text parent' f t k
  have halike := Alike.join ctx text parent f t k
  have halike' := Alike.join other text parent' f t k
  refine ⟨⟨h.alike halike halike' (fun a ha => ?_) (fun a ha => ?_) (fun a ha => ?_),
    .join config ctx _ _ _ _ _, .join config other _ _ _ _ _, fun hrefs => ?_, [], [], ?_, ?_,
    .nil⟩, hmem, hmem'⟩
  · rcases hcases a ha with hold | rfl
    · obtain ⟨x', hx'⟩ := h.joined a hold
      exact ⟨x', hkept' hx'⟩
    · exact ⟨_, hmem'⟩
  · rcases hcases a ha with hold | rfl
    · exact h.first a hold
    · exact hfresh ctx
  · rcases hcases' a ha with hold | rfl
    · exact h.second a hold
    · exact hfresh other
  · rw [refs_join, refs_join, hrefs]
  · rw [halike.stages, List.append_nil]
  · rw [halike'.stages, List.append_nil]

theorem Mirrors.refer (h : Mirrors config ctx other) (name : String) :
    Grow config ctx other (ctx.refer name) (other.refer name) := by
  have halike := Alike.refer ctx name
  have halike' := Alike.refer other name
  refine ⟨h.alike halike halike' ?_ ?_ ?_, .refer config ctx name, .refer config other name,
    fun hrefs => ?_, [], [], ?_, ?_, .nil⟩
  · simpa using h.joined
  · simpa using h.first
  · simpa using h.second
  · unfold Context.refer
    rw [hrefs]
    split
    · exact hrefs
    · rfl
  · rw [halike.stages, List.append_nil]
  · rw [halike'.stages, List.append_nil]

/-- Whether two contexts differ at most in what their joins do with documents without a match,
and in the disjunctions and negations around. -/
structure IsSame (ctx ctx' : Context) : Prop where
  model : ctx'.model = ctx.model
  annotations : ctx'.annotations = ctx.annotations
  count : ctx'.subqueryCount = ctx.subqueryCount
  outer : ctx'.outerRefs = ctx.outerRefs
  aliases : ctx'.aliases = ctx.aliases
  refs : ctx'.annotationRefs = ctx.annotationRefs
  stages : ctx'.subqueryStages = ctx.subqueryStages

theorem IsSame.enter (ctx : Context) : IsSame ctx ctx.enter :=
    ⟨rfl, rfl, rfl, rfl, rfl, rfl, rfl⟩

theorem IsSame.leave (ctx : Context) : IsSame ctx ctx.leave :=
    ⟨rfl, rfl, rfl, rfl, rfl, rfl, rfl⟩

theorem IsSame.promote (ctx : Context) (indices : List Nat) :
    IsSame ctx (ctx.promote indices) := by
  induction indices generalizing ctx with
  | nil => exact ⟨rfl, rfl, rfl, rfl, rfl, rfl, rfl⟩
  | cons index rest ih =>
    obtain ⟨hmodel, hannotations, hcount, houter, haliases, hrefs, hstages⟩ :=
      ih (ctx.promoteAt index)
    exact ⟨hmodel, hannotations, hcount, houter, haliases.trans (aliases_promoteAt ctx index),
      hrefs, hstages⟩

theorem IsSame.noteLookup (r : Resolved) (ctx : Context) :
    IsSame ctx (Compiler.noteLookup r ctx) := by
  unfold Compiler.noteLookup
  split
  · exact .promote ctx r.joins
  · exact ⟨rfl, rfl, rfl, rfl, rfl, rfl, rfl⟩

theorem IsSame.widens (h : IsSame ctx ctx') : Widens config ctx ctx' where
  aliases := by rw [h.aliases]; exact List.Subset.refl _
  names := by
    intro name
    rw [Names, Names, h.model, h.annotations, h.count]
    exact id
  annotations := by rw [h.annotations]; exact List.Subset.refl _
  fresh := fun a ha => .inl (by rwa [h.aliases] at ha)

theorem Mirrors.same (h : Mirrors config ctx other) (hfirst : IsSame ctx ctx')
    (hsecond : IsSame other other') : Grow config ctx other ctx' other' := by
  refine ⟨⟨?_, ?_, ?_, hfirst.outer.trans h.outer, ?_, ?_, ?_, fun x hx => h.names x ?_⟩,
    hfirst.widens, hsecond.widens, fun hrefs => ?_, [],
    [], by simp [hfirst.stages], by simp [hsecond.stages], .nil⟩
  · rw [hsecond.model, hfirst.model, h.model]
  · rw [hsecond.annotations, hfirst.annotations, h.annotations]
  · rw [hsecond.count, hfirst.count, h.count]
  · rw [hfirst.aliases, hsecond.aliases]
    exact h.joined
  · rw [hfirst.aliases]
    exact h.first
  · rw [hsecond.aliases]
    exact h.second
  · rwa [Names, hfirst.model, hfirst.annotations, hfirst.count] at hx
  · rw [hsecond.refs, hfirst.refs, hrefs]

end Context

/-! ## Following paths -/

/-- Whether the results of subqueries have fields of their own: their names can stand in paths
as they are, and no joined document gets one of them as its alias. -/
structure Compiler.HasOwnFields (c : Compiler) : Prop where
  plain : ∀ k, IsPlainName (c.config.subqueryField k)
  collections : ∀ t ∈ c.schema.models, ∀ k, t.collection ≠ c.config.subqueryField k
  numbered : ∀ n k, Context.numberedAlias n ≠ c.config.subqueryField k

namespace Compiler

/-- A name that does not start like the fields of subqueries is none of them. -/
theorem ne_subqueryField {config : Config} {name : String}
    (h : ¬config.subqueryPrefix.toList <+: name.toList)
    (k : Nat) : name ≠ config.subqueryField k := by
  rintro rfl
  exact h ⟨(toString k).toList, by simp [Config.subqueryField]⟩

/-- The results of subqueries have fields of their own if no collection and no numbered alias
starts like them. -/
theorem hasOwnFields_of_prefix {c : Compiler} (hdots : '.' ∉ c.config.subqueryPrefix.toList)
    (hname : isOperatorName c.config.subqueryPrefix = false)
    (hcollections : ∀ t ∈ c.schema.models, ¬c.config.subqueryPrefix.toList <+:
      t.collection.toList)
    (hnumbered : c.config.subqueryPrefix.toList.head?.any (· != 'T') = true) :
        c.HasOwnFields where
  plain := fun k => ⟨notMem_numbered (by decide) hdots k, isOperatorName_numbered hname k⟩
  collections := fun t ht => ne_subqueryField (hcollections t ht)
  numbered := by
    intro n
    refine ne_subqueryField fun hprefix => ?_
    obtain ⟨first, hfirst, hne⟩ := (Option.any_eq_true _ _).mp hnumbered
    obtain ⟨rest, hrest⟩ := List.head?_eq_some_iff.mp hfirst
    rw [hrest] at hprefix
    have hsame : first = 'T' := by
      simpa [Context.numberedAlias] using (List.cons_prefix_cons.mp
        (by simpa [Context.numberedAlias] using hprefix)).1
    simp [hsame] at hne

open Context (Grow Pairs)

variable {c : Compiler} {ctx ctx' other : Context} {path : String} {e : Ending}

theorem isAlias_freshAlias (hplain : c.schema.hasPlainCollections = true)
    (hfields : c.HasOwnFields) {t : Model}
    (ht : t ∈ c.schema.models) (ctx : Context) :
        Context.IsAlias c.config (ctx.freshAlias t.collection) := by
  obtain ⟨hdots, hdollars, -⟩ := Schema.plain_of_hasPlainCollections hplain ht
  refine ⟨⟨Context.notMem_freshAlias (by decide) (by decide) hdots,
    Context.isOperatorName_freshAlias (isOperatorName_of_notMem hdollars)⟩, fun k => ?_⟩
  rcases Context.freshAlias_cases ctx t.collection with hname | ⟨n, hname⟩ <;> rw [hname]
  · exact hfields.collections t ht k
  · exact hfields.numbered n k

/-- What is behind a value is the same behind a mirrored one. -/
theorem follow_value_mirrors {R : String → String → Prop} {a : Access} {joined : Option String}
    (ha : Access.Mirrors R a (a.under joined)) {names : List String} {joins : List Nat}
    (h : c.follow path (.value a) names joins ctx = (.ok e, ctx')) (others : List Nat)
    (other : Context) :
    ∃ e', c.follow path (.value (a.under joined)) names others other = (.ok e', other) ∧
      Access.Mirrors R e.target e'.target ∧ e'.lookup? = e.lookup? := by
  -- the names keep the relation in whichever scope, so in that without variables
  have hscope : (fun (_ : List String) a => Access.Mirrors R a (a.under joined)) [] e.target :=
    @kept_follow c _ (Access.Mirrors.isKept R joined) [] a ctx ctx' path names joins e ha h
  exact ⟨_, follow_under h others other, hscope, rfl⟩

/-- Names from a document lead to the same in mirrored contexts. -/
theorem follow_mirrors (hplain : c.schema.hasPlainCollections = true) (hfields : c.HasOwnFields)
    {m : Model} {parent parent' : Option String}
    {relation : String} {names : List String} {joins : List Nat}
    (hctx : Context.Mirrors c.config ctx other)
    (hplace : (parent = none ∧ parent' = none ∧ m = ctx.model) ∨
      ∃ x x', parent = some x ∧ parent' = some x' ∧ Pairs c.config ctx other x x')
    (h : c.follow path (.document m parent relation) names joins ctx = (.ok e, ctx'))
    (others : List Nat) :
    ∃ e' other', c.follow path (.document m parent' relation) names others other =
      (.ok e', other') ∧ Grow c.config ctx other ctx' other' ∧
      Access.Mirrors (Pairs c.config ctx' other') e.target e'.target ∧
      e'.lookup? = e.lookup? := by
  induction names generalizing m parent parent' relation joins others ctx other with
  | nil => simp [follow] at h
  | cons name rest ih =>
    obtain ⟨_, _, f, hnames, hf, -⟩ := follow_document_ok h
    obtain ⟨rfl, rfl⟩ := List.cons.inj hnames
    cases hstays : c.schema.staysInside f rest with
    | true =>
      rw [follow_stays hf hstays] at h
      obtain rfl := follow_value_context h
      have hcolumn : Access.Mirrors (Pairs c.config ctx' other) (.column parent f.column
        (.ofField f.kind)) ((Access.column parent f.column (.ofField f.kind)).under
        parent') := by
        rcases hplace with ⟨rfl, rfl, rfl⟩ | ⟨x, x', rfl, rfl, hpair⟩
        · exact .own _ (.inl ⟨rfl, .inl (List.mem_map_of_mem (List.mem_of_find?_eq_some hf))⟩)
        · exact .joined _ _ hpair
      obtain ⟨e', hother, htarget, hlookup⟩ := follow_value_mirrors hcolumn h others other
      exact ⟨e', other, by rw [follow_stays hf hstays]; exact hother, .refl hctx,
        htarget, hlookup⟩
    | false =>
      obtain ⟨link, t, hlink⟩ := link?_of_leaves hf hstays h
      obtain ⟨_, _, _, _, -, ht, -, -⟩ := Schema.link?_ok hlink
      obtain ⟨k, hsame⟩ : ∃ k,
        ∀ (parent : Option String) (relation : String) (joins : List Nat) (ctx : Context),
          c.follow path (.document m parent relation) (name :: rest) joins ctx = c.follow path
            (.document t (some (ctx.join (relationPath relation name) parent f t k).1.1)
              (relationPath relation name)) rest
            (joins ++ [(ctx.join (relationPath relation name) parent f t k).1.2])
            (ctx.join (relationPath relation name) parent f t k).2 :=
                follow_leaves hf hstays hlink
      obtain ⟨hgrow, hx, hx'⟩ := hctx.join (relationPath relation name) parent parent' f k
        (isAlias_freshAlias hplain hfields (List.mem_of_find?_eq_some ht))
      rw [hsame] at h
      obtain ⟨e', other', hother, hmore, htarget, hlookup⟩ := ih hgrow.mirrors
        (.inr ⟨_, _, rfl, rfl, .inr ⟨_, hx, hx'⟩⟩) h
        (others ++ [(other.join (relationPath relation name) parent' f t k).1.2])
      exact ⟨e', other', by rw [hsame]; exact hother, hgrow.trans hmore, htarget, hlookup⟩

/-- A path leads to the same in mirrored contexts. -/
theorem followPath_mirrors (hplain : c.schema.hasPlainCollections = true)
    (hfields : c.HasOwnFields)
    (hctx : Context.Mirrors c.config ctx other) (h : c.followPath ctx path = (.ok e, ctx')) :
    ∃ e' other', c.followPath other path = (.ok e', other') ∧
      Grow c.config ctx other ctx' other' ∧ Access.Mirrors (Pairs c.config ctx' other') e.target
      e'.target ∧ e'.lookup? = e.lookup? := by
  obtain ⟨name, rest, hnames, hempty, hstart⟩ := followPath_ok h
  have hparts : (name :: rest).contains "" = false := by simpa using hempty
  have htypes : other.computedType? name = ctx.computedType? name := by
    rw [Context.computedType?, Context.computedType?, hctx.annotations]
  unfold followPath
  simp only [hnames, hparts, Bool.false_eq_true, if_false, List.headD_cons,
    List.tail_cons, htypes]
  rcases hstart with ⟨type, htype, hvalue⟩ | ⟨htype, hfollow⟩
  · have hgrow := hctx.refer name
    obtain rfl := follow_value_context hvalue
    have hname : (ctx.refer name).Names c.config name := by
      refine hgrow.first.names name (.inr (.inl ?_))
      exact List.mem_map_of_mem (f := Prod.fst) (Context.mem_of_findType htype)
    have hcomputed : Access.Mirrors (Pairs c.config (ctx.refer name) (other.refer name))
      (.computed name type) ((Access.computed name type).under none) :=
      .computed type (.inl ⟨rfl, hname⟩)
    obtain ⟨e', hother, htarget, hlookup⟩ := follow_value_mirrors hcomputed hvalue []
      (other.refer name)
    simp only [htype]
    exact ⟨e', _, hother, hgrow, htarget, hlookup⟩
  · simp only [htype, hctx.model]
    exact follow_mirrors hplain hfields hctx (.inl ⟨rfl, rfl, rfl⟩) hfollow []

/-- A reference is compiled to mirrored expressions of the same type. -/
theorem fieldExpr_mirrors (hplain : c.schema.hasPlainCollections = true)
    (hfields : c.HasOwnFields) {v : Value} {type : ValueType}
    (hctx : Context.Mirrors c.config ctx other)
    (h : c.fieldExpr ctx path = .ok ((v, type), ctx')) :
    ∃ v' other', c.fieldExpr other path = .ok ((v', type), other') ∧
      Grow c.config ctx other ctx' other' ∧
      Value.Mirrors (Pairs c.config ctx' other') v v' := by
  unfold fieldExpr resolveField at h ⊢
  cases hpath : c.followPath ctx path with
  | mk result after =>
    rw [hpath] at h
    cases result with
    | error e => simp at h
    | ok e =>
      obtain ⟨e', other', hother, hgrow, htarget, hlookup⟩ :=
        followPath_mirrors hplain hfields hctx hpath
      simp only [hother]
      unfold referred at h ⊢
      rw [hlookup]
      cases hnone : e.lookup? with
      | some l => simp [hnone] at h
      | none =>
        simp only [hnone, Except.ok.injEq, Prod.mk.injEq] at h ⊢
        obtain ⟨⟨rfl, rfl⟩, rfl⟩ := h
        exact ⟨_, _, ⟨⟨rfl, htarget.type_eq⟩, rfl⟩, hgrow, htarget.render hgrow.mirrors.plain⟩

/-- The path of a lookup is resolved to mirrored accesses and the same lookup. -/
theorem resolveLookup_mirrors (hplain : c.schema.hasPlainCollections = true)
    (hfields : c.HasOwnFields) {r : Resolved}
    (hctx : Context.Mirrors c.config ctx other) (h : c.resolveLookup ctx path = (.ok r, ctx')) :
    ∃ r' other', c.resolveLookup other path = (.ok r', other') ∧ r'.lookup = r.lookup ∧
      Access.Mirrors (Pairs c.config ctx' other') r.target r'.target ∧
          Grow c.config ctx other ctx' other' := by
  obtain ⟨e, hpath, hcompared⟩ := resolveLookup_ok h
  obtain ⟨rfl, hallowed⟩ := compared_ok hcompared
  obtain ⟨e', other', hother, hgrow, htarget, hlookup⟩ :=
    followPath_mirrors hplain hfields hctx hpath
  refine ⟨⟨e'.target, e'.lookup?.getD .exact, e'.joins⟩, other', ?_, by rw [hlookup],
    htarget, hgrow⟩
  dsimp only at hallowed
  simp only [resolveLookup, hother, compared, htarget.type_eq, hlookup, hallowed, if_true]

end Compiler

end DocQuery
