import DocQuery.Proofs.Derivations
import DocQuery.Proofs.JoinChoices
set_option autoImplicit false

/-!
# Proofs: derivations that mirror each other

Two queries whose parts are compiled in contexts that mirror each other have mirrored stages.
The rows that their joins make of a document agree if the same documents were joined along the
same relations.
-/

namespace DocQuery

open Value

/-! ## Aliases -/

namespace Context

variable {s : Schema} {m : Model} {config : Config} {ctx other final final' : Context}
  {hops hops' : List Hop}
  {doc row row' : Value}

theorem JoinsHops.aliases_eq (h : ctx.JoinsHops s m hops) :
    ctx.aliases = hops.map fun hop => (Text.join "__" hop.names, hop.joined) := by
  have hjoins := h.joins
  unfold aliases
  generalize ctx.joins = entries at hjoins
  clear h
  induction hjoins with
  | nil => rfl
  | cons hentry _ ih => rw [List.map_cons, List.map_cons, ih, hentry.path, hentry.joined]

/-- The aliases of joins can be read by their names. -/
theorem JoinsHops.isPlainName (h : ctx.JoinsHops s m hops)
    (hplain : ∀ hop ∈ hops, hop.IsPlain) : ∀ entry ∈ ctx.joins, IsPlainName entry.2.joined := by
  intro entry hentry
  obtain ⟨hop, hpair, hdescribes⟩ := (List.exists_mem_zip_of_forall₂ h.joins).2 entry hentry
  have hjoined := (hplain hop (List.of_mem_zip hpair).1).joined
  exact hdescribes.joined ▸ ⟨hjoined.1, isOperatorName_of_notMem hjoined.2⟩

/-- The hops of a context that has one join for each relation have different names. -/
theorem JoinsHops.names_nodup (h : ctx.JoinsHops s m hops) (hnodup : ctx.relations.Nodup) :
    (hops.map Hop.names).Nodup := by
  have hrelations : ctx.relations = (hops.map Hop.names).map (Text.join "__") := by
    have haliases := congrArg (List.map Prod.fst) h.aliases_eq
    simpa [aliases, relations, Function.comp_def] using haliases
  rw [hrelations] at hnodup
  exact hnodup.of_map _

/-- The hop that has an alias. -/
theorem JoinsHops.exists_hop (h : ctx.JoinsHops s m hops) {a : String × String}
    (ha : a ∈ ctx.aliases) :
    ∃ hop ∈ hops, Text.segments a.1 = hop.names ∧ a.2 = hop.joined := by
  rw [h.aliases_eq] at ha
  obtain ⟨hop, hhop, rfl⟩ := List.mem_map.mp ha
  exact ⟨hop, hhop, (h.leads.route hop hhop).1, rfl⟩

/-- If each join of a context is related to one of the same relation in another context, each
hop is found there. -/
theorem JoinsHops.covered {P : String × Join → String × Join → Prop}
    (h : final.JoinsHops s m hops) (h' : final'.JoinsHops s m hops')
    (hall : ∀ entry ∈ final.joins, ∃ entry' ∈ final'.joins, entry'.1 = entry.1 ∧
      P entry entry') :
    ∀ pair ∈ hops.zip final.joins, ∃ pair' ∈ hops'.zip final'.joins,
      pair'.1.names = pair.1.names ∧ P pair.2 pair'.2 := by
  intro pair hpair
  obtain ⟨hhop, hentry⟩ := List.of_mem_zip hpair
  obtain ⟨entry', hentry', hpath, hrelated⟩ := hall pair.2 hentry
  obtain ⟨hop', hpair', hdescribes'⟩ := (List.exists_mem_zip_of_forall₂ h'.joins).2
    entry' hentry'
  refine ⟨(hop', entry'), hpair', ?_, hrelated⟩
  have htext := (h'.leads.route _ (List.of_mem_zip hpair').1).1
  rw [← hdescribes'.path, hpath, (List.forall₂_zip h.joins hpair).path,
    (h.leads.route _ hhop).1] at htext
  exact htext.symm

/-- A name only stands for itself in one context. -/
theorem JoinsHops.pairs_eq (h : final.JoinsHops s m hops) (hnodup : final.relations.Nodup)
    (haliases : ctx.aliases ⊆ final.aliases) : ∀ x x', Pairs config ctx ctx x x' → x = x' := by
  rintro x x' (⟨hsame, -⟩ | ⟨text, hx, hx'⟩)
  · exact hsame
  · obtain ⟨hop, hhop, hparts, rfl⟩ := h.exists_hop (haliases hx)
    obtain ⟨hop', hhop', hparts', rfl⟩ := h.exists_hop (haliases hx')
    rw [List.inj_on_of_nodup_map (h.names_nodup hnodup) hhop hhop' (hparts.symm.trans hparts')]

/-- Rows of a document in which the same documents were joined along the same relations
agree. -/
theorem agree_of_choices (hfinal : final.JoinsHops s m hops)
    (hfinal' : final'.JoinsHops s m hops')
    (haliases : ctx.aliases ⊆ final.aliases) (haliases' : other.aliases ⊆ final'.aliases)
    (hnames : ∀ x, ctx.Names config x →
      (∃ text, (text, x) ∈ ctx.aliases ∧ (text, x) ∈ other.aliases) ∨
      (∀ hop ∈ hops, x ≠ hop.joined) ∧ ∀ hop ∈ hops', x ≠ hop.joined)
    (hrow : row.items? = none) (hrow' : row'.items? = none)
    (hown : ∀ x, (∀ hop ∈ hops, x ≠ hop.joined) → row.field? x = doc.field? x)
    (hown' : ∀ x, (∀ hop ∈ hops', x ≠ hop.joined) → row'.field? x = doc.field? x)
    (hsame : ∀ hop ∈ hops, ∀ hop' ∈ hops', hop'.names = hop.names →
      row.field? hop.joined = row'.field? hop'.joined) :
    Agree (Pairs config ctx other) row row' := by
  have hjoined : ∀ {text x x' : String}, (text, x) ∈ ctx.aliases → (text, x') ∈ other.aliases →
      row.field? x = row'.field? x' := by
    intro text x x' hx hx'
    obtain ⟨hop, hhop, hparts, rfl⟩ := hfinal.exists_hop (haliases hx)
    obtain ⟨hop', hhop', hparts', rfl⟩ := hfinal'.exists_hop (haliases' hx')
    exact hsame hop hhop hop' hhop' (hparts'.symm.trans hparts)
  refine ⟨hrow, hrow', ?_⟩
  rintro x x' (⟨rfl, hname⟩ | ⟨text, hx, hx'⟩)
  · rcases hnames x hname with ⟨text, hx, hx'⟩ | ⟨hfree, hfree'⟩
    · exact hjoined hx hx'
    · rw [hown x hfree, hown' x hfree']
  · exact hjoined hx hx'

/-- A name that can be read in a context is no alias that a join gets later. -/
theorem JoinsHops.ne_joined (h : final.JoinsHops s m hops)
    (hgrow : Grow config ctx ctx final final)
    (hmodel : ctx.model = m) {x : String} (hname : ctx.Names config x)
    (hx : ∀ text, (text, x) ∉ ctx.aliases) :
    ∀ hop ∈ hops, x ≠ hop.joined := by
  rintro hop hhop rfl
  have ha : (Text.join "__" hop.names, hop.joined) ∈ final.aliases := by
    rw [h.aliases_eq]
    exact List.mem_map_of_mem hhop
  rcases hgrow.first.fresh _ ha with hold | hnew
  · exact hx _ hold
  · rcases hname with hcolumn | hannotation | ⟨k, -, heq⟩
    · exact h.leads.joined_own hop hhop (.inl (hmodel ▸ hcolumn))
    · exact hnew hannotation
    · exact (hgrow.mirrors.first _ ha).2 k heq

/-- Contexts that know nothing but a model. -/
theorem mirrors_ofModel (config : Config) (hplain : s.hasPlainCollections = true)
    (hm : m ∈ s.models) : Mirrors config (ofModel m) (ofModel m) where
  model := rfl
  annotations := rfl
  count := rfl
  outer := rfl
  joined := by simp [aliases, ofModel]
  first := by simp [aliases, ofModel]
  second := by simp [aliases, ofModel]
  names := by
    rintro name (hcolumn | hnone | ⟨k, hk, -⟩)
    · obtain ⟨f, hf, rfl⟩ := List.mem_map.mp hcolumn
      obtain ⟨hdots, hdollars⟩ := (Schema.plain_of_hasPlainCollections hplain hm).2.2 f hf
      exact ⟨hdots, isOperatorName_of_notMem hdollars⟩
    · simp [ofModel] at hnone
    · simp [ofModel] at hk

end Context

/-! ## Targets -/

/-- The stages of subqueries set the fields of subqueries. -/
theorem Placed.targets {config : Config} {first last : Nat} {stages : List Stage}
    (h : Placed config first last stages) :
    ∀ s ∈ stages, ∀ name ∈ s.targets, ∃ k, name = config.subqueryField k := by
  induction h with
  | nil => simp
  | @snoc next _ source bindings pipeline _ ih =>
    refine List.forall_mem_append.mpr ⟨ih, List.forall_mem_cons.mpr ⟨?_,
      List.forall_mem_singleton.mpr ?_⟩⟩
    · exact List.forall_mem_singleton.mpr ⟨next, rfl⟩
    · exact List.forall_mem_singleton.mpr ⟨next, rfl⟩

namespace Compiler

open Context (Grow Pairs)

variable {c : Compiler} {ctx ctx' : Context} {m : Model} {q : Query}

/-- The stages of computed columns set these columns. -/
theorem compileAnnotations_targets {pending : Document} {annotations : List (String × Expr)}
    {stages : List Stage}
    (h : c.compileAnnotations pending ctx annotations = .ok (stages, ctx')) :
    ∀ s ∈ stages, ∀ name ∈ s.targets, name ∈ pending.names ∨ name ∈ annotations.map (·.1) := by
  induction annotations generalizing ctx pending stages with
  | nil =>
    rw [compileAnnotations] at h
    obtain ⟨rfl, -⟩ := Prod.mk.inj (Except.ok.inj h)
    unfold addColumns
    split
    · simp
    · exact List.forall_mem_singleton.mpr fun name hname => .inl hname
  | cons annotation rest ih =>
    obtain ⟨name, body⟩ := annotation
    obtain ⟨v, type, after, -, hrest⟩ := compileAnnotations_cons_ok h
    rcases hrest with ⟨others, hothers, rfl⟩ | ⟨-, hothers⟩
    · refine List.forall_mem_cons.mpr ⟨fun _ hx => .inl hx, fun s hs x hx => .inr ?_⟩
      rcases ih hothers s hs x hx with hname | hlater
      · exact List.mem_cons.mpr (.inl (List.mem_singleton.mp hname))
      · exact List.mem_cons_of_mem name hlater
    · intro s hs x hx
      rcases ih hothers s hs x hx with hpending | hlater
      · obtain ⟨member, hmember, rfl⟩ := List.mem_map.mp hpending
        rcases Document.mem_insert hmember with hold | rfl
        · exact .inl (List.mem_map_of_mem hold)
        · exact .inr List.mem_cons_self
      · exact .inr (List.mem_cons_of_mem name hlater)

namespace Derivation

/-- The columns that are computed before the filter can be read there. -/
theorem names_filtered (d : c.Derivation m q) :
    ∀ name ∈ q.annotations.map (·.1), d.filtered.Names c.config name := by
  intro name hname
  obtain ⟨type, htype⟩ := Option.isSome_iff_exists.mp ((d.knows.1 name).mpr hname)
  exact .inr (.inl (List.mem_map_of_mem (f := Prod.fst) (Context.mem_of_findType htype)))

section Itself

variable (d : c.Derivation m q) (hplain : c.schema.hasPlainCollections = true)
  (hfields : c.HasOwnFields)
  (hm : m ∈ c.schema.models) (hnames : ∀ name ∈ q.annotations.map (·.1), IsPlainName name)
include hplain hfields hm hnames

/-- What is compiled up to the filter mirrors itself. -/
theorem mirrors_itself : Grow c.config (.ofModel m) (.ofModel m) d.filtered d.filtered ∧
    List.Forall₂ (Stage.Mirrors (Pairs c.config d.filtered d.filtered)) d.stages d.stages ∧
    Option.Rel (Value.Mirrors (Pairs c.config d.filtered d.filtered)) d.condition
        d.condition := by
  have hstart := Context.mirrors_ofModel c.config hplain hm
  obtain ⟨_, hloads, hloaded⟩ := loadRelations_mirrors hplain hfields hstart d.loads
  obtain rfl := Except.ok.inj (hloads.symm.trans d.loads)
  obtain ⟨_, _, hcomputes, hcomputed, hstages⟩ :=
    compileAnnotations_mirrors hplain hfields hloaded.mirrors rfl hnames .nil d.computes
  obtain ⟨rfl, rfl⟩ := Prod.mk.inj (Except.ok.inj (hcomputes.symm.trans d.computes))
  obtain ⟨_, _, hfilters, hfiltered, hcondition⟩ :=
    compileCondition_mirrors hplain hfields hcomputed.mirrors d.filters
  obtain ⟨rfl, rfl⟩ := Prod.mk.inj (Except.ok.inj (hfilters.symm.trans d.filters))
  exact ⟨(hloaded.trans hcomputed).trans hfiltered, hstages.imp fun _ _ hs =>
    hs.mono hfiltered.pairs, hcondition⟩

end Itself

end Derivation

end Compiler

end DocQuery
