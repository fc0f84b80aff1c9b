import DocQuery.Proofs.ForeignKeys
import DocQuery.Proofs.Inversion
import DocQuery.Proofs.Names
import Mathlib.Data.List.Forall2
set_option autoImplicit false

/-!
# Proofs: the joins of a context

A context numbers its joins and tells them apart by the texts of their relation paths.  Here is
what each join stands for:  the foreign keys from the document of the query to the joined one,
under an alias of its own.
-/

namespace DocQuery

/-! ## Texts of relation paths -/

namespace Text

/-- Characters that are one name, alone as well as in front of a doubled separator. -/
def IsPart (sep : Char) (part : List Char) : Prop :=
  doublyPartsOf sep part = (part, []) ∧
    ∀ rest, doublyPartsOf sep (part ++ sep :: sep :: rest) =
      (part, (doublyPartsOf sep rest).1 :: (doublyPartsOf sep rest).2)

theorem isPart_nil (sep : Char) : IsPart sep [] :=
  ⟨rfl, fun rest => by simp [doublyPartsOf]⟩

theorem isPart_cons {sep c : Char} {part : List Char} (h : IsPart sep part)
    (hsep : ¬(c = sep ∧ (part ++ [sep]).head? = some sep)) : IsPart sep (c :: part) := by
  cases part with
  | nil =>
    refine ⟨rfl, fun rest => ?_⟩
    have hc : c ≠ sep := fun hc => hsep ⟨hc, rfl⟩
    simp [doublyPartsOf, hc]
  | cons d part =>
    have hd : ¬(c = sep ∧ d = sep) := by simpa using hsep
    refine ⟨?_, fun rest => ?_⟩
    · rw [doublyPartsOf, if_neg hd, h.1]
    · have hrest := h.2 rest
      rw [List.cons_append] at hrest ⊢
      rw [List.cons_append, doublyPartsOf, if_neg hd, hrest]

/-- Of a text, all names but the last one are followed by a doubled separator. -/
theorem isPart_of_dropLast (sep : Char) (cs : List Char) :
    ∀ part ∈ ((doublyPartsOf sep cs).1 :: (doublyPartsOf sep cs).2).dropLast,
        IsPart sep part := by
  induction cs using doublyPartsOf.induct sep with
  | case1 c d rest hsep first others hrest ih =>
    rw [doublyPartsOf, if_pos hsep, hrest]
    rw [hrest] at ih
    simpa using ⟨isPart_nil sep, ih⟩
  | case2 c d rest hsep first others hrest ih =>
    rw [doublyPartsOf, if_neg hsep, hrest]
    rw [hrest] at ih
    cases others with
    | nil => simp
    | cons next others =>
      simp only [List.dropLast_cons_cons, List.forall_mem_cons] at ih ⊢
      refine ⟨isPart_cons ih.1 fun hc => hsep ⟨hc.1, ?_⟩, ih.2⟩
      by_contra hd
      have hhead : first.head? = some d := by
        have hfront : (d :: rest).head? = some d := rfl
        simpa [hrest] using head?_doublyPartsOf hfront hd
      have hsame := hc.2
      rw [List.head?_append, hhead] at hsame
      exact hd (Option.some.inj hsame)
  | case3 cs hcs =>
    have hshort : doublyPartsOf sep cs = (cs, []) := by
      cases cs with
      | nil => rfl
      | cons c tail =>
        cases tail with
        | nil => rfl
        | cons d rest => exact absurd rfl (hcs c d rest)
    simp [hshort]

theorem segments_eq (path : String) :
    segments path = ((doublyPartsOf segmentMark path.toList).1 ::
      (doublyPartsOf segmentMark path.toList).2).map String.ofList := rfl

/-- The names in front of the last one of a path are parts of their own. -/
theorem isPart_of_segments {path : String} {front rest : List String}
    (h : segments path = front ++ rest) (hrest : rest ≠ []) :
    ∀ name ∈ front, IsPart segmentMark name.toList := by
  intro name hname
  have hmem : name ∈ (segments path).dropLast := by
    rw [h, List.dropLast_append_of_ne_nil hrest]
    exact List.mem_append_left _ hname
  rw [segments_eq, ← List.map_dropLast] at hmem
  obtain ⟨part, hpart, rfl⟩ := List.mem_map.mp hmem
  rw [String.toList_ofList]
  exact isPart_of_dropLast segmentMark path.toList part hpart

/-- Names that are parts of their own are the names of the path that they are put together
to. -/
theorem segments_join {names : List String} (hne : names ≠ [])
    (h : ∀ name ∈ names, IsPart segmentMark name.toList) :
        segments (join "__" names) = names := by
  induction names with
  | nil => exact absurd rfl hne
  | cons name rest ih =>
    have hname := h name List.mem_cons_self
    cases rest with
    | nil => simp [segments_eq, join, hname.1, String.ofList_toList]
    | cons next rest =>
      have hrest := ih (by simp) fun n hn => h n (List.mem_cons_of_mem name hn)
      have htext : (join "__" (name :: next :: rest)).toList =
          name.toList ++ segmentMark :: segmentMark :: (join "__" (next :: rest)).toList := by
        simp [join, segmentMark]
      rw [segments_eq, htext, hname.2, List.map_cons, String.ofList_toList]
      rw [segments_eq] at hrest
      rw [hrest]

theorem join_snoc {names : List String} (hne : names ≠ []) (name : String) :
    join "__" (names ++ [name]) = extendPath (join "__" names) name := by
  induction names with
  | nil => exact absurd rfl hne
  | cons first rest ih =>
    cases rest with
    | nil => rfl
    | cons next rest =>
      have hrest := ih (by simp)
      simp only [List.cons_append, join, extendPath] at hrest ⊢
      rw [hrest]
      simp [String.append_assoc]

theorem join_ne_empty {names : List String} (hne : names ≠ []) (h : "" ∉ names) :
    join "__" names ≠ "" := by
  cases names with
  | nil => exact absurd rfl hne
  | cons name rest =>
    have hname : name ≠ "" := fun hname => h (hname ▸ List.mem_cons_self)
    cases rest with
    | nil => exact hname
    | cons next rest =>
      intro hempty
      have hlist := congrArg String.toList hempty
      simp [join] at hlist

end Text

/-- The text of a relation path goes on with the name of the next relation. -/
theorem Compiler.relationPath_join {names : List String} (h : "" ∉ names) (name : String) :
    relationPath (Text.join "__" names) name = Text.join "__" (names ++ [name]) := by
  unfold relationPath
  cases names with
  | nil => rfl
  | cons first rest =>
    rw [if_neg (Text.join_ne_empty (by simp) h), Text.join_snoc (by simp)]

/-! ## Links -/

namespace Schema

variable {s : Schema}

theorem link?_ok {f : Field} {link : Link} {t : Model} (h : s.link? f = some (link, t)) :
    ∃ target key storedAs k, f.kind = .foreignKey target key storedAs ∧
      s.model? target = some t ∧ t.field? (key.getD Compiler.usualKey) = some k ∧
      link = ⟨f.column, t.collection, k.column⟩ := by
  unfold link? at h
  split at h
  · rename_i target key storedAs hkind
    obtain ⟨t', ht, hmap⟩ := Option.bind_eq_some_iff.mp h
    obtain ⟨k, hk, hpair⟩ := Option.map_eq_some_iff.mp hmap
    obtain ⟨rfl, rfl⟩ := Prod.mk.inj hpair
    exact ⟨target, key, storedAs, k, hkind, ht, hk, rfl⟩
  · simp at h

theorem relations?_cons {m last : Model} {name : String} {rest : List String}
    {links : List Link} (h : s.relations? m (name :: rest) = some (links, last)) :
    ∃ f link t others, m.field? name = some f ∧ s.link? f = some (link, t) ∧
      s.relations? t rest = some (others, last) ∧ links = link :: others := by
  simp only [relations?] at h
  obtain ⟨f, hf, h⟩ := Option.bind_eq_some_iff.mp h
  obtain ⟨⟨link, t⟩, hlink, h⟩ := Option.bind_eq_some_iff.mp h
  obtain ⟨⟨others, last'⟩, hrest, hpair⟩ := Option.map_eq_some_iff.mp h
  obtain ⟨rfl, rfl⟩ := Prod.mk.inj hpair
  exact ⟨f, link, t, others, hf, hlink, hrest, rfl⟩

/-- The first name of a chain is its last field, or a foreign key that the chain goes on
behind. -/
theorem chain?_cons {m : Model} {name : String} {rest : List String} {chain : Chain}
    (h : s.chain? m (name :: rest) = some chain) :
    ∃ f, m.field? name = some f ∧
      ((s.staysInside f rest = true ∧ chain.links = [] ∧ chain.field = f ∧
          (rest = [] ∧ chain.lookup = .exact ∨
            ∃ last, rest = [last] ∧ Lookup.ofName? last = some chain.lookup)) ∨
        (s.staysInside f rest = false ∧ ∃ link t tail, s.link? f = some (link, t) ∧
          s.chain? t rest = some tail ∧ chain = { tail with links :=
              link :: tail.links })) := by
  simp only [chain?] at h
  obtain ⟨f, hf, h⟩ := Option.bind_eq_some_iff.mp h
  refine ⟨f, hf, ?_⟩
  cases hstays : s.staysInside f rest with
  | true =>
    rw [hstays, if_pos rfl] at h
    refine .inl ⟨rfl, ?_⟩
    split at h
    · obtain rfl := Option.some.inj h
      exact ⟨rfl, rfl, .inl ⟨rfl, rfl⟩⟩
    · obtain ⟨l, hl, rfl⟩ := Option.map_eq_some_iff.mp h
      exact ⟨rfl, rfl, .inr ⟨_, rfl, hl⟩⟩
    · simp at h
  | false =>
    rw [hstays, if_neg (by simp)] at h
    obtain ⟨⟨link, t⟩, hlink, h⟩ := Option.bind_eq_some_iff.mp h
    obtain ⟨tail, htail, rfl⟩ := Option.map_eq_some_iff.mp h
    exact .inr ⟨rfl, link, t, tail, hlink, htail, rfl⟩

/-- Relations go on with one more foreign key. -/
theorem relations?_snoc {m m' t : Model} {names : List String} {links : List Link}
    {name : String} {f : Field} {link : Link} (h : s.relations? m names = some (links, m'))
    (hf : m'.field? name = some f) (hlink : s.link? f = some (link, t)) :
    s.relations? m (names ++ [name]) = some (links ++ [link], t) := by
  induction names generalizing m links with
  | nil =>
    obtain ⟨rfl, rfl⟩ := Prod.mk.inj (Option.some.inj h)
    simp [relations?, hf, hlink]
  | cons first rest ih =>
    obtain ⟨g, link', t', others, hg, hlink', hrest, rfl⟩ := relations?_cons h
    simp [relations?, hg, hlink', ih hrest]

/-- The last link of relations is that of a foreign key at the end of the others. -/
theorem relations?_snoc_ok {m last : Model} {names : List String}
    {links : List Link} {link : Link}
    (h : s.relations? m names = some (links ++ [link], last)) :
    ∃ m' f, s.relations? m names.dropLast = some (links, m') ∧ f ∈ m'.fields ∧
      s.link? f = some (link, last) := by
  induction names generalizing m links with
  | nil => simp [relations?] at h
  | cons name rest ih =>
    obtain ⟨f, first, t, others, hf, hfirst, hrest, hlinks⟩ := relations?_cons h
    cases links with
    | nil =>
      obtain ⟨rfl, rfl⟩ := List.cons.inj hlinks
      cases rest with
      | nil =>
        obtain ⟨-, rfl⟩ := Prod.mk.inj (Option.some.inj hrest)
        exact ⟨m, f, rfl, List.mem_of_find?_eq_some hf, hfirst⟩
      | cons next rest =>
        obtain ⟨_, _, _, _, -, -, -, hnone⟩ := relations?_cons hrest
        simp at hnone
    | cons first' links =>
      obtain ⟨rfl, rfl⟩ := List.cons.inj hlinks
      obtain ⟨m', g, hfront, hg, hlast⟩ := ih hrest
      cases rest with
      | nil => simp [relations?] at hrest
      | cons next rest => exact ⟨m', g, by simp [relations?, hf, hfirst, hfront], hg, hlast⟩

theorem relations?_append (m : Model) (names more : List String) :
    s.relations? m (names ++ more) = (s.relations? m names).bind fun (links, mid) =>
      (s.relations? mid more).map fun (others, last) => (links ++ others, last) := by
  induction names generalizing m with
  | nil => cases h : s.relations? m more <;> simp [relations?, h]
  | cons name rest ih =>
    simp only [List.cons_append, relations?, ih]
    cases m.field? name with
    | none => rfl
    | some f =>
      simp only [Option.bind_some]
      cases s.link? f with
      | none => rfl
      | some ending =>
        obtain ⟨link, t⟩ := ending
        simp only [Option.bind_some]
        cases s.relations? t rest with
        | none => rfl
        | some route =>
          obtain ⟨links, mid⟩ := route
          simp only [Option.bind_some, Option.map_some]
          cases s.relations? mid more <;> rfl

/-- A relation leads along the foreign key at its end. -/
theorem relations?_fieldAlong {m last : Model} {names : List String}
    {links : List Link} {f : Field}
    (hfield : s.fieldAlong? m names = some f) (h : s.relations? m names = some (links, last)) :
    ∃ front m' link, s.relations? m names.dropLast = some (front, m') ∧ f ∈ m'.fields ∧
      s.link? f = some (link, last) ∧ links = front ++ [link] := by
  obtain ⟨⟨front, m'⟩, hfront, hlast⟩ := Option.bind_eq_some_iff.mp hfield
  obtain ⟨name, hname, hf⟩ := Option.bind_eq_some_iff.mp hlast
  have hnames : names = names.dropLast ++ [name] :=
    (List.dropLast_append_getLast? name hname).symm
  rw [hnames, relations?_append, hfront] at h
  have hfield : m'.field? name = some f := hf
  cases hlink : s.link? f with
  | none => simp [relations?, hfield, hlink] at h
  | some ending =>
    obtain ⟨link, t⟩ := ending
    simp only [relations?, hfield, hlink, Option.bind_some, Option.map_some, Option.some.injEq,
      Prod.mk.injEq] at h
    obtain ⟨rfl, rfl⟩ := h
    exact ⟨front, m', link, hfront, List.mem_of_find?_eq_some hf, rfl, rfl⟩

theorem mem_models_of_relations? {m last : Model} {names : List String} {links : List Link}
    (hm : m ∈ s.models) (h : s.relations? m names = some (links, last)) : last ∈ s.models := by
  induction names generalizing m links with
  | nil =>
    obtain ⟨-, rfl⟩ := Prod.mk.inj (Option.some.inj h)
    exact hm
  | cons name rest ih =>
    obtain ⟨f, link, t, others, hf, hlink, hrest, rfl⟩ := relations?_cons h
    obtain ⟨target, _, _, _, -, ht, -, -⟩ := link?_ok hlink
    exact ih (List.mem_of_find?_eq_some ht) hrest

end Schema

/-! ## Hops -/

/-- What a join stands for: a step along a foreign key from a document that is there. -/
structure Hop where
  /-- the names on the path of the relation -/
  names : List String
  /-- the links to the document that refers to the joined one -/
  front : List Link
  link : Link
  /-- the alias of the document that refers; none if it is that of the query -/
  parent : Option String
  /-- the alias of the joined document -/
  joined : String
  /-- the types of the two columns that have to be equal -/
  types : String × String

namespace Hop

/-- The links to the joined document. -/
def links (h : Hop) : List Link := h.front ++ [h.link]

/-- Whether a join of a context does what a hop stands for, whatever happens to documents
without a match. -/
structure Describes (h : Hop) (entry : String × Join) : Prop where
  path : entry.1 = Text.join "__" h.names
  parent : entry.2.parentAlias = h.parent
  collection : entry.2.collection = h.link.collection
  joined : entry.2.joined = h.joined
  pairs : entry.2.pairs = [⟨h.link.column, h.link.key, h.types.1, h.types.2⟩]

/-- Whether no join takes the place of a field of the documents of the query: it is one of their
columns, or their identity, and no collection has the name of the identity. -/
def IsOwn (s : Schema) (m : Model) (name : String) : Prop :=
  name ∈ m.columns ∨ name = "_id" ∧ ∀ t ∈ s.models, t.collection ≠ "_id"

theorem isOwn_column {s : Schema} {m : Model} {f : Field} (hf : f ∈ m.fields) :
    IsOwn s m f.column :=
  .inl (List.mem_map_of_mem hf)

theorem isOwn_id {s : Schema} {m : Model}
    (hid : "_id" ∈ m.columns ∨ ∀ t ∈ s.models, t.collection ≠ "_id") : IsOwn s m "_id" :=
  hid.imp_right fun hall => ⟨rfl, hall⟩

/-- Where names from the document of the query lead: to the document itself, or to the alias of
a hop. -/
def Reaches (hops : List Hop) (names : List String) (links : List Link)
    (joined : Option String) : Prop :=
  (joined = none ∧ names = [] ∧ links = []) ∨
    ∃ h ∈ hops, joined = some h.joined ∧ h.names = names ∧ h.links = links

/-- Hops from the documents of a model, each from the document itself or from one that an
earlier hop joined, with different aliases that take the place of no field of the document. -/
inductive Leads (s : Schema) (m : Model) : List Hop → Prop where
  | nil : Leads s m []
  | snoc {hops : List Hop} {h : Hop} {target : Model} (hhops : Leads s m hops)
    (htext : Text.segments (Text.join "__" h.names) = h.names)
    (hroute : s.relations? m h.names = some (h.links, target))
    (htypes : (s.fieldAlong? m h.names).bind s.keyTypes? = some h.types)
    (hparent : Reaches hops h.names.dropLast h.front h.parent)
    (hown : ¬IsOwn s m h.joined) (hnew : ∀ p ∈ hops, h.joined ≠ p.joined)
    (hdots : '.' ∉ h.joined.toList) (hdollars : '$' ∉ h.joined.toList) : Leads s m (hops ++ [h])

theorem Leads.route {s : Schema} {m : Model} {hops : List Hop} (h : Leads s m hops) :
    ∀ hop ∈ hops, Text.segments (Text.join "__" hop.names) = hop.names ∧
      ∃ target, s.relations? m hop.names = some (hop.links, target) := by
  induction h with
  | nil => simp
  | snoc _ htext hroute _ _ _ _ _ _ ih =>
    exact List.forall_mem_append.mpr ⟨ih, List.forall_mem_singleton.mpr ⟨htext, _, hroute⟩⟩

/-- An access to a field at the end of links: to a column of the document of the query or of one
that a hop joined. -/
def Finds (s : Schema) (m : Model) (hops : List Hop) (links : List Link) (f : Field)
    (a : Access) : Prop :=
  ∃ names last joined, Reaches hops names links joined ∧
    s.relations? m names = some (links, last) ∧ last ∈ s.models ∧ f ∈ last.fields ∧
    a = .column joined f.column (.ofField f.kind)

end Hop

namespace Context

/-! ## Contexts with the same surroundings -/

/-- Whether two contexts differ at most in their joins and in their references to computed
columns. -/
structure Alike (ctx ctx' : Context) : Prop where
  model : ctx'.model = ctx.model
  annotations : ctx'.annotations = ctx.annotations
  depth : ctx'.nullableDepth = ctx.nullableDepth
  outer : ctx'.outerRefs = ctx.outerRefs
  stages : ctx'.subqueryStages = ctx.subqueryStages
  count : ctx'.subqueryCount = ctx.subqueryCount

namespace Alike

variable {ctx ctx' ctx'' : Context}

theorem refl (ctx : Context) : Alike ctx ctx := ⟨rfl, rfl, rfl, rfl, rfl, rfl⟩

theorem trans (h : Alike ctx ctx') (h' : Alike ctx' ctx'') : Alike ctx ctx'' where
  model := h'.model.trans h.model
  annotations := h'.annotations.trans h.annotations
  depth := h'.depth.trans h.depth
  outer := h'.outer.trans h.outer
  stages := h'.stages.trans h.stages
  count := h'.count.trans h.count

theorem refer (ctx : Context) (name : String) : Alike ctx (ctx.refer name) := by
  unfold Context.refer
  split <;> exact ⟨rfl, rfl, rfl, rfl, rfl, rfl⟩

theorem promote (ctx : Context) (indices : List Nat) : Alike ctx (ctx.promote indices) := by
  induction indices generalizing ctx with
  | nil => exact refl ctx
  | cons index rest ih =>
    have hfirst : Alike ctx (ctx.promoteAt index) := ⟨rfl, rfl, rfl, rfl, rfl, rfl⟩
    exact hfirst.trans (ih (ctx.promoteAt index))

theorem join (ctx : Context) (path : String) (parent : Option String) (f : Field)
    (target : Model) (k : Field) : Alike ctx (ctx.join path parent f target k).2 := by
  unfold Context.join
  split
  · dsimp only
    split <;> exact ⟨rfl, rfl, rfl, rfl, rfl, rfl⟩
  · exact ⟨rfl, rfl, rfl, rfl, rfl, rfl⟩

end Alike

end Context

/-! ## Contexts -/

namespace Context

open Compiler (relationPath)

/-- A context whose joins do what some hops stand for. -/
structure JoinsHops (s : Schema) (m : Model) (hops : List Hop) (ctx : Context) : Prop where
  model : ctx.model = m
  joins : List.Forall₂ Hop.Describes hops ctx.joins
  leads : Hop.Leads s m hops

/-- A context whose joins do what some hops stand for, and in which nothing else was done. -/
structure FollowsHops (s : Schema) (m : Model) (hops : List Hop) (ctx : Context) : Prop
    extends JoinsHops s m hops ctx where
  annotations : ctx.annotations = []
  stages : ctx.subqueryStages = []

theorem joinsHops_ofModel (s : Schema) (m : Model) : (ofModel m).JoinsHops s m [] :=
    ⟨rfl, .nil, .nil⟩

theorem followsHops_ofModel (s : Schema) (m : Model) : (ofModel m).FollowsHops s m [] :=
  ⟨joinsHops_ofModel s m, rfl, rfl⟩

theorem forall₂_modify {α β : Type} {R : α → β → Prop} {f : β → β}
    (hf : ∀ a b, R a b → R a (f b))
    {as : List α} {bs : List β} (h : List.Forall₂ R as bs) (index : Nat) :
    List.Forall₂ R as (bs.modify index f) := by
  induction h generalizing index with
  | nil => simp
  | cons hab hrest ih =>
    cases index with
    | zero => simpa using ⟨hf _ _ hab, hrest⟩
    | succ index => simpa using ⟨hab, ih index⟩

/-- To keep documents without a match changes nothing else about the joins. -/
theorem map_promoteAt {α : Type} {g : String × Join → α}
    (hg : ∀ entry, g (keepUnmatched entry) = g entry)
    (ctx : Context) (index : Nat) : (ctx.promoteAt index).joins.map g = ctx.joins.map g := by
  refine List.ext_getElem? fun i => ?_
  rw [promoteAt, List.getElem?_map, List.getElem?_map, List.getElem?_modify]
  by_cases hi : index = i
  · subst hi
    cases ctx.joins[index]? <;> simp [hg]
  · simp [hi]

namespace JoinsHops

variable {s : Schema} {m : Model} {hops : List Hop} {ctx ctx' : Context}

theorem of_eq (h : ctx.JoinsHops s m hops) (hmodel : ctx'.model = ctx.model)
    (hjoins : ctx'.joins = ctx.joins) : ctx'.JoinsHops s m hops :=
  ⟨hmodel.trans h.model, hjoins ▸ h.joins, h.leads⟩

theorem promoteAt (h : ctx.JoinsHops s m hops) (index : Nat) :
    (ctx.promoteAt index).JoinsHops s m hops where
  model := h.model
  joins := by
    refine forall₂_modify (fun hop entry hentry => ?_) h.joins index
    exact ⟨hentry.path, hentry.parent, hentry.collection, hentry.joined, hentry.pairs⟩
  leads := h.leads

theorem promote (h : ctx.JoinsHops s m hops) (indices : List Nat) :
    (ctx.promote indices).JoinsHops s m hops := by
  induction indices generalizing ctx with
  | nil => exact h
  | cons index rest ih => exact ih (h.promoteAt index)

/-- The join that a relation path has already leads to the alias of a hop with its names. -/
theorem aliasAt (h : ctx.JoinsHops s m hops) {names : List String} {index : Nat}
    (htext : Text.segments (Text.join "__" names) = names)
    (hindex : ctx.joinIndex? (Text.join "__" names) = some index) :
    ∃ hop ∈ hops, ctx.aliasAt index = hop.joined ∧ hop.names = names := by
  obtain ⟨hlt, hpath, -⟩ := List.findIdx?_eq_some_iff_getElem.mp hindex
  have hlength : index < hops.length := h.joins.length_eq ▸ hlt
  have hentry := (List.forall₂_iff_get.mp h.joins).2 index hlength hlt
  refine ⟨hops[index], List.getElem_mem hlength, ?_, ?_⟩
  · simpa [Context.aliasAt, hlt] using hentry.joined
  · have hsame : ctx.joins[index].1 = Text.join "__" names := by simpa using hpath
    have hnames := hentry.path.symm.trans hsame
    have hroute := (h.leads.route hops[index] (List.getElem_mem hlength)).1
    have hsegments := congrArg Text.segments hnames
    simpa [hroute, htext] using hsegments

theorem joined_eq (h : ctx.JoinsHops s m hops) :
    hops.map Hop.joined = ctx.joins.map (·.2.joined) := by
  have hjoins := h.joins
  generalize ctx.joins = entries at hjoins
  clear h
  induction hjoins with
  | nil => rfl
  | cons hentry _ ih => rw [List.map_cons, List.map_cons, ih, hentry.joined]

/-- The alias of a new join is neither a column of the document nor the alias of a hop. -/
theorem freshAlias_new (h : ctx.JoinsHops s m hops) (collection : String) :
    ctx.freshAlias collection ∉ m.columns ∧ ∀ p ∈ hops, ctx.freshAlias collection ≠
        p.joined := by
  have hfresh := freshAlias_notMem ctx collection
  simp only [takenNames, h.model, ← h.joined_eq, List.mem_cons, List.mem_append,
    not_or] at hfresh
  obtain ⟨-, ⟨hcolumns, -⟩, hjoined⟩ := hfresh
  exact ⟨hcolumns, fun p hp heq => hjoined (heq ▸ List.mem_map_of_mem hp)⟩

theorem not_isOwn_freshAlias (h : ctx.JoinsHops s m hops) {t : Model} (ht : t ∈ s.models) :
    ¬Hop.IsOwn s m (ctx.freshAlias t.collection) := by
  rintro (hcolumn | ⟨hid, hall⟩)
  · exact (h.freshAlias_new t.collection).1 hcolumn
  · exact freshAlias_ne_id ctx (hall t ht) hid

/-- A join along one more foreign key leads to the alias of a hop, which is the hop there was or
a new one. -/
theorem join (h : ctx.JoinsHops s m hops) {names : List String} {links : List Link}
    {name : String} {parent : Option String} {f k : Field} {t : Model}
    (hstart : Hop.Reaches hops names links parent)
    (hroute : s.relations? m (names ++ [name]) =
      some (links ++ [⟨f.column, t.collection, k.column⟩], t))
    (htext : Text.segments (Text.join "__" (names ++ [name])) = names ++ [name])
    (hfield : s.fieldAlong? m (names ++ [name]) = some f)
    (htypes : s.keyTypes? f = some (f.kind.storageType, k.kind.storageType))
    (ht : t ∈ s.models) (hdots : '.' ∉ t.collection.toList)
    (hdollars : '$' ∉ t.collection.toList) :
    ∃ more, (∀ hop ∈ more, hop.links = links ++ [⟨f.column, t.collection, k.column⟩]) ∧
      (ctx.join (Text.join "__" (names ++ [name])) parent f t k).2.JoinsHops s m
        (hops ++ more) ∧
      Hop.Reaches (hops ++ more) (names ++ [name]) (links ++
        [⟨f.column, t.collection, k.column⟩]) (some (ctx.join (Text.join "__" (names ++ [name]))
          parent f t k).1.1) := by
  unfold Context.join
  split
  · rename_i index hindex
    obtain ⟨hop, hmem, halias, hnames⟩ := h.aliasAt htext hindex
    obtain ⟨-, target, hlinks⟩ := h.leads.route hop hmem
    rw [hnames] at hlinks
    have hsame := (Prod.mk.inj (Option.some.inj (hlinks.symm.trans hroute))).1
    refine ⟨[], by simp, ?_, ?_⟩
    · rw [List.append_nil]
      dsimp only
      split
      · exact h.promoteAt index
      · exact h
    · rw [List.append_nil]
      exact .inr ⟨hop, hmem, by rw [halias], hnames, hsame⟩
  · obtain ⟨-, hnew⟩ := h.freshAlias_new t.collection
    let hop : Hop := ⟨names ++ [name], links, ⟨f.column, t.collection, k.column⟩, parent,
      ctx.freshAlias t.collection, (f.kind.storageType, k.kind.storageType)⟩
    have hparent : Hop.Reaches hops hop.names.dropLast hop.front hop.parent := by
      simpa [hop] using hstart
    have hdescribes : hop.Describes
        (Text.join "__" (names ++ [name]), ctx.newJoin parent f t k) :=
      ⟨rfl, rfl, rfl, rfl, rfl⟩
    have hhopTypes : (s.fieldAlong? m hop.names).bind s.keyTypes? = some hop.types := by
      simp only [hop, hfield, Option.bind_some, htypes]
    refine ⟨[hop], List.forall_mem_singleton.mpr rfl, ?_, ?_⟩
    · refine ⟨h.model, ?_, ?_⟩
      · exact List.rel_append h.joins (.cons hdescribes .nil)
      · exact .snoc h.leads htext hroute hhopTypes hparent (h.not_isOwn_freshAlias ht) hnew
          (notMem_freshAlias (by decide) (by decide) hdots)
          (notMem_freshAlias (by decide) (by decide) hdollars)
    · exact .inr ⟨hop, by simp, rfl, rfl, rfl⟩

end JoinsHops

end Context

/-! ## Following paths -/

namespace Schema

variable {s : Schema}

theorem plain_of_hasPlainCollections (h : s.hasPlainCollections = true) {m : Model}
    (hm : m ∈ s.models) : '.' ∉ m.collection.toList ∧ '$' ∉ m.collection.toList ∧
      ∀ f ∈ m.fields, '.' ∉ f.column.toList ∧ '$' ∉ f.column.toList := by
  simp only [hasPlainCollections, hasPlainColumns, Model.columns, Bool.and_eq_true,
    List.all_eq_true, Bool.not_eq_true', List.contains_eq_mem, decide_eq_false_iff_not,
    List.forall_mem_map] at h
  exact ⟨(h.2 m hm).1, (h.2 m hm).2, fun f hf => h.1 m hm f hf⟩

theorem keyTypes?_eq (h : s.hasMatchingKeys = true) {m : Model} (hm : m ∈ s.models) {f : Field}
    (hf : f ∈ m.fields) {types : String × String} (htypes : s.keyTypes? f = some types) :
    types.1 = types.2 := by
  simp only [hasMatchingKeys, List.all_eq_true] at h
  have hfield := h m hm f hf
  unfold keyTypes? at htypes
  split at htypes
  · rename_i target key storedAs hkind
    obtain ⟨t, ht, hmap⟩ := Option.bind_eq_some_iff.mp htypes
    obtain ⟨k, hk, rfl⟩ := Option.map_eq_some_iff.mp hmap
    simpa [hkind, ht, hk] using hfield
  · simp at htypes

end Schema

namespace Compiler

variable {c : Compiler} {path : String} {ctx ctx' : Context} {e : Ending}

theorem follow_alike {place : Place} {names : List String} {joins : List Nat}
    (h : c.follow path place names joins ctx = (.ok e, ctx')) : ctx.Alike ctx' := by
  induction names generalizing place joins ctx with
  | nil =>
    cases place with
    | document m joined relation => simp [follow] at h
    | value a =>
      obtain ⟨-, rfl⟩ := follow_value_nil_ok h
      exact Context.Alike.refl _
  | cons name rest ih =>
    cases place with
    | value a =>
      rcases follow_value_cons_ok h with ⟨next, -, hnext⟩ | ⟨l, -, -, rfl⟩
      · exact ih hnext
      · exact Context.Alike.refl _
    | document m joined relation =>
      obtain ⟨name', rest', f, hnames, -, hcase⟩ := follow_document_ok h
      obtain ⟨rfl, rfl⟩ := List.cons.inj hnames
      rcases hcase with ⟨-, hcolumn⟩ | ⟨_, _, _, target, k, -, -, -, -, hjoin⟩
      · exact ih hcolumn
      · exact (Context.Alike.join ctx _ joined f target k).trans (ih hjoin)

theorem followPath_alike (h : c.followPath ctx path = (.ok e, ctx')) :
    ctx.Alike ctx' := by
  obtain ⟨name, rest, -, -, hcase⟩ := followPath_ok h
  rcases hcase with ⟨type, -, hfollow⟩ | ⟨-, hfollow⟩
  · exact (Context.Alike.refer ctx name).trans (follow_alike hfollow)
  · exact follow_alike hfollow

/-- Behind a value of an exact kind there is at most the name of a lookup. -/
theorem follow_exact_ok {a : Access} {kind : ScalarKind} {names : List String}
    {joins : List Nat} (htype : a.type = .scalar kind) (hexact : kind.isExact = true)
    (h : c.follow path (.value a) names joins ctx = (.ok e, ctx')) :
    ctx' = ctx ∧ e.target = a ∧ ((names = [] ∧ e.lookup? = none) ∨
      ∃ name l, names = [name] ∧ Lookup.ofName? name = some l ∧ e.lookup? = some l) := by
  have hjson : kind ≠ .json := by
    rintro rfl
    simp [ScalarKind.isExact] at hexact
  cases names with
  | nil =>
    obtain ⟨rfl, rfl⟩ := follow_value_nil_ok h
    exact ⟨rfl, rfl, .inl ⟨rfl, rfl⟩⟩
  | cons name rest =>
    rcases follow_value_cons_ok h with ⟨next, hstep, -⟩ | ⟨l, hstep, rfl, rfl⟩
    · obtain ⟨-, l, -, hl⟩ := step_exact_ok htype hjson hstep
      simp at hl
    · obtain ⟨hlast, l', hname, hl⟩ := step_exact_ok htype hjson hstep
      obtain rfl := Landing.lookup.inj hl
      obtain rfl := List.isEmpty_iff.mp hlast
      exact ⟨rfl, rfl, .inr ⟨name, l, rfl, hname, rfl⟩⟩

section Documents

variable {m : Model} {parent : Option String} {relation name : String} {rest : List String}
  {joins : List Nat} {f : Field}

/-- A field that stays inside of a document is read from its column. -/
theorem follow_stays_ok (hf : m.field? name = some f)
    (hstays : c.schema.staysInside f rest = true)
    (h : c.follow path (.document m parent relation) (name :: rest) joins ctx = (.ok e, ctx')) :
    c.follow path (.value (.column parent f.column (.ofField f.kind))) rest joins ctx =
        (.ok e, ctx') := by
  obtain ⟨_, _, g, hnames, hg, hnext⟩ := follow_document_ok h
  obtain ⟨rfl, rfl⟩ := List.cons.inj hnames
  obtain rfl := Option.some.inj (hf.symm.trans hg)
  rcases hnext with ⟨-, hcolumn⟩ | ⟨target, key, storedAs, t, k, hkind, ht, hread, -, -⟩
  · exact hcolumn
  · simp [Schema.staysInside, hkind, ht, hread] at hstays

/-- A foreign key behind which the path goes on is joined. -/
theorem follow_leaves_ok {link : Link} {t : Model} (hf : m.field? name = some f)
    (hleaves : c.schema.staysInside f rest = false) (hlink : c.schema.link? f = some (link, t))
    (h : c.follow path (.document m parent relation) (name :: rest) joins ctx = (.ok e, ctx')) :
    ∃ target key storedAs k, f.kind = .foreignKey target key storedAs ∧
      c.schema.model? target = some t ∧ t.field? (key.getD usualKey) = some k ∧
      link = ⟨f.column, t.collection, k.column⟩ ∧ rest ≠ [] ∧
      c.follow path
        (.document t (some (ctx.join (relationPath relation name) parent f t k).1.1)
          (relationPath relation name)) rest
        (joins ++ [(ctx.join (relationPath relation name) parent f t k).1.2])
        (ctx.join (relationPath relation name) parent f t k).2 = (.ok e, ctx') := by
  obtain ⟨target, key, storedAs, k, hkind, ht, hk, rfl⟩ := Schema.link?_ok hlink
  obtain ⟨_, _, g, hnames, hg, hnext⟩ := follow_document_ok h
  obtain ⟨rfl, rfl⟩ := List.cons.inj hnames
  obtain rfl := Option.some.inj (hf.symm.trans hg)
  rcases hnext with ⟨hinside, -⟩ | ⟨target', key', storedAs', t', k', hkind', ht',
    hread, hk', hrest⟩
  · have hread := hinside target key storedAs t hkind ht
    simp [Schema.staysInside, hkind, ht, hread] at hleaves
  · obtain ⟨rfl, rfl, rfl⟩ := FieldKind.foreignKey.inj (hkind.symm.trans hkind')
    obtain rfl := Option.some.inj (ht.symm.trans ht')
    obtain rfl := Option.some.inj (hk.symm.trans hk')
    refine ⟨target, key, storedAs, k, hkind, ht, hk, rfl, ?_, hrest⟩
    rintro rfl
    simp [readsStoredKey] at hread

/-- Where a path goes on behind a foreign key, the key leads somewhere. -/
theorem link?_of_leaves (hf : m.field? name = some f)
    (hleaves : c.schema.staysInside f rest = false)
    (h : c.follow path (.document m parent relation) (name :: rest) joins ctx = (.ok e, ctx')) :
    ∃ link t, c.schema.link? f = some (link, t) := by
  obtain ⟨_, _, g, hnames, hg, hnext⟩ := follow_document_ok h
  obtain ⟨rfl, rfl⟩ := List.cons.inj hnames
  obtain rfl := Option.some.inj (hf.symm.trans hg)
  rcases hnext with ⟨hinside, -⟩ | ⟨target, key, storedAs, t, k, hkind, ht, -, hk, -⟩
  · cases hkind : f.kind with
    | foreignKey target key storedAs =>
      cases ht : c.schema.model? target with
      | none =>
        simp only [follow, hf, hkind, modelOf, ht] at h
        simp at h
      | some t =>
        have hread := hinside target key storedAs t hkind ht
        simp [Schema.staysInside, hkind, ht, hread] at hleaves
    | _ => simp [Schema.staysInside, hkind] at hleaves
  · exact ⟨⟨f.column, t.collection, k.column⟩, t, by simp [Schema.link?, hkind, ht, hk]⟩

/-- A field that stays inside of a document is read from its column. -/
theorem follow_stays (hf : m.field? name = some f)
    (hstays : c.schema.staysInside f rest = true) :
    c.follow path (.document m parent relation) (name :: rest) joins ctx =
      c.follow path (.value (.column parent f.column (.ofField f.kind))) rest joins ctx := by
  unfold Schema.staysInside at hstays
  rw [follow]
  simp only [hf]
  split
  · rename_i target key storedAs hkind
    simp only [hkind] at hstays
    cases ht : c.schema.model? target with
    | none => simp [ht] at hstays
    | some t =>
      rw [ht] at hstays
      simp only [modelOf, ht, hstays, if_true]
  · rfl

/-- Names behind a foreign key go on at the joined document, in every context. -/
theorem follow_leaves {link : Link} {t : Model} (hf : m.field? name = some f)
    (hleaves : c.schema.staysInside f rest = false)
    (hlink : c.schema.link? f = some (link, t)) :
    ∃ k, ∀ (parent : Option String) (relation : String) (joins : List Nat) (ctx : Context),
      c.follow path (.document m parent relation) (name :: rest) joins ctx = c.follow path
        (.document t (some (ctx.join (relationPath relation name) parent f t k).1.1)
          (relationPath relation name)) rest
        (joins ++ [(ctx.join (relationPath relation name) parent f t k).1.2])
        (ctx.join (relationPath relation name) parent f t k).2 := by
  obtain ⟨target, key, storedAs, k, hkind, ht, hk, -⟩ := Schema.link?_ok hlink
  have hread : readsStoredKey t rest = false := by
    simpa [Schema.staysInside, hkind, ht] using hleaves
  refine ⟨k, fun parent relation joins ctx => ?_⟩
  rw [follow]
  simp only [hf]
  split
  · rename_i target' key' storedAs' hkind'
    obtain ⟨rfl, rfl, rfl⟩ := FieldKind.foreignKey.inj (hkind.symm.trans hkind')
    simp only [modelOf, ht, hread, Bool.false_eq_true, if_false, hk]
  · rename_i hnone
    exact absurd hkind (hnone target key storedAs)

end Documents

/-- Behind a value a path changes nothing, even if it turns out to be wrong. -/
theorem follow_value_snd (c : Compiler) (path : String) (a : Access) (names : List String)
    (joins : List Nat)
    (ctx : Context) : (c.follow path (.value a) names joins ctx).2 = ctx := by
  induction names generalizing a with
  | nil => rfl
  | cons name rest ih =>
    rw [follow]
    split
    · rfl
    · exact ih _
    · rfl

/-- Behind a value a path makes no joins. -/
theorem follow_value_context {a : Access} {names : List String} {joins : List Nat}
    (h : c.follow path (.value a) names joins ctx = (.ok e, ctx')) : ctx' = ctx := by
  have hctx := follow_value_snd c path a names joins ctx
  rwa [h] at hctx

section Chains

variable {m : Model} (hplain : c.schema.hasPlainCollections = true)
include hplain

/-- Names from a document lead along foreign keys, by which documents are joined, to a field
that is read from where it stands. -/
theorem follow_hops {m' : Model} {names done : List String} {hops : List Hop}
    {links : List Link} {parent : Option String} {joins : List Nat} (hm : m' ∈ c.schema.models)
    (hpath : Text.segments path = done ++ names) (hempty : "" ∉ done ++ names)
    (hctx : ctx.JoinsHops c.schema m hops)
    (hdone : c.schema.relations? m done = some (links, m'))
    (hreach : Hop.Reaches hops done links parent)
    (h : c.follow path (.document m' parent (Text.join "__" done)) names joins ctx =
      (.ok e, ctx')) :
    ∃ more route f rest, (∀ hop ∈ more, hop.links <+: links ++ route) ∧
      ctx'.JoinsHops c.schema m (hops ++ more) ∧
      (∃ a through, Hop.Finds c.schema m (hops ++ more) (links ++ route) f a ∧
        c.follow path (.value a) rest through ctx' = (.ok e, ctx')) ∧
      ∃ name last, last.field? name = some f ∧ c.schema.staysInside f rest = true ∧
        c.schema.chain? m' names = (c.schema.chain? last (name :: rest)).map fun chain =>
          { chain with links := route ++ chain.links } := by
  induction names generalizing m' done hops links parent joins ctx with
  | nil => simp [follow] at h
  | cons name rest ih =>
    obtain ⟨_, _, f, hnames, hf, -⟩ := follow_document_ok h
    obtain ⟨rfl, rfl⟩ := List.cons.inj hnames
    have hfields : f ∈ m'.fields := List.mem_of_find?_eq_some hf
    cases hstays : c.schema.staysInside f rest with
    | true =>
      have hcolumn := follow_stays_ok hf hstays h
      obtain rfl := follow_value_context hcolumn
      refine ⟨[], [], f, rest, by simp, by simpa using hctx, ⟨_, joins, ?_, hcolumn⟩, name, m',
        hf, hstays, ?_⟩
      · rw [List.append_nil, List.append_nil]
        exact ⟨done, m', parent, hreach, hdone, hm, hfields, rfl⟩
      · simp
    | false =>
      obtain ⟨link, t, hlink⟩ := link?_of_leaves hf hstays h
      obtain ⟨target, key, storedAs, k, hkind, ht, hk, rfl, hne, hrest⟩ :=
        follow_leaves_ok hf hstays hlink h
      have htm : t ∈ c.schema.models := List.mem_of_find?_eq_some ht
      have hsplit : Text.segments path = (done ++ [name]) ++ rest := by simpa using hpath
      have hempty' : "" ∉ (done ++ [name]) ++ rest := by simpa using hempty
      have htext := Text.segments_join (by simp) (Text.isPart_of_segments hsplit hne)
      rw [relationPath_join fun hmem => hempty (List.mem_append_left _ hmem)] at hrest
      have hroute := Schema.relations?_snoc hdone hf hlink
      obtain ⟨hdots, hdollars, -⟩ := Schema.plain_of_hasPlainCollections hplain htm
      have hfield : c.schema.fieldAlong? m (done ++ [name]) = some f := by
        simp [Schema.fieldAlong?, hdone, hf]
      have htypes : c.schema.keyTypes? f = some (f.kind.storageType, k.kind.storageType) := by
        simp [Schema.keyTypes?, hkind, ht, hk]
      obtain ⟨first, hfirst, hjoined, hreached⟩ := hctx.join hreach hroute htext hfield htypes
        htm hdots hdollars
      obtain ⟨more, route, g, behind, hmore, hctx', ⟨a, through, hfinds, hvalue⟩, last, n, hg,
          hinside, hchain⟩ :=
        ih htm hsplit hempty' hjoined hroute hreached hrest
      rw [List.append_assoc] at hctx' hfinds
      refine ⟨first ++ more, ⟨f.column, t.collection, k.column⟩ :: route, g, behind, ?_, hctx',
        ⟨a, through, by simpa using hfinds, hvalue⟩, last, n, hg, hinside, ?_⟩
      · refine List.forall_mem_append.mpr ⟨fun hop hhop => ?_, fun hop hhop => ?_⟩
        · rw [hfirst hop hhop]
          simp
        · simpa using hmore hop hhop
      · simp only [Schema.chain?, hf, Option.bind_some, hstays, Bool.false_eq_true, if_false,
          hlink, hchain, Option.map_map]
        rfl

/-- Following a path makes joins that do what hops stand for. -/
theorem followPath_hops {hops : List Hop} (hm : m ∈ c.schema.models)
    (hctx : ctx.JoinsHops c.schema m hops)
    (h : c.followPath ctx path = (.ok e, ctx')) :
        ∃ more, ctx'.JoinsHops c.schema m (hops ++ more) := by
  obtain ⟨name, rest, hnames, hempty, hstart⟩ := followPath_ok h
  rcases hstart with ⟨type, -, hvalue⟩ | ⟨-, hfollow⟩
  · obtain rfl := follow_value_context hvalue
    refine ⟨[], ?_⟩
    rw [List.append_nil]
    exact hctx.of_eq (Context.Alike.refer ctx name).model (Context.joins_refer ctx name)
  · rw [hctx.model] at hfollow
    rw [← List.nil_append (name :: rest)] at hnames hempty
    obtain ⟨more, _, _, _, -, hctx', -⟩ :=
      follow_hops hplain hm hnames hempty hctx rfl (.inl ⟨rfl, rfl, rfl⟩) hfollow
    exact ⟨more, hctx'⟩

/-- Following a path along a chain of foreign keys joins the documents that its links lead
through. -/
theorem followPath_chain {hops : List Hop} {chain : Chain} (hm : m ∈ c.schema.models)
    (hctx : ctx.FollowsHops c.schema m hops)
    (hchain : c.schema.chain? m (Text.segments path) = some chain)
    (h : c.followPath ctx path = (.ok e, ctx')) :
    ∃ more, (∀ hop ∈ more, hop.links <+: chain.links) ∧
      ctx'.FollowsHops c.schema m (hops ++ more) ∧
      ∃ a rest through, Hop.Finds c.schema m (hops ++ more) chain.links chain.field a ∧
        c.follow path (.value a) rest through ctx' = (.ok e, ctx') ∧
        (rest = [] ∧ chain.lookup = .exact ∨
          ∃ last, rest = [last] ∧ Lookup.ofName? last = some chain.lookup) := by
  have halike := followPath_alike h
  obtain ⟨name, rest, hnames, hempty, hstart⟩ := followPath_ok h
  have hnone : ctx.computedType? name = none := by
    simp [Context.computedType?, hctx.annotations, Context.findType]
  have hfollow : c.follow path (.document m none "") (name :: rest) [] ctx = (.ok e, ctx') := by
    rcases hstart with ⟨type, hsome, -⟩ | ⟨-, hfollow⟩
    · simp [hnone] at hsome
    · rwa [hctx.model] at hfollow
  obtain ⟨more, route, f, behind, hmore, hctx', ⟨a, through, hfinds, hvalue⟩, last, n, hf,
      hstays, hsame⟩ :=
    follow_hops hplain hm (hnames.trans (List.nil_append _).symm)
      (List.nil_append (name :: rest) ▸ hempty) hctx.toJoinsHops rfl
          (.inl ⟨rfl, rfl, rfl⟩) hfollow
  rw [List.nil_append] at hfinds
  -- the last field of the chain is the one that the path ends at
  rw [← hnames, hchain] at hsame
  obtain ⟨tail, htail, rfl⟩ := Option.map_eq_some_iff.mp hsame.symm
  obtain ⟨g, hg, hcase⟩ := Schema.chain?_cons htail
  obtain rfl := Option.some.inj (hf.symm.trans hg)
  rcases hcase with ⟨-, hlinks, hfield, hrest⟩ | ⟨hleaves, -⟩
  · refine ⟨more, by simpa [hlinks] using hmore, ⟨hctx', ?_, ?_⟩, a, behind, through, ?_,
      hvalue, hrest⟩
    · rw [halike.annotations, hctx.annotations]
    · rw [halike.stages, hctx.stages]
    · simpa [hlinks, hfield] using hfinds
  · simp [hstays] at hleaves

/-- Resolving a path along a chain of foreign keys to a field of an exact kind finds the
field. -/
theorem resolveLookup_chain {hops : List Hop} {chain : Chain} {kind : ScalarKind} {r : Resolved}
    (hm : m ∈ c.schema.models) (hctx : ctx.FollowsHops c.schema m hops)
    (hchain : c.schema.chain? m (Text.segments path) = some chain)
    (htype : ValueType.ofField chain.field.kind = .scalar kind) (hexact : kind.isExact = true)
    (h : c.resolveLookup ctx path = (.ok r, ctx')) :
    ∃ more, (∀ hop ∈ more, hop.links <+: chain.links) ∧
      ctx'.FollowsHops c.schema m (hops ++ more) ∧
      Hop.Finds c.schema m (hops ++ more) chain.links chain.field r.target ∧
          r.lookup = chain.lookup := by
  obtain ⟨e, hpath, hcompared⟩ := resolveLookup_ok h
  obtain ⟨rfl, -⟩ := compared_ok hcompared
  obtain ⟨more, hmore, hctx', a, rest, through, hfinds, hvalue, hrest⟩ :=
    followPath_chain hplain hm hctx hchain hpath
  have hcolumn : a.type = .scalar kind := by
    obtain ⟨_, _, _, -, -, -, -, rfl⟩ := hfinds
    exact htype
  obtain ⟨-, rfl, hend⟩ := follow_exact_ok hcolumn hexact hvalue
  refine ⟨more, hmore, hctx', hfinds, ?_⟩
  rcases hend with ⟨rfl, hnone⟩ | ⟨last, l, rfl, hname, hsome⟩
  · obtain ⟨-, hlookup⟩ | ⟨last, hlast, -⟩ := hrest
    · simp [hnone, hlookup]
    · simp at hlast
  · obtain ⟨hlast, -⟩ | ⟨last', hlast, hlookup⟩ := hrest
    · simp at hlast
    · obtain ⟨rfl, -⟩ := List.cons.inj hlast
      simp [hsome, ← Option.some.inj (hname.symm.trans hlookup)]

end Chains

end Compiler

end DocQuery
