import DocQuery.Proofs.JoinKinds
import DocQuery.Proofs.JoinRows
import DocQuery.Proofs.MirroredRows
import Mathlib.Data.List.Induction
set_option autoImplicit false

/-!
# Proofs: the rows of joins

Joins make a row of a document by taking, one after another, one of the documents that match.
What was taken can be read off the row.  So if the joins of a query are among those of another
one, and drop no more documents, then each row of the other query was made by the same choices
as a row of the first one.
-/

namespace DocQuery

open Value

/-! ## Choices -/

namespace Join

variable {config : Config} {store : Store} {j : Join}

/-- A row that joins make of a document. -/
inductive Assembled (config : Config) (store : Store) :
    List (String × Join) → Value → Value → Prop where
  | nil (doc : Value) : Assembled config store [] doc doc
  | snoc {front : List (String × Join)} {last : String × Join} {doc row v : Value}
    {results : List Value}
    (hfront : Assembled config store front doc row)
    (hmatched : last.2.matched config store row = .ok results)
    (hv : v ∈ kept last.2.kind results) :
    Assembled config store (front ++ [last]) doc (row.setPath last.2.joined v)

theorem assembled_nil_ok {doc row : Value} (h : Assembled config store [] doc row) :
    row = doc := by
  generalize hjoins : ([] : List (String × Join)) = joins at h
  cases h with
  | nil => rfl
  | snoc => simp at hjoins

theorem assembled_snoc_ok {front : List (String × Join)} {last : String × Join}
    {doc out : Value} (h : Assembled config store (front ++ [last]) doc out) :
    ∃ row results v, Assembled config store front doc row ∧
      last.2.matched config store row = .ok results ∧
      v ∈ kept last.2.kind results ∧ out = row.setPath last.2.joined v := by
  generalize hjoins : front ++ [last] = joins at h
  cases h with
  | nil => simp at hjoins
  | snoc hfront hmatched hv =>
    obtain ⟨rfl, hlast⟩ := List.append_inj' hjoins rfl
    obtain rfl := (List.cons.inj hlast).1
    exact ⟨_, _, _, hfront, hmatched, hv, rfl⟩

/-- What a join adds to a row matches it, or it is null because nothing does. -/
theorem mem_of_mem_kept {kind : JoinKind} {results : List Value} {v : Value}
    (h : v ∈ kept kind results) : v ∈ results ∨ countsZero results = true ∧ v = .null := by
  cases kind with
  | inner => exact .inl h
  | left =>
    have hadded : v ∈ if countsZero results = true then [.null] else results := h
    split at hadded
    · rename_i hzero
      exact .inr ⟨hzero, List.mem_singleton.mp hadded⟩
    · exact .inl hadded

/-- The rows that a join makes of rows. -/
theorem mem_spread_iff {rows : List Value} {groups : List (List Value)}
    (h : Stage.each (j.matched config store) rows = .ok groups) (out : Value) :
    out ∈ j.spread rows groups ↔ ∃ row ∈ rows, ∃ results,
      j.matched config store row = .ok results ∧
      ∃ v ∈ kept j.kind results, out = row.setPath j.joined v := by
  have hall := (Stage.each_ok_iff _ _ _).mp h
  clear h
  induction hall with
  | nil => simp [spread]
  | @cons row results rest groups hrow _ ih =>
    have hspread : j.spread (row :: rest) (results :: groups) =
        (kept j.kind results).map (row.setPath j.joined) ++ j.spread rest groups := rfl
    rw [hspread, List.mem_append, List.exists_mem_cons_iff]
    refine or_congr ?_ ih
    simp only [List.mem_map, hrow, Except.ok.injEq, exists_eq_left', eq_comm]

/-- The rows of joins are those that are made of the documents. -/
theorem mem_rows_iff {joins : List (String × Join)} {docs rows : List Value}
    (hplain : ∀ entry ∈ joins, IsPlainName entry.2.joined)
    (hrun : Stage.runAll store (joins.flatMap fun entry => entry.2.stages config) [] docs =
      .ok rows) (row : Value) :
    row ∈ rows ↔ ∃ doc ∈ docs, Assembled config store joins doc row := by
  induction joins using List.reverseRecOn generalizing rows row with
  | nil =>
    obtain rfl : docs = rows := by simpa [Stage.runAll] using hrun
    constructor
    · exact fun hrow => ⟨row, hrow, .nil row⟩
    · rintro ⟨doc, hdoc, h⟩
      exact assembled_nil_ok h ▸ hdoc
  | append_singleton front last ih =>
    obtain ⟨hfront, hlast⟩ := List.forall_mem_append.mp hplain
    have hlast := List.forall_mem_singleton.mp hlast
    rw [List.flatMap_append, List.flatMap_singleton] at hrun
    obtain ⟨between, hbetween, hrest⟩ := Stage.runAll_append_ok hrun
    rw [run_stages hlast.2] at hrest
    obtain ⟨groups, hgroups, rfl⟩ := Stage.exists_of_map_eq_ok hrest
    rw [mem_spread_iff hgroups]
    constructor
    · rintro ⟨mid, hmid, results, hmatched, v, hv, rfl⟩
      obtain ⟨doc, hdoc, hassembled⟩ := (ih hfront hbetween mid).mp hmid
      exact ⟨doc, hdoc, .snoc hassembled hmatched hv⟩
    · rintro ⟨doc, hdoc, h⟩
      obtain ⟨mid, results, v, hassembled, hmatched, hv, rfl⟩ := assembled_snoc_ok h
      exact ⟨mid, (ih hfront hbetween mid).mpr ⟨doc, hdoc, hassembled⟩, results,
        hmatched, v, hv, rfl⟩

end Join

namespace Hop

variable {s : Schema} {m : Model} {config : Config} {store : Store} {h h' : Hop}
  {hops others : List Hop}
  {doc row other : Value}

/-- What matches a row only depends on the column that the row refers by. -/
theorem matched_congr {entry entry' : String × Join} (hdescribes : h.Describes entry)
    (hdescribes' : h'.Describes entry') (hplain : h.IsPlain) (hplain' : h'.IsPlain)
    (hlink : h'.link = h.link)
    (htypes : h'.types = h.types) (hrow : row.items? = none) (hother : other.items? = none)
    (hparent : (h.parent = none ∧ h'.parent = none ∧ row.field? h.link.column =
      other.field? h.link.column) ∨
      ∃ x x', h.parent = some x ∧ h'.parent = some x' ∧ row.field? x = other.field? x') :
    entry.2.matched config store row = entry'.2.matched config store other := by
  obtain ⟨R, hrows, hpath⟩ : ∃ R, Agree R row other ∧ Value.Mirrors R
      (.string (Join.parentPath h.parent h.link.column))
          (.string (Join.parentPath h'.parent h.link.column)) := by
    have hname : ∀ {x : String}, '.' ∉ x.toList ∧ '$' ∉ x.toList → IsPlainName x := fun hx =>
      ⟨hx.1, isOperatorName_of_notMem hx.2⟩
    rcases hparent with ⟨hnone, hnone', hfield⟩ | ⟨x, x', hsome, hsome', hfield⟩
    · refine ⟨fun y y' => y = h.link.column ∧ y' = h.link.column, ⟨hrow, hother, ?_⟩, ?_⟩
      · rintro _ _ ⟨rfl, rfl⟩
        exact hfield
      · rw [hnone, hnone']
        exact .column ⟨rfl, rfl⟩ (hname hplain.column) (hname hplain.column)
    · refine ⟨fun y y' => y = x ∧ y' = x', ⟨hrow, hother, ?_⟩, ?_⟩
      · rintro _ _ ⟨rfl, rfl⟩
        exact hfield
      · rw [hsome, hsome']
        exact .columnPath ⟨rfl, rfl⟩ (hname (hplain.parent x hsome))
          (hname (hplain'.parent x' hsome')) _
  have hkey : Value.Mirrors R (Join.parentKey h.parent ⟨h.link.column, h.link.key,
    h.types.1, h.types.2⟩) (Join.parentKey h'.parent ⟨h.link.column, h.link.key, h.types.1,
    h.types.2⟩) := by
    unfold Join.parentKey Join.key
    split
    · exact hpath
    · exact .apply .toText hpath
  have hpairs := hdescribes.pairs
  have hpairs' := hdescribes'.pairs
  rw [hlink, htypes] at hpairs'
  have hbindings : Document.Mirrors R (Join.bindings config entry.2.parentAlias 0 entry.2.pairs)
      (Join.bindings config entry'.2.parentAlias 0 entry'.2.pairs) := by
    rw [hpairs, hpairs', hdescribes.parent, hdescribes'.parent]
    exact .cons ⟨rfl, hkey⟩ .nil
  rw [Join.matched, Join.matched, Stage.bound_mirrors hbindings hrows, hpairs, hpairs',
    hdescribes.collection, hdescribes'.collection, hlink]

/-- Whether a hop starts from the document of the query, by one of its columns, or from one that
one of some hops joined, whose names are its own without the last one. -/
def StartsIn (s : Schema) (m : Model) (hops : List Hop) (h : Hop) : Prop :=
  (h.parent = none ∧ h.names.dropLast = [] ∧ IsOwn s m h.link.column) ∨
    ∃ p ∈ hops, h.parent = some p.joined ∧ p.names = h.names.dropLast ∧ p.names ≠ []

theorem StartsIn.mono (hsub : hops ⊆ others) (hstart : h.StartsIn s m hops) :
    h.StartsIn s m others :=
  hstart.imp_right fun ⟨p, hp, hrest⟩ => ⟨p, hsub hp, hrest⟩

/-- A hop behind some others starts from the document of the query or from one of them. -/
theorem Leads.startsIn_snoc {target : Model} (hfront : Leads s m hops)
    (hroute : s.relations? m h.names = some (h.links, target))
    (hparent : Reaches hops h.names.dropLast h.front h.parent) : h.StartsIn s m hops := by
  rcases hparent with ⟨hnone, hnames, -⟩ | ⟨p, hp, hsome, hnames, -⟩
  · obtain ⟨m', f, hown, hf, hlink⟩ := Schema.relations?_snoc_ok hroute
    obtain ⟨_, _, _, _, -, -, -, heq⟩ := Schema.link?_ok hlink
    rw [hnames] at hown
    obtain ⟨-, rfl⟩ := Prod.mk.inj (Option.some.inj hown)
    exact .inl ⟨hnone, hnames, heq ▸ isOwn_column hf⟩
  · refine .inr ⟨p, hp, hsome, hnames, fun hempty => ?_⟩
    obtain ⟨-, target, hroute⟩ := hfront.route p hp
    simp [hempty, Schema.relations?, links] at hroute

theorem Leads.startsIn (hleads : Leads s m hops) : ∀ hop ∈ hops, hop.StartsIn s m hops := by
  induction hleads with
  | nil => simp
  | snoc hfront _ hroute _ hparent _ _ _ _ ih =>
    have hlast := hfront.startsIn_snoc hroute hparent
    exact List.forall_mem_append.mpr
      ⟨fun hop hhop => (ih hop hhop).mono (List.subset_append_left _ _),
        List.forall_mem_singleton.mpr (hlast.mono (List.subset_append_left _ _))⟩

/-- Hops with the same names match the same documents in two rows that hold the same in the
columns of the document and in what hops in front, with the same names each, joined. -/
theorem matched_of_startsIn {entry entry' : String × Join} (hdescribes : h.Describes entry)
    (hdescribes' : h'.Describes entry') (hplain : h.IsPlain) (hplain' : h'.IsPlain)
    (hnames : h'.names = h.names) (hlink : h'.link = h.link) (htypes : h'.types = h.types)
    (hrow : row.items? = none) (hother : other.items? = none) (hstart : h.StartsIn s m hops)
    (hstart' : h'.StartsIn s m others)
    (hown : ∀ x, IsOwn s m x → row.field? x = other.field? x)
    (hagree : ∀ p ∈ hops, ∀ p' ∈ others, p'.names = p.names →
      row.field? p.joined = other.field? p'.joined) :
    entry.2.matched config store row = entry'.2.matched config store other := by
  refine matched_congr hdescribes hdescribes' hplain hplain' hlink htypes hrow hother ?_
  rw [StartsIn, hnames] at hstart'
  rcases hstart with ⟨hnone, hnil, hcolumn⟩ | ⟨p, hp, hsome, hpnames, hne⟩
  · rcases hstart' with ⟨hnone', -, -⟩ | ⟨_, -, -, hpnames', hne'⟩
    · exact .inl ⟨hnone, hnone', hown _ hcolumn⟩
    · exact absurd (hpnames'.trans hnil) hne'
  · rcases hstart' with ⟨-, hnil, -⟩ | ⟨p', hp', hsome', hpnames', -⟩
    · exact absurd (hpnames.trans hnil) hne
    · exact .inr ⟨_, _, hsome, hsome', hagree p hp p' hp' (hpnames'.trans hpnames.symm)⟩

/-- The aliases of hops take the place of no fields of the documents. -/
theorem Leads.joined_own (hleads : Leads s m hops) : ∀ hop ∈ hops, ¬IsOwn s m hop.joined := by
  induction hleads with
  | nil => simp
  | snoc _ _ _ _ _ hown _ _ _ ih =>
    exact List.forall_mem_append.mpr ⟨ih, List.forall_mem_singleton.mpr hown⟩

/-- No hop starts from what the last one joined. -/
theorem Leads.parent_ne_last (hfront : Leads s m hops) (hlast : h.StartsIn s m hops)
    (hown : ¬IsOwn s m h.joined) (hnew : ∀ p ∈ hops, h.joined ≠ p.joined) :
    ∀ hop ∈ hops ++ [h], (hop.parent = none ∧ hop.link.column ≠ h.joined) ∨
      ∃ x, hop.parent = some x ∧ x ≠ h.joined := by
  have hstarts : ∀ hop : Hop, hop.StartsIn s m hops → (hop.parent = none ∧
      hop.link.column ≠ h.joined) ∨ ∃ x, hop.parent = some x ∧ x ≠ h.joined := by
    rintro hop (⟨hnone, -, hcolumn⟩ | ⟨p, hp, hsome, -⟩)
    · exact .inl ⟨hnone, fun heq => hown (heq ▸ hcolumn)⟩
    · exact .inr ⟨p.joined, hsome, Ne.symm (hnew p hp)⟩
  exact List.forall_mem_append.mpr ⟨fun hop hhop => hstarts hop (hfront.startsIn hop hhop),
    List.forall_mem_singleton.mpr (hstarts h hlast)⟩

/-- The names of a hop tell the columns that its join compares. -/
theorem Leads.compares (hleads : Leads s m hops) (hothers : Leads s m others) (hmem : h ∈ hops)
    (hmem' : h' ∈ others) (hnames : h'.names = h.names) :
        h'.link = h.link ∧ h'.types = h.types := by
  have htypes : ∀ {hops : List Hop}, Leads s m hops → ∀ hop ∈ hops,
      (s.fieldAlong? m hop.names).bind s.keyTypes? = some hop.types := by
    intro hops hleads
    induction hleads with
    | nil => simp
    | snoc _ _ _ htypes _ _ _ _ _ ih =>
      exact List.forall_mem_append.mpr ⟨ih, List.forall_mem_singleton.mpr htypes⟩
  obtain ⟨-, target, hroute⟩ := hleads.route h hmem
  obtain ⟨-, target', hroute'⟩ := hothers.route h' hmem'
  rw [hnames, hroute] at hroute'
  have hlinks := (Prod.mk.inj (Option.some.inj hroute')).1
  have hsame := htypes hothers h' hmem'
  rw [hnames, htypes hleads h hmem] at hsame
  refine ⟨?_, (Option.some.inj hsame).symm⟩
  have hlast := congrArg List.getLast? hlinks
  simpa [links] using hlast.symm

/-- A row that was put together from a document and, under the alias of each hop, one of the
documents that its join adds to this very row. -/
structure Settled (config : Config) (store : Store) (hops : List Hop)
    (joins : List (String × Join)) (doc row : Value) : Prop where
  items : row.items? = none
  own : ∀ x, (∀ hop ∈ hops, x ≠ hop.joined) → row.field? x = doc.field? x
  joined : ∀ pair ∈ hops.zip joins, ∃ results v,
    pair.2.2.matched config store row = .ok results ∧
    v ∈ Join.kept pair.2.2.kind results ∧ row.field? pair.1.joined = some v

/-- What matches a row is the same after something was set that is not the parent's. -/
theorem matched_setPath {entry : String × Join} (hdescribes : h.Describes entry)
    (hplain : h.IsPlain) (hrow : row.items? = none) {name : String} (hname : '.' ∉ name.toList)
    (hparent : (h.parent = none ∧ h.link.column ≠ name) ∨ ∃ x, h.parent = some x ∧ x ≠ name)
    (v : Value) :
    entry.2.matched config store (row.setPath name v) = entry.2.matched config store row := by
  have hkept := fun (x : String) (hne : x ≠ name) => field?_setPath_alias hname hne row v
  refine matched_congr hdescribes hdescribes hplain hplain rfl rfl (items?_setPath row
    name v) hrow ?_
  rcases hparent with ⟨hnone, hne⟩ | ⟨x, hsome, hne⟩
  · exact .inl ⟨hnone, hnone, hkept _ hne⟩
  · exact .inr ⟨x, x, hsome, hsome, hkept x hne⟩

/-- The choices by which a row was made can be read off it. -/
theorem settled_of_assembled {joins : List (String × Join)} (hleads : Leads s m hops)
    (hjoins : List.Forall₂ Describes hops joins) (hplain : ∀ hop ∈ hops, hop.IsPlain)
    (hdoc : doc.items? = none)
    (h : Join.Assembled config store joins doc row) :
        Settled config store hops joins doc row := by
  induction hleads generalizing joins row with
  | nil =>
    obtain rfl := List.forall₂_nil_left_iff.mp hjoins
    obtain rfl := Join.assembled_nil_ok h
    exact ⟨hdoc, fun _ _ => rfl, by simp⟩
  | @snoc hops last target hfrontLeads _ hroute _ hparent hown hnew hdots _ ih =>
    obtain ⟨hplainFront, hplainLast⟩ := List.forall_mem_append.mp hplain
    have hplainLast := List.forall_mem_singleton.mp hplainLast
    obtain ⟨front, entry, hfront, hentry, rfl⟩ := exists_snoc_of_forall₂ hjoins
    obtain ⟨between, results, v, hassembled, hmatched, hv, rfl⟩ := Join.assembled_snoc_ok h
    have hbefore := ih hfront hplainFront hassembled
    rw [hentry.joined]
    have hothers := hfrontLeads.parent_ne_last (hfrontLeads.startsIn_snoc hroute hparent) hown
      hnew
    have hfield := fun (x : String) (hne : x ≠ last.joined) => field?_setPath_alias
      hdots hne between v
    refine ⟨items?_setPath between last.joined v, fun x hx => ?_, fun pair hpair => ?_⟩
    · rw [hfield x (hx last (by simp))]
      exact hbefore.own x fun hop hhop => hx hop (List.mem_append_left _ hhop)
    · rw [List.zip_append hfront.length_eq] at hpair
      rcases List.mem_append.mp hpair with hold | hlast
      · obtain ⟨hhop, -⟩ := List.of_mem_zip hold
        obtain ⟨others, w, hothersMatched, hw, hwfield⟩ := hbefore.joined pair hold
        refine ⟨others, w, ?_, hw, ?_⟩
        · rw [matched_setPath (List.forall₂_zip hfront hold) (hplainFront _ hhop)
            hbefore.items hdots (hothers _ (List.mem_append_left _ hhop)) v, hothersMatched]
        · rw [hfield _ (Ne.symm (hnew _ hhop)), hwfield]
      · obtain rfl : pair = (last, entry) := by simpa using hlast
        refine ⟨results, v, ?_, hv, field?_setPath_self hdots between v⟩
        rw [matched_setPath hentry hplainLast hbefore.items hdots (hothers last (by simp)) v,
          hmatched]

/-- For a row that was made by the joins of some hops, there is one that was made by those of
some others, if each of these has the names of one of the former, and drops no row that the
former keeps.  What hops with the same names joined is the same in both rows. -/
theorem exists_assembled {joins joins' : List (String × Join)} (hleads : Leads s m hops)
    (hjoins : List.Forall₂ Describes hops joins) (hplain : ∀ hop ∈ hops, hop.IsPlain)
    (hothers : Leads s m others)
    (hjoins' : List.Forall₂ Describes others joins') (hplain' : ∀ hop ∈ others, hop.IsPlain)
    (hnodup : (others.map Hop.names).Nodup) (hdoc : doc.items? = none)
    (hcovered : ∀ pair ∈ hops.zip joins, ∃ pair' ∈ others.zip joins', pair'.1.names =
      pair.1.names ∧ (pair'.2.2.kind = pair.2.2.kind ∨
        pair.2.2.kind = .inner ∧ other.field? pair'.1.joined ≠ some .null))
    (h : Settled config store others joins' doc other) :
    ∃ row, Join.Assembled config store joins doc row ∧ row.items? = none ∧
      (∀ x, (∀ hop ∈ hops, x ≠ hop.joined) → row.field? x = doc.field? x) ∧
      ∀ hop ∈ hops, ∀ hop' ∈ others, hop'.names = hop.names → row.field? hop.joined =
          other.field? hop'.joined := by
  induction hleads generalizing joins with
  | nil =>
    obtain rfl := List.forall₂_nil_left_iff.mp hjoins
    exact ⟨doc, .nil doc, hdoc, fun _ _ => rfl, by simp⟩
  | @snoc hops last target hfrontLeads htext hroute htypes hparent hown hnew hdots
      hdollars ih =>
    have hall := Leads.snoc hfrontLeads htext hroute htypes hparent hown hnew hdots hdollars
    obtain ⟨hplainFront, hplainLast⟩ := List.forall_mem_append.mp hplain
    have hplainLast := List.forall_mem_singleton.mp hplainLast
    obtain ⟨front, entry, hfront, hentry, rfl⟩ := exists_snoc_of_forall₂ hjoins
    rw [List.zip_append hfront.length_eq] at hcovered
    obtain ⟨hcoveredFront, hcoveredLast⟩ := List.forall_mem_append.mp hcovered
    obtain ⟨⟨h', entry'⟩, hpair', hnames, hkind⟩ := hcoveredLast (last, entry) (by simp)
    dsimp only at hnames hkind
    obtain ⟨hmem', -⟩ := List.of_mem_zip hpair'
    obtain ⟨row, hassembled, hitems, hownFields, hagree⟩ := ih hfront hplainFront hcoveredFront
    obtain ⟨results, v, hmatched, hv, hfield'⟩ := h.joined _ hpair'
    obtain ⟨hlink, htypes'⟩ := hall.compares hothers (List.mem_append_right _
      List.mem_cons_self) hmem' hnames
    have hsame : entry.2.matched config store row = entry'.2.matched config store other := by
      refine matched_of_startsIn hentry (List.forall₂_zip hjoins' hpair') hplainLast
        (hplain' h' hmem') hnames hlink htypes' hitems h.items
        (hfrontLeads.startsIn_snoc hroute hparent) (hothers.startsIn h' hmem') ?_ hagree
      intro x hx
      rw [hownFields x fun hop hhop heq => hfrontLeads.joined_own hop hhop (heq ▸ hx),
        h.own x fun hop hhop heq => hothers.joined_own hop hhop (heq ▸ hx)]
    have hfield := fun (x : String) (hne : x ≠ last.joined) => field?_setPath_alias
      hdots hne row v
    have hadded : v ∈ Join.kept entry.2.kind results := by
      rcases hkind with hkind | ⟨hinner, hnull⟩
      · exact hkind ▸ hv
      · rw [hinner]
        exact (Join.mem_of_mem_kept hv).resolve_right fun hempty =>
          hnull (hfield'.trans (congrArg some hempty.2))
    refine ⟨row.setPath last.joined v, ?_, items?_setPath row last.joined v, fun x hx => ?_, ?_⟩
    · have hsnoc := hassembled.snoc (hsame.trans hmatched) hadded
      rwa [hentry.joined] at hsnoc
    · rw [hfield x (hx last (by simp))]
      exact hownFields x fun hop hhop => hx hop (List.mem_append_left _ hhop)
    · refine List.forall_mem_append.mpr ⟨fun hop hhop hop' hhop' hnames' => ?_,
        List.forall_mem_singleton.mpr ?_⟩
      · rw [hfield _ (Ne.symm (hnew hop hhop)), hagree hop hhop hop' hhop' hnames']
      · intro hop' hhop' hnames'
        obtain rfl := List.inj_on_of_nodup_map hnodup hhop' hmem' (hnames'.trans hnames.symm)
        rw [field?_setPath_self hdots, hfield']

end Hop

/-! ## Where relations lead -/

namespace Store

/-- The documents that a document refers to by a foreign key: those that the join of the key
finds for it. -/
def referred (config : Config) (store : Store) (link : Link) (types : String × String)
    (doc : Value) : Except ExecError (List Value) :=
  Join.matched config store
    ⟨none, link.collection, "", [⟨link.column, link.key, types.1, types.2⟩], .left⟩ doc

/-- Where relations lead from a document: to any of those that the document in front refers to,
or to null if there is none. -/
inductive LeadsTo (c : Compiler) (store : Store) (m : Model) (doc : Value) :
    List String → Value → Prop where
  | start : LeadsTo c store m doc [] doc
  | next {names : List String} {d v : Value} {f : Field} {link : Link} {t : Model}
    {types : String × String}
    {results : List Value} (h : LeadsTo c store m doc names.dropLast d)
    (hfield : c.schema.fieldAlong? m names = some f) (hlink : c.schema.link? f = some (link, t))
    (htypes : c.schema.keyTypes? f = some types)
    (hresults : store.referred c.config link types d = .ok results)
    (hv : v ∈ results ∨ countsZero results = true ∧ v = .null) : LeadsTo c store m doc names v

end Store

namespace Stage

/-- The documents that are kept are those that a query selects. -/
theorem mem_selected_iff {query : Value} {vars : Document} {docs kept : List Value}
    (h : selected query vars docs = .ok kept) (doc : Value) :
    doc ∈ kept ↔ doc ∈ docs ∧ query.selects ⟨doc, vars⟩ = .ok true := by
  induction docs generalizing kept with
  | nil =>
    obtain rfl := Except.ok.inj h
    simp
  | cons first rest ih =>
    simp only [selected] at h
    cases hfirst : query.selects ⟨first, vars⟩ with
    | error e => simp [hfirst] at h
    | ok keep =>
      cases hrest : selected query vars rest with
      | error e => simp [hfirst, hrest] at h
      | ok others =>
        simp only [hfirst, hrest, Except.ok.injEq] at h
        subst h
        cases keep with
        | true =>
          rw [if_pos rfl, List.mem_cons, List.mem_cons, ih hrest, or_and_right]
          refine or_congr_left ⟨fun heq => ⟨heq, heq ▸ hfirst⟩, And.left⟩
        | false =>
          rw [if_neg Bool.false_ne_true, List.mem_cons, ih hrest, or_and_right]
          refine ⟨.inr, fun hdoc => hdoc.resolve_left ?_⟩
          rintro ⟨rfl, htrue⟩
          simp [hfirst] at htrue

end Stage

/-- What matches a row is in the collection of the join. -/
theorem Join.mem_of_matched {config : Config} {store : Store} {j : Join} {row : Value}
    {results : List Value}
    (h : j.matched config store row = .ok results) {v : Value} (hv : v ∈ results) :
    v ∈ store.collection j.collection := by
  unfold matched at h
  split at h
  · simp at h
  · rw [Stage.runAll_singleton, Stage.selectExpr, Stage.run] at h
    exact ((Stage.mem_selected_iff h v).mp hv).1

namespace Hop

variable {c : Compiler} {m : Model} {store : Store} {h : Hop} {hops : List Hop}
  {doc row : Value}

/-- What matches a row are the documents that the one in front refers to. -/
theorem matched_eq_referred {config : Config} {entry : String × Join}
    (hdescribes : h.Describes entry) (hplain : h.IsPlain) {d : Value} (hd : d.items? = none)
    (hparent : (h.parent = none ∧ row.items? = none ∧ row.field? h.link.column =
      d.field? h.link.column) ∨ ∃ x, h.parent = some x ∧ row.field? x = some d) :
    entry.2.matched config store row = store.referred config h.link h.types d := by
  have hpath : eval (.string (Join.parentPath h.parent h.link.column)) ⟨row, []⟩ =
      eval (.string (Join.parentPath none h.link.column)) ⟨d, []⟩ := by
    rw [eval_parentPath_none hplain.column hd]
    rcases hparent with ⟨hnone, hrow, hfield⟩ | ⟨x, hsome, hx⟩
    · rw [hnone, eval_parentPath_none hplain.column hrow, hfield]
    · rw [hsome, eval_parentPath_some (hplain.parent x hsome) hplain.column hx hd]
  have hkey : eval (Join.parentKey h.parent ⟨h.link.column, h.link.key, h.types.1,
    h.types.2⟩) ⟨row, []⟩ = eval (Join.parentKey none ⟨h.link.column, h.link.key, h.types.1,
    h.types.2⟩) ⟨d, []⟩ := by
    unfold Join.parentKey Join.key
    split
    · exact hpath
    · have htext : ∀ s scope, eval (.operator "$toString" (.string s)) scope =
          (eval (.string s) scope).bind fun v => Operator.toText.apply [v] := fun s scope =>
        eval_operator_single .toText rfl scope
      rw [htext, htext, hpath]
  unfold Store.referred Join.matched
  rw [hdescribes.pairs, hdescribes.parent, hdescribes.collection]
  simp only [Join.bindings, Stage.bound, hkey]

/-- In a row that joins made of a document, each alias holds something that the relation leads
to. -/
theorem Settled.leadsTo {joins : List (String × Join)} (hleads : Leads c.schema m hops)
    (hjoins : List.Forall₂ Describes hops joins) (hplain : ∀ hop ∈ hops, hop.IsPlain)
    (hdoc : doc.items? = none)
    (hdocs : ∀ t ∈ c.schema.models, ∀ doc ∈ store.collection t.collection, doc.items? = none)
    (h : Settled c.config store hops joins doc row) :
    ∀ hop ∈ hops, ∃ v, row.field? hop.joined = some v ∧ v.items? = none ∧
        store.LeadsTo c m doc hop.names v := by
  -- the induction is on the hops up to one of them, so what it starts from is known before
  suffices hfront : ∀ front, Leads c.schema m front → (∀ hop ∈ front, hop ∈ hops) →
      ∀ hop ∈ front, ∃ v, row.field? hop.joined = some v ∧ v.items? = none ∧
          store.LeadsTo c m doc hop.names v from
    hfront hops hleads fun _ hhop => hhop
  intro front hfront
  induction hfront with
  | nil => simp
  | @snoc front last target hfrontLeads _ hroute htypes hparent _ _ _ _ ih =>
    intro hsub
    obtain ⟨hsubFront, hmem⟩ := List.forall_mem_append.mp hsub
    have hmem := List.forall_mem_singleton.mp hmem
    have hbefore := ih hsubFront
    refine List.forall_mem_append.mpr ⟨hbefore, List.forall_mem_singleton.mpr ?_⟩
    obtain ⟨entry, hpair, hdescribes⟩ := (List.exists_mem_zip_of_forall₂ hjoins).1 last hmem
    obtain ⟨results, v, hmatched, hv, hfield⟩ := h.joined _ hpair
    obtain ⟨f, hf, hkeyTypes⟩ := Option.bind_eq_some_iff.mp htypes
    obtain ⟨_, m', link, _, _, hlink, hlinks⟩ := Schema.relations?_fieldAlong hf hroute
    obtain rfl : last.link = link := by
      have hlast := congrArg List.getLast? hlinks
      simpa [links] using hlast
    -- where the last hop starts from
    obtain ⟨d, hd, hleadsTo, hstart⟩ : ∃ d, d.items? = none ∧
      store.LeadsTo c m doc last.names.dropLast d ∧
        ((last.parent = none ∧ row.items? = none ∧ row.field? last.link.column =
          d.field? last.link.column) ∨ ∃ x, last.parent = some x ∧ row.field? x = some d) := by
      rcases hfrontLeads.startsIn_snoc hroute hparent with ⟨hnone, hnames, hcolumn⟩ |
        ⟨p, hp, hsome, hnames, -⟩
      · exact ⟨doc, hdoc, hnames ▸ .start, .inl ⟨hnone, h.items,
          h.own _ fun hop hhop heq => hleads.joined_own hop hhop (heq ▸ hcolumn)⟩⟩
      · obtain ⟨d, hx, hd, hleadsTo⟩ := hbefore p hp
        exact ⟨d, hd, hnames ▸ hleadsTo, .inr ⟨p.joined, hsome, hx⟩⟩
    rw [matched_eq_referred hdescribes (hplain last hmem) hd hstart] at hmatched
    have hadded := Join.mem_of_mem_kept hv
    refine ⟨v, hfield, ?_, .next hleadsTo hf hlink hkeyTypes hmatched hadded⟩
    rcases hadded with hresult | ⟨-, rfl⟩
    · obtain ⟨_, _, _, _, -, ht, -, hcollection⟩ := Schema.link?_ok hlink
      have hmem := Join.mem_of_matched hmatched hresult
      rw [hcollection] at hmem
      exact hdocs target (List.mem_of_find?_eq_some ht) v hmem
    · rfl

end Hop

end DocQuery
