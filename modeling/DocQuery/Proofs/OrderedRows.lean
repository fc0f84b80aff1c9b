import DocQuery.Proofs.ColumnAliases
import DocQuery.Proofs.JoinChoices
import DocQuery.Proofs.OrderedUnions
import DocQuery.Proofs.PathRoots
import Mathlib.Data.List.Permutation
set_option autoImplicit false

/-!
# Proofs: rows in the order of paths

The rows of a query are put in order by sort keys.  A path that is stored in the row is such a
key itself; what any other path evaluates to is added to the row as a field, and that is the
key.  The added fields do not disturb what the other keys read, so that the rows come out in the
order of the values of all paths, and rows that are equal there stay in their order.  The window
is cut from the rows in this order.
-/

namespace DocQuery

open Value

/-! ## Pairs -/

theorem StableSort.eq_pair {α : Type} {r : α → α → Prop} {a b : α} {after : List α}
    (h : StableSort r [a, b] after) (hab : ¬r a b) : after = [b, a] := by
  rcases List.perm_pair.mp h.perm with rfl | rfl
  · exact absurd (List.rel_of_pairwise_cons h.sorted List.mem_cons_self) hab
  · rfl

theorem Stage.sorted_pair {keys : List (String × Direction)} {a b : Value}
    (h : compareBy a b keys ≠ .gt) : sorted keys [a, b] = [a, b] := by
  simp [sorted, List.mergeSort, h]

/-! ## Rows that are documents -/

namespace Stage

variable {store : Store} {vars : Document} {s : Stage} {rows outs : List Value}

/-- A stage that makes no arrays of documents: it adds fields, unwinds or selects. -/
def KeepsDocuments (s : Stage) : Prop :=
  s.addsFields = true ∨ (∃ path keepEmpty, s = .unwind path keepEmpty) ∨ ∃ query,
    s = .select query

theorem items?_unwound {path : String} {keepEmpty : Bool} {row out : Value}
    (hrow : row.items? = none)
    (hout : out ∈ unwound path keepEmpty row) : out.items? = none := by
  have hcases : out = row ∨ ∃ v, out = row.setPath path v := by
    unfold unwound at hout
    split at hout
    · obtain ⟨v, -, rfl⟩ := List.mem_map.mp hout
      exact .inr ⟨v, rfl⟩
    all_goals grind
  rcases hcases with rfl | ⟨v, rfl⟩
  · exact hrow
  · exact items?_setPath row path v

theorem KeepsDocuments.run (h : s.KeepsDocuments) (hrows : ∀ row ∈ rows, row.items? = none)
    (hrun : Stage.run store s vars rows = .ok outs) : ∀ out ∈ outs, out.items? = none := by
  intro out hout
  rcases h with hadds | ⟨path, keepEmpty, rfl⟩ | ⟨query, rfl⟩
  · have hstages : ∀ t ∈ [s], t.addsFields = true := List.forall_mem_singleton.mpr hadds
    have hall := forall₂_of_runAll (fun t ht => isRowwise_of_addsFields (hstages t ht))
      ((runAll_singleton s).trans hrun)
    obtain ⟨row, hzip, hrow⟩ := (List.exists_mem_zip_of_forall₂ hall).2 out hout
    exact items?_of_runAll hstages (hrows row (List.of_mem_zip hzip).1) hrow
  · rw [Stage.run] at hrun
    rw [← Except.ok.inj hrun] at hout
    obtain ⟨row, hrow, hmem⟩ := List.mem_flatMap.mp hout
    exact items?_unwound (hrows row hrow) hmem
  · rw [Stage.run] at hrun
    exact hrows out ((mem_selected_iff hrun out).mp hout).1

theorem KeepsDocuments.runAll {stages : List Stage} (h : ∀ s ∈ stages, s.KeepsDocuments)
    (hrows : ∀ row ∈ rows, row.items? = none)
    (hrun : Stage.runAll store stages vars rows = .ok outs) :
    ∀ out ∈ outs, out.items? = none := by
  induction stages generalizing rows with
  | nil =>
    obtain rfl : rows = outs := by simpa [Stage.runAll] using hrun
    exact hrows
  | cons s rest ih =>
    obtain ⟨hs, hrest⟩ := List.forall_mem_cons.mp h
    rw [Stage.runAll] at hrun
    split at hrun
    · simp at hrun
    · rename_i between hbetween
      exact ih hrest (hs.run hrows hbetween) hrun

end Stage

theorem Join.stages_keepDocuments (config : Config) (j : Join) :
    ∀ s ∈ j.stages config, s.KeepsDocuments := by
  unfold Join.stages
  cases j.kind with
  | inner =>
    exact List.forall_mem_cons.mpr ⟨.inl rfl, List.forall_mem_singleton.mpr
      (.inr (.inl ⟨_, _, rfl⟩))⟩
  | left =>
    exact List.forall_mem_cons.mpr ⟨.inl rfl, List.forall_mem_cons.mpr
      ⟨.inl rfl, List.forall_mem_singleton.mpr (.inr (.inl ⟨_, _, rfl⟩))⟩⟩

theorem Compiler.Derivation.source_keepsDocuments {c : Compiler} {m : Model} {q : Query}
    (d : c.Derivation m q) : ∀ s ∈ c.source d.final d.plan, s.KeepsDocuments := by
  have hadding := d.addsFields_adding
  simp only [Derivation.adding, List.forall_mem_append] at hadding
  simp only [source, Context.prerequisites, List.forall_mem_append]
  refine ⟨⟨⟨fun s hs => ?_, fun s hs => .inl (hadding.1 s hs)⟩, fun s hs =>
    .inl (hadding.2 s hs)⟩, ?_⟩
  · obtain ⟨entry, -, hmem⟩ := List.mem_flatMap.mp hs
    exact Join.stages_keepDocuments c.config entry.2 s hmem
  · cases d.plan.filter with
    | none => simp
    | some f => exact List.forall_mem_singleton.mpr (.inr (.inr ⟨_, rfl⟩))

/-! ## Rows with helper fields -/

theorem Compiler.notMem_orderField (index : Nat) : '.' ∉ (orderField index).toList :=
  notMem_numbered (by decide) (by decide) index

/-- Two rows that hold the same, but for the fields that are computed for orders. -/
def Value.SameBesideOrder (a b : Value) : Prop :=
    ∀ path, SparesOrder path → b.getPath path = a.getPath path

theorem Stage.sameBesideOrder_addComputed {fields vars : Document} {row out : Value}
    (hfields : ∀ name ∈ fields.names, ∃ index, name = Compiler.orderField index)
    (hrow : row.items? = none)
    (hout : addComputed fields vars row = .ok out) : row.SameBesideOrder out := by
  intro path hpath
  obtain ⟨first, rest, hnames⟩ := List.exists_cons_of_ne_nil (Text.split_ne_nil '.' path)
  change pathNames path = first :: rest at hnames
  rw [getPath, getPath, hnames, walk_cons (items?_addComputed hrow hout), walk_cons hrow]
  refine congrArg (Option.bind · _) (field?_addComputed (fun name hname => ?_) hout)
  obtain ⟨index, rfl⟩ := hfields name hname
  refine spares_of_plain (Compiler.notMem_orderField index) fun heq => hpath index ?_
  rw [hnames, heq]
  rfl

namespace Compiler

variable {c : Compiler} {ctx ctx' final : Context} {m : Model} {q : Query} {k : OrderKey}
  {key : String × Direction}
  {fields : Document}

/-! ## Keys -/

/-- The key of a sort that a path of an order is compiled to: the path itself, if the expression
of the path just reads a stored one, or else the field that the expression is computed into. -/
structure IsKeyOf (c : Compiler) (final : Context) (fields : Document) (k : OrderKey)
    (key : String × Direction) : Prop where
  direction : key.2 = directionOf k
  value : ∃ before e type after, c.fieldExpr before k.path = .ok ((e, type), after) ∧
    Context.Gathers after final ∧ (storedPath? e = some key.1 ∨
    (∃ index, key.1 = orderField index) ∧ (key.1, e) ∈ fields)

theorem IsKeyOf.mono {others : Document} (h : c.IsKeyOf final fields k key)
    (hsub : fields ⊆ others) : c.IsKeyOf final others k key where
  direction := h.direction
  value := by
    obtain ⟨before, e, type, after, hpath, hgathers, hread⟩ := h.value
    exact ⟨before, e, type, after, hpath, hgathers, hread.imp_right fun hcomputed =>
      ⟨hcomputed.1, hsub hcomputed.2⟩⟩

/-- The keys of an order belong to its paths, and fields of different numbers are computed for
them. -/
theorem sortKeys_keys {index : Nat} {orderBy : List OrderKey} {keys : List (String × Direction)}
    (h : c.sortKeys ctx index orderBy = .ok ((keys, fields), ctx')) :
    List.Forall₂ (c.IsKeyOf ctx' fields) orderBy keys ∧ fields.names.Nodup ∧
      ∀ name ∈ fields.names, ∃ i, index ≤ i ∧ name = orderField i := by
  induction orderBy generalizing ctx ctx' index keys fields with
  | nil =>
    obtain ⟨hpair, -⟩ := Prod.mk.inj (Except.ok.inj h)
    obtain ⟨rfl, rfl⟩ := Prod.mk.inj hpair
    exact ⟨.nil, List.nodup_nil, by simp [Document.names]⟩
  | cons k rest ih =>
    simp only [sortKeys] at h
    split at h
    · simp at h
    · rename_i e type after hpath
      split at h
      · simp at h
      · rename_i keys' fields' last hrest
        obtain ⟨hkeys, hnodup, hnumbers⟩ := ih hrest
        have hlater : ∀ name ∈ Document.names fields', ∃ i, index ≤ i ∧ name = orderField i :=
            fun name hname => by
          obtain ⟨i, hi, hname⟩ := hnumbers name hname
          exact ⟨i, Nat.le_of_succ_le hi, hname⟩
        have hgathers : Context.Gathers after last := gathers_alongPaths.sortKeys hrest
        split at h
        · rename_i path hstored
          obtain ⟨hpair, rfl⟩ := Prod.mk.inj (Except.ok.inj h)
          obtain ⟨rfl, rfl⟩ := Prod.mk.inj hpair
          exact ⟨.cons ⟨rfl, ctx, e, type, after, hpath, hgathers, .inl hstored⟩ hkeys,
            hnodup, hlater⟩
        · obtain ⟨hpair, rfl⟩ := Prod.mk.inj (Except.ok.inj h)
          obtain ⟨rfl, rfl⟩ := Prod.mk.inj hpair
          have hnew : orderField index ∉ Document.names fields' := fun hmem => by
            obtain ⟨i, hi, heq⟩ := hnumbers _ hmem
            exact absurd (numbered_injective "__order" heq) (Nat.ne_of_lt hi)
          refine ⟨.cons ⟨rfl, ctx, e, type, after, hpath, hgathers, .inr ⟨⟨index, rfl⟩,
            List.mem_cons_self⟩⟩ ?_, List.nodup_cons.mpr ⟨hnew, hnodup⟩,
            List.forall_mem_cons.mpr ⟨⟨index, Nat.le_refl _, rfl⟩, hlater⟩⟩
          exact hkeys.imp fun _ _ hkey => hkey.mono (List.subset_cons_self _ _)

/-- What is read at a stored path of an order is no field that is computed for it. -/
theorem sparesOrder_of_stored {path stored : String} {e : Value} {type : ValueType}
    (hpath : c.fieldExpr ctx path = .ok ((e, type), ctx'))
    (hnames : ∀ name ∈ ctx'.model.columns ++ ctx'.aliases.map (·.2), SparesOrder name)
    (h : storedPath? e = some stored) :
    e = .string ("$" ++ stored) ∧ isOperatorName stored = false ∧ SparesOrder stored := by
  obtain ⟨ending, hfollow, rfl⟩ := fieldExpr_ok hpath
  obtain ⟨root, hroot, hfrom⟩ := followPath_root hfollow
  obtain ⟨s, hs⟩ : ∃ s, ending.target.render = .string s := by
    unfold storedPath? at h
    split at h
    · exact ⟨_, ‹_›⟩
    · simp at h
  obtain ⟨text, rfl, behind, hbehind⟩ := Access.render_root hroot hs
  rw [hs, storedPath?, Text.stripFirst?_append] at h
  obtain ⟨hplain, rfl⟩ : isOperatorName text = false ∧ text = stored := by
    cases hoperator : isOperatorName text <;> simp [hoperator] at h ⊢
    exact h
  refine ⟨hs, hplain, fun index hhead => ?_⟩
  have hspared : SparesOrder root := by
    rcases hfrom with ⟨rest, hsegments⟩ | hcolumn | halias
    · exact sparesOrder_of_segments hsegments
    · exact hnames root (List.mem_append_left _ hcolumn)
    · exact hnames root (List.mem_append_right _ halias)
  have hsplit : pathNames root ≠ [] := Text.split_ne_nil '.' root
  rw [hbehind, List.head?_append_of_ne_nil _ hsplit] at hhead
  exact hspared index hhead

/-- The key holds in the row with the computed fields what the path evaluates to in the row
without them. -/
theorem IsKeyOf.eval {later : Context} (h : c.IsKeyOf final fields k key)
    (hlater : Context.Gathers final later) (honce : (later.aliases.map (·.1)).Nodup)
    (hnames : ∀ name ∈ later.model.columns ++ later.aliases.map (·.2), SparesOrder name)
    (hnodup : fields.names.Nodup)
    (hfields : ∀ name ∈ fields.names, ∃ index, name = orderField index) {row out : Value}
    (hrow : row.items? = none) (hout : Stage.addComputed fields [] row = .ok out) :
    ∃ e type after, c.fieldExpr later k.path = .ok ((e, type), after) ∧
      e.evalOn row = .ok (out.getPath key.1) := by
  obtain ⟨before, e, type, after, hpath, hafter, hread⟩ := h.value
  have hgathers := hafter.trans hlater
  obtain ⟨again, hagain⟩ := fieldExpr_again hpath ⟨hgathers.model, hgathers.annotations,
    hgathers.aliases, honce⟩
  refine ⟨e, type, again, hagain, ?_⟩
  rcases hread with hstored | ⟨⟨index, hindex⟩, hmem⟩
  · have hnames' : ∀ name ∈ after.model.columns ++ after.aliases.map (·.2),
      SparesOrder name := by
      rw [← hgathers.model]
      refine fun name hname => hnames name ((List.mem_append.mp hname).elim
        (List.mem_append_left _) fun halias => ?_)
      obtain ⟨a, ha, rfl⟩ := List.mem_map.mp halias
      exact List.mem_append_right _ (List.mem_map_of_mem (hgathers.aliases ha))
    obtain ⟨rfl, hplain, hspared⟩ := sparesOrder_of_stored hpath hnames' hstored
    rw [evalOn, eval_string, PathText.read_root _ hplain,
      Stage.sameBesideOrder_addComputed hfields hrow hout key.1 hspared]
  · have hdots : ∀ name ∈ fields.names, '.' ∉ name.toList := fun name hname => by
      obtain ⟨i, rfl⟩ := hfields name hname
      exact notMem_orderField i
    rw [evalOn, Stage.eval_of_addComputed hnodup hdots hmem hout, getPath, hindex,
      pathNames_of_plain (notMem_orderField index),
        walk_singleton _ _ (Stage.items?_addComputed hrow hout)]

/-! ## The order of paths -/

/-- What a path evaluates to in a row, if it does. -/
def pathValue? (c : Compiler) (ctx : Context) (path : String) (row : Value) : Option Value :=
  match c.fieldExpr ctx path with
  | .ok ((e, _), _) => (e.evalOn row).toOption.join
  | .error _ => none

/-- The order of two rows by the values of paths, the first of which counts most. -/
def compareByPaths (c : Compiler) (ctx : Context) (a b : Value) : List OrderKey → Ordering
  | [] => .eq
  | k :: rest =>
    ((directionOf k).apply (compare? (c.pathValue? ctx k.path a) (c.pathValue? ctx
        k.path b))).then
      (compareByPaths c ctx a b rest)

/-- Keys of a sort that belong to the paths of an order: they hold in one row what the paths
evaluate to in another one. -/
def HoldPaths (c : Compiler) (ctx : Context) (row out : Value) (orderBy : List OrderKey)
    (keys : List (String × Direction)) : Prop :=
  List.Forall₂ (fun k key => key.2 = directionOf k ∧ ∃ e type after, c.fieldExpr ctx k.path =
    .ok ((e, type), after) ∧ e.evalOn row = .ok (out.getPath key.1)) orderBy keys

namespace HoldPaths

variable {row out row' out' : Value} {orderBy : List OrderKey}
  {keys : List (String × Direction)}

theorem pathValue?_eq {path : String} {e : Value} {type : ValueType} {v : Option Value}
    (hpath : c.fieldExpr ctx path = .ok ((e, type), ctx')) (he : e.evalOn row = .ok v) :
    c.pathValue? ctx path row = v := by
  simp [pathValue?, hpath, he, Except.toOption]

theorem eval (h : c.HoldPaths ctx row out orderBy keys) : ∀ k ∈ orderBy, ∃ e type after,
    c.fieldExpr ctx k.path = .ok ((e, type), after) ∧
    e.evalOn row = .ok (c.pathValue? ctx k.path row) := by
  intro k hk
  obtain ⟨key, -, -, e, type, after, hpath, he⟩ := (List.exists_mem_zip_of_forall₂ h).1 k hk
  exact ⟨e, type, after, hpath, by rw [pathValue?_eq hpath he, he]⟩

theorem hasDecimalKeys (h : c.HoldPaths ctx row out orderBy keys)
    (hdecimals : ∀ k ∈ orderBy, ∀ v ∈ c.pathValue? ctx k.path row, v.HasDecimals) :
        Stage.HasDecimalKeys keys out := by
  intro key hkey
  obtain ⟨k, hzip, -, e, type, after, hpath, he⟩ :=
    (List.exists_mem_zip_of_forall₂ h).2 key hkey
  rw [← pathValue?_eq hpath he]
  exact hdecimals k (List.of_mem_zip hzip).1

/-- So the order of the keys is that of the paths. -/
theorem compareBy_eq (h : c.HoldPaths ctx row out orderBy keys)
    (h' : c.HoldPaths ctx row' out' orderBy keys) :
    Stage.compareBy out out' keys = c.compareByPaths ctx row row' orderBy := by
  induction h with
  | nil => rfl
  | cons hkey _ ih =>
    obtain ⟨hkey', hrest'⟩ := List.forall₂_cons.mp h'
    obtain ⟨hdirection, e, type, after, hpath, he⟩ := hkey
    obtain ⟨-, e', type', after', hpath', he'⟩ := hkey'
    rw [Stage.compareBy, compareByPaths, hdirection, pathValue?_eq hpath he,
      pathValue?_eq hpath' he', ih hrest']

/-- Rows that are sorted by such keys are put in order by the values of the paths. -/
theorem exists_ordered {f : Value → Value} {rows : List Value}
    (h : ∀ row ∈ rows, c.HoldPaths ctx row (f row) orderBy keys)
    (hdecimals : ∀ row ∈ rows, ∀ k ∈ orderBy, ∀ v ∈ c.pathValue? ctx k.path row,
      v.HasDecimals) :
    ∃ ordered, StableSort (fun a b => c.compareByPaths ctx a b orderBy ≠ .gt) rows ordered ∧
      Stage.sorted keys (rows.map f) = ordered.map f := by
  have hcompare : ∀ a ∈ rows, ∀ b ∈ rows,
      Stage.compareBy (f a) (f b) keys = c.compareByPaths ctx a b orderBy := fun a ha b hb =>
    (h a ha).compareBy_eq (h b hb)
  have hkeys : ∀ row ∈ rows, Stage.HasDecimalKeys keys (f row) := fun row hrow =>
    (h row hrow).hasDecimalKeys (hdecimals row hrow)
  refine ⟨rows.mergeSort fun a b => Stage.compareBy (f a) (f b) keys != .gt, ?_, ?_⟩
  · have hsorted : StableSort (fun a b => (Stage.compareBy (f a) (f b) keys != .gt) =
      true) rows _ :=
      stableSort_mergeSort
        (fun a ha b hb c hc => Stage.compareBy_trans (hkeys a ha) (hkeys b hb) (hkeys c hc))
        (fun a _ b _ => Stage.compareBy_total (f a) (f b) keys)
    refine hsorted.imp fun a ha b hb => ?_
    rw [bne_iff_ne, hcompare a ha b hb]
  · exact (List.map_mergeSort (f := f) fun a _ b _ => rfl).symm

end HoldPaths

/-! ## Rows in order -/

/-- A row with the fields that are computed for an order. -/
def withFields (fields : Document) (row : Value) : Value :=
  match Stage.addComputed fields [] row with
  | .ok out => out
  | .error _ => row

/-- An order computes its fields for all rows and sorts these. -/
theorem runAll_order_iff {s : Store} {keys : List (String × Direction)}
    {rows arranged : List Value} :
    Stage.runAll s (addColumns fields ++ sortBy keys) [] rows = .ok arranged ↔
      (∀ row ∈ rows, Stage.addComputed fields [] row = .ok (withFields fields row)) ∧
        arranged = Stage.sorted keys (rows.map (withFields fields)) := by
  have hadds : ∀ outs, Stage.runAll s (addColumns fields) [] rows = .ok outs ↔
      Stage.each (Stage.addComputed fields []) rows = .ok outs := by
    intro outs
    cases fields with
    | nil =>
      have hsame : Stage.each (Stage.addComputed [] []) rows = .ok rows :=
        (Stage.each_ok_iff _ _ _).mpr (List.forall₂_same.mpr fun _ _ => rfl)
      rw [hsame]
      rfl
    | cons field rest =>
      rw [addColumns, List.isEmpty_cons, if_neg Bool.false_ne_true,
        Stage.runAll_singleton, Stage.run]
  simp only [runAll_append_ok_iff, hadds, runAll_sortBy, Except.ok.injEq]
  constructor
  · rintro ⟨outs, heach, rfl⟩
    have hall : ∀ row ∈ rows, Stage.addComputed fields [] row =
        .ok (withFields fields row) := by
      intro row hrow
      obtain ⟨out, hout⟩ := Stage.exists_each_iff.mp ⟨outs, heach⟩ row hrow
      rw [withFields, hout]
    rw [Stage.each_eq_map hall] at heach
    exact ⟨hall, by rw [Except.ok.inj heach]⟩
  · rintro ⟨hall, rfl⟩
    exact ⟨_, Stage.each_eq_map hall, rfl⟩

namespace Derivation

variable (d : c.Derivation m q)

theorem gathers_sorted : Context.Gathers d.sorted d.final :=
    gathers_alongPaths.returnedColumns d.returns

theorem model_final : d.final.model = m := by
  rw [d.gathers_sorted.model, (gathers_alongPaths.sortKeys d.sorts).model, d.knows.2.2]

theorem nodup_aliases : (d.final.aliases.map (·.1)).Nodup := by
  have hrelations := (joinsFor_plan (.inl rfl) d.planWith_eq).1
  have hsame : d.final.relations = d.final.aliases.map (·.1) := by
    simp [Context.relations, Context.aliases]
  rwa [hsame] at hrelations

theorem exists_orderField : ∀ name ∈ d.fields.names, ∃ index, name = orderField index := by
  intro name hname
  obtain ⟨index, -, hindex⟩ := (sortKeys_keys d.sorts).2.2 name hname
  exact ⟨index, hindex⟩

/-- The keys of a query hold in a row with its fields what the paths evaluate to in the row
without them. -/
theorem holdPaths (hnames : ∀ name ∈ m.columns ++ d.final.aliases.map (·.2), SparesOrder name)
    {row out : Value}
    (hrow : row.items? = none) (hout : Stage.addComputed d.fields [] row = .ok out) :
    c.HoldPaths d.final row out q.orderBy d.keys := by
  obtain ⟨hkeys, hnodup, -⟩ := sortKeys_keys d.sorts
  refine hkeys.imp fun k key hkey => ⟨hkey.direction, ?_⟩
  exact hkey.eval d.gathers_sorted d.nodup_aliases (by rwa [d.model_final]) hnodup
    d.exists_orderField hrow hout

end Derivation

/-- What a query without union returns is made of the rows that reach its order: they are
arranged, the window is cut from them, and the columns are shown. -/
theorem returns_iff_parts {p : Plan} {s : Store} {rows : List Value} (hunion : q.union = none)
    (hm : c.queryableModel q.model = .ok m) (hplan : c.planOf m q = .ok (p, ctx)) :
    c.Returns s q rows ↔ ∃ found arranged, Stage.runAll s (c.source ctx p) []
      (s.collection m.collection) = .ok found ∧ Stage.runAll s p.order [] found = .ok arranged ∧
      Stage.each (Stage.projection (projectionOf p.columns) [])
          (window q.offset q.limit arranged) = .ok rows := by
  have hwindow : p.window = windowOf q.offset q.limit := by
    obtain ⟨d, rfl, -⟩ := planOf_ok_iff.mp hplan
    rfl
  have hrun : c.Returns s q rows ↔
      Stage.runAll s (c.single ctx p) [] (s.collection m.collection) = .ok rows := by
    have ha := (compile_ok_iff hunion).mpr ⟨m, p, ctx, hm, hplan, rfl⟩
    constructor
    · rintro ⟨a, ha', hrun⟩
      obtain rfl := Except.ok.inj (ha.symm.trans ha')
      exact hrun
    · exact fun hrun => ⟨_, ha, hrun⟩
  simp only [hrun, single, runAll_append_ok_iff, hwindow, runAll_windowOf,
    Stage.runAll_singleton, Stage.run, Except.ok.injEq]
  constructor
  · rintro ⟨_, ⟨arranged, ⟨found, hfound, horder⟩, rfl⟩, hshown⟩
    exact ⟨found, arranged, hfound, horder, hshown⟩
  · rintro ⟨found, arranged, hfound, horder, hshown⟩
    exact ⟨_, ⟨arranged, ⟨found, hfound, horder⟩, rfl⟩, hshown⟩

/-- A query without union returns its rows in the order of the values of its paths.  Every path
has a value, or none, in each row that reaches the order.  What the order makes of the rows
holds the same but for the fields that are computed for it, and is put in order by the values of
the paths if the numbers in these have decimals.  The window is cut from that, and the columns
are shown of what is in it.  The documents are no arrays, and no column of the model and no
alias is called like a field that is computed for an order, or starts with one and a point. -/
theorem rows_in_path_order {p : Plan} {s : Store} {rows : List Value} (hunion : q.union = none)
    (hm : c.queryableModel q.model = .ok m) (hplan : c.planOf m q = .ok (p, ctx))
    (hnames : ∀ name ∈ m.columns ++ ctx.aliases.map (·.2), SparesOrder name)
    (hdocuments : ∀ doc ∈ s.collection m.collection, doc.items? = none)
    (hrows : c.Returns s q rows) :
    ∃ found arranged, Stage.runAll s (c.source ctx p) [] (s.collection m.collection) =
      .ok found ∧ Stage.runAll s p.order [] found = .ok arranged ∧
      (∀ row ∈ found, ∀ k ∈ q.orderBy, ∃ e type after, c.fieldExpr ctx k.path =
        .ok ((e, type), after) ∧ e.evalOn row = .ok (c.pathValue? ctx k.path row)) ∧
      ((∀ row ∈ found, ∀ k ∈ q.orderBy, ∀ v ∈ c.pathValue? ctx k.path row, v.HasDecimals) →
        ∃ ordered, StableSort (fun a b => c.compareByPaths ctx a b q.orderBy ≠ .gt)
          found ordered ∧ List.Forall₂ Value.SameBesideOrder ordered arranged) ∧
      Stage.each (Stage.projection (projectionOf p.columns) [])
          (window q.offset q.limit arranged) = .ok rows := by
  obtain ⟨found, arranged, hfound, horder, hshown⟩ :=
    (returns_iff_parts hunion hm hplan).mp hrows
  obtain ⟨d, rfl, rfl⟩ := planOf_ok_iff.mp hplan
  have hrow : ∀ row ∈ found, row.items? = none :=
    Stage.KeepsDocuments.runAll d.source_keepsDocuments hdocuments hfound
  obtain ⟨hadded, hsorted⟩ := runAll_order_iff.mp horder
  have hheld : ∀ row ∈ found, c.HoldPaths d.final row (withFields d.fields row) q.orderBy
      d.keys := fun row hmem =>
    d.holdPaths hnames (hrow row hmem) (hadded row hmem)
  refine ⟨found, arranged, hfound, horder, fun row hmem => (hheld row hmem).eval,
    fun hdecimals => ?_, hshown⟩
  obtain ⟨ordered, hordered, hmap⟩ := HoldPaths.exists_ordered hheld hdecimals
  refine ⟨ordered, hordered, ?_⟩
  rw [hsorted, hmap, List.forall₂_map_right_iff, List.forall₂_same]
  intro row hmem
  have hfoundRow := hordered.perm.subset hmem
  exact Stage.sameBesideOrder_addComputed d.exists_orderField (hrow row hfoundRow)
    (hadded row hfoundRow)

/-! ## Two rows -/

/-- The rows that reach an order are two, the second one comes first by the values of the paths,
and the values have decimals; the fields of the order and the columns of the query can be
computed for both. -/
def IsReversedPair (c : Compiler) (ctx : Context) (orderBy : List OrderKey)
    (fields shown : Document) (found : List Value) : Prop :=
  found.length = 2 ∧ found.Pairwise (fun a b => c.compareByPaths ctx a b orderBy = .gt) ∧
    (∀ row ∈ found, ∀ k ∈ orderBy, ∀ v ∈ c.pathValue? ctx k.path row, v.HasDecimals) ∧
    ∀ row ∈ found, Stage.succeedsWith (fun out => Stage.succeedsWith (fun _ => true)
      (Stage.projection shown [] out)) (Stage.addComputed fields [] row) = true

instance (c : Compiler) (ctx : Context) (orderBy : List OrderKey) (fields shown : Document)
    (found : List Value) :
    Decidable (c.IsReversedPair ctx orderBy fields shown found) :=
      inferInstanceAs (Decidable (_ ∧ _))

/-- Such rows are returned in some order. -/
theorem IsReversedPair.exists_returns {p : Plan} {s : Store} {keys : List (String × Direction)}
    {found : List Value}
    (hunion : q.union = none) (hm : c.queryableModel q.model = .ok m)
    (hplan : c.planOf m q = .ok (p, ctx))
    (horder : p.order = addColumns fields ++ sortBy keys)
    (hfound : Stage.runAll s (c.source ctx p) [] (s.collection m.collection) = .ok found)
    (h : c.IsReversedPair ctx q.orderBy fields (projectionOf p.columns) found) :
    Stage.runAll s p.order [] found = .ok (Stage.sorted keys (found.map (withFields fields))) ∧
      ∃ rows, c.Returns s q rows := by
  obtain ⟨-, -, -, hrows⟩ := h
  have hshown : ∀ row ∈ found, ∃ out, Stage.addComputed fields [] row = .ok out ∧
      ∃ shown, Stage.projection (projectionOf p.columns) [] out = .ok shown := by
    intro row hrow
    obtain ⟨out, hout, hout'⟩ := Stage.exists_of_succeedsWith (hrows row hrow)
    obtain ⟨shown, hshown, -⟩ := Stage.exists_of_succeedsWith hout'
    exact ⟨out, hout, shown, hshown⟩
  have harranged : Stage.runAll s p.order [] found =
      .ok (Stage.sorted keys (found.map (withFields fields))) := by
    rw [horder, runAll_order_iff]
    refine ⟨fun row hrow => ?_, rfl⟩
    obtain ⟨out, hout, -⟩ := hshown row hrow
    rw [withFields, hout]
  obtain ⟨rows, hall⟩ : ∃ rows, Stage.each (Stage.projection (projectionOf p.columns) [])
      (window q.offset q.limit (Stage.sorted keys (found.map (withFields fields)))) =
          .ok rows := by
    refine Stage.exists_each_iff.mpr fun out hout => ?_
    have hmem := (Stage.sorted_perm _ _).subset
      ((window_sublist q.offset q.limit _).subset hout)
    obtain ⟨row, hrow, rfl⟩ := List.mem_map.mp hmem
    obtain ⟨out, hout, shown, hshown⟩ := hshown row hrow
    exact ⟨shown, by rw [withFields, hout]; exact hshown⟩
  exact ⟨harranged, rows, (returns_iff_parts hunion hm hplan).mpr ⟨found, _, hfound,
    harranged, hall⟩⟩

/-- Tasks with their steps, each with an owner. -/
def task : Model :=
  ⟨"Task", some "tasks", false, [Model.primaryKey, ⟨"steps", .embeddedArray "Step", true, none⟩,
    ⟨"owner", .foreignKey "Person" none none, false, none⟩]⟩

/-- Tasks and their owners. -/
def tasks : Compiler :=
  ⟨⟨[task, ⟨"Step", none, true, [⟨"title", .scalar .string, true, none⟩]⟩,
    ⟨"Person", some "people", false, [Model.primaryKey, ⟨"name", .scalar .string, false,
      none⟩]⟩]⟩, .usual⟩

/-- The first of the tasks by the names of their owners, and of those with the same owner that
with most steps. -/
def firstTask : Query :=
    .mk "Task" none [] [] [⟨"owner__name", false⟩, ⟨"steps__len", true⟩] none (some 1) [] none

/-- Two tasks of Ann, the second of which has more steps. -/
def twoTasks : Store :=
  ⟨[("tasks", [.object [("_id", .int 1), ("owner_id", .int 1), ("steps", .array [.null])],
      .object [("_id", .int 2), ("owner_id", .int 1), ("steps", .array [.null, .null])]]),
    ("people", [.object [("_id", .int 1), ("name", .string "Ann")]])]⟩

/-- The tasks change places. -/
theorem twoTasks_reversed :
    ∃ p ctx rows found arranged, tasks.planOf task firstTask = .ok (p, ctx) ∧
      tasks.Returns twoTasks firstTask rows ∧ Stage.runAll twoTasks (tasks.source ctx p) []
      (twoTasks.collection "tasks") = .ok found ∧ found.length = 2 ∧
      Stage.runAll twoTasks p.order [] found = .ok arranged ∧
      StableSort (fun a b => tasks.compareByPaths ctx a b firstTask.orderBy ≠ .gt) found
        found.reverse ∧
      List.Forall₂ Value.SameBesideOrder found.reverse arranged := by
  obtain ⟨p, ctx, fields, keys, hplan, horder, hnames, hfound⟩ : ∃ p ctx fields keys,
      tasks.planOf task firstTask = .ok (p, ctx) ∧ p.order = addColumns fields ++ sortBy keys ∧
      (∀ name ∈ task.columns ++ ctx.aliases.map (·.2), name.toList.take 2 ≠ ['_', '_']) ∧
      Stage.succeedsWith
        (fun found => decide (tasks.IsReversedPair ctx firstTask.orderBy fields
          (projectionOf p.columns) found))
        (Stage.runAll twoTasks (tasks.source ctx p) [] (twoTasks.collection "tasks")) =
            true := by
    refine ⟨_, _, [("__order1", Access.lengthOf (.string "$steps"))],
      [("people.name", .ascending), ("__order1", .descending)], rfl, rfl, ?_, ?_⟩
    · decide +kernel
    · decide +kernel
  obtain ⟨found, hrun, hpair⟩ := Stage.exists_of_succeedsWith hfound
  replace hpair := of_decide_eq_true hpair
  obtain ⟨-, rows, hrows⟩ := hpair.exists_returns rfl rfl hplan horder hrun
  obtain ⟨found', arranged, hrun', harranged, -, hordered, -⟩ :=
    rows_in_path_order rfl rfl hplan (fun name hname => sparesOrder_of_take (hnames name hname))
    (by decide) hrows
  obtain rfl := Except.ok.inj (hrun.symm.trans hrun')
  obtain ⟨hlength, hgt, hdecimals, -⟩ := hpair
  obtain ⟨ordered, hsorted, hsame⟩ := hordered hdecimals
  obtain ⟨a, b, rfl⟩ := List.length_eq_two.mp hlength
  have hab := List.rel_of_pairwise_cons hgt List.mem_cons_self
  obtain rfl := hsorted.eq_pair fun hle => hle hab
  exact ⟨p, ctx, rows, [a, b], arranged, hplan, hrows, hrun, rfl, harranged, hsorted, hsame⟩

/-! ## Fields of an order in the way -/

/-- What a query makes of a store is not in the order of the values of its paths, though no
column and no alias is called like a field that is computed for an order, and all values have
decimals. -/
def Misorders (c : Compiler) (s : Store) (q : Query) : Prop :=
  ∃ m p ctx rows found arranged, q.union = none ∧ c.queryableModel q.model = .ok m ∧
    c.planOf m q = .ok (p, ctx) ∧
    (∀ name ∈ m.columns ++ q.annotations.map (·.1) ++ ctx.aliases.map (·.2), ∀ index,
      name ≠ orderField index) ∧ c.Returns s q rows ∧ Stage.runAll s (c.source ctx p) []
    (s.collection m.collection) = .ok found ∧ Stage.runAll s p.order [] found = .ok arranged ∧
    (∀ row ∈ found, ∀ k ∈ q.orderBy, ∀ v ∈ c.pathValue? ctx k.path row, v.HasDecimals) ∧
    ¬∃ ordered, StableSort (fun a b => c.compareByPaths ctx a b q.orderBy ≠ .gt) found ordered ∧
      List.Forall₂ Value.SameBesideOrder ordered arranged

/-- The rows that reach an order are two that should change places and do not, which is seen at
a path. -/
def IsStuckPair (c : Compiler) (ctx : Context) (orderBy : List OrderKey)
    (fields shown : Document)
    (keys : List (String × Direction)) (path : String) (found : List Value) : Prop :=
  c.IsReversedPair ctx orderBy fields shown found ∧
    found.Pairwise fun a b => Stage.compareBy (withFields fields a) (withFields fields b) keys ≠
      .gt ∧ ((withFields fields a).getPath path).map compactText ≠
      (b.getPath path).map compactText

instance (c : Compiler) (ctx : Context) (orderBy : List OrderKey) (fields shown : Document)
    (keys : List (String × Direction)) (path : String) (found : List Value) :
    Decidable (c.IsStuckPair ctx orderBy fields shown keys path found) :=
      inferInstanceAs (Decidable (_ ∧ _))

theorem misorders_of_pair (m : Model) (fields : Document) (keys : List (String × Direction))
    (path : String) {p : Plan}
    {s : Store} (hunion : q.union = none) (hm : c.queryableModel q.model = .ok m)
    (hplan : c.planOf m q = .ok (p, ctx))
    (horder : p.order = addColumns fields ++ sortBy keys)
    (hnames : ∀ name ∈ m.columns ++ q.annotations.map (·.1) ++ ctx.aliases.map (·.2),
      name.toList.getLast?.any (·.isDigit) = false) (hpath : path.toList.take 2 ≠ ['_', '_'])
    (hfound : Stage.succeedsWith
      (fun found => decide (c.IsStuckPair ctx q.orderBy fields (projectionOf p.columns)
        keys path found))
      (Stage.runAll s (c.source ctx p) [] (s.collection m.collection)) = true) :
          c.Misorders s q := by
  obtain ⟨found, hrun, hpair⟩ := Stage.exists_of_succeedsWith hfound
  obtain ⟨hpair, hstuck⟩ := of_decide_eq_true hpair
  obtain ⟨harranged, rows, hrows⟩ := hpair.exists_returns hunion hm hplan horder hrun
  obtain ⟨hlength, hgt, hdecimals, -⟩ := hpair
  obtain ⟨a, b, rfl⟩ := List.length_eq_two.mp hlength
  have hab := List.rel_of_pairwise_cons hgt List.mem_cons_self
  obtain ⟨hkept, hseen⟩ := List.rel_of_pairwise_cons hstuck List.mem_cons_self
  rw [List.map_cons, List.map_cons, List.map_nil, Stage.sorted_pair hkept] at harranged
  refine ⟨m, p, ctx, rows, [a, b], _, hunion, hm, hplan, fun name hname index => ?_, hrows,
    hrun, harranged, hdecimals, ?_⟩
  · exact (numbered_ne (hnames name hname) "__order" index).symm
  · rintro ⟨ordered, hsorted, hsame⟩
    obtain rfl := hsorted.eq_pair fun hle => hle hab
    obtain ⟨hfirst, -⟩ := List.forall₂_cons.mp hsame
    exact hseen (congrArg (Option.map compactText) (hfirst path (sparesOrder_of_take hpath)))

/-- Crates with a weight, lids, and a size that has a weight too. -/
def crate (weight : Option String) : Model :=
  ⟨"Crate", some "crates", false, [Model.primaryKey, ⟨"lids", .embeddedArray "Lid", true, none⟩,
    ⟨"weight", .scalar .integer, true, weight⟩,
      ⟨"size", .foreignKey "Size" none none, true, none⟩]⟩

/-- Crates with the column of their weight, and the collection of the sizes. -/
def crates (weight : Option String) (sizes : String) : Compiler :=
  ⟨⟨[crate weight, ⟨"Lid", none, true, []⟩,
    ⟨"Size", some sizes, false, [Model.primaryKey, ⟨"weight", .scalar .integer, true, none⟩]⟩]⟩,
      .usual⟩

/-- Crates by the number of their lids and by a path. -/
def cratesBy (path : String) : Query :=
    .mk "Crate" none [] [] [⟨"lids__len", false⟩, ⟨path, false⟩] none none [] none

/-- Two crates, the second of which weighs less, and their sizes. -/
def twoCrates : Store :=
  ⟨[("crates", [.object [("_id", .int 1), ("size_id", .int 1),
    ("__order0", .object [("weight", .int 2)])],
      .object [("_id", .int 2), ("size_id", .int 2),
        ("__order0", .object [("weight", .int 1)])]]),
    ("__order0.sizes", [.object [("_id", .int 1), ("weight", .int 2)], .object [("_id", .int 2),
      ("weight", .int 1)]])]⟩

/-- The same crates as documents that are arrays. -/
def listedCrates : Store :=
  ⟨[("crates", [.array [.object [("weight", .int 2)]], .array [.object [("weight", .int 1)]]])]⟩

/-- Crates stay in their order, though the second one weighs less, where the number of lids is
put into documents that are arrays, over the column of the weight or over the alias of the
sizes. -/
theorem crates_misordered :
    (crates none "sizes").Misorders listedCrates (cratesBy "weight") ∧
      (crates (some "__order0.weight") "sizes").Misorders twoCrates (cratesBy "weight") ∧
      (crates none "__order0.sizes").Misorders twoCrates (cratesBy "size__weight") := by
  refine ⟨?_, ?_, ?_⟩
  · exact misorders_of_pair (crate none) [("__order0", Access.lengthOf (.string "$lids"))]
      [("__order0", .ascending), ("weight", .ascending)] "weight" rfl rfl rfl rfl
        (by decide +kernel) (by decide)
      (by decide +kernel)
  · exact misorders_of_pair (crate (some "__order0.weight"))
      [("__order0", Access.lengthOf (.string "$lids"))]
      [("__order0", .ascending), ("__order0.weight", .ascending)] "_id" rfl rfl rfl rfl
        (by decide +kernel) (by decide)
      (by decide +kernel)
  · exact misorders_of_pair (crate none) [("__order0", Access.lengthOf (.string "$lids"))]
      [("__order0", .ascending), ("__order0.sizes.weight", .ascending)] "_id" rfl rfl rfl rfl
        (by decide +kernel)
      (by decide) (by decide +kernel)

end Compiler

end DocQuery
