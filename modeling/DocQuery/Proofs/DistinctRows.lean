import DocQuery.Proofs.ColumnAliases
import DocQuery.Proofs.PrintedValues
import DocQuery.Proofs.Unions
import DocQuery.Proofs.ValueOrder
set_option autoImplicit false

/-!
# Proofs: united queries without duplicates

A union that does not keep all rows groups them by their columns and takes the columns from the
keys of the groups.  Keys are the same if they print the same.  So of rows whose columns print
the same the first one stays; where values can be told from their text these are the rows with
the same columns.  Values that are equal in the order of values may print differently, as `1`,
`1.0` and the decimals `1.0` and `1.00` do, so rows that hold those stay side by side.
-/

namespace DocQuery

/-! ## Groups -/

namespace Stage

/-- Keys of groups stand for some keys: they are among them, all of them print differently, and
each of the keys prints like one of them. -/
structure StandFor (some all : List Value) : Prop where
  sublist : some.Sublist all
  apart : some.Pairwise fun k l => k.compactText ≠ l.compactText
  covers : ∀ k ∈ all, ∃ l ∈ some, l.compactText = k.compactText

theorem keys_addToGroup (key doc : Value) (groups : List Group) :
    (addToGroup key doc groups).map Group.key =
      if ∃ g ∈ groups, g.key.compactText = key.compactText then groups.map Group.key else
          groups.map Group.key ++ [key] := by
  induction groups with
  | nil => simp [addToGroup]
  | cons g rest ih =>
    by_cases hg : g.key.compactText = key.compactText
    · simp [addToGroup, hg]
    · simp only [addToGroup, if_neg hg, List.map_cons, ih, List.exists_mem_cons_iff,
        or_iff_right hg]
      split <;> rfl

/-- One more document makes a new group if its key prints like none before. -/
theorem StandFor.addToGroup {groups : List Group} {all : List Value}
    (h : StandFor (groups.map Group.key) all)
    (key doc : Value) : StandFor ((addToGroup key doc groups).map Group.key)
        (all ++ [key]) := by
  rw [keys_addToGroup]
  split
  · rename_i hfound
    obtain ⟨g, hg, htext⟩ := hfound
    refine ⟨h.sublist.trans (List.sublist_append_left _ _), h.apart, ?_⟩
    refine List.forall_mem_append.mpr ⟨h.covers, List.forall_mem_singleton.mpr ⟨g.key,
      List.mem_map_of_mem hg, htext⟩⟩
  · rename_i hnew
    refine ⟨h.sublist.append (List.Sublist.refl _), List.pairwise_append.mpr ⟨h.apart,
      List.pairwise_singleton _ _, ?_⟩, ?_⟩
    · intro k hk l hl
      obtain ⟨g, hg, rfl⟩ := List.mem_map.mp hk
      obtain rfl := List.mem_singleton.mp hl
      exact fun htext => hnew ⟨g, hg, htext⟩
    · refine List.forall_mem_append.mpr ⟨fun k hk => ?_, List.forall_mem_singleton.mpr
        ⟨key, by simp, rfl⟩⟩
      obtain ⟨l, hl, htext⟩ := h.covers k hk
      exact ⟨l, List.mem_append_left _ hl, htext⟩

/-- The keys of groups stand for the keys of the documents. -/
theorem standFor_groupsOf (key : Value → Value) (docs : List Value) :
    StandFor ((groupsOf (docs.map fun doc => (key doc, doc))).map Group.key)
        (docs.map key) := by
  suffices hall : ∀ groups all, StandFor (groups.map Group.key) all →
      StandFor (((docs.map fun doc => (key doc, doc)).foldl (fun groups m =>
        Stage.addToGroup m.1 m.2 groups) groups).map Group.key) (all ++ docs.map key) by
    exact hall [] [] ⟨List.Sublist.refl _, .nil, by simp⟩
  induction docs with
  | nil =>
    intro groups all h
    simpa using h
  | cons doc rest ih =>
    intro groups all h
    have hrest := ih _ _ (h.addToGroup (key doc) doc)
    simpa using hrest

theorem groupDocuments_nil (vars : Document) (groups : List Group) :
    groupDocuments [] vars groups = .ok ((groups.map Group.key).map fun k =>
        .object [("_id", k)]) := by
  induction groups with
  | nil => rfl
  | cons g rest ih => simp [groupDocuments, accumulatedFields, ih]

end Stage

/-! ## Columns -/

/-- The values that a row holds in some columns. -/
def tupleOf (names : List String) (row : Value) : List (Option Value) := names.map row.getPath

/-- The document of the values in some columns, without those that are missing. -/
def documentOf (names : List String) (tuple : List (Option Value)) : Value :=
  .object ((names.zip tuple).filterMap fun c => c.2.map fun v => (c.1, v))

variable {names : List String}

theorem value?_columns (names : List String) (row : Value) (name : String) :
    Document.value? ((names.zip (tupleOf names row)).filterMap fun c => c.2.map fun v =>
      (c.1, v)) name =
      if name ∈ names then row.getPath name else none := by
  induction names with
  | nil => simp [tupleOf]
  | cons other rest ih =>
    simp only [tupleOf] at ih
    by_cases hname : other = name
    · subst hname
      cases hpath : row.getPath other with
      | none => simp [tupleOf, hpath, ih]
      | some v => simp [tupleOf, hpath, Document.value?]
    · cases hpath : row.getPath other with
      | none => simp [tupleOf, hpath, ih, Ne.symm hname]
      | some v => simp [tupleOf, hpath, Document.value?, ih, hname, Ne.symm hname]

/-- The columns of a row can be read off their document. -/
theorem fields_documentOf (names : List String) (row : Value) :
    (names.map fun name => (documentOf names (tupleOf names row)).field? name) =
        tupleOf names row := by
  refine List.map_congr_left fun name hname => ?_
  rw [documentOf, Value.field?_object, value?_columns, if_pos hname]

/-- An object whose members are no operators evaluates member by member. -/
theorem Value.eval_object {fields : Document} (h : ∀ m ∈ fields, isOperatorName m.1 = false)
    (scope : Scope) :
    eval (.object fields) scope = (evalFields fields scope).map fun members =>
        some (.object members) := by
  match fields with
  | [] => rfl
  | [(key, v)] =>
    rw [eval_object_single (h (key, v) List.mem_cons_self), evalFields, evalFields]
    cases eval v scope with
    | error e => rfl
    | ok w => cases w <;> rfl
  | m :: n :: rest =>
    simp only [eval]
    cases evalFields (m :: n :: rest) scope <;> rfl

namespace Stage

variable (hplain : ∀ name ∈ names, IsPlainName name)
include hplain

/-- The key of a row is the document of its columns. -/
theorem eval_key (row : Value) (vars : Document) :
    (Value.object (names.map Compiler.plainColumn)).eval ⟨row, vars⟩ =
      .ok (some (documentOf names (tupleOf names row))) := by
  have hfields : ∀ some : List String, (∀ name ∈ some, IsPlainName name) →
      Value.evalFields (some.map Compiler.plainColumn) ⟨row, vars⟩ =
        .ok ((some.zip (tupleOf some row)).filterMap fun c => c.2.map fun v => (c.1, v)) := by
    intro some hsome
    induction some with
    | nil => rfl
    | cons name rest ih =>
      obtain ⟨hname, hrest⟩ := List.forall_mem_cons.mp hsome
      have hread := PathText.read_root ⟨row, vars⟩ hname.2
      simp only [tupleOf] at ih
      simp only [List.map_cons, Compiler.plainColumn, Value.evalFields,
        Value.eval_string, hread]
      rw [ih hrest]
      cases hpath : row.getPath name <;> simp [tupleOf, hpath]
  have hnames : ∀ m ∈ names.map Compiler.plainColumn, isOperatorName m.1 = false :=
      fun m hm => by
    obtain ⟨name, hname, rfl⟩ := List.mem_map.mp hm
    exact (hplain name hname).2
  rw [Value.eval_object hnames, hfields names hplain]
  rfl

/-- Rows are grouped by the documents of their columns. -/
theorem run_group (docs : List Value) (vars : Document) (store : Store) :
    run store (.group (.object (names.map Compiler.plainColumn)) []) vars docs =
      .ok (((groupsOf (docs.map fun doc => (documentOf names (tupleOf names doc), doc))).map
        Group.key).map fun k => .object [("_id", k)]) := by
  have hkeyed : each (fun doc => ((Value.object (names.map Compiler.plainColumn)).eval
    ⟨doc, vars⟩).map fun k => (k.getD .null, doc)) docs = .ok (docs.map fun doc =>
    (documentOf names (tupleOf names doc), doc)) := by
    rw [each_ok_iff, List.forall₂_map_right_iff, List.forall₂_same]
    exact fun doc _ => by rw [eval_key hplain]; rfl
  simp only [run, grouped, hkeyed, groupDocuments_nil]

/-- The stage behind the groups takes the columns from the key of a group. -/
theorem exists_restored (hnodup : names.Nodup) (fields vars : Document) :
    ∃ out, addComputed (names.map fun name => (name, .string ("$_id." ++ name))) vars
        (.object [("_id", .object fields)]) = .ok out ∧
      tupleOf names out = names.map fun name => Document.value? fields name := by
  have hread : ∀ name ∈ names, (Value.string ("$_id." ++ name)).eval
    ⟨.object [("_id", .object fields)], vars⟩ = .ok (Document.value? fields name) := by
    intro name hname
    have hpath : isOperatorName ("_id" ++ "." ++ name) = false := by
      simp [isOperatorName, Text.startsWith]
    have htext : "$_id." ++ name = "$" ++ ("_id" ++ "." ++ name) := by
      rw [show "$_id." = "$" ++ ("_id" ++ ".") by decide, String.append_assoc]
    rw [htext, Value.eval_string, PathText.read_root _ hpath, Value.getPath_front (by decide),
      Document.value?, if_pos rfl]
    exact congrArg Except.ok (Value.getPath_of_plain (hplain name hname).1 fields)
  have hcomputed : computed ⟨.object [("_id", .object fields)], vars⟩
      (names.map fun name => (name, .string ("$_id." ++ name))) =
      .ok (names.map fun name => (name, Document.value? fields name)) := by
    clear hnodup hplain
    induction names with
    | nil => rfl
    | cons name rest ih =>
      obtain ⟨hname, hrest⟩ := List.forall_mem_cons.mp hread
      simp only [List.map_cons, computed, hname, ih hrest]
  refine ⟨_, by rw [addComputed, hcomputed]; rfl, List.map_congr_left fun name hname => ?_⟩
  have hitems : ((names.map fun name => (name, Document.value? fields name)).foldl setComputed
      (.object [("_id", .object fields)])).items? = none := items?_foldl_setComputed rfl _
  rw [Value.getPath, Value.pathNames_of_plain (hplain name hname).1,
    Value.walk_singleton _ _ hitems]
  refine field?_foldl_setComputed_mem ?_ ?_ (List.mem_map.mpr ⟨name, hname, rfl⟩) _
  · rw [List.map_map]
    exact (List.map_id names).symm ▸ hnodup
  · intro r hr
    obtain ⟨other, hother, rfl⟩ := List.mem_map.mp hr
    exact (hplain other hother).1

/-- The same for all groups, the keys of which are documents of columns. -/
theorem exists_restored_each (hnodup : names.Nodup) {keys docs : List Value}
    (hkeys : ∀ k ∈ keys, ∃ doc ∈ docs, k = documentOf names (tupleOf names doc))
    (vars : Document) :
    ∃ rows, each (addComputed (names.map fun name => (name, .string ("$_id." ++ name))) vars)
        (keys.map fun k => .object [("_id", k)]) = .ok rows ∧
      rows.map (tupleOf names) = keys.map fun k => names.map k.field? := by
  induction keys with
  | nil => exact ⟨[], rfl, rfl⟩
  | cons k rest ih =>
    obtain ⟨⟨doc, -, rfl⟩, hrest⟩ := List.forall_mem_cons.mp hkeys
    obtain ⟨out, hout, hcolumns⟩ := exists_restored hplain hnodup _ vars
    obtain ⟨outs, houts, hothers⟩ := ih hrest
    exact ⟨out :: outs, by rw [List.map_cons, each, documentOf, hout, houts], by
      rw [List.map_cons, hcolumns, hothers]; rfl⟩

/-- Duplicates can be removed from any rows.  The columns of the rows that stay are among those
of the rows, and their documents stand for those of the columns of the rows. -/
theorem exists_distinct (hnodup : names.Nodup) (store : Store) (docs : List Value) :
    ∃ rows, runAll store (Compiler.distinct names) [] docs = .ok rows ∧
      (rows.map (tupleOf names)).Sublist (docs.map (tupleOf names)) ∧
      StandFor ((rows.map (tupleOf names)).map (documentOf names))
          ((docs.map (tupleOf names)).map (documentOf names)) := by
  have hgroup := run_group hplain docs [] store
  have hstand := standFor_groupsOf (fun doc => documentOf names (tupleOf names doc)) docs
  -- from here on the groups only count by their keys
  generalize (groupsOf (docs.map fun doc => (documentOf names (tupleOf names doc), doc))).map
    Group.key = keys at hgroup hstand
  have hkeys : ∀ k ∈ keys, ∃ doc ∈ docs, k = documentOf names (tupleOf names doc) :=
      fun k hk => by
    obtain ⟨doc, hdoc, heq⟩ := List.mem_map.mp (hstand.sublist.subset hk)
    exact ⟨doc, hdoc, heq.symm⟩
  obtain ⟨rows, hrows, hcolumns⟩ := exists_restored_each hplain hnodup hkeys []
  have hread : ∀ doc, names.map (documentOf names (tupleOf names doc)).field? =
      tupleOf names doc :=
    fun doc => fields_documentOf names doc
  refine ⟨rows, ?_, ?_, ?_⟩
  · rw [Compiler.distinct, runAll, hgroup]
    exact (runAll_singleton _).trans (by rw [run]; exact hrows)
  · have hsub := hstand.sublist.map fun k => names.map k.field?
    rw [List.map_map] at hsub
    rw [hcolumns]
    exact (List.map_congr_left fun doc _ => hread doc) ▸ hsub
  · have hback : keys.map (documentOf names ∘ fun k => names.map k.field?) = keys := by
      refine (List.map_congr_left fun k hk => ?_).trans (List.map_id keys)
      obtain ⟨doc, -, rfl⟩ := hkeys k hk
      exact congrArg (documentOf names) (hread doc)
    rw [hcolumns, List.map_map, List.map_map, hback]
    exact hstand

end Stage

/-! ## Columns that are alike -/

namespace Value

mutual

/-- Whether a value holds no decimals. -/
def HasNoDecimals : Value → Prop
  | .decimal _ => False
  | .array items => HaveNoDecimals items
  | .object fields => MembersHaveNoDecimals fields
  | _ => True

/-- The same for every item. -/
def HaveNoDecimals : List Value → Prop
  | [] => True
  | v :: rest => HasNoDecimals v ∧ HaveNoDecimals rest

/-- The same for the value of every member. -/
def MembersHaveNoDecimals : List (String × Value) → Prop
  | [] => True
  | (_, v) :: rest => HasNoDecimals v ∧ MembersHaveNoDecimals rest

end

mutual

/-- Equal values are the same if they hold no numbers but integers. -/
theorem eq_of_compare (v w : Value) (hv : v.IsLegible) (hw : w.IsLegible)
    (hv' : v.HasNoDecimals) (hw' : w.HasNoDecimals) (h : compare v w = .eq) : v = w := by
  have hrank : w.rank = v.rank := by
    rw [compare_eq_then, Ordering.then_eq_eq] at h
    exact (Nat.compare_eq_eq.mp h.1).symm
  match v with
  | .null =>
    cases w <;> simp [rank] at hrank
    rfl
  | .bool a =>
    cases w <;> simp [rank] at hrank
    exact congrArg Value.bool (Std.LawfulEqOrd.eq_of_compare h)
  | .int m =>
    cases w <;> simp [rank] at hrank
    · exact congrArg Value.int (Int64.toInt_inj.mp (Std.LawfulEqOrd.eq_of_compare h))
    · exact hw.elim
    · exact hw'.elim
  | .float _ => exact hv.elim
  | .decimal _ => exact hv'.elim
  | .string a =>
    cases w <;> simp [rank] at hrank
    exact congrArg Value.string (Std.LawfulEqOrd.eq_of_compare h)
  | .array as =>
    cases w <;> simp [rank] at hrank
    exact congrArg Value.array (eq_of_compareItems as _ hv hw hv' hw' h)
  | .object as =>
    cases w <;> simp [rank] at hrank
    exact congrArg Value.object (eq_of_compareFields as _ hv.2 hw.2 hv' hw' h)

theorem eq_of_compareItems (vs ws : List Value) (hv : AreLegible vs) (hw : AreLegible ws)
    (hv' : HaveNoDecimals vs)
    (hw' : HaveNoDecimals ws) (h : compareItems vs ws = .eq) : vs = ws := by
  match vs, ws, hv, hw, hv', hw' with
  | [], [], _, _, _, _ => rfl
  | v :: vs, w :: ws, ⟨hv, hvs⟩, ⟨hw, hws⟩, ⟨hv', hvs'⟩, ⟨hw', hws'⟩ =>
    obtain ⟨hfirst, hrest⟩ := Ordering.then_eq_eq.mp h
    rw [eq_of_compare v w hv hw hv' hw' hfirst, eq_of_compareItems vs ws hvs hws
      hvs' hws' hrest]

theorem eq_of_compareFields (vs ws : Document) (hv : MembersLegible vs) (hw : MembersLegible ws)
    (hv' : MembersHaveNoDecimals vs) (hw' : MembersHaveNoDecimals ws)
        (h : compareFields vs ws = .eq) : vs = ws := by
  match vs, ws, hv, hw, hv', hw' with
  | [], [], _, _, _, _ => rfl
  | (j, v) :: vs, (k, w) :: ws, ⟨hv, hvs⟩, ⟨hw, hws⟩, ⟨hv', hvs'⟩, ⟨hw', hws'⟩ =>
    obtain ⟨hname, hmore⟩ := Ordering.then_eq_eq.mp h
    obtain ⟨hfirst, hrest⟩ := Ordering.then_eq_eq.mp hmore
    rw [Std.LawfulEqOrd.eq_of_compare hname, eq_of_compare v w hv hw hv' hw' hfirst,
      eq_of_compareFields vs ws hvs hws hvs' hws' hrest]

end

end Value

/-- Whether columns hold equal values, or nothing, in the same places. -/
def Alike (t u : List (Option Value)) : Prop :=
    List.Forall₂ (fun v w => Value.compare? v w = .eq) t u

/-- Whether the values in some columns can be told from their text. -/
def LegibleTuple (t : List (Option Value)) : Prop := ∀ v, some v ∈ t → v.IsLegible

theorem Alike.symm {t u : List (Option Value)} (h : Alike t u) : Alike u t := by
  induction h with
  | nil => exact .nil
  | @cons v w vs ws hfirst hrest ih =>
    refine .cons ?_ ih
    rw [← Value.compare?_swap v w, hfirst]
    rfl

/-- Columns that are alike are the same if they hold no numbers but integers. -/
theorem Alike.eq {t u : List (Option Value)} (ht : LegibleTuple t) (hu : LegibleTuple u)
    (ht' : ∀ v, some v ∈ t → v.HasNoDecimals) (hu' : ∀ v, some v ∈ u → v.HasNoDecimals)
        (h : Alike t u) : t = u := by
  induction h with
  | nil => rfl
  | @cons v w vs ws hfirst hrest ih =>
    have htail := ih (fun x hx => ht x (List.mem_cons_of_mem v hx)) (fun x hx =>
      hu x (List.mem_cons_of_mem w hx)) (fun x hx => ht' x (List.mem_cons_of_mem v hx))
      fun x hx => hu' x (List.mem_cons_of_mem w hx)
    rw [htail]
    cases v <;> cases w <;> simp [Value.compare?] at hfirst
    · rfl
    · rename_i x y
      rw [Value.eq_of_compare x y (ht x List.mem_cons_self) (hu y List.mem_cons_self)
        (ht' x List.mem_cons_self) (hu' y List.mem_cons_self) hfirst]

/-- Where the values can be told from their text, columns that print the same are the same. -/
theorem tuple_eq_of_text (hplain : ∀ name ∈ names, IsPlainName name) {row other : Value}
    (hrow : LegibleTuple (tupleOf names row)) (hother : LegibleTuple (tupleOf names other))
    (h : (documentOf names (tupleOf names row)).compactText =
      (documentOf names (tupleOf names other)).compactText) :
    tupleOf names row = tupleOf names other := by
  have hlegible : ∀ {t : List (Option Value)}, LegibleTuple t →
      (documentOf names t).IsLegible := by
    intro t ht
    have hmembers : ∀ m ∈ (names.zip t).filterMap fun c => c.2.map fun v => (c.1, v),
        m.1 ∈ names ∧ some m.2 ∈ t := by
      intro m hm
      obtain ⟨⟨name, column⟩, hpair, hsome⟩ := List.mem_filterMap.mp hm
      obtain ⟨v, rfl, rfl⟩ := Option.map_eq_some_iff.mp hsome
      exact List.of_mem_zip hpair
    refine ⟨fun d hd => ?_, Value.membersLegible_iff.mpr fun m hm => ht m.2 (hmembers m hm).2⟩
    have hkey := (hmembers (Value.decimalKey, .string d.text)
      (by rw [hd]; exact List.mem_cons_self)).1
    have hoperator : isOperatorName Value.decimalKey = true := by decide
    simp [(hplain _ hkey).2] at hoperator
  have hdocument := Value.compactText_inj (hlegible hrow) (hlegible hother) h
  rw [← fields_documentOf names row, ← fields_documentOf names other, hdocument]

/-! ## Tuples that stay -/

section Kept

variable {kept all : List (List (Option Value))}

/-- Where tuples that print the same are the same, tuples that stand for others are these, each
of them once. -/
theorem nodup_of_standFor (hsub : kept.Sublist all)
    (hstand : Stage.StandFor (kept.map (documentOf names)) (all.map (documentOf names)))
    (htext : ∀ t ∈ all, ∀ u ∈ all, (documentOf names t).compactText =
      (documentOf names u).compactText → t = u) :
    kept.Nodup ∧ ∀ t, t ∈ kept ↔ t ∈ all := by
  refine ⟨(List.pairwise_map.mp hstand.apart).imp fun hne heq => hne (by rw [heq]), fun t =>
    ⟨fun ht => hsub.subset ht, ?_⟩⟩
  intro ht
  obtain ⟨k, hk, hprinted⟩ := hstand.covers _ (List.mem_map_of_mem ht)
  obtain ⟨u, hu, rfl⟩ := List.mem_map.mp hk
  exact htext u (hsub.subset hu) t ht hprinted ▸ hu

/-- Of tuples that are each there once, no two are alike if and only if tuples that are alike
are the same. -/
theorem pairwise_not_alike_iff (hnodup : kept.Nodup) (hmem : ∀ t, t ∈ kept ↔ t ∈ all) :
    kept.Pairwise (fun t u => ¬Alike t u) ↔ ∀ t ∈ all, ∀ u ∈ all, Alike t u → t = u := by
  constructor
  · intro hapart t ht u hu halike
    by_contra hne
    have hboth : kept.Pairwise fun t u => ¬Alike t u ∧ ¬Alike u t := hapart.imp fun hdiffer =>
      ⟨hdiffer, fun h => hdiffer h.symm⟩
    have hsymm : Std.Symm fun t u : List (Option Value) => ¬Alike t u ∧ ¬Alike u t :=
      ⟨fun _ _ h => h.symm⟩
    exact (hboth.forall ((hmem t).mpr ht) ((hmem u).mpr hu) hne).1 halike
  · intro hsame
    exact hnodup.imp_of_mem fun ht hu hne halike =>
      hne (hsame _ ((hmem _).mp ht) _ ((hmem _).mp hu) halike)

end Kept

namespace Compiler

variable {c : Compiler} {q : Query}

theorem Projects.nodup (h : c.Projects q names) : names.Nodup := by
  obtain ⟨m, p, ctx, -, -, rfl⟩ := h
  suffices hall : ∀ members d : Document, d.names.Nodup →
      (Document.insertAll d members).names.Nodup from
    hall _ [] List.nodup_nil
  intro members
  induction members with
  | nil => exact fun d hd => hd
  | cons m rest ih => exact fun d hd => ih _ (Document.nodup_names_insert hd m.1 m.2)

/-! ## Unions without duplicates -/

/-- A union that does not keep all rows runs where its parts do.  The tuples of its rows are
among those of the rows of the parts, and stand for them:  all of them print differently, and
each tuple of a part prints like one of them.  If the values in the tuples can be told from
their text then the union returns the tuples of its parts, each of them once.  Then no two of
its tuples are alike if tuples of the parts are the same whenever they are alike, so in
particular if there are no decimals in them. -/
theorem unite_keeps_distinct (hq : q.IsBare) (hnames : c.Projects q names)
    (hplain : ∀ name ∈ names, IsPlainName name) (others : List Query) (s : Store) :
    (∀ gathered, c.Gathers s q others gathered →
      ∃ rows, c.Returns s (q.unite others false) rows) ∧
    ∀ rows, c.Returns s (q.unite others false) rows → ∃ gathered,
      c.Gathers s q others gathered ∧ ∀ kept all, kept = rows.map (tupleOf names) →
      all = gathered.map (tupleOf names) → kept.Sublist all ∧
      Stage.StandFor (kept.map (documentOf names)) (all.map (documentOf names)) ∧
        ((∀ t ∈ all, LegibleTuple t) →
          kept.Nodup ∧ (∀ t, t ∈ kept ↔ t ∈ all) ∧
          (kept.Pairwise (fun t u => ¬Alike t u) ↔ ∀ t ∈ all, ∀ u ∈ all, Alike t u → t = u) ∧
          ((∀ t ∈ all, ∀ v, some v ∈ t → v.HasNoDecimals) → kept.Pairwise fun t u =>
              ¬Alike t u)) := by
  have hreturns : ∀ rows, c.Returns s (q.unite others false) rows ↔ ∃ gathered,
    c.Gathers s q others gathered ∧ Stage.runAll s (distinct names) [] gathered = .ok rows := by
    intro rows
    rw [returns_unite_iff hq]
    refine exists_congr fun gathered => and_congr_right fun _ => ?_
    constructor
    · rintro ⟨names', hnames', hkept⟩
      exact hnames.unique hnames' ▸ hkept
    · exact fun hkept => ⟨names, hnames, hkept⟩
  refine ⟨fun gathered hgathers => ?_, fun rows hrows => ?_⟩
  · obtain ⟨rows, hrows, -⟩ := Stage.exists_distinct hplain hnames.nodup s gathered
    exact ⟨rows, (hreturns rows).mpr ⟨gathered, hgathers, hrows⟩⟩
  · obtain ⟨gathered, hgathers, hkept⟩ := (hreturns rows).mp hrows
    obtain ⟨rows', hkept', hsub, hstand⟩ := Stage.exists_distinct hplain hnames.nodup s gathered
    obtain rfl : rows = rows' := Except.ok.inj (hkept.symm.trans hkept')
    refine ⟨gathered, hgathers, ?_⟩
    rintro kept all rfl rfl
    refine ⟨hsub, hstand, fun hlegible => ?_⟩
    have htext : ∀ t ∈ gathered.map (tupleOf names), ∀ u ∈ gathered.map (tupleOf names),
        (documentOf names t).compactText = (documentOf names u).compactText → t = u := by
      intro t ht u hu hprinted
      obtain ⟨row, -, rfl⟩ := List.mem_map.mp ht
      obtain ⟨other, -, rfl⟩ := List.mem_map.mp hu
      exact tuple_eq_of_text hplain (hlegible _ ht) (hlegible _ hu) hprinted
    obtain ⟨hnodup, hmem⟩ := nodup_of_standFor hsub hstand htext
    have hiff := pairwise_not_alike_iff hnodup hmem
    refine ⟨hnodup, hmem, hiff, fun hnone => hiff.mpr fun t ht u hu => ?_⟩
    exact Alike.eq (hlegible t ht) (hlegible u hu) (hnone t ht) (hnone u hu)

/-- Prices with an amount. -/
def prices : Compiler :=
  ⟨⟨[⟨"Price", none, false, [Model.primaryKey, ⟨"amount", .scalar .decimal, true, none⟩]⟩]⟩,
    .usual⟩

/-- The amounts of the prices. -/
def amounts : Query := (Query.all "Price").withValues ["amount"]

/-- One, with one digit behind the point. -/
def onePointZero : Decimal := ⟨false, 10, 1, by decide, by decide⟩

/-- One, with two digits behind the point. -/
def onePointZeroZero : Decimal := ⟨false, 100, 2, by decide, by decide⟩

/-- Two prices of the same amount, which is written in two ways. -/
def twoPrices : Store :=
  ⟨[("price", [.object [("_id", .int 1), ("amount", .decimal onePointZero)],
    .object [("_id", .int 2), ("amount", .decimal onePointZeroZero)]])]⟩

/-- The same amount is returned twice if it is written in two ways, and the names of people once
if they are asked for twice. -/
theorem twoPrices_alike :
    (∃ rows, prices.Returns twoPrices (amounts.unite [] false) rows ∧
      ¬(rows.map (tupleOf ["amount"])).Pairwise fun t u => ¬Alike t u) ∧
    ∃ rows, staff.Returns annAndBob (namesOfPeople.unite [namesOfPeople] false) rows ∧
      (rows.map (tupleOf ["name"])).Pairwise fun t u => ¬Alike t u := by
  have hsingle : ∀ {v : Value} {p : Value → Prop}, p v → ∀ w, some w ∈ [some v] → p w :=
      fun hv w hw => by
    obtain rfl := Option.some.inj (List.mem_singleton.mp hw)
    exact hv
  constructor
  · have hgathers : prices.Gathers twoPrices amounts []
        [.object [("_id", .int 1), ("amount", .decimal onePointZero)],
          .object [("_id", .int 2), ("amount", .decimal onePointZeroZero)]] :=
            ⟨_, [], ⟨_, rfl, rfl⟩, .nil, rfl⟩
    have hnames : prices.Projects amounts ["amount"] := ⟨_, _, _, rfl, rfl, rfl⟩
    obtain ⟨hruns, hkeeps⟩ := unite_keeps_distinct (q := amounts) ⟨⟨rfl, rfl, rfl⟩, rfl⟩ hnames
      (by decide) [] twoPrices
    obtain ⟨rows, hrows⟩ := hruns _ hgathers
    obtain ⟨gathered, hgathers', hall⟩ := hkeeps rows hrows
    obtain rfl := hgathers.unique hgathers'
    obtain ⟨-, -, hlegible⟩ :=
      hall _ [[some (.decimal onePointZero)], [some (.decimal onePointZeroZero)]] rfl rfl
    refine ⟨rows, hrows, fun hapart => ?_⟩
    have hsame := (hlegible (List.forall_mem_cons.mpr ⟨hsingle trivial,
      List.forall_mem_singleton.mpr (hsingle trivial)⟩)).2.2.1.mp hapart _ List.mem_cons_self _
      (List.mem_cons_of_mem _ List.mem_cons_self) (.cons rfl .nil)
    simp [onePointZero, onePointZeroZero] at hsame
  · have hpeople : staff.Returns annAndBob namesOfPeople
        [.object [("_id", .int 1), ("name", .string "Ann")],
            .object [("_id", .int 2), ("name", .string "Bob")]] :=
      ⟨_, rfl, rfl⟩
    have hgathers : staff.Gathers annAndBob namesOfPeople [namesOfPeople] _ :=
      ⟨_, _, hpeople, .cons hpeople .nil, rfl⟩
    have hnames : staff.Projects namesOfPeople ["name"] := ⟨_, _, _, rfl, rfl, rfl⟩
    obtain ⟨hruns, hkeeps⟩ := unite_keeps_distinct (q := namesOfPeople) ⟨⟨rfl, rfl, rfl⟩, rfl⟩
      hnames (by decide) [namesOfPeople] annAndBob
    obtain ⟨rows, hrows⟩ := hruns _ hgathers
    obtain ⟨gathered, hgathers', hall⟩ := hkeeps rows hrows
    obtain rfl := hgathers.unique hgathers'
    obtain ⟨-, -, hlegible⟩ := hall _ [[some (.string "Ann")], [some (.string "Bob")],
      [some (.string "Ann")], [some (.string "Bob")]] rfl rfl
    have htexts : ∀ {p : List (Option Value) → Prop}, (∀ s, p [some (.string s)]) →
      ∀ t ∈ [[some (.string "Ann")], [some (.string "Bob")], [some (.string "Ann")],
      [some (.string "Bob")]], p t := fun hp => by simp [hp]
    exact ⟨rows, hrows, (hlegible (htexts fun s => hsingle trivial)).2.2.2 (htexts fun s =>
      hsingle trivial)⟩

end Compiler

end DocQuery
