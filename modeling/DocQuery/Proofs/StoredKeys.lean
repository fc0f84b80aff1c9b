import DocQuery.Proofs.DistinctRows
import DocQuery.Proofs.Literals
import DocQuery.Proofs.NullFilters
import DocQuery.Proofs.ShownColumns
import DocQuery.Proofs.ValueOrder
import DocQuery.Schema.Check
set_option autoImplicit false

/-!
# Proofs: stored keys and the keys of joined documents

A filter can ask for a foreign key in two ways:  for the key that the document stores, and for
the key field of the document that it refers to.  The first way reads a column, the second one
joins the other document.  In a store where every stored key is that of exactly one document,
both ways return the same rows.
-/

namespace DocQuery

open Value

/-! ## Keys -/

/-- Whether a field is a foreign key that stores what the documents of a model hold in a field,
both of one exact kind. -/
structure Schema.StoresKey (s : Schema) (f : Field) (t : Model) (k : Field)
    (kind : ScalarKind) : Prop where
  refers : ∃ target key storedAs, f.kind = .foreignKey target key storedAs ∧
    s.model? target = some t ∧ t.field? (key.getD Compiler.usualKey) = some k ∧
    FieldKind.keyKind storedAs = kind
  scalar : k.kind = .scalar kind
  exact : kind.isExact = true

namespace Schema.StoresKey

variable {s : Schema} {f k : Field} {t : Model} {kind : ScalarKind}

theorem mem (h : s.StoresKey f t k kind) : t ∈ s.models ∧ k ∈ t.fields := by
  obtain ⟨_, _, _, -, ht, hk, -⟩ := h.refers
  exact ⟨List.mem_of_find?_eq_some ht, List.mem_of_find?_eq_some hk⟩

theorem ofField (h : s.StoresKey f t k kind) : ValueType.ofField f.kind = .scalar kind := by
  obtain ⟨_, _, _, hkind, -, -, rfl⟩ := h.refers
  rw [hkind]
  rfl

theorem types_eq (h : s.StoresKey f t k kind) : f.kind.storageType = k.kind.storageType := by
  obtain ⟨_, _, _, hkind, -, -, rfl⟩ := h.refers
  rw [hkind, h.scalar]
  rfl

end Schema.StoresKey

theorem Schema.items?_of_conforms {s : Schema} {model : String} {doc : Value}
    (h : s.conforms (.embedded model) doc = true) : doc.items? = none := by
  rcases fields_of_conforms h with rfl | ⟨fields, rfl⟩ <;> rfl

/-- Whether documents refer, along a link, to documents with keys: each of those has one, no two
have equal ones, and every key that is stored is that of one of them. -/
structure Store.RefersAlong (store : Store) (link : Link) (docs : List Value) : Prop where
  keyed : ∀ doc ∈ store.collection link.collection, (columnOf (some doc) link.key).isSome = true
  unique : (store.collection link.collection).Pairwise fun a b =>
    ∀ v ∈ columnOf (some a) link.key, ∀ w ∈ columnOf (some b) link.key, v.compare w ≠ .eq
  matched : ∀ doc ∈ docs, ∀ v ∈ columnOf (some doc) link.column,
    ∃ target ∈ store.collection link.collection, matchesKey v link.key target = true

theorem matchesKey_iff {v : Value} {key : String} {doc : Value} :
    matchesKey v key doc = true ↔ ∃ w, columnOf (some doc) key = some w ∧
        v.compare w = .eq := by
  simp [matchesKey, Option.any_eq_true]

/-! ## Equal values -/

namespace Value

theorem hasDecimals_of_isOfKind {kind : ScalarKind} {v : Value} (hexact : kind.isExact = true)
    (h : v.isOfKind kind = true) : v.HasDecimals := by
  cases kind <;> cases v <;> trivial

/-- Equal values of an exact kind have the same place among all values of the kind. -/
theorem compare_congr {kind : ScalarKind} {v w u : Value} (hexact : kind.isExact = true)
    (hv : v.isOfKind kind = true) (hw : w.isOfKind kind = true) (hu : u.isOfKind kind = true)
    (h : v.compare w = .eq) : v.compare u = w.compare u :=
  (compare_chains v w u (hasDecimals_of_isOfKind hexact hv) (hasDecimals_of_isOfKind hexact hw)
    (hasDecimals_of_isOfKind hexact hu)).1 h

/-- A value that is there is brought to a kind as a value of the kind. -/
theorem isOfKind_of_ofKind? {kind : ScalarKind} {v u : Value} (hnull : v.isNull = false)
    (h : v.ofKind? kind = some u) : u.isOfKind kind = true := by
  cases kind <;> cases v <;> simp_all [isNull, ofKind?] <;> grind [isOfKind, isNull]

end Value

namespace Lookup

variable {l : Lookup} {kind : ScalarKind}

/-- Comparisons do not tell equal values apart. -/
theorem holdsOf_congr (hexact : kind.isExact = true) (hl : l.isComparison = true)
    {u v w : Value}
    (hfits : l.fits kind u = true) (hv : v.isOfKind kind = true) (hw : w.isOfKind kind = true)
    (h : v.compare w = .eq) : l.holdsOf u (some v) = l.holdsOf u (some w) := by
  have hsame : ∀ x, x.isOfKind kind = true → v.compare x = w.compare x :=
    fun x hx => compare_congr hexact hv hw hx h
  cases l with
  | exact => simp only [holdsOf, Option.any_some, hsame u hfits]
  | gt => simp only [holdsOf, Option.any_some, hsame u hfits]
  | gte => simp only [holdsOf, Option.any_some, hsame u hfits]
  | lt => simp only [holdsOf, Option.any_some, hsame u hfits]
  | lte => simp only [holdsOf, Option.any_some, hsame u hfits]
  | «in» =>
    obtain ⟨items, rfl, hitems⟩ := exists_items_of_any hfits
    simp only [holdsOf, Option.any_some]
    rw [Bool.eq_iff_iff, List.any_eq_true, List.any_eq_true]
    exact exists_congr fun x => and_congr_right fun hx => by rw [hsame x (hitems x hx)]
  | _ => simp [isComparison] at hl

theorem exists_of_mem_mapM {α β : Type} {f : α → Option β} {as : List α} {bs : List β}
    (h : as.mapM f = some bs) {b : β} (hb : b ∈ bs) : ∃ a ∈ as, f a = some b := by
  induction as generalizing bs with
  | nil =>
    obtain rfl := Option.some.inj h
    simp at hb
  | cons a rest ih =>
    rw [List.mapM_cons] at h
    obtain ⟨first, hfirst, h⟩ := Option.bind_eq_some_iff.mp h
    obtain ⟨others, hothers, h⟩ := Option.bind_eq_some_iff.mp h
    obtain rfl := Option.some.inj h
    rcases List.mem_cons.mp hb with rfl | hb
    · exact ⟨a, List.mem_cons_self, hfirst⟩
    · obtain ⟨x, hx, hxb⟩ := ih hothers hb
      exact ⟨x, List.mem_cons_of_mem a hx, hxb⟩

/-- A literal that a comparison takes, and that has no nulls, is brought to a literal of the
kind, which is prepared in the same way. -/
theorem exists_fits_of_literal (hexact : kind.isExact = true)
    (hl : l.isComparison = true) {v w : Value}
    (hnull : v.isNull = false) (hitems : ∀ item ∈ v.listed, item.isNull = false)
    (h : l.literal (some kind) v = .ok w) :
    ∃ u, l.fits kind u = true ∧ l.literal (some kind) u = .ok w := by
  have hcomparing : l ∈ comparing := by cases l <;> simp_all [isComparison, comparing]
  obtain ⟨u, hu, rfl⟩ := exists_prepared_of_literal hcomparing h
  have hscalar : l.arity = .single → v.ofKind? kind = some u → u.isOfKind kind = true ∧
      l.literal (some kind) u = .ok u.protect := by
    intro harity hkind
    have hof := isOfKind_of_ofKind? hnull hkind
    exact ⟨hof, by simp only [literal, harity, l.scalarLiteral_of_isOfKind hexact (.inr hof)]⟩
  cases l with
  | exact => exact ⟨u, hscalar rfl hu⟩
  | gt => exact ⟨u, hscalar rfl hu⟩
  | gte => exact ⟨u, hscalar rfl hu⟩
  | lt => exact ⟨u, hscalar rfl hu⟩
  | lte => exact ⟨u, hscalar rfl hu⟩
  | «in» =>
    cases v with
    | array items =>
      obtain ⟨us, hus, rfl⟩ := Option.map_eq_some_iff.mp hu
      have hof : ∀ x ∈ us, x.isOfKind kind = true := by
        intro x hx
        obtain ⟨item, hitem, hkind⟩ := exists_of_mem_mapM hus hx
        exact isOfKind_of_ofKind? (hitems item hitem) hkind
      exact ⟨.array us, by simpa [fits, items?] using hof,
        Lookup.in.listLiteral_of_isOfKind hexact fun x hx => .inr (hof x hx)⟩
    | _ => simp [prepared?, arity] at hu
  | _ => simp [isComparison] at hl

end Lookup

/-! ## Projections -/

namespace Stage

/-- A projection to plain fields does not show a field that was set under another name. -/
theorem projection_setPath {fields : Document} {joined : String}
    (hmarked : ∀ member ∈ fields, member.2 = .int 1)
    (hexclusion : isExclusion fields = false)
    (hplain : ∀ name ∈ fields.names, '.' ∉ name.toList)
    (hdots : '.' ∉ joined.toList) (hnew : joined ∉ fields.names) (hid : joined ≠ "_id")
    (doc : Document) (v : Value) :
    projection fields [] ((Value.object doc).setPath joined v) =
        projection fields [] (.object doc) := by
  have hread : ∀ name ∈ fields.names,
      ((Value.object doc).setPath joined v).getPath name = (Value.object doc).getPath name := by
    intro name hname
    have hne : joined ≠ name := fun heq => hnew (heq ▸ hname)
    rw [setPath_of_plain hdots, getPath_of_plain (hplain name hname),
      getPath_of_plain (hplain name hname), Document.value?_insert_ne _ v hne]
    rfl
  have hshown : ∀ output, projected ⟨(Value.object doc).setPath joined v, []⟩ output fields =
      projected ⟨.object doc, []⟩ output fields := by
    clear hexclusion hplain hnew
    induction fields with
    | nil => exact fun _ => rfl
    | cons member rest ih =>
      obtain ⟨name, flag⟩ := member
      obtain ⟨rfl, hrest⟩ := List.forall_mem_cons.mp hmarked
      obtain ⟨hfirst, hothers⟩ := List.forall_mem_cons.mp hread
      intro output
      have htrue : (Value.int 1).isTruthy = true := by decide
      simp only [projected, isFlag, htrue, if_true, hfirst]
      cases (Value.object doc).getPath name with
      | none => exact ih hrest hothers output
      | some w => exact ih hrest hothers (Document.insert output name w)
  have hidentity : ((Value.object doc).setPath joined v).field? "_id" =
      (Value.object doc).field? "_id" :=
    Hop.field?_setPath_alias hdots (Ne.symm hid) _ v
  simp only [projection, hexclusion, Bool.false_eq_true, if_false, hidentity, hshown]

/-- A condition that decides a property selects the documents that have it. -/
theorem runAll_selectExpr_project {store : Store} {e : Value} {p : Value → Bool}
    {fields : Document} {docs : List Value} (h : ∀ doc ∈ docs, Decides ⟨doc, []⟩ e (p doc)) :
    runAll store [selectExpr e, .project fields] [] docs =
        each (projection fields []) (docs.filter p) := by
  simp only [runAll, selectExpr, run, selected_of_decides h]
  cases each (projection fields []) (docs.filter p) <;> rfl

theorem each_filterMap {α : Type} {step : Value → Except ExecError α}
    {change : Value → Option Value}
    {docs : List Value} (h : ∀ doc ∈ docs, ∃ row, change doc = some row ∧ step row = step doc) :
    each step (docs.filterMap change) = each step docs := by
  induction docs with
  | nil => rfl
  | cons doc rest ih =>
    obtain ⟨⟨row, hrow, hsame⟩, hrest⟩ := List.forall_mem_cons.mp h
    rw [List.filterMap_cons_some hrow]
    simp only [each, hsame, ih hrest]

end Stage

/-! ## Compiled filters -/

namespace Compiler

variable {c : Compiler} {ctx ctx' : Context} {path behind : String}

/-- Behind a value of an exact kind, the name of a lookup is the lookup. -/
theorem follow_lookup {a : Access} {kind : ScalarKind} (htype : a.type = .scalar kind)
    (hexact : kind.isExact = true)
    {last : String} {l : Lookup} (hlast : Lookup.ofName? last = some l) (joins : List Nat) :
    c.follow path (.value a) [last] joins ctx = (.ok ⟨a, some l, joins⟩, ctx) := by
  have hlength : last ≠ lengthName := by
    rintro rfl
    simp [lengthName, Lookup.ofName?] at hlast
  have hstep : c.step a last true = .ok (.lookup l) := by
    cases kind with
    | json => simp [ScalarKind.isExact] at hexact
    | _ => simp [step, htype, hlength, lookupOr, terminalLookup?, hlast]
  simp [follow, hstep]

section StoredKeys

variable {m t : Model} {f k : Field} {kind : ScalarKind} {l : Lookup}
  {relation name last : String}

/-- The join from documents of a model to those that a foreign key refers to, where it is the
first one. -/
def firstJoin (m : Model) (f : Field) (t : Model) (k : Field) : Join :=
    (Context.ofModel m).newJoin none f t k

/-- The context in which a foreign key is joined, and nothing else was done. -/
def joinedOnce (m : Model) (relation : String) (f : Field) (t : Model) (k : Field) : Context :=
  { Context.ofModel m with joins := [(relation, firstJoin m f t k)] }

variable (hf : m.field? relation = some f) (hkey : c.schema.StoresKey f t k kind)
  (hlast : Lookup.ofName? last = some l)
include hf hkey hlast

/-- A foreign key and a lookup are read from the column that stores the key. -/
theorem resolveLookup_storedKey (hread : readsStoredKey t [last] = true)
    (hpath : Text.segments path = [relation, last]) {r : Resolved}
    (h : c.resolveLookup (.ofModel m) path = (.ok r, ctx')) :
    r = ⟨.column none f.column (.scalar kind), l, []⟩ ∧ ctx' = .ofModel m ∧
      relation ≠ "" ∧ last ≠ "" ∧ (Lookup.allowed (.scalar kind)).contains l = true := by
  obtain ⟨e, hfollow, hcompared⟩ := resolveLookup_ok h
  obtain ⟨first, rest, hnames, hempty, hstart⟩ := followPath_ok hfollow
  obtain ⟨rfl, rfl⟩ := List.cons.inj (hpath.symm.trans hnames)
  obtain ⟨target, key, storedAs, hkind, ht, -, -⟩ := hkey.refers
  have hstays : c.schema.staysInside f [last] = true := by
    simp [Schema.staysInside, hkind, ht, hread]
  have hend : c.follow path (.value (.column none f.column (.scalar kind))) [last] []
    (.ofModel m) = (.ok ⟨.column none f.column (.scalar kind), some l, []⟩, .ofModel m) :=
    follow_lookup rfl hkey.exact hlast []
  have hmodel : (Context.ofModel m).model = m := rfl
  rcases hstart with ⟨type, hcomputed, -⟩ | ⟨-, hstart⟩
  · simp [Context.computedType?, Context.ofModel, Context.findType] at hcomputed
  · rw [hmodel, follow_stays hf hstays, hkey.ofField, hend] at hstart
    obtain ⟨he, rfl⟩ := Prod.mk.inj hstart
    obtain rfl := Except.ok.inj he
    obtain ⟨rfl, hallowed⟩ := compared_ok hcompared
    simp only [List.mem_cons, not_or] at hempty
    exact ⟨rfl, rfl, Ne.symm hempty.1, Ne.symm hempty.2.1, hallowed⟩

/-- The key field behind a foreign key is read from the document that is joined. -/
theorem resolveLookup_joinedKey (hk : t.field? name = some k)
    (hbehind : Text.segments behind = [relation, name, last])
    (hempty : "" ∉ [relation, name, last])
    (hallowed : (Lookup.allowed (.scalar kind)).contains l = true) :
    c.resolveLookup (.ofModel m) behind =
      (.ok ⟨.column (some (firstJoin m f t k).joined) k.column (.scalar kind), l, [0]⟩,
        joinedOnce m relation f t k) := by
  obtain ⟨target, key, storedAs, hkind, ht, hkeyField, -⟩ := hkey.refers
  have hleaves : readsStoredKey t [name, last] = false := by simp [readsStoredKey, hk]
  have hjoin : (Context.ofModel m).join relation none f t k =
      (((firstJoin m f t k).joined, 0), joinedOnce m relation f t k) := rfl
  have hend : c.follow behind (.document t (some (firstJoin m f t k).joined) relation)
    [name, last] [0] (joinedOnce m relation f t k) =
      (.ok ⟨.column (some (firstJoin m f t k).joined) k.column (.scalar kind), some l, [0]⟩,
        joinedOnce m relation f t k) := by
    rw [follow_stays hk (by simp [Schema.staysInside, hkey.scalar]), hkey.scalar]
    exact follow_lookup rfl hkey.exact hlast [0]
  have hpath : c.followPath (.ofModel m) behind =
      (.ok ⟨.column (some (firstJoin m f t k).joined) k.column (.scalar kind), some l, [0]⟩,
        joinedOnce m relation f t k) := by
    have hfull : [relation, name, last].contains "" = false := by simpa using hempty
    have hmodel : (Context.ofModel m).model = m := rfl
    have hnone : (Context.ofModel m).computedType? relation = none := rfl
    have hrelation : relationPath "" relation = relation := rfl
    simp only [followPath, hbehind, hfull, Bool.false_eq_true, if_false, List.headD_cons,
      hnone, hmodel]
    rw [follow]
    simp only [hf, hkind, modelOf, ht, hleaves, Bool.false_eq_true, if_false, hkeyField,
      hrelation, hjoin, List.nil_append, hend]
  simp only [resolveLookup, hpath, compared, Option.getD_some, Access.type, hallowed, if_true]

/-- So the same comparison is made, with the same prepared literal, on two columns. -/
theorem compileFilter_joinedKey (hl : l.isComparison = true)
    (hread : readsStoredKey t [last] = true)
    (hpath : Text.segments path = [relation, last]) (hk : t.field? name = some k)
    (hbehind : Text.segments behind = [relation, name, last]) (hname : name ≠ "")
    {operand : Expr} {v e : Value}
    (hconstant : operand.constant? = some v)
    (h : c.compileFilter (.ofModel m) (.lookup path operand) = .ok (e, ctx')) :
    ∃ w, l.literal (some kind) v = .ok w ∧ ctx' = .ofModel m ∧
      e = l.build (Access.column none f.column (.scalar kind)).render w ∧
      c.compileFilter (.ofModel m) (.lookup behind operand) =
        .ok (l.build (Access.column (some (firstJoin m f t k).joined) k.column
          (.scalar kind)).render w, joinedOnce m relation f t k) := by
  obtain ⟨prepare, hliteral, hcompile⟩ := exists_prepare hconstant
  rw [hcompile] at h
  obtain ⟨r, after, w, hr, hw, hbuild⟩ := lookupWith_ok h
  obtain ⟨rfl, rfl, hrelation, hend, hallowed⟩ := resolveLookup_storedKey hf hkey hlast
    hread hpath hr
  obtain ⟨-, -, hisnull⟩ := Lookup.ne_of_isComparison hl
  have hempty : "" ∉ [relation, name, last] := by
    simp [Ne.symm hrelation, Ne.symm hname, Ne.symm hend]
  have hprepared : prepare l (some kind) = .ok w ∧ ctx' = .ofModel m := by
    cases hu : prepare l (some kind) with
    | error err => simp [Access.type, ValueType.scalar?, hu, Except.map] at hw
    | ok u =>
      simp only [Access.type, ValueType.scalar?, hu, Except.map, noteLookup, hisnull, if_false,
        Except.ok.injEq, Prod.mk.injEq] at hw
      exact ⟨by rw [hw.1], hw.2.symm⟩
  obtain ⟨hprepared, rfl⟩ := hprepared
  refine ⟨w, hliteral l _ w hprepared, rfl, ?_, ?_⟩
  · simpa [Lookup.buildOn, Access.type, ValueType.isMapped] using hbuild.symm
  · rw [hcompile, lookupWith, resolveLookup_joinedKey hf hkey hlast hk hbehind hempty hallowed]
    simp only [Access.type, ValueType.scalar?, hprepared, Except.map, noteLookup, hisnull,
      if_false, Lookup.buildOn, ValueType.isMapped, Bool.false_eq_true]

end StoredKeys

/-! ## The first join -/

section Joins

variable {m t : Model} {f k : Field} (hplain : c.schema.hasPlainCollections = true)
  (hm : m ∈ c.schema.models)
  (ht : t ∈ c.schema.models)
include hplain hm ht

/-- The step along a foreign key that the first join makes. -/
def firstHop (m : Model) (relation : String) (f : Field) (t : Model) (k : Field) : Hop where
  names := [relation]
  front := []
  link := ⟨f.column, t.collection, k.column⟩
  parent := none
  joined := (firstJoin m f t k).joined
  types := (f.kind.storageType, k.kind.storageType)

omit hplain hm ht in
theorem firstHop_describes (m : Model) (relation : String) (f : Field) (t : Model) (k : Field) :
    (firstHop m relation f t k).Describes (relation, firstJoin m f t k) :=
  ⟨rfl, rfl, rfl, rfl, rfl⟩

/-- Its names can stand in paths, if those of the schema can. -/
theorem firstHop_isPlain (hf : f ∈ m.fields) (hk : k ∈ t.fields) (relation : String) :
    (firstHop m relation f t k).IsPlain := by
  obtain ⟨hdots, hdollars, hkeys⟩ := Schema.plain_of_hasPlainCollections hplain ht
  refine ⟨(Schema.plain_of_hasPlainCollections hplain hm).2.2 f hf, hkeys k hk, ⟨?_, ?_⟩,
    fun name hname => ?_⟩
  · exact Context.notMem_freshAlias (by decide) (by decide) hdots
  · exact Context.notMem_freshAlias (by decide) (by decide) hdollars
  · cases hname

/-- The projection to the columns of a model does not show what is set under the alias of the
first join. -/
theorem projection_allColumns_setPath (hid : "_id" ∈ m.columns ∨ t.collection ≠ "_id")
    (hshown : ∃ column ∈ m.columns, column ≠ "_id") (fields : Document) (v : Value) :
    Stage.projection (projectionOf (allColumns m [])) [] ((Value.object fields).setPath
      (firstJoin m f t k).joined v) = Stage.projection (projectionOf (allColumns m [])) []
      (.object fields) := by
  have htruthy : ∀ column ∈ allColumns m [], column.2.isTruthy = true :=
    List.forall_mem_map.mpr fun name _ => rfl
  have hmembers := (projectionOf_shown htruthy).2
  have hexclusion : Stage.isExclusion (projectionOf (allColumns m [])) = false := by
    rw [Bool.eq_false_iff, ne_eq, Stage.isExclusion_iff_of_truthy hmembers]
    rintro ⟨-, hall⟩
    obtain ⟨column, hcolumn, hother⟩ := hshown
    exact hother (hall column (mem_names_projectionOf_allColumns.mpr hcolumn))
  have hdots : '.' ∉ (firstJoin m f t k).joined.toList :=
    Context.notMem_freshAlias (by decide) (by decide)
      (Schema.plain_of_hasPlainCollections hplain ht).1
  have hnew : (firstJoin m f t k).joined ∉ m.columns :=
    ((Context.joinsHops_ofModel c.schema m).freshAlias_new t.collection).1
  have hidentity : (firstJoin m f t k).joined ≠ "_id" := by
    rcases hid with hcolumn | hcollection
    · exact fun heq => hnew (heq ▸ hcolumn)
    · exact Context.freshAlias_ne_id _ hcollection
  have hpaths : ∀ name ∈ (projectionOf (allColumns m [])).names, '.' ∉ name.toList := by
    intro name hname
    obtain ⟨g, hg, rfl⟩ := List.mem_map.mp (mem_names_projectionOf_allColumns.mp hname)
    exact ((Schema.plain_of_hasPlainCollections hplain hm).2.2 g hg).1
  exact Stage.projection_setPath (projectionOf_allColumns m) hexclusion hpaths hdots
    (fun hmem => hnew (mem_names_projectionOf_allColumns.mp hmem)) hidentity fields v

end Joins

/-! ## Rows -/

theorem isOfKind_columnOf {model : String} {m : Model} {f : Field} {kind : ScalarKind}
    {doc v : Value}
    (hm : c.schema.model? model = some m) (hf : f ∈ m.fields)
    (htype : ValueType.ofField f.kind = .scalar kind)
    (hdoc : c.schema.conforms (.embedded model) doc = true)
    (hv : columnOf (some doc) f.column = some v) :
    v.isOfKind kind = true := by
  have hconforms := Schema.conforms_columnOf hm hf (fun u hu => Option.some.inj hu ▸ hdoc) hv
  rw [htype] at hconforms
  have hnull := isNull_of_present hv
  cases v <;> simp_all [Schema.conforms, isNull]

section Rows

variable {m t : Model} {f k : Field} {kind : ScalarKind} {l : Lookup} {relation : String}
  {store : Store}
  {u w doc row : Value}

/-- A comparison with the stored key is decided by a condition on its column. -/
theorem storedKey_decides (hcolumn : '.' ∉ f.column.toList ∧ '$' ∉ f.column.toList)
    (hexact : kind.isExact = true)
    (hl : l.isComparison = true) (hfits : l.fits kind u = true)
    (hliteral : l.literal (some kind) u = .ok w)
    (hdoc : doc.items? = none) :
    Decides ⟨doc, []⟩ (l.build (Access.column none f.column (.scalar kind)).render w)
      (l.holdsOf u (columnOf (some doc) f.column)) := by
  obtain ⟨hall, hcontained, -⟩ := Lookup.ne_of_isComparison hl
  exact Lookup.decides_build hexact hfits hall hcontained hliteral rfl (Hop.eval_parentPath_none
    hcolumn hdoc [])

/-- A document with a stored key finds the document with that key. -/
theorem exists_found
    (hrefers : store.RefersAlong ⟨f.column, t.collection, k.column⟩
      (store.collection m.collection))
    (hdoc : doc ∈ store.collection m.collection) {v : Value}
    (hv : columnOf (some doc) f.column = some v)
    (relation : String) :
    ∃ target ∈ store.collection t.collection, (firstHop m relation f t k).found? store
      doc = some target ∧ matchesKey v k.column target = true := by
  obtain ⟨d, hd, hmatch⟩ := hrefers.matched doc hdoc v hv
  obtain ⟨target, hfind⟩ := Option.isSome_iff_exists.mp (List.find?_isSome.mpr ⟨d, hd, hmatch⟩)
  refine ⟨target, List.mem_of_find?_eq_some hfind, ?_, List.find?_some hfind⟩
  rw [Hop.found?_eq]
  exact (congrArg (Option.bind · _) hv).trans hfind

/-- A document of whose stored key a comparison holds is joined with another one. -/
theorem exists_joined_of_holdsOf
    (hrefers : store.RefersAlong ⟨f.column, t.collection, k.column⟩
      (store.collection m.collection))
    (hl : l.isComparison = true) (hdoc : doc ∈ store.collection m.collection)
    (h : l.holdsOf u (columnOf (some doc) f.column) = true) (relation : String)
    (joinKind : JoinKind) :
    ∃ fields target, doc = .object fields ∧ (firstHop m relation f t k).attach store
      joinKind doc = some (doc.setPath (firstJoin m f t k).joined target) := by
  cases hv : columnOf (some doc) f.column with
  | none => simp [hv, Lookup.holdsOf_none hl] at h
  | some v =>
    obtain ⟨target, -, hfound, -⟩ := exists_found hrefers hdoc hv relation
    obtain ⟨fields, rfl⟩ : ∃ fields, doc = .object fields := by
      cases doc with
      | object fields => exact ⟨fields, rfl⟩
      | _ => simp [columnOf, field?] at hv
    exact ⟨fields, target, rfl, by simp only [Hop.attach, hfound]; rfl⟩

variable {model : String} (hm : c.schema.model? model = some m)
  (hf : m.field? relation = some f)
  (hkey : c.schema.StoresKey f t k kind)
  (hroots : ∀ doc ∈ store.collection m.collection, c.schema.conforms (.embedded model) doc =
    true)
  (htargets : ∀ doc ∈ store.collection t.collection, c.schema.conforms (.embedded t.name) doc =
    true)
include hm hf hkey hroots htargets

/-- A stored key and the keys of the documents that it may refer to are of one kind. -/
theorem storedKey_isOfKind :
    (∀ doc ∈ store.collection m.collection, ∀ v ∈ columnOf (some doc) f.column,
      v.isOfKind kind = true) ∧ ∀ doc ∈ store.collection t.collection,
      ∀ v ∈ columnOf (some doc) k.column, v.isOfKind kind = true := by
  constructor
  · intro doc hdoc v hv
    exact isOfKind_columnOf hm (List.mem_of_find?_eq_some hf) hkey.ofField (hroots doc hdoc) hv
  · intro doc hdoc v hv
    obtain ⟨target, key, storedAs, -, ht, hk, -⟩ := hkey.refers
    have hname : t.name = target := by simpa using List.find?_some ht
    exact isOfKind_columnOf ht (List.mem_of_find?_eq_some hk)
      (congrArg ValueType.ofField hkey.scalar) (hname ▸ htargets doc hdoc) hv

variable (hrefers : store.RefersAlong ⟨f.column, t.collection, k.column⟩
    (store.collection m.collection))
include hrefers

/-- No stored key is equal to the keys of two documents. -/
theorem storedKey_isKeyed :
    Link.IsKeyed ⟨f.column, t.collection, k.column⟩ store (store.collection m.collection) := by
  obtain ⟨hstored, hkeys⟩ := storedKey_isOfKind hm hf hkey hroots htargets
  refine ⟨hrefers.keyed, fun doc hdoc v hv => hrefers.unique.imp_of_mem fun {a b} ha hb hne =>
    ?_⟩
  rintro ⟨hva, hvb⟩
  obtain ⟨x, hx, hvx⟩ := matchesKey_iff.mp hva
  obtain ⟨y, hy, hvy⟩ := matchesKey_iff.mp hvb
  have hsame := compare_congr hkey.exact (hstored doc hdoc v hv) (hkeys a ha x hx)
    (hkeys b hb y hy) hvx
  exact hne x hx y hy (hsame.symm.trans hvy)

/-- A comparison holds of the key of the document that is found if it holds of the stored
key. -/
theorem holdsOf_foundKey (hl : l.isComparison = true) (hfits : l.fits kind u = true)
    (hdoc : doc ∈ store.collection m.collection) :
    l.holdsOf u (columnOf ((firstHop m relation f t k).found? store doc) k.column) =
      l.holdsOf u (columnOf (some doc) f.column) := by
  obtain ⟨hstored, hkeys⟩ := storedKey_isOfKind hm hf hkey hroots htargets
  cases hv : columnOf (some doc) f.column with
  | none =>
    have hnone : (firstHop m relation f t k).found? store doc = none := by
      rw [Hop.found?_eq]
      exact congrArg (Option.bind · _) hv
    rw [hnone]
    rfl
  | some v =>
    obtain ⟨target, htarget, hfound, hmatch⟩ := exists_found hrefers hdoc hv relation
    obtain ⟨x, hx, hsame⟩ := matchesKey_iff.mp hmatch
    rw [hfound, hx]
    exact (Lookup.holdsOf_congr hkey.exact hl hfits (hstored doc hdoc v hv)
      (hkeys target htarget x hx) hsame).symm

/-- So a condition on the key field of the joined document decides the comparison with the
stored key. -/
theorem joinedKey_decides (hplain : (firstHop m relation f t k).IsPlain)
    (hl : l.isComparison = true)
    (hfits : l.fits kind u = true) (hliteral : l.literal (some kind) u = .ok w)
    (hdoc : doc ∈ store.collection m.collection) {joinKind : JoinKind}
    (hrow : (firstHop m relation f t k).attach store joinKind doc = some row) :
    Decides ⟨row, []⟩ (l.build (Access.column (some (firstJoin m f t k).joined) k.column
      (.scalar kind)).render w) (l.holdsOf u (columnOf (some doc) f.column)) := by
  have hkeyed := storedKey_isKeyed hm hf hkey hroots htargets hrefers
  obtain ⟨v, rfl, hitems, hfound⟩ := Hop.exists_of_attach hkeyed hrow
  have hfield : (doc.setPath (firstJoin m f t k).joined v).field?
      (firstJoin m f t k).joined = some v :=
    field?_setPath_self hplain.joined.1 doc v
  have hnames : ∀ name, some (firstJoin m f t k).joined = some name → '.' ∉ name.toList ∧
      '$' ∉ name.toList :=
    fun name hname => Option.some.inj hname ▸ hplain.joined
  obtain ⟨x, hx, hpresent⟩ := Hop.eval_parentPath hplain.key hnames ⟨v, hfield, hitems⟩ []
  obtain ⟨hall, hcontained, -⟩ := Lookup.ne_of_isComparison hl
  have hdecides := Lookup.decides_build hkey.exact hfits hall hcontained hliteral rfl hx
  rw [hpresent, Hop.documentAt, hfield, hfound] at hdecides
  exact holdsOf_foundKey hm hf hkey hroots htargets hrefers hl hfits hdoc ▸ hdecides

/-- Joined with the documents that they refer to, the documents are selected and shown as they
are without them. -/
theorem runAll_joinedKey (hplain : c.schema.hasPlainCollections = true)
    (hconfig : '.' ∉ c.config.parentPrefix.toList)
    (hid : "_id" ∈ m.columns ∨ t.collection ≠ "_id")
    (hshown : ∃ column ∈ m.columns, column ≠ "_id")
    (hl : l.isComparison = true) (hfits : l.fits kind u = true)
    (hliteral : l.literal (some kind) u = .ok w) :
    Stage.runAll store ((joinedOnce m relation f t k).prerequisites c.config ++
      [Stage.selectExpr (l.build (Access.column (some (firstJoin m f t k).joined) k.column
        (.scalar kind)).render w), .project (projectionOf (allColumns m []))]) []
      (store.collection m.collection) =
      Stage.each (Stage.projection (projectionOf (allColumns m [])) [])
      ((store.collection m.collection).filter fun doc =>
        l.holdsOf u (columnOf (some doc) f.column)) := by
  have hmem : m ∈ c.schema.models := List.mem_of_find?_eq_some hm
  obtain ⟨htarget, hkeyField⟩ := hkey.mem
  have hhop := firstHop_isPlain hplain hmem htarget (List.mem_of_find?_eq_some hf)
    hkeyField relation
  have hstages : (joinedOnce m relation f t k).prerequisites c.config =
      (firstJoin m f t k).stages c.config := by
    simp [Context.prerequisites, joinedOnce, Context.ofModel]
  have hrows : ∀ doc ∈ store.collection m.collection,
      (firstHop m relation f t k).Refers (store.collection m.collection) doc := fun doc hdoc =>
    ⟨Schema.items?_of_conforms (hroots doc hdoc), fun v hv => ⟨doc, hdoc, hv⟩⟩
  have hjoins : Stage.runAll store ((firstJoin m f t k).stages c.config) [] (store.collection
    m.collection) = .ok ((store.collection m.collection).filterMap
        ((firstHop m relation f t k).attach store (firstJoin m f t k).kind)) :=
    Hop.run_stages (firstHop_describes m relation f t k) hhop hkey.types_eq
      (storedKey_isKeyed hm hf hkey hroots htargets hrefers) hconfig hrows
  have hselected : Stage.selected (.operator "$expr"
        (l.build (Access.column (some (firstJoin m f t k).joined) k.column
          (.scalar kind)).render w)) []
        ((store.collection m.collection).filterMap
          ((firstHop m relation f t k).attach store (firstJoin m f t k).kind)) =
      .ok (((store.collection m.collection).filter fun doc =>
        l.holdsOf u (columnOf (some doc) f.column)).filterMap
        ((firstHop m relation f t k).attach store (firstJoin m f t k).kind)) :=
    Stage.selected_filterMap fun doc hdoc row hrow =>
      joinedKey_decides hm hf hkey hroots htargets hrefers hhop hl hfits hliteral hdoc hrow
  rw [hstages, Stage.runAll_append, hjoins]
  simp only [Except.bind, Stage.runAll, Stage.selectExpr, Stage.run, hselected]
  -- what is selected has a document under the alias, and the projection does not show it
  rw [Stage.each_filterMap fun doc hdoc => ?_]
  · cases Stage.each _ _ <;> rfl
  · obtain ⟨hdoc, hholds⟩ := List.mem_filter.mp hdoc
    obtain ⟨fields, target, rfl, hattach⟩ :=
      exists_joined_of_holdsOf hrefers hl hdoc hholds relation (firstJoin m f t k).kind
    exact ⟨_, hattach, projection_allColumns_setPath hplain hmem htarget hid hshown
      fields target⟩

end Rows

/-! ## Queries -/

theorem queryableModel_of_compile {m : Model} {q : Query} {a : Aggregation}
    (hm : c.schema.model? q.model = some m) (h : c.compile q = .ok a) :
        c.queryableModel q.model = .ok m := by
  rw [compile_eq] at h
  obtain ⟨m', -, -, hm', -⟩ := queryWith_ok h
  obtain rfl := Option.some.inj
    (hm.symm.trans ((queryableModel_eq_ok_iff c q.model m').mp hm').1)
  exact hm'

/-- A comparison with the key that a foreign key stores returns the same rows, in the same
order, as the comparison with the key field of the document that it refers to.  The first one
reads a column and the second one joins the other document.  This needs stored keys and key
fields of one exact kind, documents as the schema declares them, and stored keys that are each
that of exactly one document.

The alias of the join must not be an `_id` that is no column, which it would replace, and the
rows must show some column besides `_id`, since a projection to nothing else shows the joined
document as well. -/
theorem compile_storedKey_agrees {model relation name last path behind : String}
    {m t : Model} {f k : Field}
    {kind : ScalarKind} {l : Lookup} {operand : Expr} {v : Value} {a : Aggregation}
    {store : Store}
    (hm : c.schema.model? model = some m) (hf : m.field? relation = some f)
    (hkey : c.schema.StoresKey f t k kind)
    (hk : t.field? name = some k) (hplain : c.schema.hasPlainCollections = true)
    (hconfig : '.' ∉ c.config.parentPrefix.toList)
    (hid : "_id" ∈ m.columns ∨ t.collection ≠ "_id")
    (hshown : ∃ column ∈ m.columns, column ≠ "_id")
    (hlast : Lookup.ofName? last = some l) (hl : l.isComparison = true)
    (hread : readsStoredKey t [last] = true)
    (hpath : Text.segments path = [relation, last])
    (hbehind : Text.segments behind = [relation, name, last])
    (hname : name ≠ "") (hconstant : operand.constant? = some v) (hnull : v.isNull = false)
    (hitems : ∀ item ∈ v.listed, item.isNull = false)
    (ha : c.compile ((Query.all model).addFilter (.lookup path operand)) = .ok a)
    (hroots : ∀ doc ∈ store.collection m.collection, c.schema.conforms (.embedded model) doc =
      true)
    (htargets : ∀ doc ∈ store.collection t.collection,
      c.schema.conforms (.embedded t.name) doc = true)
    (hrefers : store.RefersAlong ⟨f.column, t.collection, k.column⟩
      (store.collection m.collection)) :
    ∃ b rows, c.compile ((Query.all model).addFilter (.lookup behind operand)) = .ok b ∧
      store.aggregate a.collection a.pipeline = .ok rows ∧
          store.aggregate b.collection b.pipeline = .ok rows := by
  have hmem : m ∈ c.schema.models := List.mem_of_find?_eq_some hm
  obtain ⟨m', e, ctx, hm', hfilter, hcollection, hpipeline⟩ := compile_filter_ok ha
  obtain rfl := Option.some.inj (hm.symm.trans hm')
  obtain ⟨w, hliteral, rfl, rfl, hjoined⟩ :=
    compileFilter_joinedKey hf hkey hlast hl hread hpath hk hbehind hname hconstant hfilter
  obtain ⟨b, hb⟩ := compile_of_filter (queryableModel_of_compile hm ha) hjoined
  obtain ⟨m', e', ctx', hm', hfilter', hcollection', hpipeline'⟩ := compile_filter_ok hb
  obtain rfl := Option.some.inj (hm.symm.trans hm')
  obtain ⟨rfl, rfl⟩ := Prod.mk.inj (Except.ok.inj (hjoined.symm.trans hfilter'))
  obtain ⟨u, hfits, hliteral⟩ := Lookup.exists_fits_of_literal hkey.exact hl hnull
    hitems hliteral
  have hdocs : ∀ doc ∈ store.collection m.collection, doc.items? = none :=
    fun doc hdoc => Schema.items?_of_conforms (hroots doc hdoc)
  have hcolumn := (Schema.plain_of_hasPlainCollections hplain hmem).2.2 f
    (List.mem_of_find?_eq_some hf)
  obtain ⟨rows, hrows, -⟩ := Stage.each_projection_marked (projectionOf_allColumns m)
      fun doc hdoc =>
    hdocs doc (List.mem_of_mem_filter hdoc)
  refine ⟨b, rows, hb, ?_, ?_⟩
  · rw [Store.aggregate, hcollection, hpipeline, ← hrows]
    exact Stage.runAll_selectExpr_project fun doc hdoc =>
      storedKey_decides hcolumn hkey.exact hl hfits hliteral (hdocs doc hdoc)
  · rw [Store.aggregate, hcollection', hpipeline', ← hrows]
    exact runAll_joinedKey hm hf hkey hroots htargets hrefers hplain hconfig hid hshown hl
      hfits hliteral

/-- Payments with coins, which may be unknown. -/
def coinPayment : Model where
  name := "Payment"
  storedCollection := some "payments"
  embedded := false
  fields := [Model.primaryKey, ⟨"coin", .foreignKey "Coin" (some "value") (some .decimal), true,
    none⟩]

/-- Coins with a value. -/
def valuedCoin : Model where
  name := "Coin"
  storedCollection := some "coins"
  embedded := false
  fields := [Model.primaryKey, ⟨"value", .scalar .decimal, false, none⟩]

/-- Payments and coins.  A payment knows its coin by the value. -/
def mint : Compiler := ⟨⟨[coinPayment, valuedCoin]⟩, .usual⟩

/-- A payment with a coin of one, of which two zeros are stored, one with a coin of two, and one
without a coin. -/
def threePayments : Store :=
  ⟨[("payments", [.object [("_id", .int 1), ("coin_id", .decimal onePointZeroZero)],
      .object [("_id", .int 2), ("coin_id", .decimal (.ofInt64 2))],
        .object [("_id", .int 3)]]),
    ("coins", [.object [("_id", .int 1), ("value", .decimal (.ofInt64 2))],
      .object [("_id", .int 2), ("value", .decimal (.ofInt64 1))]])]⟩

/-- The payments with less than two, by the stored value and by that of the coin. -/
theorem threePayments_agree :
    ∃ a b rows,
      mint.compile ((Query.all "Payment").addFilter (.lookup "coin__lt" (.literal (.int 2)))) =
        .ok a ∧
      mint.compile ((Query.all "Payment").addFilter (.lookup "coin__value__lt"
        (.literal (.int 2)))) = .ok b ∧
      threePayments.aggregate a.collection a.pipeline = .ok rows ∧
      threePayments.aggregate b.collection b.pipeline = .ok rows ∧ rows.length = 1 := by
  obtain ⟨a, ha, hrun⟩ : ∃ a, mint.compile ((Query.all "Payment").addFilter
      (.lookup "coin__lt" (.literal (.int 2)))) = .ok a ∧
      Stage.succeedsWith (fun rows => rows.length == 1) (threePayments.aggregate a.collection
          a.pipeline) = true :=
    ⟨_, rfl, by decide +kernel⟩
  have hkey : mint.schema.StoresKey ⟨"coin", .foreignKey "Coin" (some "value") (some .decimal),
    true, none⟩ valuedCoin ⟨"value", .scalar .decimal, false, none⟩ .decimal :=
    ⟨⟨"Coin", _, _, rfl, rfl, rfl, rfl⟩, rfl, rfl⟩
  have hrefers : threePayments.RefersAlong ⟨"coin_id", "coins", "value"⟩
      (threePayments.collection "payments") :=
    ⟨by decide +kernel, by decide +kernel, by decide +kernel⟩
  have hrelation : coinPayment.field? "coin" =
      some ⟨"coin", .foreignKey "Coin" (some "value") (some .decimal), true, none⟩ := rfl
  have hvalue : valuedCoin.field? "value" = some ⟨"value", .scalar .decimal, false, none⟩ := rfl
  have hlast : Lookup.ofName? "lt" = some .lt := rfl
  have hpath : Text.segments "coin__lt" = ["coin", "lt"] := by decide +kernel
  have hbehind : Text.segments "coin__value__lt" = ["coin", "value", "lt"] := by decide +kernel
  obtain ⟨b, rows, hb, hrows, hjoined⟩ := compile_storedKey_agrees rfl hrelation hkey hvalue
    (by decide) (by decide) (.inl (by decide)) ⟨"coin_id", by decide⟩ hlast rfl (by decide)
    hpath hbehind (by decide) rfl rfl (by decide) ha
    (by decide +kernel) (by decide +kernel) hrefers
  obtain ⟨rows', hrows', hlength⟩ := Stage.exists_of_succeedsWith hrun
  obtain rfl := Except.ok.inj (hrows.symm.trans hrows')
  exact ⟨a, b, rows, ha, hb, hrows, hjoined, eq_of_beq hlength⟩

/-- The joined owner takes the place of the identity of the deed, which is no column of deeds,
so the two filters return different rows. -/
theorem oneDeed_disagrees :
    ∃ f t k a b rows others, Schema.ofModels registry.schema.models = .ok registry.schema ∧
      registry.schema.check = [] ∧ registry.schema.hasPlainCollections = true ∧
      registry.schema.model? "Deed" = some deed ∧ deed.field? "owner" = some f ∧
      registry.schema.StoresKey f t k .integer ∧ t.field? "id" = some k ∧
        readsStoredKey t ["exact"] = true ∧
      (∀ doc ∈ oneDeed.collection deed.collection, registry.schema.conforms
        (.embedded "Deed") doc = true) ∧
      (∀ doc ∈ oneDeed.collection t.collection, registry.schema.conforms
        (.embedded t.name) doc = true) ∧
      oneDeed.RefersAlong ⟨f.column, t.collection, k.column⟩ (oneDeed.collection
        deed.collection) ∧
      registry.compile ((Query.all "Deed").addFilter (.lookup "owner__exact"
        (.literal (.int 2)))) = .ok a ∧
      registry.compile ((Query.all "Deed").addFilter (.lookup "owner__id__exact"
        (.literal (.int 2)))) = .ok b ∧
      oneDeed.aggregate a.collection a.pipeline = .ok rows ∧
      oneDeed.aggregate b.collection b.pipeline = .ok others ∧ rows ≠ others := by
  obtain ⟨a, ha, hstored⟩ : ∃ a, registry.compile ((Query.all "Deed").addFilter
      (.lookup "owner__exact" (.literal (.int 2)))) = .ok a ∧
      Stage.succeedsWith (fun rows => rows.map (fun row => typeName? (row.field? "_id")) ==
        ["long"]) (oneDeed.aggregate a.collection a.pipeline) = true :=
        ⟨_, rfl, by decide +kernel⟩
  obtain ⟨b, hb, hjoined⟩ : ∃ b, registry.compile ((Query.all "Deed").addFilter
      (.lookup "owner__id__exact" (.literal (.int 2)))) = .ok b ∧
      Stage.succeedsWith (fun rows => rows.map (fun row => typeName? (row.field? "_id"))
        == ["object"]) (oneDeed.aggregate b.collection b.pipeline) = true :=
        ⟨_, rfl, by decide +kernel⟩
  obtain ⟨rows, hrows, htypes⟩ := Stage.exists_of_succeedsWith hstored
  obtain ⟨others, hothers, hotherTypes⟩ := Stage.exists_of_succeedsWith hjoined
  refine ⟨⟨"owner", .foreignKey "Owner" none none, false, none⟩,
    ⟨"Owner", some "_id", false, [Model.primaryKey, ⟨"age", .scalar .integer, false, none⟩]⟩,
      Model.primaryKey, a, b,
    rows, others, rfl, by
      decide, by decide, rfl, rfl, ⟨⟨"Owner", none, none, rfl, rfl, rfl, rfl⟩, rfl, rfl⟩, rfl,
    by
      decide, by
      decide +kernel, by
      decide +kernel, ⟨by decide +kernel, by decide +kernel, by decide +kernel⟩, ha, hb,
    hrows, hothers, ?_⟩
  rintro rfl
  have hnames : ["long"] = ["object"] := (eq_of_beq htypes).symm.trans (eq_of_beq hotherTypes)
  simp at hnames

end Compiler

end DocQuery
