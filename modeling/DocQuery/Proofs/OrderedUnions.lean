import DocQuery.Proofs.Unions
import DocQuery.Proofs.ValueOrder
set_option autoImplicit false

/-!
# Proofs: united queries in order

The rows of a union are put in order behind the stages that gather them, when only the returned
columns are left.  The keys of the order are the texts of its paths there, so a key orders by
the column of its field if this is called like the path.  Else it orders by whatever column is
called like that, and by nothing if no row has such a column.
-/

namespace DocQuery

/-- The key of an order that reads the column of the field that its path names. -/
def OrderKey.column (m : Model) (k : OrderKey) : String × Direction :=
  (((m.field? k.path).map Field.column).getD k.path, Compiler.directionOf k)

namespace Stage

/-! ## Keys that no document holds -/

theorem sorted_congr {keys others : List (String × Direction)} {docs : List Value}
    (h : ∀ a ∈ docs, ∀ b ∈ docs, compareBy a b keys = compareBy a b others) :
        sorted keys docs = sorted others docs := by
  have hmap : (docs.mergeSort fun a b => compareBy a b keys != .gt).map id =
      (docs.map id).mergeSort fun a b => compareBy a b others != .gt :=
    List.map_mergeSort fun a ha b hb => by simp only [h a ha b hb, id]
  rw [List.map_id, List.map_id] at hmap
  exact hmap

/-- What no document holds does not order the documents. -/
theorem sorted_filter {p : String × Direction → Bool} {keys : List (String × Direction)}
    {docs : List Value} (h : ∀ k ∈ keys, p k = false → ∀ doc ∈ docs, doc.getPath k.1 = none) :
    sorted (keys.filter p) docs = sorted keys docs := by
  refine sorted_congr fun a ha b hb => ?_
  induction keys with
  | nil => rfl
  | cons k rest ih =>
    obtain ⟨key, direction⟩ := k
    obtain ⟨hkey, hrest⟩ := List.forall_mem_cons.mp h
    cases hp : p (key, direction) with
    | true => rw [List.filter_cons_of_pos hp, compareBy, compareBy, ih hrest]
    | false =>
      rw [List.filter_cons_of_neg (by simp [hp]), compareBy, hkey hp a ha,
        hkey hp b hb, ih hrest]
      cases direction <;> rfl

end Stage

theorem window_sublist (offset limit : Option Nat) (docs : List Value) :
    (window offset limit docs).Sublist docs := by
  cases limit with
  | none => exact List.drop_sublist _ docs
  | some n => exact (List.take_sublist n _).trans (List.drop_sublist _ docs)

namespace Compiler

variable {c : Compiler} {m : Model} {known : List String}

/-! ## Keys that name fields -/

/-- Whether the path of a key is the name of a field of a model, and not that of a computed
column.  If the field is a foreign key then its model exists. -/
structure NamesField (c : Compiler) (m : Model) (known : List String)
    (k : OrderKey) : Prop where
  nonempty : k.path ≠ ""
  single : Text.segments k.path = [k.path]
  stored : k.path ∉ known
  field : (m.field? k.path).isSome = true
  target : ∀ f ∈ m.field? k.path, f.kind.isRelation = true → ∀ t ∈ f.kind.model?,
    (c.schema.model? t).isSome = true

/-- The column of a field is read as it is. -/
theorem NamesField.fieldExpr {k : OrderKey} (h : c.NamesField m known k) {ctx : Context}
    (hmodel : ctx.model = m)
    (hknown : ctx.Knows known) : ∃ e type, c.fieldExpr ctx k.path = .ok ((e, type), ctx) := by
  obtain ⟨f, hf⟩ := Option.isSome_iff_exists.mp h.field
  have hcomputed : ctx.computedType? k.path = none :=
    Option.not_isSome_iff_eq_none.mp (mt (hknown k.path).mp h.stored)
  have hpath : ∃ a : Access, c.followPath ctx k.path = (.ok ⟨a, none, []⟩, ctx) := by
    have hfollow : ∃ a : Access, c.follow k.path (.document m none "") [k.path] [] ctx =
        (.ok ⟨a, none, []⟩, ctx) := by
      simp only [follow, hf]
      split
      · rename_i model key storedAs hkind
        obtain ⟨target, htarget⟩ := Option.isSome_iff_exists.mp
          (h.target f hf (by rw [hkind]; rfl) model (by rw [hkind]; rfl))
        exact ⟨.column none f.column
          (.ofField f.kind), by simp only [modelOf, htarget, readsStoredKey, if_true]⟩
      · exact ⟨_, rfl⟩
    obtain ⟨a, ha⟩ := hfollow
    refine ⟨a, ?_⟩
    simp only [followPath, h.single, hmodel, List.headD_cons, hcomputed, ha]
    simp [Ne.symm h.nonempty]
  obtain ⟨a, ha⟩ := hpath
  exact ⟨a.render, a.type, by simp only [Compiler.fieldExpr, resolveField, ha, referred]⟩

theorem sortsInPlace_of_fields {keys : List OrderKey} (h : ∀ k ∈ keys, c.NamesField m known k) :
    c.SortsInPlace m known keys := by
  intro ctx hmodel hknown
  suffices hall : ∀ index, ∃ sorted, c.sortKeys ctx index keys = .ok (sorted, ctx) from hall 0
  induction keys with
  | nil => exact fun index => ⟨([], []), rfl⟩
  | cons k rest ih =>
    intro index
    obtain ⟨hk, hrest⟩ := List.forall_mem_cons.mp h
    obtain ⟨e, type, he⟩ := hk.fieldExpr hmodel hknown
    obtain ⟨⟨keys, computed⟩, hsorted⟩ := ih hrest (index + 1)
    simp only [sortKeys, he, hsorted]
    split
    · exact ⟨_, rfl⟩
    · exact ⟨_, rfl⟩

/-! ## Unions in order -/

/-- An order by fields of the model, and a window, do not change whether a union compiles.  They
sort the rows by the columns that are called like the paths of the keys, and cut them.  So the
rows come out in the order of these columns, which is that of the columns of the fields if these
are called like the paths; and a key whose path no row has a column for could as well be left
out. -/
theorem unite_sorts_by_names {q : Query} (hq : q.IsBare) (hm : c.queryableModel q.model = .ok m)
    {keys : List OrderKey}
    (hkeys : ∀ k ∈ keys, c.NamesField m (q.annotations.map (·.1)) k) (others : List Query)
    (keepAll : Bool)
    (offset limit : Option Nat) :
    ((∃ u, c.compile ((q.unite others keepAll).arranged keys offset limit) = .ok u) ↔
      ∃ u, c.compile (q.unite others keepAll) = .ok u) ∧
    (∀ s rows, c.Returns s ((q.unite others keepAll).arranged keys offset limit) rows ↔
      ∃ kept, c.Returns s (q.unite others keepAll) kept ∧
        rows = window offset limit (Stage.sorted (namedKeys keys) kept)) ∧
    ∀ s kept rows, c.Returns s (q.unite others keepAll) kept →
      c.Returns s ((q.unite others keepAll).arranged keys offset limit) rows →
      ((∀ row ∈ kept, Stage.HasDecimalKeys (namedKeys keys) row) →
        rows.Pairwise (fun a b => Stage.compareBy a b (namedKeys keys) ≠ .gt) ∧
        ((∀ k ∈ keys, (k.column m).1 = k.path) →
          rows.Pairwise fun a b => Stage.compareBy a b (keys.map (·.column m)) ≠ .gt)) ∧
      ∀ p : String × Direction → Bool,
        (∀ k ∈ namedKeys keys, p k = false → ∀ row ∈ kept, row.getPath k.1 = none) →
        rows = window offset limit (Stage.sorted ((namedKeys keys).filter p) kept) := by
  have hplace : ∀ m', c.queryableModel q.model = .ok m' → c.SortsInPlace m'
      (q.annotations.map (·.1)) keys := by
    intro m' hm'
    obtain rfl := Except.ok.inj (hm.symm.trans hm')
    exact sortsInPlace_of_fields hkeys
  have hreturns : ∀ s rows, c.Returns s ((q.unite others keepAll).arranged keys offset limit)
    rows ↔ ∃ kept, c.Returns s (q.unite others keepAll) kept ∧
        rows = window offset limit (Stage.sorted (namedKeys keys) kept) := by
    intro s rows
    simp only [returns_arranged_iff hq hplace, returns_unite_iff hq]
    constructor
    · rintro ⟨gathered, kept, hgathers, hkeeps, rfl⟩
      exact ⟨kept, ⟨gathered, hgathers, hkeeps⟩, rfl⟩
    · rintro ⟨kept, ⟨gathered, hgathers, hkeeps⟩, rfl⟩
      exact ⟨gathered, kept, hgathers, hkeeps, rfl⟩
  refine ⟨?_, hreturns, fun s kept rows hkept hrows => ?_⟩
  · rw [exists_compile_arranged_iff hq hplace, exists_compile_unite_iff hq]
  · obtain ⟨kept', hkept', rfl⟩ := (hreturns s rows).mp hrows
    obtain rfl := hkept.unique hkept'
    refine ⟨fun hdecimals => ?_, fun p hp => by rw [Stage.sorted_filter hp]⟩
    have hsorted := (Stage.pairwise_sorted hdecimals).sublist (window_sublist offset limit _)
    refine ⟨hsorted, fun hcolumns => ?_⟩
    have hsame : keys.map (·.column m) = namedKeys keys :=
      List.map_congr_left fun k hk => Prod.ext (hcolumns k hk) rfl
    rw [hsame]
    exact hsorted

/-- The descending order by a path. -/
def downBy (path : String) : List OrderKey := [⟨path, true⟩]

/-- Names of people and teams come out in descending order.  In the same order by their primary
keys Ann comes before Bob, since the rows have a column `_id` and none that is called `pk`. -/
theorem annAndBob_unsorted :
    (∃ rows, staff.Returns annAndBob ((namesOfPeople.unite [namesOfTeams] true).arranged
      (downBy "name") none none) rows ∧ rows.Pairwise fun a b => Stage.compareBy a b
      [("name", .descending)] ≠ .gt) ∧
    ∃ ann bob, staff.Returns annAndBob (((Query.all "Person").unite [] true).arranged
      (downBy "pk") none none) [ann, bob] ∧ Stage.compareBy ann bob ((downBy "pk").map
      (·.column person)) = .gt := by
  have hname : ∀ k ∈ downBy "name", staff.NamesField person [] k :=
    List.forall_mem_singleton.mpr ⟨by decide, by decide +kernel, by simp, by decide, by decide⟩
  have hpk : ∀ k ∈ downBy "pk", staff.NamesField person [] k :=
    List.forall_mem_singleton.mpr ⟨by decide, by decide +kernel, by simp, by decide, by decide⟩
  constructor
  · obtain ⟨-, hreturns, hsorted⟩ := unite_sorts_by_names (c := staff) (q := namesOfPeople)
      ⟨⟨rfl, rfl, rfl⟩, rfl⟩ rfl hname [namesOfTeams] true none none
    have hkept : staff.Returns annAndBob (namesOfPeople.unite [namesOfTeams] true)
        [.object [("_id", .int 1), ("name", .string "Ann")], .object [("_id", .int 2),
          ("name", .string "Bob")], .object [("name", .string "B")]] := ⟨_, rfl, rfl⟩
    have hrows := (hreturns annAndBob _).mpr ⟨_, hkept, rfl⟩
    have htext : ∀ {row : Value} {s : String}, row.getPath "name" = some (.string s) →
        Stage.HasDecimalKeys (namedKeys (downBy "name")) row := fun hrow =>
            List.forall_mem_singleton.mpr fun v hv => by
      obtain rfl := Option.some.inj (hrow.symm.trans hv)
      trivial
    refine ⟨_, hrows, ((hsorted annAndBob _ _ hkept hrows).1 ?_).1⟩
    exact List.forall_mem_cons.mpr ⟨htext rfl, List.forall_mem_cons.mpr ⟨htext rfl,
      List.forall_mem_singleton.mpr (htext rfl)⟩⟩
  · obtain ⟨-, hreturns, hsorted⟩ := unite_sorts_by_names (c := staff) (q := Query.all "Person")
      ⟨⟨rfl, rfl, rfl⟩, rfl⟩ rfl hpk [] true none none
    have hkept : staff.Returns annAndBob ((Query.all "Person").unite [] true)
        [.object [("_id", .int 1), ("name", .string "Ann"), ("team_id", .string "A")],
          .object [("_id", .int 2), ("name", .string "Bob"), ("boss_id", .string "Ann"),
              ("team_id", .string "A")]] :=
      ⟨_, rfl, rfl⟩
    have hrows := (hreturns annAndBob _).mpr ⟨_, hkept, rfl⟩
    have hnone : ∀ k ∈ namedKeys (downBy "pk"), false = false → ∀ row ∈
        [Value.object [("_id", .int 1), ("name", .string "Ann"), ("team_id", .string "A")],
          .object [("_id", .int 2), ("name", .string "Bob"), ("boss_id", .string "Ann"),
            ("team_id", .string "A")]],
        row.getPath k.1 = none :=
      List.forall_mem_singleton.mpr fun _ => List.forall_mem_cons.mpr ⟨rfl,
        List.forall_mem_singleton.mpr rfl⟩
    rw [(hsorted annAndBob _ _ hkept hrows).2 (fun _ => false) hnone, List.filter_false,
      sorted_nil] at hrows
    exact ⟨_, _, hrows, rfl⟩

end Compiler

end DocQuery
