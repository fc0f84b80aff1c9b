import DocQuery.Proofs.RelationalJoins
import DocQuery.Proofs.RowIdentities
import Mathlib.Data.Multiset.Bind
set_option autoImplicit false

/-!
# Proofs: independent joins commute

A join sets the field of its alias and reads the keys of its parent, so two joins of which
neither reads what the other one sets find the same documents in either order.  Their rows are
then the same pairs of choices, made the other way round:  the same rows equally often, with
their fields in another order.
-/

namespace DocQuery

open Value

/-! ## Rows up to the order of their fields -/

/-- Two documents with the same members, in whatever order. -/
inductive Value.SameMembers : Value → Value → Prop where
  | object {fields others : Document} (h : fields.Perm others) : SameMembers (.object fields)
    (.object others)

/-- The order in which two members are set only counts for their places. -/
theorem Document.insert_insert_perm (d : Document) {key other : String} (hne : key ≠ other)
    (v w : Value) :
    (insert (insert d key v) other w).Perm (insert (insert d other w) key v) := by
  induction d with
  | nil => simpa [insert, hne, hne.symm] using List.Perm.swap _ _ _
  | cons m rest ih =>
    obtain ⟨k, u⟩ := m
    by_cases hkey : k = key
    · simp [insert, hkey, hne]
    · by_cases hother : k = other
      · simp [insert, hother, hne.symm]
      · simpa [insert, hkey, hother] using ih

/-- All pairs of values that two members are set to, one value from each list, make the same
documents whichever of the two is chosen first. -/
theorem Value.rel_choices (fields : Document) {key other : String} (hne : key ≠ other)
    (firsts seconds : List Value) : Multiset.Rel SameMembers
      (firsts.flatMap fun v => seconds.map fun w =>
        object (Document.insert (Document.insert fields key v) other w) : List Value)
      (seconds.flatMap fun w => firsts.map fun v =>
        object (Document.insert (Document.insert fields other w) key v) : List Value) := by
  simp only [← Multiset.coe_bind, ← Multiset.map_coe]
  rw [Multiset.bind_map_comm (seconds : Multiset Value)]
  refine Multiset.rel_bind ?_ (Multiset.rel_eq.mpr rfl)
  rintro v _ rfl
  rw [Multiset.rel_map]
  exact Multiset.rel_refl_of_refl_on fun w _ => .object (Document.insert_insert_perm
    fields hne v w)

namespace Join

variable {config : Config} {store : Store} {j j' : Join} {vars : Document}

/-! ## What joins read -/

/-- The fields of a row that a join reads its keys from. -/
def fieldsRead (j : Join) : List String :=
  match j.parentAlias with
  | some name => [name]
  | none => j.pairs.map (·.parent)

/-- Two joins that set different fields, neither of which the other one reads. -/
structure Independent (j j' : Join) : Prop where
  joined : j.joined ≠ j'.joined
  first : j'.joined ∉ j.fieldsRead
  second : j.joined ∉ j'.fieldsRead

theorem Independent.symm (h : Independent j j') : Independent j' j :=
    ⟨h.joined.symm, h.second, h.first⟩

theorem parentSide_insert {name : String} (hname : name ∉ j.fieldsRead) {p : JoinPair}
    (hp : p ∈ j.pairs) (fields : Document) (v : Value) :
    parentSide j.parentAlias (Document.insert fields name v) p =
        parentSide j.parentAlias fields p := by
  have hvalue : parentValue j.parentAlias p.parent (Document.insert fields name v) =
      parentValue j.parentAlias p.parent fields := by
    unfold fieldsRead at hname
    unfold parentValue
    cases hparent : j.parentAlias with
    | none =>
      rw [hparent] at hname
      exact Document.value?_insert_ne fields v fun heq => hname (heq ▸ List.mem_map_of_mem hp)
    | some other =>
      rw [hparent, List.mem_singleton] at hname
      simp only [Document.value?_insert_ne fields v hname]
  rw [parentSide, parentSide, hvalue]

/-- What matches a row does not depend on fields that the join does not read. -/
theorem matchedWith_insert (hplain : j.HasPlainNames) {name : String}
    (hname : name ∉ j.fieldsRead) (fields : Document) (v : Value) :
    j.matchedWith config store vars (.object (Document.insert fields name v)) =
      j.matchedWith config store vars (.object fields) := by
  have hbound : Stage.bound ⟨.object (Document.insert fields name v), vars⟩ vars
      (bindings config j.parentAlias 0 j.pairs) =
      Stage.bound ⟨.object fields, vars⟩ vars (bindings config j.parentAlias 0 j.pairs) := by
    refine bound_bindings_congr (fun p hp => ?_) 0 vars
    have hcolumn := (hplain.columns p hp).1
    rw [eval_parentKey hcolumn hplain.parent, eval_parentKey hcolumn hplain.parent,
      parentSide_insert hname hp]
  rw [matchedWith, matchedWith, hbound]

/-! ## Copies -/

/-- The rows that a join makes of a row. -/
def copies (config : Config) (store : Store) (vars : Document) (j : Join)
    (row : Value) : List Value :=
  (kept j.kind ((j.matchedWith config store vars row).toOption.getD [])).map
    (row.setPath j.joined)

/-- Where a join runs, it makes each row into its copies. -/
theorem eq_copies_of_run (hplain : j.HasPlainNames) {rows outs : List Value}
    (h : Stage.runAll store (j.stages config) vars rows = .ok outs) :
    outs = rows.flatMap (j.copies config store vars) := by
  rw [run_stages_with fun _ => hplain.joined.2] at h
  obtain ⟨groups, hgroups, rfl⟩ := Stage.exists_of_map_eq_ok h
  have hmatched := (Stage.each_ok_iff _ _ _).mp hgroups
  clear h hgroups
  induction hmatched with
  | nil => rfl
  | @cons row results rows groups hrow _ ih =>
    have hspread : j.spread (row :: rows) (results :: groups) =
        (kept j.kind results).map (row.setPath j.joined) ++ j.spread rows groups := rfl
    rw [hspread, ih, List.flatMap_cons, copies, hrow]
    rfl

/-- The copies that a second join makes of those of a first one, one for each pair of
choices. -/
theorem copies_copies (hplain : j.HasPlainNames) (hplain' : j'.HasPlainNames)
    (h : Independent j j')
    (fields : Document) :
    (j.copies config store vars (.object fields)).flatMap (j'.copies config store vars) =
      (kept j.kind ((j.matchedWith config store vars (.object fields)).toOption.getD
          [])).flatMap fun v =>
        (kept j'.kind ((j'.matchedWith config store vars (.object fields)).toOption.getD
            [])).map fun w =>
          .object (Document.insert (Document.insert fields j.joined v) j'.joined w) := by
  have hset := fun (row : Value) (v : Value) => setPath_of_plain hplain.joined.1 row v
  have hset' := fun (row : Value) (v : Value) => setPath_of_plain hplain'.joined.1 row v
  simp only [copies, List.flatMap_map, hset, fieldsOrEmpty, matchedWith_insert hplain' h.second]
  exact List.flatMap_congr fun v _ => List.map_congr_left fun w _ => hset' _ w

/-- Independent joins commute:  on any documents, in any store, with any configuration and any
variables from outside.  Where both orders of the two joins run, they make the same documents
equally often, up to the order of the fields of a document.  The joins may be inner or left ones
and find any numbers of matches. -/
theorem independent_joins_commute (hplain : j.HasPlainNames) (hplain' : j'.HasPlainNames)
    (h : Independent j j') {docs : List Document} {rows others : List Value}
    (hrows : Stage.runAll store (j.stages config ++ j'.stages config) vars (docs.map .object) =
      .ok rows)
    (hothers : Stage.runAll store (j'.stages config ++ j.stages config) vars
      (docs.map .object) = .ok others) :
    Multiset.Rel SameMembers rows others := by
  obtain ⟨between, hbetween, hrest⟩ := Stage.runAll_append_ok hrows
  obtain ⟨between', hbetween', hrest'⟩ := Stage.runAll_append_ok hothers
  obtain rfl := eq_copies_of_run hplain hbetween
  obtain rfl := eq_copies_of_run hplain' hbetween'
  obtain rfl := eq_copies_of_run hplain' hrest
  obtain rfl := eq_copies_of_run hplain hrest'
  simp only [List.flatMap_assoc, List.flatMap_map, copies_copies hplain hplain' h,
    copies_copies hplain' hplain h.symm]
  rw [← Multiset.coe_bind docs, ← Multiset.coe_bind docs]
  refine Multiset.rel_bind ?_ (Multiset.rel_eq.mpr rfl)
  rintro fields _ rfl
  exact rel_choices fields h.joined _ _

/-- The lines of an order. -/
def orderLines : Join where
  parentAlias := none
  collection := "lines"
  joined := "line"
  pairs := [⟨"_id", "order", "long", "long"⟩]
  kind := .inner

/-- The notes for the customer of an order, if there are any. -/
def orderNotes : Join where
  parentAlias := none
  collection := "notes"
  joined := "note"
  pairs := [⟨"customer", "about", "string", "string"⟩]
  kind := .left

/-- Two lines of one order and one of another order, and two notes about one customer. -/
def linesAndNotes : Store :=
  ⟨[("lines",
      [.object [("order", .int 1), ("item", .string "pen")], .object [("order", .int 2),
        ("item", .string "ink")], .object [("order", .int 1), ("item", .string "cap")]]),
    ("notes",
      [.object [("about", .string "Ann"), ("early", .bool true)],
        .object [("about", .string "Ann"), ("early", .bool false)]])]⟩

/-- The orders of two customers. -/
def twoOrders : List Document :=
  [[("_id", .int 1), ("customer", .string "Ann")], [("_id", .int 2),
    ("customer", .string "Bob")]]

/-- The order of Ann has two lines and two notes, so it becomes four rows, and that of Bob
becomes one row without a note. -/
theorem twoOrders_commute :
    ∃ rows others, rows.length = 5 ∧
      Stage.runAll linesAndNotes (orderLines.stages .usual ++ orderNotes.stages .usual) []
        (twoOrders.map .object) = .ok rows ∧
      Stage.runAll linesAndNotes (orderNotes.stages .usual ++ orderLines.stages .usual) []
        (twoOrders.map .object) = .ok others ∧
      Multiset.Rel SameMembers rows others := by
  have hlines := @run_stages_eq_pairedRows .usual linesAndNotes orderLines (by decide)
    ⟨by decide, by decide, by decide⟩ (by decide) (fun hkind => absurd hkind (by decide)) []
  have hnotes := @run_stages_eq_pairedRows .usual linesAndNotes orderNotes (by decide)
    ⟨by decide, by decide, by decide⟩ (by decide) (fun _ => by decide) []
  have hrows : Stage.runAll linesAndNotes (orderLines.stages .usual ++
    orderNotes.stages .usual) [] (twoOrders.map .object) =
    .ok (((twoOrders.map .object).flatMap (orderLines.pairedRows linesAndNotes)).flatMap
        (orderNotes.pairedRows linesAndNotes)) := by
    rw [Stage.runAll_append, hlines, Except.bind, hnotes]
  have hothers : Stage.runAll linesAndNotes (orderNotes.stages .usual ++
    orderLines.stages .usual) [] (twoOrders.map .object) =
    .ok (((twoOrders.map .object).flatMap (orderNotes.pairedRows linesAndNotes)).flatMap
        (orderLines.pairedRows linesAndNotes)) := by
    rw [Stage.runAll_append, hnotes, Except.bind, hlines]
  have hplainLines : orderLines.HasPlainNames :=
    ⟨by decide, fun _ hname => (by cases hname), by decide⟩
  have hplainNotes : orderNotes.HasPlainNames :=
    ⟨by decide, fun _ hname => (by cases hname), by decide⟩
  exact ⟨_, _, rfl, hrows, hothers,
    independent_joins_commute hplainLines hplainNotes ⟨by decide, by decide, by decide⟩
      hrows hothers⟩

end Join

end DocQuery
