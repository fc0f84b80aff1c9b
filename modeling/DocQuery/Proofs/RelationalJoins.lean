import DocQuery.Proofs.JoinKeys
import DocQuery.Proofs.MirroredPaths
set_option autoImplicit false

/-!
# Proofs: joins are relational joins

The stages of a join pair each document with the documents of a collection that agree with it in
all pairs of keys, as nested loops over the two would: document by document, and for each of
them in the order of the collection.
-/

namespace DocQuery

open Value
open Operator (found)

namespace Join

/-! ## Nested loops -/

/-- A key as it is compared with one of another type: as a text, unless it is declared as
one. -/
def cast (type otherType : String) (v : Option Value) : Evaluation :=
  if type = otherType ∨ type = textType then .ok v else Operator.applyToText v

/-- What a document holds in a column, or what the document that it holds under an alias
does. -/
def parentValue (joined : Option String) (column : String) (fields : Document) : Option Value :=
  match joined with
  | none => Document.value? fields column
  | some name => (Document.value? fields name).bind fun v => v.getPath column

/-- The key of a document in a pair. -/
def parentSide (joined : Option String) (fields : Document) (p : JoinPair) : Evaluation :=
  cast p.parentType p.childType (parentValue joined p.parent fields)

/-- The key of a document of the joined collection in a pair. -/
def childSide (child : Value) (p : JoinPair) : Evaluation :=
  cast p.childType p.parentType (child.getPath p.child)

/-- Whether two documents have equal keys in a pair.  A key that is missing on the side of the
parent counts as null. -/
def agree (joined : Option String) (fields : Document) (child : Value) (p : JoinPair) : Bool :=
  match parentSide joined fields p, childSide child p with
  | .ok v, .ok w => compare? (some (v.getD .null)) w == .eq
  | _, _ => false

/-- The documents of the joined collection that agree with a document in all pairs. -/
def partners (store : Store) (j : Join) (fields : Document) : List Value :=
  (store.collection j.collection).filter fun child =>
    j.pairs.all (agree j.parentAlias fields child)

/-- The rows that a join makes of a document: a copy for each partner, and one with null if a
left join finds none. -/
def rowsOf (store : Store) (j : Join) (fields : Document) : List Value :=
  let copy : Value → Value := fun child => .object (Document.insert fields j.joined child)
  match j.kind, partners store j fields with
  | .left, [] => [copy .null]
  | _, children => children.map copy

/-- Whether the names of a join can stand in paths as they are. -/
structure HasPlainNames (j : Join) : Prop where
  joined : IsPlainName j.joined
  parent : ∀ name, j.parentAlias = some name → IsPlainName name
  columns : ∀ p ∈ j.pairs, IsPlainName p.parent ∧ IsPlainName p.child

/-! ## Keys -/

theorem eval_key {column : Value} {scope : Scope} {v : Option Value}
    (hsingle : column.items? = none)
    (hcolumn : eval column scope = .ok v) (type otherType : String) :
    eval (key type otherType column) scope = cast type otherType v := by
  unfold key cast
  split
  · exact hcolumn
  · exact eval_operator_one .toText hsingle hcolumn

theorem eval_parentPath {joined : Option String} {column : String}
    (hcolumn : IsPlainName column)
    (hjoined : ∀ name, joined = some name → IsPlainName name) (fields vars : Document) :
    eval (.string (parentPath joined column)) ⟨.object fields, vars⟩ =
        .ok (parentValue joined column fields) := by
  cases joined with
  | none =>
    rw [eval_string, parentPath, PathText.read_root _ hcolumn.2,
      getPath_of_plain hcolumn.1, parentValue]
  | some name =>
    obtain ⟨hdots, hdollars⟩ := hjoined name rfl
    have htext : parentPath (some name) column = "$" ++ (name ++ "." ++ column) := by
      simp only [parentPath, String.append_assoc]
    have hplain : isOperatorName (name ++ "." ++ column) = false := by
      rw [isOperatorName_extend, hdollars]
    rw [eval_string, htext, PathText.read_root _ hplain, getPath_front hdots, parentValue]

theorem eval_parentKey {joined : Option String} {p : JoinPair} (hcolumn : IsPlainName p.parent)
    (hjoined : ∀ name, joined = some name → IsPlainName name) (fields vars : Document) :
    eval (parentKey joined p) ⟨.object fields, vars⟩ = parentSide joined fields p :=
  eval_key rfl (eval_parentPath hcolumn hjoined fields vars) p.parentType p.childType

theorem eval_childKey {p : JoinPair} (hcolumn : IsPlainName p.child) (child : Value)
    (vars : Document) : eval (childKey p) ⟨child, vars⟩ = childSide child p := by
  refine eval_key rfl ?_ p.childType p.parentType
  rw [eval_string, PathText.read_root _ hcolumn.2]

/-! ## Stages -/

section Stages

variable {config : Config} {store : Store} {j : Join}

/-- What matches a document are its partners. -/
theorem matchedWith_eq_partners (hconfig : '.' ∉ config.parentPrefix.toList)
    (hplain : j.HasPlainNames)
    {fields : Document} (hparent : ∀ p ∈ j.pairs, ∃ v, parentSide j.parentAlias
      fields p = .ok v)
    (hchildren : ∀ child ∈ store.collection j.collection, ∀ p ∈ j.pairs, ∃ w,
      childSide child p = .ok w)
    (vars : Document) : j.matchedWith config store vars (.object fields) =
        .ok (j.partners store fields) := by
  have hmatched : j.matchedWith config store vars (.object fields) =
      .ok ((store.collection j.collection).filter fun child => j.pairs.all
        (equalKeys (fun p => (parentSide j.parentAlias fields p).toOption.getD none)
          fun p => (childSide child p).toOption.getD none)) := by
    refine matchedWith_eq_filter hconfig (fun p hp => ?_) fun child hchild p hp inner => ?_
    · obtain ⟨v, hv⟩ := hparent p hp
      rw [eval_parentKey (hplain.columns p hp).1 hplain.parent, hv]
      rfl
    · obtain ⟨w, hw⟩ := hchildren child hchild p hp
      rw [eval_childKey (hplain.columns p hp).2, hw]
      rfl
  rw [hmatched, partners]
  refine congrArg _ (List.filter_congr fun child hchild => ?_)
  rw [Bool.eq_iff_iff, List.all_eq_true, List.all_eq_true]
  refine forall₂_congr fun p hp => ?_
  obtain ⟨v, hv⟩ := hparent p hp
  obtain ⟨w, hw⟩ := hchildren child hchild p hp
  rw [agree, equalKeys, hv, hw]
  rfl

/-- The lookup puts the partners of each document under the alias. -/
theorem run_lookupStage_partners (hconfig : '.' ∉ config.parentPrefix.toList)
    (hplain : j.HasPlainNames) {parents : List Document}
    (hparents : ∀ fields ∈ parents, ∀ p ∈ j.pairs, ∃ v, parentSide j.parentAlias
      fields p = .ok v)
    (hchildren : ∀ child ∈ store.collection j.collection, ∀ p ∈ j.pairs, ∃ w,
      childSide child p = .ok w)
    (outer : Document) :
    Stage.run store (lookupStage config j) outer (parents.map .object) =
      .ok (parents.map fun fields => (Value.object fields).setPath j.joined
          (.array (j.partners store fields))) := by
  have hmatched : Stage.each (j.matchedWith config store outer) (parents.map .object) =
      .ok (parents.map (j.partners store)) := by
    rw [Stage.each_ok_iff, List.forall₂_map_left_iff, List.forall₂_map_right_iff,
      List.forall₂_same]
    exact fun fields hfields => matchedWith_eq_partners hconfig hplain (hparents fields hfields)
      hchildren outer
  rw [run_lookupStage, hmatched]
  simp [Except.map, List.zip_map']

/-- What a join adds to a document makes its rows, if the documents can be counted. -/
theorem map_kept_partners (hplain : j.HasPlainNames)
    (hcount : j.kind = .left → (store.collection j.collection).length < 2 ^ 63)
    (fields : Document) :
    (kept j.kind (j.partners store fields)).map ((Value.object fields).setPath j.joined) =
      j.rowsOf store fields := by
  have hset : ∀ child, (Value.object fields).setPath j.joined child =
      .object (Document.insert fields j.joined child) := fun child =>
        setPath_of_plain hplain.joined.1 _ child
  unfold rowsOf
  cases hkind : j.kind with
  | inner => exact List.map_congr_left fun child _ => hset child
  | left =>
    have hfew : (j.partners store fields).length < 2 ^ 63 :=
      Nat.lt_of_le_of_lt (List.length_filter_le _ _) (hcount hkind)
    rw [kept, countsZero_eq hfew]
    cases j.partners store fields with
    | nil => simp [hset]
    | cons child rest => simp [hset]

end Stages

/-- The stages of a join compute the relational join of documents with a collection, for any
number of pairs of keys and with any variables from outside:  for each document in turn, one row
for each partner in the order of the collection, and for a document without partners no row from
an inner join and one row with null from a left join.  A row has the partner under the alias,
and all other fields are those of the document.

A left join counts the partners, so its collection has to have fewer documents than integers can
count, as all that fit into memory do. -/
theorem run_stages_eq_rowsOf {config : Config} {store : Store} {j : Join}
    (hconfig : '.' ∉ config.parentPrefix.toList) (hplain : j.HasPlainNames)
    {parents : List Document}
    (hparents : ∀ fields ∈ parents, ∀ p ∈ j.pairs, ∃ v, parentSide j.parentAlias
      fields p = .ok v)
    (hchildren : ∀ child ∈ store.collection j.collection, ∀ p ∈ j.pairs, ∃ w,
      childSide child p = .ok w)
    (hcount : j.kind = .left → (store.collection j.collection).length < 2 ^ 63)
    (vars : Document) :
    Stage.runAll store (j.stages config) vars (parents.map .object) =
        .ok (parents.flatMap (j.rowsOf store)) ∧
      ∀ fields ∈ parents, ∀ row ∈ j.rowsOf store fields, ∀ name, name ≠ j.joined →
        row.field? name = Document.value? fields name := by
  constructor
  · have hlookup := run_lookupStage_partners hconfig hplain hparents hchildren vars
    have hunwound := unwound_spread j.joined
    have hrows := map_kept_partners hplain hcount
    unfold stages
    cases hkind : j.kind with
    | inner =>
      rw [hkind] at hrows
      simp only [Stage.runAll, hlookup, Stage.unwindAll, Stage.run, List.flatMap_map, hunwound]
      exact congrArg _ (congrArg parents.flatMap (funext hrows))
    | left =>
      rw [hkind] at hrows
      have hplaceholder : Stage.run store (placeholder j.joined) vars (parents.map fun fields =>
          (Value.object fields).setPath j.joined (.array (j.partners store fields))) =
          .ok (parents.map fun fields =>
            (Value.object fields).setPath j.joined
                (.array (kept .left (j.partners store fields)))) := by
        simpa only [List.map_map, Function.comp_def] using run_placeholder hplain.joined.2
          (parents.map fun fields => (Value.object fields, j.partners store fields))
      simp only [Stage.runAll, hlookup, hplaceholder, Stage.unwindAll, Stage.run,
        List.flatMap_map, hunwound]
      exact congrArg _ (congrArg parents.flatMap (funext hrows))
  · intro fields _ row hrow name hname
    obtain ⟨child, rfl⟩ : ∃ child, row = .object (Document.insert fields j.joined child) := by
      unfold rowsOf at hrow
      dsimp only at hrow
      split at hrow
      · exact ⟨.null, List.mem_singleton.mp hrow⟩
      · obtain ⟨child, -, rfl⟩ := List.mem_map.mp hrow
        exact ⟨child, rfl⟩
    exact Document.value?_insert_ne fields child (Ne.symm hname)

/-- Parcels with the rates for their city and zone.  Zones are numbers in one collection and
texts in the other one. -/
def parcelRates (kind : JoinKind) : Join where
  parentAlias := none
  collection := "rates"
  joined := "rate"
  pairs := [⟨"city", "town", "string", "string"⟩, ⟨"zone", "zone", "long", "string"⟩]
  kind := kind

/-- The first and the last rate are those for the same city and zone. -/
def threeRates : Store :=
  ⟨[("rates",
      [.object [("town", .string "Rome"), ("zone", .string "1")],
        .object [("town", .string "Rome"), ("zone", .string "2")],
        .object [("town", .string "Rome"), ("zone", .string "1"), ("night", .bool true)]])]⟩

/-- A parcel to Rome, and one to Oslo without a zone. -/
def twoParcels : List Document :=
  [[("rate", .string "old"), ("city", .string "Rome"), ("zone", .int 1)],
    [("city", .string "Oslo")]]

/-- The parcel to Rome is paired with two rates, and the one to Oslo is kept without a rate. -/
theorem twoParcels_rated :
    Stage.runAll threeRates ((parcelRates .left).stages .usual) [] (twoParcels.map .object) =
      .ok [.object [("rate", .object [("town", .string "Rome"), ("zone", .string "1")]),
            ("city", .string "Rome"), ("zone", .int 1)],
          .object [("rate", .object [("town", .string "Rome"), ("zone", .string "1"),
            ("night", .bool true)]), ("city", .string "Rome"), ("zone", .int 1)],
          .object [("city", .string "Oslo"), ("rate", .null)]] := by
  have hplain : (parcelRates .left).HasPlainNames :=
    ⟨by decide, fun _ hname => (by cases hname), by decide⟩
  have hparents : ∀ fields ∈ twoParcels, ∀ p ∈ (parcelRates .left).pairs,
      ∃ v, parentSide none fields p = .ok v := by
    intro fields hfields p hp
    simp only [twoParcels, parcelRates, List.mem_cons, List.not_mem_nil, or_false] at hfields hp
    rcases hfields with rfl | rfl <;> rcases hp with rfl | rfl <;> exact ⟨_, rfl⟩
  have hchildren : ∀ child ∈ threeRates.collection "rates", ∀ p ∈ (parcelRates .left).pairs,
      ∃ w, childSide child p = .ok w := by
    intro child hchild p hp
    have hrates : threeRates.collection "rates" = [.object [("town", .string "Rome"),
      ("zone", .string "1")], .object [("town", .string "Rome"), ("zone", .string "2")],
        .object [("town", .string "Rome"), ("zone", .string "1"), ("night", .bool true)]] := rfl
    rw [hrates] at hchild
    simp only [parcelRates, List.mem_cons, List.not_mem_nil, or_false] at hchild hp
    rcases hchild with rfl | rfl | rfl <;> rcases hp with rfl | rfl <;> exact ⟨_, rfl⟩
  have hconfig : '.' ∉ Config.usual.parentPrefix.toList := by decide
  have hrows := (run_stages_eq_rowsOf hconfig hplain hparents hchildren
    (fun _ => by decide) []).1
  exact hrows.trans rfl

end Join

end DocQuery
