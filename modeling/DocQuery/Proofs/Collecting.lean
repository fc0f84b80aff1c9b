import DocQuery.Proofs.Accesses
import DocQuery.Proofs.Rows
set_option autoImplicit false

/-!
# Proofs: collected values

A query whose values a lookup is compared with is wrapped: what an expression evaluates to on
each of its documents is collected in one array, without repetitions and without what is missing
or null.
-/

namespace DocQuery

open Value
open Operator (found)

/-! ## Distinct values -/

namespace Accumulator

/-- The values of a list without those that are equal to an earlier one. -/
def distinct (values : List Value) : List Value := values.foldl addDistinct []

/-- Values that stand for those of a list: each of them, or an equal one, is there, and no two
that are there are equal. -/
structure Represents (set values : List Value) : Prop where
  among : ∀ v ∈ set, v ∈ values
  covers : ∀ v ∈ values, v ∈ set ∨ ∃ w ∈ set, w.equal v = true
  apart : set.Pairwise fun v w => v.equal w = false

/-- One more value is there already, or there is an equal one, or it is added. -/
theorem Represents.addDistinct {set values : List Value}
    (h : Represents set values) (v : Value) :
    Represents (addDistinct set v) (values ++ [v]) := by
  unfold Accumulator.addDistinct
  split
  · rename_i hequal
    refine ⟨fun w hw => List.mem_append_left _ (h.among w hw), ?_, h.apart⟩
    refine List.forall_mem_append.mpr ⟨h.covers, List.forall_mem_singleton.mpr (.inr ?_)⟩
    simpa using hequal
  · rename_i hnone
    have hfresh : ∀ w ∈ set, w.equal v = false := by simpa using hnone
    refine ⟨?_, ?_, ?_⟩
    · refine List.forall_mem_append.mpr ⟨fun w hw => List.mem_append_left _ (h.among w hw), ?_⟩
      simp
    · refine List.forall_mem_append.mpr ⟨fun w hw => ?_, by simp⟩
      rcases h.covers w hw with hmem | ⟨u, hu, hequal⟩
      · exact .inl (List.mem_append_left _ hmem)
      · exact .inr ⟨u, List.mem_append_left _ hu, hequal⟩
    · refine List.pairwise_append.mpr ⟨h.apart, List.pairwise_singleton _ v,
        fun w hw u hu => ?_⟩
      rw [List.mem_singleton.mp hu]
      exact hfresh w hw

theorem represents_foldl {set values : List Value} (h : Represents set values)
    (rest : List Value) :
    Represents (rest.foldl Accumulator.addDistinct set) (values ++ rest) := by
  induction rest generalizing set values with
  | nil => simpa using h
  | cons v rest ih => simpa using ih (h.addDistinct v)

theorem represents_distinct (values : List Value) : Represents (distinct values) values :=
  @represents_foldl [] [] ⟨by simp, by simp, .nil⟩ values

end Accumulator

/-! ## Names that are paths -/

theorem Text.notMem_partsOf {sep : Char} (cs : List Char) : sep ∉ (partsOf sep cs).1 := by
  induction cs with
  | nil => simp [partsOf]
  | cons c rest ih =>
    by_cases hc : c = sep
    · simp [partsOf, hc]
    · simpa [partsOf, hc] using ⟨Ne.symm hc, ih⟩

/-- A name that is a path of several names does not lead to the field that is called like the
path. -/
theorem Value.getPath_of_dotted {name : String} (h : '.' ∈ name.toList) (v : Value) :
    (Value.object [(name, v)]).getPath name = none := by
  have hfirst : name ≠ String.ofList (Text.partsOf '.' name.toList).1 := by
    intro heq
    have hparts : name.toList = (Text.partsOf '.' name.toList).1 := by
      rw [← String.toList_ofList (l := (Text.partsOf '.' name.toList).1), ← heq]
    exact Text.notMem_partsOf name.toList (hparts ▸ h)
  rw [getPath, pathNames, Text.split, walk, walkField_eq]
  simp [Document.value?, hfirst]

/-! ## Items -/

/-- The values that a column gives when they are collected: none if nothing is there, the items
of an array, and any other value by itself. -/
def Value.spread : Option Value → List Value
  | none => []
  | some .null => []
  | some (.array items) => items
  | some v => [v]

namespace Compiler

variable {store : Store} {vars : Document} {e : Value}

/-- The identity of a document as the only field. -/
def identityOf (doc : Value) : Document :=
  match doc.field? "_id" with
  | some id => [("_id", id)]
  | none => []

/-- A document that holds a value of a column in the working field. -/
def itemDocument (doc : Value) (v : Option Value) : Value :=
  match v with
  | some w => .object (Document.insert (identityOf doc) itemField w)
  | none => .object (identityOf doc)

theorem value?_identityOf (doc : Value) :
    Document.value? (identityOf doc) itemField = none := by
  unfold identityOf
  split <;> rfl

theorem getPath_item (fields : Document) :
    (Value.object fields).getPath itemField = Document.value? fields itemField :=
  getPath_of_plain (by decide) fields

theorem getPath_itemDocument (doc : Value) (v : Option Value) :
    (itemDocument doc v).getPath itemField = v := by
  unfold itemDocument
  split
  · rw [getPath_item, Document.value?_insert_self]
  · rw [getPath_item, value?_identityOf]

/-- The working projection keeps what an expression evaluates to. -/
theorem projection_item (hflag : Stage.isFlag e = false) (doc : Value) :
    Stage.projection [(itemField, e)] vars doc =
        (e.eval ⟨doc, vars⟩).map (itemDocument doc) := by
  have hexclusion : Stage.isExclusion [(itemField, e)] = false := by
    simp [Stage.isExclusion, hflag, itemField]
  have hid : Document.has [(itemField, e)] "_id" = false := rfl
  simp only [Stage.projection, hexclusion, hid, Stage.projected, hflag,
    Bool.false_eq_true, if_false]
  cases e.eval ⟨doc, vars⟩ with
  | error error => rfl
  | ok v => cases v <;> rfl

/-- Unwinding the working field leaves one document for each collected value. -/
theorem getPath_unwound (doc : Value) (v : Option Value) :
    (Stage.unwound itemField false (itemDocument doc v)).map (fun d => d.getPath itemField) =
      (spread v).map some := by
  have hset : ∀ w : Value, ((itemDocument doc v).setPath itemField w).getPath
      itemField = some w := by
    intro w
    rw [setPath_of_plain (by decide), getPath_item, Document.value?_insert_self]
  unfold Stage.unwound
  rw [getPath_itemDocument]
  rcases v with _ | v
  · rfl
  · cases v with
    | null => rfl
    | array items =>
      cases items with
      | nil => rfl
      | cons item rest =>
        simp only [spread, List.map_map]
        exact List.map_congr_left fun w _ => hset w
    | _ => simp [spread, getPath_itemDocument]

/-- Going through the documents of a projection and unwinding them gives the collected values,
one after another. -/
theorem items_unwound {docs : List Value} {values : List (Option Value)}
    (h : Stage.each (fun doc => e.eval ⟨doc, vars⟩) docs = .ok values)
    (hflag : Stage.isFlag e = false) :
    ∃ outs, Stage.each (Stage.projection [(itemField, e)] vars) docs = .ok outs ∧
      (outs.flatMap (Stage.unwound itemField false)).map (fun d => d.getPath itemField) =
        (values.flatMap spread).map some := by
  rw [Stage.each_ok_iff] at h
  induction h with
  | nil => exact ⟨[], rfl, rfl⟩
  | @cons doc v docs values hv _ ih =>
    obtain ⟨outs, houts, hitems⟩ := ih
    refine ⟨itemDocument doc v :: outs, ?_, ?_⟩
    · simp only [Stage.each, projection_item hflag, hv, houts, Except.map]
    · simp only [List.flatMap_cons, List.map_append, getPath_unwound, hitems]

/-! ## Groups -/

/-- Documents of one key are one group. -/
theorem groupsOf_null (docs : List Value) (first : Value) :
    Stage.groupsOf ((first :: docs).map fun d => (Value.null, d)) =
        [⟨.null, first :: docs⟩] := by
  have hmore : ∀ (rest seen : List Value),
      (rest.map fun d => (Value.null, d)).foldl (fun groups m =>
        Stage.addToGroup m.1 m.2 groups) [⟨.null, seen⟩] = [⟨.null, seen ++ rest⟩] := by
    intro rest
    induction rest with
    | nil => simp
    | cons d rest ih =>
      intro seen
      simp only [List.map_cons, List.foldl_cons, Stage.addToGroup, if_true]
      rw [ih]
      simp
  simpa [Stage.groupsOf, Stage.addToGroup] using hmore docs [first]

/-- The document of the group of all collected values; none if there are no values. -/
def groupResults (values : List Value) : List Value :=
  match values with
  | [] => []
  | _ => [.object [("_id", .null), (itemField, .array (Accumulator.distinct values))]]

theorem grouped_items {docs : List Value} {values : List Value}
    (h : docs.map (fun d => d.getPath itemField) = values.map some) :
    Stage.grouped .null [(itemField, .operator "$addToSet" (.string ("$" ++ itemField)))] vars
      docs = .ok (groupResults values) := by
  have hkeys : Stage.each (fun doc => (Value.null.eval ⟨doc, vars⟩).map fun k =>
    (k.getD .null, doc)) docs = .ok (docs.map fun d => (Value.null, d)) := by
    rw [Stage.each_ok_iff, List.forall₂_map_right_iff, List.forall₂_same]
    intro d _
    simp only [eval, found, Except.map, Option.getD_some]
  have hinputs : Stage.each (fun doc => Value.eval (.string ("$" ++ itemField)) ⟨doc, vars⟩)
    docs = .ok (values.map some) := by
    rw [← h, Stage.each_ok_iff, List.forall₂_map_right_iff, List.forall₂_same]
    intro d _
    rw [eval_string, PathText.read_root _ (by decide)]
  have haccumulated : Stage.accumulated vars docs itemField
      (.operator "$addToSet" (.string ("$" ++ itemField))) =
          .ok (.array (Accumulator.distinct values)) := by
    have hoperator : Value.operator? (.operator "$addToSet" (.string ("$" ++ itemField))) =
        some ("$addToSet", .string ("$" ++ itemField)) := rfl
    have hname : Accumulator.ofName? "$addToSet" = some .addToSet := rfl
    simp only [Stage.accumulated, hoperator, hinputs, hname, Accumulator.apply,
      Accumulator.distinct]
    rw [List.filterMap_map]
    simp
  simp only [Stage.grouped, hkeys]
  cases docs with
  | nil =>
    obtain rfl : values = [] := by simpa using h.symm
    rfl
  | cons first rest =>
    cases values with
    | nil => simp at h
    | cons v values =>
      rw [groupsOf_null]
      simp only [Stage.groupDocuments, Stage.accumulatedFields, haccumulated, groupResults]
      rfl

/-! ## The wrapped query -/

/-- The values of the group that documents are collected in, or none. -/
def collectedItems : Value :=
  .operator "$ifNull" (.array
    [Access.fieldOf (.operator "$arrayElemAt" (.array [.string ("$" ++ groupField), .int 0]))
      itemField, .array []])

/-- The stages that collect the values of an expression in a group. -/
def groupStages (e : Value) : List Stage :=
  [.project [(itemField, e)], .unwindAll itemField,
    .group .null [(itemField, .operator "$addToSet" (.string ("$" ++ itemField)))]]

theorem collecting_eq (field : String) (e : Value) :
    collecting field e = [.facet [(groupField, groupStages e)],
        .project [(field, collectedItems)]] := by
  rfl

theorem eval_collectedItems {values : List Value} {scope : Scope}
    (hgroup : eval (.string ("$" ++ groupField)) scope = found (.array (groupResults values))) :
    eval collectedItems scope = found (.array (Accumulator.distinct values)) := by
  have hzero : eval (.int 0) scope = .ok (some (.int 0)) := by simp only [eval, found]
  have hempty : eval (.array []) scope = .ok (some (.array [])) := rfl
  have hfirst : eval (.operator "$arrayElemAt" (.array [.string ("$" ++ groupField), .int 0]))
      scope = _ :=
    eval_operator_pair .elementAt hgroup hzero
  have hfield := eval_fieldOf (.operator "$arrayElemAt"
    (.array [.string ("$" ++ groupField), .int 0])) itemField scope
  rw [hfirst] at hfield
  cases values with
  | nil => exact eval_operator_pair .ifNull hfield hempty
  | cons v rest => exact eval_operator_pair .ifNull hfield hempty

/-- What the last stage of a wrapped query makes of the collected values: the column that holds
them, but nothing but the working document for the identity, whose projection leaves nothing
out. -/
def wrappedResult (field : String) (values : List Value) : Value :=
  if field = "_id" then .object [(groupField, .array (groupResults values))]
  else .object [(field, .array (Accumulator.distinct values))]

theorem projection_collected (field : String) (values : List Value) :
    Stage.projection [(field, collectedItems)] vars
      (.object [(groupField, .array (groupResults values))]) =
      .ok (wrappedResult field values) := by
  by_cases hid : field = "_id"
  · subst hid
    rfl
  · have hhas : Document.has [(field, collectedItems)] "_id" = false := by
      simpa [Document.has] using hid
    have hflag : Stage.isFlag collectedItems = false := rfl
    have hexclusion : Stage.isExclusion [(field, collectedItems)] = false := by
      simpa [Stage.isExclusion, hflag] using hid
    have hstart : (Value.object [(groupField, .array (groupResults values))]).field?
      "_id" = none := rfl
    have hgroup : eval (.string ("$" ++ groupField))
        ⟨.object [(groupField, .array (groupResults values))], vars⟩ =
        found (.array (groupResults values)) := by
      rw [eval_string, PathText.read_root _ (by decide), getPath_of_plain (by decide)]
      rfl
    simp only [Stage.projection, hexclusion, hhas, hstart, Stage.projected, hflag,
      eval_collectedItems hgroup, wrappedResult, hid, Bool.false_eq_true, if_false]
    rfl

/-- Collecting makes one document of all documents of a query. -/
theorem runAll_collecting {docs : List Value} {values : List (Option Value)} (field : String)
    (hflag : Stage.isFlag e = false)
    (h : Stage.each (fun doc => e.eval ⟨doc, vars⟩) docs = .ok values) :
    Stage.runAll store (collecting field e) vars docs =
      .ok [wrappedResult field (values.flatMap spread)] := by
  obtain ⟨outs, houts, hitems⟩ := items_unwound h hflag
  have hgroups := @grouped_items vars _ _ hitems
  have hfacet : Stage.runAll store (groupStages e) vars docs =
      .ok (groupResults (values.flatMap spread)) := by
    simp only [groupStages, Stage.runAll, Stage.run, Stage.unwindAll, houts, hgroups]
  have hfirst : Stage.run store (.facet [(groupField, groupStages e)]) vars docs =
      .ok [.object [(groupField, .array (groupResults (values.flatMap spread)))]] := by
    simp only [Stage.run, Stage.runFacets, hfacet]
    rfl
  have hlast : Stage.run store (.project [(field, collectedItems)]) vars
      [.object [(groupField, .array (groupResults (values.flatMap spread)))]] =
      .ok [wrappedResult field (values.flatMap spread)] := by
    rw [Stage.run, Stage.each_ok_iff, List.forall₂_cons]
    exact ⟨projection_collected field _, .nil⟩
  rw [collecting_eq, Stage.runAll, hfirst]
  simp only [Stage.runAll, hlast]

/-- If collecting succeeds then the expression has a value on each document. -/
theorem exists_values_of_collecting {docs results : List Value} {field : String}
    (hflag : Stage.isFlag e = false)
    (h : Stage.runAll store (collecting field e) vars docs = .ok results) :
    ∃ values, Stage.each (fun doc => e.eval ⟨doc, vars⟩) docs = .ok values := by
  obtain ⟨outs, houts⟩ : ∃ outs, Stage.each (Stage.projection [(itemField, e)] vars) docs =
      .ok outs := by
    cases houts : Stage.each (Stage.projection [(itemField, e)] vars) docs with
    | ok outs => exact ⟨outs, rfl⟩
    | error error =>
      simp [collecting_eq, groupStages, Stage.runAll, Stage.run, Stage.runFacets, houts] at h
  rw [Stage.each_ok_iff] at houts
  clear h
  induction houts with
  | nil => exact ⟨[], rfl⟩
  | @cons doc out docs outs hout _ ih =>
    obtain ⟨values, hvalues⟩ := ih
    rw [projection_item hflag] at hout
    cases hv : e.eval ⟨doc, vars⟩ with
    | error error => simp [hv, Except.map] at hout
    | ok v => exact ⟨v :: values, by simp only [Stage.each, hv, hvalues]⟩

/-- What a column reads from the result of a wrapped query: the collected values, if the name of
the column is a plain one; nothing for the identity and for names that are read as paths. -/
theorem getPath_wrappedResult (field : String) (values : List Value) :
    (wrappedResult field values).getPath field =
      if field = "_id" ∨ '.' ∈ field.toList then none
      else some (.array (Accumulator.distinct values)) := by
  unfold wrappedResult
  by_cases hid : field = "_id"
  · subst hid
    rfl
  · simp only [hid, if_false, false_or]
    by_cases hdots : '.' ∈ field.toList
    · rw [if_pos hdots, getPath_of_dotted hdots]
    · rw [if_neg hdots, getPath_of_plain hdots]
      simp [Document.value?]

end Compiler

end DocQuery
