import DocQuery.Proofs.PathText
import Mathlib.Data.List.Nodup
import DocQuery.Stage.Codec
set_option autoImplicit false

/-!
# Proofs: stages and their documents

The document of a stage holds all of it, except for what no document can hold:  a second sort
key of one name, a field of a group under the name of its key, and a count beyond the integers.
Reading never gives a stage with any of these, so the stages without them and the documents that
are read stand for each other.
-/

namespace DocQuery

/-! ## Documents -/

namespace Document

theorem insert_of_notMem {d : Document} {key : String} (v : Value) (h : key ∉ d.names) :
    insert d key v = d ++ [(key, v)] := by
  induction d with
  | nil => rfl
  | cons m rest ih =>
    simp only [names, List.map_cons, List.mem_cons, not_or] at h
    simp [insert, Ne.symm h.1, ih h.2]

/-- Members of new and different names are put at the end, as they are. -/
theorem insertAll_of_nodup {d members : Document} (h : (d ++ members).names.Nodup) :
    insertAll d members = d ++ members := by
  induction members generalizing d with
  | nil => simp [insertAll]
  | cons m rest ih =>
    have hfresh : m.1 ∉ d.names := by
      simp only [names, List.map_append, List.map_cons] at h
      intro hm
      exact List.disjoint_of_nodup_append h hm List.mem_cons_self
    have hstep : insertAll d (m :: rest) = insertAll (d ++ [m]) rest := by
      simp [insertAll, insert_of_notMem m.2 hfresh]
    rw [hstep, ih (by simpa using h)]
    simp

theorem ofList_of_nodup {members : Document} (h : members.names.Nodup) :
    ofList members = members :=
  insertAll_of_nodup h

theorem erase_of_notMem {d : Document} {key : String} (h : key ∉ d.names) :
    erase d key = d := by
  refine List.filter_eq_self.mpr fun m hm => ?_
  have hne : m.1 ≠ key := fun he => h (he ▸ List.mem_map_of_mem hm)
  simpa using hne

theorem notMem_names_erase (d : Document) (key : String) : key ∉ (erase d key).names := by
  simp [names, erase]

end Document

namespace Value

theorem wellFormedItems_iff {items : List Value} :
    WellFormedItems items ↔ ∀ v ∈ items, WellFormed v := by
  induction items with
  | nil => simp [WellFormedItems]
  | cons v rest ih => simp [WellFormedItems, ih]

theorem wellFormedFields_iff {fields : Document} :
    WellFormedFields fields ↔ ∀ m ∈ fields, WellFormed m.2 := by
  induction fields with
  | nil => simp [WellFormedFields]
  | cons m rest ih => simp [WellFormedFields, ih]

theorem wellFormed_array {items : List Value} :
    WellFormed (.array items) ↔ ∀ v ∈ items, WellFormed v := by
  rw [WellFormed, wellFormedItems_iff]

theorem wellFormed_object {fields : Document} :
    WellFormed (.object fields) ↔ fields.names.Nodup ∧ ∀ m ∈ fields, WellFormed m.2 := by
  rw [WellFormed, wellFormedFields_iff]
  rfl

theorem wellFormed_operator {name : String} {argument : Value} :
    WellFormed (.operator name argument) ↔ argument.WellFormed := by
  simp [operator, wellFormed_object, Document.names]

end Value

namespace Stage

/-! ## Stages that documents hold -/

/-- The pipelines inside a stage. -/
def pipelines : Stage → List (List Stage)
  | .lookup _ _ pipeline _ => [pipeline]
  | .facet facets => facets.map (·.2)
  | .unionWith _ pipeline => [pipeline]
  | _ => []

/-- A property of a stage and of every stage inside it. -/
inductive Every (P : Stage → Prop) : Stage → Prop where
  | intro {s : Stage} (here : P s) (inside : ∀ pipeline ∈ s.pipelines,
    ∀ t ∈ pipeline, Every P t) :
    Every P s

/-- Whether no two keys of a sort stage have one name. -/
def SortsByDistinctKeys : Stage → Prop
  | .sort keys => (keys.map (·.1)).Nodup
  | _ => True

/-- The largest count that a document holds. -/
def maxCount : Nat := 9223372036854775807

/-- Whether a document holds a stage apart from sort keys: facets and fields have different
names, no field of a group has the name of its key, and counts are integers of a document. -/
def FitsDocument : Stage → Prop
  | .facet facets => (facets.map (·.1)).Nodup
  | .group _ fields => (Document.names fields).Nodup ∧ "_id" ∉ Document.names fields
  | .skip n => n ≤ maxCount
  | .limit n => n ≤ maxCount
  | _ => True

namespace Every

variable {P Q : Stage → Prop} {s : Stage}

theorem here (h : Every P s) : P s := by
  cases h
  assumption

theorem inside (h : Every P s) {pipeline : List Stage} (hpipeline : pipeline ∈ s.pipelines) :
    ∀ t ∈ pipeline, Every P t := by
  cases h with
  | intro _ hinside => exact hinside pipeline hpipeline

theorem mono (h : Every P s) (himp : ∀ t, P t → Q t) : Every Q s := by
  induction h with
  | intro here _ ih => exact .intro (himp _ here) ih

end Every

theorem every_iff {P : Stage → Prop} {s : Stage} :
    Every P s ↔ P s ∧ ∀ pipeline ∈ s.pipelines, ∀ t ∈ pipeline, Every P t :=
  ⟨fun h => ⟨h.here, fun _ => h.inside⟩, fun h => .intro h.1 h.2⟩

/-- For a stage without pipelines inside. -/
theorem every_iff_of_plain {P : Stage → Prop} {s : Stage} (hplain : s.pipelines = []) :
    Every P s ↔ P s := by
  simp [every_iff (s := s), hplain]

/-! ## Merging keys -/

/-- Sets the direction of a key: in its place if there is one of the name, else at the end. -/
def setKey : List (String × Direction) → String → Direction → List (String × Direction)
  | [], name, direction => [(name, direction)]
  | (n, d) :: rest, name, direction =>
    if n = name then (n, direction) :: rest else (n, d) :: setKey rest name direction

/-- Sort keys without repetition: of keys of one name the first place and the last direction
count. -/
def mergeKeys (keys : List (String × Direction)) : List (String × Direction) :=
  keys.foldl (fun acc k => setKey acc k.1 k.2) []

mutual

/-- The stage with its repeated sort keys merged, and those of the stages inside it. -/
def merged : Stage → Stage
  | .lookup source bindings pipeline target =>
    .lookup source bindings (mergedAll pipeline) target
  | .facet facets => .facet (mergedFacets facets)
  | .sort keys => .sort (mergeKeys keys)
  | .unionWith collection pipeline => .unionWith collection (mergedAll pipeline)
  | s => s

/-- The same for every stage of a pipeline. -/
def mergedAll : List Stage → List Stage
  | [] => []
  | s :: rest => merged s :: mergedAll rest

/-- The same for the pipeline of every facet. -/
def mergedFacets : List (String × List Stage) → List (String × List Stage)
  | [] => []
  | (name, pipeline) :: rest => (name, mergedAll pipeline) :: mergedFacets rest

end

/-- The member of a document for a sort key. -/
def keyMember (k : String × Direction) : String × Value := (k.1, k.2.toValue)

theorem insert_keyMember (keys : List (String × Direction)) (name : String)
    (direction : Direction) : Document.insert (keys.map keyMember) name direction.toValue
      = (setKey keys name direction).map keyMember := by
  induction keys with
  | nil => rfl
  | cons k rest ih =>
    obtain ⟨n, d⟩ := k
    by_cases hn : n = name <;> simp_all [setKey, keyMember, Document.insert]

/-- A document merges sort keys like `mergeKeys` does. -/
theorem ofList_keyMember (keys : List (String × Direction)) :
    Document.ofList (keys.map keyMember) = (mergeKeys keys).map keyMember := by
  have hfold : ∀ acc : List (String × Direction),
      Document.insertAll (acc.map keyMember) (keys.map keyMember)
        = (keys.foldl (fun acc k => setKey acc k.1 k.2) acc).map keyMember := by
    induction keys with
    | nil => simp [Document.insertAll]
    | cons k rest ih =>
      intro acc
      have hstep := ih (setKey acc k.1 k.2)
      rw [← insert_keyMember] at hstep
      simpa [Document.insertAll, keyMember] using hstep
  exact hfold []

theorem setKey_of_notMem {keys : List (String × Direction)} {name : String}
    (direction : Direction)
    (h : name ∉ keys.map (·.1)) : setKey keys name direction = keys ++ [(name, direction)] := by
  induction keys with
  | nil => rfl
  | cons k rest ih =>
    simp only [List.map_cons, List.mem_cons, not_or] at h
    simp [setKey, Ne.symm h.1, ih h.2]

theorem names_setKey (keys : List (String × Direction)) (name : String)
    (direction : Direction) : (setKey keys name direction).map (·.1)
      = if name ∈ keys.map (·.1) then keys.map (·.1) else keys.map (·.1) ++ [name] := by
  induction keys with
  | nil => simp [setKey]
  | cons k rest ih =>
    obtain ⟨n, d⟩ := k
    by_cases hn : n = name
    · simp [setKey, hn]
    · simp only [setKey, hn, if_false, List.map_cons, ih, List.mem_cons, Ne.symm hn, false_or]
      split <;> simp

theorem nodup_mergeKeys (keys : List (String × Direction)) :
    ((mergeKeys keys).map (·.1)).Nodup := by
  have hfold : ∀ acc : List (String × Direction), (acc.map (·.1)).Nodup →
      ((keys.foldl (fun acc k => setKey acc k.1 k.2) acc).map (·.1)).Nodup := by
    induction keys with
    | nil => exact fun acc hacc => hacc
    | cons k rest ih =>
      intro acc hacc
      refine ih _ ?_
      rw [names_setKey]
      split
      · exact hacc
      · rename_i hfresh
        exact List.nodup_append.mpr ⟨hacc, List.nodup_singleton _, by
          rintro a ha b hb rfl
          exact hfresh (List.mem_singleton.mp hb ▸ ha)⟩
  exact hfold [] List.nodup_nil

/-- Merging changes sort keys exactly if one of them is repeated. -/
theorem mergeKeys_eq_self_iff {keys : List (String × Direction)} :
    mergeKeys keys = keys ↔ (keys.map (·.1)).Nodup := by
  constructor
  · exact fun h => h ▸ nodup_mergeKeys keys
  intro hnodup
  have hfold : ∀ acc : List (String × Direction), ((acc ++ keys).map (·.1)).Nodup →
      keys.foldl (fun acc k => setKey acc k.1 k.2) acc = acc ++ keys := by
    clear hnodup
    induction keys with
    | nil => simp
    | cons k rest ih =>
      intro acc hacc
      have hfresh : k.1 ∉ acc.map (·.1) := by
        rw [List.map_append, List.map_cons] at hacc
        exact fun hk => List.disjoint_of_nodup_append hacc hk List.mem_cons_self
      rw [List.foldl_cons, setKey_of_notMem k.2 hfresh, ih _ (by simpa using hacc)]
      simp
  exact hfold [] hnodup

theorem mergedAll_eq_map (stages : List Stage) : mergedAll stages = stages.map merged := by
  induction stages with
  | nil => rfl
  | cons s rest ih => rw [mergedAll, ih, List.map_cons]

theorem mergedFacets_eq_map (facets : List (String × List Stage)) :
    mergedFacets facets = facets.map fun f => (f.1, f.2.map merged) := by
  induction facets with
  | nil => rfl
  | cons f rest ih => rw [mergedFacets, mergedAll_eq_map, ih, List.map_cons]

mutual

/-- A stage is its own merged form exactly if no sort stage in it repeats a key. -/
theorem merged_eq_self_iff (s : Stage) : s.merged = s ↔ s.Every SortsByDistinctKeys := by
  cases s with
  | lookup source bindings pipeline target =>
    rw [every_iff]
    simp [merged, mergedAll_eq_self_iff pipeline, SortsByDistinctKeys, pipelines]
  | facet facets =>
    rw [every_iff]
    simp only [merged, facet.injEq, mergedFacets_eq_self_iff facets, SortsByDistinctKeys,
      pipelines, true_and, List.forall_mem_map]
  | unionWith collection pipeline =>
    rw [every_iff]
    simp [merged, mergedAll_eq_self_iff pipeline, SortsByDistinctKeys, pipelines]
  | sort keys =>
    rw [every_iff_of_plain rfl]
    simp [merged, SortsByDistinctKeys, mergeKeys_eq_self_iff]
  | _ =>
    rw [every_iff_of_plain rfl]
    simp [merged, SortsByDistinctKeys]

theorem mergedAll_eq_self_iff (stages : List Stage) :
    mergedAll stages = stages ↔ ∀ s ∈ stages, s.Every SortsByDistinctKeys := by
  cases stages with
  | nil => simp [mergedAll]
  | cons s rest => simp [mergedAll, merged_eq_self_iff s, mergedAll_eq_self_iff rest]

theorem mergedFacets_eq_self_iff (facets : List (String × List Stage)) :
    mergedFacets facets = facets ↔ ∀ f ∈ facets, ∀ s ∈ f.2, s.Every SortsByDistinctKeys := by
  cases facets with
  | nil => simp [mergedFacets]
  | cons f rest =>
    obtain ⟨name, pipeline⟩ := f
    simp [mergedFacets, mergedAll_eq_self_iff pipeline, mergedFacets_eq_self_iff rest]

end

/-! ## Reading what was written -/

theorem toDocumentList_eq_map (stages : List Stage) :
    toDocumentList stages = stages.map toDocument := by
  induction stages with
  | nil => rfl
  | cons s rest ih => rw [toDocumentList, ih, List.map_cons]

theorem toFacetMembers_eq_map (facets : List (String × List Stage)) :
    toFacetMembers facets = facets.map fun f => (f.1, .array (f.2.map toDocument)) := by
  induction facets with
  | nil => rfl
  | cons f rest ih => rw [toFacetMembers, toDocumentList_eq_map, ih, List.map_cons]

theorem ofDocumentList_written {stages : List Stage}
    (h : ∀ s ∈ stages, ofDocument s.toDocument = .ok s.merged) :
    ofDocumentList (stages.map toDocument) = .ok (stages.map merged) := by
  induction stages with
  | nil => rw [List.map_nil, ofDocumentList, List.map_nil]
  | cons s rest ih =>
    obtain ⟨hs, hrest⟩ := List.forall_mem_cons.mp h
    simp [ofDocumentList, hs, ih hrest]

theorem ofFacetMembers_written {facets : List (String × List Stage)}
    (h : ∀ f ∈ facets, ∀ s ∈ f.2, ofDocument s.toDocument = .ok s.merged) :
    ofFacetMembers (facets.map fun f => (f.1, .array (f.2.map toDocument)))
      = .ok (facets.map fun f => (f.1, f.2.map merged)) := by
  induction facets with
  | nil => rw [List.map_nil, ofFacetMembers, List.map_nil]
  | cons f rest ih =>
    obtain ⟨hf, hrest⟩ := List.forall_mem_cons.mp h
    simp [ofFacetMembers, ofDocuments, ofDocumentList_written hf, ih hrest]

theorem sortKeysOf_keyMember (keys : List (String × Direction)) :
    sortKeysOf (keys.map keyMember) = .ok keys := by
  induction keys with
  | nil => rfl
  | cons k rest ih =>
    obtain ⟨name, direction⟩ := k
    cases direction <;> simp [sortKeysOf, keyMember, Direction.toValue, Value.int?, ih]

theorem countOf_ofNat (stage : String) {n : Nat} (h : n ≤ maxCount) :
    countOf stage (.ofNat n) = .ok n := by
  have hn : (Int64.ofNat n).toInt = n :=
    Int64.toInt_ofNat_of_lt (by unfold maxCount at h; omega)
  simp [countOf, Value.ofNat, Value.int?, hn]

theorem unwindPath_written (path : String) : unwindPath ("$" ++ path) = .ok path := by
  rw [unwindPath, Text.stripFirst?_append]

/-- The names of the stages that hold pipelines. -/
def nestingNames : List String := ["$lookup", "$facet", "$unionWith"]

/-- A stage that holds no pipeline is read from its argument alone. -/
theorem ofDocument_plain {operator : String} (body : Value)
    (h : isOperatorName operator = true ∧ operator ∉ nestingNames) :
    ofDocument (.operator operator body) = ofPlainArgument operator body := by
  obtain ⟨hname, hnesting⟩ := h
  simp only [nestingNames, List.mem_cons, List.not_mem_nil, or_false, not_or] at hnesting
  obtain ⟨hlookup, hfacet, hunion⟩ := hnesting
  rw [Value.operator, ofDocument.eq_def]
  simp only [if_pos hname, if_neg hlookup, if_neg hfacet, if_neg hunion]

theorem ofDocument_facet {facets : List (String × List Stage)}
    (hnames : (facets.map (·.1)).Nodup)
    (hfacets : ofFacetMembers (facets.map fun f => (f.1, .array (f.2.map toDocument))) =
      .ok (facets.map fun f => (f.1, f.2.map merged))) :
    ofDocument (toDocument (.facet facets)) = .ok (merged (.facet facets)) := by
  have hmembers : Document.ofList (facets.map fun f =>
      (f.1, Value.array (f.2.map toDocument))) =
      facets.map fun f => (f.1, Value.array (f.2.map toDocument)) :=
    Document.ofList_of_nodup (by simpa [Document.names, Function.comp_def] using hnames)
  simp [toDocument, Value.operator, toFacetMembers_eq_map, hmembers, ofDocument,
    isOperatorName, Text.startsWith, hfacets, merged, mergedFacets_eq_map, Except.map]

theorem ofDocument_group {key : Value} {fields : Document} (hnames : fields.names.Nodup)
    (hid : "_id" ∉ fields.names) :
    ofDocument (toDocument (.group key fields)) = .ok (merged (.group key fields)) := by
  have hwritten : Document.insertAll [("_id", key)] fields = ("_id", key) :: fields :=
    Document.insertAll_of_nodup (by
      simpa [Document.names] using ⟨by simpa [Document.names] using hid, hnames⟩)
  have herase : Document.erase (("_id", key) :: fields) "_id" = fields := by
    simpa [Document.erase] using Document.erase_of_notMem hid
  rw [toDocument, ofDocument_plain _ (by decide)]
  simp [ofPlainArgument, groupOf, fieldsOf, hwritten, Document.value?, herase, merged]

/-- What is read from the document of a stage is the stage with its repeated keys merged. -/
theorem ofDocument_toDocument {s : Stage} (h : s.Every FitsDocument) :
    ofDocument s.toDocument = .ok s.merged := by
  induction h with
  | @intro s here inside ih =>
    cases s with
    | lookup source bindings pipeline target =>
      have hpipeline := ofDocumentList_written (ih pipeline (by simp [pipelines]))
      simp [toDocument, Value.operator, toDocumentList_eq_map, ofDocument, isOperatorName,
        Text.startsWith, lookupText, Document.value?, Value.string?, Value.fields?,
        ofPipelineMember, ofDocuments, hpipeline, merged, mergedAll_eq_map]
    | facet facets =>
      exact ofDocument_facet here (ofFacetMembers_written fun f hf =>
        ih f.2 (List.mem_map_of_mem hf))
    | unionWith collection pipeline =>
      have hpipeline := ofDocumentList_written (ih pipeline (by simp [pipelines]))
      simp [toDocument, Value.operator, toDocumentList_eq_map, ofDocument, isOperatorName,
        Text.startsWith, Document.value?, Value.string?, ofPipelineMember, ofDocuments,
        hpipeline, merged, mergedAll_eq_map]
    | group key fields => exact ofDocument_group here.1 here.2
    | unwind path keepEmpty =>
      rw [toDocument, ofDocument_plain _ (by decide)]
      cases keepEmpty <;>
        simp [ofPlainArgument, unwindOf, fieldPath, unwindPath_written, Document.value?,
          Value.string?, isTruthy?, Value.isTruthy, merged]
    | sort keys =>
      have hkeys : Document.ofList (keys.map fun k => (k.1, k.2.toValue)) =
          (mergeKeys keys).map keyMember :=
        ofList_keyMember keys
      rw [toDocument, ofDocument_plain _ (by decide)]
      simp [ofPlainArgument, fieldsOf, hkeys, sortKeysOf_keyMember, merged, Except.map]
    | skip n =>
      rw [toDocument, ofDocument_plain _ (by decide)]
      simp [ofPlainArgument, countOf_ofNat _ here, merged, Except.map]
    | limit n =>
      rw [toDocument, ofDocument_plain _ (by decide)]
      simp [ofPlainArgument, countOf_ofNat _ here, merged, Except.map]
    | _ =>
      rw [toDocument, ofDocument_plain _ (by decide)]
      simp [ofPlainArgument, fieldsOf, merged, Except.map]

/-! ## What is read -/

theorem fieldsOf_ok {stage : String} {body : Value} {fields : Document}
    (h : fieldsOf stage body = .ok fields) : body = .object fields := by
  unfold fieldsOf at h
  split at h
  · rw [Except.ok.inj h]
  · simp at h

theorem countOf_ok {stage : String} {body : Value} {n : Nat} (h : countOf stage body = .ok n) :
    n ≤ maxCount := by
  unfold countOf at h
  split at h
  · rename_i i hi
    split at h
    · have hlt := i.toInt_lt
      rw [← Except.ok.inj h]
      unfold maxCount
      omega
    · simp at h
  · simp at h

theorem unwindOf_ok {body : Value} {s : Stage} (h : unwindOf body = .ok s) :
    ∃ path keepEmpty, s = .unwind path keepEmpty := by
  unfold unwindOf at h
  split at h
  · split at h
    · exact ⟨_, _, (Except.ok.inj h).symm⟩
    · simp at h
  · split at h
    · exact ⟨_, _, (Except.ok.inj h).symm⟩
    · simp at h
  · simp at h

theorem groupOf_ok {body : Value} {s : Stage} (h : groupOf body = .ok s) :
    ∃ spec key, body = .object spec ∧ s = .group key (Document.erase spec "_id") := by
  unfold groupOf at h
  split at h
  · simp at h
  · rename_i spec hspec
    split at h
    · exact ⟨spec, _, fieldsOf_ok hspec, (Except.ok.inj h).symm⟩
    · simp at h

/-- The keys that are read have the names of the members. -/
theorem sortKeysOf_ok {spec : Document} {keys : List (String × Direction)}
    (h : sortKeysOf spec = .ok keys) : keys.map (·.1) = spec.names := by
  induction spec generalizing keys with
  | nil =>
    rw [sortKeysOf] at h
    rw [← Except.ok.inj h]
    rfl
  | cons m rest ih =>
    rw [sortKeysOf] at h
    split at h
    · split at h
      · split at h
        · rename_i others hothers
          rw [← Except.ok.inj h, List.map_cons, ih hothers]
          rfl
        · simp at h
      · simp at h
    · simp at h

theorem except_map_ok {ε α β : Type} {f : α → β} {r : Except ε α} {b : β}
    (h : r.map f = .ok b) : ∃ a, r = .ok a ∧ f a = b := by
  cases r with
  | error e => simp [Except.map] at h
  | ok a => exact ⟨a, rfl, Except.ok.inj h⟩

/-- A stage that is read from an argument without pipelines. -/
theorem ofPlainArgument_ok {operator : String} {body : Value} {s : Stage}
    (hbody : body.WellFormed) (h : ofPlainArgument operator body = .ok s) :
    s.pipelines = [] ∧ s.FitsDocument ∧ s.SortsByDistinctKeys := by
  unfold ofPlainArgument at h
  split at h
  · exact Except.ok.inj h ▸ ⟨rfl, trivial, trivial⟩
  · obtain ⟨fields, -, rfl⟩ := except_map_ok h
    exact ⟨rfl, trivial, trivial⟩
  · obtain ⟨fields, -, rfl⟩ := except_map_ok h
    exact ⟨rfl, trivial, trivial⟩
  · obtain ⟨fields, -, rfl⟩ := except_map_ok h
    exact ⟨rfl, trivial, trivial⟩
  · obtain ⟨path, keepEmpty, rfl⟩ := unwindOf_ok h
    exact ⟨rfl, trivial, trivial⟩
  · obtain ⟨spec, key, rfl, rfl⟩ := groupOf_ok h
    have hnames := (Value.wellFormed_object.mp hbody).1
    have herased : (Document.erase spec "_id").names.Sublist (Document.names spec) :=
      List.filter_sublist.map _
    exact ⟨rfl, ⟨herased.nodup hnames, Document.notMem_names_erase spec "_id"⟩, trivial⟩
  · split at h
    · rename_i spec hspec
      obtain ⟨keys, hkeys, rfl⟩ := except_map_ok h
      rw [fieldsOf_ok hspec, Value.wellFormed_object] at hbody
      refine ⟨rfl, trivial, ?_⟩
      rw [SortsByDistinctKeys, sortKeysOf_ok hkeys]
      exact hbody.1
    · simp at h
  · obtain ⟨n, hn, rfl⟩ := except_map_ok h
    exact ⟨rfl, countOf_ok hn, trivial⟩
  · obtain ⟨n, hn, rfl⟩ := except_map_ok h
    exact ⟨rfl, countOf_ok hn, trivial⟩
  · split at h
    · exact Except.ok.inj h ▸ ⟨rfl, trivial, trivial⟩
    · simp at h
  · simp at h

theorem ofDocumentList_ok {items : List Value} {stages : List Stage}
    (h : ofDocumentList items = .ok stages) :
    ∀ s ∈ stages, ∃ item ∈ items, ofDocument item = .ok s := by
  induction items generalizing stages with
  | nil =>
    rw [ofDocumentList] at h
    rw [← Except.ok.inj h]
    simp
  | cons item rest ih =>
    rw [ofDocumentList] at h
    split at h
    · simp at h
    · rename_i s hs
      split at h
      · simp at h
      · rename_i others hothers
        rw [← Except.ok.inj h]
        refine List.forall_mem_cons.mpr ⟨⟨item, List.mem_cons_self, hs⟩, fun t ht => ?_⟩
        obtain ⟨other, hmem, hother⟩ := ih hothers t ht
        exact ⟨other, List.mem_cons_of_mem item hmem, hother⟩

/-- Every stage that is read is read from an item of an array. -/
theorem ofDocuments_ok {v : Value} {stages : List Stage} (h : ofDocuments v = .ok stages) :
    ∃ items, v = .array items ∧ ∀ s ∈ stages, ∃ item ∈ items, ofDocument item = .ok s := by
  unfold ofDocuments at h
  split at h
  · exact ⟨_, rfl, ofDocumentList_ok h⟩
  · simp at h

theorem ofPipelineMember_ok {spec : Document} {pipeline : List Stage}
    (h : ofPipelineMember spec = .ok pipeline) :
    pipeline = [] ∨ ∃ m ∈ spec, ofDocuments m.2 = .ok pipeline := by
  induction spec with
  | nil =>
    rw [ofPipelineMember] at h
    exact .inl (Except.ok.inj h).symm
  | cons m rest ih =>
    rw [ofPipelineMember] at h
    split at h
    · exact .inr ⟨m, List.mem_cons_self, h⟩
    · rcases ih h with hnone | ⟨m', hm', hpipeline⟩
      · exact .inl hnone
      · exact .inr ⟨m', List.mem_cons_of_mem m hm', hpipeline⟩

theorem ofFacetMembers_ok {spec : Document} {facets : List (String × List Stage)}
    (h : ofFacetMembers spec = .ok facets) :
    facets.map (·.1) = spec.names ∧ ∀ f ∈ facets, ∃ m ∈ spec, ofDocuments m.2 = .ok f.2 := by
  induction spec generalizing facets with
  | nil =>
    rw [ofFacetMembers] at h
    rw [← Except.ok.inj h]
    simp [Document.names]
  | cons m rest ih =>
    rw [ofFacetMembers] at h
    split at h
    · simp at h
    · rename_i stages hstages
      split at h
      · simp at h
      · rename_i others hothers
        obtain ⟨hnames, hmembers⟩ := ih hothers
        rw [← Except.ok.inj h]
        refine ⟨by simp [hnames, Document.names], ?_⟩
        refine List.forall_mem_cons.mpr ⟨⟨m, List.mem_cons_self, hstages⟩, fun f hf => ?_⟩
        obtain ⟨m', hm', hf'⟩ := hmembers f hf
        exact ⟨m', List.mem_cons_of_mem m hm', hf'⟩

/-- What a document is that a stage is read from. -/
theorem ofDocument_ok {document : Value} {s : Stage} (h : ofDocument document = .ok s) :
    ∃ operator body, document = .operator operator body ∧
      ((∃ spec pipeline source bindings target, body = .object spec ∧ ofPipelineMember spec =
        .ok pipeline ∧ s = .lookup source bindings pipeline target) ∨
        (∃ spec facets, body = .object spec ∧ ofFacetMembers spec = .ok facets ∧
          s = .facet facets) ∨
        (∃ collection, s = .unionWith collection []) ∨
        (∃ spec pipeline collection, body = .object spec ∧ ofPipelineMember spec =
          .ok pipeline ∧ s = .unionWith collection pipeline) ∨
        ofPlainArgument operator body = .ok s) := by
  rw [ofDocument.eq_def] at h
  split at h
  · rename_i operator body
    refine ⟨operator, body, rfl, ?_⟩
    split at h
    · split at h
      · split at h
        · rename_i spec
          split at h
          · simp at h
          · split at h
            · simp at h
            · rename_i pipeline hpipeline
              split at h
              · simp at h
              · exact .inl ⟨spec, pipeline, _, _, _, rfl, hpipeline, (Except.ok.inj h).symm⟩
        · simp at h
      · split at h
        · split at h
          · rename_i spec
            obtain ⟨facets, hfacets, rfl⟩ := except_map_ok h
            exact .inr (.inl ⟨spec, facets, rfl, hfacets, rfl⟩)
          · simp at h
        · split at h
          · split at h
            · exact .inr (.inr (.inl ⟨_, (Except.ok.inj h).symm⟩))
            · rename_i spec
              split at h
              · simp at h
              · rename_i pipeline hpipeline
                exact .inr (.inr (.inr (.inl ⟨spec, pipeline, _, rfl, hpipeline,
                  (Except.ok.inj h).symm⟩)))
            · simp at h
          · exact .inr (.inr (.inr (.inr h)))
    · simp at h
  · simp at h

/-- Every stage that is read fits into a document and sorts by different keys, and so do the
stages inside it. -/
theorem every_of_ofDocument {document : Value} {s : Stage} (hdocument : document.WellFormed)
    (h : ofDocument document = .ok s) :
        s.Every fun t => t.FitsDocument ∧ t.SortsByDistinctKeys := by
  obtain ⟨operator, body, rfl, hcases⟩ := ofDocument_ok h
  rw [Value.wellFormed_operator] at hdocument
  -- the pipelines inside are read from items of members of the argument, which are smaller
  -- documents
  have hinside : ∀ (spec : Document) (m : String × Value) (pipeline : List Stage),
    body = .object spec → m ∈ spec → ofDocuments m.2 = .ok pipeline → ∀ t ∈ pipeline,
    t.Every fun t => t.FitsDocument ∧ t.SortsByDistinctKeys := by
    rintro spec m pipeline rfl hm hpipeline t ht
    obtain ⟨items, hitems, hread⟩ := ofDocuments_ok hpipeline
    obtain ⟨item, hitem, ht'⟩ := hread t ht
    have hfield := (Value.wellFormed_object.mp hdocument).2 m hm
    rw [hitems, Value.wellFormed_array] at hfield
    have hsmaller : sizeOf item < sizeOf (Value.operator operator (.object spec)) := by
      have hitem' := List.sizeOf_lt_of_mem hitem
      have hm' := List.sizeOf_lt_of_mem hm
      obtain ⟨name, v⟩ := m
      obtain rfl : v = .array items := hitems
      simp [Value.operator] at hm' ⊢
      omega
    exact every_of_ofDocument (hfield item hitem) ht'
  have hmember : ∀ (spec : Document) (pipeline : List Stage), body = .object spec →
      ofPipelineMember spec = .ok pipeline →
      ∀ t ∈ pipeline, t.Every fun t => t.FitsDocument ∧ t.SortsByDistinctKeys := by
    intro spec pipeline hspec hpipeline
    rcases ofPipelineMember_ok hpipeline with rfl | ⟨m, hm, hread⟩
    · simp
    · exact hinside spec m pipeline hspec hm hread
  rcases hcases with ⟨spec, pipeline, _, _, _, hspec, hpipeline, rfl⟩ | ⟨spec, facets, hspec,
    hfacets, rfl⟩ | ⟨_, rfl⟩ | ⟨spec, pipeline, _, hspec, hpipeline, rfl⟩ | hplain
  · exact .intro ⟨trivial, trivial⟩
      (by simpa [pipelines] using hmember spec pipeline hspec hpipeline)
  · obtain ⟨hnames, hmembers⟩ := ofFacetMembers_ok hfacets
    have hnodup : (Document.names spec).Nodup :=
      (Value.wellFormed_object.mp (hspec ▸ hdocument)).1
    refine .intro ⟨by rwa [FitsDocument, hnames], trivial⟩ fun pipeline hpipeline => ?_
    obtain ⟨f, hf, rfl⟩ := List.mem_map.mp hpipeline
    obtain ⟨m, hm, hread⟩ := hmembers f hf
    exact hinside spec m f.2 hspec hm hread
  · exact .intro ⟨trivial, trivial⟩ (by simp [pipelines])
  · exact .intro ⟨trivial, trivial⟩
      (by simpa [pipelines] using hmember spec pipeline hspec hpipeline)
  · obtain ⟨hnone, hhere⟩ := ofPlainArgument_ok hdocument hplain
    exact (every_iff_of_plain hnone).mpr hhere
termination_by sizeOf document

/-- A stage is read back from its document if it fits into one and no sort stage in it repeats a
key; and what is read from any document is such a stage, so that writing and reading it again
changes nothing. -/
theorem ofDocument_round_trips :
    (∀ s : Stage, s.Every FitsDocument → s.Every SortsByDistinctKeys →
      ofDocument s.toDocument = .ok s) ∧
      ∀ (document : Value) (s : Stage), document.WellFormed → ofDocument document = .ok s →
        s.Every FitsDocument ∧ s.Every SortsByDistinctKeys ∧
            ofDocument s.toDocument = .ok s := by
  have hwritten : ∀ s : Stage, s.Every FitsDocument → s.Every SortsByDistinctKeys →
      ofDocument s.toDocument = .ok s := by
    intro s hfits hkeys
    rw [ofDocument_toDocument hfits, (merged_eq_self_iff s).mpr hkeys]
  refine ⟨hwritten, fun document s hdocument h => ?_⟩
  have hboth := every_of_ofDocument hdocument h
  have hfits := hboth.mono fun t ht => ht.1
  have hkeys := hboth.mono fun t ht => ht.2
  exact ⟨hfits, hkeys, hwritten s hfits hkeys⟩

/-- A lookup whose pipeline holds facets, one of which adds a part of another collection. -/
def deepLookup : Stage :=
  .lookup "books" [("key", .string "$_id")]
    [.facet [("top", [.unwind "tags" true, .sort [("year", .descending), ("title", .ascending)],
      .limit maxCount]), ("all", [.unionWith "drafts" [.skip 3],
      .group .null [("n", .operator "$sum" (.int 1))]])]]
    "books"

/-- A document that is written in another way than the stage in it. -/
def looseFacet : Value :=
  .operator "$facet" (.object [("all", .array
    [.operator "$unionWith" (.string "drafts"), .operator "$unwind"
      (.object [("path", .string "$tags")])])])

theorem deepLookup_round_trips : ofDocument deepLookup.toDocument = .ok deepLookup ∧
    ∃ s, ofDocument looseFacet = .ok s ∧ s.toDocument.compactText ≠ looseFacet.compactText ∧
      ofDocument s.toDocument = .ok s := by
  have hfits : deepLookup.Every FitsDocument := by
    refine .intro trivial ?_
    simp only [deepLookup, pipelines, List.forall_mem_singleton]
    refine .intro (by simp [FitsDocument]) ?_
    simp only [pipelines, List.map_cons, List.map_nil, List.forall_mem_cons, List.not_mem_nil,
      false_implies, implies_true, and_true]
    refine ⟨⟨?_, ?_, ?_⟩, ?_, ?_⟩
    · exact (every_iff_of_plain rfl).mpr trivial
    · exact (every_iff_of_plain rfl).mpr trivial
    · exact (every_iff_of_plain rfl).mpr (Nat.le_refl maxCount)
    · refine .intro trivial ?_
      simp only [pipelines, List.forall_mem_singleton]
      exact (every_iff_of_plain rfl).mpr (by simp [FitsDocument, maxCount])
    · exact (every_iff_of_plain rfl).mpr (by simp [FitsDocument, Document.names])
  have hkeys : deepLookup.Every SortsByDistinctKeys :=
    (merged_eq_self_iff deepLookup).mp (by rfl)
  have hread : ofDocument looseFacet =
      .ok (.facet [("all", [.unionWith "drafts" [], .unwind "tags" false])]) := by
    rfl
  have hformed : looseFacet.WellFormed := by
    simp [looseFacet, Value.operator, Value.WellFormed, Value.WellFormedFields,
      Value.WellFormedItems]
  exact ⟨ofDocument_round_trips.1 deepLookup hfits hkeys, _, hread, by decide +kernel,
    (ofDocument_round_trips.2 looseFacet _ hformed hread).2.2⟩

end Stage

end DocQuery
