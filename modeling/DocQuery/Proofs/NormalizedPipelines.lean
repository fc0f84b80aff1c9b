import DocQuery.Proofs.MirroredRows
import DocQuery.Proofs.NormalizedQueries
import DocQuery.Proofs.StageDocuments
set_option autoImplicit false

/-!
# Proofs: pipelines of one normal form compute the same

The normal form of a pipeline is that of its documents.  It fixes the stages up to the order of
operands, so that pipelines of one normal form do the same stage by stage, if they hold no data
that the normal form takes for the same by mistake.
-/

namespace DocQuery

namespace Value

variable {v w : Value}

theorem SameNormalForm.isFlag_eq (h : SameNormalForm v w) :
    Stage.isFlag v = Stage.isFlag w := by
  cases v with
  | array items =>
    obtain ⟨others, rfl, -⟩ := h.exists_items
    rfl
  | object fields =>
    obtain ⟨members, rfl, -⟩ := h.exists_fields
    rfl
  | _ => rw [h.eq_of_scalar rfl rfl]

theorem SameNormalForm.isTruthy_eq (h : SameNormalForm v w) : v.isTruthy = w.isTruthy := by
  cases v with
  | array items =>
    obtain ⟨others, rfl, -⟩ := h.exists_items
    rfl
  | object fields =>
    obtain ⟨members, rfl, -⟩ := h.exists_fields
    rfl
  | _ => rw [h.eq_of_scalar rfl rfl]

end Value

namespace Stage

open Value (Datum SameMember SameNormalForm SameNormalQuery dataOfMembers dataOfQuery
    normalizeItems
  normalizeFields sortOperands)

/-! ## Data in stages -/

mutual

/-- The data in a stage. -/
def data : Stage → List Datum
  | .select query => dataOfQuery query
  | .project fields => dataOfMembers fields
  | .addFields fields => dataOfMembers fields
  | .set fields => dataOfMembers fields
  | .lookup _ bindings pipeline _ => dataOfMembers bindings ++ dataOfPipeline pipeline
  | .facet facets => dataOfFacets facets
  | .group key fields => key.data ++ dataOfMembers fields
  | .unionWith _ pipeline => dataOfPipeline pipeline
  | _ => []

/-- The data in a pipeline. -/
def dataOfPipeline : List Stage → List Datum
  | [] => []
  | s :: rest => data s ++ dataOfPipeline rest

/-- The data in facets, whose pipelines are members of an object. -/
def dataOfFacets : List (String × List Stage) → List Datum
  | [] => []
  | (name, pipeline) :: rest =>
    .entry name (Value.normalize (toDocuments pipeline)) :: (dataOfPipeline pipeline ++
      dataOfFacets rest)

end

/-- Whether the document of a stage says all of it, but for the pipelines inside: facets, fields
of a group and sort keys have different names, no field of a group has the name of its key, and
counts are machine words. -/
def IsSaid : Stage → Prop
  | .facet facets => (facets.map (·.1)).Nodup
  | .group _ fields => (Document.names fields).Nodup ∧ "_id" ∉ Document.names fields
  | .sort keys => (keys.map (·.1)).Nodup
  | .skip n => n < 2 ^ 64
  | .limit n => n < 2 ^ 64
  | _ => True

/-- Whether two stages do the same with documents wherever both return. -/
def StagesAgree (s t : Stage) : Prop :=
  ∀ (store : Store) (vars : Document) (docs : List Value), Consistent (run store s vars docs)
    (run store t vars docs)

theorem StagesAgree.refl (s : Stage) : StagesAgree s s := fun _ _ _ => .refl _

variable {s t : Stage} {v w : Value} {fields members vars : Document} {docs : List Value}
  {scope : Scope} {store : Store}
  {stages others : List Stage}

/-! ## Steps of stages -/

theorem consistent_each {α : Type} {step other : Value → Except ExecError α}
    (h : ∀ doc, Consistent (step doc) (other doc))
    (docs : List Value) : Consistent (each step docs) (each other docs) := by
  have hcons : ∀ (f : Value → Except ExecError α) (doc : Value) (rest : List Value),
    each f (doc :: rest) = (f doc).bind fun a => (each f rest).bind fun as =>
    .ok (a :: as) := by
    intro f doc rest
    rw [each]
    cases f doc with
    | error e => rfl
    | ok a => cases each f rest <;> rfl
  induction docs with
  | nil => exact .refl _
  | cons doc rest ih =>
    rw [hcons, hcons]
    exact (h doc).bind fun _ => ih.bind fun _ => .refl _

theorem consistent_selected (h : SameNormalQuery v w) (docs : List Value) :
    Consistent (selected v vars docs) (selected w vars docs) := by
  have hcons : ∀ (query doc : Value) (rest : List Value), selected query vars (doc :: rest) =
      (query.selects ⟨doc, vars⟩).bind fun keep => (selected query vars rest).bind fun docs =>
        .ok (if keep then doc :: docs else docs) := by
    intro query doc rest
    rw [selected]
    cases query.selects ⟨doc, vars⟩ with
    | error e => rfl
    | ok keep => cases selected query vars rest <;> rfl
  induction docs with
  | nil => exact .refl _
  | cons doc rest ih =>
    rw [hcons, hcons]
    exact (h.agree ⟨doc, vars⟩).bind fun _ => ih.bind fun _ => .refl _

/-! ### Fields -/

theorem has_sameMember (h : List.Forall₂ SameMember fields members) (key : String) :
    Document.has fields key = Document.has members key := by
  unfold Document.has
  induction h with
  | nil => rfl
  | cons hfirst _ ih => rw [List.any_cons, List.any_cons, hfirst.1, ih]

theorem isExclusion_sameMember (h : List.Forall₂ SameMember fields members) :
    isExclusion fields = isExclusion members := by
  refine isExclusion_eq (h.imp fun m n hm => ⟨hm.1, ?_⟩)
  rw [hm.2.isFlag_eq, hm.2.isTruthy_eq]

theorem excluded_sameMember (h : List.Forall₂ SameMember fields members) (doc : Value) :
    excluded doc fields = excluded doc members := by
  have hany : ∀ name : String, fields.any (fun f => f.1 == name && !f.2.isTruthy) =
      members.any fun f => f.1 == name && !f.2.isTruthy := by
    intro name
    induction h with
    | nil => rfl
    | cons hfirst _ ih => rw [List.any_cons, List.any_cons, ih, hfirst.1, hfirst.2.isTruthy_eq]
  simp only [excluded, hany]

theorem projected_cons_eq (output : Document) (name : String) (v : Value) (rest : Document)
    (scope : Scope) : projected scope output ((name, v) :: rest) =
      (if isFlag v then .ok (if v.isTruthy then scope.root.getPath name else none) else
        v.eval scope : Evaluation).bind
        fun r => projected scope (r.elim output (Document.insert output name)) rest := by
  rw [projected]
  generalize (if isFlag v then _ else _ : Evaluation) = result
  cases result with
  | error e => rfl
  | ok r => cases r <;> rfl

theorem consistent_projected (h : List.Forall₂ SameMember fields members) (scope : Scope)
    (output : Document) :
    Consistent (projected scope output fields) (projected scope output members) := by
  induction h generalizing output with
  | nil => exact .refl _
  | @cons m n _ _ hfirst _ ih =>
    obtain ⟨name, v⟩ := m
    obtain ⟨_, w⟩ := n
    obtain ⟨rfl, hvalue⟩ := hfirst
    rw [projected_cons_eq, projected_cons_eq, hvalue.isFlag_eq, hvalue.isTruthy_eq]
    refine Consistent.bind ?_ fun r => ih _
    split
    · exact .refl _
    · exact hvalue.agrees scope

theorem consistent_projection (h : List.Forall₂ SameMember fields members) (doc : Value) :
    Consistent (projection fields vars doc) (projection members vars doc) := by
  unfold projection
  rw [isExclusion_sameMember h, excluded_sameMember h, has_sameMember h]
  split
  · exact .refl _
  · exact (consistent_projected h _ _).map _

theorem computed_cons_eq (name : String) (v : Value) (rest : Document) (scope : Scope) :
    computed scope ((name, v) :: rest) =
      (v.eval scope).bind fun r => (computed scope rest).bind fun others =>
          .ok ((name, r) :: others) := by
  rw [computed]
  cases v.eval scope with
  | error e => rfl
  | ok r => cases computed scope rest <;> rfl

theorem consistent_addComputed (h : List.Forall₂ SameMember fields members) (doc : Value) :
    Consistent (addComputed fields vars doc) (addComputed members vars doc) := by
  have hcomputed : Consistent (computed ⟨doc, vars⟩ fields) (computed ⟨doc, vars⟩ members) := by
    induction h with
    | nil => exact .refl _
    | @cons m n _ _ hfirst _ ih =>
      obtain ⟨name, v⟩ := m
      obtain ⟨_, w⟩ := n
      obtain ⟨rfl, hvalue⟩ := hfirst
      rw [computed_cons_eq, computed_cons_eq]
      exact (hvalue.agrees _).bind fun _ => ih.bind fun _ => .refl _
  exact hcomputed.map _

theorem consistent_bound (h : List.Forall₂ SameMember fields members) (scope : Scope)
    (start : Document) : Consistent (bound scope start fields) (bound scope start members) := by
  have hcons : ∀ (start : Document) (name : String) (v : Value) (rest : Document),
    bound scope start ((name, v) :: rest) = (v.eval scope).bind fun r => bound scope
    (Document.insert start name (r.getD .null)) rest := by
    intro start name v rest
    rw [bound]
    cases v.eval scope <;> rfl
  induction h generalizing start with
  | nil => exact .refl _
  | @cons m n _ _ hfirst _ ih =>
    obtain ⟨name, v⟩ := m
    obtain ⟨_, w⟩ := n
    obtain ⟨rfl, hvalue⟩ := hfirst
    rw [hcons, hcons]
    exact (hvalue.agrees scope).bind fun _ => ih _

/-! ### Groups -/

theorem accumulated_operator {key : String} (hkey : isOperatorName key = true) (vars : Document)
    (docs : List Value) (name : String) (e : Value) :
    accumulated vars docs name (.operator key e) =
      (each (fun doc => e.eval ⟨doc, vars⟩) docs).bind fun inputs =>
        match Accumulator.ofName? key with
        | some a => a.apply inputs
        | none => .error (.unknownOperator key) := by
  have hoperator : (Value.operator key e).operator? = some (key, e) := by
    simp [Value.operator, Value.operator?, hkey]
  rw [accumulated, hoperator]
  simp only
  cases each (fun doc => e.eval ⟨doc, vars⟩) docs <;> rfl

theorem ordered_of_accumulator {key : String} {a : Accumulator}
    (h : Accumulator.ofName? key = some a) :
    key ≠ "$literal" ∧ Value.isUnordered key = false := by
  unfold Accumulator.ofName? at h
  split at h
  case h_6 => cases h
  all_goals exact ⟨by decide, rfl⟩

theorem consistent_accumulated (h : SameNormalForm v w) (vars : Document) (docs : List Value)
    (name : String) :
    Consistent (accumulated vars docs name v) (accumulated vars docs name w) := by
  cases hop : v.operator? with
  | none =>
    rw [accumulated, hop]
    exact .error_left _ _
  | some applied =>
    obtain ⟨key, e⟩ := applied
    obtain ⟨fields, rfl⟩ : ∃ fields, v = .object fields := by
      cases v with
      | object fields => exact ⟨fields, rfl⟩
      | _ => simp [Value.operator?] at hop
    obtain ⟨hkey, hv⟩ := Value.operator?_eq_some hop
    rw [hv] at h ⊢
    obtain ⟨e', rfl, -⟩ := h.exists_argument
    rw [accumulated_operator hkey, accumulated_operator hkey]
    cases ha : Accumulator.ofName? key with
    | none =>
      cases each (fun doc => e.eval ⟨doc, vars⟩) docs <;> exact .error_left _ _
    | some a =>
      obtain ⟨hliteral, hordered⟩ := ordered_of_accumulator ha
      have hinputs : SameNormalForm e e' := h.argument hliteral (.inl hordered)
      exact (consistent_each (fun doc => hinputs.agrees ⟨doc, vars⟩) docs).bind fun _ => .refl _

theorem consistent_accumulatedFields (h : List.Forall₂ SameMember fields members)
    (vars : Document) (docs : List Value) (output : Document) :
    Consistent (accumulatedFields vars docs output fields) (accumulatedFields vars docs output
        members) := by
  have hcons : ∀ (output : Document) (name : String) (v : Value) (rest : Document),
      accumulatedFields vars docs output ((name, v) :: rest) =
        (accumulated vars docs name v).bind fun w => accumulatedFields vars docs
            (Document.insert output name w) rest := by
    intro output name v rest
    rw [accumulatedFields]
    cases accumulated vars docs name v <;> rfl
  induction h generalizing output with
  | nil => exact .refl _
  | @cons m n _ _ hfirst _ ih =>
    obtain ⟨name, v⟩ := m
    obtain ⟨_, w⟩ := n
    obtain ⟨rfl, hvalue⟩ := hfirst
    rw [hcons, hcons]
    exact (consistent_accumulated hvalue vars docs name).bind fun _ => ih _

theorem consistent_grouped (hkey : SameNormalForm v w)
    (h : List.Forall₂ SameMember fields members) (vars : Document)
    (docs : List Value) :
        Consistent (grouped v fields vars docs) (grouped w members vars docs) := by
  have hgroups : ∀ groups, Consistent (groupDocuments fields vars groups)
      (groupDocuments members vars groups) := by
    have hcons : ∀ (fields : Document) (g : Group) (rest : List Group),
      groupDocuments fields vars (g :: rest) = (accumulatedFields vars g.members
      [("_id", g.key)] fields).bind fun doc =>
          (groupDocuments fields vars rest).bind fun docs => .ok (.object doc :: docs) := by
      intro fields g rest
      rw [groupDocuments]
      cases accumulatedFields vars g.members [("_id", g.key)] fields with
      | error e => rfl
      | ok doc => cases groupDocuments fields vars rest <;> rfl
    intro groups
    induction groups with
    | nil => exact .refl _
    | cons g rest ih =>
      rw [hcons, hcons]
      exact (consistent_accumulatedFields h vars g.members _).bind fun _ =>
        ih.bind fun _ => .refl _
  have hgrouped : ∀ (key : Value) (fields : Document), grouped key fields vars docs =
      (each (fun doc => (key.eval ⟨doc, vars⟩).map fun k => (k.getD .null, doc))
          docs).bind fun keyed =>
        groupDocuments fields vars (groupsOf keyed) := by
    intro key fields
    rw [grouped]
    cases each (fun doc => (key.eval ⟨doc, vars⟩).map fun k => (k.getD .null, doc)) docs <;> rfl
  rw [hgrouped, hgrouped]
  exact (consistent_each (fun doc => (hkey.agrees ⟨doc, vars⟩).map _) docs).bind
    fun _ => hgroups _

/-! ### Pipelines inside -/

theorem consistent_runAll (h : List.Forall₂ StagesAgree stages others) (store : Store)
    (vars : Document)
    (docs : List Value) :
        Consistent (runAll store stages vars docs) (runAll store others vars docs) := by
  have hcons : ∀ (s : Stage) (rest : List Stage) (docs : List Value),
    runAll store (s :: rest) vars docs = (run store s vars docs).bind fun results =>
    runAll store rest vars results := by
    intro s rest docs
    rw [runAll]
    cases run store s vars docs <;> rfl
  induction h generalizing docs with
  | nil => exact .refl _
  | cons hfirst _ ih =>
    rw [hcons, hcons]
    exact (hfirst store vars docs).bind fun results => ih results

/-- Whether two facets have one name, and pipelines that do the same. -/
def FacetsAgree (f g : String × List Stage) : Prop :=
    f.1 = g.1 ∧ List.Forall₂ StagesAgree f.2 g.2

theorem consistent_runFacets {facets facets' : List (String × List Stage)}
    (h : List.Forall₂ FacetsAgree facets facets')
    (store : Store) (vars : Document) (docs : List Value) :
    Consistent (runFacets store facets vars docs) (runFacets store facets' vars docs) := by
  have hcons : ∀ (name : String) (pipeline : List Stage) (rest : List (String × List Stage)),
      runFacets store ((name, pipeline) :: rest) vars docs =
        (runAll store pipeline vars docs).bind fun results =>
          (runFacets store rest vars docs).bind fun others =>
              .ok ((name, .array results) :: others) := by
    intro name pipeline rest
    rw [runFacets]
    cases runAll store pipeline vars docs with
    | error e => rfl
    | ok results => cases runFacets store rest vars docs <;> rfl
  induction h with
  | nil => exact .refl _
  | @cons f g _ _ hfirst _ ih =>
    obtain ⟨name, pipeline⟩ := f
    obtain ⟨_, pipeline'⟩ := g
    obtain ⟨rfl, hpipeline⟩ := hfirst
    rw [hcons, hcons]
    exact (consistent_runAll hpipeline store vars docs).bind fun _ => ih.bind fun _ => .refl _

theorem agree_lookup {source target : String}
    (hbindings : List.Forall₂ SameMember fields members)
    (hpipeline : List.Forall₂ StagesAgree stages others) :
    StagesAgree (.lookup source fields stages target)
        (.lookup source members others target) := by
  intro store vars docs
  have hstep : ∀ (bindings : Document) (pipeline : List Stage),
      run store (.lookup source bindings pipeline target) vars docs = each (fun doc =>
          (bound ⟨doc, vars⟩ vars bindings).bind fun inner =>
        (runAll store pipeline inner (store.collection source)).map fun results =>
          doc.setPath target (.array results)) docs := by
    intro bindings pipeline
    rw [run]
    congr 1
    funext doc
    cases bound ⟨doc, vars⟩ vars bindings with
    | error e => rfl
    | ok inner =>
      simp only [Except.bind]
      cases runAll store pipeline inner (store.collection source) <;> rfl
  rw [hstep, hstep]
  refine consistent_each (fun doc => ?_) docs
  exact (consistent_bound hbindings _ _).bind fun inner =>
    (consistent_runAll hpipeline store inner _).map _

theorem agree_facet {facets facets' : List (String × List Stage)}
    (h : List.Forall₂ FacetsAgree facets facets') :
    StagesAgree (.facet facets) (.facet facets') := by
  intro store vars docs
  have hstep : ∀ facets : List (String × List Stage), run store (.facet facets) vars docs =
      (runFacets store facets vars docs).map fun fields =>
          [.object (Document.ofList fields)] := by
    intro facets
    rw [run]
    cases runFacets store facets vars docs <;> rfl
  rw [hstep, hstep]
  exact (consistent_runFacets h store vars docs).map _

theorem agree_unionWith {collection : String} (h : List.Forall₂ StagesAgree stages others) :
    StagesAgree (.unionWith collection stages) (.unionWith collection others) := by
  intro store vars docs
  have hstep : ∀ pipeline : List Stage, run store (.unionWith collection pipeline) vars docs =
      (runAll store pipeline vars (store.collection collection)).map fun results =>
          docs ++ results := by
    intro pipeline
    rw [run]
    cases runAll store pipeline vars (store.collection collection) <;> rfl
  rw [hstep, hstep]
  exact (consistent_runAll h store vars _).map _

/-! ## Stages with one normal form -/

/-- Whether a stage does the same as every stage of its normal form, if that holds no other
data. -/
def AgreesWithForm (s : Stage) : Prop :=
  ∀ t : Stage, Value.normalize s.toDocument = Value.normalize t.toDocument →
    Datum.ToldApart s.data t.data → t.Every IsSaid → StagesAgree s t

theorem forall₂_stages {p q : List Stage} (hp : ∀ s ∈ p, s.AgreesWithForm)
    (hnormal : normalizeItems (toDocumentList p) = normalizeItems (toDocumentList q))
    (hdata : Datum.ToldApart (dataOfPipeline p) (dataOfPipeline q))
    (hq : ∀ t ∈ q, t.Every IsSaid) :
    List.Forall₂ StagesAgree p q := by
  induction p generalizing q with
  | nil =>
    cases q with
    | nil => exact .nil
    | cons t rest => simp [toDocumentList, normalizeItems] at hnormal
  | cons s rest ih =>
    cases q with
    | nil => simp [toDocumentList, normalizeItems] at hnormal
    | cons t rest' =>
      simp only [toDocumentList, normalizeItems, List.cons.injEq] at hnormal
      rw [dataOfPipeline, dataOfPipeline] at hdata
      rw [List.forall_mem_cons] at hp hq
      exact .cons
        (hp.1 t hnormal.1 (hdata.mono (List.subset_append_left _ _)
          (List.subset_append_left _ _)) hq.1)
        (ih hp.2 hnormal.2 (hdata.mono (List.subset_append_right _ _)
          (List.subset_append_right _ _)) hq.2)

theorem forall₂_facets {facets facets' : List (String × List Stage)}
    (hp : ∀ f ∈ facets, ∀ s ∈ f.2, s.AgreesWithForm)
    (hnormal : normalizeFields (toFacetMembers facets) =
      normalizeFields (toFacetMembers facets'))
    (hdata : Datum.ToldApart (dataOfFacets facets) (dataOfFacets facets'))
    (hq : ∀ g ∈ facets', ∀ t ∈ g.2, t.Every IsSaid) :
    List.Forall₂ FacetsAgree facets facets' := by
  induction facets generalizing facets' with
  | nil =>
    cases facets' with
    | nil => exact .nil
    | cons g rest => simp [toFacetMembers, normalizeFields] at hnormal
  | cons f rest ih =>
    cases facets' with
    | nil => simp [toFacetMembers, normalizeFields] at hnormal
    | cons g rest' =>
      obtain ⟨name, pipeline⟩ := f
      obtain ⟨name', pipeline'⟩ := g
      simp only [toFacetMembers, normalizeFields, List.cons.injEq, Prod.mk.injEq] at hnormal
      obtain ⟨⟨rfl, hpipeline⟩, hrest⟩ := hnormal
      rw [dataOfFacets, dataOfFacets] at hdata
      rw [List.forall_mem_cons] at hp hq
      -- a facet of the name of an operator is sorted, so that its pipeline is told apart as a
      -- member
      have hentry := hdata _ List.mem_cons_self _ List.mem_cons_self
        (congrArg (Datum.entry name) hpipeline)
      have hdocuments := (Datum.entry.inj hentry).2
      rw [toDocuments, toDocuments, Value.normalize, Value.normalize,
        Value.array.injEq] at hdocuments
      have hinner := hdata.mono (List.subset_cons_self _ _) (List.subset_cons_self _ _)
      exact .cons
        ⟨rfl, forall₂_stages hp.1 hdocuments
          (hinner.mono (List.subset_append_left _ _) (List.subset_append_left _ _)) hq.1⟩
        (ih hp.2 hrest (hinner.mono (List.subset_append_right _ _)
          (List.subset_append_right _ _)) hq.2)

/-- Stages of one kind. -/
inductive SameKind : Stage → Stage → Prop where
  | select (query query' : Value) : SameKind (.select query) (.select query')
  | project (fields members : Document) : SameKind (.project fields) (.project members)
  | addFields (fields members : Document) : SameKind (.addFields fields) (.addFields members)
  | set (fields members : Document) : SameKind (.set fields) (.set members)
  | lookup (source source' : String) (bindings bindings' : Document)
    (pipeline pipeline' : List Stage)
    (target target' : String) :
    SameKind (.lookup source bindings pipeline target) (.lookup source' bindings'
      pipeline' target')
  | unwind (path path' : String) (keepEmpty keepEmpty' : Bool) :
    SameKind (.unwind path keepEmpty) (.unwind path' keepEmpty')
  | facet (facets facets' : List (String × List Stage)) :
    SameKind (.facet facets) (.facet facets')
  | group (key key' : Value) (fields members : Document) : SameKind (.group key fields)
    (.group key' members)
  | sort (keys keys' : List (String × Direction)) : SameKind (.sort keys) (.sort keys')
  | skip (n n' : Nat) : SameKind (.skip n) (.skip n')
  | limit (n n' : Nat) : SameKind (.limit n) (.limit n')
  | unionWith (collection collection' : String) (pipeline pipeline' : List Stage) :
    SameKind (.unionWith collection pipeline) (.unionWith collection' pipeline')
  | count (field field' : String) : SameKind (.count field) (.count field')

theorem sameKind_of_name (h : s.name = t.name) : SameKind s t := by
  cases s <;> cases t <;> first | constructor | simp [name] at h

theorem exists_argument (s : Stage) : ∃ argument, s.toDocument = .operator s.name argument := by
  cases s <;> exact ⟨_, rfl⟩

theorem name_eq_of_normal (h : Value.normalize s.toDocument = Value.normalize t.toDocument) :
    s.name = t.name := by
  obtain ⟨a, ha⟩ := exists_argument s
  obtain ⟨b, hb⟩ := exists_argument t
  rw [ha, hb] at h
  simp only [Value.operator, Value.normalize, normalizeFields, Value.object.injEq,
    List.cons.injEq, Prod.mk.injEq] at h
  exact h.1.1

/-- Stages without pipelines inside that are read back from their documents are the same if
these are. -/
theorem eq_of_toDocument (hs : s.pipelines = []) (ht : t.pipelines = [])
    (hfits : s.FitsDocument ∧ s.SortsByDistinctKeys)
    (hfits' : t.FitsDocument ∧ t.SortsByDistinctKeys) (h : s.toDocument = t.toDocument) :
        s = t := by
  have hread := ofDocument_toDocument ((every_iff_of_plain hs).mpr hfits.1)
  rw [h, ofDocument_toDocument ((every_iff_of_plain ht).mpr hfits'.1),
    (merged_eq_self_iff s).mpr ((every_iff_of_plain hs).mpr hfits.2),
    (merged_eq_self_iff t).mpr ((every_iff_of_plain ht).mpr hfits'.2)] at hread
  exact (Except.ok.inj hread).symm

/-- Machine words are told apart by the integers of a document. -/
theorem ofNat_inj {n n' : Nat} (hn : n < 2 ^ 64) (hn' : n' < 2 ^ 64)
    (h : Value.ofNat n = Value.ofNat n') : n = n' := by
  have hwords : n % 2 ^ 64 = n' % 2 ^ 64 := congrArg (fun i : Int64 => i.toBitVec.toNat)
    (Value.int.inj h)
  rwa [Nat.mod_eq_of_lt hn, Nat.mod_eq_of_lt hn'] at hwords

theorem normalize_sort (keys : List (String × Direction)) :
    Value.normalize (Stage.sort keys).toDocument = (Stage.sort keys).toDocument := by
  have hmembers : ∀ keys : List (String × Direction), normalizeFields (keys.map keyMember) =
      keys.map keyMember := by
    intro keys
    rw [Value.normalizeFields_eq_map, List.map_map]
    exact List.map_congr_left fun k _ => by
      cases k with | mk name direction => cases direction <;> rfl
  have hkeys : Document.ofList (keys.map fun k => (k.1, k.2.toValue)) =
      (mergeKeys keys).map keyMember :=
    ofList_keyMember keys
  simp only [toDocument, hkeys, Value.operator, Value.normalize, normalizeFields, hmembers]
  rfl

theorem operator_normal {key : String} {a b : Value} (hkey : Value.isUnordered key = false)
    (h : Value.normalize (.operator key a) = Value.normalize (.operator key b)) :
        Value.normalize a = Value.normalize b := by
  simpa only [Value.operator, Value.normalize, normalizeFields, Value.sortOperands_of_ordered
    hkey, Value.object.injEq, List.cons.injEq, Prod.mk.injEq, true_and, and_true] using h

theorem object_normal {key : String} (hkey : Value.isUnordered key = false)
    (h : Value.normalize (.operator key (.object fields)) =
      Value.normalize (.operator key (.object members))) :
    normalizeFields fields = normalizeFields members := by
  have hobject := operator_normal hkey h
  rwa [Value.normalize, Value.normalize, Value.object.injEq] at hobject

theorem toDocument_group {key : Value} (h : (Stage.group key fields).IsSaid) :
    (Stage.group key fields).toDocument =
        .operator "$group" (.object (("_id", key) :: fields)) := by
  obtain ⟨hnodup, hid⟩ := h
  have hnames : Document.names ([("_id", key)] ++ fields) = "_id" :: Document.names fields :=
    rfl
  rw [toDocument, Document.insertAll_of_nodup (hnames ▸ List.nodup_cons.mpr ⟨hid, hnodup⟩)]
  rfl

theorem toDocument_facet {facets : List (String × List Stage)}
    (h : (Stage.facet facets).IsSaid) :
    (Stage.facet facets).toDocument = .operator "$facet" (.object (toFacetMembers facets)) := by
  rw [toDocument, Document.ofList_of_nodup]
  simpa [toFacetMembers_eq_map, Document.names, Function.comp_def, IsSaid] using h

/-! ### Each kind of stage -/

section Kinds

variable {source source' target target' collection collection' path path' : String}
  {bindings bindings' : Document}
  {key key' : Value} {pipeline pipeline' : List Stage}
  {facets facets' : List (String × List Stage)}
  {keys keys' : List (String × Direction)} {keepEmpty keepEmpty' : Bool}

theorem agree_project (hnormal : normalizeFields fields = normalizeFields members)
    (hdata : Datum.ToldApart (Value.dataOfMembers fields) (Value.dataOfMembers members)) :
    StagesAgree (.project fields) (.project members) := by
  intro store vars docs
  rw [run, run]
  exact consistent_each (consistent_projection (Value.forall₂_members hnormal hdata)) docs

/-- The two stages that add fields do the same. -/
theorem agree_adding (hnormal : normalizeFields fields = normalizeFields members)
    (hdata : Datum.ToldApart (Value.dataOfMembers fields) (Value.dataOfMembers members)) :
    StagesAgree (.addFields fields) (.addFields members) ∧ StagesAgree (.set fields)
        (.set members) := by
  have hfields := Value.forall₂_members hnormal hdata
  constructor <;> intro store vars docs <;> rw [run, run] <;>
    exact consistent_each (consistent_addComputed hfields) docs

theorem agree_lookup_of_form (hp : ∀ s ∈ pipeline, s.AgreesWithForm)
    (hnormal : Value.normalize (Stage.lookup source bindings pipeline target).toDocument =
      Value.normalize (Stage.lookup source' bindings' pipeline' target').toDocument)
    (hdata : Datum.ToldApart (Stage.lookup source bindings pipeline target).data
      (Stage.lookup source' bindings' pipeline' target').data)
    (hq : ∀ t ∈ pipeline', t.Every IsSaid) :
    StagesAgree (.lookup source bindings pipeline target) (.lookup source' bindings' pipeline'
        target') := by
  have hmembers := object_normal rfl hnormal
  simp (disch := decide) only [normalizeFields, Value.normalize, Value.sortOperands_of_ordered,
    List.cons.injEq, Prod.mk.injEq, Value.string.injEq, Value.object.injEq, Value.array.injEq,
    true_and, and_true] at hmembers
  obtain ⟨rfl, hbindings, hpipeline, rfl⟩ := hmembers
  rw [data, data] at hdata
  have hfront := hdata.mono (List.subset_append_left _ _) (List.subset_append_left _ _)
  have hrest := hdata.mono (List.subset_append_right _ _) (List.subset_append_right _ _)
  exact agree_lookup (Value.forall₂_members hbindings hfront) (forall₂_stages hp
    hpipeline hrest hq)

theorem agree_facet_of_form (here : (Stage.facet facets).IsSaid)
    (here' : (Stage.facet facets').IsSaid) (hp : ∀ f ∈ facets, ∀ s ∈ f.2, s.AgreesWithForm)
    (hnormal : Value.normalize (Stage.facet facets).toDocument =
      Value.normalize (Stage.facet facets').toDocument)
    (hdata : Datum.ToldApart (dataOfFacets facets) (dataOfFacets facets'))
    (hq : ∀ g ∈ facets', ∀ t ∈ g.2, t.Every IsSaid) :
        StagesAgree (.facet facets) (.facet facets') := by
  rw [toDocument_facet here, toDocument_facet here'] at hnormal
  exact agree_facet (forall₂_facets hp (object_normal rfl hnormal) hdata hq)

theorem agree_group_of_form (here : (Stage.group key fields).IsSaid)
    (here' : (Stage.group key' members).IsSaid)
    (hnormal : Value.normalize (Stage.group key fields).toDocument =
      Value.normalize (Stage.group key' members).toDocument)
    (hdata : Datum.ToldApart (Stage.group key fields).data (Stage.group key' members).data) :
    StagesAgree (.group key fields) (.group key' members) := by
  rw [toDocument_group here, toDocument_group here'] at hnormal
  have hmembers := object_normal rfl hnormal
  simp (disch := decide) only [normalizeFields, Value.sortOperands_of_ordered, List.cons.injEq,
    Prod.mk.injEq, true_and] at hmembers
  obtain ⟨hkey, hfields⟩ := hmembers
  rw [data, data] at hdata
  have hfront := hdata.mono (List.subset_append_left _ _) (List.subset_append_left _ _)
  have hrest := hdata.mono (List.subset_append_right _ _) (List.subset_append_right _ _)
  intro store vars docs
  rw [run, run]
  exact consistent_grouped ⟨hkey, hfront⟩ (Value.forall₂_members hfields hrest) vars docs

theorem agree_unionWith_of_form (hp : ∀ s ∈ pipeline, s.AgreesWithForm)
    (hnormal : Value.normalize (Stage.unionWith collection pipeline).toDocument =
      Value.normalize (Stage.unionWith collection' pipeline').toDocument)
    (hdata : Datum.ToldApart (dataOfPipeline pipeline) (dataOfPipeline pipeline'))
    (hq : ∀ t ∈ pipeline', t.Every IsSaid) :
    StagesAgree (.unionWith collection pipeline) (.unionWith collection' pipeline') := by
  have hmembers := object_normal rfl hnormal
  simp (disch := decide) only [normalizeFields, Value.normalize, Value.sortOperands_of_ordered,
    List.cons.injEq, Prod.mk.injEq, Value.string.injEq, Value.array.injEq, true_and,
    and_true] at hmembers
  obtain ⟨rfl, hpipeline⟩ := hmembers
  exact agree_unionWith (forall₂_stages hp hpipeline hdata hq)

theorem agree_unwind_of_form
    (hnormal : Value.normalize (Stage.unwind path keepEmpty).toDocument =
      Value.normalize (Stage.unwind path' keepEmpty').toDocument) :
    StagesAgree (.unwind path keepEmpty) (.unwind path' keepEmpty') := by
  have hdocuments : (Stage.unwind path keepEmpty).toDocument =
      (Stage.unwind path' keepEmpty').toDocument := by
    cases keepEmpty <;> cases keepEmpty' <;> exact hnormal
  have heq : Stage.unwind path keepEmpty = .unwind path' keepEmpty' :=
    eq_of_toDocument rfl rfl ⟨trivial, trivial⟩ ⟨trivial, trivial⟩ hdocuments
  exact heq ▸ .refl _

theorem agree_sort_of_form (here : (Stage.sort keys).IsSaid) (here' : (Stage.sort keys').IsSaid)
    (hnormal : Value.normalize (Stage.sort keys).toDocument =
      Value.normalize (Stage.sort keys').toDocument) :
    StagesAgree (.sort keys) (.sort keys') := by
  rw [normalize_sort, normalize_sort] at hnormal
  have heq : Stage.sort keys = .sort keys' := eq_of_toDocument rfl rfl ⟨trivial, here⟩ ⟨trivial,
    here'⟩ hnormal
  exact heq ▸ .refl _

end Kinds

/-- By induction on the pipelines inside of stages, and by cases for what they do. -/
theorem agreesWithForm (h : s.Every IsSaid) : s.AgreesWithForm := by
  induction h with
  | @intro s here inside ih =>
    intro t hnormal hdata ht
    cases sameKind_of_name (name_eq_of_normal hnormal) with
    | select query query' =>
      intro store vars docs
      rw [run, run]
      exact consistent_selected ⟨operator_normal rfl hnormal, hdata⟩ docs
    | project fields members => exact agree_project (object_normal rfl hnormal) hdata
    | addFields fields members => exact (agree_adding (object_normal rfl hnormal) hdata).1
    | set fields members => exact (agree_adding (object_normal rfl hnormal) hdata).2
    | lookup source source' bindings bindings' pipeline pipeline' target target' =>
      exact agree_lookup_of_form (ih pipeline List.mem_cons_self) hnormal hdata
        (ht.inside List.mem_cons_self)
    | facet facets facets' =>
      exact agree_facet_of_form here ht.here (fun f hf => ih f.2 (List.mem_map_of_mem hf))
        hnormal hdata fun g hg => ht.inside (List.mem_map_of_mem hg)
    | group key key' fields members => exact agree_group_of_form here ht.here hnormal hdata
    | unionWith collection collection' pipeline pipeline' =>
      exact agree_unionWith_of_form (ih pipeline List.mem_cons_self) hnormal hdata
        (ht.inside List.mem_cons_self)
    | unwind path path' keepEmpty keepEmpty' => exact agree_unwind_of_form hnormal
    | sort keys keys' => exact agree_sort_of_form here ht.here hnormal
    | skip n n' => exact ofNat_inj here ht.here (operator_normal rfl hnormal) ▸ .refl _
    | limit n n' => exact ofNat_inj here ht.here (operator_normal rfl hnormal) ▸ .refl _
    | count field field' =>
      obtain rfl : field = field' := Value.string.inj (operator_normal rfl hnormal)
      exact .refl _

/-- Expressions of one normal form evaluate to one value wherever both of them evaluate, and
pipelines of one normal form make the same documents wherever both of them return, if they hold
no data that differ only in an order that the normal form forgets, and if the documents of the
pipelines say all of them. -/
theorem normal_forms_compute_alike :
    (∀ v w : Value, Value.normalize v = Value.normalize w → Datum.ToldApart v.data w.data →
      ∀ (scope : Scope) (r s : Option Value), v.eval scope = .ok r → w.eval scope = .ok s →
        r = s ∧ isTruthy? r = isTruthy? s ∧ Value.compare? r s = .eq) ∧
      ∀ p q : List Stage, normalizePipeline p = normalizePipeline q →
        Datum.ToldApart (dataOfPipeline p) (dataOfPipeline q) → (∀ s ∈ p, s.Every IsSaid) →
          (∀ t ∈ q, t.Every IsSaid) →
        ∀ (store : Store) (vars : Document) (docs outs outs' : List Value),
          runAll store p vars docs = .ok outs → runAll store q vars docs = .ok outs' →
              outs = outs' := by
  refine ⟨fun v w h hdata scope r s hr hs => Value.normalized_expressions_agree h hdata
    scope hr hs, ?_⟩
  intro p q h hdata hp hq store vars docs outs outs' hr hs
  rw [normalizePipeline, normalizePipeline, toDocuments, toDocuments, Value.normalize,
    Value.normalize, Value.array.injEq] at h
  have hstages := forall₂_stages (fun s hmem => agreesWithForm (hp s hmem)) h hdata hq
  exact consistent_runAll hstages store vars docs outs outs' hr hs

/-- A disjunction of a conjunction and of a quoted value that holds operands. -/
def quotingJunction (first second : String) : Value :=
  .operator "$or" (.array [.operator "$and" (.array [.string first, .string second]),
    Value.quote (.operator "$and" (.array [.int 2, .int 1]))])

/-- A document for which the conjunction is not true. -/
def zeroAndFive : Value := .object [("a", .int 0), ("b", .int 5)]

/-- The disjunction is true, and selects the document, with the operands inside of it in either
order. -/
theorem quotingJunction_computes_alike :
    Value.normalize (quotingJunction "$a" "$b") = Value.normalize (quotingJunction "$b" "$a") ∧
      (quotingJunction "$b" "$a").eval ⟨zeroAndFive, []⟩ = .ok (some (.bool true)) ∧
      normalizePipeline [.selectExpr (quotingJunction "$a" "$b")] =
        normalizePipeline [.selectExpr (quotingJunction "$b" "$a")] ∧
      runAll .empty [.selectExpr (quotingJunction "$b" "$a")] [] [zeroAndFive] =
          .ok [zeroAndFive] := by
  have hjunction : Value.Permutes (quotingJunction "$a" "$b") (quotingJunction "$b" "$a") :=
    .member [] "$or" [] (.item [] _ (.operands [] [] rfl (.swap _ _ [])))
  have hlegible : (quotingJunction "$a" "$b").IsLegible := by
    simp [quotingJunction, Value.IsLegible, Value.MembersLegible, Value.AreLegible, Value.quote,
      Value.operator]
  have hnormal := hjunction.normalize_eq hlegible
  have hdata : Datum.ToldApart (quotingJunction "$a" "$b").data
      (quotingJunction "$b" "$a").data := by
    simp [quotingJunction, Value.data, Value.dataOfItems, Value.quote, Value.operator,
      Datum.ToldApart]
  have hpipeline : normalizePipeline [.selectExpr (quotingJunction "$a" "$b")] =
      normalizePipeline [.selectExpr (quotingJunction "$b" "$a")] := by
    simp only [normalizePipeline, toDocuments, toDocumentList, selectExpr, toDocument,
      Value.operator, Value.normalize, normalizeItems, normalizeFields, hnormal]
  have hpipelineData :
    Datum.ToldApart (dataOfPipeline [.selectExpr (quotingJunction "$a" "$b")])
      (dataOfPipeline [.selectExpr (quotingJunction "$b" "$a")]) := by
    simpa [dataOfPipeline, data, selectExpr, Value.operator, dataOfQuery,
      Value.dataOfConditions, Value.dataOfCondition_expr] using hdata
  have hsaid : ∀ e : Value, ∀ s ∈ [Stage.selectExpr e], s.Every IsSaid :=
    fun e => List.forall_mem_singleton.mpr ((every_iff_of_plain rfl).mpr trivial)
  obtain ⟨s, hs⟩ : ∃ s, (quotingJunction "$b" "$a").eval ⟨zeroAndFive, []⟩ = .ok s := ⟨_, rfl⟩
  obtain ⟨outs, houts⟩ : ∃ outs, runAll .empty [.selectExpr (quotingJunction "$b" "$a")] []
      [zeroAndFive] = .ok outs :=
    ⟨_, rfl⟩
  obtain ⟨hevaluated, -⟩ := normal_forms_compute_alike.1 _ _ hnormal hdata ⟨zeroAndFive, []⟩
    (some (.bool true)) s rfl hs
  have hrun := normal_forms_compute_alike.2 _ _ hpipeline hpipelineData (hsaid _) (hsaid _)
    .empty [] [zeroAndFive] [zeroAndFive] outs rfl houts
  exact ⟨hnormal, hevaluated ▸ hs, hpipeline, hrun ▸ houts⟩

/-- The comparison of two quoted values with operands, the first ones in the order given. -/
def comparedQuotes (operands : List Value) : Value :=
  .operator "$eq" (.array [Value.quote (.operator "$and" (.array operands)),
    Value.quote (.operator "$and" (.array [.int 1, .int 2]))])

/-- An object of two members, one of which has the name of an operator. -/
def namedList (items : List Value) : Value := .object [("$and", .array items), ("n", .int 0)]

/-- Two documents, the second of which has the greater number. -/
def twoNumbers : List Value := [.object [("n", .int 1)], .object [("n", .int 2)]]

/-- The normal form sorts what a value only quotes, and the list that is a member of an object:
expressions of one normal form are true and false then, or have different values.  It does not
sort members:  objects that are the same but for the order of their members are in their normal
form, and have different values.  And it sees neither the first one of two sort keys of one
name, nor the key of a group behind a field of its name. -/
theorem normal_forms_compute_differently :
    (Value.normalize (comparedQuotes [.int 1, .int 2]) =
      Value.normalize (comparedQuotes [.int 2, .int 1]) ∧
      (comparedQuotes [.int 1, .int 2]).eval ⟨.null, []⟩ = .ok (some (.bool true)) ∧
      (comparedQuotes [.int 2, .int 1]).eval ⟨.null, []⟩ = .ok (some (.bool false))) ∧
    (Value.normalize (namedList [.int 1, .int 2]) =
      Value.normalize (namedList [.int 2, .int 1]) ∧
      (namedList [.int 1, .int 2]).eval ⟨.null, []⟩ = .ok (some (namedList [.int 1, .int 2])) ∧
      (namedList [.int 2, .int 1]).eval ⟨.null, []⟩ = .ok (some (namedList [.int 2, .int 1])) ∧
      Value.compare (namedList [.int 1, .int 2]) (namedList [.int 2, .int 1]) = .lt) ∧
    (Value.same (Value.normalize (.object [("a", .int 1), ("b", .int 2)]))
        (Value.normalize (.object [("b", .int 2), ("a", .int 1)])) ∧
      (Value.object [("a", .int 1), ("b", .int 2)]).eval ⟨.null, []⟩ =
        .ok (some (.object [("a", .int 1), ("b", .int 2)])) ∧
      (Value.object [("b", .int 2), ("a", .int 1)]).eval ⟨.null, []⟩ =
        .ok (some (.object [("b", .int 2), ("a", .int 1)])) ∧
      Value.compare (.object [("a", .int 1), ("b", .int 2)]) (.object [("b", .int 2),
        ("a", .int 1)]) = .lt) ∧
    (normalizePipeline [.sort [("n", .ascending), ("n", .descending)]] = normalizePipeline
      [.sort [("n", .descending)]] ∧
      runAll .empty [.sort [("n", .ascending), ("n", .descending)]] [] twoNumbers =
      .ok twoNumbers ∧
      runAll .empty [.sort [("n", .descending)]] [] twoNumbers = .ok twoNumbers.reverse) ∧
    (normalizePipeline [.group .null [("_id", .operator "$sum" (.int 1))]] =
        normalizePipeline [.group (.string "$n") [("_id", .operator "$sum" (.int 1))]] ∧
      runAll .empty [.group .null [("_id", .operator "$sum" (.int 1))]] [] twoNumbers =
        .ok [.object [("_id", .int 2)]] ∧
      runAll .empty [.group (.string "$n") [("_id", .operator "$sum" (.int 1))]] [] twoNumbers =
        .ok [.object [("_id", .int 1)], .object [("_id", .int 1)]]) := by
  have hswap : Value.Permutes (.operator "$and" (.array [.int 1, .int 2]))
      (.operator "$and" (.array [.int 2, .int 1])) :=
    .operands [] [] rfl (.swap _ _ [])
  have hquotes : Value.Permutes (comparedQuotes [.int 1, .int 2])
      (comparedQuotes [.int 2, .int 1]) :=
    .member [] "$eq" [] (.item [] _ (.member [] "$literal" [] hswap))
  have hlist : Value.Permutes (namedList [.int 1, .int 2]) (namedList [.int 2, .int 1]) :=
    .operands [] _ rfl (.swap _ _ [])
  have hascending : compareBy (.object [("n", .int 1)]) (.object [("n", .int 2)])
    [("n", .ascending), ("n", .descending)] = .lt := rfl
  have hdescending : compareBy (.object [("n", .int 1)]) (.object [("n", .int 2)])
    [("n", .descending)] = .gt := rfl
  refine ⟨⟨hquotes.normalize_eq ?_, rfl, rfl⟩, ⟨hlist.normalize_eq ?_, rfl, rfl, rfl⟩,
    ⟨rfl, rfl, rfl, rfl⟩, ⟨rfl, ?_, ?_⟩, rfl, ?_, ?_⟩
  · simp [comparedQuotes, Value.IsLegible, Value.MembersLegible, Value.AreLegible, Value.quote,
      Value.operator]
  · simp [namedList, Value.IsLegible, Value.MembersLegible, Value.AreLegible]
  · simp [runAll, run, sorted, twoNumbers, List.mergeSort, hascending]
  · simp [runAll, run, sorted, twoNumbers, List.mergeSort, hdescending]
  · rfl
  · rfl

end Stage

end DocQuery
