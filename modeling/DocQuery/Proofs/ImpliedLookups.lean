import DocQuery.Proofs.Failures
import DocQuery.Proofs.JoinKinds
import DocQuery.Proofs.Moves
set_option autoImplicit false

/-!
# Proofs: the lookup that is implied

A path that does not end in a lookup compares for equality.  The lookup may as well be written:
the path with its name at the end leads through the same joins to the same value, unless the
mark between names would be read one character too early, or the value is a document of a model
that the schema does not have.
-/

namespace DocQuery

/-! ## Texts of paths -/

namespace Text

/-- What stands behind a doubled separator is cut by itself, unless a single one stands in
front. -/
theorem doublyPartsOf_append {sep : Char} {cs : List Char} (hlast : cs.getLast? ≠ some sep)
    (rest : List Char) : doublyPartsOf sep (cs ++ sep :: sep :: rest) =
      ((doublyPartsOf sep cs).1, (doublyPartsOf sep cs).2 ++ (doublyPartsOf sep rest).1 ::
          (doublyPartsOf sep rest).2) := by
  induction cs using doublyPartsOf.induct sep with
  | case1 c d tail hmark first others hparts ih =>
    have htail : tail.getLast? ≠ some sep := by
      cases tail with
      | nil => simp
      | cons => simpa [List.getLast?_cons_cons] using hlast
    rw [List.cons_append, List.cons_append, doublyPartsOf, doublyPartsOf, if_pos hmark,
      if_pos hmark, ih htail]
    rfl
  | case2 c d tail hmark first others hparts ih =>
    have htail : (d :: tail).getLast? ≠ some sep := by rwa [List.getLast?_cons_cons] at hlast
    have ih := ih htail
    rw [List.cons_append] at ih
    rw [List.cons_append, List.cons_append, doublyPartsOf, doublyPartsOf, if_neg hmark,
      if_neg hmark, ih]
  | case3 cs hshort =>
    rcases cs with _ | ⟨c, _ | ⟨d, tail⟩⟩
    · simp [doublyPartsOf]
    · have hc : c ≠ sep := by simpa using hlast
      simp [doublyPartsOf, hc]
    · exact absurd rfl (hshort c d tail)

/-- The names of a path with more behind it, unless the path ends in half a mark. -/
theorem segments_extendPath {path : String} (hlast : path.toList.getLast? ≠ some segmentMark)
    (name : String) : segments (extendPath path name) = segments path ++ segments name := by
  have htext : (extendPath path name).toList = path.toList ++ segmentMark :: segmentMark ::
      name.toList := by
    simp [extendPath, segmentMark]
  rw [segments_eq, htext, doublyPartsOf_append hlast, segments_eq, segments_eq,
    ← List.map_append]
  rfl

end Text

/-! ## Fields of no model -/

/-- Whether no model has a field of a name. -/
def Schema.SparesField (s : Schema) (name : String) : Prop :=
    ∀ m ∈ s.models, ∀ f ∈ m.fields, f.name ≠ name

instance (s : Schema) (name : String) : Decidable (s.SparesField name) :=
  inferInstanceAs (Decidable (∀ m ∈ s.models, _))

theorem Schema.SparesField.field? {s : Schema} {model name : String} {m : Model}
    (h : s.SparesField name)
    (hm : s.model? model = some m) (hname : name ≠ "pk") : m.field? name = none := by
  cases hf : m.field? name with
  | none => rfl
  | some f =>
    obtain ⟨hmem, hsame | hpk⟩ := Model.field?_ok hf
    · exact absurd hsame (h m (List.mem_of_find?_eq_some hm) f hmem)
    · exact absurd hpk hname

namespace Compiler

variable {c : Compiler} {ctx ctx' : Context} {path : String} {a inner : Access} {m : Model}

/-! ## The name of the lookup behind a value -/

theorem documentStep_exact (h : m.field? "exact" = none) (e : CompileError) :
    documentStep a m "exact" true e = .ok (.lookup .exact) := by
  rw [documentStep, h]
  rfl

theorem memberStep_exact {type : ValueType} (h : (Lookup.allowed type).contains .exact = true) :
    memberStep a type "exact" true = .lookup .exact := by
  have hname : terminalLookup? "exact" true = some .exact := rfl
  simp only [memberStep, hname, h, if_true]

section Steps

variable (hfields : c.schema.SparesField "exact")
include hfields

/-- The same for documents of a model that the schema has. -/
theorem modelOf_exact {model : String} (hknown : (c.schema.model? model).isSome = true) :
    ∃ m, c.modelOf model = .ok m ∧ m.field? "exact" = none := by
  obtain ⟨m, hm⟩ := Option.isSome_iff_exists.mp hknown
  exact ⟨m, by rw [modelOf, hm], hfields.field? hm (by decide)⟩

theorem elementStep_exact
    (hallowed : (Lookup.allowed (.mapped inner.type)).contains .exact = true)
    (hknown : ∀ model ∈ inner.type.model?, (c.schema.model? model).isSome = true) :
    c.elementStep inner (.mapped inner.type) "exact" true = .ok (.lookup .exact) := by
  cases htype : inner.type with
  | embedded model =>
    obtain ⟨m, hm, hnone⟩ := modelOf_exact hfields (hknown model (by rw [htype]; rfl))
    simp only [elementStep, htype, hm]
    exact documentStep_exact hnone _
  | embeddedArray model =>
    rw [htype] at hallowed
    exact absurd hallowed (by simp [Lookup.allowed, Lookup.mappedOf, Lookup.mapped])
  | scalar kind =>
    by_cases hjson : kind = .json
    · subst hjson
      rw [htype] at hallowed
      simp only [elementStep, htype, memberStep_exact hallowed]
    · cases kind <;> first | exact absurd rfl hjson | (simp only [elementStep, htype]; rfl)
  | mapped element =>
    simp only [elementStep, htype]
    rfl

/-- Behind a value that can be compared for equality, the last name may be that of the
lookup. -/
theorem step_exact (heach : a.type.isMapped = true → ∃ array inner, a = .each array inner)
    (hallowed : (Lookup.allowed a.type).contains .exact = true)
    (hknown : ∀ model ∈ a.type.model?, (c.schema.model? model).isSome = true) :
    c.step a "exact" true = .ok (.lookup .exact) := by
  cases htype : a.type with
  | embedded model =>
    obtain ⟨m, hm, hnone⟩ := modelOf_exact hfields (hknown model (by rw [htype]; rfl))
    simp only [step, htype, hm]
    exact documentStep_exact hnone _
  | embeddedArray model =>
    rw [htype] at hallowed
    simp [Lookup.allowed] at hallowed
  | scalar kind =>
    by_cases hjson : kind = .json
    · subst hjson
      rw [htype] at hallowed
      simp only [step, htype, memberStep_exact hallowed]
    · cases kind <;> first | exact absurd rfl hjson | (simp only [step, htype]; rfl)
  | mapped element =>
    obtain ⟨array, inner, rfl⟩ := heach (by rw [htype]; rfl)
    have hinner := elementStep_exact hfields hallowed hknown
    simp only [step, Access.type, hinner]
    rfl

/-! ## The name of the lookup behind a path -/

/-- The lookup does not change where a foreign key is read as the key that it stores. -/
theorem readsStoredKey_concat {model : String} {target : Model}
    (ht : c.schema.model? model = some target)
    (names : List String) :
        readsStoredKey target (names ++ ["exact"]) = readsStoredKey target names := by
  cases names with
  | nil =>
    have hnone := hfields.field? ht (by decide)
    simp only [readsStoredKey, List.nil_append, hnone]
    rfl
  | cons => rfl

omit hfields in
/-- Names that lead to a value lead there with the lookup behind them. -/
theorem follow_value_exact {names : List String} {joins : List Nat} {e : Ending}
    (h : c.follow path (.value a) names joins ctx = (.ok e, ctx')) (hvalue : e.lookup? = none)
    (hstep : c.step e.target "exact" true = .ok (.lookup .exact)) (text : String) :
    c.follow text (.value a) (names ++ ["exact"]) joins ctx =
        (.ok { e with lookup? := some .exact }, ctx') := by
  obtain ⟨target, lookup?, found⟩ := e
  obtain rfl : lookup? = none := hvalue
  obtain ⟨rfl, rfl, -⟩ := follow_value_ok h
  have hlast : ([] : List String).isEmpty = true := rfl
  simp only [follow_append_ok h, follow, hlast, hstep]

/-- So do names from a document. -/
theorem follow_exact {place : Place} {names : List String} {joins : List Nat} {e : Ending}
    (h : c.follow path place names joins ctx = (.ok e, ctx')) (hvalue : e.lookup? = none)
    (hstep : c.step e.target "exact" true = .ok (.lookup .exact)) (text : String) :
    c.follow text place (names ++ ["exact"]) joins ctx =
        (.ok { e with lookup? := some .exact }, ctx') := by
  induction names generalizing place joins ctx with
  | nil =>
    cases place with
    | document => simp [follow] at h
    | value a => exact follow_value_exact h hvalue hstep text
  | cons name rest ih =>
    cases place with
    | value a => exact follow_value_exact h hvalue hstep text
    | document m joined relation =>
      rw [List.cons_append, follow]
      rw [follow] at h
      cases hf : m.field? name with
      | none => simp [hf] at h
      | some f =>
        simp only [hf] at h ⊢
        split at h
        · rename_i model key storedAs _
          cases ht : c.modelOf model with
          | error fault => simp [ht] at h
          | ok target =>
            simp only [ht, readsStoredKey_concat hfields (modelOf_ok ht)] at h ⊢
            split at h
            · rename_i hreads
              rw [if_pos hreads]
              exact ih h
            · rename_i hreads
              rw [if_neg hreads]
              cases hk : target.field? (key.getD usualKey) with
              | none => simp [hk] at h
              | some k =>
                simp only [hk] at h ⊢
                exact ih h
        · exact ih h

end Steps

/-- Whether no name of a path is read as a lookup. -/
def EndsInValue (c : Compiler) (ctx : Context) (path : String) : Prop :=
  ∃ e ctx', c.followPath ctx path = (.ok e, ctx') ∧ e.lookup? = none

/-- With a schema in which no model has a field `exact`, and without computed columns:  a path
in a filter that succeeds and does not end in a lookup compares for equality, and with this
lookup at its end it leads to the same value through the same joins and leaves the same context.
The path must not end in an underscore, and the documents that it may lead to must be of a model
of the schema. -/
theorem exact_is_implied {r : Resolved} (hfields : c.schema.SparesField "exact")
    (hannotations : ctx.annotations = [])
    (h : c.resolveLookup ctx path = (.ok r, ctx')) (hvalue : c.EndsInValue ctx path)
    (hlast : path.toList.getLast? ≠ some Text.segmentMark)
    (hknown : ∀ model ∈ r.target.type.model?, (c.schema.model? model).isSome = true) :
    r.lookup = .exact ∧ c.resolveLookup ctx (Text.extendPath path "exact") = (.ok r, ctx') := by
  obtain ⟨e, hfollow, hcompared⟩ := resolveLookup_ok h
  obtain ⟨e', after, hfollow', hnone⟩ := hvalue
  obtain ⟨rfl, rfl⟩ : e' = e ∧ after = ctx' := by simpa [hfollow] using hfollow'.symm
  obtain ⟨rfl, htakes⟩ := compared_ok hcompared
  have hallowed : (Lookup.allowed e'.target.type).contains .exact = true := by
    rw [hnone] at htakes
    exact htakes
  have huncomputed := Context.computedType?_of_annotations hannotations
  obtain ⟨name, rest, hnames, hempty, ⟨type, hcomputed, -⟩ | ⟨-, hdocument⟩⟩ :=
    followPath_ok hfollow
  · simp [huncomputed] at hcomputed
  have hstep := step_exact hfields (exists_each_of_follow_document hdocument) hallowed hknown
  have hlonger := follow_exact hfields hdocument hnone hstep (Text.extendPath path "exact")
  have hsegments : Text.segments (Text.extendPath path "exact") = name ::
      (rest ++ ["exact"]) := by
    rw [Text.segments_extendPath hlast, hnames]
    rfl
  have hfull : (name :: (rest ++ ["exact"])).contains "" = false := by
    simpa using hempty
  have hpath : c.followPath ctx (Text.extendPath path "exact") =
      (.ok { e' with lookup? := some .exact }, after) := by
    simp only [followPath, hsegments, hfull, Bool.false_eq_true, if_false,
      List.headD_cons, huncomputed]
    exact hlonger
  refine ⟨by rw [hnone]; rfl, ?_⟩
  unfold resolveLookup compared
  simp only [hpath, hnone, Option.getD_some, Option.getD_none, hallowed, if_true]

/-- Posts of people, with values of any type about them. -/
def post : Model where
  name := "Post"
  storedCollection := none
  embedded := true
  fields := [⟨"meta", .scalar .json, true, none⟩]

/-- People with posts. -/
def writer : Model where
  name := "Writer"
  storedCollection := none
  embedded := false
  fields := [Model.primaryKey, ⟨"posts", .embeddedArray "Post", false, none⟩]

/-- Drafts of a writer.  The name of the kind ends in half of the mark between names, and there
is no model of the cover. -/
def draft : Model where
  name := "Draft"
  storedCollection := none
  embedded := false
  fields := [Model.primaryKey, ⟨"kind_", .scalar .integer, false, none⟩,
    ⟨"cover", .embedded "Picture", false, none⟩,
    ⟨"writer", .foreignKey "Writer" none none, true, none⟩]

/-- Drafts, writers and posts. -/
def drafts : Compiler := ⟨⟨[draft, writer, post]⟩, .usual⟩

/-- Behind a relation and for each item of an array, a member that is called like a lookup is
compared for equality, which may as well be written. -/
theorem draftRanges_compared : ∃ r ctx,
    drafts.schema.SparesField "exact" ∧ (Context.ofModel draft).annotations = [] ∧
      drafts.resolveLookup (.ofModel draft) "writer__posts__meta__range" = (.ok r, ctx) ∧
      drafts.EndsInValue (.ofModel draft) "writer__posts__meta__range" ∧
      (∀ model ∈ r.target.type.model?, (drafts.schema.model? model).isSome = true) ∧
      r.joins = [0] ∧ r.target.type = .mapped (.scalar .json) ∧ r.lookup = .exact ∧
      drafts.resolveLookup (.ofModel draft) "writer__posts__meta__range__exact" =
          (.ok r, ctx) := by
  have hfields : drafts.schema.SparesField "exact" := by decide
  have hvalue : drafts.EndsInValue (.ofModel draft) "writer__posts__meta__range" :=
    ⟨_, _, rfl, rfl⟩
  have hpath : drafts.resolveLookup (.ofModel draft) "writer__posts__meta__range" =
    (.ok _, _) := rfl
  have hknown : ∀ model ∈ (ValueType.mapped (.scalar .json)).model?,
      (drafts.schema.model? model).isSome = true := by
    simp [ValueType.model?]
  obtain ⟨hlookup, hlonger⟩ := exact_is_implied hfields rfl hpath hvalue (by decide) hknown
  exact ⟨_, _, hfields, rfl, hpath, hvalue, hknown, rfl, rfl, hlookup, hlonger⟩

/-- The lookup cannot be written behind a name that ends in half of the mark between names, nor
behind a document of a model that the schema does not have, although both paths end in a value
and succeed without it. -/
theorem draftKind_exact_fails :
    drafts.schema.SparesField "exact" ∧ (Context.ofModel draft).annotations = [] ∧
      drafts.EndsInValue (.ofModel draft) "kind_" ∧
        drafts.EndsInValue (.ofModel draft) "cover" ∧
      drafts.resolveLookup (.ofModel draft) "kind_"
        = (.ok ⟨.column none "kind_" (.scalar .integer), .exact, []⟩, .ofModel draft) ∧
      drafts.resolveLookup (.ofModel draft) "kind___exact" =
        (.error (.fieldDoesNotExist "Draft" "kind"), .ofModel draft) ∧
      drafts.resolveLookup (.ofModel draft) "cover"
        = (.ok ⟨.column none "cover" (.embedded "Picture"), .exact, []⟩, .ofModel draft) ∧
      drafts.resolveLookup (.ofModel draft) "cover__exact" = (.error (.unknownModel "Picture"),
          .ofModel draft) :=
  ⟨by decide, rfl, ⟨_, _, rfl, rfl⟩, ⟨_, _, rfl, rfl⟩, rfl, rfl, rfl, rfl⟩

end Compiler

end DocQuery
