import DocQuery.Proofs.ColumnStages
import DocQuery.Proofs.Failures
import DocQuery.Proofs.KeyFilters
import DocQuery.Schema.Check
set_option autoImplicit false

/-!
# Proofs: queries on checked schemas

A schema without problems rules out errors that only its definitions could cause.  A path may go
through any number of relations, embedded documents and arrays, and start at a computed column;
the models that it comes to are all checked, since the types on the way only name models of
checked fields.
-/

namespace DocQuery

/-! ## Checked models -/

namespace Schema

variable {s : Schema} {m : Model} {model name : String}

/-- Whether documents of the model of a type, if it has one, may stand inside other
documents. -/
def Embeds (s : Schema) (type : ValueType) : Prop :=
  ∀ model, type.model? = some model → s.embeddingFault? model = none

theorem embeds_scalar (s : Schema) (kind : ScalarKind) : s.Embeds (.scalar kind) := by
  simp [Embeds, ValueType.model?]

/-- A model that may stand inside other documents is there, and has no relations. -/
theorem exists_of_embeds {type : ValueType} (h : s.Embeds type)
    (htype : type.model? = some model) :
    ∃ m, s.model? model = some m ∧ ∀ f ∈ m.fields, f.kind.isRelation = false := by
  have hnone := h model htype
  simp only [embeddingFault?] at hnone
  split at hnone
  · simp at hnone
  · rename_i m hm
    split at hnone
    · rw [Option.map_eq_none_iff, List.find?_eq_none] at hnone
      exact ⟨m, hm, fun f hf => by simpa using hnone f hf⟩
    · simp at hnone

variable (hcheck : s.check = [])
include hcheck

theorem embeds_ofField {f : Field} (hm : m ∈ s.models) (hf : f ∈ m.fields) :
    s.Embeds (.ofField f.kind) := by
  have hnone := (check_eq_nil_iff s).mp hcheck m hm f hf
  intro model hmodel
  simp only [fieldFault?] at hnone
  split at hnone
  · rename_i kind hkind
    simp [hkind, ValueType.ofField, ValueType.model?] at hmodel
  · rename_i embedded hkind
    rw [hkind] at hmodel
    obtain rfl := Option.some.inj hmodel
    simpa using hnone
  · rename_i embedded hkind
    rw [hkind] at hmodel
    obtain rfl := Option.some.inj hmodel
    simpa using hnone
  · rename_i target key storedAs hkind
    simp [hkind, ValueType.ofField, ValueType.model?] at hmodel

theorem embeds_field (hm : s.model? model = some m) {f : Field} (hf : m.field? name = some f) :
    s.Embeds (.ofField f.kind) :=
  embeds_ofField hcheck (List.mem_of_find?_eq_some hm) (List.mem_of_find?_eq_some hf)

/-- A foreign key of a checked model leads to a model. -/
theorem model?_of_foreignKey {f : Field} {target : String} {key : Option String}
    {storedAs : Option ScalarKind}
    (hm : m ∈ s.models) (hf : m.field? name = some f)
    (hkind : f.kind = .foreignKey target key storedAs) :
    s.model? target ≠ none := by
  intro htarget
  have hnone := (check_eq_nil_iff s).mp hcheck m hm f (List.mem_of_find?_eq_some hf)
  simp [fieldFault?, hkind, htarget] at hnone

end Schema

/-- Whether a context belongs to a checked schema: its model, and the models that computed
columns have documents of. -/
structure Context.IsChecked (s : Schema) (ctx : Context) : Prop where
  schema : s.check = []
  model : ctx.model ∈ s.models
  annotations : ∀ x ∈ ctx.annotations, s.Embeds x.2

namespace Context.IsChecked

variable {s : Schema} {ctx ctx' : Context}

theorem ofModel {m : Model} (hcheck : s.check = []) (hm : m ∈ s.models) :
    (Context.ofModel m).IsChecked s :=
  ⟨hcheck, hm, fun _ hx => absurd hx List.not_mem_nil⟩

theorem ofSubquery {m : Model} (hcheck : s.check = []) (hm : m ∈ s.models) :
    (Context.ofSubquery m).IsChecked s :=
  ⟨hcheck, hm, fun _ hx => absurd hx List.not_mem_nil⟩

theorem gathers (h : ctx.IsChecked s) (hgathers : ctx.Gathers ctx') : ctx'.IsChecked s where
  schema := h.schema
  model := hgathers.model ▸ h.model
  annotations := hgathers.annotations ▸ h.annotations

theorem computedType (h : ctx.IsChecked s) {name : String} {type : ValueType}
    (htype : ctx.computedType? name = some type) : s.Embeds type :=
  h.annotations (name, type) (Context.mem_of_findType htype)

theorem addAnnotation (h : ctx.IsChecked s) {type : ValueType} (htype : s.Embeds type)
    (name : String) : (ctx.clearRefs.addAnnotation name type).IsChecked s where
  schema := h.schema
  model := h.model
  annotations := by
    intro x hx
    rcases mem_setType hx with hold | rfl
    · exact h.annotations x hold
    · exact htype

end Context.IsChecked

/-! ## Errors that lie with the query -/

/-- An error that checked definitions do not cause: no relation stands in an embedded document,
and an unknown model is one of given names. -/
structure CompileError.LiesWith (names : List String) (e : CompileError) : Prop where
  relation : ∀ m f, e ≠ .relationInEmbedded m f
  model : ∀ n, e = .unknownModel n → n ∈ names

namespace CompileError.LiesWith

variable {names others : List String} {e : CompileError}

theorem mono (h : e.LiesWith names) (hsub : names ⊆ others) : e.LiesWith others :=
  ⟨h.relation, fun n hn => hsub (h.model n hn)⟩

theorem nil (h : e.LiesWith []) : e.LiesWith names := h.mono (List.nil_subset _)

theorem left (h : e.LiesWith names) : e.LiesWith (names ++ others) :=
    h.mono (List.subset_append_left _ _)

theorem right (h : e.LiesWith others) : e.LiesWith (names ++ others) :=
    h.mono (List.subset_append_right _ _)

theorem of_use (h : e.isAboutUse = true) : e.LiesWith names where
  relation := by
    rintro m f rfl
    exact absurd h (by simp [isAboutUse])
  model := by
    rintro n rfl
    exact absurd h (by simp [isAboutUse])

theorem fieldDoesNotExist (model field : String) :
    (CompileError.fieldDoesNotExist model field).LiesWith names :=
  ⟨by simp, by simp⟩

theorem embeddedQuery (model : String) : (CompileError.embeddedQuery model).LiesWith names :=
    ⟨by simp, by simp⟩

theorem unknownModel {name : String} (h : name ∈ names) :
    (CompileError.unknownModel name).LiesWith names where
  relation := by simp
  model := by
    intro n hn
    exact CompileError.unknownModel.inj hn ▸ h

end CompileError.LiesWith

namespace Compiler

variable {c : Compiler} {ctx ctx' : Context} {path : String}

/-! ## One name -/

section Steps

variable {base next : Access} {m : Model} {model name : String} {last : Bool}

/-- Behind an array there is a number, one of its documents or an array of them. -/
theorem arrayStep_embeds {s : Schema} (hbase : s.Embeds (.embeddedArray model))
    (h : arrayStep base model name = .ok (some next)) : s.Embeds next.type := by
  simp only [arrayStep] at h
  split at h
  · obtain rfl := Option.some.inj (Except.ok.inj h)
    exact s.embeds_scalar .integer
  · split at h
    · obtain rfl := Option.some.inj (Except.ok.inj h)
      exact hbase
    · split at h
      · split at h
        · obtain rfl := Option.some.inj (Except.ok.inj h)
          exact hbase
        · simp at h
      · simp at h

theorem memberStep_embeds {s : Schema} {type : ValueType}
    (h : memberStep base type name last = .access next) : s.Embeds next.type := by
  have hmember : next = .jsonKey base name (.scalar .json) := by grind [memberStep]
  exact hmember ▸ s.embeds_scalar .json

variable (hcheck : c.schema.check = [])
include hcheck

theorem documentStep_embeds {e : CompileError} (hm : c.schema.model? model = some m)
    (h : documentStep base m name last e = .ok (.access next)) : c.schema.Embeds next.type := by
  simp only [documentStep] at h
  split at h
  · rename_i f hf
    obtain rfl := Landing.access.inj (keyStep_ok h)
    exact Schema.embeds_field hcheck hm hf
  · exact absurd h lookupOr_ne_access

theorem elementStep_embeds {mapped : ValueType} (hbase : c.schema.Embeds base.type)
    (h : c.elementStep base mapped name last = .ok (.access next)) :
        c.schema.Embeds next.type := by
  simp only [elementStep] at h
  split at h
  · rename_i model htype
    split at h
    · simp at h
    · rename_i next' hnext
      obtain rfl := Landing.access.inj (Except.ok.inj h)
      exact arrayStep_embeds (htype ▸ hbase) hnext
    · split at h
      · simp at h
      · split at h
        · simp at h
        · exact absurd h lookupOr_ne_access
  · split at h
    · simp at h
    · rename_i m hm
      exact documentStep_embeds hcheck (modelOf_ok hm) h
  · exact memberStep_embeds (Except.ok.inj h)
  · exact absurd h lookupOr_ne_access

/-- A name behind a value whose model is checked leads to another such value. -/
theorem step_embeds (hbase : c.schema.Embeds base.type)
    (h : c.step base name last = .ok (.access next)) : c.schema.Embeds next.type := by
  simp only [step] at h
  split at h
  · split at h
    · simp at h
    · rename_i m hm
      exact documentStep_embeds hcheck (modelOf_ok hm) h
  · rename_i model htype
    split at h
    · simp at h
    · rename_i next' hnext
      obtain rfl := Landing.access.inj (Except.ok.inj h)
      exact arrayStep_embeds (htype ▸ hbase) hnext
    · split at h
      · simp at h
      · rename_i m hm
        obtain ⟨f, hf, hlanding⟩ := itemStep_ok h
        obtain rfl := Landing.access.inj hlanding
        exact Schema.embeds_field hcheck (modelOf_ok hm) hf
  · split at h
    · rename_i array inner _
      split at h
      · simp at h
      · rename_i landing hlanding
        obtain ⟨inside, rfl, rfl⟩ := insideEach_eq_access (Except.ok.inj h)
        have hinner : c.schema.Embeds inner.type := hbase
        have hinside : c.schema.Embeds inside.type := elementStep_embeds hcheck hinner hlanding
        exact hinside
    · simp at h
  · exact memberStep_embeds (Except.ok.inj h)
  · split at h
    · simp at h
    · exact absurd h lookupOr_ne_access

omit hcheck in
/-- If such a name leads nowhere, no definition is to blame. -/
theorem step_liesWith {e : CompileError} (hbase : c.schema.Embeds base.type)
    (h : c.step base name last = .error e) : e.LiesWith [] := by
  cases step_error h with
  | unknown hmodel hnone =>
    obtain ⟨m, hm, -⟩ := Schema.exists_of_embeds hbase hmodel
    simp [hnone] at hm
  | relation hmodel hm hrelation =>
    obtain ⟨f, hf, htrue, -⟩ := hrelation
    obtain ⟨m', hm', hplain⟩ := Schema.exists_of_embeds hbase hmodel
    obtain rfl := Option.some.inj (hm.symm.trans hm')
    simp [hplain f (List.mem_of_find?_eq_some hf)] at htrue
  | missing => exact .fieldDoesNotExist _ _
  | use huse => exact .of_use huse

end Steps

/-! ## Paths -/

section Names

variable (hcheck : c.schema.check = [])
include hcheck

/-- Names behind a value whose model is checked lead to another such value, or nowhere without a
definition to blame. -/
theorem follow_value_checked {a : Access} {names : List String} {joins : List Nat}
    (ha : c.schema.Embeds a.type) :
    (∀ ending, c.follow path (.value a) names joins ctx = (.ok ending, ctx') →
      c.schema.Embeds ending.target.type) ∧
    ∀ e, c.follow path (.value a) names joins ctx = (.error e, ctx') → e.LiesWith [] := by
  induction names generalizing a with
  | nil =>
    refine ⟨fun ending h => ?_, fun e h => ?_⟩
    · obtain ⟨rfl, -⟩ := follow_value_nil_ok h
      exact ha
    · obtain ⟨_, _, hnames, -⟩ := follow_value_error h
      simp at hnames
  | cons name rest ih =>
    refine ⟨fun ending h => ?_, fun e h => ?_⟩
    · rcases follow_value_cons_ok h with ⟨next, hstep, hnext⟩ | ⟨l, -, rfl, -⟩
      · exact (ih (step_embeds hcheck ha hstep)).1 ending hnext
      · exact ha
    · obtain ⟨_, _, hnames, hcase⟩ := follow_value_error h
      obtain ⟨rfl, rfl⟩ := List.cons.inj hnames
      rcases hcase with hstep | ⟨next, hstep, hnext⟩
      · exact step_liesWith ha hstep
      · exact (ih (step_embeds hcheck ha hstep)).2 e hnext

theorem fieldFault_liesWith {m : Model} {name : String} {e : CompileError}
    (hm : m ∈ c.schema.models) (h : IsFieldFault c m name e) : e.LiesWith [] := by
  cases h with
  | missing => exact .fieldDoesNotExist _ _
  | unknown hf hkind hnone =>
    exact absurd hnone (Schema.model?_of_foreignKey hcheck hm hf hkind)
  | key => exact .fieldDoesNotExist _ _

/-- The same for names from a document of a checked model, through any number of relations. -/
theorem follow_document_checked {m : Model} {joined : Option String} {relation : String}
    {names : List String} {joins : List Nat} (hm : m ∈ c.schema.models) :
    (∀ ending, c.follow path (.document m joined relation) names joins ctx =
      (.ok ending, ctx') → c.schema.Embeds ending.target.type) ∧
    ∀ e, c.follow path (.document m joined relation) names joins ctx = (.error e, ctx') →
        e.LiesWith [] := by
  induction names generalizing m joined relation joins ctx with
  | nil =>
    refine ⟨fun ending h => ?_, fun e h => ?_⟩
    · obtain ⟨_, _, _, hnames, -⟩ := follow_document_ok h
      simp at hnames
    · rcases follow_document_error h with ⟨-, rfl⟩ | ⟨_, _, hnames, -⟩
      · exact .of_use rfl
      · simp at hnames
  | cons name rest ih =>
    have hcolumn : ∀ {f : Field}, m.field? name = some f →
        c.schema.Embeds (Access.column joined f.column (.ofField f.kind)).type := fun hf =>
      Schema.embeds_ofField hcheck hm (List.mem_of_find?_eq_some hf)
    refine ⟨fun ending h => ?_, fun e h => ?_⟩
    · obtain ⟨_, _, f, hnames, hf, hcase⟩ := follow_document_ok h
      obtain ⟨rfl, rfl⟩ := List.cons.inj hnames
      rcases hcase with ⟨-, hvalue⟩ | ⟨_, _, _, target, k, -, htarget, -, -, hjoin⟩
      · exact (follow_value_checked hcheck (hcolumn hf)).1 ending hvalue
      · exact (ih (List.mem_of_find?_eq_some htarget)).1 ending hjoin
    · rcases follow_document_error h with ⟨hnames, -⟩ | ⟨_, _, hnames, hcase⟩
      · simp at hnames
      obtain ⟨rfl, rfl⟩ := List.cons.inj hnames
      rcases hcase with hfault | ⟨f, hf, hvalue⟩ | ⟨_, _, _, _, target, _, _, _, -, -,
        htarget, hjoin⟩
      · exact fieldFault_liesWith hcheck hm hfault
      · exact (follow_value_checked hcheck (hcolumn hf)).2 e hvalue
      · exact (ih (List.mem_of_find?_eq_some htarget)).2 e hjoin

end Names

section Contexts

variable (hctx : ctx.IsChecked c.schema)
include hctx

theorem followPath_embeds {ending : Ending} (h : c.followPath ctx path = (.ok ending, ctx')) :
    c.schema.Embeds ending.target.type := by
  obtain ⟨name, rest, -, -, hstart⟩ := followPath_ok h
  rcases hstart with ⟨type, htype, hvalue⟩ | ⟨-, hfollow⟩
  · exact (follow_value_checked (a := .computed name type) hctx.schema (hctx.computedType
      htype)).1 ending hvalue
  · exact (follow_document_checked hctx.schema hctx.model).1 ending hfollow

theorem followPath_liesWith {e : CompileError} (h : c.followPath ctx path = (.error e, ctx')) :
    e.LiesWith [] := by
  rcases followPath_error h with rfl | ⟨name, rest, -, ⟨type, htype, hvalue⟩ | hfollow⟩
  · exact .of_use rfl
  · exact (follow_value_checked (a := .computed name type) hctx.schema (hctx.computedType
      htype)).2 e hvalue
  · exact (follow_document_checked hctx.schema hctx.model).2 e hfollow

theorem resolveLookup_liesWith {e : CompileError}
    (h : c.resolveLookup ctx path = (.error e, ctx')) : e.LiesWith [] :=
  (resolveLookup_error h).elim (followPath_liesWith hctx) .of_use

theorem fieldExpr_embeds {v : Value} {type : ValueType}
    (h : c.fieldExpr ctx path = .ok ((v, type), ctx')) : c.schema.Embeds type := by
  simp only [fieldExpr] at h
  split at h
  · rename_i r after hr
    obtain ⟨ending, hpath, htarget⟩ := resolveField_ok hr
    obtain ⟨hpair, rfl⟩ := Prod.mk.inj (Except.ok.inj h)
    obtain ⟨-, rfl⟩ := Prod.mk.inj hpair
    exact htarget ▸ followPath_embeds hctx hpath
  · simp at h

theorem fieldExpr_liesWith {e : CompileError} (h : c.fieldExpr ctx path = .error e) :
    e.LiesWith [] := by
  obtain ⟨after, hfault⟩ := fieldExpr_error h
  exact (resolveField_error hfault).elim (followPath_liesWith hctx) .of_use

end Contexts

/-- What is compiled path by path in a checked context fails only where the query is to
blame. -/
theorem failsAtPaths :
    c.FailsAtPaths (fun ctx => ctx.IsChecked c.schema) (CompileError.LiesWith []) where
  keeps := fun hctx h => hctx.gathers (fieldExpr_reads h).gathers
  fails := fun hctx h => fieldExpr_liesWith hctx h

end Compiler

/-! ## The models that a query names -/

mutual

/-- The models that are written in a computed value: those of the queries inside it. -/
def Expr.modelNames : Expr → List String
  | .literal _ => []
  | .field _ => []
  | .outer _ => []
  | .list items => Expr.modelNamesOf items
  | .combined _ left right => left.modelNames ++ right.modelNames
  | .case branches otherwise => Expr.modelNamesOfBranches branches ++ otherwise.modelNames
  | .condition filter => filter.modelNames
  | .subquery q => q.modelNames

/-- The same for several computed values. -/
def Expr.modelNamesOf : List Expr → List String
  | [] => []
  | e :: rest => e.modelNames ++ Expr.modelNamesOf rest

/-- The same for the branches of a case distinction. -/
def Expr.modelNamesOfBranches : List (Filter × Expr) → List String
  | [] => []
  | (f, e) :: rest => f.modelNames ++ (e.modelNames ++ Expr.modelNamesOfBranches rest)

/-- The same for a filter. -/
def Filter.modelNames : Filter → List String
  | .lookup _ operand => operand.modelNames
  | .and filters => Filter.modelNamesOf filters
  | .or filters => Filter.modelNamesOf filters
  | .not filter => filter.modelNames
  | .exists q => q.modelNames

/-- The same for several filters. -/
def Filter.modelNamesOf : List Filter → List String
  | [] => []
  | f :: rest => f.modelNames ++ Filter.modelNamesOf rest

/-- The same for a filter that there may be. -/
def Filter.modelNamesOfCondition : Option Filter → List String
  | none => []
  | some f => f.modelNames

/-- The same for computed columns. -/
def Query.modelNamesOfColumns : List (String × Expr) → List String
  | [] => []
  | (_, e) :: rest => e.modelNames ++ Query.modelNamesOfColumns rest

/-- The models that are written in a query: its own, and those of the queries inside it and of
those that it is united with. -/
def Query.modelNames : Query → List String
  | .mk model filter annotations _ _ _ _ _ union =>
    model :: (Query.modelNamesOfColumns annotations ++
      (Filter.modelNamesOfCondition filter ++ Query.modelNamesOfUnion union))

/-- The same for several queries. -/
def Query.modelNamesOfOthers : List Query → List String
  | [] => []
  | q :: rest => q.modelNames ++ Query.modelNamesOfOthers rest

/-- The same for the queries that a query is united with. -/
def Query.modelNamesOfUnion : Option (List Query × Bool) → List String
  | none => []
  | some (others, _) => Query.modelNamesOfOthers others

end

namespace Compiler

variable {c : Compiler}

/-! ## Contexts of a query -/

theorem typed_embeds {s : Schema} {ctx' : Context} {kind : ScalarKind}
    {r : Except CompileError (Value × Context)}
    {v : Value} {type : ValueType} (h : typed kind r = .ok ((v, type), ctx')) :
        s.Embeds type := by
  rcases r with fault | ⟨w, after⟩
  · simp [typed] at h
  · simp only [typed, Except.ok.injEq, Prod.mk.injEq] at h
    exact h.1.2 ▸ s.embeds_scalar kind

/-- A computed value has the type of a path or of a scalar. -/
theorem compileExpr_embeds {ctx ctx' : Context} (hctx : ctx.IsChecked c.schema)
    (body : Expr) {v : Value}
    {type : ValueType} (h : c.compileExpr ctx body = .ok ((v, type), ctx')) :
        c.schema.Embeds type := by
  cases body with
  | literal w =>
    rw [compileExpr] at h
    obtain ⟨hpair, -⟩ := Prod.mk.inj (Except.ok.inj h)
    exact (Prod.mk.inj hpair).2 ▸ c.schema.embeds_scalar _
  | field path =>
    rw [compileExpr] at h
    exact fieldExpr_embeds hctx h
  | outer path =>
    rw [compileExpr, outerExpr] at h
    split at h
    · obtain ⟨hpair, -⟩ := Prod.mk.inj (Except.ok.inj h)
      exact (Prod.mk.inj hpair).2 ▸ c.schema.embeds_scalar _
    · simp at h
  | list items =>
    rw [compileExpr] at h
    split at h
    · obtain ⟨hpair, -⟩ := Prod.mk.inj (Except.ok.inj h)
      exact (Prod.mk.inj hpair).2 ▸ c.schema.embeds_scalar _
    · simp at h
  | combined op left right =>
    rw [compileExpr] at h
    split at h
    · simp at h
    · split at h
      · simp at h
      · obtain ⟨hpair, -⟩ := Prod.mk.inj (Except.ok.inj h)
        exact (Prod.mk.inj hpair).2 ▸ c.schema.embeds_scalar _
  | case branches otherwise =>
    obtain ⟨bs, after, w, hbs, hw, -⟩ := compileExpr_case_ok h
    exact compileExpr_embeds (hctx.gathers (compileBranches_reads ctx branches hbs).gathers)
      otherwise hw
  | condition filter =>
    rw [compileExpr] at h
    exact typed_embeds h
  | subquery q =>
    rw [compileExpr] at h
    exact typed_embeds h

theorem compileAnnotations_checked {ctx ctx' : Context} (hctx : ctx.IsChecked c.schema)
    {pending : Document} {annotations : List (String × Expr)} {stages : List Stage}
    (h : c.compileAnnotations pending ctx annotations = .ok (stages, ctx')) :
        ctx'.IsChecked c.schema := by
  induction annotations generalizing pending ctx stages with
  | nil =>
    rw [compileAnnotations] at h
    obtain ⟨-, rfl⟩ := Prod.mk.inj (Except.ok.inj h)
    exact hctx
  | cons annotation rest ih =>
    obtain ⟨name, body⟩ := annotation
    obtain ⟨v, type, after, hv, hrest⟩ := compileAnnotations_cons_ok h
    have hafter := hctx.gathers (compileExpr_reads ctx body hv).gathers
    have hnext := hafter.addAnnotation (compileExpr_embeds hctx body hv) name
    rcases hrest with ⟨others, hothers, -⟩ | ⟨-, hothers⟩
    · exact ih hnext hothers
    · exact ih hnext hothers

/-! ## Trees -/

/-- The parts of a query in order: the first that fails is to blame. -/
theorem planWith_liesWith {ctx : Context} (q : Query) {names others : List String}
    {e : CompileError} (hctx : ctx.IsChecked c.schema)
    (hannotations : ∀ {ctx}, ctx.IsChecked c.schema →
      c.compileAnnotations [] ctx q.annotations = .error e → e.LiesWith names)
    (hfilter : ∀ {ctx}, ctx.IsChecked c.schema → c.compileCondition ctx q.filter = .error e →
      e.LiesWith others)
    (h : c.planWith ctx q (fun ctx => c.compileAnnotations [] ctx q.annotations)
      (fun ctx => c.compileCondition ctx q.filter) = .error e) :
          e.LiesWith (names ++ others) := by
  have hpaths := c.failsAtPaths
  rcases planWith_error h with hrelated | ⟨loaded, hloaded, hparts⟩
  · exact (hpaths.loadRelations hctx hrelated).nil
  have hloadedChecked := hctx.gathers (gathers_alongPaths.loadRelations hloaded)
  rcases hparts with hfail | ⟨stages, computed, hstages, hparts⟩
  · exact (hannotations hloadedChecked hfail).left
  have hcomputed := compileAnnotations_checked hloadedChecked hstages
  rcases hparts with hfail | ⟨condition, filtered, hcondition, hparts⟩
  · exact (hfilter hcomputed hfail).right
  have hfiltered := hcomputed.gathers (compileCondition_gathers hcondition)
  rcases hparts with hfail | ⟨keys, sorted, hsorted, hfail⟩
  · exact (hpaths.sortKeys hfiltered hfail).nil
  · exact (hpaths.returnedColumns (hfiltered.gathers (gathers_alongPaths.sortKeys hsorted))
      hfail).nil

theorem queryableModel_mem {name : String} {m : Model} (h : c.queryableModel name = .ok m) :
    m ∈ c.schema.models :=
  List.mem_of_find?_eq_some ((queryableModel_eq_ok_iff c name m).mp h).1

theorem queryableModel_liesWith {name : String} {names : List String} {e : CompileError}
    (h : c.queryableModel name = .error e) (hname : name ∈ names) : e.LiesWith names := by
  rcases queryableModel_error h with rfl | ⟨m, rfl⟩
  · exact .unknownModel hname
  · exact .embeddedQuery m

mutual

theorem compileFilter_liesWith {ctx : Context} (f : Filter) {e : CompileError}
    (hctx : ctx.IsChecked c.schema)
    (h : c.compileFilter ctx f = .error e) : e.LiesWith f.modelNames := by
  match f with
  | .lookup path operand =>
    rw [Filter.modelNames]
    by_cases hcomputed : isComputed operand = true
    · rcases compileFilter_computed_error hcomputed h with ⟨after, hpath⟩ | ⟨r, after,
        hr, hw⟩ | huse
      · exact (resolveLookup_liesWith hctx hpath).nil
      · exact compileExpr_liesWith operand (hctx.gathers (resolveLookup_reads hr).gathers) hw
      · exact .of_use huse
    · match operand with
      | .literal v =>
        rcases compileFilter_literal_error h with ⟨after, hpath⟩ | huse
        · exact (resolveLookup_liesWith hctx hpath).nil
        · exact .of_use huse
      | .list items =>
        rw [Expr.modelNames]
        rcases compileFilter_list_error h with ⟨after, hpath⟩ | ⟨r, after, hr, hitems⟩ | huse
        · exact (resolveLookup_liesWith hctx hpath).nil
        · exact compileItems_liesWith items (hctx.gathers (resolveLookup_reads hr).gathers)
            hitems
        · exact .of_use huse
      | .subquery q =>
        rw [Expr.modelNames]
        rcases compileFilter_subquery_error h with ⟨after, hpath⟩ | ⟨r, after, hr, hq⟩ | huse
        · exact (resolveLookup_liesWith hctx hpath).nil
        · exact compileSubquery_liesWith q (hctx.gathers (resolveLookup_reads hr).gathers) hq
        · exact .of_use huse
      | .field _ | .outer _ | .combined _ _ _ | .case _ _ | .condition _ =>
        exact absurd rfl hcomputed
  | .and filters =>
    rw [Filter.modelNames]
    exact compileFilters_liesWith filters hctx (compileFilter_and_error h)
  | .or filters =>
    rw [Filter.modelNames]
    exact compileFilters_liesWith filters (hctx.gathers (.of_same (.enter ctx)))
      (compileFilter_or_error h)
  | .not filter =>
    rw [Filter.modelNames]
    exact compileFilter_liesWith filter (hctx.gathers (.of_same (.enter ctx)))
      (compileFilter_not_error h)
  | .exists q =>
    rw [Filter.modelNames]
    exact compileSubquery_liesWith q hctx (compileFilter_exists_error h)

theorem compileFilters_liesWith {ctx : Context} (filters : List Filter) {e : CompileError}
    (hctx : ctx.IsChecked c.schema) (h : c.compileFilters ctx filters = .error e) :
    e.LiesWith (Filter.modelNamesOf filters) := by
  match filters with
  | [] => simp [compileFilters] at h
  | f :: rest =>
    rw [Filter.modelNamesOf]
    rcases compileFilters_cons_error h with hf | ⟨v, after, hv, hrest⟩
    · exact (compileFilter_liesWith f hctx hf).left
    · exact (compileFilters_liesWith rest (hctx.gathers (compileFilter_reads ctx f hv).gathers)
        hrest).right

theorem compileItems_liesWith {ctx : Context} {r : Resolved} (items : List Expr)
    {e : CompileError}
    (hctx : ctx.IsChecked c.schema) (h : c.compileItems r ctx items = .error e) :
    e.LiesWith (Expr.modelNamesOf items) := by
  match items with
  | [] => simp [compileItems] at h
  | item :: rest =>
    rw [Expr.modelNamesOf]
    rcases compileItems_cons_error h with huse | hrest | hitem | ⟨v, type, after, hv, hrest⟩
    · exact .of_use huse
    · exact (compileItems_liesWith rest hctx hrest).right
    · exact (compileExpr_liesWith item hctx hitem).left
    · exact (compileItems_liesWith rest (hctx.gathers (compileExpr_reads ctx item hv).gathers)
        hrest).right

theorem compileExpr_liesWith {ctx : Context} (body : Expr) {e : CompileError}
    (hctx : ctx.IsChecked c.schema)
    (h : c.compileExpr ctx body = .error e) : e.LiesWith body.modelNames := by
  match body with
  | .literal v => simp [compileExpr] at h
  | .field path =>
    rw [compileExpr] at h
    exact (fieldExpr_liesWith hctx h).nil
  | .outer path =>
    rw [compileExpr] at h
    exact .of_use (outerExpr_error h)
  | .list items =>
    rw [Expr.modelNames]
    exact compileExprs_liesWith items hctx (compileExpr_list_error h)
  | .combined op left right =>
    rw [Expr.modelNames]
    rcases compileExpr_combined_error h with hleft | ⟨v, type, after, hv, hright⟩
    · exact (compileExpr_liesWith left hctx hleft).left
    · exact (compileExpr_liesWith right (hctx.gathers (compileExpr_reads ctx left hv).gathers)
        hright).right
  | .case branches otherwise =>
    rw [Expr.modelNames]
    rcases compileExpr_case_error h with hbranches | ⟨bs, after, hbs, hotherwise⟩
    · exact (compileBranches_liesWith branches hctx hbranches).left
    · have hafter := hctx.gathers (compileBranches_reads ctx branches hbs).gathers
      exact (compileExpr_liesWith otherwise hafter hotherwise).right
  | .condition filter =>
    rw [Expr.modelNames]
    exact compileFilter_liesWith filter hctx (compileExpr_condition_error h)
  | .subquery q =>
    rw [Expr.modelNames]
    exact compileSubquery_liesWith q hctx (compileExpr_subquery_error h)

theorem compileExprs_liesWith {ctx : Context} (items : List Expr) {e : CompileError}
    (hctx : ctx.IsChecked c.schema)
    (h : c.compileExprs ctx items = .error e) : e.LiesWith (Expr.modelNamesOf items) := by
  match items with
  | [] => simp [compileExprs] at h
  | item :: rest =>
    rw [Expr.modelNamesOf]
    rcases compileExprs_cons_error h with hitem | ⟨v, type, after, hv, hrest⟩
    · exact (compileExpr_liesWith item hctx hitem).left
    · exact (compileExprs_liesWith rest (hctx.gathers (compileExpr_reads ctx item hv).gathers)
        hrest).right

theorem compileBranches_liesWith {ctx : Context} (branches : List (Filter × Expr))
    {e : CompileError}
    (hctx : ctx.IsChecked c.schema) (h : c.compileBranches ctx branches = .error e) :
    e.LiesWith (Expr.modelNamesOfBranches branches) := by
  match branches with
  | [] => simp [compileBranches] at h
  | (f, body) :: rest =>
    rw [Expr.modelNamesOfBranches]
    rcases compileBranches_cons_error h with hf | ⟨condition, after, hcondition, hcase⟩
    · exact (compileFilter_liesWith f hctx hf).left
    have hafter := hctx.gathers (compileFilter_reads ctx f hcondition).gathers
    rcases hcase with hbody | ⟨v, type, after', hv, hrest⟩
    · exact (compileExpr_liesWith body hafter hbody).left.right
    · have hlast := hafter.gathers (compileExpr_reads after body hv).gathers
      exact (compileBranches_liesWith rest hlast hrest).right.right

theorem compileAnnotations_liesWith {ctx : Context} {pending : Document}
    (annotations : List (String × Expr)) {e : CompileError} (hctx : ctx.IsChecked c.schema)
    (h : c.compileAnnotations pending ctx annotations = .error e) :
    e.LiesWith (Query.modelNamesOfColumns annotations) := by
  match annotations with
  | [] => simp [compileAnnotations] at h
  | (name, body) :: rest =>
    rw [Query.modelNamesOfColumns]
    rcases compileAnnotations_cons_error h with hbody | ⟨v, type, after, pending', hv, hrest⟩
    · exact (compileExpr_liesWith body hctx hbody).left
    · have hafter := hctx.gathers (compileExpr_reads ctx body hv).gathers
      have hnext := hafter.addAnnotation (compileExpr_embeds hctx body hv) name
      exact (compileAnnotations_liesWith rest hnext hrest).right

theorem compileCondition_liesWith {ctx : Context} (f : Option Filter) {e : CompileError}
    (hctx : ctx.IsChecked c.schema) (h : c.compileCondition ctx f = .error e) :
    e.LiesWith (Filter.modelNamesOfCondition f) := by
  match f with
  | none => simp [compileCondition] at h
  | some f =>
    rw [Filter.modelNamesOfCondition]
    exact compileFilter_liesWith f hctx (compileCondition_some_error h)

theorem compileOthers_liesWith (hcheck : c.schema.check = []) (others : List Query)
    {e : CompileError}
    (h : c.compileOthers others = .error e) : e.LiesWith (Query.modelNamesOfOthers others) := by
  match others with
  | [] => simp [compileOthers] at h
  | q :: rest =>
    rw [Query.modelNamesOfOthers]
    rcases compileOthers_cons_error h with hq | hrest
    · exact (compile_liesWith hcheck q hq).left
    · exact (compileOthers_liesWith hcheck rest hrest).right

theorem compileUnion_liesWith (hcheck : c.schema.check = [])
    (union : Option (List Query × Bool)) {e : CompileError}
    (h : c.compileUnion union = .error e) : e.LiesWith (Query.modelNamesOfUnion union) := by
  match union with
  | none => simp [compileUnion] at h
  | some (others, keepAll) =>
    rw [Query.modelNamesOfUnion]
    rw [compileUnion] at h
    exact compileOthers_liesWith hcheck others h

theorem compile_liesWith (hcheck : c.schema.check = []) (q : Query) {e : CompileError}
    (h : c.compile q = .error e) : e.LiesWith q.modelNames := by
  match q with
  | .mk model filter annotations values orderBy offset limit related union =>
    rw [Query.modelNames]
    rw [compile] at h
    rcases queryWith_error h with hmodel | ⟨m, hm, hplan | hunion⟩
    · exact queryableModel_liesWith hmodel List.mem_cons_self
    · have hparts := planWith_liesWith
        (.mk model filter annotations values orderBy offset limit related union)
        (.ofModel hcheck (queryableModel_mem hm))
        (fun hctx h => compileAnnotations_liesWith annotations hctx h)
        (fun hctx h => compileCondition_liesWith filter hctx h) hplan
      exact hparts.mono fun n hn => List.mem_cons_of_mem _ (List.append_assoc _ _ _ ▸
        List.mem_append_left _ hn)
    · exact (compileUnion_liesWith hcheck union hunion).right.right.mono
        (List.subset_cons_self _ _)

theorem compileSubquery_liesWith {ctx : Context} {wrap : Bool} (q : Query) {e : CompileError}
    (hctx : ctx.IsChecked c.schema) (h : c.compileSubquery ctx wrap q = .error e) :
        e.LiesWith q.modelNames := by
  match q with
  | .mk model filter annotations values orderBy offset limit related union =>
    rw [Query.modelNames]
    rw [compileSubquery] at h
    rcases subqueryWith_error h with hmodel | huse | ⟨outer, houter⟩ | ⟨m, hm, hplan | hunion⟩
    · exact queryableModel_liesWith hmodel List.mem_cons_self
    · exact .of_use huse
    · exact (c.failsAtPaths.outerBindings hctx houter).nil
    · have hparts := planWith_liesWith
        (.mk model filter annotations values orderBy offset limit related union)
        (.ofSubquery hctx.schema (queryableModel_mem hm))
        (fun hctx h => compileAnnotations_liesWith annotations hctx h)
        (fun hctx h => compileCondition_liesWith filter hctx h) hplan
      exact hparts.mono fun n hn => List.mem_cons_of_mem _ (List.append_assoc _ _ _ ▸
        List.mem_append_left _ hn)
    · exact (compileUnion_liesWith hctx.schema union hunion).right.right.mono
        (List.subset_cons_self _ _)

end

/-! ## Queries -/

/-- A query on a checked schema fails neither for a relation in an embedded document nor for a
model that a field leads to: an unknown model is written in the query itself, in a query inside
it or in one that it is united with. -/
theorem compile_error_of_checked (hcheck : c.schema.check = []) {q : Query} {e : CompileError}
    (h : c.compile q = .error e) :
    (∀ model field, e ≠ .relationInEmbedded model field) ∧ ∀ name, e = .unknownModel name →
        name ∈ q.modelNames := by
  have hlies := compile_liesWith hcheck q h
  exact ⟨hlies.relation, hlies.model⟩

/-- The people whose team is led by one of the guests, of whom nothing is known. -/
def peopleOfGuests : Query :=
    (Query.all "Person").addFilter (.lookup "team__lead__in" (.subquery (Query.all "Guest")))

/-- The schema of people and teams has no problems, and a question about guests fails for
guests. -/
theorem peopleOfGuests_fail :
    ∃ e, staff.schema.check = [] ∧ staff.compile peopleOfGuests = .error e ∧
    e = .unknownModel "Guest" ∧ (∀ model field, e ≠ .relationInEmbedded model field) ∧
    ∀ name, e = .unknownModel name → name ∈ peopleOfGuests.modelNames := by
  have hcheck : staff.schema.check = [] := by decide
  have hfails : staff.compile peopleOfGuests = .error (.unknownModel "Guest") := rfl
  exact ⟨_, hcheck, hfails, rfl, compile_error_of_checked hcheck hfails⟩

end Compiler

end DocQuery
