import DocQuery.Proofs.Inversion
set_option autoImplicit false

/-!
# Proofs: what a failed compilation comes from

One lemma for each way in which a part of a query is compiled.  If it fails then one of its
parts does, those in front of that part succeed, and the error is the one of the part.
-/

namespace DocQuery

/-- The model of the documents that values of a type are, hold as items, or are read from. -/
def ValueType.model? : ValueType → Option String
  | .scalar _ => none
  | .embedded model => some model
  | .embeddedArray model => some model
  | .mapped element => element.model?

/-- Whether an error is about how values and lookups are used, and not about a model or one of
its fields. -/
def CompileError.isAboutUse : CompileError → Bool
  | .unknownModel _ => false
  | .fieldDoesNotExist _ _ => false
  | .relationInEmbedded _ _ => false
  | .embeddedQuery _ => false
  | _ => true

namespace Compiler

variable {c : Compiler} {ctx ctx' : Context} {path : String} {e : CompileError}

/-! ## One name -/

section Steps

variable {base : Access} {m : Model} {model name : String} {last : Bool}

theorem modelOf_error (h : c.modelOf name = .error e) :
    c.schema.model? name = none ∧ e = .unknownModel name := by
  simp only [modelOf] at h
  split at h
  · simp at h
  · rename_i hnone
    exact ⟨hnone, (Except.error.inj h).symm⟩

theorem queryableModel_error (h : c.queryableModel name = .error e) :
    e = .unknownModel name ∨ ∃ m, e = .embeddedQuery m := by
  simp only [queryableModel] at h
  split at h
  · rename_i fault hfault
    obtain rfl := Except.error.inj h
    exact .inl (modelOf_error hfault).2
  · rename_i m hm
    split at h
    · exact .inr ⟨m.name, (Except.error.inj h).symm⟩
    · simp at h

theorem lookupOr_error {fault : CompileError} (h : lookupOr name last fault = .error e) :
    e = fault := by
  simp only [lookupOr] at h
  split at h
  · simp at h
  · exact (Except.error.inj h).symm

/-- The error for a relation of a model, where documents of the model stand in others. -/
def IsRelationFault (m : Model) (name : String) (e : CompileError) : Prop :=
  ∃ f, m.field? name = some f ∧ f.kind.isRelation = true ∧ e = .relationInEmbedded m.name f.name

theorem keyStep_error {f : Field} (hf : m.field? name = some f)
    (h : keyStep base m f = .error e) : IsRelationFault m name e := by
  simp only [keyStep] at h
  split at h
  · rename_i hrelation
    exact ⟨f, hf, hrelation, (Except.error.inj h).symm⟩
  · simp at h

theorem documentStep_error {fault : CompileError}
    (h : documentStep base m name last fault = .error e) :
    IsRelationFault m name e ∨ m.field? name = none ∧ e = fault := by
  simp only [documentStep] at h
  split at h
  · rename_i f hf
    exact .inl (keyStep_error hf h)
  · rename_i hnone
    exact .inr ⟨hnone, lookupOr_error h⟩

theorem arrayStep_error (h : arrayStep base model name = .error e) : e.isAboutUse = true := by
  simp only [arrayStep] at h
  split at h
  · simp at h
  · split at h
    · simp at h
    · split at h
      · split at h
        · simp at h
        · obtain rfl := Except.error.inj h
          rfl
      · simp at h

theorem itemStep_error (h : itemStep base m model name = .error e) :
    IsRelationFault m name e ∨ m.field? name = none ∧ e = .fieldDoesNotExist m.name name ∨
        e.isAboutUse = true := by
  simp only [itemStep] at h
  split at h
  · rename_i f hf
    split at h
    · simp at h
    · rename_i fault hfault
      obtain rfl := Except.error.inj h
      exact .inl (keyStep_error hf hfault)
  · rename_i hnone
    split at h <;> obtain rfl := Except.error.inj h
    · exact .inr (.inr rfl)
    · exact .inr (.inl ⟨hnone, rfl⟩)

/-- The error of a name behind documents of a model: there is no such model, the name is a
relation of it or no field of it, or else the name is used wrongly. -/
inductive IsStepFault (c : Compiler) (model? : Option String) (name : String) :
    CompileError → Prop where
  | unknown {model : String} (hmodel : model? = some model)
    (hnone : c.schema.model? model = none) :
      IsStepFault c model? name (.unknownModel model)
  | relation {model : String} {m : Model} {e : CompileError} (hmodel : model? = some model)
      (hm : c.schema.model? model = some m) (h : IsRelationFault m name e) :
      IsStepFault c model? name e
  | missing {model : String} {m : Model} (hmodel : model? = some model)
    (hm : c.schema.model? model = some m)
      (hnone : m.field? name = none) :
      IsStepFault c model? name (.fieldDoesNotExist m.name name)
  | use {e : CompileError} (h : e.isAboutUse = true) : IsStepFault c model? name e

theorem modelOf_stepFault {model? : Option String} (hmodel : model? = some model)
    (h : c.modelOf model = .error e) : IsStepFault c model? name e := by
  obtain ⟨hnone, rfl⟩ := modelOf_error h
  exact .unknown hmodel hnone

theorem elementStep_error {mapped : ValueType}
    (h : c.elementStep base mapped name last = .error e) :
    IsStepFault c base.type.model? name e := by
  simp only [elementStep] at h
  split at h
  · rename_i model htype
    have hmodel : base.type.model? = some model := by rw [htype]; rfl
    split at h
    · rename_i fault hfault
      obtain rfl := Except.error.inj h
      exact .use (arrayStep_error hfault)
    · simp at h
    · split at h
      · rename_i fault hfault
        obtain rfl := Except.error.inj h
        exact modelOf_stepFault hmodel hfault
      · split at h
        · obtain rfl := Except.error.inj h
          exact .use rfl
        · exact .use (lookupOr_error h ▸ rfl)
  · rename_i model htype
    have hmodel : base.type.model? = some model := by rw [htype]; rfl
    split at h
    · rename_i fault hfault
      obtain rfl := Except.error.inj h
      exact modelOf_stepFault hmodel hfault
    · rename_i m hm
      rcases documentStep_error h with hrelation | ⟨-, rfl⟩
      · exact .relation hmodel (modelOf_ok hm) hrelation
      · exact .use rfl
  · simp at h
  · exact .use (lookupOr_error h ▸ rfl)

theorem step_error (h : c.step base name last = .error e) :
    IsStepFault c base.type.model? name e := by
  simp only [step] at h
  split at h
  · rename_i model htype
    have hmodel : base.type.model? = some model := by rw [htype]; rfl
    split at h
    · rename_i fault hfault
      obtain rfl := Except.error.inj h
      exact modelOf_stepFault hmodel hfault
    · rename_i m hm
      rcases documentStep_error h with hrelation | ⟨hnone, rfl⟩
      · exact .relation hmodel (modelOf_ok hm) hrelation
      · exact .missing hmodel (modelOf_ok hm) hnone
  · rename_i model htype
    have hmodel : base.type.model? = some model := by rw [htype]; rfl
    split at h
    · rename_i fault hfault
      obtain rfl := Except.error.inj h
      exact .use (arrayStep_error hfault)
    · simp at h
    · split at h
      · rename_i fault hfault
        obtain rfl := Except.error.inj h
        exact modelOf_stepFault hmodel hfault
      · rename_i m hm
        rcases itemStep_error h with hrelation | ⟨hnone, rfl⟩ | huse
        · exact .relation hmodel (modelOf_ok hm) hrelation
        · exact .missing hmodel (modelOf_ok hm) hnone
        · exact .use huse
  · split at h
    · rename_i array inner _
      split at h
      · rename_i fault hfault
        obtain rfl := Except.error.inj h
        have hinner : IsStepFault c inner.type.model? name fault := elementStep_error hfault
        exact hinner
      · simp at h
    · obtain rfl := Except.error.inj h
      exact .use rfl
  · simp at h
  · split at h
    · obtain rfl := Except.error.inj h
      exact .use rfl
    · exact .use (lookupOr_error h ▸ rfl)

end Steps

/-! ## Paths -/

theorem follow_value_error {a : Access} {names : List String} {joins : List Nat}
    (h : c.follow path (.value a) names joins ctx = (.error e, ctx')) :
    ∃ name rest, names = name :: rest ∧ (c.step a name rest.isEmpty = .error e ∨
      ∃ next, c.step a name rest.isEmpty = .ok (.access next) ∧
        c.follow path (.value next) rest joins ctx = (.error e, ctx')) := by
  cases names with
  | nil => simp [follow] at h
  | cons name rest =>
    refine ⟨name, rest, rfl, ?_⟩
    simp only [follow] at h
    split at h
    · rename_i fault hfault
      obtain rfl := Except.error.inj (Prod.mk.inj h).1
      exact .inl hfault
    · rename_i next hnext
      exact .inr ⟨next, hnext, h⟩
    · simp at h

/-- The error of a name behind a document of a collection: there is no such field, or the field
leads to no model, or its key refers to no field. -/
inductive IsFieldFault (c : Compiler) (m : Model) (name : String) : CompileError → Prop where
  | missing (hnone : m.field? name = none) :
    IsFieldFault c m name (.fieldDoesNotExist m.name name)
  | unknown {f : Field} {model : String} {key : Option String} {storedAs : Option ScalarKind}
      (hf : m.field? name = some f) (hkind : f.kind = .foreignKey model key storedAs)
      (hnone : c.schema.model? model = none) : IsFieldFault c m name (.unknownModel model)
  | key {f : Field} {model : String} {key : Option String} {storedAs : Option ScalarKind}
    {target : Model}
      (hf : m.field? name = some f) (hkind : f.kind = .foreignKey model key storedAs)
      (htarget : c.schema.model? model = some target)
      (hnone : target.field? (key.getD usualKey) = none) :
      IsFieldFault c m name (.fieldDoesNotExist target.name (key.getD usualKey))

theorem follow_document_error {m : Model} {joined : Option String} {relation : String}
    {names : List String}
    {joins : List Nat} (h : c.follow path (.document m joined relation) names joins ctx =
      (.error e, ctx')) :
    names = [] ∧ e = .invalidPath path ∨
    ∃ name rest, names = name :: rest ∧ (IsFieldFault c m name e ∨
      (∃ f, m.field? name = some f ∧
        c.follow path (.value (.column joined f.column (.ofField f.kind))) rest joins ctx =
          (.error e, ctx')) ∨
      ∃ f model key storedAs target under joins' after, m.field? name = some f ∧
        f.kind = .foreignKey model key storedAs ∧ c.schema.model? model = some target ∧
        c.follow path (.document target (some under) (relationPath relation name))
          rest joins' after = (.error e, ctx')) := by
  cases names with
  | nil =>
    simp only [follow] at h
    exact .inl ⟨rfl, (Except.error.inj (Prod.mk.inj h).1).symm⟩
  | cons name rest =>
    refine .inr ⟨name, rest, rfl, ?_⟩
    simp only [follow] at h
    cases hf : m.field? name with
    | none =>
      rw [hf] at h
      obtain rfl := Except.error.inj (Prod.mk.inj h).1
      exact .inl (.missing hf)
    | some f =>
      simp only [hf] at h
      split at h
      · rename_i model key storedAs hkind
        split at h
        · rename_i fault hfault
          obtain rfl := Except.error.inj (Prod.mk.inj h).1
          obtain ⟨hnone, rfl⟩ := modelOf_error hfault
          exact .inl (.unknown hf hkind hnone)
        · rename_i target htarget
          split at h
          · exact .inr (.inl ⟨f, rfl, h⟩)
          · split at h
            · rename_i hnone
              obtain rfl := Except.error.inj (Prod.mk.inj h).1
              exact .inl (.key hf hkind (modelOf_ok htarget) hnone)
            · exact .inr (.inr ⟨f, model, key, storedAs, target, _, _, _, rfl, hkind,
                modelOf_ok htarget, h⟩)
      · exact .inr (.inl ⟨f, rfl, h⟩)

theorem followPath_error (h : c.followPath ctx path = (.error e, ctx')) :
    e = .invalidPath path ∨ ∃ name rest, Text.segments path = name :: rest ∧
      ((∃ type, ctx.computedType? name = some type ∧
        c.follow path (.value (.computed name type)) rest [] (ctx.refer name) =
          (.error e, ctx')) ∨
        c.follow path (.document ctx.model none "") (name :: rest) [] ctx =
          (.error e, ctx')) := by
  simp only [followPath] at h
  split at h
  · exact .inl (Except.error.inj (Prod.mk.inj h).1).symm
  · cases hnames : Text.segments path with
    | nil => exact absurd hnames (Text.segments_ne_nil path)
    | cons name rest =>
      rw [hnames] at h
      refine .inr ⟨name, rest, rfl, ?_⟩
      cases htype : ctx.computedType? name with
      | some type => exact .inl ⟨type, rfl, by simpa [htype] using h⟩
      | none => exact .inr (by simpa [htype] using h)

theorem compared_error {ending : Ending} (h : c.compared ending = .error e) :
    e.isAboutUse = true := by
  simp only [compared] at h
  split at h
  · simp at h
  · split at h <;> obtain rfl := Except.error.inj h <;> rfl

theorem resolveLookup_error (h : c.resolveLookup ctx path = (.error e, ctx')) :
    c.followPath ctx path = (.error e, ctx') ∨ e.isAboutUse = true := by
  simp only [resolveLookup] at h
  split at h
  · exact .inr (compared_error (Prod.mk.inj h).1)
  · rename_i fault after hfault
    obtain ⟨herror, rfl⟩ := Prod.mk.inj h
    obtain rfl := Except.error.inj herror
    exact .inl hfault

theorem resolveField_error (h : c.resolveField ctx path = (.error e, ctx')) :
    c.followPath ctx path = (.error e, ctx') ∨ e.isAboutUse = true := by
  simp only [resolveField] at h
  split at h
  · have hreferred := (Prod.mk.inj h).1
    simp only [referred] at hreferred
    split at hreferred
    · obtain rfl := Except.error.inj hreferred
      exact .inr rfl
    · simp at hreferred
  · rename_i fault after hfault
    obtain ⟨herror, rfl⟩ := Prod.mk.inj h
    obtain rfl := Except.error.inj herror
    exact .inl hfault

theorem fieldExpr_error (h : c.fieldExpr ctx path = .error e) :
    ∃ after, c.resolveField ctx path = (.error e, after) := by
  simp only [fieldExpr] at h
  split at h
  · simp at h
  · rename_i fault after hfault
    obtain rfl := Except.error.inj h
    exact ⟨after, hfault⟩

/-- A property of contexts that paths keep, and a property that errors of paths from such
contexts have.  Errors of what is compiled path by path have it, too. -/
structure FailsAtPaths (c : Compiler) (P : Context → Prop) (Q : CompileError → Prop) :
    Prop where
  keeps : ∀ {ctx ctx' : Context} {path : String} {v : Value} {type : ValueType}, P ctx →
    c.fieldExpr ctx path = .ok ((v, type), ctx') → P ctx'
  fails : ∀ {ctx : Context} {path : String} {e : CompileError}, P ctx → c.fieldExpr ctx path =
    .error e → Q e

namespace FailsAtPaths

variable {P : Context → Prop} {Q : CompileError → Prop} (hpaths : c.FailsAtPaths P Q)
include hpaths

theorem loadRelations {related : List String} (hctx : P ctx)
    (h : c.loadRelations ctx related = .error e) : Q e := by
  induction related generalizing ctx with
  | nil => simp [Compiler.loadRelations] at h
  | cons relation rest ih =>
    simp only [Compiler.loadRelations] at h
    split at h
    · rename_i v after hv
      exact ih (hpaths.keeps hctx hv) h
    · rename_i fault hfault
      obtain rfl := Except.error.inj h
      exact hpaths.fails hctx hfault

theorem columnsOf {paths : List String} (hctx : P ctx) (h : c.columnsOf ctx paths = .error e) :
    Q e := by
  induction paths generalizing ctx with
  | nil => simp [Compiler.columnsOf] at h
  | cons path rest ih =>
    simp only [Compiler.columnsOf] at h
    split at h
    · rename_i fault hfault
      obtain rfl := Except.error.inj h
      exact hpaths.fails hctx hfault
    · rename_i v type after hv
      split at h
      · simp at h
      · rename_i fault hfault
        obtain rfl := Except.error.inj h
        exact ih (hpaths.keeps hctx hv) hfault

theorem returnedColumns {annotations values : List String} (hctx : P ctx)
    (h : c.returnedColumns ctx annotations values = .error e) : Q e := by
  cases values with
  | nil => simp [Compiler.returnedColumns] at h
  | cons path rest => exact hpaths.columnsOf hctx h

theorem sortKeys {index : Nat} {keys : List OrderKey} (hctx : P ctx)
    (h : c.sortKeys ctx index keys = .error e) : Q e := by
  induction keys generalizing ctx index with
  | nil => simp [Compiler.sortKeys] at h
  | cons k rest ih =>
    simp only [Compiler.sortKeys] at h
    split at h
    · rename_i fault hfault
      obtain rfl := Except.error.inj h
      exact hpaths.fails hctx hfault
    · rename_i v type after hv
      split at h
      · rename_i fault hfault
        obtain rfl := Except.error.inj h
        exact ih (hpaths.keeps hctx hv) hfault
      · split at h <;> simp at h

theorem outerBindings {index : Nat} {paths : List String} (hctx : P ctx)
    (h : c.outerBindings ctx index paths = .error e) : Q e := by
  induction paths generalizing ctx index with
  | nil => simp [Compiler.outerBindings] at h
  | cons path rest ih =>
    simp only [Compiler.outerBindings] at h
    split at h
    · rename_i fault hfault
      obtain rfl := Except.error.inj h
      exact hpaths.fails hctx hfault
    · rename_i v type after hv
      split at h
      · simp at h
      · rename_i fault hfault
        obtain rfl := Except.error.inj h
        exact ih (hpaths.keeps hctx hv) hfault

end FailsAtPaths

/-! ## Literals -/

theorem scalarLiteral_error {l : Lookup} {kind : Option ScalarKind} {v : Value}
    (h : l.scalarLiteral kind v = .error e) : e.isAboutUse = true := by
  simp only [Lookup.scalarLiteral] at h
  split at h
  · simp at h
  · split at h
    · simp at h
    · obtain rfl := Except.error.inj h
      rfl

theorem listLiteral_error {l : Lookup} {kind : Option ScalarKind} {items : List Value}
    (h : l.listLiteral kind items = .error e) : e.isAboutUse = true := by
  have hitems : l.scalarLiterals kind items = .error e := by
    simp only [Lookup.listLiteral] at h
    split at h
    · simp at h
    · rename_i fault hfault
      obtain rfl := Except.error.inj h
      exact hfault
  clear h
  induction items with
  | nil => simp [Lookup.scalarLiterals] at hitems
  | cons v rest ih =>
    simp only [Lookup.scalarLiterals] at hitems
    split at hitems
    · rename_i fault hfault
      obtain rfl := Except.error.inj hitems
      exact scalarLiteral_error hfault
    · split at hitems
      · rename_i fault hfault
        obtain rfl := Except.error.inj hitems
        exact ih hfault
      · simp at hitems

theorem literal_error {l : Lookup} {kind : Option ScalarKind} {v : Value}
    (h : l.literal kind v = .error e) : e.isAboutUse = true := by
  simp only [Lookup.literal] at h
  split at h
  · exact scalarLiteral_error h
  · simp at h
  · exact Except.error.inj h ▸ rfl
  · exact listLiteral_error h
  · exact Except.error.inj h ▸ rfl
  · exact listLiteral_error h
  · exact Except.error.inj h ▸ rfl
  · simp at h
  · exact Except.error.inj h ▸ rfl

theorem listFault_isAboutUse {l : Lookup} {count : Nat} (h : listFault? l count = some e) :
    e.isAboutUse = true := by
  simp only [listFault?] at h
  split at h
  · simp at h
  · split at h
    · simp at h
    · exact Option.some.inj h ▸ rfl
  · exact Option.some.inj h ▸ rfl

theorem buildOn_error {l : Lookup} {target : Access} {rhs : Value}
    (h : l.buildOn target rhs = .error e) : e.isAboutUse = true := by
  simp only [Lookup.buildOn, Lookup.buildMapped] at h
  split at h
  · split at h
    · simp at h
    · split at h
      · simp at h
      · exact Except.error.inj h ▸ rfl
  · simp at h

/-! ## Filters -/

attribute [local grind =] compileFilter compileFilters compileItems compileExpr compileExprs
  compileBranches compileAnnotations compileCondition compileOthers

/-- A lookup fails where its path or its operand does, and for the use of its value. -/
theorem lookupWith_error {operand : Resolved → Context → Except CompileError (Value × Context)}
    (h : c.lookupWith ctx path operand = .error e) :
    (∃ after, c.resolveLookup ctx path = (.error e, after)) ∨
      (∃ r after, c.resolveLookup ctx path = (.ok r, after) ∧
        operand r (noteLookup r after) = .error e) ∨
      e.isAboutUse = true := by
  simp only [lookupWith] at h
  split at h
  · rename_i fault after hfault
    obtain rfl := Except.error.inj h
    exact .inl ⟨after, hfault⟩
  · rename_i r after hr
    split at h
    · rename_i fault hfault
      obtain rfl := Except.error.inj h
      exact .inr (.inl ⟨r, after, hr, hfault⟩)
    · split at h
      · simp at h
      · rename_i fault hfault
        obtain rfl := Except.error.inj h
        exact .inr (.inr (buildOn_error hfault))

theorem withoutType_error {r : Except CompileError ((Value × ValueType) × Context)}
    (h : withoutType r = .error e) : r = .error e := by
  rcases r with fault | ⟨⟨v, type⟩, after⟩
  · exact congrArg _ (Except.error.inj h)
  · simp [withoutType] at h

theorem typed_error {kind : ScalarKind} {r : Except CompileError (Value × Context)}
    (h : typed kind r = .error e) : r = .error e := by
  rcases r with fault | ⟨v, after⟩
  · exact congrArg _ (Except.error.inj h)
  · simp [typed] at h

theorem compileFilter_literal_error {v : Value}
    (h : c.compileFilter ctx (.lookup path (.literal v)) = .error e) :
    (∃ after, c.resolveLookup ctx path = (.error e, after)) ∨ e.isAboutUse = true := by
  simp only [compileFilter] at h
  rcases lookupWith_error h with hpath | ⟨r, after, -, hoperand⟩ | huse
  · exact .inl hpath
  · simp only [literalOperand] at hoperand
    split at hoperand
    · simp at hoperand
    · rename_i fault hfault
      obtain rfl := Except.error.inj hoperand
      exact .inr (literal_error hfault)
  · exact .inr huse

theorem compileFilter_list_error {items : List Expr}
    (h : c.compileFilter ctx (.lookup path (.list items)) = .error e) :
    (∃ after, c.resolveLookup ctx path = (.error e, after)) ∨
      (∃ r after, c.resolveLookup ctx path = (.ok r, after) ∧
        c.compileItems r (noteLookup r after) items = .error e) ∨ e.isAboutUse = true := by
  simp only [compileFilter] at h
  rcases lookupWith_error h with hpath | ⟨r, after, hr, hoperand⟩ | huse
  · exact .inl hpath
  · split at hoperand
    · rename_i fault hfault
      obtain rfl := Except.error.inj hoperand
      exact .inr (.inr (listFault_isAboutUse hfault))
    · split at hoperand
      · simp at hoperand
      · rename_i fault hfault
        obtain rfl := Except.error.inj hoperand
        exact .inr (.inl ⟨r, after, hr, hfault⟩)
  · exact .inr (.inr huse)

theorem compileFilter_subquery_error {q : Query}
    (h : c.compileFilter ctx (.lookup path (.subquery q)) = .error e) :
    (∃ after, c.resolveLookup ctx path = (.error e, after)) ∨
      (∃ r after, c.resolveLookup ctx path = (.ok r, after) ∧
        c.compileSubquery (noteLookup r after) (r.lookup.arity == .list) q = .error e) ∨
            e.isAboutUse = true := by
  simp only [compileFilter] at h
  exact lookupWith_error h

theorem compileFilter_computed_error {operand : Expr} (hcomputed : isComputed operand = true)
    (h : c.compileFilter ctx (.lookup path operand) = .error e) :
    (∃ after, c.resolveLookup ctx path = (.error e, after)) ∨
      (∃ r after, c.resolveLookup ctx path = (.ok r, after) ∧
        c.compileExpr (noteLookup r after) operand = .error e) ∨ e.isAboutUse = true := by
  rw [compileFilter_computed hcomputed] at h
  exact (lookupWith_error h).imp_right (Or.imp_left fun ⟨r, after, hr, hw⟩ =>
    ⟨r, after, hr, withoutType_error hw⟩)

theorem compileFilter_and_error {filters : List Filter}
    (h : c.compileFilter ctx (.and filters) = .error e) :
    c.compileFilters ctx filters = .error e := by
  grind

theorem compileFilter_or_error {filters : List Filter}
    (h : c.compileFilter ctx (.or filters) = .error e) :
    c.compileFilters ctx.enter filters = .error e := by
  grind

theorem compileFilter_not_error {filter : Filter}
    (h : c.compileFilter ctx (.not filter) = .error e) :
    c.compileFilter ctx.enter filter = .error e := by
  grind

theorem compileFilter_exists_error {q : Query}
    (h : c.compileFilter ctx (.exists q) = .error e) :
    c.compileSubquery ctx false q = .error e := by
  grind

theorem compileFilters_cons_error {f : Filter} {rest : List Filter}
    (h : c.compileFilters ctx (f :: rest) = .error e) :
    c.compileFilter ctx f = .error e ∨
      ∃ v after, c.compileFilter ctx f = .ok (v, after) ∧
        c.compileFilters after rest = .error e := by
  grind

theorem compileItems_cons_error {r : Resolved} {item : Expr} {rest : List Expr}
    (h : c.compileItems r ctx (item :: rest) = .error e) :
    e.isAboutUse = true ∨ c.compileItems r ctx rest = .error e ∨
      c.compileExpr ctx item = .error e ∨ ∃ v type after, c.compileExpr ctx item =
      .ok ((v, type), after) ∧ c.compileItems r after rest = .error e := by
  cases item <;> grind [scalarLiteral_error]

/-! ## Computed values -/

theorem outerExpr_error (h : c.outerExpr ctx path = .error e) : e.isAboutUse = true := by
  simp only [outerExpr] at h
  split at h
  · simp at h
  · exact Except.error.inj h ▸ rfl

theorem compileExpr_list_error {items : List Expr}
    (h : c.compileExpr ctx (.list items) = .error e) : c.compileExprs ctx items = .error e := by
  grind

theorem compileExpr_combined_error {op : Combination} {left right : Expr}
    (h : c.compileExpr ctx (.combined op left right) = .error e) :
    c.compileExpr ctx left = .error e ∨
      ∃ v type after, c.compileExpr ctx left = .ok ((v, type), after) ∧
          c.compileExpr after right = .error e := by
  grind

theorem compileExpr_case_error {branches : List (Filter × Expr)} {otherwise : Expr}
    (h : c.compileExpr ctx (.case branches otherwise) = .error e) :
    c.compileBranches ctx branches = .error e ∨
      ∃ bs after, c.compileBranches ctx branches = .ok (bs, after) ∧
          c.compileExpr after otherwise = .error e := by
  grind

theorem compileExpr_condition_error {filter : Filter}
    (h : c.compileExpr ctx (.condition filter) = .error e) :
    c.compileFilter ctx filter = .error e := by
  rw [compileExpr] at h
  exact typed_error h

theorem compileExpr_subquery_error {q : Query}
    (h : c.compileExpr ctx (.subquery q) = .error e) :
    c.compileSubquery ctx false q = .error e := by
  rw [compileExpr] at h
  exact typed_error h

theorem compileExprs_cons_error {item : Expr} {rest : List Expr}
    (h : c.compileExprs ctx (item :: rest) = .error e) : c.compileExpr ctx item = .error e ∨
      ∃ v type after, c.compileExpr ctx item = .ok ((v, type), after) ∧
          c.compileExprs after rest = .error e := by
  grind

theorem compileBranches_cons_error {f : Filter} {body : Expr} {rest : List (Filter × Expr)}
    (h : c.compileBranches ctx ((f, body) :: rest) = .error e) :
    c.compileFilter ctx f = .error e ∨
      ∃ condition after, c.compileFilter ctx f = .ok (condition, after) ∧
        (c.compileExpr after body = .error e ∨ ∃ v type after', c.compileExpr after body =
          .ok ((v, type), after') ∧ c.compileBranches after' rest = .error e) := by
  grind

theorem compileAnnotations_cons_error {pending : Document} {name : String} {body : Expr}
    {rest : List (String × Expr)}
    (h : c.compileAnnotations pending ctx ((name, body) :: rest) = .error e) :
    c.compileExpr ctx body = .error e ∨
      ∃ v type after pending', c.compileExpr ctx body = .ok ((v, type), after) ∧
        c.compileAnnotations pending' (after.clearRefs.addAnnotation name type) rest =
            .error e := by
  grind

/-! ## Queries -/

theorem compileCondition_some_error {f : Filter}
    (h : c.compileCondition ctx (some f) = .error e) : c.compileFilter ctx f = .error e := by
  grind

theorem compileOthers_cons_error {q : Query} {rest : List Query}
    (h : c.compileOthers (q :: rest) = .error e) :
    c.compile q = .error e ∨ c.compileOthers rest = .error e := by
  grind

theorem planWith_error {q : Query}
    {annotations : Context → Except CompileError (List Stage × Context)}
    {filter : Context → Except CompileError (Option Value × Context)}
    (h : c.planWith ctx q annotations filter = .error e) :
    c.loadRelations ctx q.related = .error e ∨
    ∃ loaded, c.loadRelations ctx q.related = .ok loaded ∧ (annotations loaded = .error e ∨
      ∃ stages computed, annotations loaded = .ok (stages, computed) ∧
        (filter computed = .error e ∨ ∃ condition filtered, filter computed =
          .ok (condition, filtered) ∧ (c.sortKeys filtered 0 q.orderBy = .error e ∨
            ∃ keys sorted, c.sortKeys filtered 0 q.orderBy = .ok (keys, sorted) ∧
              c.returnedColumns sorted (q.annotations.map (·.1)) q.values = .error e))) := by
  simp only [planWith] at h
  split at h
  · rename_i fault hfault
    obtain rfl := Except.error.inj h
    exact .inl hfault
  · rename_i loaded hloaded
    refine .inr ⟨loaded, hloaded, ?_⟩
    split at h
    · rename_i fault hfault
      obtain rfl := Except.error.inj h
      exact .inl hfault
    · rename_i stages computed hstages
      refine .inr ⟨stages, computed, hstages, ?_⟩
      split at h
      · rename_i fault hfault
        obtain rfl := Except.error.inj h
        exact .inl hfault
      · rename_i condition filtered hcondition
        refine .inr ⟨condition, filtered, hcondition, ?_⟩
        split at h
        · rename_i fault hfault
          obtain rfl := Except.error.inj h
          exact .inl hfault
        · rename_i keys fields sorted hsorted
          refine .inr ⟨(keys, fields), sorted, hsorted, ?_⟩
          split at h
          · rename_i fault hfault
            obtain rfl := Except.error.inj h
            exact hfault
          · simp at h

theorem assembleWith_error {q : Query} {p : Plan} {others : Except CompileError (List Stage)}
    (h : c.assembleWith ctx q p others = .error e) : others = .error e := by
  grind [assembleWith]

theorem queryWith_error {q : Query}
    {annotations : Context → Except CompileError (List Stage × Context)}
    {filter : Context → Except CompileError (Option Value × Context)}
    {others : Except CompileError (List Stage)}
    (h : c.queryWith q annotations filter others = .error e) :
    c.queryableModel q.model = .error e ∨
      ∃ m, c.queryableModel q.model = .ok m ∧
        (c.planWith (.ofModel m) q annotations filter = .error e ∨ others = .error e) := by
  grind [queryWith, assembleWith_error]

theorem onlyColumn_error {m : Model} {values : List String} {columns : List (String × Value)}
    (h : onlyColumn m values columns = .error e) : e.isAboutUse = true := by
  simp only [onlyColumn] at h
  split at h
  · simp at h
  · simp at h
  · exact Except.error.inj h ▸ rfl

theorem placeSubquery_error {m : Model} {outer : List String} {stages : List Stage}
    {field : String}
    (h : c.placeSubquery ctx m outer stages field = .error e) :
        c.outerBindings ctx 0 outer = .error e := by
  simp only [placeSubquery] at h
  split at h
  · rename_i fault hfault
    obtain rfl := Except.error.inj h
    exact hfault
  · simp at h

theorem subqueryWith_error {q : Query} {wrap : Bool}
    {annotations : Context → Except CompileError (List Stage × Context)}
    {filter : Context → Except CompileError (Option Value × Context)}
    {others : Except CompileError (List Stage)}
    (h : c.subqueryWith ctx q wrap annotations filter others = .error e) :
    c.queryableModel q.model = .error e ∨ e.isAboutUse = true ∨
      (∃ outer, c.outerBindings ctx 0 outer = .error e) ∨
      ∃ m, c.queryableModel q.model = .ok m ∧
        (c.planWith (.ofSubquery m) q annotations filter = .error e ∨ others = .error e) := by
  simp only [subqueryWith] at h
  split at h
  · rename_i fault hfault
    obtain rfl := Except.error.inj h
    exact .inl hfault
  · rename_i m hm
    split at h
    · rename_i fault hfault
      obtain rfl := Except.error.inj h
      exact .inr (.inr (.inr ⟨m, hm, .inl hfault⟩))
    · split at h
      · rename_i fault hfault
        obtain rfl := Except.error.inj h
        exact .inr (.inl (onlyColumn_error hfault))
      · split at h
        · rename_i fault hfault
          obtain rfl := Except.error.inj h
          exact .inr (.inr (.inr ⟨m, hm, .inr (assembleWith_error hfault)⟩))
        · exact .inr (.inr (.inl ⟨_, placeSubquery_error h⟩))

end Compiler

end DocQuery
