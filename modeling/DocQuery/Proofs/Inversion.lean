import DocQuery.Compile.Basic
set_option autoImplicit false

/-!
# Proofs: what a successful compilation consists of

One lemma for each way in which a part of a query is compiled.  If it succeeds then its own
parts do, and the result is put together from theirs.
-/

namespace DocQuery.Compiler

variable {c : Compiler} {ctx ctx' : Context} {path : String} {e : Value} {type : ValueType}

/-! ## One name -/

section Steps

variable {base : Access} {m : Model} {model name : String} {last : Bool} {landing : Landing}

theorem modelOf_ok (h : c.modelOf name = .ok m) : c.schema.model? name = some m := by
  grind [modelOf]

theorem lookupOr_ok {error : CompileError} (h : lookupOr name last error = .ok landing) :
    last = true ∧ ∃ l, Lookup.ofName? name = some l ∧ landing = .lookup l := by
  grind [lookupOr, terminalLookup?]

theorem keyStep_ok {f : Field} (h : keyStep base m f = .ok landing) :
    landing = .access (.key base f.column (.ofField f.kind)) := by
  grind [keyStep]

/-- A field of the documents of an array. -/
theorem itemStep_ok (h : itemStep base m model name = .ok landing) :
    ∃ f, m.field? name = some f ∧
      landing =
          .access (.each base (.key (.item (.embedded model)) f.column (.ofField f.kind))) := by
  simp only [itemStep] at h
  split at h
  · rename_i f hf
    split at h
    · rename_i inside hinside
      rw [keyStep_ok hinside] at h
      exact ⟨f, hf, (Except.ok.inj h).symm⟩
    · simp at h
  · split at h <;> simp at h

/-- A name behind a value of an exact kind can only be a lookup. -/
theorem step_exact_ok {kind : ScalarKind} (htype : base.type = .scalar kind)
    (hjson : kind ≠ .json) (h : c.step base name last = .ok landing) :
    last = true ∧ ∃ l, Lookup.ofName? name = some l ∧ landing = .lookup l := by
  simp only [step, htype] at h
  split at h
  · simp at *
  all_goals grind [lookupOr_ok]

end Steps

/-! ## Paths -/

theorem resolveLookup_ok {r : Resolved} (h : c.resolveLookup ctx path = (.ok r, ctx')) :
    ∃ e, c.followPath ctx path = (.ok e, ctx') ∧ c.compared e = .ok r := by
  grind [resolveLookup]

theorem compared_ok {ending : Ending} {r : Resolved} (h : c.compared ending = .ok r) :
    r = ⟨ending.target, ending.lookup?.getD .exact, ending.joins⟩ ∧
      (Lookup.allowed r.target.type).contains r.lookup = true := by
  grind [compared]

theorem resolveField_ok {r : Resolved} (h : c.resolveField ctx path = (.ok r, ctx')) :
    ∃ e, c.followPath ctx path = (.ok e, ctx') ∧ r.target = e.target := by
  grind [resolveField, referred]

theorem fieldExpr_ok (h : c.fieldExpr ctx path = .ok ((e, type), ctx')) :
    ∃ ending, c.followPath ctx path = (.ok ending, ctx') ∧ e = ending.target.render := by
  simp only [fieldExpr] at h
  split at h
  · rename_i r after hr
    obtain ⟨ending, hend, htarget⟩ := resolveField_ok hr
    simp only [Except.ok.injEq, Prod.mk.injEq] at h
    obtain ⟨⟨rfl, -⟩, rfl⟩ := h
    exact ⟨ending, hend, by rw [htarget]⟩
  · simp at h

theorem followPath_ok {ending : Ending} (h : c.followPath ctx path = (.ok ending, ctx')) :
    ∃ name rest, Text.segments path = name :: rest ∧ "" ∉ name :: rest ∧
      ((∃ type, ctx.computedType? name = some type ∧
        c.follow path (.value (.computed name type)) rest [] (ctx.refer name) =
          (.ok ending, ctx')) ∨
        (ctx.computedType? name = none ∧
        c.follow path (.document ctx.model none "") (name :: rest) [] ctx =
            (.ok ending, ctx'))) := by
  simp only [followPath] at h
  split at h
  · simp at h
  · rename_i hempty
    cases hnames : Text.segments path with
    | nil => exact absurd hnames (Text.segments_ne_nil path)
    | cons name rest =>
      rw [hnames] at h hempty
      refine ⟨name, rest, rfl, by simpa using hempty, ?_⟩
      cases htype : ctx.computedType? name with
      | some type => exact .inl ⟨type, rfl, by simpa [htype] using h⟩
      | none => exact .inr ⟨rfl, by simpa [htype] using h⟩

theorem follow_value_nil_ok {a : Access} {joins : List Nat} {ending : Ending}
    (h : c.follow path (.value a) [] joins ctx = (.ok ending, ctx')) :
    ending = ⟨a, none, joins⟩ ∧ ctx' = ctx := by
  grind [follow]

theorem follow_value_cons_ok {a : Access} {name : String} {rest : List String}
    {joins : List Nat}
    {ending : Ending} (h : c.follow path (.value a) (name :: rest) joins ctx =
      (.ok ending, ctx')) :
    (∃ next, c.step a name rest.isEmpty = .ok (.access next) ∧
      c.follow path (.value next) rest joins ctx = (.ok ending, ctx')) ∨
    (∃ l, c.step a name rest.isEmpty = .ok (.lookup l) ∧ ending = ⟨a, some l, joins⟩ ∧
      ctx' = ctx) := by
  grind [follow]

/-- A name behind a document is a column that is read from there, or a relation to be joined. -/
theorem follow_document_ok {m : Model} {joined : Option String} {relation : String}
    {names : List String} {joins : List Nat} {ending : Ending}
    (h : c.follow path (.document m joined relation) names joins ctx = (.ok ending, ctx')) :
    ∃ name rest f, names = name :: rest ∧ m.field? name = some f ∧
      ((∀ model key storedAs target, f.kind = .foreignKey model key storedAs →
            c.schema.model? model = some target → readsStoredKey target rest = true) ∧
          c.follow path (.value (.column joined f.column (.ofField f.kind))) rest joins ctx
            = (.ok ending, ctx') ∨
        ∃ model key storedAs target k, f.kind = .foreignKey model key storedAs ∧
          c.schema.model? model = some target ∧ readsStoredKey target rest = false ∧
          target.field? (key.getD usualKey) = some k ∧
          c.follow path
            (.document target (some (ctx.join (relationPath relation name) joined f
              target k).1.1) (relationPath relation name)) rest
            (joins ++ [(ctx.join (relationPath relation name) joined f target k).1.2])
            (ctx.join (relationPath relation name) joined f target k).2 =
                (.ok ending, ctx')) := by
  cases names with
  | nil => simp [follow] at h
  | cons name rest =>
    simp only [follow] at h
    cases hf : m.field? name with
    | none => simp [hf] at h
    | some f =>
      refine ⟨name, rest, f, rfl, hf, ?_⟩
      simp only [hf] at h
      split at h
      · rename_i model key storedAs hkind
        cases ht : c.modelOf model with
        | error err => simp [ht] at h
        | ok target =>
          simp only [ht] at h
          cases hkey : readsStoredKey target rest with
          | true =>
            refine .inl ⟨?_, by simpa [hkey] using h⟩
            intro model' key' storedAs' target' hkind' htarget
            obtain ⟨rfl, -, -⟩ := FieldKind.foreignKey.inj (hkind.symm.trans hkind')
            obtain rfl := Option.some.inj ((modelOf_ok ht).symm.trans htarget)
            exact hkey
          | false =>
            simp only [hkey] at h
            cases hk : target.field? (key.getD usualKey) with
            | none => simp [hk] at h
            | some k =>
              exact .inr ⟨model, key, storedAs, target, k, hkind, modelOf_ok ht, hkey, hk,
                by simpa [hk] using h⟩
      · rename_i hother
        exact .inl ⟨fun model key storedAs _ hkind => absurd hkind (hother model key storedAs),
          h⟩

theorem loadRelations_cons_ok {relation : String} {rest : List String}
    (h : c.loadRelations ctx (relation :: rest) = .ok ctx') :
    ∃ e type after, c.fieldExpr ctx (Text.extendPath relation keyName) =
      .ok ((e, type), after) ∧ c.loadRelations after rest = .ok ctx' := by
  unfold loadRelations at h
  split at h
  · rename_i v after hv
    exact ⟨v.1, v.2, after, hv, h⟩
  · simp at h

theorem columnsOf_cons_ok {rest : List String} {columns : List (String × Value)}
    (h : c.columnsOf ctx (path :: rest) = .ok (columns, ctx')) :
    ∃ e type after others, c.fieldExpr ctx path = .ok ((e, type), after) ∧
      c.columnsOf after rest = .ok (others, ctx') ∧ columns = (path, e) :: others := by
  unfold columnsOf at h
  split at h
  · simp at h
  · rename_i e type after he
    split at h
    · rename_i others last hothers
      obtain ⟨rfl, rfl⟩ := Prod.mk.inj (Except.ok.inj h)
      exact ⟨e, type, after, others, he, hothers, rfl⟩
    · simp at h

theorem sortKeys_cons_ok {index : Nat} {k : OrderKey} {rest : List OrderKey}
    {keys : List (String × Direction)} {computed : Document}
    (h : c.sortKeys ctx index (k :: rest) = .ok ((keys, computed), ctx')) :
    ∃ e type after keys' computed', c.fieldExpr ctx k.path = .ok ((e, type), after) ∧
      c.sortKeys after (index + 1) rest = .ok ((keys', computed'), ctx') ∧
      (computed = computed' ∨ computed = (orderField index, e) :: computed') := by
  unfold sortKeys at h
  split at h
  · simp at h
  · rename_i e type after he
    split at h
    · simp at h
    · rename_i keys' computed' last hrest
      refine ⟨e, type, after, keys', computed', he, ?_⟩
      split at h <;> obtain ⟨hpair, rfl⟩ := Prod.mk.inj (Except.ok.inj h)
      · exact ⟨hrest, .inl (Prod.mk.inj hpair).2.symm⟩
      · exact ⟨hrest, .inr (Prod.mk.inj hpair).2.symm⟩

theorem outerBindings_cons_ok {index : Nat} {rest : List String} {bindings : Document}
    (h : c.outerBindings ctx index (path :: rest) = .ok (bindings, ctx')) :
    ∃ e type after others, c.fieldExpr ctx path = .ok ((e, type), after) ∧
      c.outerBindings after (index + 1) rest = .ok (others, ctx') ∧
      bindings = (c.config.parentVariable index, e) :: others := by
  unfold outerBindings at h
  split at h
  · simp at h
  · rename_i e type after he
    split at h
    · rename_i others last hothers
      obtain ⟨rfl, rfl⟩ := Prod.mk.inj (Except.ok.inj h)
      exact ⟨e, type, after, others, he, hothers, rfl⟩
    · simp at h

/-- A relation of contexts that holds between those before and after a path is compiled.  What
is compiled path by path keeps to it. -/
structure AlongPaths (c : Compiler) (S : Context → Context → Prop) : Prop where
  refl : ∀ ctx, S ctx ctx
  trans : ∀ {ctx between ctx' : Context}, S ctx between → S between ctx' → S ctx ctx'
  fieldExpr : ∀ {ctx ctx' : Context} {path : String} {e : Value} {type : ValueType},
    c.fieldExpr ctx path = .ok ((e, type), ctx') → S ctx ctx'

namespace AlongPaths

variable {S : Context → Context → Prop} (hS : c.AlongPaths S)
include hS

theorem loadRelations {related : List String} (h : c.loadRelations ctx related = .ok ctx') :
    S ctx ctx' := by
  induction related generalizing ctx with
  | nil => exact Except.ok.inj h ▸ hS.refl _
  | cons relation rest ih =>
    obtain ⟨e, type, after, he, hrest⟩ := loadRelations_cons_ok h
    exact hS.trans (hS.fieldExpr he) (ih hrest)

theorem columnsOf {paths : List String} {columns : List (String × Value)}
    (h : c.columnsOf ctx paths = .ok (columns, ctx')) : S ctx ctx' := by
  induction paths generalizing ctx columns with
  | nil =>
    obtain ⟨-, rfl⟩ := Prod.mk.inj (Except.ok.inj h)
    exact hS.refl _
  | cons path rest ih =>
    obtain ⟨e, type, after, others, he, hrest, -⟩ := columnsOf_cons_ok h
    exact hS.trans (hS.fieldExpr he) (ih hrest)

theorem returnedColumns {annotations values : List String} {columns : List (String × Value)}
    (h : c.returnedColumns ctx annotations values = .ok (columns, ctx')) : S ctx ctx' := by
  cases values with
  | nil =>
    obtain ⟨-, rfl⟩ := Prod.mk.inj (Except.ok.inj h)
    exact hS.refl _
  | cons path rest => exact hS.columnsOf h

theorem sortKeys {index : Nat} {keys : List OrderKey}
    {sorted : List (String × Direction) × Document}
    (h : c.sortKeys ctx index keys = .ok (sorted, ctx')) : S ctx ctx' := by
  induction keys generalizing ctx index sorted with
  | nil =>
    obtain ⟨-, rfl⟩ := Prod.mk.inj (Except.ok.inj h)
    exact hS.refl _
  | cons k rest ih =>
    obtain ⟨e, type, after, keys', computed', he, hrest, -⟩ := sortKeys_cons_ok h
    exact hS.trans (hS.fieldExpr he) (ih hrest)

theorem outerBindings {index : Nat} {paths : List String} {bindings : Document}
    (h : c.outerBindings ctx index paths = .ok (bindings, ctx')) : S ctx ctx' := by
  induction paths generalizing ctx index bindings with
  | nil =>
    obtain ⟨-, rfl⟩ := Prod.mk.inj (Except.ok.inj h)
    exact hS.refl _
  | cons path rest ih =>
    obtain ⟨e, type, after, others, he, hrest, -⟩ := outerBindings_cons_ok h
    exact hS.trans (hS.fieldExpr he) (ih hrest)

end AlongPaths

/-! ## Filters -/

theorem lookupWith_ok {operand : Resolved → Context → Except CompileError (Value × Context)}
    (h : c.lookupWith ctx path operand = .ok (e, ctx')) :
    ∃ r after w, c.resolveLookup ctx path = (.ok r, after) ∧
      operand r (noteLookup r after) = .ok (w, ctx') ∧ r.lookup.buildOn r.target w = .ok e := by
  grind [lookupWith]

theorem literalOperand_ok {r : Resolved} {v : Value}
    (h : literalOperand r v ctx = .ok (e, ctx')) :
    r.lookup.literal r.target.type.scalar? v = .ok e ∧ ctx' = ctx := by
  grind [literalOperand]

theorem withoutType_ok {r : Except CompileError ((Value × ValueType) × Context)}
    (h : withoutType r = .ok (e, ctx')) : ∃ type, r = .ok ((e, type), ctx') := by
  rcases r with err | ⟨⟨v, type⟩, after⟩
  · simp [withoutType] at h
  · simp only [withoutType, Except.ok.injEq, Prod.mk.injEq] at h
    obtain ⟨rfl, rfl⟩ := h
    exact ⟨type, rfl⟩

theorem typed_ok {kind : ScalarKind} {r : Except CompileError (Value × Context)}
    (h : typed kind r = .ok ((e, type), ctx')) : r = .ok (e, ctx') := by
  rcases r with err | ⟨v, after⟩
  · simp [typed] at h
  · simp only [typed, Except.ok.injEq, Prod.mk.injEq] at h
    obtain ⟨⟨rfl, -⟩, rfl⟩ := h
    rfl

attribute [local grind =] compileFilter compileFilters compileItems compileExpr compileExprs
  compileBranches compileAnnotations compileCondition compileOthers

theorem compileFilter_literal_ok {v : Value}
    (h : c.compileFilter ctx (.lookup path (.literal v)) = .ok (e, ctx')) :
    ∃ r after w, c.resolveLookup ctx path = (.ok r, after) ∧
      r.lookup.buildOn r.target w = .ok e ∧ r.lookup.literal r.target.type.scalar? v = .ok w ∧
      ctx' = noteLookup r after := by
  simp only [compileFilter] at h
  obtain ⟨r, after, w, hr, hw, hbuild⟩ := lookupWith_ok h
  exact ⟨r, after, w, hr, hbuild, literalOperand_ok hw⟩

theorem compileFilter_list_ok {items : List Expr}
    (h : c.compileFilter ctx (.lookup path (.list items)) = .ok (e, ctx')) :
    ∃ r after vs, c.resolveLookup ctx path = (.ok r, after) ∧
      r.lookup.buildOn r.target (.array vs) = .ok e ∧
      listFault? r.lookup items.length = none ∧
      c.compileItems r (noteLookup r after) items = .ok (vs, ctx') := by
  simp only [compileFilter] at h
  obtain ⟨r, after, w, hr, hw, hbuild⟩ := lookupWith_ok h
  grind

theorem compileFilter_subquery_ok {q : Query}
    (h : c.compileFilter ctx (.lookup path (.subquery q)) = .ok (e, ctx')) :
    ∃ r after w, c.resolveLookup ctx path = (.ok r, after) ∧
      r.lookup.buildOn r.target w = .ok e ∧ c.compileSubquery (noteLookup r after)
      (r.lookup.arity == .list) q = .ok (w, ctx') := by
  simp only [compileFilter] at h
  obtain ⟨r, after, w, hr, hw, hbuild⟩ := lookupWith_ok h
  exact ⟨r, after, w, hr, hbuild, hw⟩

/-- Whether an operand of a lookup is compiled like any computed value. -/
def isComputed : Expr → Bool
  | .literal _ => false
  | .list _ => false
  | .subquery _ => false
  | _ => true

theorem compileFilter_computed {operand : Expr} (hcomputed : isComputed operand = true) :
    c.compileFilter ctx (.lookup path operand) =
      c.lookupWith ctx path fun _ ctx => withoutType (c.compileExpr ctx operand) := by
  cases operand with
  | literal v => simp [isComputed] at hcomputed
  | list items => simp [isComputed] at hcomputed
  | subquery q => simp [isComputed] at hcomputed
  | _ => simp only [compileFilter]

theorem compileFilter_computed_ok {operand : Expr} (hcomputed : isComputed operand = true)
    (h : c.compileFilter ctx (.lookup path operand) = .ok (e, ctx')) :
    ∃ r after w type, c.resolveLookup ctx path = (.ok r, after) ∧
      r.lookup.buildOn r.target w = .ok e ∧
      c.compileExpr (noteLookup r after) operand = .ok ((w, type), ctx') := by
  rw [compileFilter_computed hcomputed] at h
  obtain ⟨r, after, w, hr, hw, hbuild⟩ := lookupWith_ok h
  obtain ⟨type, hexpr⟩ := withoutType_ok hw
  exact ⟨r, after, w, type, hr, hbuild, hexpr⟩

theorem compileFilter_and_ok {filters : List Filter}
    (h : c.compileFilter ctx (.and filters) = .ok (e, ctx')) :
    ∃ es, c.compileFilters ctx filters = .ok (es, ctx') ∧ e = .conjunction es := by
  grind

theorem compileFilter_or_ok {filters : List Filter}
    (h : c.compileFilter ctx (.or filters) = .ok (e, ctx')) :
    ∃ es inside, c.compileFilters ctx.enter filters = .ok (es, inside) ∧ e = .disjunction es ∧
      ctx' = inside.leave := by
  grind

theorem compileFilter_not_ok {filter : Filter}
    (h : c.compileFilter ctx (.not filter) = .ok (e, ctx')) :
    ∃ v inside, c.compileFilter ctx.enter filter = .ok (v, inside) ∧ e = .negation v ∧
      ctx' = inside.leave := by
  grind

theorem compileFilter_exists_ok {q : Query}
    (h : c.compileFilter ctx (.exists q) = .ok (e, ctx')) :
    ∃ v, c.compileSubquery ctx false q = .ok (v, ctx') ∧ e = v.nullCheck false := by
  grind

theorem compileFilters_cons_ok {f : Filter} {rest : List Filter} {es : List Value}
    (h : c.compileFilters ctx (f :: rest) = .ok (es, ctx')) :
    ∃ v after others, c.compileFilter ctx f = .ok (v, after) ∧
      c.compileFilters after rest = .ok (others, ctx') ∧ es = v :: others := by
  grind

theorem compileItems_cons_ok {r : Resolved} {item : Expr} {rest : List Expr} {es : List Value}
    (h : c.compileItems r ctx (item :: rest) = .ok (es, ctx')) :
    ∃ v after others, c.compileItems r after rest = .ok (others, ctx') ∧ es = v :: others ∧
      ((∃ w, item = .literal w ∧ r.lookup.scalarLiteral r.target.type.scalar? w = .ok v ∧
          after = ctx) ∨
        ∃ type, c.compileExpr ctx item = .ok ((v, type), after)) := by
  cases item <;> grind

theorem compileItems_literal_ok {r : Resolved} {w : Value} {rest : List Expr} {es : List Value}
    (h : c.compileItems r ctx (.literal w :: rest) = .ok (es, ctx')) :
    ∃ v others, r.lookup.scalarLiteral r.target.type.scalar? w = .ok v ∧
      c.compileItems r ctx rest = .ok (others, ctx') ∧ es = v :: others := by
  simp only [compileItems] at h
  split at h
  · simp at h
  · rename_i v hv
    split at h
    · rename_i others last hothers
      obtain ⟨rfl, rfl⟩ := Prod.mk.inj (Except.ok.inj h)
      exact ⟨v, others, hv, hothers, rfl⟩
    · simp at h

theorem compileItems_computed {r : Resolved} {item : Expr} {rest : List Expr}
    (h : ∀ w, item ≠ .literal w) : c.compileItems r ctx (item :: rest) =
      match c.compileExpr ctx item with
      | .error e => .error e
      | .ok ((v, _), ctx) =>
        match c.compileItems r ctx rest with
        | .ok (vs, ctx) => .ok (v :: vs, ctx)
        | .error e => .error e := by
  rw [compileItems]
  all_goals first | rfl | exact h

/-! ## Computed values -/

theorem outerExpr_ok (h : c.outerExpr ctx path = .ok ((e, type), ctx')) :
    ∃ index, ctx.outerRef path = (some index, ctx') ∧
      e = .string ("$$" ++ c.config.parentVariable index) := by
  grind [outerExpr]

theorem compileExpr_list_ok {items : List Expr}
    (h : c.compileExpr ctx (.list items) = .ok ((e, type), ctx')) :
    ∃ es, c.compileExprs ctx items = .ok (es, ctx') ∧ e = .array es := by
  grind

theorem compileExpr_combined_ok {op : Combination} {left right : Expr}
    (h : c.compileExpr ctx (.combined op left right) = .ok ((e, type), ctx')) :
    ∃ a s after b t, c.compileExpr ctx left = .ok ((a, s), after) ∧
      c.compileExpr after right = .ok ((b, t), ctx') ∧ e = op.combine a b := by
  grind

theorem compileExpr_case_ok {branches : List (Filter × Expr)} {otherwise : Expr}
    (h : c.compileExpr ctx (.case branches otherwise) = .ok ((e, type), ctx')) :
    ∃ bs after v, c.compileBranches ctx branches = .ok (bs, after) ∧
      c.compileExpr after otherwise = .ok ((v, type), ctx') ∧ e = .caseDistinction bs v := by
  grind

theorem compileExpr_condition_ok {filter : Filter}
    (h : c.compileExpr ctx (.condition filter) = .ok ((e, type), ctx')) :
    c.compileFilter ctx filter = .ok (e, ctx') := by
  rw [compileExpr] at h
  exact typed_ok h

theorem compileExpr_subquery_ok {q : Query}
    (h : c.compileExpr ctx (.subquery q) = .ok ((e, type), ctx')) :
    c.compileSubquery ctx false q = .ok (e, ctx') := by
  rw [compileExpr] at h
  exact typed_ok h

theorem compileExprs_cons_ok {item : Expr} {rest : List Expr} {es : List Value}
    (h : c.compileExprs ctx (item :: rest) = .ok (es, ctx')) :
    ∃ v type after others, c.compileExpr ctx item = .ok ((v, type), after) ∧
      c.compileExprs after rest = .ok (others, ctx') ∧ es = v :: others := by
  grind

theorem compileBranches_cons_ok {f : Filter} {body : Expr} {rest : List (Filter × Expr)}
    {es : List Value} (h : c.compileBranches ctx ((f, body) :: rest) = .ok (es, ctx')) :
    ∃ condition after v type after' others, c.compileFilter ctx f = .ok (condition, after) ∧
      c.compileExpr after body = .ok ((v, type), after') ∧
      c.compileBranches after' rest = .ok (others, ctx') ∧
          es = .branch condition v :: others := by
  grind

theorem compileAnnotations_cons_ok {pending : Document} {name : String} {body : Expr}
    {rest : List (String × Expr)} {stages : List Stage}
    (h : c.compileAnnotations pending ctx ((name, body) :: rest) = .ok (stages, ctx')) :
    ∃ v type after, c.compileExpr ctx body = .ok ((v, type), after) ∧
      ((∃ others, c.compileAnnotations [(name, v)] (after.clearRefs.addAnnotation
        name type) rest = .ok (others, ctx') ∧ stages = .addFields pending :: others) ∨
        after.annotationRefs.any pending.has = false ∧
          c.compileAnnotations (pending.insert name v) (after.clearRefs.addAnnotation
            name type) rest = .ok (stages, ctx')) := by
  grind

/-! ## Queries -/

theorem compileCondition_some_ok {f : Filter} {condition : Option Value}
    (h : c.compileCondition ctx (some f) = .ok (condition, ctx')) :
    ∃ v, c.compileFilter ctx f = .ok (v, ctx') ∧ condition = some v := by
  grind

theorem compileOthers_cons_ok {q : Query} {rest : List Query} {stages : List Stage}
    (h : c.compileOthers (q :: rest) = .ok stages) :
    ∃ a others, c.compile q = .ok a ∧ c.compileOthers rest = .ok others ∧
      stages = .unionWith a.collection a.pipeline :: others := by
  grind

theorem planWith_ok {q : Query} {p : Plan}
    {annotations : Context → Except CompileError (List Stage × Context)}
    {filter : Context → Except CompileError (Option Value × Context)}
    (h : c.planWith ctx q annotations filter = .ok (p, ctx')) :
    ∃ loaded stages computed condition filtered keys fields sorted columns,
      c.loadRelations ctx q.related = .ok loaded ∧ annotations loaded = .ok (stages, computed) ∧
      filter computed = .ok (condition, filtered) ∧
      c.sortKeys filtered 0 q.orderBy = .ok ((keys, fields), sorted) ∧
      c.returnedColumns sorted (q.annotations.map (·.1)) q.values = .ok (columns, ctx') ∧
      p = ⟨stages, condition, addColumns fields ++ sortBy keys, windowOf q.offset q.limit,
        columns⟩ := by
  simp only [planWith] at h
  split at h
  · simp at h
  · rename_i loaded hloaded
    split at h
    · simp at h
    · rename_i stages computed hstages
      split at h
      · simp at h
      · rename_i condition filtered hcondition
        split at h
        · simp at h
        · rename_i keys fields sorted hsorted
          split at h
          · simp at h
          · rename_i columns after hcolumns
            simp only [Except.ok.injEq, Prod.mk.injEq] at h
            obtain ⟨rfl, rfl⟩ := h
            exact ⟨loaded, stages, computed, condition, filtered, keys, fields, sorted, columns,
              hloaded, hstages, hcondition, hsorted, hcolumns, rfl⟩

theorem assembleWith_ok {q : Query} {p : Plan} {others : Except CompileError (List Stage)}
    {stages : List Stage} (h : c.assembleWith ctx q p others = .ok stages) :
    stages = c.single ctx p ∨
      ∃ added keepAll, others = .ok added ∧
          stages = c.united ctx p q.orderBy added keepAll := by
  grind [assembleWith]

theorem queryWith_ok {q : Query} {a : Aggregation}
    {annotations : Context → Except CompileError (List Stage × Context)}
    {filter : Context → Except CompileError (Option Value × Context)}
    {others : Except CompileError (List Stage)}
    (h : c.queryWith q annotations filter others = .ok a) :
    ∃ m p ctx, c.queryableModel q.model = .ok m ∧
      c.planWith (.ofModel m) q annotations filter = .ok (p, ctx) ∧
      c.assembleWith ctx q p others = .ok a.pipeline ∧ a.collection = m.collection := by
  grind [queryWith]

theorem compile_eq (q : Query) : c.compile q =
    c.queryWith q (fun ctx => c.compileAnnotations [] ctx q.annotations)
      (fun ctx => c.compileCondition ctx q.filter) (c.compileUnion q.union) := by
  cases q
  simp only [compile, Query.annotations, Query.filter, Query.union]

theorem compileSubquery_eq (ctx : Context) (wrap : Bool) (q : Query) :
    c.compileSubquery ctx wrap q =
    c.subqueryWith ctx q wrap (fun ctx => c.compileAnnotations [] ctx q.annotations)
      (fun ctx => c.compileCondition ctx q.filter) (c.compileUnion q.union) := by
  cases q
  simp only [compileSubquery, Query.annotations, Query.filter, Query.union]

/-- A query inside another one, compiled by itself. -/
structure Nested where
  model : Model
  /-- the paths of the enclosing query that it refers to -/
  outer : List String
  /-- the stages of the query -/
  stages : List Stage
  /-- the column that it returns -/
  column : String × Value

/-- A query inside another one, compiled by itself: its own stages, and what it needs from
outside. -/
def nested (c : Compiler) (q : Query) : Except CompileError Nested :=
  match c.queryableModel q.model with
  | .error e => .error e
  | .ok m =>
    match c.planWith (.ofSubquery m) q (fun ctx => c.compileAnnotations [] ctx q.annotations)
      (fun ctx => c.compileCondition ctx q.filter) with
    | .error e => .error e
    | .ok (p, inner) =>
      match onlyColumn m q.values p.columns with
      | .error e => .error e
      | .ok column =>
        match c.assembleWith inner q { p with columns :=
            [column] } (c.compileUnion q.union) with
        | .error e => .error e
        | .ok stages => .ok ⟨m, inner.outerRefs.getD [], stages, column⟩

/-- The stages whose results a query inside another one is read from: with `wrap` its values are
collected first. -/
def Nested.placed (n : Nested) (q : Query) (wrap : Bool) : List Stage :=
  if wrap then wrapped n.stages n.column q.union.isSome else n.stages

/-- A query inside another one is compiled by itself and then put into the context. -/
theorem compileSubquery_ok {wrap : Bool} {q : Query}
    (h : c.compileSubquery ctx wrap q = .ok (e, ctx')) :
    ∃ n, c.nested q = .ok n ∧
      c.placeSubquery ctx n.model n.outer (n.placed q wrap) n.column.1 = .ok (e, ctx') := by
  rw [compileSubquery_eq] at h
  simp only [subqueryWith] at h
  cases hm : c.queryableModel q.model with
  | error err => simp [hm] at h
  | ok m =>
    simp only [hm] at h
    split at h
    · simp at h
    · rename_i p inner hp
      split at h
      · simp at h
      · rename_i column hcolumn
        split at h
        · simp at h
        · rename_i stages hstages
          refine ⟨⟨m, inner.outerRefs.getD [], stages, column⟩, ?_, h⟩
          simp only [nested, hm, hp, hcolumn, hstages]

theorem nested_ok {q : Query} {n : Nested} (h : c.nested q = .ok n) :
    ∃ p inner, c.queryableModel q.model = .ok n.model ∧
      c.planWith (.ofSubquery n.model) q (fun ctx => c.compileAnnotations [] ctx q.annotations)
        (fun ctx => c.compileCondition ctx q.filter) = .ok (p, inner) ∧
      onlyColumn n.model q.values p.columns = .ok n.column ∧
      c.assembleWith inner q { p with columns := [n.column] } (c.compileUnion q.union)
        = .ok n.stages ∧
      n.outer = inner.outerRefs.getD [] := by
  simp only [nested] at h
  cases hm : c.queryableModel q.model with
  | error err => simp [hm] at h
  | ok m =>
    simp only [hm] at h
    split at h
    · simp at h
    · rename_i p inner hp
      split at h
      · simp at h
      · rename_i column hcolumn
        split at h
        · simp at h
        · rename_i stages hstages
          obtain rfl := Except.ok.inj h
          exact ⟨p, inner, rfl, hp, hcolumn, hstages, rfl⟩

theorem placeSubquery_ok {m : Model} {outer : List String} {stages : List Stage}
    {field : String} (h : c.placeSubquery ctx m outer stages field = .ok (e, ctx')) :
    ∃ bindings after, c.outerBindings ctx 0 outer = .ok (bindings, after) ∧
      e = .string ("$" ++ c.config.subqueryField after.subqueryCount ++ "." ++ field) ∧
      ctx' = after.nextSubquery.2.pushStages
        [.lookup m.collection bindings stages (c.config.subqueryField after.subqueryCount),
          firstOrEmpty (c.config.subqueryField after.subqueryCount)] := by
  grind [placeSubquery, Context.nextSubquery]

end DocQuery.Compiler
