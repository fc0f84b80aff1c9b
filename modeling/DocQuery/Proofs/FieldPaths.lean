import DocQuery.Proofs.ClosedPaths
import DocQuery.Proofs.Filling
import DocQuery.Proofs.Membership
import DocQuery.Proofs.Relations
import DocQuery.Proofs.Routes
set_option autoImplicit false

/-!
# Proofs: paths to a field inside a document

A path that goes through embedded documents and through positions in their arrays leads to a
single field.  It is resolved without a join, for a lookup as well as for a reference, and its
access shows what stands in the field.
-/

namespace DocQuery

open Value

namespace Schema

/-- Names lead from a value of a type to one of another type:  through fields of documents, none
of which is a relation, and through positions in arrays.  What they read counts null as
missing. -/
inductive Locates (s : Schema) :
    ValueType → List String → ValueType → (Option Value → Option Value) → Prop where
  | here (type : ValueType) : Locates s type [] type id
  | field {model name : String} {m : Model} {f : Field} {names : List String} {type : ValueType}
    {read : Option Value → Option Value} (hm : s.model? model = some m)
    (hf : m.field? name = some f)
    (hown : f.kind.isRelation = false) (hrest : Locates s (.ofField f.kind) names type read) :
    Locates s (.embedded model) (name :: names) type fun v => read (columnOf v f.column)
  | item {model name : String} {n : Nat} {names : List String} {type : ValueType}
    {read : Option Value → Option Value} (hn : Text.position? name = some n)
    (hrest : Locates s (.embedded model) names type read) :
    Locates s (.embeddedArray model) (name :: names) type fun v => read (nth n v)

end Schema

namespace Lookup

/-- No lookup has the name of the length of an array. -/
theorem name_ne_length (l : Lookup) : l.name ≠ Compiler.lengthName := by
  cases l <;> decide

theorem name_ne_empty (l : Lookup) : l.name ≠ "" := by
  cases l <;> decide

end Lookup

/-- What an access that only starts from stored columns evaluates to does not depend on
variables. -/
theorem Access.Closed.readsAs {a : Access} (h : a.Closed []) {root : Value} {x : Option Value}
    (hx : eval a.render ⟨root, []⟩ = .ok x) : a.render.ReadsAs root x := by
  intro vars
  have hnothing : Document.Knows [] [] [] vars :=
    ⟨by simp, by simp, by simp⟩
  have hsame := h.render.eval_fill rfl hnothing root
  rw [fill_nil] at hsame
  exact hsame.trans hx

namespace Compiler

variable {c : Compiler} {ctx : Context} {model path : String} {m : Model} {kind : ScalarKind}
  {names : List String}
  {read : Option Value → Option Value}

theorem modelOf_eq (hm : c.schema.model? model = some m) : c.modelOf model = .ok m := by
  simp only [modelOf, hm]

/-- A lookup at the end of a path to a scalar, which has to take it if it could have a member of
that name. -/
theorem step_scalar_lookup {a : Access} {l : Lookup} (htype : a.type = .scalar kind)
    (hallowed : kind = .json → (Lookup.allowed (.scalar kind)).contains l = true) :
    c.step a l.name true = .ok (.lookup l) := by
  have hterminal : terminalLookup? l.name true = some l := Lookup.ofName?_name l
  cases kind with
  | json => simp only [step, htype, memberStep, hterminal, hallowed rfl, if_true]
  | _ => simp only [step, htype, if_neg l.name_ne_length, lookupOr, hterminal]

/-- Following names that lead to a value is following what comes behind them from an access,
which shows that value if columns have plain names. -/
theorem follow_locates {a : Access} {type : ValueType}
    (h : c.schema.Locates a.type names type read) : ∃ b : Access, b.type = type ∧
      (∀ path rest joins ctx, c.follow path (.value a) (names ++ rest) joins ctx =
        c.follow path (.value b) rest joins ctx) ∧
      (c.schema.hasPlainColumns = true →
        ∀ scope v, Shows c.schema scope a.render a.type v → Shows c.schema scope b.render type
            (read v)) := by
  -- the induction is on the way from the type of the access, so the access itself changes with
  -- it
  generalize htype : a.type = start at h
  induction h generalizing a with
  | here type => exact ⟨a, htype, fun _ _ _ _ => rfl, fun _ _ _ hshows => htype ▸ hshows⟩
  | @field model name m f names type read hm hf hown hrest ih =>
    obtain ⟨b, hb, hfollow, hshows⟩ := @ih (.key a f.column (.ofField f.kind)) rfl
    have hmem := List.mem_of_find?_eq_some hf
    refine ⟨b, hb, fun path rest joins ctx => ?_, fun hplain scope v hv =>
      hshows hplain scope _ ?_⟩
    · have hstep : c.step a name (names ++ rest).isEmpty =
        .ok (.access (.key a f.column (.ofField f.kind))) := by
        simp only [step, htype, modelOf_eq hm, documentStep, hf, keyStep, hown]
        rfl
      simp only [List.cons_append, follow, hstep]
      exact hfollow path rest joins ctx
    · exact hv.key hm hmem (Schema.plain_column hplain hm hmem).1
  | @item model name n names type read hn hrest ih =>
    obtain ⟨b, hb, hfollow, hshows⟩ := @ih (.index a (Int64.ofNat n) (.embedded model)) rfl
    have hname : name ≠ lengthName := by
      rintro rfl
      have hnone : Text.position? lengthName = none := by decide
      simp [hnone] at hn
    refine ⟨b, hb, fun path rest joins ctx => ?_, fun hplain scope v hv =>
      hshows hplain scope _ ?_⟩
    · have hstep : c.step a name (names ++ rest).isEmpty =
          .ok (.access (.index a (Int64.ofNat n) (.embedded model))) := by
        simp only [step, htype, arrayStep, if_neg hname, hn]
      simp only [List.cons_append, follow, hstep]
      exact hfollow path rest joins ctx
    · exact hv.index (Text.position?_lt hn)

/-- An access is that of a field in the documents of a model: it is what all paths of some names
lead to, and it shows what the names read if columns have plain names. -/
structure IsFieldAccess (c : Compiler) (m : Model) (names : List String) (kind : ScalarKind)
    (read : Value → Option Value) (a : Access) : Prop where
  type : a.type = .scalar kind
  follow : ∀ path rest ctx, c.follow path (.document m none "") (names ++ rest) [] ctx =
    c.follow path (.value a) rest [] ctx
  closed : c.schema.hasPlainColumns = true → a.Closed []
  shows : c.schema.hasPlainColumns = true → ∀ {model doc}, c.schema.model? model = some m →
    c.schema.conforms (.embedded model) doc = true → Shows c.schema ⟨doc, []⟩ a.render
      (.scalar kind) (read doc)

/-- Names that lead from the documents of a model to a scalar are those of a field access. -/
theorem exists_fieldAccess (hm : c.schema.model? model = some m)
    (h : c.schema.Locates (.embedded model) names (.scalar kind) read) :
    ∃ a, IsFieldAccess c m names kind (fun doc => read (some doc)) a := by
  cases h with
  | @field _ name m' f names _ read hm' hf hown hrest =>
    obtain rfl := Option.some.inj (hm.symm.trans hm')
    have hmem := List.mem_of_find?_eq_some hf
    have hstays : ∀ rest, c.schema.staysInside f rest = true := by
      intro rest
      cases hkind : f.kind with
      | foreignKey target key storedAs => simp [FieldKind.isRelation, hkind] at hown
      | _ => simp [Schema.staysInside, hkind]
    let start : Access := .column none f.column (.ofField f.kind)
    have hstart : ∀ path rest ctx, c.follow path (.document m none "") (name :: rest) [] ctx =
        c.follow path (.value start) rest [] ctx := fun path rest ctx =>
          follow_stays hf (hstays rest)
    obtain ⟨a, ha, hfollow, hshows⟩ := follow_locates (a := start) hrest
    refine ⟨a, ha, fun path rest ctx => ?_, fun hplain => ?_, fun hplain _ _ hmodel hdoc => ?_⟩
    · rw [List.cons_append, hstart, hfollow]
    · have hclosed : start.Closed [] :=
        .column _ (by simp) (Schema.plain_column hplain hm hmem).2
      have hend := hfollow "" [] [] (.ofModel m)
      rw [List.append_nil] at hend
      exact kept_follow Access.Closed.isKept (P := Access.Closed) hclosed (hend.trans rfl)
    · obtain ⟨hpoint, hdollar⟩ := Schema.plain_column hplain hm hmem
      exact hshows hplain _ _ (Shows.column hmodel hmem hdoc hpoint hdollar)

namespace IsFieldAccess

variable {doc : Value} {read : Value → Option Value} {a : Access}

/-- What the expression for a field reads in a document, which is the same under all
variables. -/
theorem readsAs (h : IsFieldAccess c m names kind read a)
    (hplain : c.schema.hasPlainColumns = true)
    (hm : c.schema.model? model = some m)
    (hdoc : c.schema.conforms (.embedded model) doc = true) :
    ∃ x, a.render.ReadsAs doc x ∧ present x = read doc := by
  obtain ⟨x, hx, hpresent⟩ := (h.shows hplain hm hdoc).evaluates
  exact ⟨x, (h.closed hplain).readsAs hx, hpresent⟩

/-- The value in a field is of the kind that is declared. -/
theorem isOfKind (h : IsFieldAccess c m names kind read a)
    (hplain : c.schema.hasPlainColumns = true)
    (hm : c.schema.model? model = some m)
    (hdoc : c.schema.conforms (.embedded model) doc = true) {v : Value}
    (hv : read doc = some v) : v.isOfKind kind = true := by
  have hshows := h.shows hplain hm hdoc
  have hconforms := hshows.conforms v hv
  have hnull := hshows.isNull hv
  cases v <;> first | exact hconforms | simp [isNull] at hnull

/-- The start of a path is a stored column where there are no computed ones. -/
theorem followPath (h : IsFieldAccess c m names kind read a) {rest : List String}
    (hpath : Text.segments path = names ++ rest) (hempty : "" ∉ names ++ rest)
    (hmodel : ctx.model = m)
    (hcomputed : ctx.annotations = []) :
        c.followPath ctx path = c.follow path (.value a) rest [] ctx := by
  have hfull : (names ++ rest).contains "" = false := by simpa using hempty
  have hnone : ctx.computedType? ((names ++ rest).headD "") = none := by
    simp [Context.computedType?, hcomputed, Context.findType]
  simp only [Compiler.followPath, hpath, hfull, Bool.false_eq_true, if_false, hnone, hmodel]
  exact h.follow path rest ctx

/-- A path to a field with a lookup behind it that the field takes. -/
theorem resolveLookup (h : IsFieldAccess c m names kind read a) {l : Lookup}
    (hpath : Text.segments path = names ++ [l.name]) (hempty : "" ∉ names)
    (hmodel : ctx.model = m)
    (hcomputed : ctx.annotations = [])
    (hallowed : (Lookup.allowed (.scalar kind)).contains l = true) :
    c.resolveLookup ctx path = (.ok ⟨a, l, []⟩, ctx) := by
  have hfull : "" ∉ names ++ [l.name] := by simp [hempty, Ne.symm l.name_ne_empty]
  have hend : c.followPath ctx path = (.ok ⟨a, some l, []⟩, ctx) := by
    rw [h.followPath hpath hfull hmodel hcomputed]
    simp only [Compiler.follow, List.isEmpty_nil, step_scalar_lookup h.type fun _ => hallowed]
  simp only [Compiler.resolveLookup, hend, compared, Option.getD_some, h.type,
    hallowed, if_true]

/-- A lookup that a field does not take is refused, whatever is computed to compare the field
with. -/
theorem compileFilterOn_refused (h : IsFieldAccess c m names kind read a) {l : Lookup}
    {operand : Expr}
    (hm : c.schema.model? model = some m) (htop : m.embedded = false)
    (hpath : Text.segments path = names ++ [l.name])
    (hempty : "" ∉ names) (hkind : kind ≠ .json) (hcomputed : isComputed operand = true)
    (hrefused : (Lookup.allowed (.scalar kind)).contains l = false) :
    ∃ error, c.compileFilterOn model (.lookup path operand) = .error error := by
  have hfull : "" ∉ names ++ [l.name] := by simp [hempty, Ne.symm l.name_ne_empty]
  have hstep : c.step a l.name true = .ok (.lookup l) := step_scalar_lookup h.type fun hjson =>
    absurd hjson hkind
  have hend : c.followPath (.ofModel m) path = (.ok ⟨a, some l, []⟩, .ofModel m) := by
    rw [h.followPath hpath hfull rfl rfl]
    simp only [Compiler.follow, List.isEmpty_nil, hstep]
  have hr : c.resolveLookup (.ofModel m) path = (.error (c.unsupported l.name (.scalar kind)),
      .ofModel m) := by
    simp only [Compiler.resolveLookup, hend, compared, Option.getD_some, h.type, hrefused,
      Bool.false_eq_true, if_false]
  have hq : c.queryableModel model = .ok m :=
    (queryableModel_eq_ok_iff c model m).mpr ⟨hm, htop⟩
  refine ⟨c.unsupported l.name (.scalar kind), ?_⟩
  simp only [compileFilterOn, hq, Compiler.compileFilter_computed hcomputed,
    Compiler.lookupWith, hr]

/-- A path to a field as a reference. -/
theorem compileExpr (h : IsFieldAccess c m names kind read a)
    (hpath : Text.segments path = names)
    (hempty : "" ∉ names) (hmodel : ctx.model = m) (hcomputed : ctx.annotations = []) :
    c.compileExpr ctx (.field path) = .ok ((a.render, .scalar kind), ctx) := by
  have hend : c.followPath ctx path = (.ok ⟨a, none, []⟩, ctx) := by
    have hnames : Text.segments path = names ++ [] := by rw [List.append_nil, hpath]
    rw [h.followPath hnames (by rwa [List.append_nil]) hmodel hcomputed]
    rfl
  simp only [Compiler.compileExpr, fieldExpr, resolveField, hend, referred, h.type]

/-- A lookup on a field is built from the expression for the field, and adds nothing to the
context. -/
theorem lookupWith (h : IsFieldAccess c m names kind read a) {l : Lookup}
    {operand : Resolved → Context → Except CompileError (Value × Context)} {e : Value}
    (hpath : Text.segments path = names ++ [l.name]) (hempty : "" ∉ names)
    (hallowed : (Lookup.allowed (.scalar kind)).contains l = true)
    (hoperand : operand ⟨a, l, []⟩ (.ofModel m) = .ok (e, .ofModel m)) :
    c.lookupWith (.ofModel m) path operand = .ok (l.build a.render e, .ofModel m) := by
  have hr : c.resolveLookup (.ofModel m) path = (.ok ⟨a, l, []⟩, .ofModel m) :=
    h.resolveLookup hpath hempty rfl rfl hallowed
  have hnote : noteLookup ⟨a, l, []⟩ (.ofModel m) = .ofModel m := by
    simp [noteLookup, Context.promote]
  have hflat : a.type.isMapped = false := by rw [h.type]; rfl
  simp only [Compiler.lookupWith, hr, hnote, hoperand, Lookup.buildOn, hflat,
    Bool.false_eq_true, if_false]

/-- A lookup on a field that compares it with what an expression evaluates to. -/
theorem compileFilter_computed (h : IsFieldAccess c m names kind read a) {l : Lookup}
    {operand : Expr} {e : Value}
    {type : ValueType} (hpath : Text.segments path = names ++ [l.name]) (hempty : "" ∉ names)
    (hallowed : (Lookup.allowed (.scalar kind)).contains l = true)
    (hcomputed : isComputed operand = true)
    (hoperand : c.compileExpr (.ofModel m) operand = .ok ((e, type), .ofModel m)) :
    c.compileFilter (.ofModel m) (.lookup path operand) = .ok (l.build a.render e,
        .ofModel m) := by
  rw [Compiler.compileFilter_computed hcomputed]
  exact h.lookupWith hpath hempty hallowed (by simp only [hoperand, withoutType])

/-- A lookup on a field that compares it with a literal. -/
theorem compileFilter_literal (h : IsFieldAccess c m names kind read a)
    {l : Lookup} {v w : Value}
    (hpath : Text.segments path = names ++ [l.name]) (hempty : "" ∉ names)
    (hallowed : (Lookup.allowed (.scalar kind)).contains l = true)
    (hliteral : l.literal (some kind) v = .ok w) :
    c.compileFilter (.ofModel m) (.lookup path (.literal v)) = .ok (l.build a.render w,
        .ofModel m) := by
  rw [Compiler.compileFilter]
  exact h.lookupWith hpath hempty hallowed (by simp only [literalOperand, h.type,
    ValueType.scalar?, hliteral])

end IsFieldAccess

/-- A filter that needs no stages and leaves the context of its query as it is. -/
theorem compileFilterOn_of_same {f : Filter} {e : Value} (hm : c.schema.model? model = some m)
    (htop : m.embedded = false) (h : c.compileFilter (.ofModel m) f = .ok (e, .ofModel m)) :
    c.compileFilterOn model f = .ok ⟨[], e⟩ := by
  have hq : c.queryableModel model = .ok m :=
    (queryableModel_eq_ok_iff c model m).mpr ⟨hm, htop⟩
  simp only [compileFilterOn, hq, h]
  rfl

end Compiler

end DocQuery
