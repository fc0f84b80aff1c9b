import DocQuery.Proofs.Accesses
import DocQuery.Proofs.Inversion
set_option autoImplicit false

/-!
# Proofs: resolved paths read what they mean

The resolver follows a path name by name and builds an access; the direct reading follows the
same names and builds a route.  Step by step the access shows what the route reads.
-/

namespace DocQuery

open Value
open Operator (found truth)

theorem Text.positions?_lt {name : String} {m n : Nat}
    (h : Text.positions? name = some (m, n)) : n < Text.positionLimit := by
  simp only [positions?] at h
  split at h
  · simp at h
  · split at h
    · rename_i hn
      simp only [Option.some.injEq, Prod.mk.injEq] at h
      exact h.2 ▸ position?_lt hn
    · simp at h

/-! ## Schemas with plain columns -/

namespace Schema

/-- In a schema with plain columns no column holds a point or starts like an operator. -/
theorem plain_column {s : Schema} (h : s.hasPlainColumns = true) {model : String} {m : Model}
    (hm : s.model? model = some m) {f : Field} (hf : f ∈ m.fields) :
    '.' ∉ f.column.toList ∧ isOperatorName f.column = false := by
  have hmem : m ∈ s.models := List.mem_of_find?_eq_some hm
  have hcolumn : f.column ∈ m.columns := List.mem_map_of_mem hf
  simp only [hasPlainColumns, List.all_eq_true, Bool.and_eq_true, Bool.not_eq_true',
    List.contains_eq_mem, decide_eq_false_iff_not] at h
  obtain ⟨hpoint, hdollar⟩ := h m hmem f.column hcolumn
  exact ⟨hpoint, isOperatorName_of_notMem hdollar⟩

end Schema

/-! ## One name -/

/-- Where a name leads from an access: on to another access, which shows what the name reads, or
to the lookup at the end of the path. -/
inductive Lands (s : Schema) (base : Access) (name : String) (last : Bool) :
    Landing → Prop where
  | access (next : Access) (read : Option Value → Option Value)
    (hnarrow : s.narrow base.type name = some (next.type, read))
    (hmapped : next.type.isMapped = false)
    (hshows : ∀ scope v, Shows s scope base.render base.type v →
      Shows s scope next.render next.type (read v)) : Lands s base name last (.access next)
  | lookup (l : Lookup) (hnarrow : s.narrow base.type name = none)
    (hname : Lookup.ofName? name = some l) (hlast : last = true) :
    Lands s base name last (.lookup l)

namespace Compiler

variable {c : Compiler} {base : Access} {model name : String} {m : Model} {last : Bool}
  {landing : Landing}

theorem isMapped_ofField (kind : FieldKind) : (ValueType.ofField kind).isMapped = false := by
  cases kind <;> rfl

/-- A name behind an embedded document. -/
theorem lands_documentStep {e : CompileError} (hplain : c.schema.hasPlainColumns = true)
    (hm : c.schema.model? model = some m) (htype : base.type = .embedded model)
    (h : documentStep base m name last e = .ok landing) :
    Lands c.schema base name last landing := by
  have hnarrow : c.schema.narrow base.type name =
      (m.field? name).map fun f => (.ofField f.kind, fun v => columnOf v f.column) := by
    simp only [htype, Schema.narrow, Schema.fieldIn?, hm, Option.bind_some]
  simp only [documentStep] at h
  cases hf : m.field? name with
  | some f =>
    rw [hf] at h hnarrow
    obtain rfl := keyStep_ok h
    have hmem := List.mem_of_find?_eq_some hf
    refine .access _ _ hnarrow (isMapped_ofField f.kind) fun scope v hshows => ?_
    rw [htype] at hshows
    exact hshows.key hm hmem (Schema.plain_column hplain hm hmem).1
  | none =>
    rw [hf] at h hnarrow
    obtain ⟨hlast, l, hl, rfl⟩ := lookupOr_ok h
    exact .lookup l hnarrow hl hlast

/-- The length, an item or a part of an array. -/
theorem lands_arrayStep {s : Schema} {next : Access} (htype : base.type = .embeddedArray model)
    (h : arrayStep base model name = .ok (some next)) :
        Lands s base name last (.access next) := by
  simp only [arrayStep] at h
  by_cases hlength : name = lengthName
  · rw [if_pos hlength] at h
    obtain rfl := Option.some.inj (Except.ok.inj h)
    refine .access _ lengthOf (by simp [htype, Schema.narrow, hlength, Access.type]) rfl ?_
    intro scope v hshows
    exact (htype ▸ hshows).length
  · rw [if_neg hlength] at h
    cases hn : Text.position? name with
    | some n =>
      rw [hn] at h
      obtain rfl := Option.some.inj (Except.ok.inj h)
      refine .access _ (nth n) (by simp [htype, Schema.narrow, hlength, hn, Access.type]) rfl ?_
      intro scope v hshows
      exact (htype ▸ hshows).index (Text.position?_lt hn)
    | none =>
      rw [hn] at h
      cases hp : Text.positions? name with
      | none => simp [hp] at h
      | some bounds =>
        obtain ⟨start, stop⟩ := bounds
        simp only [hp] at h
        by_cases hlt : start < stop
        · rw [if_pos hlt] at h
          obtain rfl := Option.some.inj (Except.ok.inj h)
          refine .access _ (between start stop)
            (by simp [htype, Schema.narrow, hlength, hn, hp, Access.type]) rfl ?_
          intro scope v hshows
          exact (htype ▸ hshows).slice (Text.positions?_lt hp) hlt
        · simp [hlt] at h

theorem narrow_of_arrayStep {s : Schema} (htype : base.type = .embeddedArray model)
    (h : arrayStep base model name = .ok none) : s.narrow base.type name = none := by
  simp only [arrayStep] at h
  by_cases hlength : name = lengthName
  · simp [hlength] at h
  · rw [if_neg hlength] at h
    cases hn : Text.position? name with
    | some n => simp [hn] at h
    | none =>
      cases hp : Text.positions? name with
      | none => simp [htype, Schema.narrow, hlength, hn, hp]
      | some bounds =>
        simp only [hn, hp] at h
        split at h <;> simp at h

/-- A name behind a scalar of a fixed kind can only be a lookup. -/
theorem lands_scalar {s : Schema} {kind : ScalarKind} {e : CompileError}
    (htype : base.type = .scalar kind) (h : lookupOr name last e = .ok landing) :
    Lands s base name last landing := by
  obtain ⟨hlast, l, hl, rfl⟩ := lookupOr_ok h
  exact .lookup l (by rw [htype]; rfl) hl hlast

/-- A name behind what is read from each document of an array. -/
theorem lands_elementStep {mapped : ValueType} (hplain : c.schema.hasPlainColumns = true)
    (hmapped : base.type.isMapped = false) (hjson : base.type ≠ .scalar .json)
    (h : c.elementStep base mapped name last = .ok landing) :
    Lands c.schema base name last landing := by
  cases htype : base.type with
  | embedded model =>
    simp only [elementStep, htype] at h
    cases hm : c.modelOf model with
    | error e => simp [hm] at h
    | ok m =>
      rw [hm] at h
      exact lands_documentStep hplain (modelOf_ok hm) htype h
  | embeddedArray model =>
    simp only [elementStep, htype] at h
    cases ha : arrayStep base model name with
    | error e => simp [ha] at h
    | ok next =>
      cases next with
      | some next =>
        simp only [ha, Except.ok.injEq] at h
        obtain rfl := h
        exact lands_arrayStep htype ha
      | none =>
        simp only [ha] at h
        cases hm : c.modelOf model with
        | error e => simp [hm] at h
        | ok m =>
          simp only [hm] at h
          cases hf : m.field? name with
          | some f => simp [hf] at h
          | none =>
            simp only [hf] at h
            obtain ⟨hlast, l, hl, rfl⟩ := lookupOr_ok h
            exact .lookup l (narrow_of_arrayStep htype ha) hl hlast
  | scalar kind =>
    have hkind : kind ≠ .json := fun heq => hjson (by rw [htype, heq])
    cases kind <;> first | exact absurd rfl hkind |
      (simp only [elementStep, htype] at h; exact lands_scalar htype h)
  | mapped element => simp [htype, ValueType.isMapped] at hmapped

/-- A name behind a single value: it leads on or is a lookup, unless it is a field of the
documents of an array. -/
theorem lands_step (hplain : c.schema.hasPlainColumns = true)
    (hmapped : base.type.isMapped = false) (hjson : base.type ≠ .scalar .json)
    (h : c.step base name last = .ok landing) :
    Lands c.schema base name last landing ∨
    ∃ items m f, base.type = .embeddedArray items ∧ c.schema.narrow base.type name = none ∧
      c.schema.model? items = some m ∧ m.field? name = some f ∧
      landing =
          .access (.each base (.key (.item (.embedded items)) f.column (.ofField f.kind))) := by
  cases htype : base.type with
  | embedded model =>
    simp only [step, htype] at h
    cases hm : c.modelOf model with
    | error e => simp [hm] at h
    | ok m =>
      rw [hm] at h
      exact .inl (lands_documentStep hplain (modelOf_ok hm) htype h)
  | embeddedArray model =>
    simp only [step, htype] at h
    cases ha : arrayStep base model name with
    | error e => simp [ha] at h
    | ok next =>
      cases next with
      | some next =>
        simp only [ha, Except.ok.injEq] at h
        obtain rfl := h
        exact .inl (lands_arrayStep htype ha)
      | none =>
        simp only [ha] at h
        cases hm : c.modelOf model with
        | error e => simp [hm] at h
        | ok m =>
          simp only [hm] at h
          obtain ⟨f, hf, rfl⟩ := itemStep_ok h
          have hnarrow := narrow_of_arrayStep (s := c.schema) htype ha
          rw [htype] at hnarrow
          exact .inr ⟨model, m, f, rfl, hnarrow, modelOf_ok hm, hf, rfl⟩
  | scalar kind =>
    left
    have hkind : kind ≠ .json := fun heq => hjson (by rw [htype, heq])
    simp only [step, htype] at h
    by_cases hlength : name = lengthName
    · cases kind <;> simp [hlength] at h hkind
    · cases kind <;> first | exact absurd rfl hkind |
        (simp only [if_neg hlength] at h; exact lands_scalar htype h)
  | mapped element => simp [htype, ValueType.isMapped] at hmapped

/-- No lookup applies to an array of documents as a whole. -/
theorem step_ne_lookup (htype : base.type = .embeddedArray model) (l : Lookup) :
    c.step base name last ≠ .ok (.lookup l) := by
  intro h
  simp only [step, htype] at h
  split at h
  · simp at h
  · simp at h
  · split at h
    · simp at h
    · obtain ⟨f, -, hf⟩ := itemStep_ok h
      simp at hf

end Compiler

/-! ## Whole paths -/

/-- An access shows what a route reads, in every document of a model.  An access into each item
of an array does so for the array, and for what is read from an item. -/
inductive Simulates (s : Schema) (model : String) : Access → Route → Prop where
  | one (a : Access) (read : Value → Option Value) (hmapped : a.type.isMapped = false)
    (hshows : ∀ doc, s.conforms (.embedded model) doc = true →
      Shows s ⟨doc, []⟩ a.render a.type (read doc)) : Simulates s model a (.one a.type read)
  | each (array inner : Access) (items : String) (source read : Value → Option Value)
    (hmapped : inner.type.isMapped = false)
    (harray : ∀ doc, s.conforms (.embedded model) doc = true →
      Shows s ⟨doc, []⟩ array.render (.embeddedArray items) (source doc))
    (hinner : ∀ doc item, s.conforms (.embedded items) item = true →
      Shows s (Scope.bind ⟨doc, []⟩ Access.itemName item) inner.render inner.type (read item)) :
    Simulates s model (.each array inner) (.each source inner.type read)

/-- The type of what a route reads in the end. -/
def Route.type : Route → ValueType
  | .one type _ => type
  | .each _ type _ => type

namespace Simulates

variable {c : Compiler} {model name : String} {a : Access} {r : Route} {last : Bool}

/-- A name that leads on keeps the simulation, and the name of a lookup leads nowhere. -/
theorem step {landing : Landing} (hplain : c.schema.hasPlainColumns = true)
    (hsim : Simulates c.schema model a r) (hjson : r.type ≠ .scalar .json)
    (h : c.step a name last = .ok landing) :
    (∃ next r', landing = .access next ∧ c.schema.extend name r = some r' ∧
      Simulates c.schema model next r') ∨
    (∃ l, landing = .lookup l ∧ c.schema.extend name r = none ∧ Lookup.ofName? name = some l ∧
      last = true) := by
  cases hsim with
  | one a read hmapped hshows =>
    rcases Compiler.lands_step hplain hmapped hjson h with hlands | hitem
    · cases hlands with
      | access next f hnarrow hnext hnextShows =>
        refine .inl ⟨next, .one next.type fun doc => f (read doc), rfl, ?_, ?_⟩
        · simp only [Schema.extend, hnarrow]
        · exact .one next _ hnext fun doc hdoc => hnextShows _ _ (hshows doc hdoc)
      | lookup l hnarrow hname hlast =>
        refine .inr ⟨l, rfl, ?_, hname, hlast⟩
        simp only [Schema.extend, hnarrow]
        cases htype : a.type with
        | embeddedArray items => exact absurd h (Compiler.step_ne_lookup htype l)
        | _ => rfl
    · obtain ⟨items, m, f, htype, hnarrow, hm, hf, rfl⟩ := hitem
      have hmem := List.mem_of_find?_eq_some hf
      refine .inl ⟨_, .each read (.ofField f.kind) fun item => columnOf (some item) f.column,
        rfl, ?_, ?_⟩
      · simp only [Schema.extend, hnarrow]
        simp only [htype, Schema.fieldIn?, hm, hf, Option.bind_some, Option.map_some]
      · refine .each a _ items read _ (Compiler.isMapped_ofField f.kind)
          (fun doc hdoc => htype ▸ hshows doc hdoc) fun doc item hitem => ?_
        have hkey := (Shows.item ⟨doc, []⟩ hitem).key hm hmem
          (Schema.plain_column hplain hm hmem).1
        rwa [columnOf_present] at hkey
  | each array inner items source read hmapped harray hinner =>
    have hlands : ∃ inside, Compiler.elementStep c inner (.mapped inner.type) name
      last = .ok inside ∧ landing = inside.insideEach array := by
      simp only [Compiler.step, Access.type] at h
      cases he : c.elementStep inner (.mapped inner.type) name last with
      | error e => simp [he] at h
      | ok inside =>
        rw [he] at h
        exact ⟨inside, rfl, (Except.ok.inj h).symm⟩
    obtain ⟨inside, hinside, rfl⟩ := hlands
    cases Compiler.lands_elementStep hplain hmapped hjson hinside with
    | access next f hnarrow hnext hshows =>
      refine .inl ⟨_, .each source next.type fun item => f (read item), rfl, ?_, ?_⟩
      · simp only [Schema.extend, hnarrow, Option.map_some]
      · exact .each array next items source _ hnext harray fun doc item hitem =>
          hshows _ _ (hinner doc item hitem)
    | lookup l hnarrow hname hlast =>
      refine .inr ⟨l, rfl, ?_, hname, hlast⟩
      simp only [Schema.extend, hnarrow, Option.map_none]

/-- A route that ends at a value of any type accepts no lookup. -/
theorem accepts_json {l : Lookup} {v : Value} (h : r.type = .scalar .json) :
    r.accepts l v = false := by
  cases r <;> simp only [Route.type] at h <;> subst h <;> rfl

theorem extend_json (h : r.type = .scalar .json) : c.schema.extend name r = none := by
  cases r <;> simp only [Route.type] at h <;> subst h <;> rfl

/-- Following names from an access leads to an access that shows what the route along the same
names reads.  It leaves the context as it was. -/
theorem follow {path : String} {joins : List Nat} {ctx ctx' : Context} {e : Ending}
    {names : List String} {ending : Route × Lookup} {v : Value}
    (hplain : c.schema.hasPlainColumns = true) (hsim : Simulates c.schema model a r)
    (hroute : c.schema.routeFrom r names = some ending)
    (haccepts : ending.1.accepts ending.2 v = true)
    (h : c.follow path (.value a) names joins ctx = (.ok e, ctx')) :
    Simulates c.schema model e.target ending.1 ∧ e.lookup?.getD .exact = ending.2 ∧
      e.joins = joins ∧ ctx' = ctx := by
  induction names generalizing a r with
  | nil =>
    simp only [Compiler.follow, Prod.mk.injEq, Except.ok.injEq] at h
    simp only [Schema.routeFrom, Option.some.injEq] at hroute
    obtain ⟨rfl, rfl⟩ := h
    subst hroute
    exact ⟨hsim, rfl, rfl, rfl⟩
  | cons name rest ih =>
    have hjson : r.type ≠ .scalar .json := by
      intro hjson
      simp only [Schema.routeFrom, extend_json hjson] at hroute
      split at hroute
      · obtain ⟨l, -, rfl⟩ := Option.map_eq_some_iff.mp hroute
        rw [accepts_json hjson] at haccepts
        simp at haccepts
      · simp at hroute
    simp only [Compiler.follow] at h
    cases hstep : c.step a name rest.isEmpty with
    | error err => simp [hstep] at h
    | ok landing =>
      rw [hstep] at h
      rcases hsim.step hplain hjson hstep with ⟨next, r', rfl, hextend, hnext⟩ |
        ⟨l, rfl, hextend, hname, hlast⟩
      · simp only [Schema.routeFrom, hextend] at hroute
        exact ih hnext hroute h
      · simp only [Schema.routeFrom, hextend, hlast, if_true, hname, Option.map_some,
          Option.some.injEq] at hroute
        simp only [Prod.mk.injEq, Except.ok.injEq] at h
        obtain ⟨rfl, rfl⟩ := h
        subst hroute
        exact ⟨hsim, rfl, rfl, rfl⟩

end Simulates

namespace Compiler

/-- A path that stays in the documents of a model starts at the column of its first field. -/
theorem followPath_eq {c : Compiler} {path : String} {ctx ctx' : Context} {e : Ending}
    (hcomputed : ctx.annotations = []) {ending : Route × Lookup}
    (hroute : c.schema.route? ctx.model path = some ending)
    (h : c.followPath ctx path = (.ok e, ctx')) :
    ∃ f rest, f ∈ ctx.model.fields ∧
      c.schema.routeFrom (.one (.ofField f.kind) fun doc => columnOf (some doc) f.column) rest
        = some ending ∧
      c.follow path (.value (.column none f.column (.ofField f.kind))) rest [] ctx
        = (.ok e, ctx') := by
  simp only [followPath, Context.computedType?, hcomputed, Context.findType] at h
  split at h
  · simp at h
  · simp only [Schema.route?] at hroute
    cases hnames : Text.segments path with
    | nil => simp [hnames] at hroute
    | cons name rest =>
      rw [hnames] at h hroute
      cases hf : ctx.model.field? name with
      | none => simp [hf] at hroute
      | some f =>
        simp only [hf] at hroute
        by_cases hstays : c.schema.staysInside f rest = true
        · rw [if_pos hstays] at hroute
          refine ⟨f, rest, List.mem_of_find?_eq_some hf, hroute, ?_⟩
          simp only [follow, hf] at h
          cases hkind : f.kind with
          | foreignKey target key storedAs =>
            simp only [Schema.staysInside, hkind] at hstays
            simp only [hkind, modelOf] at h
            cases ht : c.schema.model? target with
            | none => simp [ht] at hstays
            | some t =>
              simp only [ht] at hstays h
              rwa [if_pos hstays] at h
          | _ => simpa only [hkind] using h
        · simp [hstays] at hroute

/-- A path that stays in the documents of a model leads to an access that shows what its route
reads. Resolving it leaves the context as it was. -/
theorem resolveLookup_simulates {c : Compiler} {model path : String} {ctx ctx' : Context}
    {res : Resolved} {r : Route} {l : Lookup} {v : Value}
    (hplain : c.schema.hasPlainColumns = true)
    (hm : c.schema.model? model = some ctx.model) (hcomputed : ctx.annotations = [])
    (hroute : c.schema.route? ctx.model path = some (r, l)) (haccepts : r.accepts l v = true)
    (h : c.resolveLookup ctx path = (.ok res, ctx')) :
    Simulates c.schema model res.target r ∧ res.lookup = l ∧ res.joins = [] ∧
      (Lookup.allowed res.target.type).contains l = true ∧ ctx' = ctx := by
  simp only [resolveLookup] at h
  cases hpath : c.followPath ctx path with
  | mk result after =>
    rw [hpath] at h
    cases result with
    | error err => simp at h
    | ok e =>
      simp only [Prod.mk.injEq] at h
      obtain ⟨hcompared, rfl⟩ := h
      obtain ⟨f, rest, hf, hrest, hfollow⟩ := followPath_eq hcomputed hroute hpath
      obtain ⟨hpoint, hdollar⟩ := Schema.plain_column hplain hm hf
      have hsim : Simulates c.schema model (.column none f.column (.ofField f.kind))
          (.one (.ofField f.kind) fun doc => columnOf (some doc) f.column) :=
        .one _ _ (isMapped_ofField f.kind) fun doc hdoc => Shows.column hm hf hdoc
          hpoint hdollar
      obtain ⟨htarget, hlookup, hjoins, rfl⟩ := hsim.follow hplain hrest haccepts hfollow
      simp only [compared, hlookup] at hcompared
      split at hcompared
      · rename_i hallowed
        obtain rfl := Except.ok.inj hcompared
        exact ⟨htarget, rfl, hjoins, hallowed, rfl⟩
      · split at hcompared <;> simp at hcompared

end Compiler

end DocQuery
