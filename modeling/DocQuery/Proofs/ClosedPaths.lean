import DocQuery.Proofs.ClosedParts
import DocQuery.Proofs.Growth
set_option autoImplicit false

/-!
# Proofs: paths are compiled to closed expressions

Where no stored name looks like that of an operator, what a path leads to is a closed
expression, and a context only gets joins whose stages are closed.
-/

namespace DocQuery

/-! ## Names -/

/-- Whether no name of a model looks like that of an operator: neither that of its collection
nor those of its fields and columns. -/
def Model.hasPlainNames (m : Model) : Bool :=
  !isOperatorName m.collection &&
    m.fields.all fun f => !isOperatorName f.name && !isOperatorName f.column

namespace Model

variable {m : Model}

theorem field?_ok {name : String} {f : Field} (h : m.field? name = some f) :
    f ∈ m.fields ∧ (f.name = name ∨ name = "pk") := by
  refine ⟨List.mem_of_find?_eq_some h, ?_⟩
  have hname := List.find?_some h
  split at hname
  · rename_i hpk
    exact .inr hpk.1
  · exact .inl (by simpa using hname)

theorem collection_plain (h : m.hasPlainNames = true) :
    isOperatorName m.collection = false := by
  simp only [hasPlainNames, Bool.and_eq_true] at h
  simpa using h.1

theorem field_plain (h : m.hasPlainNames = true) {f : Field} (hf : f ∈ m.fields) :
    isOperatorName f.name = false ∧ isOperatorName f.column = false := by
  simp only [hasPlainNames, Bool.and_eq_true, List.all_eq_true] at h
  simpa using h.2 f hf

/-- A name that leads to a field does not look like that of an operator. -/
theorem plain_of_field? (h : m.hasPlainNames = true) {name : String} {f : Field}
    (hf : m.field? name = some f) :
        isOperatorName name = false ∧ isOperatorName f.column = false := by
  obtain ⟨hmem, hname⟩ := field?_ok hf
  obtain ⟨hplain, hcolumn⟩ := field_plain h hmem
  refine ⟨?_, hcolumn⟩
  rcases hname with rfl | rfl
  · exact hplain
  · rfl

end Model

/-! ## Accesses -/

/-- An access that starts from names that do not look like those of operators, and that only
reads an item inside an array. -/
inductive Access.Closed : List String → Access → Prop where
  | column {vars : List String} {joined : Option String} {name : String} (type : ValueType)
    (hjoined : ∀ a ∈ joined, isOperatorName a = false) (hname : isOperatorName name = false) :
    Closed vars (.column joined name type)
  | item {vars : List String} (type : ValueType) (hmem : Access.itemName ∈ vars) :
    Closed vars (.item type)
  | computed {vars : List String} {name : String} (type : ValueType)
    (hname : isOperatorName name = false) : Closed vars (.computed name type)
  | key {vars : List String} {base : Access} (name : String) (type : ValueType)
    (h : Closed vars base) : Closed vars (.key base name type)
  | jsonKey {vars : List String} {base : Access} (name : String) (type : ValueType)
    (h : Closed vars base) : Closed vars (.jsonKey base name type)
  | index {vars : List String} {base : Access} (position : Int64) (type : ValueType)
    (h : Closed vars base) : Closed vars (.index base position type)
  | slice {vars : List String} {base : Access} (start stop : Int64) (type : ValueType)
    (h : Closed vars base) : Closed vars (.slice base start stop type)
  | length {vars : List String} {base : Access} (type : ValueType) (h : Closed vars base) :
    Closed vars (.length base type)
  | each {vars : List String} {base inner : Access} (hbase : Closed vars base)
    (hinner : Closed (Access.itemName :: vars) inner) : Closed vars (.each base inner)

namespace Access.Closed

open Value (closed_column closed_extend closed_keyOf closed_pair closed_int closed_lengthOf
  closed_mapOf)

variable {vars : List String} {a : Access}

/-- A closed access is written as a closed expression. -/
theorem render (h : a.Closed vars) : a.render.Closed vars := by
  induction h with
  | @column vars joined name type hjoined hname =>
    cases joined with
    | none => exact closed_column hname
    | some joined => exact closed_extend (closed_column (hjoined joined rfl)) name
  | item type hmem => exact .bound (by decide) hmem
  | computed type hname => exact closed_column hname
  | key name type _ ih => exact closed_keyOf ih name
  | jsonKey name type _ ih => exact .field name ih
  | index position type _ ih => exact .apply .elementAt (closed_pair ih (closed_int position))
  | slice start stop type _ ih =>
    refine .apply .slice (.array (List.forall_mem_cons.mpr ⟨ih, ?_⟩))
    exact Value.forall_mem_pair (closed_int start) (closed_int _)
  | length type _ ih => exact closed_lengthOf ih
  | each _ _ ihbase ihinner => exact closed_mapOf ihbase ihinner

end Access.Closed

/-- A property of accesses, under the variables that are bound there, that holds as paths go
on. -/
structure Access.IsKept (P : List String → Access → Prop) : Prop where
  item : ∀ {vars : List String} (type : ValueType), Access.itemName ∈ vars → P vars (.item type)
  key : ∀ {vars : List String} {base : Access} (name : String) (type : ValueType),
    P vars base → P vars (.key base name type)
  jsonKey : ∀ {vars : List String} {base : Access} (name : String) (type : ValueType),
    P vars base → P vars (.jsonKey base name type)
  index : ∀ {vars : List String} {base : Access} (position : Int64) (type : ValueType),
    P vars base → P vars (.index base position type)
  slice : ∀ {vars : List String} {base : Access} (start stop : Int64) (type : ValueType),
    P vars base → P vars (.slice base start stop type)
  length : ∀ {vars : List String} {base : Access} (type : ValueType),
    P vars base → P vars (.length base type)
  each : ∀ {vars : List String} {base inner : Access},
    P vars (.each base inner) ↔ P vars base ∧ P (Access.itemName :: vars) inner

/-- The same for paths that go on by names of a kind only, whether they are names on the path or
those of columns. -/
structure Access.IsKeptBy (K : String → Prop) (P : List String → Access → Prop) : Prop where
  item : ∀ {vars : List String} (type : ValueType), Access.itemName ∈ vars → P vars (.item type)
  key : ∀ {vars : List String} {base : Access} {name : String} (type : ValueType), K name →
    P vars base → P vars (.key base name type)
  jsonKey : ∀ {vars : List String} {base : Access} {name : String} (type : ValueType), K name →
    P vars base → P vars (.jsonKey base name type)
  index : ∀ {vars : List String} {base : Access} (position : Int64) (type : ValueType),
    P vars base → P vars (.index base position type)
  slice : ∀ {vars : List String} {base : Access} (start stop : Int64) (type : ValueType),
    P vars base → P vars (.slice base start stop type)
  length : ∀ {vars : List String} {base : Access} (type : ValueType),
    P vars base → P vars (.length base type)
  each : ∀ {vars : List String} {base inner : Access},
    P vars (.each base inner) ↔ P vars base ∧ P (Access.itemName :: vars) inner

theorem Access.IsKept.by {P : List String → Access → Prop} (hP : Access.IsKept P) :
    Access.IsKeptBy (fun _ => True) P where
  item := hP.item
  key := fun type _ h => hP.key _ type h
  jsonKey := fun type _ h => hP.jsonKey _ type h
  index := hP.index
  slice := hP.slice
  length := hP.length
  each := hP.each

theorem Access.Closed.isKept : Access.IsKept Access.Closed where
  item := fun type hmem => .item type hmem
  key := fun name type h => .key name type h
  jsonKey := fun name type h => .jsonKey name type h
  index := fun position type h => .index position type h
  slice := fun start stop type h => .slice start stop type h
  length := fun type h => .length type h
  each := by
    intro vars base inner
    constructor
    · rintro ⟨⟩
      exact ⟨‹_›, ‹_›⟩
    · exact fun h => .each h.1 h.2

namespace Compiler

/-! ## Steps -/

section Steps

variable {c : Compiler} {K : String → Prop} {P : List String → Access → Prop}
  (hP : Access.IsKeptBy K P)
  {vars : List String} {a b : Access} {m : Model} {name : String} {last : Bool}

theorem lookupOr_ne_access {e : CompileError} : lookupOr name last e ≠ .ok (.access b) := by
  intro h
  obtain ⟨-, l, -, hl⟩ := lookupOr_ok h
  simp at hl

theorem insideEach_eq_access {landing : Landing} (h : landing.insideEach a = .access b) :
    ∃ inner, landing = .access inner ∧ b = .each a inner := by
  cases landing with
  | access inner =>
    simp only [Landing.insideEach, Landing.access.injEq] at h
    exact ⟨inner, rfl, h.symm⟩
  | lookup l => simp [Landing.insideEach] at h

include hP

theorem kept_keyStep {f : Field} (hf : K f.column) (ha : P vars a)
    (h : keyStep a m f = .ok (.access b)) : P vars b := by
  obtain rfl := Landing.access.inj (keyStep_ok h)
  exact hP.key _ hf ha

theorem kept_memberStep {type : ValueType} (hname : K name) (ha : P vars a)
    (h : memberStep a type name last = .access b) : P vars b := by
  have hmember : b = .jsonKey a name (.scalar .json) := by grind [memberStep]
  exact hmember ▸ hP.jsonKey _ hname ha

theorem kept_arrayStep {model : String} (ha : P vars a)
    (h : arrayStep a model name = .ok (some b)) : P vars b := by
  simp only [arrayStep] at h
  split at h
  · obtain rfl : _ = b := by simpa using h
    exact hP.length _ ha
  · split at h
    · obtain rfl : _ = b := by simpa using h
      exact hP.index _ _ ha
    · split at h
      · split at h
        · obtain rfl : _ = b := by simpa using h
          exact hP.slice _ _ _ ha
        · simp at h
      · simp at h

theorem kept_documentStep {e : CompileError} (hm : ∀ f ∈ m.fields, K f.column) (ha : P vars a)
    (h : documentStep a m name last e = .ok (.access b)) : P vars b := by
  simp only [documentStep] at h
  split at h
  · rename_i f hf
    exact kept_keyStep hP (hm f (List.mem_of_find?_eq_some hf)) ha h
  · exact absurd h lookupOr_ne_access

theorem kept_itemStep {model : String} (hm : ∀ f ∈ m.fields, K f.column) (ha : P vars a)
    (h : itemStep a m model name = .ok (.access b)) : P vars b := by
  obtain ⟨f, hf, hlanding⟩ := itemStep_ok h
  obtain rfl := Landing.access.inj hlanding
  exact hP.each.mpr ⟨ha, hP.key _ (hm f (List.mem_of_find?_eq_some hf))
    (hP.item _ List.mem_cons_self)⟩

variable (hcolumns : ∀ m ∈ c.schema.models, ∀ f ∈ m.fields, K f.column)
include hcolumns

omit hP in
theorem column_kept {model : String} (hm : c.modelOf model = .ok m) :
    ∀ f ∈ m.fields, K f.column :=
  hcolumns m (List.mem_of_find?_eq_some (modelOf_ok hm))

theorem kept_elementStep {type : ValueType} (hname : K name) (ha : P vars a)
    (h : c.elementStep a type name last = .ok (.access b)) : P vars b := by
  simp only [elementStep] at h
  split at h
  · split at h
    · simp at h
    · rename_i next hnext
      obtain rfl : next = b := by simpa using h
      exact kept_arrayStep hP ha hnext
    · split at h
      · simp at h
      · split at h
        · simp at h
        · exact absurd h lookupOr_ne_access
  · split at h
    · simp at h
    · rename_i hm
      exact kept_documentStep hP (column_kept hcolumns hm) ha h
  · exact kept_memberStep hP hname ha (Except.ok.inj h)
  · exact absurd h lookupOr_ne_access

/-- A step from an access to another one keeps such a property. -/
theorem kept_stepBy (hname : K name) (ha : P vars a)
    (h : c.step a name last = .ok (.access b)) : P vars b := by
  simp only [step] at h
  split at h
  · split at h
    · simp at h
    · rename_i hm
      exact kept_documentStep hP (column_kept hcolumns hm) ha h
  · split at h
    · simp at h
    · rename_i next hnext
      obtain rfl : next = b := by simpa using h
      exact kept_arrayStep hP ha hnext
    · split at h
      · simp at h
      · rename_i hm
        exact kept_itemStep hP (column_kept hcolumns hm) ha h
  · split at h
    · rename_i array inner _
      obtain ⟨hbase, hinner⟩ := hP.each.mp ha
      split at h
      · simp at h
      · rename_i landing hlanding
        obtain ⟨next, rfl, rfl⟩ := insideEach_eq_access (Except.ok.inj h)
        exact hP.each.mpr ⟨hbase, kept_elementStep hP hcolumns hname hinner hlanding⟩
    · simp at h
  · exact kept_memberStep hP hname ha (Except.ok.inj h)
  · split at h
    · simp at h
    · exact absurd h lookupOr_ne_access

/-- So does the rest of a path. -/
theorem kept_followBy {ctx ctx' : Context} {path : String} {names : List String}
    {joins : List Nat} {ending : Ending} (hnames : ∀ name ∈ names, K name) (ha : P vars a)
    (h : c.follow path (.value a) names joins ctx = (.ok ending, ctx')) :
        P vars ending.target := by
  induction names generalizing a with
  | nil =>
    obtain ⟨rfl, -⟩ := follow_value_nil_ok h
    exact ha
  | cons name rest ih =>
    obtain ⟨hname, hrest⟩ := List.forall_mem_cons.mp hnames
    rcases follow_value_cons_ok h with ⟨next, hnext, hfollow⟩ | ⟨l, -, rfl, -⟩
    · exact ih hrest (kept_stepBy hP hcolumns hname ha hnext) hfollow
    · exact ha

end Steps

section Steps

variable {c : Compiler} {P : List String → Access → Prop} (hP : Access.IsKept P)
  {vars : List String} {a b : Access}
include hP

theorem kept_step {name : String} {last : Bool} (ha : P vars a)
    (h : c.step a name last = .ok (.access b)) : P vars b :=
  kept_stepBy hP.by (fun _ _ _ _ => trivial) trivial ha h

theorem kept_follow {ctx ctx' : Context} {path : String} {names : List String}
    {joins : List Nat}
    {ending : Ending} (ha : P vars a)
    (h : c.follow path (.value a) names joins ctx = (.ok ending, ctx')) :
    P vars ending.target :=
  kept_followBy hP.by (fun _ _ _ _ => trivial) (fun _ _ => trivial) ha h

end Steps

end Compiler

/-! ## Joins -/

/-- Whether the names of variables and of fields for subqueries can stand in expressions as they
are. -/
structure Config.IsPlain (config : Config) : Prop where
  parent : '.' ∉ config.parentPrefix.toList
  subquery : isOperatorName config.subqueryPrefix = false

namespace Config

theorem usual_isPlain : Config.usual.IsPlain := ⟨by decide, by decide⟩

variable {config : Config}

theorem IsPlain.parentVariable (h : config.IsPlain) (index : Nat) :
    '.' ∉ (config.parentVariable index).toList :=
  notMem_numbered (by decide) h.parent index

theorem IsPlain.subqueryField (h : config.IsPlain) (index : Nat) :
    isOperatorName (config.subqueryField index) = false :=
  isOperatorName_numbered h.subquery index

/-- The variables of the numbers from one on. -/
def parentVariables (config : Config) (first count : Nat) : List String :=
  (List.range' first count).map config.parentVariable

theorem mem_parentVariables {first count index : Nat} (hfirst : first ≤ index)
    (hlast : index < first + count) :
        config.parentVariable index ∈ config.parentVariables first count := by
  refine List.mem_map_of_mem ?_
  simp only [List.mem_range'_1]
  exact ⟨hfirst, hlast⟩

theorem parentVariables_succ (first count : Nat) :
    config.parentVariables first (count + 1) =
      config.parentVariable first :: config.parentVariables (first + 1) count := by
  simp [parentVariables, List.range'_succ]

theorem parentVariables_subset {first count total : Nat} (h : count ≤ total) :
    config.parentVariables first count ⊆ config.parentVariables first total := by
  refine List.map_subset _ fun index hindex => ?_
  simp only [List.mem_range'_1] at hindex ⊢
  exact ⟨hindex.1, by omega⟩

end Config

/-- A join whose aliases and columns do not look like operators. -/
structure Join.IsPlain (j : Join) : Prop where
  parent : ∀ a ∈ j.parentAlias, isOperatorName a = false
  joined : isOperatorName j.joined = false
  pairs : ∀ p ∈ j.pairs, isOperatorName p.parent = false ∧ isOperatorName p.child = false

namespace Join

open Value (closed_column closed_extend closed_binary closed_pair closed_int closed_null)

variable {config : Config} {vars : List String} {parent : Option String}

theorem closed_key {type otherType : String} {column : Value} (h : column.Closed vars) :
    (key type otherType column).Closed vars := by
  unfold key
  split
  · exact h
  · exact .apply .toText h

theorem closed_parentKey {p : JoinPair} (hparent : ∀ a ∈ parent, isOperatorName a = false)
    (hcolumn : isOperatorName p.parent = false) : (parentKey parent p).Closed vars := by
  refine closed_key ?_
  cases parent with
  | none => exact closed_column hcolumn
  | some a => exact closed_extend (closed_column (hparent a rfl)) p.parent

theorem closed_bindings {pairs : List JoinPair}
    (hparent : ∀ a ∈ parent, isOperatorName a = false)
    (hpairs : ∀ p ∈ pairs, isOperatorName p.parent = false ∧ isOperatorName p.child = false)
    (index : Nat) : ∀ m ∈ bindings config parent index pairs, Value.Closed vars m.2 := by
  induction pairs generalizing index with
  | nil => simp [bindings]
  | cons p rest ih =>
    refine List.forall_mem_cons.mpr ⟨closed_parentKey hparent (hpairs p List.mem_cons_self).1,
      ?_⟩
    exact ih (fun q hq => hpairs q (List.mem_cons_of_mem p hq)) (index + 1)

theorem names_bindings (pairs : List JoinPair) (index : Nat) :
    (bindings config parent index pairs).names = config.parentVariables index pairs.length := by
  induction pairs generalizing index with
  | nil => rfl
  | cons p rest ih =>
    have hrest := ih (index + 1)
    simp only [Document.names] at hrest
    simp only [bindings, Document.names, List.map_cons, List.length_cons, hrest,
      Config.parentVariables_succ]

theorem closed_conditions (hconfig : config.IsPlain) {pairs : List JoinPair}
    (hpairs : ∀ p ∈ pairs, isOperatorName p.parent = false ∧ isOperatorName p.child = false)
    {index : Nat} (hvars : config.parentVariables index pairs.length ⊆ vars) :
    ∀ e ∈ conditions config index pairs, Value.Closed vars e := by
  induction pairs generalizing index with
  | nil => simp [conditions]
  | cons p rest ih =>
    rw [List.length_cons, Config.parentVariables_succ, List.cons_subset] at hvars
    have hchild : (childKey p).Closed vars :=
      closed_key (closed_column (hpairs p List.mem_cons_self).2)
    have hvariable : Value.Closed vars (.string ("$$" ++ config.parentVariable index)) :=
      .bound (hconfig.parentVariable index) hvars.1
    refine List.forall_mem_cons.mpr ⟨closed_binary (.comparison .eq) hvariable hchild, ?_⟩
    exact ih (fun q hq => hpairs q (List.mem_cons_of_mem p hq)) hvars.2

theorem closed_isEmptyArray {e : Value} (h : e.Closed vars) : (isEmptyArray e).Closed vars := by
  refine .or (Value.forall_mem_pair ?_ ?_)
  · exact closed_binary (.comparison .eq) (.apply .type h) (.text rfl)
  · exact closed_binary (.comparison .eq) (.apply .size h) (closed_int 0)

theorem closed_placeholder {name : String} (h : isOperatorName name = false) :
    (placeholder name).Closed vars := by
  have hpath : Value.Closed vars (.string ("$" ++ name)) := closed_column h
  have hnull : Value.Closed vars (.array [.null]) := .array (by simpa using closed_null)
  refine .set ?_
  simpa using Value.Closed.cond (closed_isEmptyArray hpath) hnull hpath

theorem closed_lookupStage (hconfig : config.IsPlain) {j : Join} (hj : j.IsPlain) :
    (lookupStage config j).Closed vars := by
  refine .lookup _ _ (closed_bindings hj.parent hj.pairs 0) ?_
  have hsubset : config.parentVariables 0 j.pairs.length ⊆
      (bindings config j.parentAlias 0 j.pairs).names ++ vars := by
    rw [names_bindings]
    exact List.subset_append_left _ _
  simpa using Stage.Closed.select (.and (closed_conditions hconfig hj.pairs hsubset))

/-- The stages of a join are closed. -/
theorem closed_stages (hconfig : config.IsPlain) {j : Join} (hj : j.IsPlain) :
    ∀ s ∈ j.stages config, s.Closed vars := by
  have hlookup : (lookupStage config j).Closed vars := closed_lookupStage hconfig hj
  have hplaceholder : (placeholder j.joined).Closed vars := closed_placeholder hj.joined
  have hunwind : (Stage.unwindAll j.joined).Closed vars := .unwind _ _
  unfold stages
  split
  · simpa using ⟨hlookup, hunwind⟩
  · simpa using ⟨hlookup, hplaceholder, hunwind⟩

end Join

/-! ## Contexts -/

namespace Context

/-- The variables that the stages of a query may refer to. -/
def outerVariables (config : Config) (ctx : Context) : List String :=
  config.parentVariables 0 ctx.outerCount

/-- A context in which nothing looks like an operator.  The stages for the subqueries bind all
variables that they refer to themselves. -/
structure IsTidy (config : Config) (ctx : Context) : Prop where
  model : ctx.model.hasPlainNames = true
  annotations : ∀ a ∈ ctx.annotations, isOperatorName a.1 = false
  joins : ∀ j ∈ ctx.joins, j.2.IsPlain
  subqueries : ∀ s ∈ ctx.subqueryStages, s.Closed []

variable {config : Config} {ctx ctx' : Context}

theorem Extends.outerVariables_subset (h : Extends config ctx ctx') :
    ctx.outerVariables config ⊆ ctx'.outerVariables config :=
  Config.parentVariables_subset h.outer.length_le

theorem isTidy_ofModel {m : Model} (h : m.hasPlainNames = true) : (ofModel m).IsTidy config :=
  ⟨h, by simp [ofModel], by simp [ofModel], by simp [ofModel]⟩

theorem isTidy_ofSubquery {m : Model} (h : m.hasPlainNames = true) :
    (ofSubquery m).IsTidy config :=
  ⟨h, by simp [ofSubquery, ofModel], by simp [ofSubquery, ofModel], by
    simp [ofSubquery, ofModel]⟩

theorem mem_of_findType {types : List (String × ValueType)} {name : String} {type : ValueType}
    (h : findType types name = some type) : (name, type) ∈ types := by
  induction types with
  | nil => simp [findType] at h
  | cons a rest ih =>
    obtain ⟨k, t⟩ := a
    by_cases hk : k = name
    · simp only [findType, hk, if_true, Option.some.injEq] at h
      simp [hk, h]
    · simp only [findType, hk, if_false] at h
      exact List.mem_cons_of_mem _ (ih h)

theorem mem_setType {types : List (String × ValueType)} {name : String} {type : ValueType}
    {a : String × ValueType} (h : a ∈ setType types name type) :
        a ∈ types ∨ a = (name, type) := by
  induction types with
  | nil => simpa [setType] using h
  | cons b rest ih =>
    obtain ⟨k, t⟩ := b
    by_cases hk : k = name
    · simp only [setType, hk, if_true, List.mem_cons] at h ⊢
      tauto
    · simp only [setType, hk, if_false, List.mem_cons] at h ⊢
      rcases h with h | h
      · exact .inl (.inl h)
      · exact (ih h).imp_left .inr

theorem forall_mem_modify {α : Type} {P : α → Prop} {f : α → α} {l : List α} (h : ∀ a ∈ l, P a)
    (hf : ∀ a, P a → P (f a)) (index : Nat) : ∀ a ∈ l.modify index f, P a := by
  induction l generalizing index with
  | nil => simp
  | cons a rest ih =>
    have ha := h a List.mem_cons_self
    have hrest : ∀ b ∈ rest, P b := fun b hb => h b (List.mem_cons_of_mem a hb)
    cases index with
    | zero => simpa using ⟨hf a ha, hrest⟩
    | succ index => simpa using ⟨ha, ih hrest index⟩

namespace IsTidy

theorem computedType? (h : ctx.IsTidy config) {name : String} {type : ValueType}
    (hname : ctx.computedType? name = some type) : isOperatorName name = false :=
  h.annotations _ (mem_of_findType hname)

theorem refer (h : ctx.IsTidy config) (name : String) : (ctx.refer name).IsTidy config := by
  unfold Context.refer
  split
  · exact h
  · exact ⟨h.model, h.annotations, h.joins, h.subqueries⟩

theorem enter (h : ctx.IsTidy config) : ctx.enter.IsTidy config :=
  ⟨h.model, h.annotations, h.joins, h.subqueries⟩

theorem leave (h : ctx.IsTidy config) : ctx.leave.IsTidy config :=
  ⟨h.model, h.annotations, h.joins, h.subqueries⟩

theorem addAnnotation (h : ctx.IsTidy config) {name : String}
    (hname : isOperatorName name = false)
    (type : ValueType) : (ctx.clearRefs.addAnnotation name type).IsTidy config where
  model := h.model
  annotations := by
    intro a ha
    rcases mem_setType ha with hold | rfl
    · exact h.annotations a hold
    · exact hname
  joins := h.joins
  subqueries := h.subqueries

theorem promoteAt (h : ctx.IsTidy config) (index : Nat) :
    (ctx.promoteAt index).IsTidy config where
  model := h.model
  annotations := h.annotations
  joins := by
    refine forall_mem_modify (f := keepUnmatched) h.joins (fun j hj => ?_) index
    exact ⟨hj.parent, hj.joined, hj.pairs⟩
  subqueries := h.subqueries

theorem promote (h : ctx.IsTidy config) (indices : List Nat) :
    (ctx.promote indices).IsTidy config := by
  induction indices generalizing ctx with
  | nil => exact h
  | cons index rest ih => exact ih (h.promoteAt index)

theorem noteLookup (h : ctx.IsTidy config) (r : Resolved) :
    (Compiler.noteLookup r ctx).IsTidy config := by
  unfold Compiler.noteLookup
  split
  · exact h.promote r.joins
  · exact h

theorem aliasAt (h : ctx.IsTidy config) (index : Nat) :
    isOperatorName (ctx.aliasAt index) = false := by
  unfold Context.aliasAt
  split
  · rename_i j hj
    exact (h.joins j (List.mem_of_getElem? hj)).joined
  · rfl

/-- A context with one more join, or with one that it had, stays tidy. -/
theorem join (h : ctx.IsTidy config) (path : String) {parent : Option String} {f k : Field}
    {target : Model} (hparent : ∀ a ∈ parent, isOperatorName a = false)
    (hf : isOperatorName f.column = false) (htarget : isOperatorName target.collection = false)
    (hk : isOperatorName k.column = false) :
    isOperatorName (ctx.join path parent f target k).1.1 = false ∧
      (ctx.join path parent f target k).2.IsTidy config := by
  unfold Context.join
  split
  · rename_i index _
    refine ⟨h.aliasAt index, ?_⟩
    dsimp only
    split
    · exact h.promoteAt index
    · exact h
  · have hfresh : isOperatorName (ctx.freshAlias target.collection) = false :=
      isOperatorName_freshAlias htarget
    have hnew : (ctx.newJoin parent f target k).IsPlain :=
      ⟨hparent, hfresh, by simpa [newJoin] using ⟨hf, hk⟩⟩
    refine ⟨hfresh, h.model, h.annotations, ?_, h.subqueries⟩
    exact List.forall_mem_append.mpr ⟨h.joins, List.forall_mem_singleton.mpr hnew⟩

theorem outerRef (h : ctx.IsTidy config) {path : String} {index : Option Nat}
    (hindex : ctx.outerRef path = (index, ctx')) : ctx'.IsTidy config := by
  have hextends : Extends config ctx ctx' := .outerRef hindex
  have hkeeps : ctx'.annotations = ctx.annotations ∧ ctx'.joins = ctx.joins ∧
      ctx'.subqueryStages = ctx.subqueryStages := by
    grind [Context.outerRef]
  obtain ⟨hannotations, hjoins, hstages⟩ := hkeeps
  exact ⟨hextends.model ▸ h.model, hannotations ▸ h.annotations, hjoins ▸ h.joins,
    hstages ▸ h.subqueries⟩

end IsTidy

end Context

/-! ## Paths -/

namespace Compiler

open Context (IsTidy)

variable {c : Compiler} {ctx ctx' : Context} {path : String} {vars : List String}

/-- A compiler for names that do not look like operators. -/
structure IsPlain (c : Compiler) : Prop where
  models : ∀ m ∈ c.schema.models, m.hasPlainNames = true
  config : c.config.IsPlain

/-- A place from which a path goes on without anything that looks like an operator. -/
def ClosedPlace (vars : List String) : Place → Prop
  | .document m joined _ => m.hasPlainNames = true ∧ ∀ a ∈ joined, isOperatorName a = false
  | .value a => a.Closed vars

theorem follow_closed (hc : c.IsPlain) {place : Place} {names : List String}
    {joins : List Nat} {ending : Ending} (hplace : ClosedPlace vars place)
    (hctx : ctx.IsTidy c.config)
    (h : c.follow path place names joins ctx = (.ok ending, ctx')) :
    ending.target.Closed vars ∧ ctx'.IsTidy c.config := by
  induction names generalizing place joins ctx with
  | nil =>
    cases place with
    | document m joined relation => simp [follow] at h
    | value a =>
      obtain ⟨rfl, rfl⟩ := follow_value_nil_ok h
      exact ⟨hplace, hctx⟩
  | cons name rest ih =>
    cases place with
    | value a =>
      rcases follow_value_cons_ok h with ⟨next, hnext, hrest⟩ | ⟨l, -, rfl, rfl⟩
      · have hnextPlace : ClosedPlace vars (.value next) :=
          kept_step Access.Closed.isKept hplace hnext
        exact ih hnextPlace hctx hrest
      · exact ⟨hplace, hctx⟩
    | document m joined relation =>
      obtain ⟨name', rest', f, hnames, hf, hcase⟩ := follow_document_ok h
      obtain ⟨rfl, rfl⟩ := List.cons.inj hnames
      have hcolumn : isOperatorName f.column = false := (Model.plain_of_field? hplace.1 hf).2
      rcases hcase with ⟨-, hfollow⟩ | ⟨model, key, _, target, k, -, htarget, -, hk, hfollow⟩
      · have hvalue : ClosedPlace vars (.value (.column joined f.column (.ofField f.kind))) :=
          Access.Closed.column _ hplace.2 hcolumn
        exact ih hvalue hctx hfollow
      · have hmodel : target.hasPlainNames = true :=
          hc.models target (List.mem_of_find?_eq_some htarget)
        obtain ⟨halias, hjoin⟩ := hctx.join (relationPath relation name) hplace.2 hcolumn
          (Model.collection_plain hmodel) (Model.plain_of_field? hmodel hk).2
        have hdocument : ClosedPlace vars (.document target
            (some (ctx.join (relationPath relation name) joined f target k).1.1)
            (relationPath relation name)) := ⟨hmodel, by simpa using halias⟩
        exact ih hdocument hjoin hfollow

theorem followPath_closed (hc : c.IsPlain) {ending : Ending}
    (hctx : ctx.IsTidy c.config) (h : c.followPath ctx path = (.ok ending, ctx')) :
    ending.target.Closed vars ∧ ctx'.IsTidy c.config ∧ isOperatorName path = false := by
  obtain ⟨name, rest, hsegments, -, hcase⟩ := followPath_ok h
  rcases hcase with ⟨type, htype, hfollow⟩ | ⟨-, hfollow⟩
  · have hname : isOperatorName name = false := hctx.computedType? htype
    have hvalue : ClosedPlace vars (.value (.computed name type)) :=
      Access.Closed.computed type hname
    obtain ⟨htarget, htidy⟩ := follow_closed hc hvalue (hctx.refer name) hfollow
    exact ⟨htarget, htidy, Text.startsWith_of_segments hsegments hname⟩
  · have hname : isOperatorName name = false := by
      obtain ⟨name', _, f, hnames, hf, -⟩ := follow_document_ok hfollow
      obtain ⟨rfl, rfl⟩ := List.cons.inj hnames
      exact (Model.plain_of_field? hctx.model hf).1
    have hdocument : ClosedPlace vars (.document ctx.model none "") := ⟨hctx.model, by simp⟩
    obtain ⟨htarget, htidy⟩ := follow_closed hc hdocument hctx hfollow
    exact ⟨htarget, htidy, Text.startsWith_of_segments hsegments hname⟩

/-- What a path leads to is a closed expression, and the text of the path looks like no
operator. -/
theorem fieldExpr_closed (hc : c.IsPlain) {e : Value}
    {type : ValueType} (hctx : ctx.IsTidy c.config)
    (h : c.fieldExpr ctx path = .ok ((e, type), ctx')) :
    e.Closed vars ∧ ctx'.IsTidy c.config ∧ isOperatorName path = false := by
  obtain ⟨ending, hend, rfl⟩ := fieldExpr_ok h
  obtain ⟨(htarget : ending.target.Closed vars), htidy, hpath⟩ := followPath_closed hc hctx hend
  exact ⟨htarget.render, htidy, hpath⟩

theorem resolveLookup_closed (hc : c.IsPlain)
    {r : Resolved} (hctx : ctx.IsTidy c.config) (h : c.resolveLookup ctx path = (.ok r, ctx')) :
    r.target.Closed vars ∧ ctx'.IsTidy c.config := by
  obtain ⟨ending, hend, hr⟩ := resolveLookup_ok h
  obtain ⟨rfl, -⟩ := compared_ok hr
  obtain ⟨(htarget : ending.target.Closed vars), htidy, -⟩ := followPath_closed hc hctx hend
  exact ⟨htarget, htidy⟩

end Compiler

end DocQuery
