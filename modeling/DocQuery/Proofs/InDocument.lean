import DocQuery.Proofs.Routes
set_option autoImplicit false

/-!
# Proofs: filters on documents mean what they say

A filter that stays in the documents of a model is compiled to an expression without stages in
front of it. On every document of the model the expression evaluates to the direct reading of
the filter.
-/

namespace DocQuery

open Value
open Operator (found truth)

/-! ## Lookups on the items of an array -/

namespace Value

/-- A literal that is there is equal only to values that are there. -/
theorem compare_eq_present {x : Value} (hx : x.isNull = false) (y : Value) :
    (x.compare y == .eq) = (present (some y)).any fun w => x.compare w == .eq := by
  cases y with
  | null => cases x <;> first | rfl | simp [isNull] at hx
  | _ => rfl

theorem itemsOf_of_present {x source : Option Value} (h : present x = source) :
    itemsOf x = itemsOf source := by
  rw [← h]
  rcases x with _ | u
  · rfl
  · cases u <;> rfl

/-- A body that decides a condition for each item gives the list of what it decides. -/
theorem mapItems_of_decides {body : Value} {scope : Value → Scope} {b : Value → Bool}
    {items : List Value} (h : ∀ item ∈ items, Decides (scope item) body (b item)) :
    mapItems (fun item => eval body (scope item)) items = .ok (items.map fun item =>
        .bool (b item)) := by
  induction items with
  | nil => rfl
  | cons item rest ih =>
    have hitem : eval body (scope item) = .ok (some (.bool (b item))) :=
      h item List.mem_cons_self
    simp only [mapItems, hitem, ih fun i hi => h i (List.mem_cons_of_mem item hi),
      List.map_cons, Option.getD_some]

/-- A body that shows a value for each item gives a list of the same values. -/
theorem exists_mapItems_of_shows {s : Schema} {body : Value} {scope : Value → Scope}
    {type : ValueType} {read : Value → Option Value} {items : List Value}
    (h : ∀ item ∈ items, Shows s (scope item) body type (read item)) :
    ∃ ys, mapItems (fun item => eval body (scope item)) items = .ok ys ∧
      items.map read = ys.map fun y => present (some y) := by
  induction items with
  | nil => exact ⟨[], rfl, rfl⟩
  | cons item rest ih =>
    obtain ⟨ys, hys, hread⟩ := ih fun i hi => h i (List.mem_cons_of_mem item hi)
    obtain ⟨x, hx, hv⟩ := (h item List.mem_cons_self).evaluates
    refine ⟨x.getD .null :: ys, by simp only [mapItems, hx, hys], ?_⟩
    have hnull : present (some (x.getD .null)) = present x := by cases x <;> rfl
    simp only [List.map_cons, hread, hnull, hv]

end Value

namespace Lookup

/-- The literal of a lookup on whole lists evaluates to the list. -/
theorem exists_items_of_literal {l : Lookup} {kind : ScalarKind} {v w : Value} (scope : Scope)
    (hwhole : l = .all ∨ l = .containedBy) (hexact : kind.isExact = true)
    (hfits : l.fits kind v = true) (hliteral : l.literal (some kind) v = .ok w) :
    eval w scope = .ok (some (.array v.listed)) ∧ ∀ x ∈ v.listed, x.isNull = false := by
  have hlist : ∃ items, v = .array items ∧ ∀ x ∈ items, x.isOfKind kind = true := by
    rcases hwhole with rfl | rfl <;> exact exists_items_of_any hfits
  obtain ⟨items, rfl, hitems⟩ := hlist
  have hw : w = (Value.array items).protect := by
    rcases hwhole with rfl | rfl <;>
      exact eq_protect_of_listLiteral hexact (fun x hx => .inr (hitems x hx)) hliteral
  subst hw
  exact ⟨eval_protect _ scope, fun x hx => isNull_of_isOfKind (hitems x hx)⟩

section Mapped

variable {items ys : List Value} {v : Value} {read : Value → Option Value}
  (hread : items.map read = ys.map fun y => present (some y))
include hread

/-- Every listed value is among those read if it is among those that are put into a list. -/
theorem holdsOfSome_all (hnull : ∀ a ∈ v.listed, a.isNull = false) :
    Lookup.all.holdsOfSome v (items.map read) =
      v.listed.all fun a => ys.any fun y => a.compare y == .eq := by
  simp only [holdsOfSome, hread, List.any_map, Function.comp_def]
  rw [Bool.eq_iff_iff, List.all_eq_true, List.all_eq_true]
  refine forall₂_congr fun a ha => ?_
  exact Bool.eq_iff_iff.mp (List.any_congr rfl (compare_eq_present (hnull a ha))).symm

theorem holdsOfSome_containedBy (hnull : ∀ a ∈ v.listed, a.isNull = false) :
    Lookup.containedBy.holdsOfSome v (items.map read) =
      ys.all fun y => v.listed.any fun a => y.compare a == .eq := by
  simp only [holdsOfSome, hread, List.all_map, Function.comp_def]
  exact (List.all_congr rfl fun y => any_compare?_eq (some y) hnull).symm

end Mapped

/-- A lookup of some item decides whether it holds of one of the values read. -/
theorem decides_someItem {l : Lookup} {array inner : Access} {scope : Scope} {v w : Value}
    {x : Option Value} {read : Value → Option Value} (hwhole : ¬(l = .all ∨ l = .containedBy))
    (hx : eval array.render scope = .ok x)
    (hshape : present x = none ∨ ∃ items, x = some (.array items))
    (h : ∀ item ∈ itemsOf x, Decides (scope.bind Access.itemName item)
      (l.build inner.render w) (l.holdsOf v (read item))) :
    Decides scope (l.someItem array inner w) (l.holdsOfSome v ((itemsOf x).map read)) := by
  have hmapped := eval_mapOf hx hshape (mapItems_of_decides h)
  have hany : Decides scope (l.someItem array inner w)
      (((itemsOf x).map fun item => Value.bool (l.holdsOf v (read item))).any isTruthy) :=
    eval_operator_one .anyElementTrue rfl hmapped
  have hdefinition : l.holdsOfSome v ((itemsOf x).map read) =
      ((itemsOf x).map read).any fun u => l.holdsOf v u := by
    cases l <;> first | rfl | simp at hwhole
  rw [hdefinition, List.any_map]
  simpa only [List.any_map, Function.comp_def, isTruthy] using hany

/-- A lookup on what is read from each item of an array decides what it means of the values
read. -/
theorem decides_buildMapped {s : Schema} {l : Lookup} {kind : ScalarKind} {array inner : Access}
    {items : String} {scope : Scope} {v w e : Value} {source : Option Value}
    {read : Value → Option Value} (hexact : kind.isExact = true) (hfits : l.fits kind v = true)
    (hliteral : l.literal (some kind) v = .ok w)
    (harray : Shows s scope array.render (.embeddedArray items) source)
    (hinner : ∀ item, s.conforms (.embedded items) item = true →
      Shows s (scope.bind Access.itemName item) inner.render inner.type (read item))
    (h : l.buildMapped (.each array inner) w = .ok e) :
    Decides scope e (l.holdsOfSome v ((itemsOf source).map read)) := by
  obtain ⟨x, hx, hsource, hshape⟩ := harray.array
  have hitems : itemsOf x = itemsOf source := itemsOf_of_present hsource
  have hconforms : ∀ item ∈ itemsOf x, s.conforms (.embedded items) item = true :=
    fun item hitem => harray.conforms_item (hitems ▸ hitem)
  rw [← hitems]
  by_cases hwhole : l = .all ∨ l = .containedBy
  · obtain ⟨hw, hnull⟩ := exists_items_of_literal scope hwhole hexact hfits hliteral
    obtain ⟨ys, hys, hread⟩ :=
      exists_mapItems_of_shows fun item hitem => hinner item (hconforms item hitem)
    have hmapped := eval_mapOf hx hshape hys
    simp only [buildMapped, if_pos hwhole, Except.ok.injEq] at h
    subst h
    rcases hwhole with rfl | rfl
    · rw [holdsOfSome_all hread hnull]
      exact Decides.subsetCheck hmapped hw hw hmapped
    · rw [holdsOfSome_containedBy hread hnull]
      exact Decides.subsetCheck hmapped hw hmapped hw
  · simp only [buildMapped, if_neg hwhole, Except.ok.injEq] at h
    subst h
    refine decides_someItem hwhole hx hshape fun item hitem => ?_
    have hshows := hinner item (hconforms item hitem)
    obtain ⟨y, hy, hv⟩ := hshows.evaluates
    rw [← hv]
    exact decides_build hexact hfits (fun hl => hwhole (.inl hl)) (fun hl => hwhole (.inr hl))
      hliteral hshows.single hy

theorem ne_whole_of_allowed {l : Lookup} {kind : ScalarKind}
    (h : (allowed (.scalar kind)).contains l = true) : l ≠ .all ∧ l ≠ .containedBy := by
  constructor <;> rintro rfl <;>
    cases kind <;> simp [allowed, ofScalar, numeric, textual, boolean] at h

/-- The predicate of a lookup decides what the lookup means of what the route reads. -/
theorem decides_buildOn {s : Schema} {model : String} {l : Lookup} {target : Access} {r : Route}
    {v w e doc : Value} (hsim : Simulates s model target r) (haccepts : r.accepts l v = true)
    (hallowed : (allowed target.type).contains l = true)
    (hliteral : l.literal target.type.scalar? v = .ok w) (h : l.buildOn target w = .ok e)
    (hdoc : s.conforms (.embedded model) doc = true) :
        Decides ⟨doc, []⟩ e (r.holds l v doc) := by
  cases hsim with
  | one a read hmapped hshows =>
    have hplain : l.build target.render w = e := by
      simp only [buildOn, hmapped] at h
      exact Except.ok.inj h
    subst hplain
    have hshown := hshows doc hdoc
    obtain ⟨x, hx, hv⟩ := hshown.evaluates
    simp only [Route.holds, ← hv]
    cases htype : target.type with
    | scalar kind =>
      simp only [htype, Route.accepts, Bool.and_eq_true, ValueType.scalar?] at haccepts hliteral
      obtain ⟨hall, hcontained⟩ := ne_whole_of_allowed (htype ▸ hallowed)
      exact decides_build haccepts.1 haccepts.2 hall hcontained hliteral hshown.single hx
    | embedded model =>
      simp only [htype, Route.accepts, Bool.and_eq_true, beq_iff_eq, ValueType.scalar?]
        at haccepts hliteral
      obtain ⟨rfl, hbool⟩ := haccepts
      cases v with
      | bool b =>
        obtain rfl := Except.ok.inj hliteral
        exact Decides.nullCheck hshown.single hx b
      | _ => simp [isBool] at hbool
    | embeddedArray model => simp [htype, Route.accepts] at haccepts
    | mapped element => simp [htype, ValueType.isMapped] at hmapped
  | each array inner items source read hmapped harray hinner =>
    cases htype : inner.type with
    | scalar kind =>
      simp only [htype, Route.accepts, Bool.and_eq_true, ValueType.scalar?, Access.type]
        at haccepts hliteral
      have hbuild : l.buildMapped (.each array inner) w = .ok e := h
      exact decides_buildMapped haccepts.1 haccepts.2 hliteral (harray doc hdoc)
        (fun item hitem => hinner doc item hitem) hbuild
    | _ => simp [htype, Route.accepts] at haccepts

end Lookup

/-! ## Filters -/

namespace Compiler

variable {c : Compiler} {model : String}

/-- A lookup with a literal, or a list of literals, on a path that stays in the documents. -/
theorem decides_lookup {ctx ctx' : Context} {path : String} {operand : Expr} {e : Value}
    (hplain : c.schema.hasPlainColumns = true) (hm : c.schema.model? model = some ctx.model)
    (hcomputed : ctx.annotations = [])
    (hinside : (Filter.lookup path operand).isInDocument c.schema ctx.model = true)
    (h : c.compileFilter ctx (.lookup path operand) = .ok (e, ctx')) :
    ctx' = ctx ∧ ∀ doc, c.schema.conforms (.embedded model) doc = true →
      Decides ⟨doc, []⟩ e ((Filter.lookup path operand).holds c.schema ctx.model doc) := by
  simp only [Filter.isInDocument, Filter.holds] at hinside ⊢
  split at hinside
  · rename_i r l v hroute hconstant
    replace h := compileFilter_of_constant hconstant h
    simp only [lookupWith] at h
    cases hres : c.resolveLookup ctx path with
    | mk result after =>
      rw [hres] at h
      cases result with
      | error err => simp at h
      | ok res =>
        obtain ⟨hsim, rfl, hjoins, hallowed, rfl⟩ :=
          resolveLookup_simulates hplain hm hcomputed hroute hinside hres
        have hnote : noteLookup res after = after := by
          simp [noteLookup, hjoins, Context.promote]
        simp only [hnote, literalOperand] at h
        cases hliteral : res.lookup.literal res.target.type.scalar? v with
        | error err => simp [hliteral] at h
        | ok w =>
          simp only [hliteral] at h
          cases hbuild : res.lookup.buildOn res.target w with
          | error err => simp [hbuild] at h
          | ok u =>
            simp only [hbuild, Except.ok.injEq, Prod.mk.injEq] at h
            obtain ⟨rfl, rfl⟩ := h
            exact ⟨rfl, fun doc hdoc =>
              Lookup.decides_buildOn hsim hinside hallowed hliteral hbuild hdoc⟩
  · simp at hinside

mutual

/-- The expression for a filter decides the direct reading of the filter, and nothing is added
to the context. -/
theorem decides_compileFilter (ctx : Context) {ctx' : Context} (f : Filter) {e : Value}
    (hplain : c.schema.hasPlainColumns = true) (hm : c.schema.model? model = some ctx.model)
    (hcomputed : ctx.annotations = []) (hinside : f.isInDocument c.schema ctx.model = true)
    (h : c.compileFilter ctx f = .ok (e, ctx')) :
    ctx' = ctx ∧ ∀ doc, c.schema.conforms (.embedded model) doc = true →
      Decides ⟨doc, []⟩ e (f.holds c.schema ctx.model doc) := by
  match f with
  | .lookup path operand => exact decides_lookup hplain hm hcomputed hinside h
  | .and filters =>
    simp only [compileFilter] at h
    cases hfilters : c.compileFilters ctx filters with
    | error err => simp [hfilters] at h
    | ok compiled =>
      obtain ⟨es, after⟩ := compiled
      simp only [hfilters, Except.ok.injEq, Prod.mk.injEq] at h
      obtain ⟨rfl, rfl⟩ := h
      rw [Filter.isInDocument] at hinside
      obtain ⟨rfl, heach⟩ := decide_compileFilters ctx filters hplain hm hcomputed
        hinside hfilters
      refine ⟨rfl, fun doc hdoc => ?_⟩
      rw [Filter.holds]
      exact .conjunction (heach doc hdoc)
  | .or filters =>
    simp only [compileFilter] at h
    cases hfilters : c.compileFilters ctx.enter filters with
    | error err => simp [hfilters] at h
    | ok compiled =>
      obtain ⟨es, after⟩ := compiled
      simp only [hfilters, Except.ok.injEq, Prod.mk.injEq] at h
      obtain ⟨rfl, rfl⟩ := h
      rw [Filter.isInDocument] at hinside
      obtain ⟨rfl, heach⟩ :=
        decide_compileFilters ctx.enter filters hplain hm hcomputed hinside hfilters
      refine ⟨Context.leave_enter ctx, fun doc hdoc => ?_⟩
      rw [Filter.holds]
      exact .disjunction (heach doc hdoc)
  | .not filter =>
    simp only [compileFilter] at h
    cases hfilter : c.compileFilter ctx.enter filter with
    | error err => simp [hfilter] at h
    | ok compiled =>
      obtain ⟨u, after⟩ := compiled
      simp only [hfilter, Except.ok.injEq, Prod.mk.injEq] at h
      obtain ⟨rfl, rfl⟩ := h
      rw [Filter.isInDocument] at hinside
      obtain ⟨rfl, hdecides⟩ :=
        decides_compileFilter ctx.enter filter hplain hm hcomputed hinside hfilter
      refine ⟨Context.leave_enter ctx, fun doc hdoc => ?_⟩
      rw [Filter.holds]
      exact .negation (hdecides doc hdoc)
  | .exists q => simp [Filter.isInDocument] at hinside

/-- The same for several filters. -/
theorem decide_compileFilters (ctx : Context) {ctx' : Context} (filters : List Filter)
    {es : List Value}
    (hplain : c.schema.hasPlainColumns = true) (hm : c.schema.model? model = some ctx.model)
    (hcomputed : ctx.annotations = [])
    (hinside : Filter.areInDocument c.schema ctx.model filters = true)
    (h : c.compileFilters ctx filters = .ok (es, ctx')) :
    ctx' = ctx ∧ ∀ doc, c.schema.conforms (.embedded model) doc = true →
      List.Forall₂ (Decides ⟨doc, []⟩) es (Filter.eachHolds c.schema ctx.model doc
          filters) := by
  match filters with
  | [] =>
    simp only [compileFilters, Except.ok.injEq, Prod.mk.injEq] at h
    obtain ⟨rfl, rfl⟩ := h
    exact ⟨rfl, fun doc _ => .nil⟩
  | f :: rest =>
    simp only [Filter.areInDocument, Bool.and_eq_true] at hinside
    simp only [compileFilters] at h
    cases hf : c.compileFilter ctx f with
    | error err => simp [hf] at h
    | ok compiled =>
      obtain ⟨e, between⟩ := compiled
      obtain ⟨rfl, hdecides⟩ := decides_compileFilter ctx f hplain hm hcomputed hinside.1 hf
      simp only [hf] at h
      cases hrest : c.compileFilters between rest with
      | error err => simp [hrest] at h
      | ok others =>
        obtain ⟨es', after⟩ := others
        simp only [hrest, Except.ok.injEq, Prod.mk.injEq] at h
        obtain ⟨rfl, rfl⟩ := h
        obtain ⟨rfl, heach⟩ := decide_compileFilters between rest hplain hm hcomputed
          hinside.2 hrest
        exact ⟨rfl, fun doc hdoc => .cons (hdecides doc hdoc) (heach doc hdoc)⟩

end

/-- A filter that stays in the documents of a model and compares with literals of the right
kinds is compiled to an expression without stages.  On every document of the model, the
expression evaluates to the direct reading of the filter. -/
theorem compileFilterOn_means_holds {m : Model} {f : Filter} {cond : Condition}
    (hm : c.schema.model? model = some m) (hplain : c.schema.hasPlainColumns = true)
    (hinside : f.isInDocument c.schema m = true) (h : c.compileFilterOn model f = .ok cond)
    {doc : Value} (hdoc : c.schema.conforms (.embedded model) doc = true) :
    cond.stages = [] ∧ cond.expr.evalOn doc = .ok (some (.bool (f.holds c.schema m doc))) := by
  simp only [compileFilterOn] at h
  cases hq : c.queryableModel model with
  | error err => simp [hq] at h
  | ok queried =>
    have hsame : queried = m := by
      have hqueried := ((queryableModel_eq_ok_iff c model queried).mp hq).1
      exact Option.some.inj (hqueried.symm.trans hm)
    subst hsame
    rw [hq] at h
    cases hf : c.compileFilter (.ofModel queried) f with
    | error err => simp [hf] at h
    | ok compiled =>
      obtain ⟨e, ctx⟩ := compiled
      simp only [hf, Except.ok.injEq] at h
      subst h
      obtain ⟨rfl, hdecides⟩ :=
        decides_compileFilter (.ofModel queried) f hplain hm rfl hinside hf
      exact ⟨rfl, hdecides doc hdoc⟩

/-- Shops with an address and a list of articles. -/
def shopModel : Model where
  name := "Shop"
  storedCollection := none
  embedded := false
  fields := [Model.primaryKey, ⟨"address", .embedded "Address", true, none⟩,
    ⟨"articles", .embeddedArray "Article", true, none⟩]

/-- Shops, with a city in each address and a price of each article. -/
def shops : Compiler where
  schema := ⟨[shopModel,
    ⟨"Address", none, true, [⟨"city", .scalar .string, true, none⟩]⟩,
    ⟨"Article", none, true, [⟨"price", .scalar .integer, true, none⟩]⟩]⟩
  config := .usual

/-- Shops with articles at two prices, in a city with an odd name, of which the first article is
not cheap. -/
def shopFilter : Filter :=
  .and [.lookup "articles__price__all" (.list [.literal (.int 7), .literal (.int 9)]),
    .or [.lookup "address__city" (.literal (.string "$x")), .and []],
    .not (.lookup "articles__0__price__lt" (.literal (.int 5)))]

/-- A shop that the filter holds of. -/
def shop : Value :=
  .object [("_id", .int 1), ("address", .object [("city", .string "$x")]),
    ("articles", .array [.object [("price", .int 9)], .null, .object [("price", .int 7)]])]

/-- The filter holds of the shop, and so does the expression that it is compiled to. -/
theorem shopFilter_means_holds : ∃ cond, shops.compileFilterOn "Shop" shopFilter = .ok cond ∧
    cond.stages = [] ∧ cond.expr.evalOn shop = .ok (some (.bool true)) := by
  have hinside : shopFilter.isInDocument shops.schema shopModel = true := by decide
  have hshop : shops.schema.conforms (.embedded "Shop") shop = true := by decide
  exact ⟨_, rfl, compileFilterOn_means_holds rfl (by decide) hinside rfl hshop⟩

end Compiler

end DocQuery
