import DocQuery.Proofs.Hygiene
set_option autoImplicit false

/-!
# Proofs: outer references to computed columns

The variables of a subquery are bound where its lookup runs, and the lookups of subqueries run
in front of the stages that compute columns.  So an outer reference to a computed column does
not see it:  it sees the field of that name as the documents come, which is mostly none.
-/

namespace DocQuery

open Value

/-! ## What an access reads -/

/-- The texts of paths that start at a field of a name or at the current item. -/
inductive Value.IsPathFrom (name : String) : String → Prop where
  | field : IsPathFrom name ("$" ++ name)
  | inside (rest : String) : IsPathFrom name ("$" ++ name ++ "." ++ rest)
  | item : IsPathFrom name ("$$" ++ Access.itemName)
  | insideItem (rest : String) : IsPathFrom name ("$$" ++ Access.itemName ++ "." ++ rest)

/-- An access that starts at a computed column, or in it at the current item. -/
inductive Access.StartsAt (name : String) : Access → Prop where
  | computed (type : ValueType) : StartsAt name (.computed name type)
  | item (type : ValueType) : StartsAt name (.item type)
  | key {base : Access} (member : String) (type : ValueType) (h : StartsAt name base) :
    StartsAt name (.key base member type)
  | jsonKey {base : Access} (member : String) (type : ValueType) (h : StartsAt name base) :
    StartsAt name (.jsonKey base member type)
  | index {base : Access} (position : Int64) (type : ValueType) (h : StartsAt name base) :
    StartsAt name (.index base position type)
  | slice {base : Access} (start stop : Int64) (type : ValueType) (h : StartsAt name base) :
    StartsAt name (.slice base start stop type)
  | length {base : Access} (type : ValueType) (h : StartsAt name base) :
    StartsAt name (.length base type)
  | each {base inner : Access} (hbase : StartsAt name base) (hinner : StartsAt name inner) :
    StartsAt name (.each base inner)

theorem Access.StartsAt.isKept (name : String) :
    Access.IsKept fun _ => Access.StartsAt name where
  item := fun type _ => .item type
  key := fun member type h => .key member type h
  jsonKey := fun member type h => .jsonKey member type h
  index := fun position type h => .index position type h
  slice := fun start stop type h => .slice start stop type h
  length := fun type h => .length type h
  each := by
    intro vars base inner
    constructor
    · rintro ⟨⟩
      exact ⟨‹_›, ‹_›⟩
    · exact fun h => .each h.1 h.2

/-- An expression that sees no more of a document than the field of a name. -/
def Value.SeesOnly (name : String) (e : Value) : Prop :=
  ∀ (row seen : Value) (vars : Document), row.items? = none → seen.items? = none →
    seen.field? name = row.field? name → eval e ⟨seen, vars⟩ = eval e ⟨row, vars⟩

namespace Value

variable {name : String}

theorem IsPathFrom.extend {text : String} (h : IsPathFrom name text) (member : String) :
    IsPathFrom name (text ++ "." ++ member) := by
  cases h with
  | field => exact .inside member
  | inside rest =>
    have hlonger := @IsPathFrom.inside name (rest ++ "." ++ member)
    rwa [← String.append_assoc, ← String.append_assoc] at hlonger
  | item => exact .insideItem member
  | insideItem rest =>
    have hlonger := @IsPathFrom.insideItem name (rest ++ "." ++ member)
    rwa [← String.append_assoc, ← String.append_assoc] at hlonger

/-- A path into a document that is no array starts in its field. -/
theorem walk_cons {v : Value} (h : v.items? = none) (names : List String) :
    v.walk (name :: names) = (v.field? name).bind fun w => w.walk names := by
  cases v with
  | object fields => exact walkField_eq fields name names
  | array items => simp [items?] at h
  | _ => rfl

theorem IsPathFrom.seesOnly (hplain : isOperatorName name = false) (hdots : '.' ∉ name.toList)
    {text : String} (h : IsPathFrom name text) : SeesOnly name (.string text) := by
  intro row seen vars hrow hseen hfield
  rw [eval_string, eval_string]
  cases h with
  | field =>
    rw [PathText.read_root _ hplain, PathText.read_root _ hplain, getPath, getPath,
      pathNames_of_plain hdots, walk_cons hseen, walk_cons hrow, hfield]
  | inside rest =>
    have hlonger : isOperatorName (name ++ "." ++ rest) = false :=
      Text.startsWith_append hplain rest
    have htext : "$" ++ name ++ "." ++ rest = "$" ++ (name ++ "." ++ rest) := by
      simp only [String.append_assoc]
    rw [htext, PathText.read_root _ hlonger, PathText.read_root _ hlonger, getPath, getPath,
      pathNames_front hdots, walk_cons hseen, walk_cons hrow, hfield]
  | item =>
    rw [PathText.read_variable, PathText.read_variable]
    rfl
  | insideItem rest =>
    have htext : "$$" ++ Access.itemName ++ "." ++ rest =
        "$$" ++ (Access.itemName ++ "." ++ rest) := by
      simp only [String.append_assoc]
    rw [htext, PathText.read_variable, PathText.read_variable, Scope.reference, Scope.reference,
      Text.splitOnce?_append (by decide)]
    rfl

/-! ## Operators -/

theorem seesOnly_int (i : Int64) : SeesOnly name (.int i) := by
  intro row seen vars _ _ _
  simp only [eval]

theorem SeesOnly.apply (op : Operator) {items : List Value} (h : ∀ e ∈ items, SeesOnly name e) :
    SeesOnly name (.operator op.name (.array items)) := by
  intro row seen vars hrow hseen hfield
  have hitems : evalItems items ⟨seen, vars⟩ = evalItems items ⟨row, vars⟩ := by
    induction items with
    | nil => rfl
    | cons e rest ih =>
      have hfirst := h e List.mem_cons_self row seen vars hrow hseen hfield
      have hrest := ih fun e he => h e (List.mem_cons_of_mem _ he)
      simp only [evalItems, hfirst, hrest]
  rw [eval_operator_array, eval_operator_array, hitems]

theorem SeesOnly.applySingle (op : Operator) {e : Value} (hsingle : e.items? = none)
    (h : SeesOnly name e) : SeesOnly name (.operator op.name e) := by
  intro row seen vars hrow hseen hfield
  rw [eval_operator_single op hsingle, eval_operator_single op hsingle,
    h row seen vars hrow hseen hfield]

theorem SeesOnly.choice {condition yes no : Value} (hcondition : SeesOnly name condition)
    (hyes : SeesOnly name yes) (hno : SeesOnly name no) :
    SeesOnly name (.operator "$cond" (.object [("if", condition), ("then", yes),
        ("else", no)])) := by
  intro row seen vars hrow hseen hfield
  rw [eval_choice, eval_choice, hcondition row seen vars hrow hseen hfield, hyes row seen vars
    hrow hseen hfield, hno row seen vars hrow hseen hfield]

theorem SeesOnly.fieldOf {e : Value} (h : SeesOnly name e) (member : String) :
    SeesOnly name (Access.fieldOf e member) := by
  intro row seen vars hrow hseen hfield
  rw [eval_fieldOf, eval_fieldOf, h row seen vars hrow hseen hfield]

theorem SeesOnly.lengthOf {e : Value} (hsingle : e.items? = none) (h : SeesOnly name e) :
    SeesOnly name (Access.lengthOf e) := by
  refine SeesOnly.choice (h.applySingle .isArray hsingle) (h.applySingle .size hsingle) ?_
  intro row seen vars _ _ _
  simp only [eval]

theorem SeesOnly.mapOf {array body : Value} (harray : SeesOnly name array)
    (hbody : SeesOnly name body) : SeesOnly name (Access.mapOf array body) := by
  intro row seen vars hrow hseen hfield
  have hitem : ∀ item, eval body (Scope.bind ⟨seen, vars⟩ Access.itemName item) =
      eval body (Scope.bind ⟨row, vars⟩ Access.itemName item) :=
    fun item => hbody row seen _ hrow hseen hfield
  rw [eval_mapOf_eq, eval_mapOf_eq, harray row seen vars hrow hseen hfield]
  simp only [hitem]

end Value

namespace Access

variable {name : String}

/-- Only a path is written as a text. -/
theorem StartsAt.isPathFrom {a : Access} (h : a.StartsAt name) {text : String}
    (htext : a.render = .string text) :
    IsPathFrom name text := by
  induction h generalizing text with
  | computed type =>
    obtain rfl := Value.string.inj htext
    exact .field
  | item type =>
    obtain rfl := Value.string.inj htext
    exact .item
  | @key base member type _ ih =>
    rw [render] at htext
    unfold keyOf at htext
    split at htext
    · rename_i path hpath
      obtain rfl := Value.string.inj htext
      exact (ih hpath).extend member
    · simp [fieldOf, operator] at htext
  | _ => simp [render, fieldOf, lengthOf, mapOf, operator] at htext

/-- An access is not written as a list. -/
theorem items?_render (a : Access) : a.render.items? = none := by
  cases a with
  | column joined member type => cases joined <;> rfl
  | key base member type =>
    rw [render]
    unfold keyOf
    split <;> rfl
  | _ => rfl

/-- An access that starts at a name sees nothing else of a document. -/
theorem StartsAt.seesOnly (hplain : isOperatorName name = false)
    (hdots : '.' ∉ name.toList) {a : Access}
    (h : a.StartsAt name) : a.render.SeesOnly name := by
  induction h with
  | computed type => exact IsPathFrom.field.seesOnly hplain hdots
  | item type => exact IsPathFrom.item.seesOnly hplain hdots
  | @key base member type hbase ih =>
    cases hpath : base.render with
    | string path =>
      rw [render, hpath]
      exact ((hbase.isPathFrom hpath).extend member).seesOnly hplain hdots
    | _ =>
      rw [hpath] at ih
      rw [render, hpath]
      exact ih.fieldOf member
  | jsonKey member type _ ih => exact ih.fieldOf member
  | index position type _ ih =>
    exact SeesOnly.apply .elementAt
      (List.forall_mem_cons.mpr ⟨ih, List.forall_mem_singleton.mpr (seesOnly_int _)⟩)
  | slice start stop type _ ih =>
    refine SeesOnly.apply .slice (List.forall_mem_cons.mpr ⟨ih, List.forall_mem_cons.mpr
      ⟨seesOnly_int _, ?_⟩⟩)
    exact List.forall_mem_singleton.mpr (seesOnly_int _)
  | @length base type _ ih => exact ih.lengthOf base.items?_render
  | each _ _ ihbase ihinner => exact ihbase.mapOf ihinner

end Access

/-! ## Variables of computed columns -/

namespace Compiler

open Context (Extends)
open Stage (boundValues)

variable {c : Compiler} {ctx ctx' : Context}

/-- A path that starts with the name of a computed column leads from that column. -/
theorem fieldExpr_computed_ok {name path : String} {e : Value} {type : ValueType}
    (hcomputed : (ctx.computedType? name).isSome = true)
    (hpath : (Text.segments path).head? = some name)
    (h : c.fieldExpr ctx path = .ok ((e, type), ctx')) :
    ∃ a : Access, a.StartsAt name ∧ e = a.render ∧
      (Text.segments path = [name] → e = .string ("$" ++ name)) := by
  obtain ⟨ending, hending, rfl⟩ := fieldExpr_ok h
  obtain ⟨first, rest, hsegments, -, hfollow⟩ := followPath_ok hending
  obtain rfl : first = name := by simpa [hsegments] using hpath
  rcases hfollow with ⟨computed, -, hfollow⟩ | ⟨hnone, -⟩
  · refine ⟨ending.target, ?_, rfl, fun halone => ?_⟩
    · exact @kept_follow _ _ (Access.StartsAt.isKept first) [] _ _ _ _ _ _ _
        (.computed computed) hfollow
    · obtain ⟨-, rfl⟩ := List.cons.inj (hsegments.symm.trans halone)
      obtain ⟨rfl, -⟩ := follow_value_nil_ok hfollow
      rfl
  · simp [hnone] at hcomputed

/-- The variable of an outer reference to a computed column, where it is bound for a row: what
its path leads to in the row, or null. -/
theorem BoundFor.value?_computed {name : String} {start : Context} {n : Nested}
    {bindings : Document}
    (hbindings : c.outerBindings ctx 0 n.outer = .ok (bindings, ctx'))
    (hctx : Extends c.config start ctx)
    (hcomputed : (ctx.computedType? name).isSome = true) (hname : '.' ∉ name.toList)
    (hoperator : isOperatorName name = false) (hfresh : ∀ k, c.config.subqueryField k ≠ name)
    {vars inner : Document} {row : Value} (hrow : row.items? = none)
    (h : BoundFor c.config bindings vars row inner) {i : Nat} {path : String}
    (hi : n.outer[i]? = some path)
    (hpath : (Text.segments path).head? = some name) :
    ∃ before e type after v, Extends c.config start before ∧
      c.fieldExpr before path = .ok ((e, type), after) ∧ e.eval ⟨row, vars⟩ = .ok v ∧
      Document.value? inner (c.config.parentVariable i) = some (v.getD .null) ∧
      (Text.segments path = [name] → v = row.field? name) := by
  obtain ⟨seen, hseen, hsingle, hinner⟩ := h
  obtain ⟨before, e, type, after, he, hbinding, hbefore, -⟩ :=
    outerBindings_getElem? hbindings hi
  rw [Nat.zero_add] at hbinding
  obtain ⟨a, hstarts, rfl, halone⟩ :=
    fieldExpr_computed_ok (hbefore.computed name hcomputed) hpath he
  rw [Stage.bound_eq] at hinner
  cases hvalues : Stage.computed ⟨seen, vars⟩ bindings with
  | error error => simp [hvalues, Except.map] at hinner
  | ok values =>
    rw [hvalues] at hinner
    obtain rfl := Except.ok.inj hinner
    have hnodup := nodup_outerBindings hbindings
    obtain ⟨v, hv, hvalue⟩ := value?_boundValues hvalues hnodup hbinding
    have hsame : eval a.render ⟨seen, vars⟩ = eval a.render ⟨row, vars⟩ :=
      hstarts.seesOnly hoperator hname row seen vars hrow (hsingle hrow) (hseen name hfresh)
    rw [hsame] at hv
    refine ⟨before, a.render, type, after, v, hctx.trans hbefore, he, hv, ?_,
      fun hsegments => ?_⟩
    · refine Document.value?_insertAll_of_nodup ?_ hvalue vars
      rwa [Stage.names_boundValues hvalues]
    · rw [halone hsegments, eval_string, PathText.read_root _ hoperator, getPath,
        pathNames_of_plain hname, walk_singleton row name hrow] at hv
      exact (Except.ok.inj hv).symm

/-- Outer references to a computed column do not see it.  Where the filter of a query with
computed columns mentions another query, the variable of a path that starts at such a column
holds for a row what the path leads to in the row as it is before the columns are computed, or
null. -/
theorem outer_reference_misses_computed {m : Model} {start final : Context}
    {outer q : Query} {p : Plan}
    {f : Filter} {name : String} (hdots : '.' ∉ c.config.subqueryPrefix.toList)
    (hplain : isOperatorName c.config.subqueryPrefix = false)
    (hstart : start = .ofModel m ∨ start = .ofSubquery m)
    (hcomputed : name ∈ outer.annotations.map (·.1))
    (hname : '.' ∉ name.toList) (hoperator : isOperatorName name = false)
    (hfresh : ∀ k, c.config.subqueryField k ≠ name) (hfilter : outer.filter = some f)
    (hmention : f.Mentions (.query q))
    (hplan : c.planWith start outer (fun ctx => c.compileAnnotations [] ctx outer.annotations)
      (fun ctx => c.compileCondition ctx outer.filter) = .ok (p, final)) :
    ∃ (n : Nested) (bindings : Document) (wrap : Bool) (k : Nat) (condition : Value),
      c.nested q = .ok n ∧ PlacedAt c.config final n bindings (n.placed q wrap) k ∧
      c.source final p = final.joins.flatMap (fun j => j.2.stages c.config) ++
        (final.subqueryStages ++ p.annotations) ++ [Stage.selectExpr condition] ∧
      (∀ g path, q.filter = some g → g.Mentions (.outer path) →
        ∃ i before type after, n.outer[i]? = some path ∧
          Extends c.config (.ofSubquery n.model) before ∧
          c.outerExpr before path = .ok ((.string ("$$" ++ c.config.parentVariable i),
            type), after)) ∧
      ∀ (store : Store) (vars : Document) (rows docs : List Value),
        (∀ row ∈ rows, row.items? = none) → Stage.runAll store (final.subqueryStages ++
          p.annotations) vars rows = .ok docs → List.Forall₂ (fun row doc => ∃ inner results,
          BoundFor c.config bindings vars row inner ∧
          Stage.runAll store (n.placed q wrap) inner (store.collection n.model.collection) =
            .ok results ∧
          ((∀ s ∈ p.annotations, s.Keeps (c.config.subqueryField k)) → results.length < 2 ^ 63 →
            doc.field? (c.config.subqueryField k) = some (firstResult results)) ∧
          ∀ i path, n.outer[i]? = some path → (Text.segments path).head? = some name →
            ∃ before e type after v, Extends c.config start before ∧
              c.fieldExpr before path = .ok ((e, type), after) ∧ e.eval ⟨row, vars⟩ = .ok v ∧
              Document.value? inner (c.config.parentVariable i) = some (v.getD .null) ∧
              (Text.segments path = [name] → v = row.field? name)) rows docs := by
  obtain ⟨n, bindings, wrap, k, condition, before, after, hn, hplaced, hbindings, hbefore,
    hknown, hadded, hsource⟩ := planned_mention_ok hstart hfilter hmention hplan
  refine ⟨n, bindings, wrap, k, condition, hn, hplaced, hsource,
    fun g path hg hpath => nested_mentions_outer hn hg hpath,
      fun store vars rows docs hrows hrun => ?_⟩
  have hrowwise : ∀ s ∈ p.annotations, s.IsRowwise := by
    intro s hs
    obtain ⟨fields, rfl⟩ := hadded s hs
    exact Stage.isRowwise_addFields fields
  have hall := hplaced.rows hdots hplain hrowwise hrun
  clear hrun
  induction hall with
  | nil => exact .nil
  | cons hrow _ ih =>
    obtain ⟨hsingle, hrest⟩ := List.forall_mem_cons.mp hrows
    obtain ⟨inner, results, hbound, hresults, hdoc⟩ := hrow
    refine .cons ⟨inner, results, hbound, hresults, hdoc, fun i path hi hpath => ?_⟩ (ih hrest)
    exact hbound.value?_computed hbindings hbefore (hknown name hcomputed) hname hoperator
      hfresh hsingle hi hpath

/-- Shelves and books. -/
def shelving : Compiler where
  schema := ⟨[⟨"Shelf", some "shelves", false, [Model.primaryKey]⟩,
    ⟨"Book", some "books", false, [Model.primaryKey, ⟨"size", .scalar .integer, true, none⟩]⟩]⟩
  config := .usual

/-- The books of the size that is asked for outside. -/
def booksOfSize : Query :=
    .mk "Book" (some (.lookup "size" (.outer "room"))) [] [] [] none none [] none

/-- The shelves, all with room for books of size five, for which there is a book. -/
def shelvesWithBook : Query :=
  .mk "Shelf" (some (.exists booksOfSize)) [("room", .literal (.int 5))] [] [] none none [] none

/-- A shelf and a book of size five. -/
def oneShelf : Store :=
  ⟨[("shelves", [.object [("_id", .int 7)]]),
    ("books", [.object [("_id", .int 1), ("size", .int 5)]])]⟩

/-- Whether a document's room is five. -/
def roomOfFive (doc : Value) : Bool :=
  match doc.field? "room" with
  | some (.int room) => room == 5
  | _ => false

theorem field?_of_roomOfFive {doc : Value} (h : roomOfFive doc = true) :
    doc.field? "room" = some (.int 5) := by
  unfold roomOfFive at h
  split at h
  · rename_i room hroom
    rw [hroom, eq_of_beq h]
  · simp at h

/-- The computed column is five when the filter is evaluated, but null where the question for a
book looks. -/
theorem oneShelf_bound_null :
    ∃ (p : Plan) (final : Context) (doc : Value) (n : Nested)
      (bindings inner : Document) (wrap : Bool) (k : Nat),
      shelving.planWith (.ofModel ⟨"Shelf", some "shelves", false, [Model.primaryKey]⟩)
        shelvesWithBook
        (fun ctx => shelving.compileAnnotations [] ctx shelvesWithBook.annotations)
        (fun ctx => shelving.compileCondition ctx shelvesWithBook.filter) = .ok (p, final) ∧
      Stage.runAll oneShelf (final.subqueryStages ++ p.annotations) []
        (oneShelf.collection "shelves") = .ok [doc] ∧
      doc.field? "room" = some (.int 5) ∧
      shelving.nested booksOfSize = .ok n ∧ n.outer = ["room"] ∧
      PlacedAt shelving.config final n bindings (n.placed booksOfSize wrap) k ∧
      BoundFor shelving.config bindings [] (.object [("_id", .int 7)]) inner ∧
      Document.value? inner (shelving.config.parentVariable 0) = some .null := by
  obtain ⟨p, final, hplan, hruns⟩ : ∃ (p : Plan) (final : Context),
      shelving.planWith (.ofModel ⟨"Shelf", some "shelves", false, [Model.primaryKey]⟩)
        shelvesWithBook
        (fun ctx => shelving.compileAnnotations [] ctx shelvesWithBook.annotations)
        (fun ctx => shelving.compileCondition ctx shelvesWithBook.filter) = .ok (p, final) ∧
      Stage.succeedsWith (fun docs => docs.map roomOfFive == [true])
        (Stage.runAll oneShelf (final.subqueryStages ++ p.annotations) []
          (oneShelf.collection "shelves")) = true := ⟨_, _, rfl, by decide +kernel⟩
  obtain ⟨docs, hdocs, hrooms⟩ := Stage.exists_of_succeedsWith hruns
  obtain ⟨doc, rest, rfl, hfive, hrest⟩ := List.map_eq_cons_iff.mp (eq_of_beq hrooms)
  obtain rfl := List.map_eq_nil_iff.mp hrest
  obtain ⟨n, hn, houter⟩ : ∃ n, shelving.nested booksOfSize = .ok n ∧
    n.outer = ["room"] := ⟨_, rfl, rfl⟩
  have hfresh : ∀ k, shelving.config.subqueryField k ≠ "room" := by
    intro k heq
    have hhead := congrArg (fun s => s.toList.head?) heq
    simp [shelving, Config.usual, Config.subqueryField] at hhead
  obtain ⟨n', bindings, wrap, k, condition, hn', hplaced, -, -, hrows⟩ :=
    outer_reference_misses_computed (c := shelving) (q := booksOfSize) (by decide) (by decide)
    (.inl rfl) (List.mem_singleton.mpr rfl) (by decide) (by decide) hfresh rfl
    (.exists rfl) hplan
  obtain rfl := Except.ok.inj (hn'.symm.trans hn)
  have hsingle : ∀ row ∈ oneShelf.collection "shelves", row.items? = none :=
    List.forall_mem_singleton.mpr rfl
  have hall := hrows oneShelf [] _ [doc] hsingle hdocs
  obtain ⟨⟨inner, results, hbound, -, -, hvariables⟩, -⟩ := List.forall₂_cons.mp hall
  obtain ⟨before, e, type, after, v, -, -, -, hvalue, halone⟩ :=
    hvariables 0 "room" (by rw [houter]; rfl) (by decide)
  rw [halone (by decide)] at hvalue
  exact ⟨p, final, doc, n', bindings, inner, wrap, k, hplan, hdocs, field?_of_roomOfFive
    hfive, hn, houter, hplaced, hbound, hvalue⟩

end Compiler

end DocQuery
