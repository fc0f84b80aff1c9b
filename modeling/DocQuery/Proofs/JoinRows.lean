import DocQuery.Proofs.Accesses
import DocQuery.Proofs.Relations
import DocQuery.Proofs.Rows
set_option autoImplicit false

/-!
# Proofs: what joins do to rows

A join adds to a row the document that the row refers to.  If there is none, then the row is
dropped or gets null.  Behind all joins a row still has the columns of its document, and under
each alias what the links of the join lead to.
-/

namespace DocQuery

open Value
open Operator (found)

/-! ## Stages on many rows -/

namespace Stage

theorem each_eq_map {α : Type} {step : Value → Except ExecError α} {f : Value → α}
    {docs : List Value}
    (h : ∀ doc ∈ docs, step doc = .ok (f doc)) : each step docs = .ok (docs.map f) := by
  rw [each_ok_iff, List.forall₂_map_right_iff, List.forall₂_same]
  exact h

theorem selected_of_decides {e : Value} {vars : Document} {p : Value → Bool} {docs : List Value}
    (h : ∀ doc ∈ docs, Decides ⟨doc, vars⟩ e (p doc)) :
    selected (.operator "$expr" e) vars docs = .ok (docs.filter p) := by
  induction docs with
  | nil => rfl
  | cons doc rest ih =>
    have hdoc : selects (.operator "$expr" e) ⟨doc, vars⟩ = .ok (p doc) := by
      rw [selects_expr, (h doc List.mem_cons_self).truthy]
    simp only [selected, hdoc, ih fun d hd => h d (List.mem_cons_of_mem doc hd),
      List.filter_cons]

end Stage

/-! ## Keys -/

/-- Of values no two of which have a property, at most the first one has it. -/
theorem filter_eq_find?_toList {α : Type} {p : α → Bool} {l : List α}
    (h : l.Pairwise fun a b => ¬(p a = true ∧ p b = true)) :
        l.filter p = (l.find? p).toList := by
  induction l with
  | nil => rfl
  | cons a rest ih =>
    obtain ⟨ha, hrest⟩ := List.pairwise_cons.mp h
    cases hp : p a with
    | true =>
      have hnone : rest.filter p = [] := List.filter_eq_nil_iff.mpr fun b hb hpb =>
        ha b hb ⟨hp, hpb⟩
      simp [hp, hnone]
    | false => simp [hp, ih hrest]

namespace Link

variable {link : Link} {store : Store} {docs : List Value}

theorem IsKeyed.filter_eq (h : link.IsKeyed store docs) {doc v : Value} (hdoc : doc ∈ docs)
    (hv : columnOf (some doc) link.column = some v) :
    (store.collection link.collection).filter (matchesKey v link.key) =
      ((store.collection link.collection).find? (matchesKey v link.key)).toList :=
  filter_eq_find?_toList (h.2 doc hdoc v hv)

/-- A document with a key is an object that holds it. -/
theorem IsKeyed.exists_key (h : link.IsKeyed store docs) {doc : Value}
    (hdoc : doc ∈ store.collection link.collection) :
    ∃ fields w, doc = .object fields ∧ Document.value? fields link.key = some w ∧
      w.isNull = false ∧ columnOf (some doc) link.key = some w := by
  obtain ⟨w, hw⟩ := Option.isSome_iff_exists.mp (h.1 doc hdoc)
  have hfield : doc.field? link.key = some w := eq_some_of_present hw
  cases doc with
  | object fields => exact ⟨fields, w, rfl, hfield, isNull_of_present hw, hw⟩
  | _ => simp [field?] at hfield

end Link

/-- The condition of a join decides whether a document has the key that a variable carries. -/
theorem decides_matchesKey {link : Link} {store : Store} {docs : List Value}
    (hkeyed : link.IsKeyed store docs)
    (hdots : '.' ∉ link.key.toList) (hdollars : isOperatorName link.key = false) {name : String}
    (hname : '.' ∉ name.toList) {vars : Document} {x : Option Value} {doc : Value}
    (hvalue : Scope.variableOf ⟨doc, vars⟩ name = .ok (x.getD .null))
    (hdoc : doc ∈ store.collection link.collection) :
    Decides ⟨doc, vars⟩
      (.operator "$and" (.array
        [.operator "$eq" (.array [.string ("$$" ++ name), .string ("$" ++ link.key)])]))
      ((present x).any fun v => matchesKey v link.key doc) := by
  obtain ⟨fields, w, rfl, hfield, hnull, hcolumn⟩ := hkeyed.exists_key hdoc
  have hvar : eval (.string ("$$" ++ name)) ⟨.object fields, vars⟩ =
      .ok (some (x.getD .null)) := by
    rw [eval_string, (PathText.bound name _ hname hvalue).read, walk_nil]
  have hkey : eval (.string ("$" ++ link.key)) ⟨.object fields, vars⟩ = .ok (some w) := by
    rw [eval_string, PathText.read_root _ hdollars, getPath_of_plain hdots, hfield]
  have hequal : Decides ⟨.object fields, vars⟩ (.operator "$eq" (.array
      [.string ("$$" ++ name), .string ("$" ++ link.key)])) _ :=
      Decides.comparison .eq hvar hkey
  have hall := Decides.and (.cons hequal .nil)
  have hmatch : ([Comparison.eq.holds (compare? (some (x.getD .null)) (some w))].all
    id : Bool) = (present x).any fun v => matchesKey v link.key (.object fields) := by
    have hmatches : ∀ v : Value, matchesKey v link.key (.object fields) =
        (v.compare w == .eq) := by
      intro v
      rw [matchesKey, hcolumn]
      rfl
    cases hx : present x with
    | none =>
      rcases eq_none_or_null_of_present hx with rfl | rfl <;>
        simp [compare?, Comparison.holds, compare_null_left hnull]
    | some v =>
      obtain rfl := eq_some_of_present hx
      simp [compare?, Comparison.holds, hmatches]
  rwa [hmatch] at hall

/-! ## One join -/

namespace Join

variable {store : Store} {config : Config} {j : Join} {rows : List Value}

/-- The documents that match a row, given the variables around the join. -/
def matchedWith (config : Config) (store : Store) (vars : Document) (j : Join) (row : Value) :
    Except ExecError (List Value) :=
  match Stage.bound ⟨row, vars⟩ vars (bindings config j.parentAlias 0 j.pairs) with
  | .error e => .error e
  | .ok inner =>
    Stage.runAll store [.selectExpr (.operator "$and" (.array (conditions config 0 j.pairs)))]
      inner (store.collection j.collection)

/-- The documents that match a row. -/
def matched (config : Config) (store : Store) (j : Join) (row : Value) :
    Except ExecError (List Value) :=
  match Stage.bound ⟨row, []⟩ [] (bindings config j.parentAlias 0 j.pairs) with
  | .error e => .error e
  | .ok vars =>
    Stage.runAll store [.selectExpr (.operator "$and" (.array (conditions config 0 j.pairs)))]
      vars (store.collection j.collection)

/-- The documents that a join adds to a row, each to a copy of its own, given those that
match. -/
def kept : JoinKind → List Value → List Value
  | .inner, results => results
  | .left, results => if countsZero results then [.null] else results

/-- The rows that a join makes of rows, given the documents that match each of them. -/
def spread (j : Join) (rows : List Value) (groups : List (List Value)) : List Value :=
  (rows.zip groups).flatMap fun pair => (kept j.kind pair.2).map (pair.1.setPath j.joined)

theorem run_lookupStage (vars : Document) (rows : List Value) :
    Stage.run store (lookupStage config j) vars rows =
    (Stage.each (j.matchedWith config store vars) rows).map fun groups =>
      (rows.zip groups).map fun pair => pair.1.setPath j.joined (.array pair.2) := by
  rw [lookupStage, Stage.run]
  induction rows with
  | nil => rfl
  | cons row rest ih =>
    simp only [Stage.each, ih, matchedWith]
    cases Stage.bound ⟨row, vars⟩ vars (bindings config j.parentAlias 0 j.pairs) with
    | error e => rfl
    | ok inner =>
      dsimp only
      cases Stage.runAll store
        [.selectExpr (.operator "$and" (.array (conditions config 0 j.pairs)))] inner
          (store.collection j.collection) with
      | error e => rfl
      | ok results =>
        dsimp only
        cases Stage.each (j.matchedWith config store vars) rest <;> rfl

/-- The stage of a left join that puts null in place of an empty result. -/
theorem run_placeholder {name : String} (hdollars : isOperatorName name = false)
    {vars : Document} (pairs : List (Value × List Value)) :
    Stage.run store (placeholder name) vars (pairs.map fun pair => pair.1.setPath name
      (.array pair.2)) = .ok (pairs.map fun pair => pair.1.setPath name
      (.array (kept .left pair.2))) := by
  have hrow : ∀ pair : Value × List Value, Stage.addComputed [(name, choice
      (isEmptyArray (.string ("$" ++ name))) (.array [.null]) (.string ("$" ++ name)))] vars
      (pair.1.setPath name (.array pair.2)) =
          .ok (pair.1.setPath name (.array (kept .left pair.2))) := by
    rintro ⟨row, results⟩
    have hpath : eval (.string ("$" ++ name)) ⟨row.setPath name (.array results), vars⟩ =
        .ok (some (.array results)) := by
      rw [eval_string, PathText.read_root _ hdollars, getPath_setPath]
    have hnull : eval (.array [.null]) ⟨row.setPath name (.array results), vars⟩ =
        found (.array [.null]) := by
      simp [eval, evalItems, found]
    have hvalue : eval (choice (isEmptyArray (.string ("$" ++ name))) (.array [.null])
        (.string ("$" ++ name))) ⟨row.setPath name (.array results), vars⟩ =
        found (.array (kept .left results)) := by
      rw [choice, eval_cond (Decides.isEmptyArray rfl hpath), hpath, hnull, kept]
      cases countsZero results <;> rfl
    simp only [Stage.addComputed, Stage.computed, hvalue, found, Except.map, List.foldl_cons,
      List.foldl_nil, Stage.setComputed, setPath_setPath]
  rw [placeholder, Stage.run, Stage.each_ok_iff, List.forall₂_map_left_iff,
    List.forall₂_map_right_iff, List.forall₂_same]
  exact fun pair _ => hrow pair

theorem unwound_spread (name : String) (row : Value) (results : List Value) :
    Stage.unwound name false (row.setPath name (.array results)) =
        results.map (row.setPath name) := by
  unfold Stage.unwound
  rw [getPath_setPath]
  cases results with
  | nil => rfl
  | cons item rest => simp only [setPath_setPath]

/-- A join makes of each row a copy for each document that it adds to it. -/
theorem run_stages_with (hdollars : j.kind = .left → isOperatorName j.joined = false)
    (vars : Document) (rows : List Value) :
    Stage.runAll store (j.stages config) vars rows =
      (Stage.each (j.matchedWith config store vars) rows).map (j.spread rows) := by
  have hunwound : ∀ pairs : List (Value × List Value),
      (pairs.map fun pair => pair.1.setPath j.joined (.array pair.2)).flatMap
        (Stage.unwound j.joined false) = pairs.flatMap fun pair => pair.2.map
        (pair.1.setPath j.joined) := by
    intro pairs
    simp only [List.flatMap_map, unwound_spread]
  unfold stages
  cases hkind : j.kind with
  | inner =>
    simp only [Stage.runAll, run_lookupStage]
    cases Stage.each (j.matchedWith config store vars) rows with
    | error e => rfl
    | ok groups =>
      simp only [Except.map, Stage.unwindAll, Stage.run, hunwound]
      simp only [spread, hkind, kept]
  | left =>
    simp only [Stage.runAll, run_lookupStage]
    cases Stage.each (j.matchedWith config store vars) rows with
    | error e => rfl
    | ok groups =>
      have hrows := unwound_spread j.joined
      simp only [Except.map, run_placeholder (hdollars hkind), Stage.unwindAll, Stage.run,
        List.flatMap_map, hrows]
      simp only [spread, hkind]

/-- The same where no variables are bound around the join. -/
theorem run_stages (hdollars : isOperatorName j.joined = false) (rows : List Value) :
    Stage.runAll store (j.stages config) [] rows =
      (Stage.each (j.matched config store) rows).map (j.spread rows) :=
  run_stages_with (fun _ => hdollars) [] rows

end Join

namespace Hop

variable {h : Hop} {store : Store} {row : Value}

/-- The document that a row has under an alias, or the row itself. -/
def documentAt (joined : Option String) (row : Value) : Option Value :=
  match joined with
  | none => some row
  | some name => present (row.field? name)

/-- Whether the document under an alias, or the row itself, can be read: it is no array. -/
def Readable (joined : Option String) (row : Value) : Prop :=
  match joined with
  | none => row.items? = none
  | some name => ∃ v, row.field? name = some v ∧ v.items? = none

/-- Whether a row refers to a document by a value that one of some documents has. -/
structure Refers (h : Hop) (docs : List Value) (row : Value) : Prop where
  readable : Readable h.parent row
  stored : ∀ v, columnOf (documentAt h.parent row) h.link.column = some v →
    ∃ doc ∈ docs, columnOf (some doc) h.link.column = some v

/-- The document that a row refers to. -/
def found? (h : Hop) (store : Store) (row : Value) : Option Value :=
  (documentAt h.parent row).bind (store.target? h.link)

/-- The row with the document that it refers to.  Without one an inner join drops the row. -/
def attach (h : Hop) (store : Store) (kind : JoinKind) (row : Value) : Option Value :=
  match h.found? store row, kind with
  | some doc, _ => some (row.setPath h.joined doc)
  | none, .inner => none
  | none, .left => some (row.setPath h.joined .null)

/-- Whether the names of a hop can stand in paths as they are. -/
structure IsPlain (h : Hop) : Prop where
  column : '.' ∉ h.link.column.toList ∧ '$' ∉ h.link.column.toList
  key : '.' ∉ h.link.key.toList ∧ '$' ∉ h.link.key.toList
  joined : '.' ∉ h.joined.toList ∧ '$' ∉ h.joined.toList
  parent : ∀ name, h.parent = some name → '.' ∉ name.toList ∧ '$' ∉ name.toList

theorem eval_parentPath_none {column : String}
    (hcolumn : '.' ∉ column.toList ∧ '$' ∉ column.toList)
    (hrow : row.items? = none) (vars : Document) :
    eval (.string (Join.parentPath none column)) ⟨row, vars⟩ = .ok (row.field? column) := by
  rw [eval_string, Join.parentPath, PathText.read_root _ (isOperatorName_of_notMem hcolumn.2),
    getPath, pathNames_of_plain hcolumn.1, walk_singleton _ _ hrow]

theorem eval_parentPath_some {name column : String}
    (hname : '.' ∉ name.toList ∧ '$' ∉ name.toList)
    (hcolumn : '.' ∉ column.toList ∧ '$' ∉ column.toList) {v : Value}
    (hv : row.field? name = some v)
    (hitems : v.items? = none) (vars : Document) :
    eval (.string (Join.parentPath (some name) column)) ⟨row, vars⟩ =
        .ok (v.field? column) := by
  have hstart := Text.startsWith_append (isOperatorName_of_notMem hname.2) column
  have htext : Join.parentPath (some name) column = "$" ++ (name ++ "." ++ column) := by
    simp only [Join.parentPath, String.append_assoc]
  cases row with
  | object fields =>
    have hvalue : Document.value? fields name = some v := hv
    rw [eval_string, htext, PathText.read_root _ hstart, getPath_front hname.1, hvalue,
      Option.bind_some, getPath, pathNames_of_plain hcolumn.1, walk_singleton _ _ hitems]
  | _ => simp [field?] at hv

/-- The path of a column reads it from the document under an alias, or from the row itself. -/
theorem eval_parentPath {joined : Option String} {column : String}
    (hcolumn : '.' ∉ column.toList ∧ '$' ∉ column.toList)
    (hjoined : ∀ name, joined = some name → '.' ∉ name.toList ∧ '$' ∉ name.toList)
    (hread : Readable joined row) (vars : Document) :
    ∃ x, eval (.string (Join.parentPath joined column)) ⟨row, vars⟩ = .ok x ∧
      present x = columnOf (documentAt joined row) column := by
  cases joined with
  | none => exact ⟨row.field? column, eval_parentPath_none hcolumn hread vars, rfl⟩
  | some name =>
    obtain ⟨v, hv, hitems⟩ := hread
    refine ⟨v.field? column, eval_parentPath_some (hjoined name rfl) hcolumn hv hitems vars, ?_⟩
    rw [documentAt, hv, columnOf_present]
    rfl

theorem found?_eq (h : Hop) (store : Store) (row : Value) :
    h.found? store row = (columnOf (documentAt h.parent row) h.link.column).bind fun v =>
      (store.collection h.link.collection).find? (matchesKey v h.link.key) := by
  unfold found?
  cases documentAt h.parent row <;> rfl

/-- The document that a row refers to is the only one that matches it. -/
theorem matched_eq {entry : String × Join} (hdescribes : h.Describes entry) (hplain : h.IsPlain)
    (htypes : h.types.1 = h.types.2) {docs : List Value} (hkeyed : h.link.IsKeyed store docs)
    {config : Config}
    (hconfig : '.' ∉ config.parentPrefix.toList) (hrow : h.Refers docs row) :
    entry.2.matched config store row = .ok (h.found? store row).toList := by
  have hpairs := hdescribes.pairs
  have hname : '.' ∉ (config.parentVariable 0).toList := by
    rw [Config.parentVariable]
    exact notMem_numbered (by decide) hconfig 0
  have hroot : Scope.isRootName (config.parentVariable 0) = false :=
    isRootName_numbered config.parentPrefix 0
  obtain ⟨x, hx, hpresent⟩ := eval_parentPath hplain.column hplain.parent hrow.readable []
  have hbound : Stage.bound ⟨row, []⟩ [] (Join.bindings config entry.2.parentAlias 0
    entry.2.pairs) = .ok [(config.parentVariable 0, x.getD .null)] := by
    simp [hpairs, hdescribes.parent, Join.bindings, Join.parentKey, Join.key,
      htypes, Stage.bound, hx, Document.insert]
  have hdecides : ∀ doc ∈ store.collection h.link.collection,
      Decides ⟨doc, [(config.parentVariable 0, x.getD .null)]⟩
        (.operator "$and" (.array (Join.conditions config 0 entry.2.pairs)))
        ((present x).any fun v => matchesKey v h.link.key doc) := by
    intro doc hdoc
    have hvalue : Scope.variableOf ⟨doc, [(config.parentVariable 0, x.getD .null)]⟩
        (config.parentVariable 0) = .ok (x.getD .null) := by
      simp [Scope.variableOf, hroot, Document.value?]
    have hmatches := decides_matchesKey hkeyed hplain.key.1
      (isOperatorName_of_notMem hplain.key.2) hname hvalue hdoc
    simpa [hpairs, Join.conditions, Join.childKey, Join.key, htypes] using hmatches
  rw [Join.matched, hbound, hdescribes.collection]
  simp only [Stage.runAll, Stage.selectExpr, Stage.run, Stage.selected_of_decides hdecides]
  rw [found?_eq, ← hpresent]
  cases hx : present x with
  | none => simp
  | some v =>
    obtain ⟨d, hd, hv⟩ := hrow.stored v (hpresent.symm.trans hx)
    simpa using hkeyed.filter_eq hd hv

/-- Of the one document that matches a row, or of none, a join makes at most one row. -/
theorem kept_found {kind : JoinKind} {joined : String} (hjoined : h.joined = joined) :
    (Join.kept kind (h.found? store row).toList).map (row.setPath joined) =
        (h.attach store kind row).toList := by
  subst hjoined
  have hcount : countsZero (h.found? store row).toList = (h.found? store row).isNone := by
    rw [countsZero_eq (by cases h.found? store row <;> simp)]
    cases h.found? store row <;> rfl
  unfold attach
  cases kind with
  | inner => cases h.found? store row <;> rfl
  | left =>
    rw [Join.kept, hcount]
    cases h.found? store row <;> rfl

/-- A join adds to each row the document that the row refers to. -/
theorem run_stages {entry : String × Join} (hdescribes : h.Describes entry) (hplain : h.IsPlain)
    (htypes : h.types.1 = h.types.2) {docs : List Value} (hkeyed : h.link.IsKeyed store docs)
    {config : Config}
    (hconfig : '.' ∉ config.parentPrefix.toList) {rows : List Value}
    (hrows : ∀ row ∈ rows, h.Refers docs row) :
    Stage.runAll store (entry.2.stages config) [] rows =
      .ok (rows.filterMap (h.attach store entry.2.kind)) := by
  have hmatched : Stage.each (entry.2.matched config store) rows =
      .ok (rows.map fun row => (h.found? store row).toList) :=
    Stage.each_eq_map fun row hrow => matched_eq hdescribes hplain htypes hkeyed hconfig
      (hrows row hrow)
  have hjoined := hdescribes.joined
  rw [Join.run_stages (hjoined ▸ isOperatorName_of_notMem hplain.joined.2), hmatched]
  have hpairs : rows.zip (rows.map fun row => (h.found? store row).toList) =
      rows.map fun row => (row, (h.found? store row).toList) := by
    simpa using List.zip_map' (f := id) (g := fun row => (h.found? store row).toList) (l :=
      rows)
  simp only [Except.map, Join.spread, hpairs, List.flatMap_map,
    List.filterMap_eq_flatMap_toList, kept_found hjoined.symm]

/-! ## All joins -/

/-- A row as it comes out of the joins of some hops: it has the own fields of its document, and
under each alias what the links of the hop lead to. -/
structure RowOf (s : Schema) (m : Model) (hops : List Hop) (store : Store)
    (doc row : Value) : Prop where
  items : row.items? = none
  own : ∀ key, IsOwn s m key → row.field? key = doc.field? key
  joined : ∀ hop ∈ hops, ∃ v, row.field? hop.joined = some v ∧ v.items? = none ∧
    present (some v) = store.follow? doc hop.links

theorem RowOf.mono {s : Schema} {m : Model} {hops more : List Hop} {doc : Value}
    (hrow : RowOf s m (hops ++ more) store doc row) : RowOf s m hops store doc row where
  items := hrow.items
  own := hrow.own
  joined := fun hop hhop => hrow.joined hop (List.mem_append_left more hhop)

end Hop

namespace Store

theorem follow?_snoc (store : Store) (doc : Value) (links : List Link) (link : Link) :
    store.follow? doc (links ++ [link]) =
        (store.follow? doc links).bind (store.target? link) := by
  induction links generalizing doc with
  | nil => simp [follow?]
  | cons first rest ih =>
    simp only [List.cons_append, follow?]
    cases store.target? first doc with
    | none => rfl
    | some next => exact ih next

theorem mem_of_target? {store : Store} {link : Link} {doc v : Value}
    (h : store.target? link doc = some v) : v ∈ store.collection link.collection := by
  obtain ⟨_, -, hfind⟩ := Option.bind_eq_some_iff.mp h
  exact List.mem_of_find?_eq_some hfind

/-- Relations lead into the collection of their last model. -/
theorem mem_of_follow? {s : Schema} {store : Store} {m last : Model} {names : List String}
    {links : List Link} (hroute : s.relations? m names = some (links, last)) {doc v : Value}
    (hdoc : doc ∈ store.collection m.collection) (h : store.follow? doc links = some v) :
    v ∈ store.collection last.collection := by
  induction names generalizing m links doc with
  | nil =>
    obtain ⟨rfl, rfl⟩ := Prod.mk.inj (Option.some.inj hroute)
    exact Option.some.inj h ▸ hdoc
  | cons name rest ih =>
    obtain ⟨f, link, t, others, -, hlink, hrest, rfl⟩ := Schema.relations?_cons hroute
    obtain ⟨next, hnext, hfollow⟩ := Option.bind_eq_some_iff.mp h
    obtain ⟨_, _, _, k, -, -, -, rfl⟩ := Schema.link?_ok hlink
    exact ih hrest (mem_of_target? hnext) hfollow

end Store

namespace Hop

variable {s : Schema} {m target : Model} {h : Hop} {hops : List Hop} {store : Store}
  {doc row : Value}

/-- Where names lead, a row has the document that the links lead to. -/
theorem RowOf.reaches (hrow : RowOf s m hops store doc row) {names : List String}
    {front : List Link}
    {joined : Option String} (hreach : Reaches hops names front joined) {column : String}
    (hcolumn : names = [] → IsOwn s m column) :
    Readable joined row ∧
      columnOf (documentAt joined row) column = columnOf (store.follow? doc front) column := by
  rcases hreach with ⟨rfl, rfl, rfl⟩ | ⟨p, hp, rfl, -, rfl⟩
  · refine ⟨hrow.items, ?_⟩
    simp only [documentAt, Store.follow?, columnOf, Option.bind_some,
      hrow.own column (hcolumn rfl)]
  · obtain ⟨v, hv, hitems, hfollow⟩ := hrow.joined p hp
    exact ⟨⟨v, hv, hitems⟩, by rw [documentAt, hv, hfollow]⟩

/-- A row refers to the document that the links of the hop lead to. -/
theorem RowOf.refers (hrow : RowOf s m hops store doc row)
    (hdoc : doc ∈ store.collection m.collection)
    {m' : Model} {f : Field} (hfront : s.relations? m h.names.dropLast = some (h.front, m'))
    (hf : f ∈ m'.fields) (hlink : s.link? f = some (h.link, target))
    (hparent : Reaches hops h.names.dropLast h.front h.parent) :
    h.Refers (store.collection m'.collection) row ∧
    h.found? store row = store.follow? doc h.links := by
  have hown : h.names.dropLast = [] → IsOwn s m h.link.column := by
    intro hnames
    rw [hnames] at hfront
    obtain ⟨-, rfl⟩ := Prod.mk.inj (Option.some.inj hfront)
    obtain ⟨_, _, _, _, -, -, -, heq⟩ := Schema.link?_ok hlink
    rw [heq]
    exact isOwn_column hf
  obtain ⟨hread, hcolumn⟩ := hrow.reaches hparent hown
  refine ⟨⟨hread, fun v hv => ?_⟩, ?_⟩
  · rw [hcolumn] at hv
    cases hd : store.follow? doc h.front with
    | none => simp [hd, columnOf, present] at hv
    | some d => exact ⟨d, Store.mem_of_follow? hfront hdoc hd, hd ▸ hv⟩
  · rw [Hop.found?_eq, hcolumn, links, Store.follow?_snoc]
    cases store.follow? doc h.front <;> rfl

/-- Documents that links lead to are objects. -/
theorem object_of_target? {link : Link} {docs : List Value}
    (hkeyed : link.IsKeyed store docs) {v : Value}
    (hv : store.target? link doc = some v) : v.items? = none ∧ present (some v) = some v := by
  obtain ⟨fields, w, rfl, -⟩ := hkeyed.exists_key (Store.mem_of_target? hv)
  exact ⟨rfl, rfl⟩

theorem field?_setPath_alias {name x : String} (hname : '.' ∉ name.toList) (hne : x ≠ name)
    (row v : Value) : (row.setPath name v).field? x = row.field? x := by
  refine field?_setPath_ne ?_ row v
  rw [pathNames_of_plain hname]
  simpa using Ne.symm hne

/-- A row gets, under the alias, the document that it refers to, or null if there is none. -/
theorem exists_of_attach {docs : List Value} (hkeyed : h.link.IsKeyed store docs)
    {kind : JoinKind} {out : Value} (hout : h.attach store kind row = some out) :
    ∃ v, out = row.setPath h.joined v ∧ v.items? = none ∧
      present (some v) = h.found? store row := by
  unfold Hop.attach at hout
  cases hv : h.found? store row with
  | none =>
    rw [hv] at hout
    cases kind with
    | inner => simp at hout
    | left => exact ⟨.null, (Option.some.inj hout).symm, rfl, rfl⟩
  | some v =>
    rw [hv] at hout
    obtain ⟨d, -, htarget⟩ := Option.bind_eq_some_iff.mp hv
    obtain ⟨hitems, hpresent⟩ := object_of_target? hkeyed htarget
    exact ⟨v, (Option.some.inj hout).symm, hitems, hpresent⟩

/-- The row with the document that it refers to is one behind one more join. -/
theorem RowOf.attach (hrow : RowOf s m hops store doc row) {docs : List Value}
    (hkeyed : h.link.IsKeyed store docs)
    (hfound : h.found? store row = store.follow? doc h.links) (hdots : '.' ∉ h.joined.toList)
    (hown : ¬IsOwn s m h.joined) (hnew : ∀ p ∈ hops, h.joined ≠ p.joined) {kind : JoinKind}
    {out : Value} (hout : h.attach store kind row = some out) :
    RowOf s m (hops ++ [h]) store doc out := by
  obtain ⟨v, rfl, hitems, hpresent⟩ := exists_of_attach hkeyed hout
  have hframe := fun (key : String) (hne : key ≠ h.joined) => field?_setPath_alias
    hdots hne row v
  refine ⟨by rw [setPath_of_plain hdots]; rfl, fun key hkey => ?_, fun hop hhop => ?_⟩
  · rw [hframe key fun heq => hown (heq ▸ hkey), hrow.own key hkey]
  · rcases List.mem_append.mp hhop with hold | hlast
    · rw [hframe hop.joined (Ne.symm (hnew hop hold))]
      exact hrow.joined hop hold
    · obtain rfl := List.mem_singleton.mp hlast
      exact ⟨v, field?_setPath_self hdots row v, hitems, hpresent.trans hfound⟩

/-- The names of hops can stand in paths as they are, if those of the schema can. -/
theorem Leads.isPlain (hleads : Leads s m hops) (hplain : s.hasPlainCollections = true)
    (hm : m ∈ s.models) : ∀ hop ∈ hops, hop.IsPlain := by
  induction hleads with
  | nil => simp
  | @snoc hops h target _ _ hroute _ hparent _ _ hdots hdollars ih =>
    refine List.forall_mem_append.mpr ⟨ih, List.forall_mem_singleton.mpr ?_⟩
    obtain ⟨m', f, hfront, hf, hlink⟩ := Schema.relations?_snoc_ok hroute
    obtain ⟨_, _, _, k, -, ht, hk, heq⟩ := Schema.link?_ok hlink
    have hm' := Schema.mem_models_of_relations? hm hfront
    have hcolumn := (Schema.plain_of_hasPlainCollections hplain hm').2.2 f hf
    have hkey := (Schema.plain_of_hasPlainCollections hplain (List.mem_of_find?_eq_some ht)).2.2
      k (List.mem_of_find?_eq_some hk)
    refine ⟨heq ▸ hcolumn, heq ▸ hkey, ⟨hdots, hdollars⟩, fun name hname => ?_⟩
    rcases hparent with ⟨hnone, -⟩ | ⟨p, hp, hsome, -⟩
    · simp [hnone] at hname
    · obtain rfl := Option.some.inj (hsome.symm.trans hname)
      exact (ih p hp).joined

/-- The columns that hops compare have the same type, if those of all foreign keys of the schema
have. -/
theorem Leads.types_eq (hleads : Leads s m hops) (hkeys : s.hasMatchingKeys = true)
    (hm : m ∈ s.models) : ∀ hop ∈ hops, hop.types.1 = hop.types.2 := by
  induction hleads with
  | nil => simp
  | @snoc hops h target _ _ _ htypes _ _ _ _ _ ih =>
    refine List.forall_mem_append.mpr ⟨ih, List.forall_mem_singleton.mpr ?_⟩
    obtain ⟨f, hfield, htypes⟩ := Option.bind_eq_some_iff.mp htypes
    obtain ⟨⟨links, last⟩, hroute, hlast⟩ := Option.bind_eq_some_iff.mp hfield
    obtain ⟨name, -, hf⟩ := Option.bind_eq_some_iff.mp hlast
    have hsame := Schema.keyTypes?_eq hkeys (Schema.mem_models_of_relations? hm hroute)
      (List.mem_of_find?_eq_some hf) htypes
    exact hsame

theorem exists_snoc_of_forall₂ {α β : Type} {R : α → β → Prop} {as : List α}
    {a : α} {bs : List β} (hbs : List.Forall₂ R (as ++ [a]) bs) :
    ∃ front last, List.Forall₂ R as front ∧ R a last ∧ bs = front ++ [last] := by
  induction as generalizing bs with
  | nil =>
    obtain ⟨last, rest, hlast, hrest, rfl⟩ := List.forall₂_cons_left_iff.mp hbs
    obtain rfl := List.forall₂_nil_left_iff.mp hrest
    exact ⟨[], last, .nil, hlast, rfl⟩
  | cons first as ih =>
    obtain ⟨b, rest, hb, hrest, rfl⟩ := List.forall₂_cons_left_iff.mp hbs
    obtain ⟨front, last, hfront, hlast, rfl⟩ := ih hrest
    exact ⟨b :: front, last, .cons hb hfront, hlast, rfl⟩

/-- Whether the joins of hops drop the row of a document: at the end of the links of one that
keeps no documents without a match, there is none. -/
def Loses (store : Store) (hops : List Hop) (joins : List (String × Join))
    (doc : Value) : Prop :=
  ∃ pair ∈ hops.zip joins, pair.2.2.kind = .inner ∧ store.follow? doc pair.1.links = none

theorem loses_snoc {joins : List (String × Join)} {last : String × Join}
    (hlength : hops.length = joins.length) :
    Loses store (hops ++ [h]) (joins ++ [last]) doc ↔ Loses store hops joins doc ∨
      (last.2.kind = .inner ∧ store.follow? doc h.links = none) := by
  simp only [Loses, List.zip_append hlength, List.mem_append, or_and_right, exists_or,
    List.zip_cons_cons, List.zip_nil_left, List.mem_singleton, exists_eq_left]

theorem attach_eq_none {kind : JoinKind} :
    h.attach store kind row = none ↔ kind = .inner ∧ h.found? store row = none := by
  unfold attach
  cases h.found? store row <;> cases kind <;> simp

/-- The joins of hops make a row of each document that they do not drop. -/
theorem run_joins_kinds {joins : List (String × Join)} (hleads : Leads s m hops)
    (hjoins : List.Forall₂ Describes hops joins) (hplain : ∀ hop ∈ hops, hop.IsPlain)
    (hm : m ∈ s.models) (hkeys : s.hasMatchingKeys = true) (hkeyed : s.IsKeyed store)
    {config : Config}
    (hconfig : '.' ∉ config.parentPrefix.toList)
    (hdocs : ∀ doc ∈ store.collection m.collection, doc.items? = none) :
    ∃ joined : Value → Option Value,
      Stage.runAll store (joins.flatMap fun j => j.2.stages config) [] (store.collection
        m.collection) = .ok ((store.collection m.collection).filterMap joined) ∧
      ∀ doc ∈ store.collection m.collection, (∀ row, joined doc = some row →
        RowOf s m hops store doc row) ∧ (joined doc = none ↔ Loses store hops joins doc) := by
  induction hleads generalizing joins with
  | nil =>
    obtain rfl := List.forall₂_nil_left_iff.mp hjoins
    refine ⟨some, by simp [Stage.runAll], fun doc hdoc => ⟨fun row hrow => ?_, by simp [Loses]⟩⟩
    obtain rfl := Option.some.inj hrow
    exact ⟨hdocs doc hdoc, fun _ _ => rfl, by simp⟩
  | @snoc hops h target hfrontLeads htext hroute htypes hparent hown hnew hdots hdollars ih =>
    have hall := Leads.snoc hfrontLeads htext hroute htypes hparent hown hnew hdots hdollars
    have hsame := hall.types_eq hkeys hm h (by simp)
    obtain ⟨hplainFront, hplainLast⟩ := List.forall_mem_append.mp hplain
    have hplainLast := List.forall_mem_singleton.mp hplainLast
    obtain ⟨m', f, hroutes, hf, hlink⟩ := Schema.relations?_snoc_ok hroute
    have hkeyedLast := hkeyed m' (Schema.mem_models_of_relations? hm hroutes) f hf _ hlink
    obtain ⟨front, last, hfront, hlast, rfl⟩ := exists_snoc_of_forall₂ hjoins
    obtain ⟨joined, hrun, hrows⟩ := ih hfront hplainFront
    have hfound : ∀ doc ∈ store.collection m.collection, ∀ row, joined doc = some row →
        h.Refers (store.collection m'.collection) row ∧
          h.found? store row = store.follow? doc h.links :=
      fun doc hdoc row hrow => ((hrows doc hdoc).1 row hrow).refers hdoc hroutes
        hf hlink hparent
    have hrefers : ∀ row ∈ (store.collection m.collection).filterMap joined,
        h.Refers (store.collection m'.collection) row := by
      intro row hrow
      obtain ⟨doc, hdoc, hjoined⟩ := List.mem_filterMap.mp hrow
      exact (hfound doc hdoc row hjoined).1
    refine ⟨fun doc => (joined doc).bind (h.attach store last.2.kind), ?_,
      fun doc hdoc => ⟨?_, ?_⟩⟩
    · rw [List.flatMap_append, Stage.runAll_append, hrun]
      have hstages := run_stages hlast hplainLast hsame hkeyedLast hconfig hrefers
      rw [List.filterMap_filterMap] at hstages
      simpa [Except.bind] using hstages
    · intro out hout
      obtain ⟨row, hrow, hattach⟩ := Option.bind_eq_some_iff.mp hout
      exact ((hrows doc hdoc).1 row hrow).attach hkeyedLast (hfound doc hdoc row hrow).2 hdots
        hown hnew hattach
    · rw [loses_snoc hfront.length_eq, ← (hrows doc hdoc).2]
      dsimp only
      cases hrow : joined doc with
      | none => simp
      | some row => simp [attach_eq_none, (hfound doc hdoc row hrow).2]

/-- A document without a row has no document at the end of the links of a hop. -/
theorem run_joins {joins : List (String × Join)} (hleads : Leads s m hops)
    (hjoins : List.Forall₂ Describes hops joins) (hplain : ∀ hop ∈ hops, hop.IsPlain)
    (hm : m ∈ s.models) (hkeys : s.hasMatchingKeys = true) (hkeyed : s.IsKeyed store)
    {config : Config}
    (hconfig : '.' ∉ config.parentPrefix.toList)
    (hdocs : ∀ doc ∈ store.collection m.collection, doc.items? = none) :
    ∃ joined : Value → Option Value,
      Stage.runAll store (joins.flatMap fun j => j.2.stages config) [] (store.collection
        m.collection) = .ok ((store.collection m.collection).filterMap joined) ∧
      ∀ doc ∈ store.collection m.collection, (∀ row, joined doc = some row →
        RowOf s m hops store doc row) ∧ (joined doc = none → ∃ hop ∈ hops,
        store.follow? doc hop.links = none) := by
  obtain ⟨joined, hrun, hrows⟩ := run_joins_kinds hleads hjoins hplain hm hkeys
    hkeyed hconfig hdocs
  refine ⟨joined, hrun, fun doc hdoc => ⟨(hrows doc hdoc).1, fun hnone => ?_⟩⟩
  obtain ⟨⟨hop, entry⟩, hpair, -, hmissing⟩ := (hrows doc hdoc).2.mp hnone
  exact ⟨hop, (List.of_mem_zip hpair).1, hmissing⟩

end Hop

end DocQuery
