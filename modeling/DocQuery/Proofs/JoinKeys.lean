import DocQuery.Proofs.JoinRows
import DocQuery.Proofs.Names
set_option autoImplicit false

/-!
# Proofs: the keys that a join compares

A join binds the keys of a document to variables and compares these with the keys of each
document of the joined collection.  So the documents that match are those with equal keys in all
pairs, whatever expressions the keys are.  If the keys are columns of the same types, the rows
of a join can be told from the columns alone.
-/

namespace DocQuery.Join

open Value

variable {config : Config} {store : Store} {j : Join} {p : JoinPair} {joined : Option String}
  {vars vars' : Document}
  {keys : JoinPair → Option Value}

/-! ## Keys that are any expressions -/

/-- Whether two documents have equal keys in a pair.  A key that is missing on the side of the
parent counts as null. -/
def equalKeys (keys others : JoinPair → Option Value) (p : JoinPair) : Bool :=
  compare? (some ((keys p).getD .null)) (others p) == .eq

/-- Whether variables carry the keys in pairs, of which the first has a number. -/
def Carries (config : Config) (keys : JoinPair → Option Value) (vars : Document) :
    Nat → List JoinPair → Prop
  | _, [] => True
  | index, p :: rest =>
    Document.value? vars (config.parentVariable index) = some ((keys p).getD .null) ∧
    Carries config keys vars (index + 1) rest

/-- Variables that are bound later have larger numbers, so they leave the earlier ones as they
are. -/
theorem value?_bound_bindings {pairs : List JoinPair} {index k : Nat} (hk : k < index)
    {scope : Scope}
    (h : Stage.bound scope vars (bindings config joined index pairs) = .ok vars') :
    Document.value? vars' (config.parentVariable k) =
        Document.value? vars (config.parentVariable k) := by
  induction pairs generalizing index vars with
  | nil =>
    obtain rfl := Except.ok.inj h
    rfl
  | cons p rest ih =>
    have hne : config.parentVariable index ≠ config.parentVariable k := fun hsame =>
      absurd (numbered_injective config.parentPrefix hsame) (by omega)
    simp only [bindings, Stage.bound] at h
    cases hv : eval (parentKey joined p) scope with
    | error err => simp [hv] at h
    | ok v =>
      rw [hv] at h
      rw [ih (by omega) h, Document.value?_insert_ne vars _ hne]

/-- The variables of a join carry the keys of the document that it starts from. -/
theorem exists_bound {pairs : List JoinPair} {scope : Scope}
    (hkeys : ∀ p ∈ pairs, eval (parentKey joined p) scope = .ok (keys p)) (index : Nat)
    (vars : Document) :
    ∃ vars', Stage.bound scope vars (bindings config joined index pairs) = .ok vars' ∧
      Carries config keys vars' index pairs := by
  induction pairs generalizing index vars with
  | nil => exact ⟨vars, rfl, trivial⟩
  | cons p rest ih =>
    obtain ⟨hkey, hrest⟩ := List.forall_mem_cons.mp hkeys
    obtain ⟨vars', hbound, hcarries⟩ := ih hrest (index + 1)
      (Document.insert vars (config.parentVariable index) ((keys p).getD .null))
    refine ⟨vars', by simp only [bindings, Stage.bound, hkey, hbound], ?_, hcarries⟩
    rw [value?_bound_bindings (Nat.lt_succ_self index) hbound, Document.value?_insert_self]

/-- What is bound depends on the keys only. -/
theorem bound_bindings_congr {pairs : List JoinPair} {scope scope' : Scope}
    (h : ∀ p ∈ pairs, eval (parentKey joined p) scope = eval (parentKey joined p) scope')
    (index : Nat)
    (vars : Document) : Stage.bound scope vars (bindings config joined index pairs) =
      Stage.bound scope' vars (bindings config joined index pairs) := by
  induction pairs generalizing index vars with
  | nil => rfl
  | cons p rest ih =>
    obtain ⟨hkey, hrest⟩ := List.forall_mem_cons.mp h
    simp only [bindings, Stage.bound, hkey, ih hrest]

/-- The condition of each pair decides whether the keys in it are equal. -/
theorem conditions_decide (hconfig : '.' ∉ config.parentPrefix.toList) {pairs : List JoinPair}
    {child : Value}
    {others : JoinPair → Option Value}
    (hothers : ∀ p ∈ pairs, eval (childKey p) ⟨child, vars⟩ = .ok (others p))
    {index : Nat} (hcarries : Carries config keys vars index pairs) :
    List.Forall₂ (Decides ⟨child, vars⟩) (conditions config index pairs)
        (pairs.map (equalKeys keys others)) := by
  induction pairs generalizing index with
  | nil => exact .nil
  | cons p rest ih =>
    obtain ⟨hvalue, hcarries⟩ := hcarries
    obtain ⟨hother, hothers⟩ := List.forall_mem_cons.mp hothers
    have hname : '.' ∉ (config.parentVariable index).toList :=
      notMem_numbered (by decide) hconfig index
    have hroot : Scope.isRootName (config.parentVariable index) = false :=
      isRootName_numbered config.parentPrefix index
    have hvariable : Scope.variableOf ⟨child, vars⟩ (config.parentVariable index) =
        .ok ((keys p).getD .null) := by
      simp [Scope.variableOf, hroot, hvalue]
    have hread : eval (.string ("$$" ++ config.parentVariable index)) ⟨child, vars⟩ =
        .ok (some ((keys p).getD .null)) := by
      rw [eval_string, (PathText.bound _ _ hname hvariable).read, walk_nil]
    exact .cons (Decides.comparison .eq hread hother) (ih hothers hcarries)

/-- The documents that match a row are those with equal keys in all pairs. -/
theorem matchedWith_eq_filter (hconfig : '.' ∉ config.parentPrefix.toList) {row : Value}
    {others : Value → JoinPair → Option Value}
    (hkeys : ∀ p ∈ j.pairs, eval (parentKey j.parentAlias p) ⟨row, vars⟩ = .ok (keys p))
    (hothers : ∀ child ∈ store.collection j.collection, ∀ p ∈ j.pairs, ∀ inner,
      eval (childKey p) ⟨child, inner⟩ = .ok (others child p)) :
    j.matchedWith config store vars row =
      .ok ((store.collection j.collection).filter fun child =>
          j.pairs.all (equalKeys keys (others child))) := by
  obtain ⟨inner, hbound, hcarries⟩ : ∃ inner, Stage.bound ⟨row, vars⟩ vars
      (bindings config j.parentAlias 0 j.pairs) = .ok inner ∧
          Carries config keys inner 0 j.pairs :=
    exists_bound hkeys 0 vars
  have hdecides : ∀ child ∈ store.collection j.collection,
      Decides ⟨child, inner⟩ (.operator "$and" (.array (conditions config 0 j.pairs)))
        (j.pairs.all (equalKeys keys (others child))) := by
    intro child hchild
    have hall := Decides.and
      (conditions_decide hconfig (fun p hp => hothers child hchild p hp inner) hcarries)
    rwa [List.all_map, Function.id_comp] at hall
  simp only [matchedWith, hbound, Stage.runAll, Stage.selectExpr, Stage.run,
    Stage.selected_of_decides hdecides]

/-! ## Columns of the same type

Keys whose types are the same are compared as they are. -/

/-- The path of a parent column from a row. -/
def keyPath (joined : Option String) (column : String) : String :=
  match joined with
  | none => column
  | some name => name ++ "." ++ column

/-- Whether the names of a join are read as those of fields.  A path that starts with a dollar
sign would read a variable. -/
structure NamesFields (j : Join) : Prop where
  parent : ∀ p ∈ j.pairs, isOperatorName (keyPath j.parentAlias p.parent) = false
  child : ∀ p ∈ j.pairs, isOperatorName p.child = false
  joined : j.kind = .left → isOperatorName j.joined = false

/-- Whether two documents have equal keys in all pairs.  A parent key that is missing counts as
null. -/
def agreesWith (j : Join) (row child : Value) : Bool :=
  j.pairs.all (equalKeys (fun p => row.getPath (keyPath j.parentAlias p.parent)) fun p =>
    child.getPath p.child)

theorem eval_column {name type : String} (hname : isOperatorName name = false) (scope : Scope) :
    eval (key type type (.string ("$" ++ name))) scope = .ok (scope.root.getPath name) := by
  rw [key, if_pos (.inl rfl), eval_string, PathText.read_root scope hname]

theorem eval_parentColumn (hname : isOperatorName (keyPath j.parentAlias p.parent) = false)
    (htypes : p.parentType = p.childType) (scope : Scope) :
    eval (parentKey j.parentAlias p) scope =
        .ok (scope.root.getPath (keyPath j.parentAlias p.parent)) := by
  have hpath : parentPath j.parentAlias p.parent = "$" ++ keyPath j.parentAlias p.parent := by
    cases j.parentAlias <;> simp [parentPath, keyPath, String.append_assoc]
  rw [parentKey, hpath, htypes, eval_column hname]

theorem eval_childColumn (hname : isOperatorName p.child = false)
    (htypes : p.parentType = p.childType)
    (scope : Scope) : eval (childKey p) scope = .ok (scope.root.getPath p.child) := by
  rw [childKey, htypes, eval_column hname]

/-- The rows that a join makes of a row that nothing matches. -/
def unmatchedRows (j : Join) (row : Value) : List Value :=
  match j.kind with
  | .inner => []
  | .left => [row.setPath j.joined .null]

/-- The rows that a join makes of a row: one for each document with equal keys, and if there is
none those of a row that nothing matches. -/
def pairedRows (store : Store) (j : Join) (row : Value) : List Value :=
  match (store.collection j.collection).filter (j.agreesWith row) with
  | [] => j.unmatchedRows row
  | children => children.map (row.setPath j.joined)

theorem map_kept_eq_pairedRows
    (hcount : j.kind = .left → (store.collection j.collection).length < 2 ^ 63) (row : Value) :
    (kept j.kind ((store.collection j.collection).filter (j.agreesWith row))).map
      (row.setPath j.joined) = j.pairedRows store row := by
  unfold pairedRows unmatchedRows
  cases hkind : j.kind with
  | inner => cases (store.collection j.collection).filter (j.agreesWith row) <;> rfl
  | left =>
    have hfew : ((store.collection j.collection).filter (j.agreesWith row)).length < 2 ^ 63 :=
      Nat.lt_of_le_of_lt (List.length_filter_le _ _) (hcount hkind)
    rw [kept, countsZero_eq hfew]
    cases (store.collection j.collection).filter (j.agreesWith row) <;> rfl

/-- A join of columns with the same types pairs each row with the documents that have equal
keys. -/
theorem run_stages_eq_pairedRows (hconfig : '.' ∉ config.parentPrefix.toList)
    (hnames : j.NamesFields) (htypes : ∀ p ∈ j.pairs, p.parentType = p.childType)
    (hcount : j.kind = .left → (store.collection j.collection).length < 2 ^ 63)
    (vars : Document) (rows : List Value) :
    Stage.runAll store (j.stages config) vars rows =
        .ok (rows.flatMap (j.pairedRows store)) := by
  have hmatched : ∀ row ∈ rows, j.matchedWith config store vars row =
      .ok ((store.collection j.collection).filter (j.agreesWith row)) := fun row _ =>
    matchedWith_eq_filter hconfig (fun p hp => eval_parentColumn (hnames.parent p hp)
      (htypes p hp) _) fun child _ p hp _ => eval_childColumn (hnames.child p hp)
      (htypes p hp) _
  have hzip : rows.zip (rows.map fun row => (store.collection j.collection).filter
    (j.agreesWith row)) = rows.map fun row => (row, (store.collection j.collection).filter
    (j.agreesWith row)) := by
    simpa using List.zip_map' (f := id)
      (g := fun row => (store.collection j.collection).filter (j.agreesWith row)) (l := rows)
  have hrows := map_kept_eq_pairedRows hcount
  rw [run_stages_with hnames.joined, Stage.each_eq_map hmatched]
  simp only [Except.map, spread, hzip, List.flatMap_map, hrows]

end DocQuery.Join
