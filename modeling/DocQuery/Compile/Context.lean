import DocQuery.Join.Basic
import DocQuery.Schema.ValueType
set_option autoImplicit false

/-!
# Compile: what is known while a query is compiled

A context belongs to one query or subquery.  It collects the joins and subqueries that the query
needs and knows the columns it has computed.  Joins and outer references are numbered by their
place.
-/

namespace DocQuery

/-- What is known while a query is compiled. -/
structure Context where
  /-- the model that the query asks for -/
  model : Model
  /-- the joins, each with the path of the relation that leads to it -/
  joins : List (String × Join)
  /-- the stages that compute the subqueries -/
  subqueryStages : List Stage
  /-- the number of subqueries -/
  subqueryCount : Nat
  /-- the paths of the enclosing query that a subquery refers to; none if there is no enclosing
  query -/
  outerRefs : Option (List String)
  /-- the types of the computed columns -/
  annotations : List (String × ValueType)
  /-- the computed columns that were referred to -/
  annotationRefs : List String
  /-- how many disjunctions and negations there are around -/
  nullableDepth : Nat

namespace Context

/-- The context of a query for a model. -/
def ofModel (model : Model) : Context := ⟨model, [], [], 0, none, [], [], 0⟩

/-- The context of a subquery for a model. -/
def ofSubquery (model : Model) : Context := { ofModel model with outerRefs := some [] }

/-- The collection of the documents. -/
def collection (c : Context) : String := c.model.collection

/-! ## Computed columns -/

/-- Sets the type of a column: in its place if there is one of the name, else at the end. -/
def setType : List (String × ValueType) → String → ValueType → List (String × ValueType)
  | [], name, type => [(name, type)]
  | (k, t) :: rest, name, type =>
    if k = name then (k, type) :: rest else (k, t) :: setType rest name type

/-- The type of a column. -/
def findType : List (String × ValueType) → String → Option ValueType
  | [], _ => none
  | (k, t) :: rest, name => if k = name then some t else findType rest name

/-- The context with one more computed column. -/
def addAnnotation (c : Context) (name : String) (type : ValueType) : Context :=
  { c with annotations := setType c.annotations name type }

/-- The type of a computed column. -/
def computedType? (c : Context) (name : String) : Option ValueType :=
    findType c.annotations name

/-- Whether there is a computed column of the name. -/
def hasAnnotation (c : Context) (name : String) : Bool := (c.computedType? name).isSome

/-- The context after a reference to a computed column. -/
def refer (c : Context) (name : String) : Context :=
  if c.annotationRefs.contains name then c
  else { c with annotationRefs := c.annotationRefs ++ [name] }

/-- The context in which no computed column was referred to yet. -/
def clearRefs (c : Context) : Context := { c with annotationRefs := [] }

/-! ## Joins -/

/-- The names that an alias must not have: those of the collection, of the columns, stored or
computed, and of the other aliases. -/
def takenNames (c : Context) : List String :=
  c.collection :: (c.model.columns ++ c.annotations.map (·.1) ++ c.joins.map (·.2.joined))

/-- The alias of a number. -/
def numberedAlias (n : Nat) : String := "T" ++ toString n

/-- The aliases that may be given to a join, in order: the name of its collection, then numbered
names from the number of the join on.  One more than there are taken names is always enough. -/
def candidateAliases (c : Context) (collection : String) : List String :=
  collection ::
    (List.range (c.takenNames.length + 1)).map fun i => numberedAlias (c.joins.length + 1 + i)

/-- The first alias that is not taken. -/
def freshAlias (c : Context) (collection : String) : String :=
  ((c.candidateAliases collection).find? fun a => !c.takenNames.contains a).getD collection

/-- Where the join of a relation path is. -/
def joinIndex? (c : Context) (path : String) : Option Nat :=
  c.joins.findIdx? fun j => j.1 == path

/-- How documents without a match are treated: they are kept where the key may be null, and in
disjunctions and negations. -/
def joinKind (c : Context) (field : Field) : JoinKind :=
  if field.nullable ∨ 0 < c.nullableDepth then .left else .inner

/-- A join that keeps documents without a match. -/
def keepUnmatched (j : String × Join) : String × Join := (j.1, { j.2 with kind := .left })

/-- The context in which a join keeps documents without a match. -/
def promoteAt (c : Context) (index : Nat) : Context :=
  { c with joins := c.joins.modify index keepUnmatched }

/-- The context in which some joins keep documents without a match. -/
def promote (c : Context) (indices : List Nat) : Context := indices.foldl promoteAt c

/-- The alias of a join. -/
def aliasAt (c : Context) (index : Nat) : String :=
  match c.joins[index]? with
  | some j => j.2.joined
  | none => ""

/-- The join of a field with a field of another model. -/
def newJoin (c : Context) (parent : Option String) (field : Field) (target : Model)
    (targetField : Field) : Join where
  parentAlias := parent
  collection := target.collection
  joined := c.freshAlias target.collection
  pairs := [⟨field.column, targetField.column, field.kind.storageType,
    targetField.kind.storageType⟩]
  kind := c.joinKind field

/-- The alias and the place of the join that a relation path leads to, which is the join there
is, or else a new one. -/
def join (c : Context) (path : String) (parent : Option String) (field : Field) (target : Model)
    (targetField : Field) : (String × Nat) × Context :=
  match c.joinIndex? path with
  | some index =>
    ((c.aliasAt index, index),
      match c.joinKind field with
      | .left => c.promoteAt index
      | .inner => c)
  | none =>
    let j := c.newJoin parent field target targetField
    ((j.joined, c.joins.length), { c with joins := c.joins ++ [(path, j)] })

/-- The context inside a disjunction or negation. -/
def enter (c : Context) : Context := { c with nullableDepth := c.nullableDepth + 1 }

/-- The context outside again. -/
def leave (c : Context) : Context := { c with nullableDepth := c.nullableDepth - 1 }

/-! ## Subqueries -/

/-- The number of the next subquery. -/
def nextSubquery (c : Context) : Nat × Context :=
  (c.subqueryCount, { c with subqueryCount := c.subqueryCount + 1 })

/-- The context with more stages for subqueries. -/
def pushStages (c : Context) (stages : List Stage) : Context :=
  { c with subqueryStages := c.subqueryStages ++ stages }

/-- The number of the variable for an outer path, which is the one it has, or else the next
one. -/
def outerRef (c : Context) (path : String) : Option Nat × Context :=
  match c.outerRefs with
  | none => (none, c)
  | some refs =>
    match refs.findIdx? (· == path) with
    | some index => (some index, c)
    | none => (some refs.length, { c with outerRefs := some (refs ++ [path]) })

/-- The stages that have to run before the query: the joins, then the subqueries. -/
def prerequisites (c : Context) (config : Config) : List Stage :=
  c.joins.flatMap (fun j => j.2.stages config) ++ c.subqueryStages

/-! ## Laws -/

@[simp] theorem findType_setType_self (l : List (String × ValueType)) (name : String)
    (t : ValueType) : findType (setType l name t) name = some t := by
  induction l with
  | nil => simp [setType, findType]
  | cons p rest ih =>
    obtain ⟨k, u⟩ := p
    by_cases h : k = name <;> simp [setType, findType, h, ih]

theorem findType_setType_ne (l : List (String × ValueType)) {name other : String}
    (t : ValueType) (h : name ≠ other) :
        findType (setType l name t) other = findType l other := by
  induction l with
  | nil => simp [setType, findType, h]
  | cons p rest ih =>
    obtain ⟨k, u⟩ := p
    by_cases hk : k = name
    · subst hk
      simp [setType, findType, h]
    · simp [setType, findType, hk, ih]

@[simp] theorem computedType?_addAnnotation_self (c : Context) (name : String) (t : ValueType) :
    (c.addAnnotation name t).computedType? name = some t :=
  findType_setType_self _ _ _

theorem computedType?_of_annotations {c : Context} (h : c.annotations = []) (name : String) :
    c.computedType? name = none := by
  rw [computedType?, h]
  rfl

@[simp] theorem joins_refer (c : Context) (name : String) : (c.refer name).joins = c.joins := by
  simp only [refer]
  split <;> rfl

@[simp] theorem leave_enter (c : Context) : c.enter.leave = c := rfl

end Context

end DocQuery
