import DocQuery.Proofs.Meaning
import DocQuery.Store.Basic
set_option autoImplicit false

/-!
# Proofs: what filters along foreign keys mean

The direct reading of a path that follows foreign keys:  from one document to the next, in a
store where a key belongs to one document.  Nothing here knows expressions, stages or the
compiler.
-/

namespace DocQuery

open Value

/-- A foreign key as it is followed: the column that stores it, the collection of the other
documents, and the column there that it refers to. -/
structure Link where
  column : String
  collection : String
  key : String
  deriving DecidableEq, Repr

/-- A path along foreign keys: the links, and what is asked of a field of the document at their
end. -/
structure Chain where
  links : List Link
  field : Field
  lookup : Lookup
  deriving DecidableEq, Repr

namespace Schema

/-- Where a foreign key leads: its link, and the model of the other documents. -/
def link? (s : Schema) (f : Field) : Option (Link × Model) :=
  match f.kind with
  | .foreignKey target key _ =>
    (s.model? target).bind fun t =>
      (t.field? (key.getD Compiler.usualKey)).map fun k =>
        (⟨f.column, t.collection, k.column⟩, t)
  | _ => none

/-- Where names lead that are all foreign keys, and the links on the way. -/
def relations? (s : Schema) : Model → List String → Option (List Link × Model)
  | m, [] => some ([], m)
  | m, name :: rest =>
    (m.field? name).bind fun f =>
      (s.link? f).bind fun (link, t) =>
        (relations? s t rest).map fun (links, last) => (link :: links, last)

/-- The foreign key of a relation. -/
def fieldAlong? (s : Schema) (m : Model) (names : List String) : Option Field :=
  (s.relations? m names.dropLast).bind fun (_, last) => names.getLast?.bind last.field?

/-- The types that the two columns of a foreign key are declared with. -/
def keyTypes? (s : Schema) (f : Field) : Option (String × String) :=
  match f.kind with
  | .foreignKey target key _ =>
    (s.model? target).bind fun t =>
      (t.field? (key.getD Compiler.usualKey)).map fun k => (f.kind.storageType,
        k.kind.storageType)
  | _ => none

/-- The chain that the names of a path stand for: foreign keys up to the last field, and the
lookup behind it; equality if there is none. -/
def chain? (s : Schema) : Model → List String → Option Chain
  | _, [] => none
  | m, name :: rest =>
    (m.field? name).bind fun f =>
      if s.staysInside f rest then
        match rest with
        | [] => some ⟨[], f, .exact⟩
        | [last] => (Lookup.ofName? last).map fun l => ⟨[], f, l⟩
        | _ => none
      else
        (s.link? f).bind fun (link, t) =>
          (chain? s t rest).map fun chain => { chain with links := link :: chain.links }

/-- Whether the names of all collections and stored columns can stand in a path of an expression
as they are. -/
def hasPlainCollections (s : Schema) : Bool :=
  s.hasPlainColumns &&
    s.models.all fun m => !m.collection.toList.contains '.' && !m.collection.toList.contains '$'

/-- Whether the two columns of every foreign key are declared with one type of stored values. -/
def hasMatchingKeys (s : Schema) : Bool :=
  s.models.all fun m => m.fields.all fun f =>
    match f.kind with
    | .foreignKey target key _ =>
      match s.model? target with
      | none => true
      | some t =>
        (t.field? (key.getD Compiler.usualKey)).all fun k => f.kind.storageType ==
          k.kind.storageType
    | _ => true

end Schema

/-! ## Documents of a store -/

/-- Whether what a document holds in its key column is equal to a value. -/
def matchesKey (v : Value) (key : String) (doc : Value) : Bool :=
  (columnOf (some doc) key).any fun w => v.compare w == .eq

/-- Whether the documents that a link leads to all have a key, and no value by which some
documents refer to them is equal to the keys of two of them. -/
def Link.IsKeyed (link : Link) (store : Store) (docs : List Value) : Prop :=
  (∀ doc ∈ store.collection link.collection, (columnOf (some doc) link.key).isSome = true) ∧
    ∀ doc ∈ docs, ∀ v ∈ columnOf (some doc) link.column,
      (store.collection link.collection).Pairwise fun a b =>
        ¬(matchesKey v link.key a = true ∧ matchesKey v link.key b = true)

instance (link : Link) (store : Store) (docs : List Value) :
    Decidable (link.IsKeyed store docs) :=
  inferInstanceAs (Decidable (_ ∧ _))

/-- Whether every foreign key of a schema refers to at most one document, in a store where the
documents that it may refer to have keys. -/
def Schema.IsKeyed (s : Schema) (store : Store) : Prop :=
  ∀ m ∈ s.models, ∀ f ∈ m.fields, ∀ ending ∈ s.link? f,
    ending.1.IsKeyed store (store.collection m.collection)

instance (s : Schema) (store : Store) : Decidable (s.IsKeyed store) :=
  inferInstanceAs (Decidable (∀ m ∈ s.models, _))

namespace Store

/-- The document that a document refers to. -/
def target? (store : Store) (link : Link) (doc : Value) : Option Value :=
  (columnOf (some doc) link.column).bind fun v =>
    (store.collection link.collection).find? (matchesKey v link.key)

/-- The document at the end of links. -/
def follow? (store : Store) (doc : Value) : List Link → Option Value
  | [] => some doc
  | link :: rest => (store.target? link doc).bind fun next => follow? store next rest

end Store

/-! ## Filters -/

namespace Lookup

/-- Whether a lookup compares a value with others. -/
def isComparison : Lookup → Bool
  | .exact => true
  | .gt => true
  | .gte => true
  | .lt => true
  | .lte => true
  | .in => true
  | _ => false

end Lookup

namespace Chain

/-- Whether a chain compares a field of an exact kind with a literal of that kind. -/
def accepts (chain : Chain) (v : Value) : Bool :=
  match ValueType.ofField chain.field.kind with
  | .scalar kind => kind.isExact && chain.lookup.isComparison && chain.lookup.fits kind v
  | _ => false

/-- What stands at the end of a chain that starts at a document, if there is a document
there. -/
def read (chain : Chain) (store : Store) (doc : Value) : Option Value :=
  columnOf (store.follow? doc chain.links) chain.field.column

end Chain

namespace Filter

/-- Whether a filter is a comparison along foreign keys with a literal. -/
def isAlongKeys (s : Schema) (m : Model) : Filter → Bool
  | .lookup path operand =>
    match s.chain? m (Text.segments path), operand.constant? with
    | some chain, some v => chain.accepts v
    | _, _ => false
  | _ => false

/-- Whether a comparison along foreign keys holds of a document.  It does not if a document on
the way is missing. -/
def holdsAlongKeys (s : Schema) (m : Model) (store : Store) (doc : Value) : Filter → Bool
  | .lookup path operand =>
    match s.chain? m (Text.segments path), operand.constant? with
    | some chain, some v => chain.lookup.holdsOf v (chain.read store doc)
    | _, _ => false
  | _ => false

end Filter

/-- The documents of a model for which comparisons along foreign keys all hold. -/
def Store.found (store : Store) (s : Schema) (m : Model) (filters : List Filter) : List Value :=
  (store.collection m.collection).filter fun doc =>
    filters.all fun f => f.holdsAlongKeys s m store doc

end DocQuery
