import DocQuery.Proofs.ConvertedValues
import DocQuery.Store.Basic
set_option autoImplicit false

/-!
# Proofs: printed documents are loaded again

A list of documents that is printed and loaded is the same list.  There are exceptions:  floats
are printed by the digits that tell them apart, an object that is written like a decimal is read
as one, a zero that is read has no sign, and texts that nest too deep are not loaded.
-/

namespace DocQuery

namespace Value

open Json (spelling)

/-! ## Values that are read as what they are -/

/-- Whether a value is printed like no other one: it holds no float, and no object that is
written like a decimal. -/
structure Plain (v : Value) : Prop where
  floatFree : v.FloatFree
  undisguised : ∀ s, Contains (.object [(decimalKey, .string s)]) v → Decimal.read? s = none

/-- Whether a value is read from its own tree. -/
structure Loadable (v : Value) : Prop extends Plain v where
  /-- names stand for one member each -/
  wellFormed : v.WellFormed
  /-- decimals are read from their own texts, as all but negative zeros are -/
  decimals : ∀ d, Contains (.decimal d) v → Decimal.read? d.text = some d

theorem Plain.item {v : Value} {items : List Value} (h : Plain (.array items))
    (hv : v ∈ items) : v.Plain where
  floatFree := h.floatFree.item hv
  undisguised s hs := h.undisguised s (.item hv hs)

theorem Plain.member {m : String × Value} {fields : Document} (h : Plain (.object fields))
    (hm : m ∈ fields) : m.2.Plain where
  floatFree := h.floatFree.member hm
  undisguised s hs := h.undisguised s (.member hm hs)

theorem Loadable.convertible {v : Value} (h : v.Loadable) : v.Convertible where
  finite x hx := absurd hx (h.floatFree x)
  undisguised := h.undisguised
  wellFormed := h.wellFormed

theorem Loadable.array {items : List Value} (h : ∀ v ∈ items, v.Loadable) :
    Loadable (.array items) := by
  have hconvertible := Convertible.array fun v hv => (h v hv).convertible
  refine ⟨⟨?_, hconvertible.undisguised⟩, hconvertible.wellFormed, ?_⟩
  · rintro x (_ | ⟨hv, hx⟩)
    exact (h _ hv).floatFree x hx
  · rintro d (_ | ⟨hv, hd⟩)
    exact (h _ hv).decimals d hd

theorem Loadable.object {fields : Document} (hnames : fields.names.Nodup)
    (hread : ∀ s, fields = [(decimalKey, .string s)] → Decimal.read? s = none)
    (h : ∀ m ∈ fields, m.2.Loadable) :
    Loadable (.object fields) := by
  have hconvertible := Convertible.object hnames hread fun m hm => (h m hm).convertible
  refine ⟨⟨?_, hconvertible.undisguised⟩, hconvertible.wellFormed, ?_⟩
  · rintro x (_ | _ | ⟨hm, hx⟩)
    exact (h _ hm).floatFree x hx
  · rintro d (_ | _ | ⟨hm, hd⟩)
    exact (h _ hm).decimals d hd

mutual

theorem Plain.isLegible (v : Value) (h : v.Plain) : v.IsLegible := by
  match v with
  | .null | .bool _ | .int _ | .decimal _ | .string _ => trivial
  | .float x => exact absurd .refl (h.floatFree x)
  | .array items => exact areLegible_of_plain items fun v hv => h.item hv
  | .object fields =>
    refine ⟨fun d hd => ?_, membersLegible_of_plain fields fun m hm => h.member hm⟩
    have hnone := h.undisguised d.text (hd ▸ .refl)
    simp [Decimal.read?_text] at hnone

theorem areLegible_of_plain (items : List Value) (h : ∀ v ∈ items, v.Plain) :
    AreLegible items := by
  match items with
  | [] => trivial
  | v :: rest =>
    obtain ⟨hv, hrest⟩ := List.forall_mem_cons.mp h
    exact ⟨Plain.isLegible v hv, areLegible_of_plain rest hrest⟩

theorem membersLegible_of_plain (fields : Document) (h : ∀ m ∈ fields, m.2.Plain) :
    MembersLegible fields := by
  match fields with
  | [] => trivial
  | (_, v) :: rest =>
    obtain ⟨hv, hrest⟩ := List.forall_mem_cons.mp h
    exact ⟨Plain.isLegible v hv, membersLegible_of_plain rest hrest⟩

end

/-- A loadable value is read from its tree. -/
theorem ofJson_toJson {v : Value} (h : v.Loadable) : ofJson (toJson v) = v :=
  (ofJson_toJson_eq_self_iff h.convertible).mpr h.decimals

theorem ofJsonItems_toJsonItems {items : List Value} (h : ∀ v ∈ items, v.Loadable) :
    ofJsonItems (toJsonItems items) = items := by
  have harray := ofJson_toJson (.array h)
  rw [toJson, ofJson] at harray
  exact array.inj harray

/-! ## Nesting -/

mutual

/-- How many arrays and objects are nested in what is printed of a value: a decimal is printed
like an object. -/
def nesting : Value → Nat
  | .decimal _ => 1
  | .array items => nestingItems items + 1
  | .object fields => nestingMembers fields + 1
  | _ => 0

/-- The deepest nesting of items. -/
def nestingItems : List Value → Nat
  | [] => 0
  | v :: rest => max (nesting v) (nestingItems rest)

/-- The deepest nesting of the values of members. -/
def nestingMembers : List (String × Value) → Nat
  | [] => 0
  | (_, v) :: rest => max (nesting v) (nestingMembers rest)

end

mutual

/-- The tree of a value is read if the value does not nest deeper than is allowed. -/
theorem readable_toJson_iff (v : Value) (limit : Nat) :
    (toJson v).readable limit = true ↔ v.nesting ≤ limit := by
  match v with
  | .null | .bool _ | .int _ | .string _ => simp [toJson, Json.readable, nesting]
  | .float x => cases hx : x.isFinite <;> simp [toJson, hx, Json.readable, nesting]
  | .decimal d => cases limit <;> simp [toJson, Json.readable, Json.readableMembers, nesting]
  | .array items =>
    cases limit with
    | zero => simp [toJson, Json.readable, nesting]
    | succ limit =>
      simp [toJson, Json.readable, nesting, readableItems_toJsonItems_iff items limit]
  | .object fields =>
    cases limit with
    | zero => simp [toJson, Json.readable, nesting]
    | succ limit =>
      simp [toJson, Json.readable, nesting, readableMembers_toJsonMembers_iff fields limit]

theorem readableItems_toJsonItems_iff (items : List Value) (limit : Nat) :
    Json.readableItems limit (toJsonItems items) = true ↔ nestingItems items ≤ limit := by
  match items with
  | [] => simp [toJsonItems, Json.readableItems, nestingItems]
  | v :: rest =>
    rw [toJsonItems, Json.readableItems, nestingItems, Bool.and_eq_true,
      readable_toJson_iff v limit, readableItems_toJsonItems_iff rest limit, Nat.max_le]

theorem readableMembers_toJsonMembers_iff (fields : Document) (limit : Nat) :
    Json.readableMembers limit (toJsonMembers fields) = true ↔
        nestingMembers fields ≤ limit := by
  match fields with
  | [] => simp [toJsonMembers, Json.readableMembers, nestingMembers]
  | (_, v) :: rest =>
    rw [toJsonMembers, Json.readableMembers, nestingMembers, Bool.and_eq_true,
      readable_toJson_iff v limit, readableMembers_toJsonMembers_iff rest limit, Nat.max_le]

end

theorem nestingItems_le_iff {items : List Value} {limit : Nat} :
    nestingItems items ≤ limit ↔ ∀ v ∈ items, v.nesting ≤ limit := by
  induction items with
  | nil => simp [nestingItems]
  | cons v rest ih => rw [nestingItems, Nat.max_le, ih, List.forall_mem_cons]

/-! ## Printed values -/

theorem read?_compactText {v : Value} (h : v.FloatFree) :
    Json.read? v.compactText = some (toJson v) := by
  refine Json.read?_of_spelling ?_
  have hwrite := tokensFrom_write v h 0 (r := []) (by simp [Follows])
  rw [List.append_nil] at hwrite
  rw [compactText, print, Json.tokens?, String.toList_ofList, hwrite]
  simp [Json.tokensFrom, Json.Scan.close]

/-! ## Collections in one text -/

mutual

/-- On one line, a value is printed the same at any depth. -/
theorem write_compact_depth (v : Value) (d e : Nat) :
    write .compact d v = write .compact e v := by
  match v with
  | .null | .bool _ | .int _ | .float _ | .decimal _ | .string _ => rfl
  | .array [] | .object [] => rfl
  | .array (item :: rest) =>
    simp only [write, lineBreak, write_compact_depth item (d + 1) (e + 1),
      writeItems_compact_depth rest (d + 1) (e + 1)]
  | .object ((name, v) :: rest) =>
    simp only [write, lineBreak, write_compact_depth v (d + 1) (e + 1),
      writeFields_compact_depth rest (d + 1) (e + 1)]

theorem writeItems_compact_depth (items : List Value) (d e : Nat) :
    writeItems .compact d items = writeItems .compact e items := by
  match items with
  | [] => rfl
  | item :: rest =>
    simp only [writeItems, lineBreak, write_compact_depth item d e,
      writeItems_compact_depth rest d e]

theorem writeFields_compact_depth (fields : Document) (d e : Nat) :
    writeFields .compact d fields = writeFields .compact e fields := by
  match fields with
  | [] => rfl
  | (name, v) :: rest =>
    simp only [writeFields, lineBreak, write_compact_depth v d e,
      writeFields_compact_depth rest d e]

end

theorem toList_compactText (v : Value) (d : Nat) :
    v.compactText.toList = write .compact d v := by
  rw [compactText, print, String.toList_ofList, write_compact_depth v 0 d]

theorem toList_intercalate_compactText (v : Value) (rest : List Value) (d : Nat) :
    (",".intercalate ((v :: rest).map compactText)).toList =
        write .compact d v ++ writeItems .compact d rest := by
  induction rest generalizing v with
  | nil => simp [writeItems, toList_compactText v d]
  | cons w rest ih =>
    rw [List.map_cons, List.map_cons, String.intercalate_cons_cons, ← List.map_cons,
      String.toList_append, String.toList_append, ih w, toList_compactText v d]
    simp [writeItems, lineBreak]

end Value

/-- The text of a store with one collection: its documents, each as it is printed, with commas
between them. -/
def collectionText (name : String) (docs : List Value) : String :=
  "\x7b" ++ String.ofList (Text.quoted name) ++ ":[" ++
    ",".intercalate (docs.map Value.compactText) ++ "]\x7d"

/-- The text of a store with one collection is that of an object with one member. -/
theorem collectionText_eq (name : String) (docs : List Value) :
    collectionText name docs = (Value.object [(name, .array docs)]).compactText := by
  refine String.toList_inj.mp ?_
  rw [Value.toList_compactText _ 0, collectionText]
  cases docs with
  | nil => simp [Value.write, Value.writeFields, Value.lineBreak, Value.colon]
  | cons v rest =>
    simp only [String.toList_append, Value.toList_intercalate_compactText v rest 2,
      String.toList_ofList]
    simp [Value.write, Value.writeFields, Value.lineBreak, Value.colon]

namespace Store

/-- Texts with one array in a member nest two levels deeper than its items. -/
def documentNesting : Nat := Json.nestingLimit - 2

/-- Documents that are printed and loaded are the same documents. -/
theorem read?_collectionText (name : String) {docs : List Value}
    (hdocs : ∀ v ∈ docs, v.Loadable) (hnesting : ∀ v ∈ docs, v.nesting ≤ documentNesting) :
    Store.read? (collectionText name docs) = some ⟨[(name, docs)]⟩ := by
  have hloadable : (Value.object [(name, .array docs)]).Loadable :=
    .object (by simp [Document.names]) (by simp) (by simpa using .array hdocs)
  have hreadable : (Value.object [(name, .array docs)]).nesting ≤ Json.nestingLimit := by
    have hitems := Value.nestingItems_le_iff.mpr hnesting
    simp only [Value.nesting, Value.nestingMembers, documentNesting,
      Json.nestingLimit] at hitems ⊢
    omega
  have hmembers : Value.toJson (.object [(name, .array docs)]) = .object
    [(name, .array (Value.toJsonItems docs))] := rfl
  rw [read?, collectionText_eq, Value.read?_compactText hloadable.floatFree, hmembers]
  have hlimit := (Value.readable_toJson_iff _ _).mpr hreadable
  rw [hmembers] at hlimit
  simp only [hlimit, if_true]
  simp [ofMembers, isOverridden, documentsOf, Value.ofJsonItems_toJsonItems hdocs]

/-- Documents that are printed are loaded as they are, and so values can be told from what is
printed of them. -/
theorem printed_documents_load (name : String) {docs : List Value}
    (hdocs : ∀ v ∈ docs, v.Loadable) (hnesting : ∀ v ∈ docs, v.nesting ≤ documentNesting) :
    (∃ s, Store.read? (collectionText name docs) = some s ∧ s.collection name = docs) ∧
      ∀ v w : Value, v.Plain → w.Plain → v.compactText = w.compactText → v = w := by
  refine ⟨⟨⟨[(name, docs)]⟩, read?_collectionText name hdocs
    hnesting, by simp [collection, find]⟩, ?_⟩
  intro v w hv hw htext
  exact Value.compactText_inj hv.isLegible hw.isLegible htext

/-- A document with a decimal, an integer and a text of escaped characters. -/
def sampleDocument : Value :=
  .object [("a", .decimal ⟨false, 1500, 3, by decide, by decide⟩),
    ("b", .array [.int 150, .string "\"\n\x01"])]

theorem sampleDocument_loads :
    collectionText "c" [sampleDocument] =
        "\x7b\"c\":[\x7b\"a\":\x7b\"$numberDecimal\":\"1.500\"\x7d," ++
          "\"b\":[150,\"\\\"\\n\\u0001\"]\x7d]\x7d" ∧
      ∃ s, Store.read? (collectionText "c" [sampleDocument]) = some s ∧
        s.collection "c" = [sampleDocument] := by
  have hdecimal : (Value.decimal ⟨false, 1500, 3, by decide, by decide⟩).Loadable :=
    ⟨⟨fun _ h => (nomatch h), fun _ h => (nomatch h)⟩, trivial, fun d h => by
      cases h
      exact (Decimal.read?_text_iff _).mpr (by decide)⟩
  have hint : (Value.int 150).Loadable :=
    ⟨⟨fun _ h => (nomatch h), fun _ h => (nomatch h)⟩, trivial, fun _ h => (nomatch h)⟩
  have hstring : (Value.string "\"\n\x01").Loadable :=
    ⟨⟨fun _ h => (nomatch h), fun _ h => (nomatch h)⟩, trivial, fun _ h => (nomatch h)⟩
  have hitems : (Value.array [.int 150, .string "\"\n\x01"]).Loadable :=
    .array (by simp [hint, hstring])
  have hdocument : sampleDocument.Loadable :=
    .object (by simp [Document.names]) (by simp) (by simp [hdecimal, hitems])
  have hdocuments : ∀ v ∈ [sampleDocument], v.Loadable := by simp [hdocument]
  exact ⟨by decide +kernel, (printed_documents_load "c" hdocuments (by decide)).1⟩

end Store

end DocQuery
