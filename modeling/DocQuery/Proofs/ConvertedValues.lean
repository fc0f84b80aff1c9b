import DocQuery.Proofs.DecimalTexts
import DocQuery.Proofs.PrintedTokens
import DocQuery.Proofs.StageDocuments
set_option autoImplicit false

/-!
# Proofs: values are converted to trees and back

The tree of a value has no decimals:  they become objects that hold their texts.  Nothing is
lost by this but the sign of a zero, as long as no other object is written like a decimal and
all floats are finite.
-/

namespace DocQuery.Value

/-! ## Values that trees stand for -/

/-- Whether the tree of a value stands for it, up to signs of zeros. -/
structure Convertible (v : Value) : Prop where
  /-- floats that are not finite have no tree -/
  finite : ∀ x, Contains (.float x) v → x.isFinite = true
  /-- no object is written like a decimal -/
  undisguised : ∀ s, Contains (.object [(decimalKey, .string s)]) v → Decimal.read? s = none
  /-- names stand for one member each -/
  wellFormed : v.WellFormed

theorem Convertible.item {v : Value} {items : List Value} (h : Convertible (.array items))
    (hv : v ∈ items) : v.Convertible where
  finite x hx := h.finite x (.item hv hx)
  undisguised s hs := h.undisguised s (.item hv hs)
  wellFormed := wellFormed_array.mp h.wellFormed v hv

theorem Convertible.member {m : String × Value} {fields : Document}
    (h : Convertible (.object fields)) (hm : m ∈ fields) : m.2.Convertible where
  finite x hx := h.finite x (.member hm hx)
  undisguised s hs := h.undisguised s (.member hm hs)
  wellFormed := (wellFormed_object.mp h.wellFormed).2 m hm

theorem Convertible.array {items : List Value} (h : ∀ v ∈ items, v.Convertible) :
    Convertible (.array items) where
  finite := by
    rintro x (_ | ⟨hv, hx⟩)
    exact (h _ hv).finite x hx
  undisguised := by
    rintro s (_ | ⟨hv, hs⟩)
    exact (h _ hv).undisguised s hs
  wellFormed := wellFormed_array.mpr fun v hv => (h v hv).wellFormed

theorem Convertible.object {fields : Document} (hnames : fields.names.Nodup)
    (hread : ∀ s, fields = [(decimalKey, .string s)] → Decimal.read? s = none)
    (h : ∀ m ∈ fields, m.2.Convertible) :
    Convertible (.object fields) where
  finite := by
    rintro x (_ | _ | ⟨hm, hx⟩)
    exact (h _ hm).finite x hx
  undisguised := by
    rintro s (_ | _ | ⟨hm, hs⟩)
    · exact hread s rfl
    · exact (h _ hm).undisguised s hs
  wellFormed := wellFormed_object.mpr ⟨hnames, fun m hm => (h m hm).wellFormed⟩

/-! ## Zeros without signs -/

mutual

/-- The same value with no sign at any decimal that is zero. -/
def unsignZeros : Value → Value
  | .decimal d => .decimal d.unsignZero
  | .array items => .array (unsignZerosItems items)
  | .object fields => .object (unsignZerosMembers fields)
  | v => v

/-- The same for every item. -/
def unsignZerosItems : List Value → List Value
  | [] => []
  | v :: rest => unsignZeros v :: unsignZerosItems rest

/-- The same for the value of every member. -/
def unsignZerosMembers : List (String × Value) → List (String × Value)
  | [] => []
  | (name, v) :: rest => (name, unsignZeros v) :: unsignZerosMembers rest

end

theorem names_unsignZerosMembers (fields : Document) :
    Document.names (unsignZerosMembers fields) = fields.names := by
  induction fields with
  | nil => rfl
  | cons m rest ih => exact congrArg (m.1 :: ·) ih

theorem unsignZeros_eq_string {v : Value} {s : String} (h : v.unsignZeros = .string s) :
    v = .string s := by
  cases v <;> simp_all [unsignZeros]

/-- Zeros without signs do not make an object one that is written like a decimal. -/
theorem unsignZerosMembers_eq_text {fields : Document} {name s : String}
    (h : unsignZerosMembers fields = [(name, .string s)]) : fields = [(name, .string s)] := by
  match fields with
  | [] => cases h
  | (other, v) :: rest =>
    obtain ⟨hmember, hrest⟩ := List.cons.inj h
    obtain ⟨rfl, hv⟩ := Prod.mk.inj hmember
    rw [unsignZeros_eq_string hv]
    match rest with
    | [] => rfl
    | _ :: _ => cases hrest

mutual

/-- A value is the same without signs of zeros if it has none. -/
theorem unsignZeros_eq_self_iff (v : Value) :
    v.unsignZeros = v ↔ ∀ d, Contains (.decimal d) v → d.unsignZero = d := by
  match v with
  | .null | .bool _ | .int _ | .float _ | .string _ =>
    exact ⟨fun _ _ hd => (nomatch hd), fun _ => rfl⟩
  | .decimal d =>
    rw [unsignZeros, decimal.injEq]
    refine ⟨fun h e he => ?_, fun h => h d .refl⟩
    cases he
    exact h
  | .array items =>
    rw [unsignZeros, array.injEq, unsignZerosItems_eq_self_iff items]
    refine ⟨fun h d hd => ?_, fun h v hv d hd => h d (.item hv hd)⟩
    cases hd with
    | item hv hd => exact h _ hv d hd
  | .object fields =>
    rw [unsignZeros, object.injEq, unsignZerosMembers_eq_self_iff fields]
    refine ⟨fun h d hd => ?_, fun h m hm d hd => h d (.member hm hd)⟩
    cases hd with
    | member hm hd => exact h _ hm d hd

theorem unsignZerosItems_eq_self_iff (items : List Value) :
    unsignZerosItems items = items ↔ ∀ v ∈ items, ∀ d, Contains (.decimal d) v →
        d.unsignZero = d := by
  match items with
  | [] => simp [unsignZerosItems]
  | v :: rest =>
    rw [unsignZerosItems, List.cons.injEq, List.forall_mem_cons, unsignZeros_eq_self_iff v,
      unsignZerosItems_eq_self_iff rest]

theorem unsignZerosMembers_eq_self_iff (fields : Document) :
    unsignZerosMembers fields = fields ↔ ∀ m ∈ fields, ∀ d, Contains (.decimal d) m.2 →
        d.unsignZero = d := by
  match fields with
  | [] => simp [unsignZerosMembers]
  | (name, v) :: rest =>
    rw [unsignZerosMembers, List.cons.injEq, List.forall_mem_cons, Prod.mk.injEq,
      unsignZeros_eq_self_iff v, unsignZerosMembers_eq_self_iff rest]
    simp

end

/-! ## To a tree and back -/

theorem ofInteger_toInt (n : Int64) : ofInteger n.toInt = .int n := by
  rw [ofInteger, if_pos ⟨n.minValue_le_toInt, n.toInt_le⟩, Int64.ofInt_toInt]

/-- An object that is not written like a decimal is read as an object. -/
theorem ofFields_of_undisguised {fields : Document}
    (h : ∀ s, fields = [(decimalKey, .string s)] → Decimal.read? s = none) :
        ofFields fields = .object fields := by
  unfold ofFields
  split
  · rename_i key s
    split
    · rename_i hkey
      rw [h s (by rw [hkey])]
    · rfl
  · rfl

mutual

/-- A value is converted to its tree and back, and zeros lose their signs. -/
theorem ofJson_toJson_eq (v : Value) (h : v.Convertible) :
    ofJson (toJson v) = v.unsignZeros := by
  match v with
  | .null | .bool _ | .string _ => rfl
  | .int n => exact ofInteger_toInt n
  | .float x =>
    rw [toJson, if_pos (h.finite x .refl)]
    rfl
  | .decimal d =>
    have hread := d.read?_text
    simp [toJson, ofJson, ofJsonMembers, Document.ofList, Document.insertAll, Document.insert,
      ofFields, hread, unsignZeros]
  | .array items =>
    rw [toJson, ofJson, ofJsonItems_toJsonItems_eq items fun v hv => h.item hv, unsignZeros]
  | .object fields =>
    have hnames := (names_unsignZerosMembers fields).symm ▸ (wellFormed_object.mp
      h.wellFormed).1
    rw [toJson, ofJson, ofJsonMembers_toJsonMembers_eq fields fun m hm => h.member hm,
      Document.ofList_of_nodup hnames]
    refine ofFields_of_undisguised fun s hs => h.undisguised s ?_
    rw [unsignZerosMembers_eq_text hs]
    exact .refl

theorem ofJsonItems_toJsonItems_eq (items : List Value) (h : ∀ v ∈ items, v.Convertible) :
    ofJsonItems (toJsonItems items) = unsignZerosItems items := by
  match items with
  | [] => rfl
  | v :: rest =>
    obtain ⟨hv, hrest⟩ := List.forall_mem_cons.mp h
    rw [toJsonItems, ofJsonItems, ofJson_toJson_eq v hv, ofJsonItems_toJsonItems_eq rest hrest,
      unsignZerosItems]

theorem ofJsonMembers_toJsonMembers_eq (fields : Document) (h : ∀ m ∈ fields, m.2.Convertible) :
    ofJsonMembers (toJsonMembers fields) = unsignZerosMembers fields := by
  match fields with
  | [] => rfl
  | (name, v) :: rest =>
    obtain ⟨hv, hrest⟩ := List.forall_mem_cons.mp h
    rw [toJsonMembers, ofJsonMembers, ofJson_toJson_eq v hv,
      ofJsonMembers_toJsonMembers_eq rest hrest, unsignZerosMembers]

end

/-- A value is converted to its tree and back to itself if its decimals are read from their
texts. -/
theorem ofJson_toJson_eq_self_iff {v : Value} (h : v.Convertible) :
    ofJson (toJson v) = v ↔ ∀ d, Contains (.decimal d) v → Decimal.read? d.text = some d := by
  simp only [ofJson_toJson_eq v h, unsignZeros_eq_self_iff, Decimal.read?_text, Option.some_inj]

/-- A value with finite floats only, in which no object is written like a decimal, is converted
to its tree and back to itself if its decimals are read from their texts, and else to the same
value with no signs at zeros. -/
theorem converted_back {v : Value} (h : v.Convertible) :
    (ofJson (toJson v) = v ↔ ∀ d, Contains (.decimal d) v → Decimal.read? d.text = some d) ∧
      ofJson (toJson v) = v.unsignZeros :=
  ⟨ofJson_toJson_eq_self_iff h, ofJson_toJson_eq v h⟩

/-- A decimal with zeros at the end of its fraction. -/
def minusOneAndHalf : Decimal := ⟨true, 150000, 5, by decide, by decide⟩

/-- A value with numbers of all types, and with two objects that look like decimals but are
none. -/
def lookalikes : Value :=
  .object [("b", .array [.int 1, .float 1.0, .decimal minusOneAndHalf]),
    ("a", .object [(decimalKey, .string "many")]),
    ("c", .object [(decimalKey, .decimal minusOneAndHalf)])]

theorem lookalikes_converted_back :
    lookalikes.Convertible ∧ ofJson (toJson lookalikes) = lookalikes := by
  have hdecimal : (Value.decimal minusOneAndHalf).Convertible :=
    ⟨fun _ h => (nomatch h), fun _ h => (nomatch h), trivial⟩
  have hint : (Value.int 1).Convertible := ⟨fun _ h => (nomatch h), fun _ h =>
    (nomatch h), trivial⟩
  have hstring : (Value.string "many").Convertible := ⟨fun _ h => (nomatch h), fun _ h =>
    (nomatch h), trivial⟩
  have hfloat : (Value.float 1.0).Convertible := ⟨fun x h => by cases h; decide, fun _ h =>
    (nomatch h), trivial⟩
  have hmany : (Value.object [(decimalKey, .string "many")]).Convertible :=
    .object (by decide) (by rintro s hs; cases hs; decide +kernel) (by simp [hstring])
  have hhalf : (Value.object [(decimalKey, .decimal minusOneAndHalf)]).Convertible :=
    .object (by decide) (by simp) (by simp [hdecimal])
  have harray : (Value.array [.int 1, .float 1.0, .decimal minusOneAndHalf]).Convertible :=
    .array (by simp [hint, hfloat, hdecimal])
  have hconvertible : lookalikes.Convertible := .object (by decide) (by simp) (by simp [harray,
    hmany, hhalf])
  have hsigns : lookalikes.unsignZeros = lookalikes := rfl
  refine ⟨hconvertible, (converted_back hconvertible).1.mpr fun d hd => ?_⟩
  rw [Decimal.read?_text, (unsignZeros_eq_self_iff lookalikes).mp hsigns d hd]

end DocQuery.Value
