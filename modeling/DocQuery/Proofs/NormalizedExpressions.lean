import DocQuery.Proofs.ConsistentEvaluation
import DocQuery.Proofs.OperandOrder
import DocQuery.Proofs.ValueOrder
set_option autoImplicit false

/-!
# Proofs: expressions of one normal form evaluate to the same

The normal form sorts operands by the name that they stand under, and does not see whether an
operator is applied there.  Where one is, the order of the operands does not count.  What an
expression quotes and the members of an object that it makes are data though, whose order counts
as well.  Expressions of one normal form evaluate to the same if they hold no data that the
normal form takes for the same by mistake.
-/

namespace DocQuery

namespace Value

/-! ## Data in expressions -/

/-- What an expression holds that is no operand: a value that it quotes under a name, or a
member, in its normal form, of an object that applies no operator. -/
inductive Datum where
  | quotation (key : String) (v : Value)
  | entry (key : String) (v : Value)

/-- The datum as it stands in the normal form of the expression. -/
def Datum.normal : Datum → Datum
  | .quotation key v => .quotation key (sortOperands key (normalize v))
  | .entry key v => .entry key (sortOperands key v)

mutual

/-- The data in an expression. -/
def data : Value → List Datum
  | .array items => dataOfItems items
  | .object [(key, argument)] =>
    if key = "$literal" then [.quotation key argument] else data argument
  | .object fields => dataOfMembers fields
  | _ => []

/-- The data in items. -/
def dataOfItems : List Value → List Datum
  | [] => []
  | v :: rest => data v ++ dataOfItems rest

/-- The members, and the data in their values. -/
def dataOfMembers : List (String × Value) → List Datum
  | [] => []
  | (key, v) :: rest => .entry key (normalize v) :: (data v ++ dataOfMembers rest)

end

theorem data_subset_items {v : Value} {items : List Value} (h : v ∈ items) :
    data v ⊆ dataOfItems items := by
  induction items with
  | nil => simp at h
  | cons u rest ih =>
    rw [dataOfItems]
    rcases List.mem_cons.mp h with rfl | hrest
    · exact List.subset_append_left _ _
    · exact List.Subset.trans (ih hrest) (List.subset_append_right _ _)

/-- Whether data of the same normal form are the same. -/
def Datum.ToldApart (ds es : List Datum) : Prop :=
    ∀ d ∈ ds, ∀ e ∈ es, d.normal = e.normal → d = e

theorem Datum.ToldApart.mono {ds ds' es es' : List Datum} (h : ToldApart ds es) (hds : ds' ⊆ ds)
    (hes : es' ⊆ es) : ToldApart ds' es' :=
  fun d hd e he => h d (hds hd) e (hes he)

/-- Whether two expressions have one normal form, and hold data that it tells apart. -/
structure SameNormalForm (v w : Value) : Prop where
  normal : normalize v = normalize w
  data : Datum.ToldApart v.data w.data

/-- Whether two members have one name, and values of one normal form. -/
def SameMember (m n : String × Value) : Prop := m.1 = n.1 ∧ SameNormalForm m.2 n.2

/-! ## The normal form of what is not sorted -/

variable {v w a b : Value} {items others : List Value} {fields members : Document}
  {key : String}

/-- Sorting only changes the operands of an operator that takes them in any order. -/
theorem sortOperands_of_ordered (h : isUnordered key = false) (v : Value) :
    sortOperands key v = v := by
  cases v <;> simp [sortOperands, h]

theorem sortOperands_of_single (key : String) (h : v.items? = none) :
    sortOperands key v = v := by
  cases v with
  | array items => simp [items?] at h
  | _ => rfl

theorem items?_sortOperands_none (key : String) (v : Value) :
    (sortOperands key v).items? = none ↔ v.items? = none := by
  unfold sortOperands
  split
  · split <;> simp [items?]
  · rfl

theorem items?_normalize (v : Value) : (normalize v).items? = v.items?.map normalizeItems := by
  cases v <;> rfl

theorem fields?_normalize (v : Value) :
    (normalize v).fields? = v.fields?.map normalizeFields := by
  cases v <;> rfl

theorem string?_normalize (v : Value) : (normalize v).string? = v.string? := by
  cases v <;> rfl

theorem normalize_of_scalar (hitems : v.items? = none) (hfields : v.fields? = none) :
    normalize v = v := by
  cases v with
  | array items => simp [items?] at hitems
  | object fields => simp [fields?] at hfields
  | _ => rfl

/-- An object applies an operator if the operator is its only member. -/
theorem operator?_eq_some (h : (Value.object fields).operator? = some (key, a)) :
    isOperatorName key = true ∧ Value.object fields = .operator key a := by
  match fields with
  | [] => simp [operator?] at h
  | [(name, b)] =>
    simp only [operator?, Option.ite_none_right_eq_some, Option.some.injEq, Prod.mk.injEq] at h
    obtain ⟨hname, rfl, rfl⟩ := h
    exact ⟨hname, rfl⟩
  | _ :: _ :: _ => simp [operator?] at h

theorem isOperatorName_of_isUnordered (h : isUnordered key = true) :
    isOperatorName key = true := by
  simp only [isUnordered, Bool.or_eq_true, beq_iff_eq] at h
  rcases h with (rfl | rfl) | rfl <;> rfl

/-! ## Parts of expressions with one normal form -/

theorem forall₂_sameNormalForm (h : normalizeItems items = normalizeItems others)
    (hdata : Datum.ToldApart (dataOfItems items) (dataOfItems others)) :
        List.Forall₂ SameNormalForm items others := by
  induction items generalizing others with
  | nil =>
    cases others with
    | nil => exact .nil
    | cons w others => simp [normalizeItems] at h
  | cons v rest ih =>
    cases others with
    | nil => simp [normalizeItems] at h
    | cons w others =>
      simp only [normalizeItems, List.cons.injEq] at h
      rw [dataOfItems, dataOfItems] at hdata
      exact .cons ⟨h.1, hdata.mono (List.subset_append_left _ _) (List.subset_append_left _ _)⟩
        (ih h.2 (hdata.mono (List.subset_append_right _ _) (List.subset_append_right _ _)))

theorem forall₂_members (h : normalizeFields fields = normalizeFields members)
    (hdata : Datum.ToldApart (dataOfMembers fields) (dataOfMembers members)) :
    List.Forall₂ SameMember fields members := by
  induction fields generalizing members with
  | nil =>
    cases members with
    | nil => exact .nil
    | cons n members => simp [normalizeFields] at h
  | cons m rest ih =>
    cases members with
    | nil => simp [normalizeFields] at h
    | cons n members =>
      obtain ⟨name, v⟩ := m
      obtain ⟨name', w⟩ := n
      simp only [normalizeFields, List.cons.injEq, Prod.mk.injEq] at h
      obtain ⟨⟨rfl, hvalue⟩, hrest⟩ := h
      rw [dataOfMembers, dataOfMembers] at hdata
      have hentry := hdata _ List.mem_cons_self _ List.mem_cons_self
        (congrArg (Datum.entry name) hvalue)
      have hinner := hdata.mono (List.subset_cons_self _ _) (List.subset_cons_self _ _)
      exact .cons
        ⟨rfl, (Datum.entry.inj hentry).2, hinner.mono (List.subset_append_left _ _)
          (List.subset_append_left _ _)⟩
        (ih hrest (hinner.mono (List.subset_append_right _ _) (List.subset_append_right _ _)))

/-- Operands that are sorted to the same have partners of the same normal form. -/
theorem exists_partners (hkey : isUnordered key = true)
    (h : sortOperands key (normalize (.array items)) = sortOperands key (normalize b)) :
    ∃ others, b = .array others ∧ (∀ v ∈ items, ∃ w ∈ others, normalize v = normalize w) ∧
      ∀ w ∈ others, ∃ v ∈ items, normalize v = normalize w := by
  cases b with
  | array others =>
    simp only [normalize, sortOperands, hkey, if_true, Value.array.injEq,
      normalizeItems_eq_map] at h
    have hperm : (items.map normalize).Perm (others.map normalize) :=
      (sortByText_perm _).symm.trans (h ▸ sortByText_perm _)
    refine ⟨others, rfl, fun v hv => ?_, fun w hw => ?_⟩
    · obtain ⟨w, hw, hvw⟩ := List.mem_map.mp (hperm.subset (List.mem_map_of_mem hv))
      exact ⟨w, hw, hvw.symm⟩
    · exact List.mem_map.mp (hperm.symm.subset (List.mem_map_of_mem hw))
  | _ => simp [normalize, sortOperands, hkey] at h

namespace SameNormalForm

theorem string?_eq (h : SameNormalForm v w) : v.string? = w.string? := by
  rw [← string?_normalize v, h.normal, string?_normalize]

theorem items?_none (h : SameNormalForm v w) (hv : v.items? = none) : w.items? = none := by
  have hnormal := items?_normalize w
  rw [← h.normal, items?_normalize, hv] at hnormal
  exact Option.map_eq_none_iff.mp hnormal.symm

theorem fields?_none (h : SameNormalForm v w) (hv : v.fields? = none) : w.fields? = none := by
  have hnormal := fields?_normalize w
  rw [← h.normal, fields?_normalize, hv] at hnormal
  exact Option.map_eq_none_iff.mp hnormal.symm

/-- What is neither a list nor an object is its own normal form. -/
theorem eq_of_scalar (h : SameNormalForm v w) (hitems : v.items? = none)
    (hfields : v.fields? = none) : v = w := by
  have hnormal := h.normal
  rwa [normalize_of_scalar hitems hfields, normalize_of_scalar (h.items?_none hitems)
    (h.fields?_none hfields)] at hnormal

/-- What has the normal form of a list is a list of as many items. -/
theorem exists_items (h : SameNormalForm (.array items) w) :
    ∃ others, w = .array others ∧ List.Forall₂ SameNormalForm items others := by
  have hnormal := h.normal
  cases w with
  | array others =>
    rw [normalize, normalize, Value.array.injEq] at hnormal
    exact ⟨others, rfl, forall₂_sameNormalForm hnormal h.data⟩
  | _ => simp [normalize] at hnormal

theorem exists_fields (h : SameNormalForm (.object fields) w) :
    ∃ members, w = .object members ∧ normalizeFields fields = normalizeFields members := by
  have hnormal := h.normal
  cases w with
  | object members =>
    rw [normalize, normalize, Value.object.injEq] at hnormal
    exact ⟨members, rfl, hnormal⟩
  | _ => simp [normalize] at hnormal

theorem exists_argument (h : SameNormalForm (.operator key a) w) :
    ∃ b, w = .operator key b ∧
        sortOperands key (normalize a) = sortOperands key (normalize b) := by
  rw [operator] at h
  obtain ⟨members, rfl, hnormal⟩ := h.exists_fields
  cases members with
  | nil => simp [normalizeFields] at hnormal
  | cons m rest =>
    obtain ⟨name, b⟩ := m
    cases rest with
    | nil =>
      simp only [normalizeFields, List.cons.injEq, Prod.mk.injEq, and_true] at hnormal
      obtain ⟨rfl, hvalue⟩ := hnormal
      exact ⟨b, rfl, hvalue⟩
    | cons _ _ => simp [normalizeFields] at hnormal

theorem sortOperands_eq (h : SameNormalForm (.operator key a) (.operator key b)) :
    sortOperands key (normalize a) = sortOperands key (normalize b) := by
  obtain ⟨_, hb, hnormal⟩ := exists_argument h
  obtain rfl : b = _ := by simpa [operator] using hb
  exact hnormal

theorem argument_data (h : SameNormalForm (.operator key a) (.operator key b))
    (hkey : key ≠ "$literal") : Datum.ToldApart a.data b.data := by
  have hdata := h.data
  rwa [operator, operator, Value.data, Value.data, if_neg hkey, if_neg hkey] at hdata

/-- Quoted values that are told apart are the same. -/
theorem literal (h : SameNormalForm (.operator "$literal" a) (.operator "$literal" b)) :
    a = b := by
  have hquotation := h.data (.quotation "$literal" a) List.mem_cons_self (.quotation "$literal"
    b) List.mem_cons_self (congrArg (Datum.quotation "$literal") h.sortOperands_eq)
  exact (Datum.quotation.inj hquotation).2

/-- Arguments that are not sorted have the same normal form. -/
theorem argument (h : SameNormalForm (.operator key a) (.operator key b))
    (hkey : key ≠ "$literal")
    (hsort : isUnordered key = false ∨ a.items? = none) : SameNormalForm a b := by
  have hnormal := h.sortOperands_eq
  refine ⟨?_, h.argument_data hkey⟩
  rcases hsort with hordered | hsingle
  · rwa [sortOperands_of_ordered hordered, sortOperands_of_ordered hordered] at hnormal
  · have ha : (normalize a).items? = none := by
      rw [items?_normalize, hsingle]
      rfl
    have hb : (normalize b).items? = none := by
      rwa [← items?_sortOperands_none key, ← hnormal, items?_sortOperands_none]
    rwa [sortOperands_of_single key ha, sortOperands_of_single key hb] at hnormal

/-- Members of objects that apply no operator have the same names and the same normal forms. -/
theorem exists_members (h : SameNormalForm (.object fields) w)
    (hplain : (Value.object fields).operator? = none) :
    ∃ members, w = .object members ∧ (Value.object members).operator? = none ∧
      List.Forall₂ SameMember fields members := by
  obtain ⟨members, rfl, hnormal⟩ := h.exists_fields
  refine ⟨members, rfl, ?_⟩
  match fields, members with
  | [], [] => exact ⟨rfl, .nil⟩
  | [(key, a)], [(name, b)] =>
    simp only [normalizeFields, List.cons.injEq, Prod.mk.injEq] at hnormal
    obtain rfl : key = name := hnormal.1.1
    have hkey : isOperatorName key = false := by simpa [operator?] using hplain
    refine ⟨by simp [operator?, hkey], .cons ⟨rfl, argument h ?_ (.inl ?_)⟩ .nil⟩
    · rintro rfl
      simp [isOperatorName, Text.startsWith] at hkey
    · exact Bool.eq_false_iff.mpr fun hsort => by
        simp [isOperatorName_of_isUnordered hsort] at hkey
  | _ :: _ :: _, _ :: _ :: _ => exact ⟨rfl, forall₂_members hnormal h.data⟩
  | [], _ :: _ | _ :: _, [] | [_], _ :: _ :: _ | _ :: _ :: _, [_] =>
    simp [normalizeFields] at hnormal

/-- The operands of a junction have partners with the same normal form. -/
theorem operands (h : SameNormalForm (.operator key (.array items)) (.operator key b))
    (hkey : isUnordered key = true) :
    ∃ others, b = .array others ∧ (∀ v ∈ items, ∃ w ∈ others, SameNormalForm v w) ∧
      ∀ w ∈ others, ∃ v ∈ items, SameNormalForm v w := by
  have hliteral : key ≠ "$literal" := by
    rintro rfl
    simp [isUnordered] at hkey
  obtain ⟨others, rfl, hleft, hright⟩ := exists_partners hkey h.sortOperands_eq
  have hdata := h.argument_data hliteral
  have hpart : ∀ v ∈ items, ∀ w ∈ others, normalize v = normalize w → SameNormalForm v w :=
    fun v hv w hw hvw => ⟨hvw, hdata.mono (data_subset_items hv) (data_subset_items hw)⟩
  refine ⟨others, rfl, fun v hv => ?_, fun w hw => ?_⟩
  · obtain ⟨w, hw, hvw⟩ := hleft v hv
    exact ⟨w, hw, hpart v hv w hw hvw⟩
  · obtain ⟨v, hv, hvw⟩ := hright w hw
    exact ⟨v, hv, hpart v hv w hw hvw⟩

theorem value?_members (h : List.Forall₂ SameMember fields members) (key : String) :
    Option.Rel SameNormalForm (Document.value? fields key) (Document.value? members key) := by
  induction h with
  | nil => exact .none
  | @cons m n _ _ hfirst _ ih =>
    obtain ⟨name, v⟩ := m
    obtain ⟨_, w⟩ := n
    obtain ⟨rfl, hvalue⟩ := hfirst
    rw [Document.value?, Document.value?]
    split
    · exact .some hvalue
    · exact ih

/-- Parameters of the same name have the same normal form. -/
theorem field? (h : SameNormalForm v w) (key : String) (hkey : isOperatorName key = false) :
    Option.Rel SameNormalForm (v.field? key) (w.field? key) := by
  cases hfields : v.fields? with
  | none =>
    have hw := h.fields?_none hfields
    cases v <;> cases w <;> first | exact .none | simp [fields?] at hfields hw
  | some fields =>
    obtain rfl := eq_object_of_fields? hfields
    cases hop : (Value.object fields).operator? with
    | none =>
      obtain ⟨members, rfl, -, hmembers⟩ := h.exists_members hop
      exact value?_members hmembers key
    | some applied =>
      obtain ⟨name, a⟩ := applied
      obtain ⟨hname, hobject⟩ := operator?_eq_some hop
      rw [hobject] at h ⊢
      obtain ⟨b, rfl, -⟩ := h.exists_argument
      have hne : name ≠ key := by
        rintro rfl
        simp [hname] at hkey
      simp only [operator, Value.field?, Document.value?, if_neg hne]
      exact .none

end SameNormalForm


/-! ## Expressions with one normal form -/

theorem sizeOf_lt_of_field? (h : v.field? key = some a) : sizeOf a < sizeOf v := by
  cases v with
  | object fields =>
    rw [object.sizeOf_spec]
    simp only [field?] at h
    induction fields with
    | nil => simp at h
    | cons m rest ih =>
      obtain ⟨name, u⟩ := m
      rw [Document.value?] at h
      rw [List.cons.sizeOf_spec, Prod.mk.sizeOf_spec]
      split at h
      · cases h
        omega
      · have hrest := ih h
        omega
  | _ => simp [field?] at h

/-- Whether expressions up to a size agree if they have one normal form. -/
def AgreesBelow (n : Nat) : Prop :=
    ∀ v w : Value, sizeOf v < n → SameNormalForm v w → Agrees v w

namespace AgreesBelow

variable {n : Nat}

theorem forItems (ih : AgreesBelow n) (hsize : sizeOf (Value.array items) ≤ n)
    (h : List.Forall₂ SameNormalForm items others) : List.Forall₂ Agrees items others := by
  rw [array.sizeOf_spec] at hsize
  induction h with
  | nil => exact .nil
  | cons hfirst _ hrest =>
    rw [List.cons.sizeOf_spec] at hsize
    exact .cons (ih _ _ (by omega) hfirst) (hrest (by omega))

theorem forMembers (ih : AgreesBelow n) (hsize : sizeOf (Value.object fields) ≤ n)
    (h : List.Forall₂ SameMember fields members) :
    List.Forall₂ (fun m n => m.1 = n.1 ∧ Agrees m.2 n.2) fields members := by
  rw [object.sizeOf_spec] at hsize
  induction h with
  | nil => exact .nil
  | @cons m _ _ _ hfirst _ hrest =>
    obtain ⟨name, v⟩ := m
    rw [List.cons.sizeOf_spec, Prod.mk.sizeOf_spec] at hsize
    exact .cons ⟨hfirst.1, ih v _ (by omega) hfirst.2⟩ (hrest (by omega))

theorem forParameters (ih : AgreesBelow n) (hsize : sizeOf v ≤ n) (h : SameNormalForm v w)
    {names : List String}
    (hnames : ∀ name ∈ names, isOperatorName name = false) : ParametersAgree names v w := by
  intro name hname
  rcases rel_cases (h.field? name (hnames name hname)) with ⟨hv, hw⟩ | ⟨a, b, hv, hw, hab⟩
    <;> rw [hv, hw]
  · exact .none
  · exact .some (ih a b ((sizeOf_lt_of_field? hv).trans_le hsize) hab)

/-- The branches of a case distinction. -/
theorem forBranches (ih : AgreesBelow n) (hsize : sizeOf v ≤ n) (h : SameNormalForm v w) :
    Option.Rel (List.Forall₂ (ParametersAgree ["case", "then"]))
      ((v.field? "branches").bind items?) ((w.field? "branches").bind items?) := by
  rcases rel_cases (h.field? "branches" (by decide)) with ⟨hv, hw⟩ | ⟨a, b, hv, hw, hab⟩
    <;> rw [hv, hw]
  · exact .none
  · cases hitems : a.items? with
    | none => simpa only [Option.bind_some, hitems, hab.items?_none hitems] using .none
    | some items =>
      obtain rfl := eq_array_of_items? hitems
      obtain ⟨others, rfl, hbranches⟩ := hab.exists_items
      have hlt := sizeOf_lt_of_field? hv
      rw [array.sizeOf_spec] at hlt
      refine .some ?_
      clear hv hw hab hitems
      induction hbranches with
      | nil => exact .nil
      | cons hfirst _ hrest =>
        rw [List.cons.sizeOf_spec] at hlt
        exact .cons (ih.forParameters (by omega) hfirst (by decide)) (hrest (by omega))

end AgreesBelow

end Value

theorem SpecialForm.name_of_ofName? {name : String} {form : SpecialForm}
    (h : ofName? name = some form) : form.name = name := by
  unfold ofName? at h
  split at h <;> cases h <;> rfl

theorem Operator.name_of_ofName? {name : String} {op : Operator} (h : ofName? name = some op) :
    op.name = name := by
  unfold ofName? at h
  split at h <;> cases h <;> rfl

theorem Operator.isUnordered_name (op : Operator) : Value.isUnordered op.name = false := by
  cases op with
  | comparison c => cases c <;> rfl
  | arithmetic a => cases a <;> rfl
  | bits b => cases b <;> rfl
  | _ => rfl

namespace Value

variable {v w a b : Value} {key : String}

namespace AgreesBelow

variable {n : Nat} (ih : AgreesBelow n) (hsize : sizeOf a < n)
include ih hsize

theorem forJunction (settles : Bool)
    (h : SameNormalForm (.operator (if settles then "$or" else "$and") a)
      (.operator (if settles then "$or" else "$and") b)) :
    Agrees (.operator (if settles then "$or" else "$and") a)
        (.operator (if settles then "$or" else "$and") b) := by
  have hsort : isUnordered (if settles then "$or" else "$and") = true := by
    cases settles <;> rfl
  have hliteral : (if settles then "$or" else "$and") ≠ "$literal" := by
    cases settles <;> decide
  refine agrees_junction settles (fun items hitems => ?_) (fun hsingle => ?_)
  · subst hitems
    obtain ⟨others, rfl, hleft, hright⟩ := h.operands hsort
    have hitem : ∀ v ∈ items, sizeOf v < n := fun v hv => by
      have hlt := List.sizeOf_lt_of_mem hv
      rw [array.sizeOf_spec] at hsize
      omega
    refine ⟨others, rfl, fun v hv => ?_, fun w hw => ?_⟩
    · obtain ⟨w, hw, hvw⟩ := hleft v hv
      exact ⟨w, hw, ih v w (hitem v hv) hvw⟩
    · obtain ⟨v, hv, hvw⟩ := hright w hw
      exact ⟨v, hv, ih v w (hitem v hv) hvw⟩
  · have hab := h.argument hliteral (.inr hsingle)
    exact ⟨hab.items?_none hsingle, ih a b hsize hab⟩

theorem forConditional (h : SameNormalForm a b) :
    Agrees (.operator "$cond" a) (.operator "$cond" b) := by
  cases a with
  | object fields =>
    obtain ⟨members, rfl, -⟩ := h.exists_fields
    exact agrees_conditional (ih.forParameters hsize.le h (by decide))
  | array items =>
    obtain ⟨others, rfl, hitems⟩ := h.exists_items
    match items, others, ih.forItems hsize.le hitems with
    | [_, _, _], _, .cons hcondition (.cons hyes (.cons hno .nil)) =>
      intro scope
      rw [eval_conditionalList, eval_conditionalList]
      exact consistent_choice hcondition hyes hno scope
    | [], _, _ | [_], _, _ | [_, _], _, _ | _ :: _ :: _ :: _ :: _, _, _ =>
      exact fun _ => .error_left _ _
  | _ => exact fun _ => .error_left _ _

theorem forGetField (h : SameNormalForm a b) :
    Agrees (.operator "$getField" a) (.operator "$getField" b) := by
  cases hfields : a.fields? with
  | some fields =>
    obtain rfl := eq_object_of_fields? hfields
    obtain ⟨members, rfl, -⟩ := h.exists_fields
    refine agrees_getField ?_ (ih.forParameters hsize.le h (by decide))
    rcases rel_cases (h.field? "field" (by decide)) with ⟨hv, hw⟩ | ⟨_, _, hv, hw, hname⟩
      <;> rw [hv, hw]
    · exact .none
    · exact .some hname.string?_eq
  | none =>
    intro scope
    rw [eval_getFieldText hfields, eval_getFieldText (h.fields?_none hfields), h.string?_eq]
    exact .refl _

/-- Special forms, by what each of them takes. -/
theorem forSpecialForm (form : SpecialForm)
    (h : SameNormalForm (.operator form.name a) (.operator form.name b)) :
    Agrees (.operator form.name a) (.operator form.name b) := by
  by_cases hspecial : form = .literal ∨ form = .and ∨ form = .or
  · rcases hspecial with rfl | rfl | rfl
    · exact h.literal ▸ .refl _
    · exact ih.forJunction hsize false h
    · exact ih.forJunction hsize true h
  · have hab : SameNormalForm a b := by
      refine h.argument ?_ (.inl ?_) <;> cases form <;> simp_all [SpecialForm.name, isUnordered]
    have hparameters : ∀ names : List String, (∀ name ∈ names, isOperatorName name = false) →
        ParametersAgree names a b :=
      fun names hnames => ih.forParameters hsize.le hab hnames
    cases form with
    | literal | and | or => simp at hspecial
    | cond => exact ih.forConditional hsize hab
    | switch =>
      exact agrees_switch (hparameters ["default"] (by decide)) (ih.forBranches hsize.le hab)
    | map =>
      refine agrees_map ?_ (hparameters ["input", "in"] (by decide))
      rcases rel_cases (hab.field? "as" (by decide)) with ⟨hv, hw⟩ | ⟨_, _, hv, hw, hstring⟩
        <;> rw [hv, hw]
      exact hstring.string?_eq
    | patternMatch =>
      exact agrees_patternMatch (hparameters ["input", "regex", "options"] (by decide))
    | getField => exact ih.forGetField hsize hab

theorem forApply (op : Operator)
    (h : SameNormalForm (.operator op.name a) (.operator op.name b)) :
    Agrees (.operator op.name a) (.operator op.name b) := by
  have hform := op.specialForm_name
  have hab : SameNormalForm a b := by
    refine h.argument ?_ (.inl ?_)
    · intro hname
      simp [hname, SpecialForm.ofName?] at hform
    · exact op.isUnordered_name
  refine agrees_apply op (fun items hitems => ?_) fun hsingle => ⟨hab.items?_none hsingle,
    ih a b hsize hab⟩
  subst hitems
  obtain ⟨others, rfl, hitems⟩ := hab.exists_items
  exact ⟨others, rfl, ih.forItems hsize.le hitems⟩

end AgreesBelow

/-- By induction on the size of expressions, and by cases for what they are. -/
theorem agreesBelow (n : Nat) : AgreesBelow n := by
  induction n with
  | zero => exact fun v w hsize => absurd hsize (Nat.not_lt_zero _)
  | succ n ih =>
    intro v w hsize h
    have hle := Nat.lt_succ_iff.mp hsize
    cases v with
    | object fields =>
      cases hop : (Value.object fields).operator? with
      | none =>
        obtain ⟨members, rfl, hother, hmembers⟩ := h.exists_members hop
        intro scope
        rw [eval_plainObject hop, eval_plainObject hother]
        exact (consistent_evalFields (ih.forMembers hle hmembers) scope).map _
      | some applied =>
        obtain ⟨key, a⟩ := applied
        obtain ⟨hkey, hfields⟩ := operator?_eq_some hop
        rw [hfields] at h hle ⊢
        obtain ⟨b, rfl, -⟩ := h.exists_argument
        have ha : sizeOf a < n := by
          rw [operator, object.sizeOf_spec, List.cons.sizeOf_spec, Prod.mk.sizeOf_spec] at hle
          omega
        cases hform : SpecialForm.ofName? key with
        | some form =>
          obtain rfl := SpecialForm.name_of_ofName? hform
          exact ih.forSpecialForm ha form h
        | none =>
          cases hoperator : Operator.ofName? key with
          | some op =>
            obtain rfl := Operator.name_of_ofName? hoperator
            exact ih.forApply ha op h
          | none =>
            intro scope
            rw [eval_unknown hkey hform hoperator]
            exact .error_left _ _
    | array items =>
      obtain ⟨others, rfl, hitems⟩ := h.exists_items
      intro scope
      rw [eval_array, eval_array]
      exact (consistent_evalItems (ih.forItems hle hitems) scope).bind fun _ => .refl _
    | _ => exact h.eq_of_scalar rfl rfl ▸ .refl _

theorem SameNormalForm.agrees (h : SameNormalForm v w) : Agrees v w :=
  agreesBelow (sizeOf v + 1) v w (Nat.lt_succ_self _) h

/-- Expressions of one normal form evaluate to the same wherever both of them evaluate, if they
hold no data that differ only in an order that the normal form forgets.  Their results are one
value then:  they are both true or both not, and in the order of values they are equal. -/
theorem normalized_expressions_agree (h : normalize v = normalize w)
    (hdata : Datum.ToldApart v.data w.data)
    (scope : Scope) {r s : Option Value} (hr : eval v scope = .ok r)
    (hs : eval w scope = .ok s) :
    r = s ∧ isTruthy? r = isTruthy? s ∧ compare? r s = .eq := by
  obtain rfl := SameNormalForm.agrees ⟨h, hdata⟩ scope r s hr hs
  have hswap := compare?_swap r r
  refine ⟨rfl, rfl, ?_⟩
  cases hcompare : compare? r r <;> rw [hcompare] at hswap <;> simp at hswap

end Value

end DocQuery
