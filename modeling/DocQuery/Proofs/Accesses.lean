import DocQuery.Proofs.Predicates
import Mathlib.Algebra.Group.Nat.Defs
set_option autoImplicit false

/-!
# Proofs: accesses show what stands in a document

An access is written as an expression.  The expression evaluates to what stands in the document
at the end of the access, as far as documents are as the schema declares them.
-/

namespace DocQuery

open Value
open Operator (found truth)

/-! ## Documents as they are declared -/

namespace Schema

theorem conforms_of_membersConform {s : Schema} {m : Model} {fields : Document} {f : Field}
    {w : Value} (h : s.membersConform m fields = true) (hf : f ∈ m.fields)
    (hw : Document.value? fields f.column = some w) :
    s.conforms (.ofField f.kind) w = true := by
  induction fields with
  | nil => simp [Document.value?] at hw
  | cons member rest ih =>
    obtain ⟨name, v⟩ := member
    simp only [membersConform, Bool.and_eq_true, List.all_eq_true] at h
    simp only [Document.value?] at hw
    by_cases hname : name = f.column
    · rw [if_pos hname] at hw
      obtain rfl := Option.some.inj hw
      exact h.1 f (List.mem_filter.mpr ⟨hf, by simp [hname]⟩)
    · rw [if_neg hname] at hw
      exact ih h.2 hw

/-- What a document holds in the column of a field is as the field declares it. -/
theorem conforms_columnOf {s : Schema} {model : String} {m : Model} {f : Field}
    {v : Option Value} {w : Value} (hm : s.model? model = some m) (hf : f ∈ m.fields)
    (hv : ∀ u, v = some u → s.conforms (.embedded model) u = true)
    (hw : columnOf v f.column = some w) : s.conforms (.ofField f.kind) w = true := by
  have hmember := eq_some_of_present hw
  cases v with
  | none => simp at hmember
  | some u =>
    have hu := hv u rfl
    cases u with
    | object fields =>
      simp only [conforms, hm] at hu
      exact conforms_of_membersConform hu hf hmember
    | _ => simp [field?] at hmember

theorem conforms_of_itemsConform {s : Schema} {model : String} {items : List Value}
    (h : s.itemsConform model items = true) {item : Value} (hitem : item ∈ items) :
    s.conforms (.embedded model) item = true := by
  induction items with
  | nil => simp at hitem
  | cons v rest ih =>
    simp only [itemsConform, Bool.and_eq_true] at h
    rcases List.mem_cons.mp hitem with rfl | hrest
    · exact h.1
    · exact ih h.2 hrest

theorem itemsConform_of_forall {s : Schema} {model : String} {items : List Value}
    (h : ∀ item ∈ items, s.conforms (.embedded model) item = true) :
    s.itemsConform model items = true := by
  induction items with
  | nil => rfl
  | cons v rest ih =>
    simp only [itemsConform, Bool.and_eq_true]
    exact ⟨h v List.mem_cons_self, ih fun w hw => h w (List.mem_cons_of_mem v hw)⟩

/-- A value of an array type is null or an array of documents. -/
theorem items_of_conforms {s : Schema} {model : String} {v : Value}
    (h : s.conforms (.embeddedArray model) v = true) :
    v = .null ∨ ∃ items, v = .array items ∧ s.itemsConform model items = true := by
  cases v with
  | null => exact .inl rfl
  | array items => exact .inr ⟨items, rfl, by simpa [conforms] using h⟩
  | _ => simp [conforms] at h

/-- A value of the type of a document is null or an object. -/
theorem fields_of_conforms {s : Schema} {model : String} {v : Value}
    (h : s.conforms (.embedded model) v = true) : v = .null ∨ ∃ fields, v = .object fields := by
  cases v with
  | null => exact .inl rfl
  | object fields => exact .inr ⟨fields, rfl⟩
  | _ => simp [conforms] at h

end Schema

/-! ## What accesses are made of -/

namespace Operator

theorem toInt_position {n : Nat} (h : n < Text.positionLimit) : (Int64.ofNat n).toInt = n :=
  Int64.toInt_ofNat_of_lt (by simp only [Text.positionLimit] at h; omega)

theorem itemAt_position (items : List Value) (n : Nat) : itemAt items n = items[n]? := by
  have hn : ¬ (n : Int) < 0 := by omega
  simp [itemAt, hn]

/-- Two positions in order cut out the items from the first one up to the second one. -/
theorem sliceItems_positions (items : List Value) {start stop : Nat}
    (hstop : stop < Text.positionLimit) (hlt : start < stop) :
    sliceItems items (some (.int (Int64.ofNat start))) (Int64.ofNat stop - Int64.ofNat start) =
      found (.array ((items.drop start).take (stop - start))) := by
  have hfrom := toInt_position (hlt.trans hstop)
  have hto := toInt_position hstop
  have hcount : (Int64.ofNat stop - Int64.ofNat start).toInt = (stop : Int) - start := by
    rw [Int64.toInt_sub_of_le, hto, hfrom]
    · simp [Int64.le_iff_toInt_le, hfrom]
    · rw [Int64.le_iff_toInt_le, hfrom, hto]
      omega
  have hpositive : ¬ (stop : Int) - start ≤ 0 := by omega
  have hstart : ¬ (start : Int) < 0 := by omega
  have hsum : ¬ Int64.maxValue.toInt < min (start : Int) items.length + (stop - start) := by
    have hmax : Int64.maxValue.toInt = 9223372036854775807 := by decide
    rw [hmax]
    simp only [Text.positionLimit] at hstop
    omega
  have htotal : ((stop : Int) - start).toNat = stop - start := by omega
  simp [sliceItems, itemsFrom, Value.int?, hcount, hfrom, hpositive, hstart, hsum, htotal]

end Operator

namespace Value

/-- A conditional evaluates to the branch that its condition chooses. -/
theorem eval_cond {condition yes no : Value} {scope : Scope} {b : Bool}
    (h : Decides scope condition b) :
    eval (.operator "$cond" (.object [("if", condition), ("then", yes), ("else", no)])) scope =
      if b then eval yes scope else eval no scope := by
  rw [eval_choice, h]
  rfl

/-- Whether the number of some results is zero, as far as they can be counted. -/
def countsZero (items : List Value) : Bool :=
  Comparison.eq.holds (compare? (some (.ofNat items.length)) (some (.int 0)))

theorem countsZero_eq {items : List Value} (hcount : items.length < 2 ^ 63) :
    countsZero items = items.isEmpty := by
  have hint : (Int64.ofNat items.length).toInt = items.length := Int64.toInt_ofNat_of_lt hcount
  show (Ord.compare (Int64.ofNat items.length).toInt (0 : Int64).toInt == .eq) = items.isEmpty
  rw [hint]
  cases items with
  | nil => rfl
  | cons item rest =>
    have hne : Ord.compare ((item :: rest).length : Int) 0 ≠ .eq := by
      intro heq
      have hzero := Std.LawfulEqCmp.eq_of_compare heq
      simp only [List.length_cons] at hzero
      omega
    simpa using hne

/-- The test for an empty array of results counts them. -/
theorem Decides.isEmptyArray {e : Value} {scope : Scope} {items : List Value}
    (hsingle : e.items? = none) (he : eval e scope = .ok (some (.array items))) :
    Decides scope (Join.isEmptyArray e) (countsZero items) := by
  have htype : eval (.operator "$type" e) scope = .ok (some (.string "array")) :=
    eval_operator_one .type hsingle he
  have hmissing : eval (.string "missing") scope = .ok (some (.string "missing")) :=
    read_of_not_operatorName rfl scope
  have hsize : eval (.operator "$size" e) scope = .ok (some (.ofNat items.length)) :=
    eval_operator_one .size hsingle he
  have hzero : eval (.int 0) scope = .ok (some (.int 0)) := by simp only [eval, found]
  have h := Decides.or₂ (Decides.comparison .eq htype hmissing) (Decides.comparison
    .eq hsize hzero)
  rw [show Comparison.eq.holds (compare? (some (.string "array")) (some (.string "missing"))) =
    false by decide, Bool.false_or] at h
  exact h

/-- A map that is empty where there is no array. -/
theorem eval_mapOf_eq (base body : Value) (scope : Scope) :
    eval (Access.mapOf base body) scope =
      (eval base scope).bind fun v =>
        (applyMap (fun item => eval body (scope.bind Access.itemName item)) v).bind fun ys =>
          Operator.applyIfNull [ys, some (.array [])] := by
  have hempty : eval (.array []) scope = found (.array []) := rfl
  refine (eval_operator_array .ifNull _ scope).trans ?_
  simp only [evalItems, eval_map, hempty]
  cases eval base scope with
  | error error => rfl
  | ok v =>
    simp only [Except.bind]
    cases applyMap (fun item => eval body (scope.bind Access.itemName item)) v <;> rfl

/-- The body of a map is evaluated for each item, and a map of no array is empty. -/
theorem eval_mapOf {array body : Value} {scope : Scope} {x : Option Value} {ys : List Value}
    (harray : eval array scope = .ok x)
    (hx : present x = none ∨ ∃ items, x = some (.array items))
    (hbody : mapItems (fun item => eval body (scope.bind Access.itemName item)) (itemsOf x)
      = .ok ys) :
    eval (Access.mapOf array body) scope = found (.array ys) := by
  rw [eval_mapOf_eq, harray]
  rcases hx with hnone | ⟨items, rfl⟩
  · rcases eq_none_or_null_of_present hnone with rfl | rfl <;>
    · obtain rfl := Except.ok.inj hbody
      rfl
  · have hitems : mapItems (fun item => eval body (scope.bind Access.itemName item)) items =
      .ok ys := hbody
    simp only [Except.bind, applyMap, hitems]
    rfl

end Value

/-! ## Shown values -/

/-- An expression shows a value of a type:  it evaluates to the value, where null counts as
missing, and the value is as its type declares.  If the expression is a text then it is that of
a path. -/
structure Shows (s : Schema) (scope : Scope) (e : Value) (type : ValueType) (v : Option Value) :
    Prop where
  evaluates : ∃ x, eval e scope = .ok x ∧ present x = v
  conforms : ∀ w, v = some w → s.conforms type w = true
  ofPath : ∀ text, e = .string text → ∃ base names, PathText scope text base names
  single : e.items? = none

namespace Shows

variable {s : Schema} {scope : Scope} {e : Value} {v : Option Value} {model : String}

theorem isNull {type : ValueType} (h : Shows s scope e type v) {w : Value} (hw : v = some w) :
    w.isNull = false := by
  obtain ⟨x, -, hx⟩ := h.evaluates
  exact isNull_of_present (hx.trans hw)

/-- The text of a path shows what stands at the path. -/
theorem ofText {text : String} {base : Value} {names : List String} {type : ValueType}
    (htext : PathText scope text base names) (hv : present (base.walk names) = v)
    (hconforms : ∀ w, v = some w → s.conforms type w = true) :
    Shows s scope (.string text) type v where
  evaluates := ⟨base.walk names, by rw [eval_string, htext.read], hv⟩
  conforms := hconforms
  ofPath t ht := by
    obtain rfl := Value.string.inj ht
    exact ⟨base, names, htext⟩
  single := rfl

/-- What an expression that shows an array evaluates to: what is missing or null, or an
array. -/
theorem array (h : Shows s scope e (.embeddedArray model) v) :
    ∃ x, eval e scope = .ok x ∧ present x = v ∧
      (present x = none ∨ ∃ items, x = some (.array items)) := by
  obtain ⟨x, hx, hv⟩ := h.evaluates
  refine ⟨x, hx, hv, ?_⟩
  cases hp : present x with
  | none => exact .inl rfl
  | some w =>
    have hw : v = some w := hv.symm.trans hp
    rcases Schema.items_of_conforms (h.conforms w hw) with rfl | ⟨items, rfl, -⟩
    · exact absurd (h.isNull hw) (by simp [Value.isNull])
    · exact .inr ⟨items, eq_some_of_present hp⟩

/-- The items of an array that is shown are documents as declared. -/
theorem conforms_item (h : Shows s scope e (.embeddedArray model) v) {item : Value}
    (hitem : item ∈ itemsOf v) : s.conforms (.embedded model) item = true := by
  cases v with
  | none => simp [itemsOf] at hitem
  | some w =>
    rcases Schema.items_of_conforms (h.conforms w rfl) with rfl | ⟨items, rfl, hitems⟩
    · simp [itemsOf] at hitem
    · exact Schema.conforms_of_itemsConform hitems hitem

/-- A path goes on into a shown document. -/
theorem walk_field {text : String} {base : Value} {names : List String}
    (h : Shows s scope (.string text) (.embedded model) v)
    (htext : PathText scope text base names) (column : String) :
    present (base.walk (names ++ [column])) = columnOf v column := by
  obtain ⟨x, hx, hv⟩ := h.evaluates
  rw [eval_string, htext.read] at hx
  obtain rfl := Except.ok.inj hx
  have hdocument : ∀ w, base.walk names = some w → w.items? = none := by
    intro w hw
    cases hnull : w.isNull with
    | true => cases w <;> simp_all [Value.isNull, items?]
    | false =>
      have hpresent : v = some w := by rw [← hv, hw, present_some hnull]
      rcases Schema.fields_of_conforms (h.conforms w hpresent) with rfl | ⟨fields, rfl⟩ <;> rfl
  rw [walk_append base names [column] fun items hitems => by
    simpa [items?] using hdocument _ hitems]
  cases hw : base.walk names with
  | none => rw [hw] at hv; subst hv; rfl
  | some w =>
    rw [Option.bind_some, walk_singleton w column (hdocument w hw)]
    cases hnull : w.isNull with
    | true =>
      cases w <;> simp_all [Value.isNull, field?, columnOf, present]
      subst hv
      rfl
    | false => rw [← hv, hw, present_some hnull]; rfl

/-- A member of a shown value that is asked for by its name. -/
theorem evaluates_fieldOf {type : ValueType} (h : Shows s scope e type v) (name : String) :
    ∃ x, eval (Access.fieldOf e name) scope = .ok x ∧ present x = columnOf v name := by
  obtain ⟨x, hx, hv⟩ := h.evaluates
  rw [eval_fieldOf, hx]
  rcases x with _ | w
  · exact ⟨none, rfl, by rw [← hv]; rfl⟩
  · cases w with
    | null => exact ⟨some .null, rfl, by rw [← hv]; rfl⟩
    | object fields => exact ⟨Document.value? fields name, rfl, by rw [← hv]; rfl⟩
    | _ => exact ⟨none, rfl, by rw [← hv]; rfl⟩

/-- A field of a shown document. -/
theorem key {m : Model} {f : Field} (h : Shows s scope e (.embedded model) v)
    (hm : s.model? model = some m) (hf : f ∈ m.fields) (hplain : '.' ∉ f.column.toList) :
    Shows s scope (Access.keyOf e f.column) (.ofField f.kind) (columnOf v f.column) := by
  have hconforms : ∀ w, columnOf v f.column = some w → s.conforms (.ofField f.kind) w = true :=
    fun w hw => Schema.conforms_columnOf hm hf h.conforms hw
  by_cases htext : ∃ text, e = .string text
  · obtain ⟨text, rfl⟩ := htext
    obtain ⟨base, names, hpath⟩ := h.ofPath text rfl
    exact ofText (hpath.extend hplain) (h.walk_field hpath f.column) hconforms
  · have hkey : Access.keyOf e f.column = Access.fieldOf e f.column := by
      cases e <;> first | rfl | simp at htext
    rw [hkey]
    exact ⟨h.evaluates_fieldOf f.column, hconforms,
      fun t ht => by simp [Access.fieldOf, operator] at ht, rfl⟩

/-- A member of a shown value without declared fields. -/
theorem jsonKey (h : Shows s scope e (.scalar .json) v) (name : String) :
    Shows s scope (Access.fieldOf e name) (.scalar .json) (columnOf v name) where
  evaluates := h.evaluates_fieldOf name
  conforms w _ := by cases w <;> rfl
  ofPath t ht := by simp [Access.fieldOf, operator] at ht
  single := rfl

/-- The item at a position of a shown array. -/
theorem index (h : Shows s scope e (.embeddedArray model) v) {n : Nat}
    (hn : n < Text.positionLimit) :
    Shows s scope (.operator "$arrayElemAt" (.array [e, .int (Int64.ofNat n)]))
      (.embedded model) (nth n v) where
  evaluates := by
    have hposition : eval (.int (Int64.ofNat n)) scope = .ok (some (.int (Int64.ofNat n))) := by
      simp only [eval, found]
    obtain ⟨x, hx, hv, hshape⟩ := h.array
    have happly := eval_operator_pair .elementAt hx hposition
    rcases hshape with hnone | ⟨items, rfl⟩
    · refine ⟨some .null, ?_, by rw [← hv, hnone]; rfl⟩
      rcases eq_none_or_null_of_present hnone with rfl | rfl <;> exact happly
    · have hitem : Operator.elementAt.apply [some (.array items), some (.int (Int64.ofNat n))]
          = .ok items[n]? := by
        show Except.ok (Operator.itemAt items (Int64.ofNat n).toInt) = _
        rw [Operator.toInt_position hn, Operator.itemAt_position]
      refine ⟨items[n]?, happly.trans hitem, ?_⟩
      rw [← hv]
      rfl
  conforms w hw := by
    have hitem := eq_some_of_present hw
    exact h.conforms_item (List.mem_of_getElem? hitem)
  ofPath t ht := by simp [operator] at ht
  single := rfl

/-- A part of a shown array. -/
theorem slice (h : Shows s scope e (.embeddedArray model) v) {start stop : Nat}
    (hstop : stop < Text.positionLimit) (hlt : start < stop) :
    Shows s scope (.operator "$slice"
        (.array [e, .int (Int64.ofNat start), .int (Int64.ofNat stop - Int64.ofNat start)]))
      (.embeddedArray model) (between start stop v) where
  evaluates := by
    have hfrom : eval (.int (Int64.ofNat start)) scope =
        .ok (some (.int (Int64.ofNat start))) := by
      simp only [eval, found]
    have hcount : eval (.int (Int64.ofNat stop - Int64.ofNat start)) scope
        = .ok (some (.int (Int64.ofNat stop - Int64.ofNat start))) := by
      simp only [eval, found]
    obtain ⟨x, hx, hv, hshape⟩ := h.array
    have happly : eval (.operator "$slice" (.array
        [e, .int (Int64.ofNat start), .int (Int64.ofNat stop - Int64.ofNat start)])) scope =
            _ :=
      (eval_operator_array .slice _ scope).trans
        (by rw [evalItems_cons hx (evalItems_pair hfrom hcount)])
    rcases hshape with hnone | ⟨items, rfl⟩
    · refine ⟨some .null, ?_, by rw [← hv, hnone]; rfl⟩
      rcases eq_none_or_null_of_present hnone with rfl | rfl <;> exact happly
    · refine ⟨some (.array ((items.drop start).take (stop - start))),
        happly.trans (Operator.sliceItems_positions items hstop hlt), ?_⟩
      rw [← hv]
      rfl
  conforms w hw := by
    cases v with
    | none => simp [between] at hw
    | some u =>
      cases u with
      | array items =>
        obtain rfl := Option.some.inj hw
        rw [Schema.conforms]
        refine Schema.itemsConform_of_forall fun item hitem => h.conforms_item ?_
        exact List.mem_of_mem_drop (List.mem_of_mem_take hitem)
      | _ => simp [between] at hw
  ofPath t ht := by simp [operator] at ht
  single := rfl

/-- The number of items of a shown array. -/
theorem length (h : Shows s scope e (.embeddedArray model) v) :
    Shows s scope (Access.lengthOf e) (.scalar .integer) (lengthOf v) where
  evaluates := by
    obtain ⟨x, hx, hv, hshape⟩ := h.array
    have hcheck : Decides scope (.operator "$isArray" e) (Operator.isArrayValue x) :=
      eval_operator_one .isArray h.single hx
    have hsize : eval (.operator "$size" e) scope = Operator.applySize x :=
      eval_operator_one .size h.single hx
    have hnull : eval .null scope = .ok (some .null) := by simp only [eval, found]
    rw [Access.lengthOf, eval_cond hcheck, hsize, hnull]
    rcases hshape with hnone | ⟨items, rfl⟩
    · refine ⟨some .null, ?_, by rw [← hv, hnone]; rfl⟩
      rcases eq_none_or_null_of_present hnone with rfl | rfl <;> rfl
    · exact ⟨some (.ofNat items.length), rfl, by rw [← hv]; rfl⟩
  conforms w hw := by
    cases v with
    | none => simp [lengthOf] at hw
    | some u =>
      cases u with
      | array items =>
        obtain rfl := Option.some.inj hw
        rfl
      | _ => simp [lengthOf] at hw
  ofPath t ht := by simp [Access.lengthOf, operator] at ht
  single := rfl

/-- The column of a field of a document. -/
theorem column {doc : Value} {vars : Document} {m : Model} {f : Field}
    (hm : s.model? model = some m) (hf : f ∈ m.fields)
    (hdoc : s.conforms (.embedded model) doc = true) (hplain : '.' ∉ f.column.toList)
    (hdollar : isOperatorName f.column = false) :
    Shows s ⟨doc, vars⟩ (.string ("$" ++ f.column)) (.ofField f.kind)
      (columnOf (some doc) f.column) := by
  have hnames : pathNames f.column = [f.column] := Text.split_of_notMem hplain
  have hitems : doc.items? = none := by
    rcases Schema.fields_of_conforms hdoc with rfl | ⟨fields, rfl⟩ <;> rfl
  refine ofText (PathText.root f.column hdollar) ?_ ?_
  · rw [hnames, walk_singleton _ _ hitems]
    rfl
  · intro w hw
    refine Schema.conforms_columnOf hm hf (fun u hu => ?_) hw
    rwa [← Option.some.inj hu]

/-- The current item of an array. -/
theorem item (scope : Scope) {item : Value} (hitem : s.conforms (.embedded model) item = true) :
    Shows s (scope.bind Access.itemName item) (.string ("$$" ++ Access.itemName))
      (.embedded model) (present (some item)) := by
  have hvalue : (scope.bind Access.itemName item).variableOf Access.itemName = .ok item := by
    have hname : Scope.isRootName Access.itemName = false := by decide
    simp [Scope.variableOf, hname, Scope.bind]
  refine ofText (PathText.bound Access.itemName item (by decide) hvalue) (by rw [walk_nil]) ?_
  intro w hw
  obtain rfl := Option.some.inj (eq_some_of_present hw)
  exact hitem

end Shows

end DocQuery
