import DocQuery.Proofs.Rows
import Mathlib.Data.Rat.Cast.Order
import Mathlib.Order.Compare
import Mathlib.Tactic.Positivity
set_option autoImplicit false

/-!
# Proofs: the order of values is an order

Numbers that have decimals are ordered by the rational numbers that these stand for.  From there
the order goes up to arrays and objects, which are compared part by part, and to documents,
which are compared by the keys of a sort.  What is sorted is therefore in order.  Floats without
a decimal are left out:  they are compared as floats with some numbers, and as decimals are with
none.
-/

namespace DocQuery

open Std (TransCmp OrientedCmp)

/-! ## Orders of three things -/

/-- How three things are ordered that are taken two at a time: a thing that is as high as
another one is ordered like it, and an order of the first and the second that is that of the
second and the third is that of the first and the third. -/
def Chains (first rest both : Ordering) : Prop :=
  (first = .eq → both = rest) ∧ (rest = .eq → both = first) ∧ (first = rest → both = first)

namespace Chains

variable {first rest both first' rest' both' : Ordering}

theorem of_trans {α : Type} (cmp : α → α → Ordering) [TransCmp cmp] (a b c : α) :
    Chains (cmp a b) (cmp b c) (cmp a c) := by
  refine ⟨TransCmp.congr_left, fun h => (TransCmp.congr_right h).symm, fun h => ?_⟩
  cases hab : cmp a b with
  | lt => exact TransCmp.lt_trans hab (h ▸ hab)
  | eq => rw [TransCmp.congr_left hab, ← h, hab]
  | gt => exact TransCmp.gt_trans hab (h ▸ hab)

/-- A second order decides where the first one does not. -/
theorem thenBy (h : Chains first rest both)
    (h' : first = .eq → rest = .eq → Chains first' rest' both') :
    Chains (first.then first') (rest.then rest') (both.then both') := by
  cases first <;> cases rest <;> cases both <;> simp_all [Chains, Ordering.then]

theorem swap (h : Chains first rest both) : Chains first.swap rest.swap both.swap := by
  cases first <;> cases rest <;> cases both <;> simp_all [Chains]

/-- The first is not behind the third if neither is behind the second. -/
theorem isLE (h : Chains first rest both) (hfirst : first ≠ .gt) (hrest : rest ≠ .gt) :
    both ≠ .gt := by
  cases first <;> cases rest <;> cases both <;> simp_all [Chains]

end Chains

/-! ## Numbers -/

namespace Decimal

/-- The rational number that a decimal stands for. -/
def value (d : Decimal) : ℚ := d.signed / 10 ^ d.scale

theorem compare_eq_value (a b : Decimal) : a.compare b = Ord.compare a.value b.value := by
  have hscale : ∀ d : Decimal, (0 : ℚ) < 10 ^ d.scale := fun d => by positivity
  have hlt : ∀ x y : Decimal, x.signed * Int.pow 10 y.scale < y.signed * Int.pow 10 x.scale ↔
      x.value < y.value := by
    intro x y
    rw [value, value, div_lt_div_iff₀ (hscale x) (hscale y)]
    exact_mod_cast Iff.rfl
  unfold compare
  rcases lt_trichotomy a.value b.value with h | h | h
  · rw [compare_lt_iff_lt.mpr h, compare_lt_iff_lt.mpr ((hlt a b).mpr h)]
  · rw [compare_eq_iff_eq.mpr h, compare_eq_iff_eq]
    have hab := (hlt a b).not.mpr (not_lt.mpr h.ge)
    have hba := (hlt b a).not.mpr (not_lt.mpr h.le)
    omega
  · rw [compare_gt_iff_gt.mpr h, compare_gt_iff_gt.mpr ((hlt b a).mpr h)]

theorem ofInt64_parts (n : Int64) : (ofInt64 n).signed = n.toInt ∧ (ofInt64 n).scale = 0 := by
  have hlow := n.le_toInt
  have hhigh := n.toInt_lt
  have habs : n.toInt.natAbs ≤ 2 ^ 63 := by omega
  have hfits : n.toInt.natAbs < Nat.pow 2 96 ∧ 0 ≤ 28 :=
    ⟨Nat.lt_of_le_of_lt habs (by decide), by decide⟩
  unfold ofInt64 ofParts? withParts?
  rw [dif_pos hfits, Option.getD_some]
  refine ⟨?_, rfl⟩
  by_cases hn : n.toInt < 0
  · simp [signed, hn, hn.ne, abs_of_neg hn]
  · simp [signed, hn, abs_of_nonneg (not_lt.mp hn)]

/-- Integers are ordered as they are as decimals. -/
theorem compare_ofInt64 (m n : Int64) :
    (ofInt64 m).compare (ofInt64 n) = Ord.compare m.toInt n.toInt := by
  obtain ⟨hm, hmscale⟩ := ofInt64_parts m
  obtain ⟨hn, hnscale⟩ := ofInt64_parts n
  simp [compare, hm, hmscale, hn, hnscale]

end Decimal

/-! ## Floats -/

namespace Value

/-- Floats in parts are compared the other way round with the opposite result, if with any. -/
theorem unpacked_compare_swap (a b : Float.Model.UnpackedFloat) :
    (a.compare b).map Ordering.swap = b.compare a := by
  have hsign : ∀ s t : Float.Model.UnpackedFloat.Sign, (Ord.compare s t).swap =
      Ord.compare t s := by
    intro s t
    cases s <;> cases t <;> rfl
  have hparts : ∀ (m n : ℕ) (e f : ℤ), ((Ord.compare e f).then (Ord.compare m n)).swap =
      (Ord.compare f e).then (Ord.compare n m) := by
    intro m n e f
    rw [Ordering.swap_then, ← OrientedCmp.eq_swap, ← OrientedCmp.eq_swap]
  cases a with
  | notANumber => cases b <;> rfl
  | infinity s =>
    cases b with
    | infinity t => exact congrArg some (hsign s t)
    | _ => cases s <;> rfl
  | zero s =>
    cases b with
    | notANumber => rfl
    | zero t => rfl
    | infinity t => cases t <;> rfl
    | finite t n f hn => cases t <;> rfl
  | finite s m e hm =>
    cases b with
    | notANumber => rfl
    | zero t => cases s <;> rfl
    | infinity t => cases t <;> rfl
    | finite t n f hn =>
      cases s <;> cases t
      case positive.positive => exact congrArg some (hparts m n e f)
      case negative.negative => exact congrArg (fun o => some o.swap) (hparts m n e f)
      all_goals rfl

theorem float_lt_asymm {x y : Float} (h : x < y) : ¬ y < x := by
  intro hback
  have hcompare : ∀ {u v : Float}, u < v → u.toModel.unpack.compare v.toModel.unpack =
      some .lt :=
    fun huv => eq_of_beq (of_decide_eq_true huv : Float.Model.lt _ _ = true)
  have hswap := unpacked_compare_swap x.toModel.unpack y.toModel.unpack
  rw [hcompare h, hcompare hback] at hswap
  cases hswap

theorem compareFloats_swap (x y : Float) : (compareFloats x y).swap = compareFloats y x := by
  unfold compareFloats
  by_cases hxy : x < y
  · simp [hxy, float_lt_asymm hxy]
  · by_cases hyx : y < x <;> simp [hxy, hyx]

/-! ## Values -/

mutual

/-- Whether every number in a value has a decimal. -/
def HasDecimals : Value → Prop
  | .float x => (Decimal.ofFloat? x).isSome = true
  | .array items => HasDecimalItems items
  | .object fields => HasDecimalFields fields
  | _ => True

/-- The same for every item. -/
def HasDecimalItems : List Value → Prop
  | [] => True
  | v :: rest => HasDecimals v ∧ HasDecimalItems rest

/-- The same for the value of every member. -/
def HasDecimalFields : List (String × Value) → Prop
  | [] => True
  | (_, v) :: rest => HasDecimals v ∧ HasDecimalFields rest

end

mutual

/-- Whether every number has a decimal can be decided part by part. -/
def decideHasDecimals : (v : Value) → Decidable v.HasDecimals
  | .float x => inferInstanceAs (Decidable ((Decimal.ofFloat? x).isSome = true))
  | .array items => decideHasDecimalItems items
  | .object fields => decideHasDecimalFields fields
  | .null | .int _ | .decimal _ | .string _ | .bool _ => .isTrue trivial

/-- The same for items. -/
def decideHasDecimalItems : (items : List Value) → Decidable (HasDecimalItems items)
  | [] => .isTrue trivial
  | v :: rest => @instDecidableAnd _ _ (decideHasDecimals v) (decideHasDecimalItems rest)

/-- The same for members. -/
def decideHasDecimalFields :
    (fields : List (String × Value)) → Decidable (HasDecimalFields fields)
  | [] => .isTrue trivial
  | (_, v) :: rest => @instDecidableAnd _ _ (decideHasDecimals v) (decideHasDecimalFields rest)

end

instance (v : Value) : Decidable v.HasDecimals := decideHasDecimals v

/-- The rational number that a number stands for. -/
def number? (v : Value) : Option ℚ := v.toDecimal?.map Decimal.value

theorem exists_number {v : Value} (h : v.HasDecimals) (hv : v.rank = 2) :
    ∃ q, v.number? = some q := by
  cases v with
  | int n => exact ⟨_, rfl⟩
  | decimal d => exact ⟨_, rfl⟩
  | float x =>
    obtain ⟨d, hd⟩ := Option.isSome_iff_exists.mp h
    exact ⟨d.value, by simp [number?, toDecimal?, hd]⟩
  | _ => simp [rank] at hv

theorem isNumber_of_number {v : Value} {q : ℚ} (h : v.number? = some q) :
    v.isNumber = true := by
  cases v <;> simp_all [number?, toDecimal?, isNumber]

/-- Numbers that have decimals are ordered like the rational numbers that they stand for. -/
theorem compare_eq_number {a b : Value} {p q : ℚ} (ha : a.number? = some p)
    (hb : b.number? = some q) : compare a b = Ord.compare p q := by
  have hnumbers : compare a b = compareNumbers a b := by
    have hanumber := isNumber_of_number ha
    have hbnumber := isNumber_of_number hb
    cases a <;> cases b <;> simp_all [isNumber, compare]
  obtain ⟨x, hx, rfl⟩ := Option.map_eq_some_iff.mp ha
  obtain ⟨y, hy, rfl⟩ := Option.map_eq_some_iff.mp hb
  rw [hnumbers, ← Decimal.compare_eq_value]
  unfold compareNumbers
  split
  · rename_i m n
    obtain rfl : Decimal.ofInt64 m = x := Option.some.inj hx
    obtain rfl : Decimal.ofInt64 n = y := Option.some.inj hy
    exact (Decimal.compare_ofInt64 m n).symm
  · simp only [hx, hy]

/-- The order of values is that of their types, and within a type one of its own. -/
theorem compare_eq_then (a b : Value) :
    compare a b = (Ord.compare a.rank b.rank).then (compare a b) := by
  cases a <;> cases b <;> rfl

theorem compare_chains_numbers {a b c : Value} (ha : a.HasDecimals) (hb : b.HasDecimals)
    (hc : c.HasDecimals)
    (hnumber : a.rank = 2) (hab : b.rank = a.rank) (hac : c.rank = a.rank) :
    Chains (compare a b) (compare b c) (compare a c) := by
  obtain ⟨p, hp⟩ := exists_number ha hnumber
  obtain ⟨q, hq⟩ := exists_number hb (hab.trans hnumber)
  obtain ⟨r, hr⟩ := exists_number hc (hac.trans hnumber)
  rw [compare_eq_number hp hq, compare_eq_number hq hr, compare_eq_number hp hr]
  exact Chains.of_trans Ord.compare p q r

/-- Numbers of which one is no integer are compared as decimals, or else as floats. -/
theorem compareNumbers_of_ne {a b : Value} (h : ∀ m n, ¬ (a = .int m ∧ b = .int n)) :
    compareNumbers a b =
      match a.toDecimal?, b.toDecimal? with
      | some x, some y => x.compare y
      | _, _ =>
        match a.toFloat?, b.toFloat? with
        | some x, some y => compareFloats x y
        | _, _ => .eq := by
  unfold compareNumbers
  split
  · exact absurd ⟨rfl, rfl⟩ (h _ _)
  · rfl

theorem compareNumbers_swap (a b : Value) : (compareNumbers a b).swap = compareNumbers b a := by
  by_cases hints : ∃ m n, a = .int m ∧ b = .int n
  · obtain ⟨m, n, rfl, rfl⟩ := hints
    exact (OrientedCmp.eq_swap : Ord.compare n.toInt m.toInt = _).symm
  · rw [compareNumbers_of_ne fun m n h => hints ⟨m, n, h⟩, compareNumbers_of_ne fun m n h =>
      hints ⟨n, m, h.2, h.1⟩]
    cases a.toDecimal? <;> cases b.toDecimal?
    case some.some x y =>
      simp only [Decimal.compare_eq_value]
      exact OrientedCmp.eq_swap.symm
    all_goals
      cases a.toFloat? <;> cases b.toFloat? <;> first | rfl | exact compareFloats_swap _ _

theorem compare_swap_numbers {a b : Value} (hnumber : a.rank = 2) (hab : b.rank = a.rank) :
    (compare a b).swap = compare b a := by
  have hnumbers : ∀ {u v : Value}, u.rank = 2 → v.rank = 2 → compare u v =
      compareNumbers u v := by
    intro u v hu hv
    cases u <;> simp [rank] at hu <;> cases v <;> simp [rank] at hv <;> rfl
  rw [hnumbers hnumber (hab.trans hnumber), hnumbers (hab.trans hnumber) hnumber,
    compareNumbers_swap]

mutual

/-- Values whose numbers have decimals are ordered transitively. -/
theorem compare_chains (a b c : Value) (ha : a.HasDecimals) (hb : b.HasDecimals)
    (hc : c.HasDecimals) : Chains (compare a b) (compare b c) (compare a c) := by
  rw [compare_eq_then a b, compare_eq_then b c, compare_eq_then a c]
  refine (Chains.of_trans Ord.compare a.rank b.rank c.rank).thenBy fun hab hbc => ?_
  have hb' : b.rank = a.rank := (Nat.compare_eq_eq.mp hab).symm
  have hc' : c.rank = a.rank := (Nat.compare_eq_eq.mp hbc).symm.trans hb'
  match a with
  | .array as =>
    cases b <;> simp [rank] at hb'
    cases c <;> simp [rank] at hc'
    exact compareItems_chains as _ _ ha hb hc
  | .object as =>
    cases b <;> simp [rank] at hb'
    cases c <;> simp [rank] at hc'
    exact compareFields_chains as _ _ ha hb hc
  | .string s =>
    cases b <;> simp [rank] at hb'
    cases c <;> simp [rank] at hc'
    exact Chains.of_trans Ord.compare s _ _
  | .bool x =>
    cases b <;> simp [rank] at hb'
    cases c <;> simp [rank] at hc'
    exact Chains.of_trans Ord.compare x _ _
  | .null =>
    cases b <;> simp [rank] at hb'
    cases c <;> simp [rank] at hc'
    exact Chains.of_trans Ord.compare () () ()
  | .int n => exact compare_chains_numbers ha hb hc rfl hb' hc'
  | .float x => exact compare_chains_numbers ha hb hc rfl hb' hc'
  | .decimal d => exact compare_chains_numbers ha hb hc rfl hb' hc'

theorem compareItems_chains (as bs cs : List Value) (ha : HasDecimalItems as)
    (hb : HasDecimalItems bs)
    (hc : HasDecimalItems cs) :
        Chains (compareItems as bs) (compareItems bs cs) (compareItems as cs) := by
  match as, bs, cs, ha, hb, hc with
  | a :: as, b :: bs, c :: cs, ⟨ha, has⟩, ⟨hb, hbs⟩, ⟨hc, hcs⟩ =>
    exact (compare_chains a b c ha hb hc).thenBy fun _ _ => compareItems_chains as bs
      cs has hbs hcs
  | [], [], [], _, _, _ => simp [compareItems, Chains]
  | [], [], _ :: _, _, _, _ => simp [compareItems, Chains]
  | [], _ :: _, [], _, _, _ => simp [compareItems, Chains]
  | [], _ :: _, _ :: _, _, _, _ => simp [compareItems, Chains]
  | _ :: _, [], [], _, _, _ => simp [compareItems, Chains]
  | _ :: _, [], _ :: _, _, _, _ => simp [compareItems, Chains]
  | _ :: _, _ :: _, [], _, _, _ => simp [compareItems, Chains, eq_comm]

theorem compareFields_chains (as bs cs : Document) (ha : HasDecimalFields as)
    (hb : HasDecimalFields bs)
    (hc : HasDecimalFields cs) :
        Chains (compareFields as bs) (compareFields bs cs) (compareFields as cs) := by
  match as, bs, cs, ha, hb, hc with
  | (j, a) :: as, (k, b) :: bs, (l, c) :: cs, ⟨ha, has⟩, ⟨hb, hbs⟩, ⟨hc, hcs⟩ =>
    exact (Chains.of_trans Ord.compare j k l).thenBy fun _ _ =>
        (compare_chains a b c ha hb hc).thenBy fun _ _ =>
      compareFields_chains as bs cs has hbs hcs
  | [], [], [], _, _, _ => simp [compareFields, Chains]
  | [], [], _ :: _, _, _, _ => simp [compareFields, Chains]
  | [], _ :: _, [], _, _, _ => simp [compareFields, Chains]
  | [], _ :: _, _ :: _, _, _, _ => simp [compareFields, Chains]
  | _ :: _, [], [], _, _, _ => simp [compareFields, Chains]
  | _ :: _, [], _ :: _, _, _, _ => simp [compareFields, Chains]
  | _ :: _, _ :: _, [], _, _, _ => simp [compareFields, Chains, eq_comm]

end

mutual

/-- The order the other way round. -/
theorem compare_swap (a b : Value) : (compare a b).swap = compare b a := by
  rw [compare_eq_then a b, compare_eq_then b a, Ordering.swap_then, Nat.compare_swap]
  cases hrank : Ord.compare b.rank a.rank with
  | lt => rfl
  | gt => rfl
  | eq =>
    have hb' : b.rank = a.rank := Nat.compare_eq_eq.mp hrank
    match a with
    | .array as =>
      cases b <;> simp [rank] at hb'
      exact compareItems_swap as _
    | .object as =>
      cases b <;> simp [rank] at hb'
      exact compareFields_swap as _
    | .string s =>
      cases b <;> simp [rank] at hb'
      rename_i t
      exact (OrientedCmp.eq_swap : Ord.compare t s = _).symm
    | .bool x =>
      cases b <;> simp [rank] at hb'
      rename_i y
      exact (OrientedCmp.eq_swap : Ord.compare y x = _).symm
    | .null =>
      cases b <;> simp [rank] at hb'
      rfl
    | .int n => exact compare_swap_numbers rfl hb'
    | .float x => exact compare_swap_numbers rfl hb'
    | .decimal d => exact compare_swap_numbers rfl hb'

theorem compareItems_swap (as bs : List Value) :
    (compareItems as bs).swap = compareItems bs as := by
  match as, bs with
  | [], [] => rfl
  | [], _ :: _ => rfl
  | _ :: _, [] => rfl
  | a :: as, b :: bs =>
    rw [compareItems, compareItems, Ordering.swap_then, compare_swap a b,
      compareItems_swap as bs]

theorem compareFields_swap (as bs : Document) :
    (compareFields as bs).swap = compareFields bs as := by
  match as, bs with
  | [], [] => rfl
  | [], _ :: _ => rfl
  | _ :: _, [] => rfl
  | (j, a) :: as, (k, b) :: bs =>
    rw [compareFields, compareFields, Ordering.swap_then, Ordering.swap_then, compare_swap a b,
      compareFields_swap as bs, ← OrientedCmp.eq_swap]

end

/-! ## Values that may be missing -/

theorem compare?_chains {a b c : Option Value} (ha : ∀ v ∈ a, v.HasDecimals)
    (hb : ∀ v ∈ b, v.HasDecimals)
    (hc : ∀ v ∈ c, v.HasDecimals) : Chains (compare? a b) (compare? b c) (compare? a c) := by
  cases a <;> cases b <;> cases c
  case some.some.some a b c => exact compare_chains a b c (ha a rfl) (hb b rfl) (hc c rfl)
  all_goals simp [compare?, Chains, eq_comm]

theorem compare?_swap (a b : Option Value) : (compare? a b).swap = compare? b a := by
  cases a <;> cases b
  case some.some a b => exact compare_swap a b
  all_goals rfl

end Value

/-! ## Sorted lists -/

/-- A list was put in order: its items are rearranged so that they are in order, and those of
them that were in order before stay in their order. -/
structure StableSort {α : Type} (r : α → α → Prop) (before after : List α) : Prop where
  perm : after.Perm before
  sorted : after.Pairwise r
  stable : ∀ part : List α, part.Sublist before → part.Pairwise r → part.Sublist after

/-- Which order it is counts on the items only. -/
theorem StableSort.imp {α : Type} {r t : α → α → Prop} {before after : List α}
    (h : StableSort r before after)
    (hsame : ∀ a ∈ before, ∀ b ∈ before, r a b ↔ t a b) : StableSort t before after where
  perm := h.perm
  sorted := h.sorted.imp_of_mem fun {a b} ha hb =>
    (hsame a (h.perm.subset ha) b (h.perm.subset hb)).mp
  stable := fun part hpart hsorted => h.stable part hpart <|
      hsorted.imp_of_mem fun {a b} ha hb =>
    (hsame a (hpart.subset ha) b (hpart.subset hb)).mpr

/-- A list is put in order by an order that is total and transitive on its items. -/
theorem stableSort_mergeSort {α : Type} {le : α → α → Bool} {items : List α}
    (htrans : ∀ a ∈ items, ∀ b ∈ items, ∀ c ∈ items, le a b = true → le b c = true →
      le a c = true)
    (htotal : ∀ a ∈ items, ∀ b ∈ items, (le a b || le b a) = true) :
    StableSort (fun a b => le a b = true) items (items.mergeSort le) := by
  -- the order need not be total and transitive on other items, so these are sorted in a type of
  -- their own
  have hmap : (items.attach.mergeSort fun a b => le a.1 b.1).map Subtype.val =
      items.mergeSort le := by
    rw [List.map_mergeSort (s := le) fun a _ b _ => rfl, List.attach_map_subtype_val]
  have htrans' : ∀ a b c : {a // a ∈ items}, le a.1 b.1 = true → le b.1 c.1 = true →
      le a.1 c.1 = true :=
    fun a b c => htrans a.1 a.2 b.1 b.2 c.1 c.2
  have htotal' : ∀ a b : {a // a ∈ items}, (le a.1 b.1 || le b.1 a.1) = true :=
    fun a b => htotal a.1 a.2 b.1 b.2
  refine ⟨List.mergeSort_perm _ _, ?_, fun part hpart hsorted => ?_⟩
  · rw [← hmap, List.pairwise_map]
    exact List.pairwise_mergeSort htrans' htotal' items.attach
  · rw [← List.attach_map_subtype_val items] at hpart
    obtain ⟨typed, htyped, rfl⟩ := List.sublist_map_iff.mp hpart
    rw [← hmap]
    exact (List.sublist_mergeSort htrans' htotal' (List.pairwise_map.mp hsorted)
      htyped).map Subtype.val

namespace Stage

/-! ## Sorted documents -/

/-- Whether the values of a document at the keys of a sort only hold numbers that have
decimals. -/
def HasDecimalKeys (keys : List (String × Direction)) (doc : Value) : Prop :=
  ∀ k ∈ keys, ∀ v ∈ doc.getPath k.1, v.HasDecimals

variable {keys : List (String × Direction)} {a b c : Value}

theorem compareBy_chains (ha : HasDecimalKeys keys a) (hb : HasDecimalKeys keys b)
    (hc : HasDecimalKeys keys c) :
    Chains (compareBy a b keys) (compareBy b c keys) (compareBy a c keys) := by
  induction keys with
  | nil => exact ⟨fun _ => rfl, fun _ => rfl, fun _ => rfl⟩
  | cons k rest ih =>
    obtain ⟨key, direction⟩ := k
    obtain ⟨hakey, harest⟩ := List.forall_mem_cons.mp ha
    obtain ⟨hbkey, hbrest⟩ := List.forall_mem_cons.mp hb
    obtain ⟨hckey, hcrest⟩ := List.forall_mem_cons.mp hc
    refine Chains.thenBy ?_ fun _ _ => ih harest hbrest hcrest
    have hkey := Value.compare?_chains hakey hbkey hckey
    cases direction with
    | ascending => exact hkey
    | descending => exact hkey.swap

theorem compareBy_swap (a b : Value) (keys : List (String × Direction)) :
    (compareBy a b keys).swap = compareBy b a keys := by
  induction keys with
  | nil => rfl
  | cons k rest ih =>
    obtain ⟨key, direction⟩ := k
    have hkey := Value.compare?_swap (a.getPath key) (b.getPath key)
    cases direction <;> simp [compareBy, Direction.apply, Ordering.swap_then, hkey, ih]

/-- The order is total. -/
theorem compareBy_total (a b : Value) (keys : List (String × Direction)) :
    (compareBy a b keys != .gt || compareBy b a keys != .gt) = true := by
  rw [← compareBy_swap a b]
  cases compareBy a b keys <;> rfl

theorem compareBy_trans (ha : HasDecimalKeys keys a) (hb : HasDecimalKeys keys b)
    (hc : HasDecimalKeys keys c)
    (hab : (compareBy a b keys != .gt) = true) (hbc : (compareBy b c keys != .gt) = true) :
    (compareBy a c keys != .gt) = true :=
  bne_iff_ne.mpr ((compareBy_chains ha hb hc).isLE (bne_iff_ne.mp hab) (bne_iff_ne.mp hbc))

/-- Sorted documents are in the order of the keys. -/
theorem pairwise_sorted {docs : List Value} (h : ∀ doc ∈ docs, HasDecimalKeys keys doc) :
    (sorted keys docs).Pairwise fun a b => compareBy a b keys ≠ .gt := by
  refine (stableSort_mergeSort ?_ ?_).sorted.imp bne_iff_ne.mp
  · exact fun a ha b hb c hc => compareBy_trans (h a ha) (h b hb) (h c hc)
  · exact fun a _ b _ => compareBy_total a b keys

end Stage

end DocQuery
