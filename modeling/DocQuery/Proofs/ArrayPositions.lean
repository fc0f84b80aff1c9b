import DocQuery.Proofs.Evaluation
import Mathlib.Data.List.DropRight
set_option autoImplicit false

/-!
# Proofs: positions in arrays

Positions and counts may be any integers of 64 bits.  Negative ones count from the end of an
array, and what they say is cut down to the items that there are.  One sum may leave the range:
the end of a slice is added up before it is cut down to the end of the array, so a slice that
does not start in front fails if its count is close to the largest integer.
-/

namespace DocQuery

namespace Operator

variable {items : List Value} {p count : Int64}

/-! ## Slices -/

/-- Where a slice starts: negative positions count from the end, and no position is outside the
array. -/
def sliceStart (length : Nat) (position : Int) : Int :=
  if position < 0 then max (length + position) 0 else min position length

/-- Where a slice ends. -/
def sliceEnd (length : Nat) (position count : Int) : Int :=
    min (sliceStart length position + count) length

/-- Whether the start and the count of a slice add up to more than 64 bits. -/
def HasLongEnd (length : Nat) (p count : Int64) : Prop :=
  Int64.maxValue.toInt < sliceStart length p.toInt + count.toInt

instance (length : Nat) (p count : Int64) : Decidable (HasLongEnd length p count) :=
  inferInstanceAs (Decidable (_ < _))

/-- The bounds of a slice are positions of the array, in order. -/
theorem slice_bounds (length : Nat) (position : Int) {count : Int} (h : 0 < count) :
    0 ≤ sliceStart length position ∧ sliceStart length position ≤ sliceEnd length
      position count ∧ sliceEnd length position count ≤ length := by
  simp only [sliceEnd, sliceStart]
  split <;> omega

/-- The items from the start of a slice up to its end. -/
theorem itemsFrom_eq_extract (items : List Value) (position : Int) {count : Int}
    (h : 0 < count) : itemsFrom items position count.toNat =
      items.extract (sliceStart items.length position).toNat
          (sliceEnd items.length position count).toNat := by
  obtain ⟨hfront, horder, hend⟩ := slice_bounds items.length position h
  simp only [itemsFrom, List.extract_eq_take_drop]
  generalize hfrom : (if position < 0 then max (items.length + position) 0 else position) =
    first
  have hstart : sliceStart items.length position = min first items.length := by
    subst hfrom
    simp only [sliceStart]
    split <;> omega
  by_cases hinside : first ≤ items.length
  · have hsame : first.toNat = (sliceStart items.length position).toNat := by omega
    rw [hsame, List.take_eq_take_iff, List.length_drop]
    simp only [sliceEnd] at horder hend ⊢
    omega
  · rw [List.drop_eq_nil_of_le (by omega), List.drop_eq_nil_of_le (by omega), List.take_nil,
      List.take_nil]

theorem sliceItems_int (items : List Value) (p count : Int64) {v : Value}
    (hv : v.int? = some p) : sliceItems items (some v) count =
      if count.toInt ≤ 0 then fail (.sliceLength count.toInt)
      else if HasLongEnd items.length p count then .error .overflow
      else found (.array (items.extract (sliceStart items.length p.toInt).toNat
        (sliceEnd items.length p.toInt count.toInt).toNat)) := by
  simp only [sliceItems, hv]
  split
  · rfl
  · rename_i hcount
    rw [← itemsFrom_eq_extract items p.toInt (Int.not_le.mp hcount)]
    rfl

/-- The first or the last items. -/
theorem firstItems_eq (items : List Value) (count : Int) :
    firstItems items count =
        if count < 0 then items.rtake count.natAbs else items.take count.toNat := by
  simp only [firstItems, List.rtake]
  split
  · congr 1
    omega
  · rfl

/-- A slice only has a long end if its count and the items of the array add up to more than 64
bits. -/
theorem HasLongEnd.lt_add {length : Nat} (h : HasLongEnd length p count) :
    Int64.maxValue.toInt < length + count.toInt := by
  simp only [HasLongEnd, sliceStart] at h
  split at h <;> omega

/-! ## Items -/

/-- The position that a negative position counts from the end to. -/
def fromEnd (length : Nat) (position : Int) : Int :=
    if position < 0 then length + position else position

theorem itemAt_eq (items : List Value) (position : Int) :
    itemAt items position =
      if 0 ≤ fromEnd items.length position then
          items[(fromEnd items.length position).toNat]? else none := by
  by_cases h : 0 ≤ fromEnd items.length position
  · rw [if_pos h]
    exact if_neg (Int.not_lt.mpr h)
  · rw [if_neg h]
    exact if_pos (Int.not_le.mp h)

/-- Counting from the end of an array stays in the range of 64 bits. -/
theorem exists_toInt_eq_add {length : Nat} (hlength : (length : Int) ≤ Int64.maxValue.toInt)
    (h : p.toInt < 0) : ∃ sum : Int64, sum.toInt = length + p.toInt := by
  have hmax : Int64.maxValue.toInt = 9223372036854775807 := by decide
  have hlow := p.le_toInt
  exact ⟨Int64.ofInt (length + p.toInt), Int64.toInt_ofInt_of_le (by omega) (by omega)⟩

/-! ## Expressions -/

/-- Slices and items at any positions.  Slices need a positive count behind a position, and the
bounds that they are cut down to are positions of the array.  They fail otherwise just if the
start and the count add up to more than 64 bits, for which the items and the count have to;
counting from the end never does.  Slices without a position are the first or the last items,
and an item is missing where the array has none. -/
theorem positions_clamped {a b c v w : Value} {scope : Scope}
    (ha : a.eval scope = found (.array items))
    (hb : b.eval scope = found v) (hv : v.int? = some p) (hc : c.eval scope = found w)
    (hw : w.int? = some count) :
    (count.toInt ≤ 0 →
        (Value.operator "$slice" (.array [a, b, c])).eval scope =
          fail (.sliceLength count.toInt)) ∧
      (0 < count.toInt → ¬ HasLongEnd items.length p count →
        ∃ start stop : Nat, start = sliceStart items.length p.toInt ∧
          stop = sliceEnd items.length p.toInt count.toInt ∧
          start ≤ stop ∧ stop ≤ items.length ∧
          (Value.operator "$slice" (.array [a, b, c])).eval scope =
            found (.array (items.extract start stop))) ∧
      ((Value.operator "$slice" (.array [a, b, c])).eval scope = .error .overflow ↔
        0 < count.toInt ∧ HasLongEnd items.length p count) ∧
      (HasLongEnd items.length p count → Int64.maxValue.toInt < items.length + count.toInt) ∧
      (Value.operator "$slice" (.array [a, c])).eval scope =
        found (.array (if count.toInt < 0 then items.rtake count.toInt.natAbs else items.take
          count.toInt.toNat)) ∧
      (Value.operator "$arrayElemAt" (.array [a, b])).eval scope =
        .ok (if 0 ≤ fromEnd items.length p.toInt then
          items[(fromEnd items.length p.toInt).toNat]? else none) ∧
      ((items.length : Int) ≤ Int64.maxValue.toInt → ∀ n ∈ [p, count], n.toInt < 0 →
        ∃ sum : Int64, sum.toInt = items.length + n.toInt) := by
  have hslice : (Value.operator "$slice" (.array [a, b, c])).eval scope =
      sliceItems items (some v) count := by
    refine (Value.eval_operator_array .slice [a, b, c] scope).trans ?_
    rw [Value.evalItems_cons ha (Value.evalItems_pair hb hc)]
    simp only [Except.bind, apply, applySlice, applySliceOf, Option.bind_some, hw]
  have hends : (Value.operator "$slice" (.array [a, c])).eval scope =
      found (.array (firstItems items count.toInt)) := by
    refine (Value.eval_operator_pair .slice ha hc).trans ?_
    simp only [apply, applySlice, applySliceOf, Option.bind_some, hw, sliceItems]
  have hitem : (Value.operator "$arrayElemAt" (.array [a, b])).eval scope =
      .ok (itemAt items p.toInt) := by
    refine (Value.eval_operator_pair .elementAt ha hb).trans ?_
    simp only [apply, binary, applyElementAt, Option.bind_some, hv]
  rw [hslice, sliceItems_int items p count hv, hends, firstItems_eq, hitem, itemAt_eq]
  refine ⟨fun h => if_pos h, fun hpositive hlong => ?_, ?_, HasLongEnd.lt_add, rfl, rfl,
    fun hlength n hn hnegative => ?_⟩
  · obtain ⟨hfront, horder, hend⟩ := slice_bounds items.length p.toInt hpositive
    refine ⟨(sliceStart items.length p.toInt).toNat,
      (sliceEnd items.length p.toInt count.toInt).toNat,
      Int.toNat_of_nonneg hfront, Int.toNat_of_nonneg (Int.le_trans hfront horder), by
        omega, by omega, ?_⟩
    rw [if_neg (Int.not_le.mpr hpositive), if_neg hlong]
  · by_cases hpositive : count.toInt ≤ 0
    · simp [hpositive, fail, Int.not_lt.mpr hpositive]
    · by_cases hlong : HasLongEnd items.length p count <;> simp [hpositive, hlong, found,
        Int.not_le.mp hpositive]
  · exact exists_toInt_eq_add hlength hnegative

/-- Slices and items of an array of three at the outermost positions. -/
theorem outermost_positions_clamped :
    (Value.operator "$slice" (.array [.array [.int 1, .int 2, .int 3], .int Int64.minValue,
      .int Int64.maxValue])).evalOn .null = found (.array [.int 1, .int 2, .int 3]) ∧
      (Value.operator "$slice" (.array [.array [.int 1, .int 2, .int 3], .int 1,
        .int Int64.maxValue])).evalOn .null = .error .overflow ∧
      (Value.operator "$slice" (.array [.array [.int 1, .int 2, .int 3], .int 1,
        .int Int64.minValue])).evalOn .null = fail (.sliceLength Int64.minValue.toInt) ∧
      (Value.operator "$slice" (.array [.array [.int 1, .int 2, .int 3], .int (-2)])).evalOn
        .null = found (.array [.int 2, .int 3]) ∧
      (Value.operator "$arrayElemAt" (.array [.array [.int 1, .int 2, .int 3],
        .int Int64.minValue])).evalOn .null = .ok none := by
  have hitems : (Value.array [.int 1, .int 2, .int 3]).eval ⟨.null, []⟩ =
    found (.array [.int 1, .int 2, .int 3]) := rfl
  have hint : ∀ n : Int64, (Value.int n).eval ⟨.null, []⟩ = found (.int n) := fun _ => rfl
  obtain ⟨-, hslice, -, -, -, hitem, -⟩ :=
    positions_clamped hitems (hint Int64.minValue) rfl (hint Int64.maxValue) rfl
  obtain ⟨-, -, hlong, -⟩ := positions_clamped hitems (hint 1) rfl (hint Int64.maxValue) rfl
  obtain ⟨hlength, -⟩ := positions_clamped hitems (hint 1) rfl (hint Int64.minValue) rfl
  obtain ⟨-, -, -, -, hends, -⟩ := positions_clamped hitems (hint 0) rfl (hint (-2)) rfl
  refine ⟨?_, hlong.mpr (by decide), hlength (by decide), hends, hitem⟩
  obtain ⟨start, stop, hstart, hstop, -, -, hfound⟩ := hslice (by decide) (by decide)
  obtain rfl : start = 0 := Int.ofNat.inj (hstart.trans (by decide))
  obtain rfl : stop = 3 := Int.ofNat.inj (hstop.trans (by decide))
  exact hfound

end Operator

end DocQuery
