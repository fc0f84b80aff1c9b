import DocQuery.Proofs.PrintedValues
import DocQuery.Stage.Normal
import Mathlib.Logic.Relation
set_option autoImplicit false

/-!
# Proofs: the normal form forgets the order of operands and nothing else

Two values have the same normal form exactly if one can be made from the other by putting the
operands of operators that take them in any order into another order, wherever such an operator
stands.  The normal form is made by steps of that kind; and it survives each of them, since
operands with the same text are the same.
-/

namespace DocQuery.Value

open Relation (ReflTransGen)

/-! ## Putting operands into another order -/

/-- Whether a value is another one with the operands of one operator in another order. -/
inductive Permutes : Value → Value → Prop where
  | operands (before : Document) {key : String} {items items' : List Value} (after : Document)
      (hkey : isUnordered key = true) (h : items.Perm items') :
    Permutes (.object (before ++ (key, .array items) :: after))
      (.object (before ++ (key, .array items') :: after))
  | item (before : List Value) {v w : Value} (after : List Value) (h : Permutes v w) :
    Permutes (.array (before ++ v :: after)) (.array (before ++ w :: after))
  | member (before : Document) (key : String) {v w : Value} (after : Document)
    (h : Permutes v w) :
    Permutes (.object (before ++ (key, v) :: after)) (.object (before ++ (key, w) :: after))

/-- Whether a value is another one with the operands of any operators in another order. -/
def Rearranges : Value → Value → Prop := ReflTransGen Permutes

theorem Permutes.symm {v w : Value} (h : Permutes v w) : Permutes w v := by
  induction h with
  | operands before after hkey h => exact .operands before after hkey h.symm
  | item before after _ ih => exact .item before after ih
  | member before key after _ ih => exact .member before key after ih

theorem Rearranges.symm {v w : Value} (h : Rearranges v w) : Rearranges w v := by
  induction h with
  | refl => exact .refl
  | tail _ hstep ih => exact ih.head hstep.symm

theorem Rearranges.item (before : List Value) {v w : Value} (after : List Value)
    (h : Rearranges v w) :
    Rearranges (.array (before ++ v :: after)) (.array (before ++ w :: after)) := by
  induction h with
  | refl => exact .refl
  | tail _ hstep ih => exact ih.tail (.item before after hstep)

theorem Rearranges.member (before : Document) (key : String) {v w : Value} (after : Document)
    (h : Rearranges v w) :
    Rearranges (.object (before ++ (key, v) :: after))
        (.object (before ++ (key, w) :: after)) := by
  induction h with
  | refl => exact .refl
  | tail _ hstep ih => exact ih.tail (.member before key after hstep)

/-! ## The normal form puts operands into another order -/

theorem sortByText_perm (items : List Value) : (sortByText items).Perm items :=
    List.mergeSort_perm _ _

theorem rearranges_sortOperands (before : Document) (key : String) (v : Value)
    (after : Document) :
    Rearranges (.object (before ++ (key, v) :: after))
        (.object (before ++ (key, sortOperands key v) :: after)) := by
  unfold sortOperands
  split
  · split
    · rename_i hkey
      exact .single (.operands before after hkey (sortByText_perm _).symm)
    · exact .refl
  · exact .refl

mutual

/-- The normal form of a value is that value with operands in another order. -/
theorem rearranges_normalize (v : Value) : Rearranges v (normalize v) := by
  match v with
  | .null | .bool _ | .int _ | .float _ | .decimal _ | .string _ => exact .refl
  | .array items => exact rearranges_normalizeItems [] items
  | .object fields => exact rearranges_normalizeFields [] fields

theorem rearranges_normalizeItems (before items : List Value) :
    Rearranges (.array (before ++ items)) (.array (before ++ normalizeItems items)) := by
  match items with
  | [] => exact .refl
  | v :: rest =>
    have hrest := rearranges_normalizeItems (before ++ [normalize v]) rest
    rw [List.append_assoc, List.append_assoc] at hrest
    exact ((rearranges_normalize v).item before rest).trans hrest

theorem rearranges_normalizeFields (before fields : Document) :
    Rearranges (.object (before ++ fields)) (.object (before ++ normalizeFields fields)) := by
  match fields with
  | [] => exact .refl
  | (key, v) :: rest =>
    have hrest := rearranges_normalizeFields (before ++ [(key, sortOperands key (normalize v))])
      rest
    rw [List.append_assoc, List.append_assoc] at hrest
    exact (((rearranges_normalize v).member before key rest).trans
      (rearranges_sortOperands before key (normalize v) rest)).trans hrest

end

/-! ## Operands in another order have the same normal form -/

theorem areLegible_append {before after : List Value} {v : Value} :
    AreLegible (before ++ v :: after) ↔ AreLegible before ∧ v.IsLegible ∧ AreLegible after := by
  simp only [areLegible_iff, List.forall_mem_append, List.forall_mem_cons]

theorem membersLegible_append {before after : Document} {m : String × Value} :
    MembersLegible (before ++ m :: after) ↔ MembersLegible before ∧ m.2.IsLegible ∧
        MembersLegible after := by
  simp only [membersLegible_iff, List.forall_mem_append, List.forall_mem_cons]

/-- Only arrays and objects hold operands. -/
theorem Permutes.ne_string {v w : Value} (h : Permutes v w) (s : String) : w ≠ .string s := by
  cases h <;> simp

/-- A value with operands in another order can be told from its text if the value can. -/
theorem Permutes.isLegible {v w : Value} (h : Permutes v w) (hv : v.IsLegible) :
    w.IsLegible := by
  induction h with
  | operands before after hkey h =>
    obtain ⟨hbefore, hitems, hafter⟩ := membersLegible_append.mp hv.2
    have hitems' := areLegible_iff.mpr fun u hu => areLegible_iff.mp hitems u (h.symm.subset hu)
    refine ⟨fun d hd => ?_, membersLegible_append.mpr ⟨hbefore, hitems', hafter⟩⟩
    have hmem := hd ▸ List.mem_append_right before (List.mem_cons_self (l := after))
    simp at hmem
  | item before after _ ih =>
    obtain ⟨hbefore, hv, hafter⟩ := areLegible_append.mp hv
    exact areLegible_append.mpr ⟨hbefore, ih hv, hafter⟩
  | member before key after hstep ih =>
    obtain ⟨hbefore, hv, hafter⟩ := membersLegible_append.mp hv.2
    refine ⟨fun d hd => ?_, membersLegible_append.mpr ⟨hbefore, ih hv, hafter⟩⟩
    have hmem := hd ▸ List.mem_append_right before (List.mem_cons_self (l := after))
    simp [hstep.ne_string] at hmem

theorem Rearranges.isLegible {v w : Value} (h : Rearranges v w) (hv : v.IsLegible) :
    w.IsLegible := by
  induction h with
  | refl => exact hv
  | tail _ hstep ih => exact hstep.isLegible ih

theorem pairwise_sortByText (items : List Value) :
    (sortByText items).Pairwise fun a b =>
        (Ord.compare a.compactText b.compactText != .gt) = true := by
  refine List.pairwise_mergeSort (fun a b c hab hbc => ?_) (fun a b => ?_) items
  · have hle := Ordering.isLE_iff_ne_gt.mpr (bne_iff_ne.mp hab)
    have hle' := Ordering.isLE_iff_ne_gt.mpr (bne_iff_ne.mp hbc)
    exact bne_iff_ne.mpr (Ordering.isLE_iff_ne_gt.mp (Std.TransCmp.isLE_trans hle hle'))
  · have hswap : Ord.compare b.compactText a.compactText =
      (Ord.compare a.compactText b.compactText).swap :=
      Std.OrientedCmp.eq_swap
    rw [hswap]
    cases Ord.compare a.compactText b.compactText <;> rfl

/-- Values that can be told from their texts are sorted the same in whatever order they were. -/
theorem sortByText_eq_of_perm {items items' : List Value} (h : items.Perm items')
    (hitems : ∀ v ∈ items, v.IsLegible) : sortByText items = sortByText items' := by
  have hperm : (sortByText items).Perm (sortByText items') :=
    (sortByText_perm items).trans (h.trans (sortByText_perm items').symm)
  refine List.Perm.eq_of_pairwise (fun a b ha hb hab hba => ?_) (pairwise_sortByText items)
    (pairwise_sortByText items') hperm
  have hal := hitems a ((sortByText_perm items).subset ha)
  have hbl := hitems b (h.symm.subset ((sortByText_perm items').subset hb))
  have hle := Ordering.isLE_iff_ne_gt.mpr (bne_iff_ne.mp hab)
  have hge := Ordering.isLE_iff_ne_gt.mpr (bne_iff_ne.mp hba)
  exact compactText_inj hal hbl (Std.LawfulEqCmp.eq_of_compare
    (Std.OrientedCmp.isLE_antisymm hle hge))

theorem normalizeItems_eq_map (items : List Value) :
    normalizeItems items = items.map normalize := by
  induction items with
  | nil => rfl
  | cons v rest ih => rw [normalizeItems, ih, List.map_cons]

theorem normalizeFields_eq_map (fields : Document) :
    normalizeFields fields = fields.map fun m => (m.1, sortOperands m.1 (normalize m.2)) := by
  induction fields with
  | nil => rfl
  | cons m rest ih => rw [normalizeFields, ih, List.map_cons]

/-- The normal form stays when the operands of one operator are put into another order. -/
theorem Permutes.normalize_eq {v w : Value} (h : Permutes v w) (hv : v.IsLegible) :
    normalize v = normalize w := by
  induction h with
  | operands before after hkey h =>
    have hlegible := areLegible_iff.mp (membersLegible_append.mp hv.2).2.1
    have hsort := sortByText_eq_of_perm (h.map normalize) (List.forall_mem_map.mpr fun u hu =>
      (rearranges_normalize u).isLegible (hlegible u hu))
    simp only [normalize, normalizeItems_eq_map, normalizeFields_eq_map, List.map_append,
      List.map_cons, sortOperands, if_pos hkey, hsort]
  | item before after _ ih =>
    have hinner := (areLegible_append.mp hv).2.1
    simp only [normalize, normalizeItems_eq_map, List.map_append, List.map_cons, ih hinner]
  | member before key after _ ih =>
    have hinner := (membersLegible_append.mp hv.2).2.1
    simp only [normalize, normalizeFields_eq_map, List.map_append, List.map_cons, ih hinner]

theorem Rearranges.normalize_eq {v w : Value} (h : Rearranges v w) (hv : v.IsLegible) :
    normalize v = normalize w := by
  induction h with
  | refl => rfl
  | tail hfirst hstep ih => exact ih.trans (hstep.normalize_eq (Rearranges.isLegible hfirst hv))

/-! ## Normal forms are their own -/

theorem sortByText_sortByText (items : List Value) :
    sortByText (sortByText items) = sortByText items :=
  List.mergeSort_of_pairwise (pairwise_sortByText items)

theorem sortOperands_sortOperands (key : String) (v : Value) :
    sortOperands key (sortOperands key v) = sortOperands key v := by
  cases v with
  | array items =>
    by_cases hkey : isUnordered key = true <;> simp [sortOperands, hkey, sortByText_sortByText]
  | _ => rfl

/-- The operands of a normal form are normal forms in whatever order they are. -/
theorem normalize_sortOperands (key : String) {v : Value} (hv : normalize v = v) :
    normalize (sortOperands key v) = sortOperands key v := by
  unfold sortOperands
  split
  · rename_i items
    split
    · rw [normalize, normalizeItems_eq_map] at hv ⊢
      have hitems : ∀ u ∈ items, normalize u = id u :=
        List.map_inj_left.mp ((Value.array.inj hv).trans (List.map_id items).symm)
      have hsorted : ∀ u ∈ sortByText items, normalize u = id u := fun u hu =>
        hitems u ((sortByText_perm items).subset hu)
      rw [List.map_congr_left hsorted, List.map_id]
    · exact hv
  · exact hv

mutual

/-- A normal form is its own normal form. -/
theorem normalize_normalize (v : Value) : normalize (normalize v) = normalize v := by
  match v with
  | .null | .bool _ | .int _ | .float _ | .decimal _ | .string _ => rfl
  | .array items => rw [normalize, normalize, normalizeItems_normalizeItems items]
  | .object fields => rw [normalize, normalize, normalizeFields_normalizeFields fields]

theorem normalizeItems_normalizeItems (items : List Value) :
    normalizeItems (normalizeItems items) = normalizeItems items := by
  match items with
  | [] => rfl
  | v :: rest =>
    rw [normalizeItems, normalizeItems, normalize_normalize v,
      normalizeItems_normalizeItems rest]

theorem normalizeFields_normalizeFields (fields : Document) :
    normalizeFields (normalizeFields fields) = normalizeFields fields := by
  match fields with
  | [] => rfl
  | (key, v) :: rest =>
    rw [normalizeFields, normalizeFields, normalize_sortOperands key (normalize_normalize v),
      sortOperands_sortOperands, normalizeFields_normalizeFields rest]

end

/-- The normal form stands for the order of operands:  values have the same one exactly if they
are rearrangements of each other.  It is its own normal form. -/
theorem normalize_canonical {v : Value} (hv : v.IsLegible) (w : Value) :
    (normalize v = normalize w ↔ Rearranges v w) ∧ normalize (normalize v) = normalize v := by
  refine ⟨⟨fun h => ?_, fun h => h.normalize_eq hv⟩, normalize_normalize v⟩
  exact (rearranges_normalize v).trans (h ▸ (rearranges_normalize w).symm)

/-- The operands of a disjunction inside a conjunction are put into another order. -/
theorem normalize_canonical_nested :
    normalize (.object [("$and",
      .array [.int 1, .object [("$or", .array [.string "b", .null])]])]) =
      normalize (.object [("$and", .array [.object [("$or", .array [.null, .string "b"])],
          .int 1])]) := by
  refine (normalize_canonical (by simp [IsLegible, MembersLegible, AreLegible]) _).1.mpr ?_
  have hinner : Permutes (.object [("$or", .array [.string "b", .null])])
      (.object [("$or", .array [.null, .string "b"])]) :=
    .operands [] [] rfl (.swap _ _ [])
  have houter : Permutes
    (.object [("$and", .array [.int 1, .object [("$or", .array [.null, .string "b"])]])])
      (.object [("$and", .array [.object [("$or", .array [.null, .string "b"])], .int 1])]) :=
    .operands [] [] rfl (.swap _ _ [])
  exact .tail (.single (.member [] "$and" [] (.item [.int 1] [] hinner))) houter

end DocQuery.Value
