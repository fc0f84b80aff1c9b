import DocQuery.Text.Similarity
import Mathlib.Data.List.Sublists
import Mathlib.Data.Nat.Find
import Mathlib.Order.Bounds.Basic
set_option autoImplicit false

/-!
# Proofs: the distance of two texts counts what they do not share

Two texts share a number of characters in order.  The rows of distances hold, for the beginnings
of the texts, how many characters are left over; this is the least number of characters that
have to be removed and put in to get from one text to the other.
-/

namespace DocQuery.Text

/-! ## Characters that texts share in order -/

/-- The most characters that two texts share in order: the length of a longest text whose
characters stand in both of them, in this order. -/
def sharedLength (s t : List Char) : Nat :=
  Nat.findGreatest (fun n => ∃ c ∈ s.sublists, c.Sublist t ∧ c.length = n) s.length

variable {s t u : List Char} {c d : Char}

theorem length_le_sharedLength {common : List Char} (hs : common.Sublist s)
    (ht : common.Sublist t) : common.length ≤ sharedLength s t :=
  Nat.le_findGreatest hs.length_le ⟨common, List.mem_sublists.mpr hs, ht, rfl⟩

theorem exists_length_eq_sharedLength (s t : List Char) :
    ∃ common : List Char, common.Sublist s ∧ common.Sublist t ∧
        common.length = sharedLength s t := by
  have hempty : ∃ common ∈ s.sublists, common.Sublist t ∧ common.length = 0 :=
    ⟨[], List.mem_sublists.mpr (List.nil_sublist s), List.nil_sublist t, rfl⟩
  obtain ⟨common, hs, ht, hlength⟩ :=
    Nat.findGreatest_spec (P := fun n => ∃ c ∈ s.sublists, c.Sublist t ∧
      c.length = n) (Nat.zero_le s.length) hempty
  exact ⟨common, List.mem_sublists.mp hs, ht, hlength⟩

theorem isGreatest_sharedLength (s t : List Char) :
    IsGreatest {n | ∃ common : List Char, common.Sublist s ∧ common.Sublist t ∧
        common.length = n} (sharedLength s t) := by
  refine ⟨exists_length_eq_sharedLength s t, ?_⟩
  rintro n ⟨common, hs, ht, rfl⟩
  exact length_le_sharedLength hs ht

theorem sharedLength_comm (s t : List Char) : sharedLength s t = sharedLength t s := by
  refine Nat.le_antisymm ?_ ?_
  · obtain ⟨common, hs, ht, hlength⟩ := exists_length_eq_sharedLength s t
    exact hlength ▸ length_le_sharedLength ht hs
  · obtain ⟨common, ht, hs, hlength⟩ := exists_length_eq_sharedLength t s
    exact hlength ▸ length_le_sharedLength hs ht

theorem sharedLength_le_left (s t : List Char) : sharedLength s t ≤ s.length := by
  obtain ⟨common, hs, -, hlength⟩ := exists_length_eq_sharedLength s t
  exact hlength ▸ hs.length_le

theorem sharedLength_le_right (s t : List Char) : sharedLength s t ≤ t.length :=
  sharedLength_comm t s ▸ sharedLength_le_left t s

theorem sharedLength_mono (h : s.Sublist u) (t : List Char) :
    sharedLength s t ≤ sharedLength u t := by
  obtain ⟨common, hs, ht, hlength⟩ := exists_length_eq_sharedLength s t
  exact hlength ▸ length_le_sharedLength (hs.trans h) ht

/-- What stands in a text with one more character stands in the text, but for one character. -/
theorem exists_sublist_of_insert {common front back : List Char}
    (h : common.Sublist (front ++ c :: back)) :
    ∃ less : List Char, less.Sublist common ∧ less.Sublist (front ++ back) ∧
        common.length ≤ less.length + 1 := by
  obtain ⟨first, last, rfl, hfirst, hlast⟩ := List.sublist_append_iff.mp h
  rcases List.sublist_cons_iff.mp hlast with hlast | ⟨rest, rfl, hrest⟩
  · exact ⟨first ++ last, .refl _, hfirst.append hlast, Nat.le_succ _⟩
  · refine ⟨first ++ rest, (List.Sublist.refl first).append (List.sublist_cons_self c rest),
      hfirst.append hrest, ?_⟩
    simp only [List.length_append, List.length_cons]
    omega

theorem sharedLength_insert_le (front : List Char) (c : Char) (back t : List Char) :
    sharedLength (front ++ c :: back) t ≤ sharedLength (front ++ back) t + 1 := by
  obtain ⟨common, hs, ht, hlength⟩ := exists_length_eq_sharedLength (front ++ c :: back) t
  obtain ⟨less, hless, hs', hle⟩ := exists_sublist_of_insert hs
  have hshared := length_le_sharedLength hs' (hless.trans ht)
  omega

/-- What stands in a text with one more character at its end either stands in the text or ends
in that character. -/
theorem sublist_concat {common : List Char} (h : common.Sublist (s ++ [c])) :
    common.Sublist s ∨ ∃ front : List Char, common = front ++ [c] ∧ front.Sublist s := by
  obtain ⟨front, last, rfl, hfront, hlast⟩ := List.sublist_append_iff.mp h
  rcases List.sublist_singleton.mp hlast with rfl | rfl
  · exact .inl (by rwa [List.append_nil])
  · exact .inr ⟨front, rfl, hfront⟩

theorem dropLast_sublist_of_concat {common : List Char} (h : common.Sublist (s ++ [c])) :
    common.dropLast.Sublist s := by
  rcases sublist_concat h with hs | ⟨front, rfl, hfront⟩
  · exact (List.dropLast_sublist common).trans hs
  · rwa [List.dropLast_concat]

/-- Equal last characters can be matched without a loss, however the others are matched. -/
theorem sharedLength_concat_self (s t : List Char) (c : Char) :
    sharedLength (s ++ [c]) (t ++ [c]) = sharedLength s t + 1 := by
  refine Nat.le_antisymm ?_ ?_
  · obtain ⟨common, hs, ht, hlength⟩ := exists_length_eq_sharedLength (s ++ [c]) (t ++ [c])
    have hdrop := length_le_sharedLength (dropLast_sublist_of_concat hs)
      (dropLast_sublist_of_concat ht)
    rw [List.length_dropLast] at hdrop
    omega
  · obtain ⟨common, hs, ht, hlength⟩ := exists_length_eq_sharedLength s t
    have hle := length_le_sharedLength (hs.append_right [c]) (ht.append_right [c])
    rw [List.length_append] at hle
    exact hlength ▸ hle

/-- Of different last characters one is not matched. -/
theorem sharedLength_concat_of_ne (h : c ≠ d) (s t : List Char) :
    sharedLength (s ++ [c]) (t ++ [d]) =
        max (sharedLength s (t ++ [d])) (sharedLength (s ++ [c]) t) := by
  refine Nat.le_antisymm ?_ (Nat.max_le.mpr ⟨?_, ?_⟩)
  · obtain ⟨common, hs, ht, hlength⟩ := exists_length_eq_sharedLength (s ++ [c]) (t ++ [d])
    rw [← hlength]
    rcases sublist_concat hs with hs' | ⟨front, rfl, -⟩
    · exact (length_le_sharedLength hs' ht).trans (Nat.le_max_left _ _)
    · rcases sublist_concat ht with ht' | ⟨front', hfront', -⟩
      · exact (length_le_sharedLength hs ht').trans (Nat.le_max_right _ _)
      · exact absurd (List.append_inj_right' hfront' rfl) (by simpa using h)
  · exact sharedLength_mono (List.sublist_append_left s [c]) (t ++ [d])
  · rw [sharedLength_comm (s ++ [c]) t, sharedLength_comm (s ++ [c])]
    exact sharedLength_mono (List.sublist_append_left t [d]) (s ++ [c])

/-! ## Rows of distances -/

/-- The characters of two texts that are left over when as many as possible are matched in
order. -/
def unshared (s t : List Char) : Nat := s.length + t.length - 2 * sharedLength s t

theorem unshared_add (s t : List Char) :
    unshared s t + 2 * sharedLength s t = s.length + t.length := by
  have hs := sharedLength_le_left s t
  have ht := sharedLength_le_right s t
  rw [unshared]
  omega

theorem unshared_nil_left (t : List Char) : unshared [] t = t.length := by
  have h := sharedLength_le_left [] t
  simp only [unshared, List.length_nil] at h ⊢
  omega

theorem unshared_nil_right (s : List Char) : unshared s [] = s.length := by
  have h := sharedLength_le_right s []
  simp only [unshared, List.length_nil] at h ⊢
  omega

/-- The entry of a row from its neighbours: the one diagonally in front, the one above and the
one to the left. -/
theorem unshared_concat (s t : List Char) (c d : Char) :
    unshared (s ++ [c]) (t ++ [d]) =
      if c = d then unshared s t else min (unshared s (t ++ [d]) + 1)
          (unshared (s ++ [c]) t + 1) := by
  have hdiagonal := unshared_add s t
  have habove := unshared_add s (t ++ [d])
  have hleft := unshared_add (s ++ [c]) t
  have hhere := unshared_add (s ++ [c]) (t ++ [d])
  simp only [List.length_append, List.length_singleton] at habove hleft hhere
  split
  · rename_i hcd
    subst hcd
    rw [sharedLength_concat_self] at hhere
    omega
  · rename_i hcd
    rw [sharedLength_concat_of_ne hcd] at hhere
    omega

/-- The distances of a text from the beginnings of another one that go on behind a part of
it. -/
def distancesBehind (s front : List Char) : List Char → List Nat
  | [] => []
  | d :: rest => unshared s (front ++ [d]) :: distancesBehind s (front ++ [d]) rest

/-- The distances of a text from the beginnings of another one. -/
def distances (s t : List Char) : List Nat := unshared s [] :: distancesBehind s [] t

theorem firstRow_eq (t : List Char) : firstRow t = distances [] t := by
  have hbehind : ∀ (rest front : List Char),
      distancesBehind [] front rest = List.range' (front.length + 1) rest.length := by
    intro rest
    induction rest with
    | nil => exact fun _ => rfl
    | cons d rest ih =>
      intro front
      rw [distancesBehind, ih, unshared_nil_left, List.length_append, List.length_singleton,
        List.length_cons, List.range'_succ]
  rw [firstRow, distances, hbehind, unshared_nil_left, List.range_eq_range', List.range'_succ]
  rfl

/-- One row comes from the row above it, entry by entry. -/
theorem restOfRow_eq (s : List Char) (c : Char) (front rest : List Char) :
    restOfRow c (unshared (s ++ [c]) front) (unshared s front :: distancesBehind s
      front rest) rest = distancesBehind (s ++ [c]) front rest := by
  induction rest generalizing front with
  | nil => rfl
  | cons d rest ih => rw [distancesBehind, distancesBehind, restOfRow, ← unshared_concat, ih]

theorem nextRow_eq (s t : List Char) (c : Char) :
    nextRow t (distances s t) c = distances (s ++ [c]) t := by
  have hfirst : unshared s [] + 1 = unshared (s ++ [c]) [] := by
    rw [unshared_nil_right, unshared_nil_right, List.length_append, List.length_singleton]
  rw [distances, nextRow, hfirst, restOfRow_eq, distances]

/-- The rows after all characters of a text. -/
theorem foldl_nextRow (s rest t : List Char) :
    rest.foldl (nextRow t) (distances s t) = distances (s ++ rest) t := by
  induction rest generalizing s with
  | nil => rw [List.foldl_nil, List.append_nil]
  | cons c rest ih =>
    rw [List.foldl_cons, nextRow_eq, ih, List.append_assoc, List.singleton_append]

theorem getLast?_distances (s t : List Char) :
    (distances s t).getLast? = some (unshared s t) := by
  have hbehind : ∀ (rest front : List Char),
      (unshared s front :: distancesBehind s front rest).getLast? =
          some (unshared s (front ++ rest)) := by
    intro rest
    induction rest with
    | nil => intro front; rw [distancesBehind, List.append_nil]; rfl
    | cons d rest ih =>
      intro front
      rw [distancesBehind, List.getLast?_cons_cons, ih, List.append_assoc,
        List.singleton_append]
  exact hbehind t []

/-- The distance of two texts counts what is left over of them. -/
theorem indelDistance_eq_unshared (s t : List Char) : indelDistance s t = unshared s t := by
  rw [indelDistance, firstRow_eq, foldl_nextRow, List.nil_append, getLast?_distances,
    Option.getD_some]

/-! ## Putting in and removing characters -/

/-- Whether a text comes from another one by putting in or removing one character. -/
inductive Edit : List Char → List Char → Prop where
  | insert (front : List Char) (c : Char) (back : List Char) : Edit (front ++ back)
    (front ++ c :: back)
  | remove (front : List Char) (c : Char) (back : List Char) :
    Edit (front ++ c :: back) (front ++ back)

/-- Whether a text comes from another one by a number of edits. -/
inductive Edits : Nat → List Char → List Char → Prop where
  | refl (s : List Char) : Edits 0 s s
  | head {n : Nat} {s t u : List Char} (h : Edit s t) (rest : Edits n t u) : Edits (n + 1) s u

variable {m n : Nat}

theorem Edit.symm (h : Edit s t) : Edit t s := by
  cases h with
  | insert front c back => exact .remove front c back
  | remove front c back => exact .insert front c back

theorem Edits.trans (hst : Edits m s t) (htu : Edits n t u) : Edits (m + n) s u := by
  induction hst with
  | refl s => rwa [Nat.zero_add]
  | head h _ ih => exact Nat.succ_add _ _ ▸ .head h (ih htu)

theorem Edits.symm (h : Edits n s t) : Edits n t s := by
  induction h with
  | refl s => exact .refl s
  | head h _ ih => exact ih.trans (.head h.symm (.refl _))

theorem Edits.cons (h : Edits n s t) (c : Char) : Edits n (c :: s) (c :: t) := by
  induction h with
  | refl s => exact .refl (c :: s)
  | head h _ ih =>
    refine .head ?_ ih
    cases h with
    | insert front d back => exact .insert (c :: front) d back
    | remove front d back => exact .remove (c :: front) d back

/-- The characters that a text has more than one that stands in it are removed one by one. -/
theorem edits_of_sublist (h : t.Sublist s) : Edits (s.length - t.length) s t := by
  induction h with
  | slnil => exact .refl []
  | cons c h ih =>
    rw [List.length_cons, Nat.succ_sub h.length_le]
    exact .head (.remove [] c _) ih
  | cons_cons c _ ih =>
    rw [List.length_cons, List.length_cons, Nat.succ_sub_succ]
    exact ih.cons c

/-- Removing what is left over of one text and putting in what is left over of the other one
leads from the one to the other. -/
theorem edits_unshared (s t : List Char) : Edits (unshared s t) s t := by
  obtain ⟨common, hs, ht, hlength⟩ := exists_length_eq_sharedLength s t
  have hedits := (edits_of_sublist hs).trans (edits_of_sublist ht).symm
  have hcount : s.length - common.length + (t.length - common.length) = unshared s t := by
    have hsle := hs.length_le
    have htle := ht.length_le
    rw [unshared, ← hlength]
    omega
  exact hcount ▸ hedits

/-- No edit brings two texts closer by more than one character. -/
theorem unshared_le_of_edit (h : Edit s t) (u : List Char) :
    unshared s u ≤ unshared t u + 1 := by
  have hs := unshared_add s u
  have ht := unshared_add t u
  cases h with
  | insert front c back =>
    have hshared := sharedLength_insert_le front c back u
    simp only [List.length_append, List.length_cons] at hs ht
    omega
  | remove front c back =>
    have hmono := sharedLength_mono ((List.Sublist.refl front).append
      (List.sublist_cons_self c back)) u
    simp only [List.length_append, List.length_cons] at hs ht
    omega

theorem unshared_le_of_edits (h : Edits n s t) : unshared s t ≤ n := by
  induction h with
  | refl s =>
    have hshared := length_le_sharedLength (List.Sublist.refl s) (List.Sublist.refl s)
    rw [unshared]
    omega
  | @head _ s t u h _ ih => exact (unshared_le_of_edit h u).trans (Nat.succ_le_succ ih)

theorem unshared_comm (s t : List Char) : unshared s t = unshared t s := by
  rw [unshared, unshared, sharedLength_comm, Nat.add_comm]

theorem unshared_eq_zero_iff (s t : List Char) : unshared s t = 0 ↔ s = t := by
  constructor
  · intro h
    have hedits := edits_unshared s t
    rw [h] at hedits
    cases hedits
    rfl
  · rintro rfl
    exact Nat.le_zero.mp (unshared_le_of_edits (.refl s))

/-! ## Distance and similarity -/

/-- The distance of two names is what is left over of their characters when as many as possible
are matched in order, and the least number of characters that have to be removed and put in to
get from the one to the other.  It does not depend on which of them comes first, and is zero
between equal names only.  What the similarity takes it from is never less, and the difference
counts the matched characters in both names. -/
theorem indelDistance_counts_edits (a b : String) :
    IsGreatest {n | ∃ common : List Char, common.Sublist a.toList ∧ common.Sublist b.toList ∧
      common.length = n} (sharedLength a.toList b.toList) ∧
      indelDistance a.toList b.toList + 2 * sharedLength a.toList b.toList =
        a.length + b.length ∧
      IsLeast {n | Edits n a.toList b.toList} (indelDistance a.toList b.toList) ∧
      indelDistance b.toList a.toList = indelDistance a.toList b.toList ∧
      (indelDistance a.toList b.toList = 0 ↔ a = b) ∧
      indelDistance a.toList b.toList ≤ a.length + b.length ∧
      (0 < a.length + b.length →
        similarity a b = Float.ofNat (2 * sharedLength a.toList b.toList) / Float.ofNat
            (a.length + b.length)) := by
  have hadd := unshared_add a.toList b.toList
  rw [String.length_toList, String.length_toList] at hadd
  simp only [indelDistance_eq_unshared, similarity]
  refine ⟨isGreatest_sharedLength _ _, hadd, ⟨edits_unshared _ _, fun n hn =>
    unshared_le_of_edits hn⟩, unshared_comm _ _, ?_, by omega, fun hpos => ?_⟩
  · rw [unshared_eq_zero_iff, String.toList_inj]
  · rw [if_neg (Nat.ne_of_gt hpos)]
    congr 2
    omega

end DocQuery.Text
