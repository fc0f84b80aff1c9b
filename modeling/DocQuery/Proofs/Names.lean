import DocQuery.Compile.Context
import DocQuery.Proofs.PathText
import DocQuery.Text.Segment
import Mathlib.Data.List.Nodup
import Mathlib.Data.List.Perm.Subperm
set_option autoImplicit false

/-!
# Proofs: names

Names with a number at their end:  aliases, the variables of lookups and the fields of
subqueries.  And the names on a path.
-/

namespace DocQuery

/-- Different numbers make different names. -/
theorem numbered_injective (front : String) {m n : Nat}
    (h : front ++ toString m = front ++ toString n) : m = n := by
  have hdigits : Nat.toDigits 10 m = Nat.toDigits 10 n := by
    have hlist := congrArg String.toList h
    simpa using hlist
  rw [← Nat.ofDigitChars_ten_toDigits (n := m), hdigits, Nat.ofDigitChars_ten_toDigits]

/-- A number adds no other characters than digits to a name. -/
theorem notMem_numbered {c : Char} (hdigit : c.isDigit = false) {front : String}
    (h : c ∉ front.toList) (n : Nat) : c ∉ (front ++ toString n).toList := by
  have hnumber : c ∉ Nat.toDigits 10 n := by
    intro hmem
    have hc := Nat.isDigit_of_mem_toDigits (by decide) (by decide) hmem
    simp [hdigit] at hc
  simpa using ⟨h, hnumber⟩

/-- A number does not make a name look like that of an operator. -/
theorem isOperatorName_numbered {front : String} (h : isOperatorName front = false) (n : Nat) :
    isOperatorName (front ++ toString n) = false := by
  cases hs : front.toList with
  | cons c cs =>
    unfold isOperatorName Text.startsWith at *
    simpa [hs] using h
  | nil => exact isOperatorName_of_notMem (notMem_numbered (by decide) (by simp [hs]) n)

/-- A name with a number at its end is none that ends in another character than a digit. -/
theorem numbered_ne {other : String} (h : other.toList.getLast?.any (·.isDigit) = false)
    (front : String) (n : Nat) : front ++ toString n ≠ other := by
  rintro rfl
  cases hlast : (Nat.toDigits 10 n).getLast? with
  | none => exact Nat.toDigits_ne_nil (List.getLast?_eq_none_iff.mp hlast)
  | some c =>
    have hdigit := Nat.isDigit_of_mem_toDigits (by decide) (by decide)
      (List.mem_of_getLast? hlast)
    simp [List.getLast?_append, hlast, hdigit] at h

/-- A variable with a number does not stand for the row. -/
theorem isRootName_numbered (front : String) (n : Nat) :
    Scope.isRootName (front ++ toString n) = false := by
  rw [Scope.isRootName, Bool.or_eq_false_iff, beq_eq_false_iff_ne, beq_eq_false_iff_ne]
  exact ⟨numbered_ne (by decide) front n, numbered_ne (by decide) front n⟩

/-! ## Names on paths -/

namespace Text

theorem head?_doublyPartsOf {sep c : Char} {cs : List Char} (h : cs.head? = some c)
    (hc : c ≠ sep) : (doublyPartsOf sep cs).1.head? = some c := by
  cases cs with
  | nil => simp at h
  | cons d rest =>
    obtain rfl : d = c := by simpa using h
    cases rest with
    | nil => rfl
    | cons e rest =>
      rw [doublyPartsOf, if_neg fun hsep => hc hsep.1]
      rfl

/-- A path starts like the first of its names. -/
theorem startsWith_of_segments {path name : String} {rest : List String}
    (h : segments path = name :: rest) (hname : startsWith '$' name = false) :
    startsWith '$' path = false := by
  have hfirst : name = String.ofList (doublyPartsOf segmentMark path.toList).1 :=
    ((List.cons.inj h).1).symm
  rw [Bool.eq_false_iff] at hname ⊢
  intro hpath
  have hhead : path.toList.head? = some '$' := by simpa [startsWith] using hpath
  refine hname ?_
  rw [hfirst, startsWith, String.toList_ofList, head?_doublyPartsOf hhead (by decide)]
  rfl

end Text

/-! ## Aliases -/

namespace Context

variable {ctx : Context} {collection : String}

theorem freshAlias_cases (ctx : Context) (collection : String) :
    ctx.freshAlias collection = collection ∨ ∃ n, ctx.freshAlias collection =
        numberedAlias n := by
  unfold freshAlias
  cases hfind : (ctx.candidateAliases collection).find? fun a => !ctx.takenNames.contains a with
  | none => exact .inl rfl
  | some a =>
    rcases List.mem_cons.mp (List.mem_of_find?_eq_some hfind) with rfl | hnumbered
    · exact .inl rfl
    · obtain ⟨i, -, rfl⟩ := List.mem_map.mp hnumbered
      exact .inr ⟨_, rfl⟩

theorem freshAlias_ne_id (ctx : Context) (h : collection ≠ "_id") :
    ctx.freshAlias collection ≠ "_id" := by
  intro hid
  rcases freshAlias_cases ctx collection with hname | ⟨n, hname⟩
  · exact h (hname.symm.trans hid)
  · have hlist := congrArg String.toList (hname.symm.trans hid)
    simp [numberedAlias] at hlist

/-- An alias has no characters that neither the name of the collection nor numbered aliases
have. -/
theorem notMem_freshAlias {c : Char} (hdigit : c.isDigit = false) (hletter : c ≠ 'T')
    (h : c ∉ collection.toList) : c ∉ (ctx.freshAlias collection).toList := by
  rcases freshAlias_cases ctx collection with hname | ⟨n, hname⟩ <;> rw [hname]
  · exact h
  · exact notMem_numbered hdigit (by simpa using hletter) n

theorem isOperatorName_freshAlias (h : isOperatorName collection = false) :
    isOperatorName (ctx.freshAlias collection) = false := by
  rcases freshAlias_cases ctx collection with hname | ⟨n, hname⟩ <;> rw [hname]
  · exact h
  · exact isOperatorName_numbered (by decide) n

/-- Of more numbered aliases than there are taken names, one is free. -/
theorem exists_candidate_notMem (ctx : Context) (collection : String) :
    ∃ a ∈ ctx.candidateAliases collection, a ∉ ctx.takenNames := by
  by_contra hnone
  have hsubset : (List.range (ctx.takenNames.length + 1)).map
      (fun i => numberedAlias (ctx.joins.length + 1 + i)) ⊆ ctx.takenNames := by
    intro a ha
    by_contra hfresh
    exact hnone ⟨a, List.mem_cons_of_mem _ ha, hfresh⟩
  have hnodup : ((List.range (ctx.takenNames.length + 1)).map
      fun i => numberedAlias (ctx.joins.length + 1 + i)).Nodup := by
    refine List.nodup_range.map fun i j hij => ?_
    have hnumbers := numbered_injective "T" hij
    omega
  have hlength := (List.subperm_of_subset hnodup hsubset).length_le
  simp only [List.length_map, List.length_range] at hlength
  omega

/-- An alias is none of the taken names. -/
theorem freshAlias_notMem (ctx : Context) (collection : String) :
    ctx.freshAlias collection ∉ ctx.takenNames := by
  obtain ⟨a, ha, hfresh⟩ := exists_candidate_notMem ctx collection
  unfold freshAlias
  cases hfind : (ctx.candidateAliases collection).find? fun a => !ctx.takenNames.contains a with
  | none =>
    have hall := List.find?_eq_none.mp hfind a ha
    simp [hfresh] at hall
  | some b => simpa using List.find?_some hfind

end Context

end DocQuery
