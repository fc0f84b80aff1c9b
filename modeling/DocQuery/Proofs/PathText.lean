import DocQuery.Execution.Expression
import Mathlib.Data.List.TakeWhile
set_option autoImplicit false

/-!
# Proofs: path texts

A path in an expression is written as a text, but it is built name by name.  Here is what the
text of a path reads, and what it reads with one more name behind it.
-/

namespace DocQuery

namespace Text

/-! ## Texts with a separator -/

/-- A part behind one more separator is one more part. -/
theorem partsOf_append {sep : Char} {last : List Char} (h : sep ∉ last) (front : List Char) :
    partsOf sep (front ++ sep :: last) =
      ((partsOf sep front).1, (partsOf sep front).2 ++ [last]) := by
  induction front with
  | nil => simp [partsOf, partsOf_of_notMem h]
  | cons c rest ih =>
    simp only [List.cons_append, partsOf, ih]
    by_cases hc : c = sep <;> simp [hc]

theorem split_append {last : String} (h : '.' ∉ last.toList) (front : String) :
    split '.' (front ++ "." ++ last) = split '.' front ++ [last] := by
  simp [split, partsOf_append h, String.ofList_toList]

theorem stripFirst?_append (s : String) : stripFirst? '$' ("$" ++ s) = some s := by
  simp [stripFirst?, String.ofList_toList]

theorem stripFirst?_of_not_startsWith {c : Char} {s : String} (h : startsWith c s = false) :
    stripFirst? c s = none := by
  unfold startsWith at h
  unfold stripFirst?
  cases hs : s.toList with
  | nil => rfl
  | cons d rest =>
    have hd : d ≠ c := by
      rintro rfl
      simp [hs] at h
    simp [hd]

/-- A text that goes on behind a point starts as it did. -/
theorem startsWith_append {s : String} (h : startsWith '$' s = false) (rest : String) :
    startsWith '$' (s ++ "." ++ rest) = false := by
  unfold startsWith at *
  cases hs : s.toList with
  | nil => simp [hs]
  | cons c cs => simpa [hs] using h

theorem splitOnce?_of_notMem {sep : Char} {s : String} (h : sep ∉ s.toList) :
    splitOnce? sep s = none := by
  have hdrop : s.toList.dropWhile (· != sep) = [] := by
    refine List.dropWhile_eq_nil_iff.mpr fun c hc => ?_
    have hne : c ≠ sep := fun heq => h (heq ▸ hc)
    simpa using hne
  simp [splitOnce?, hdrop]

theorem splitOnce?_append {front : String} (h : '.' ∉ front.toList) (rest : String) :
    splitOnce? '.' (front ++ "." ++ rest) = some (front, rest) := by
  have hpass : ∀ c ∈ front.toList, (c != '.') = true := by
    intro c hc
    have hne : c ≠ '.' := fun heq => h (heq ▸ hc)
    simpa using hne
  have hdrop : (front ++ "." ++ rest).toList.dropWhile (· != '.') = '.' :: rest.toList := by
    simp [List.dropWhile_append_of_pos hpass]
  have htake : (front ++ "." ++ rest).toList.takeWhile (· != '.') = front.toList := by
    simp [List.takeWhile_append_of_pos hpass]
  simp only [splitOnce?, hdrop, htake, String.ofList_toList]

end Text

/-- A name that starts like that of an operator. -/
theorem exists_of_isOperatorName {s : String} (h : isOperatorName s = true) :
    ∃ rest, s = "$" ++ rest := by
  unfold isOperatorName Text.startsWith at h
  cases hs : s.toList with
  | nil => simp [hs] at h
  | cons c cs =>
    obtain rfl : c = '$' := by simpa [hs] using h
    exact ⟨String.ofList cs, String.toList_injective (by simp [hs])⟩

/-- What stands behind a point does not make a name look like that of an operator. -/
theorem isOperatorName_extend (front last : String) :
    isOperatorName (front ++ "." ++ last) = isOperatorName front := by
  unfold isOperatorName Text.startsWith
  cases hs : front.toList with
  | nil => simp [hs]
  | cons c cs => simp [hs]

/-- A name without a dollar sign is not that of an operator. -/
theorem isOperatorName_of_notMem {s : String} (h : '$' ∉ s.toList) :
    isOperatorName s = false := by
  unfold isOperatorName Text.startsWith
  cases hs : s.toList with
  | nil => rfl
  | cons c rest =>
    have hne : c ≠ '$' := by
      rintro rfl
      simp [hs] at h
    simpa using hne

namespace Value

/-! ## Walking -/

@[simp] theorem walk_nil (v : Value) : walk v [] = some v := by
  cases v <;> rfl

theorem walk_singleton (v : Value) (name : String) (h : v.items? = none) :
    walk v [name] = v.field? name := by
  cases v with
  | object fields => simp [walk, walkField_eq, field?]
  | array items => simp [items?] at h
  | _ => rfl

/-- A path that has not run into an array goes on from where it has come to. -/
theorem walk_append (v : Value) (names rest : List String)
    (h : ∀ items, walk v names ≠ some (.array items)) :
    walk v (names ++ rest) = (walk v names).bind fun w => walk w rest := by
  induction names generalizing v with
  | nil => simp
  | cons name names ih =>
    cases v with
    | object fields =>
      simp only [List.cons_append, walk, walkField_eq] at h ⊢
      cases hf : Document.value? fields name with
      | none => rfl
      | some w =>
        rw [hf] at h
        exact ih w h
    | array items => exact absurd rfl (h (walkItems items name names))
    | _ => rfl

end Value

/-! ## Texts of paths -/

/-- A text is that of a path: from the current document or from a variable, along names. -/
inductive PathText (scope : Scope) : String → Value → List String → Prop where
  | root (path : String) (hplain : isOperatorName path = false) :
    PathText scope ("$" ++ path) scope.root (Value.pathNames path)
  | bound (name : String) (v : Value) (hname : '.' ∉ name.toList)
    (hvalue : scope.variableOf name = .ok v) : PathText scope ("$$" ++ name) v []
  | member (name : String) (v : Value) (path : String) (hname : '.' ∉ name.toList)
    (hvalue : scope.variableOf name = .ok v) :
    PathText scope ("$$" ++ name ++ "." ++ path) v (Value.pathNames path)

namespace PathText

theorem read_variable (scope : Scope) (text : String) :
    scope.read ("$$" ++ text) = scope.reference text := by
  have houter : Text.stripFirst? '$' ("$$" ++ text) = some ("$" ++ text) := by
    have h := Text.stripFirst?_append ("$" ++ text)
    rwa [← String.append_assoc] at h
  have hinner : Text.stripFirst? '$' ("$" ++ text) = some text := Text.stripFirst?_append text
  simp only [Scope.read, houter, hinner]

theorem read_root (scope : Scope) {path : String} (h : isOperatorName path = false) :
    scope.read ("$" ++ path) = .ok (scope.root.getPath path) := by
  have houter : Text.stripFirst? '$' ("$" ++ path) = some path := Text.stripFirst?_append path
  simp only [Scope.read, houter, Text.stripFirst?_of_not_startsWith h]

/-- The text of a path reads what stands behind the names of the path. -/
theorem read {scope : Scope} {text : String} {base : Value} {names : List String}
    (h : PathText scope text base names) : scope.read text = .ok (base.walk names) := by
  cases h with
  | root path hplain => exact read_root scope hplain
  | bound name v hname hvalue =>
    rw [read_variable, Scope.reference, Text.splitOnce?_of_notMem hname, Value.walk_nil]
    simp only [hvalue]
    rfl
  | member name v path hname hvalue =>
    rw [String.append_assoc, String.append_assoc, read_variable, Scope.reference,
      ← String.append_assoc]
    have hsplit : Text.splitOnce? '.' (name ++ "." ++ path) = some (name, path) :=
      Text.splitOnce?_append hname path
    rw [hsplit]
    simp only [hvalue]
    rfl

/-- The text of a path goes on with the text of one more name. -/
theorem extend {scope : Scope} {text : String} {base : Value} {names : List String}
    (h : PathText scope text base names) {name : String} (hname : '.' ∉ name.toList) :
    PathText scope (text ++ "." ++ name) base (names ++ [name]) := by
  have hnames : ∀ path, Value.pathNames (path ++ "." ++ name) =
      Value.pathNames path ++ [name] :=
    fun path => Text.split_append hname path
  cases h with
  | root path hplain =>
    have hnext : isOperatorName (path ++ "." ++ name) = false :=
      Text.startsWith_append hplain name
    have h : PathText scope _ _ _ := PathText.root (path ++ "." ++ name) hnext
    rwa [hnames, ← String.append_assoc, ← String.append_assoc] at h
  | bound v w hv hvalue =>
    have h : PathText scope _ _ _ := PathText.member v base name hv hvalue
    rwa [show Value.pathNames name = [name] from Text.split_of_notMem hname] at h
  | member v w path hv hvalue =>
    have h : PathText scope _ _ _ := PathText.member v base (path ++ "." ++ name) hv hvalue
    rwa [hnames, ← String.append_assoc, ← String.append_assoc] at h

end PathText

end DocQuery
