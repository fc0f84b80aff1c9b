import DocQuery.Proofs.Closed
set_option autoImplicit false

/-!
# Proofs: patterns that are put together in advance

A test for a pattern is given the pieces of the pattern.  Pieces that are all literals are put
together when the test is built, and quoted if together they would be read as a path; any other
pieces are put together when the test is evaluated.  It does not show which of the two happened:
the test is the one for all pieces in a row.
-/

namespace DocQuery.Value

open Operator (found truth)

variable {pieces : List Value} {texts : List String} {source : String} {scope : Scope}

/-! ## Expressions for texts -/

/-- Whether an expression evaluates to a text. -/
def Spells (scope : Scope) (e : Value) (s : String) : Prop := eval e scope = found (.string s)

/-- A literal text stands for itself, whether it has to be quoted or not. -/
theorem spells_literalText (s : String) : Spells scope (literalText s) s :=
  eval_protect (.string s) scope

/-- A literal piece stands for its text. -/
theorem spells_of_literalPiece? {piece : Value} {s : String}
    (h : literalPiece? piece = some s) : Spells scope piece s := by
  unfold literalPiece? at h
  split at h
  · split at h
    · cases h
    · rename_i t hplain
      obtain rfl := Option.some.inj h
      rw [Spells, eval_string]
      exact read_of_not_operatorName (by simpa using hplain) scope
  · obtain rfl := Option.some.inj h
    exact eval_quote _ scope
  · cases h

/-- An expression stands for one text at most. -/
theorem Spells.unique {e : Value} {s t : String} (hs : Spells scope e s)
    (ht : Spells scope e t) : s = t := by
  have hsame : found (.string s) = found (.string t) := hs.symm.trans ht
  simpa [found] using hsame

/-! ## Pieces in a row -/

/-- The texts of literal pieces are put together in order. -/
theorem literalPieces?_eq (h : List.Forall₂ (Spells scope) pieces texts)
    (hsource : literalPieces? pieces = some source) : source = String.join texts := by
  induction h generalizing source with
  | nil => exact (Option.some.inj hsource).symm
  | @cons piece s pieces texts hpiece _ ih =>
    rw [literalPieces?] at hsource
    split at hsource
    · rename_i t rest hliteral hrest
      obtain rfl := Option.some.inj hsource
      rw [String.join_cons, ← ih hrest, (spells_of_literalPiece? hliteral).unique hpiece]
    · cases hsource

theorem applyConcat_texts (front : String) (texts : List String) :
    Operator.applyConcat front (texts.map fun s => some (.string s)) =
        found (.string (front ++ String.join texts)) := by
  induction texts generalizing front with
  | nil => simp [Operator.applyConcat]
  | cons s texts ih =>
    rw [List.map_cons, Operator.applyConcat, ih, String.join_cons, String.append_assoc]

theorem evalItems_of_spells (h : List.Forall₂ (Spells scope) pieces texts) :
    evalItems pieces scope = .ok (texts.map fun s => some (.string s)) := by
  induction h with
  | nil => rfl
  | cons hpiece _ ih => exact evalItems_cons hpiece ih

/-- Pieces that are put together when they are evaluated stand for their texts in a row. -/
theorem spells_concat (h : List.Forall₂ (Spells scope) pieces texts) :
    Spells scope (.operator "$concat" (.array pieces)) (String.join texts) := by
  refine (eval_operator_array .concat pieces scope).trans ?_
  rw [evalItems_of_spells h]
  exact (applyConcat_texts "" texts).trans (by rw [String.empty_append])

/-- The pattern of literal pieces stands for their texts in a row. -/
theorem spells_patternOf_literals (h : literalPieces? pieces = some source) :
    Spells scope (patternOf pieces) source := by
  simp only [patternOf, h]
  exact spells_literalText source

/-- The pattern of pieces stands for their texts in a row, in advance or not. -/
theorem spells_patternOf (h : List.Forall₂ (Spells scope) pieces texts) :
    Spells scope (patternOf pieces) (String.join texts) := by
  cases hsource : literalPieces? pieces with
  | some source =>
    rw [← literalPieces?_eq h hsource]
    exact spells_patternOf_literals hsource
  | none =>
    simp only [patternOf, hsource]
    split
    · -- A piece by itself is not wrapped.
      obtain ⟨s, _, hpiece, hrest, rfl⟩ := List.forall₂_cons_left_iff.mp h
      obtain rfl := List.forall₂_nil_left_iff.mp hrest
      rw [String.join_cons, String.join_nil, String.append_empty]
      exact hpiece
    · exact spells_concat h

/-! ## Tests for patterns -/

/-- The letters of a test that takes letters of both cases for the same. -/
def caseLetters (ignoreCase : Bool) : Option Value :=
    if ignoreCase then some (.string "i") else none

/-- Whether an input matches the pattern that pieces are put together to when it is
evaluated. -/
def concatCheck (input : Value) (pieces : List Value) (ignoreCase : Bool) : Value :=
  .operator "$regexMatch" (.object
    ([("input", input), ("regex", .operator "$concat" (.array pieces))]
      ++ if ignoreCase then [("options", .string "i")] else []))

/-- A test for an expression that stands for a text is one for the pattern of the text. -/
theorem eval_patternMatch_of_spells {pattern : Value} (h : Spells scope pattern source)
    (input : Value) (ignoreCase : Bool) :
    eval (.operator "$regexMatch" (.object ([("input", input), ("regex", pattern)]
      ++ if ignoreCase then [("options", .string "i")] else []))) scope =
      (eval input scope).bind fun subject =>
        applyPatternMatch subject (some (.string source)) (caseLetters ignoreCase) := by
  have hpattern : eval pattern scope = .ok (some (.string source)) := h
  rw [eval_patternMatch, hpattern]
  cases eval input scope <;> rfl

/-- A test for pieces that stand for texts is the one that puts all pieces together when it is
evaluated, whichever of them are literals: it matches the texts in a row. -/
theorem patternCheck_folds (h : List.Forall₂ (Spells scope) pieces texts) (input : Value)
    (ignoreCase : Bool) :
    eval (patternCheck input pieces ignoreCase) scope =
      eval (concatCheck input pieces ignoreCase) scope ∧
      eval (concatCheck input pieces ignoreCase) scope = (eval input scope).bind fun subject =>
        applyPatternMatch subject (some (.string (String.join texts)))
            (caseLetters ignoreCase) := by
  have hfolded := eval_patternMatch_of_spells (spells_patternOf h) input ignoreCase
  have hconcat := eval_patternMatch_of_spells (spells_concat h) input ignoreCase
  exact ⟨hfolded.trans hconcat.symm, hconcat⟩

/-- The end of a text behind no text at all is folded to an anchor that has to be quoted, and
found in every name. -/
theorem anyEnd_folds :
    patternOf [.string "", endPiece] = .operator "$literal" (.string "$") ∧
      List.Forall₂ (Spells ⟨.object [("name", .string "Ann")], []⟩) [.string "",
        endPiece] ["", "$"] ∧
      eval (patternCheck (.string "$name") [.string "", endPiece] true)
        ⟨.object [("name", .string "Ann")], []⟩ =
        eval (concatCheck (.string "$name") [.string "", endPiece] true)
          ⟨.object [("name", .string "Ann")], []⟩ ∧
      eval (concatCheck (.string "$name") [.string "", endPiece] true)
        ⟨.object [("name", .string "Ann")], []⟩ = truth true := by
  have hpieces : List.Forall₂ (Spells ⟨.object [("name", .string "Ann")], []⟩)
      [.string "", endPiece] ["", "$"] :=
    .cons rfl (.cons rfl .nil)
  obtain ⟨hfolded, hmatch⟩ := patternCheck_folds hpieces (.string "$name") true
  exact ⟨rfl, hpieces, hfolded, hmatch.trans rfl⟩

end DocQuery.Value
