import DocQuery.Proofs.TokenTiles
set_option autoImplicit false

/-!
# Proofs: integers in filter texts

The digits of an integer are read as its magnitude, and a minus sign in front of them is a token
of its own.  So an integer is read as it is written if its magnitude is an integer of 64 bits
too.  That holds of all integers of 64 bits but the smallest one.
-/

namespace DocQuery.FilterText

open DocQuery.Text

/-! ## Digits -/

theorem isDigit_of_mem_toDigits {n : Nat} {c : Char} (h : c ∈ Nat.toDigits 10 n) :
    isDigit c = true := by
  have hdigit := Nat.isDigit_of_mem_toDigits (by decide) (by decide) h
  simpa [isDigit, Char.isDigit, Char.le_def] using hdigit

theorem exists_digitChar {c : Char} (h : isDigit c = true) : ∃ n < 10, Nat.digitChar n = c := by
  simp only [isDigit, Bool.and_eq_true, decide_eq_true_eq] at h
  have hlow : 48 ≤ c.toNat := h.1
  have hhigh : c.toNat ≤ 57 := h.2
  refine ⟨c.toNat - 48, by omega, Char.toNat_inj.mp ?_⟩
  rw [Nat.toNat_digitChar_of_lt_ten (by omega)]
  omega

theorem kinds_of_digitChar :
    ∀ n < 10, isBlank (Nat.digitChar n) = false ∧ single? (Nat.digitChar n) = none ∧
    ¬ (Nat.digitChar n = '"' ∨ Nat.digitChar n = '\'') ∧
        isWordStart (Nat.digitChar n) = false := by
  decide

/-- A digit is no blank and begins a number. -/
theorem readToken_of_isDigit {c : Char} (h : isDigit c = true) (rest : List Char) :
    isBlank c = false ∧ readToken c rest = readNumber (c :: rest) := by
  obtain ⟨n, hn, rfl⟩ := exists_digitChar h
  obtain ⟨hblank, hsingle, hquote, hword⟩ := kinds_of_digitChar n hn
  refine ⟨hblank, ?_⟩
  simp only [readToken, hsingle, if_neg hquote, hword, h, if_true]
  rfl

theorem ofList_toDigits (n : Nat) : String.ofList (Nat.toDigits 10 n) = toString n := by
  rw [← Nat.toList_repr, String.ofList_toList]
  rfl

theorem integerOf_toDigits (n : Nat) :
    integerOf (Nat.toDigits 10 n) =
      if (n : Int) ≤ Int64.maxValue.toInt then .ok (.integer (Int64.ofNat n)) else .error
          (.invalidNumber (toString n)) := by
  simp only [integerOf, Number.ofDigits, Nat.ofDigitChars_ten_toDigits, ofList_toDigits]

/-- No digit is blank. -/
theorem blanks_toDigits (n : Nat) :
    (Nat.toDigits 10 n).takeWhile isBlank = [] ∧
        (Nat.toDigits 10 n).dropWhile isBlank = Nat.toDigits 10 n := by
  obtain ⟨d, rest, hcons⟩ := List.exists_cons_of_ne_nil (Nat.toDigits_ne_nil (n := n) (b := 10))
  have hd : d ∈ Nat.toDigits 10 n := by
    rw [hcons]
    exact List.mem_cons_self
  obtain ⟨hblank, -⟩ := readToken_of_isDigit (isDigit_of_mem_toDigits hd) rest
  rw [hcons]
  exact ⟨List.takeWhile_cons_of_neg (by simp [hblank]), List.dropWhile_cons_of_neg
    (by simp [hblank])⟩

namespace Cursor

theorem tokens_of_failed {c : Cursor} {e : LexError} (h : c.step.reading = .failed e) :
    c.tokens = ([], .failed e) := by
  rw [tokens]
  split
  · rename_i t ht
    simp [h] at ht
  · rename_i hdone
    simp [h] at hdone
  · rename_i e' he
    rw [Reading.failed.inj (h.symm.trans he)]

/-- The digits of a number at the end of a text are one token, or none that can be read. -/
theorem tokens_toDigits {c : Cursor} {n : Nat}
    (h : c.rest.dropWhile isBlank = Nat.toDigits 10 n) :
    ((n : Int) ≤ Int64.maxValue.toInt → ∃ p, c.tokens =
      ([⟨.integer (Int64.ofNat n), c.step.start⟩], .done p)) ∧
      (Int64.maxValue.toInt < n →
          c.tokens = ([], .failed ⟨.invalidNumber (toString n), c.step.start⟩)) := by
  obtain ⟨d, rest, hcons⟩ := List.exists_cons_of_ne_nil (Nat.toDigits_ne_nil (n := n) (b := 10))
  have hdigits : ∀ c ∈ Nat.toDigits 10 n, isDigit c = true := fun c hc =>
    isDigit_of_mem_toDigits hc
  obtain ⟨-, hread⟩ :=
    readToken_of_isDigit (hdigits d (by rw [hcons]; exact List.mem_cons_self)) rest
  rw [← hcons, readNumber_digits hdigits, integerOf_toDigits] at hread
  rw [hcons] at h
  constructor
  · intro hfits
    rw [if_pos hfits] at hread
    have htoken : c.step.reading = .token (.integer (Int64.ofNat n)) :=
      (step_reading_of_cons h).2.mpr (by rw [hread])
    have hnext := step_next_of_cons h
    rw [hread] at hnext
    have hdone := (step_of_nil (c := c.step.next) (by rw [hnext]; rfl)).1
    exact ⟨_, by rw [tokens_of_token htoken, tokens_of_done hdone]⟩
  · intro hlarge
    rw [if_neg (Int.not_le.mpr hlarge)] at hread
    refine tokens_of_failed ?_
    rw [c.step_start]
    simp only [step, h, hread, faultPosition]

/-- What is left behind the equals sign of `a =`. -/
def behindEquals (rest : List Char) : Cursor := ⟨rest, ⟨1, 4⟩⟩

end Cursor

/-! ## Lookups of integers -/

open Cursor (behindEquals)

variable {rest : List Char} {ts : List Located}

theorem parse_lookup (rest : List Char) :
    parse (String.ofList ('a' :: ' ' :: '=' :: rest)) = parseTokens (behindEquals rest).tokens.2
      (⟨.name "a", ⟨1, 1⟩⟩ :: ⟨.equals, ⟨1, 3⟩⟩ :: (behindEquals rest).tokens.1) := by
  have htext : Cursor.ofText (String.ofList ('a' :: ' ' :: '=' :: rest)) =
      ⟨'a' :: ' ' :: '=' :: rest, .start⟩ := by
    rw [Cursor.ofText, String.toList_ofList]
  rw [parse, htext, Cursor.tokens_of_token (t := .name "a") rfl, Cursor.tokens_of_token
    (t := .equals) rfl]
  rfl

theorem parse_lookup_done {p : Position} {t : OperandTree}
    (h : (behindEquals rest).tokens = (ts, .done p)) (ht : t.tokens = ts.map (·.token)) :
    parse (String.ofList ('a' :: ' ' :: '=' :: rest)) = .ok (.lookup "a" t.expr) := by
  rw [parse_lookup, h]
  refine parseTokens_eq_ok_iff.mpr ⟨.chain (.chain (.lookup "a" t) []) [], ?_, rfl⟩
  simp [OrTree.tokens, OrTree.othersTokens, AndTree.tokens, AndTree.othersTokens,
    UnaryTree.tokens, ht]

theorem parse_lookup_failed {e : LexError} (h : (behindEquals rest).tokens = (ts, .failed e))
    (hoperand : parseOperand (.failed e) ts = .error (.lexical e)) :
    parse (String.ofList ('a' :: ' ' :: '=' :: rest)) = .error (.lexical e) := by
  rw [parse_lookup, h]
  simp only [parseTokens, parseOr, parseAnd, parseUnary, parseLookup, hoperand]

/-- Digits behind an operand's first tokens complete the operand if they are those of an integer
of 64 bits. -/
theorem parse_lookup_digits {c : Cursor} {front : List Located} {t : OperandTree} {n : Nat}
    (htokens : (behindEquals rest).tokens = (front ++ c.tokens.1, c.tokens.2))
    (hdigits : c.rest.dropWhile isBlank = Nat.toDigits 10 n)
    (ht : t.tokens = front.map (·.token) ++ [.integer (Int64.ofNat n)])
    (hfailed : ∀ e, parseOperand (.failed e) front = .error (.lexical e)) :
    parse (String.ofList ('a' :: ' ' :: '=' :: rest)) =
      if (n : Int) ≤ Int64.maxValue.toInt then .ok (.lookup "a" t.expr)
      else .error (.lexical ⟨.invalidNumber (toString n), c.step.start⟩) := by
  obtain ⟨hfits, hlarge⟩ := Cursor.tokens_toDigits hdigits
  split
  · rename_i h
    obtain ⟨p, hinteger⟩ := hfits h
    rw [hinteger] at htokens
    exact parse_lookup_done htokens (by simp [ht])
  · rename_i h
    rw [hlarge (Int.not_le.mp h), List.append_nil] at htokens
    exact parse_lookup_failed htokens (hfailed _)

/-- An integer without a sign is read if it has 64 bits. -/
theorem parse_natural (n : Nat) :
    parse ("a = " ++ toString n) =
      if (n : Int) ≤ Int64.maxValue.toInt then
        .ok (.lookup "a" (.literal (.int (Int64.ofNat n))))
      else .error (.lexical ⟨.invalidNumber (toString n), ⟨1, 5⟩⟩) := by
  have htext : "a = " ++ toString n = String.ofList ('a' :: ' ' :: '=' :: ' ' ::
      Nat.toDigits 10 n) := by
    rw [← ofList_toDigits]
    exact String.ofList_append.symm
  obtain ⟨hfront, hdigits⟩ := blanks_toDigits n
  have hspace : isBlank ' ' = true := by decide
  have hrest : (behindEquals (' ' :: Nat.toDigits 10 n)).rest.dropWhile isBlank =
      Nat.toDigits 10 n := by
    rw [behindEquals, List.dropWhile_cons_of_pos hspace, hdigits]
  have hstart : (behindEquals (' ' :: Nat.toDigits 10 n)).step.start = ⟨1, 5⟩ := by
    rw [Cursor.step_start, behindEquals, List.takeWhile_cons_of_pos hspace, hfront]
    rfl
  have hempty : (behindEquals (' ' :: Nat.toDigits 10 n)).tokens =
      ([] ++ (behindEquals (' ' :: Nat.toDigits 10 n)).tokens.1,
        (behindEquals (' ' :: Nat.toDigits 10 n)).tokens.2) := rfl
  rw [htext, ← hstart]
  exact parse_lookup_digits (t := .literal (.integer (Int64.ofNat n))) hempty hrest
      rfl fun _ => by
    simp only [parseOperand, unexpected]

/-- Behind a minus sign an integer is read if the digits are those of an integer of 64 bits
themselves. -/
theorem parse_negative (n : Nat) :
    parse ("a = -" ++ toString n) =
      if (n : Int) ≤ Int64.maxValue.toInt then
        .ok (.lookup "a" (.literal (.int (-Int64.ofNat n))))
      else .error (.lexical ⟨.invalidNumber (toString n), ⟨1, 6⟩⟩) := by
  have htext : "a = -" ++ toString n = String.ofList ('a' :: ' ' :: '=' :: ' ' :: '-' ::
      Nat.toDigits 10 n) := by
    rw [← ofList_toDigits]
    exact String.ofList_append.symm
  obtain ⟨hfront, hdigits⟩ := blanks_toDigits n
  have hminus : (behindEquals (' ' :: '-' :: Nat.toDigits 10 n)).tokens =
      ([⟨.minus, ⟨1, 5⟩⟩] ++ (⟨Nat.toDigits 10 n, ⟨1, 6⟩⟩ : Cursor).tokens.1,
        (⟨Nat.toDigits 10 n, ⟨1, 6⟩⟩ : Cursor).tokens.2) :=
    Cursor.tokens_of_token (t := .minus) rfl
  have hstart : (⟨Nat.toDigits 10 n, ⟨1, 6⟩⟩ : Cursor).step.start = ⟨1, 6⟩ := by
    rw [Cursor.step_start, hfront]
    rfl
  rw [htext, ← hstart]
  exact parse_lookup_digits (t := .negative (.integer (Int64.ofNat n))) hminus hdigits
      rfl fun _ => by
    simp only [parseOperand, unexpected]

/-- Every integer but the smallest one is read from a lookup as it is written.  The digits of
the smallest one are no integer of 64 bits. -/
theorem integers_parse (n : Int64) :
    parse ("a = " ++ toString n.toInt) =
      if n = Int64.minValue then
        .error (.lexical ⟨.invalidNumber "9223372036854775808", ⟨1, 6⟩⟩)
      else .ok (.lookup "a" (.literal (.int n))) := by
  have hmax : Int64.maxValue.toInt = 9223372036854775807 := by decide
  have hmin : Int64.minValue.toInt = -9223372036854775808 := by decide
  have hlow := n.le_toInt
  have hhigh := n.toInt_lt
  rw [Int.toString_eq_repr, Int.repr_eq_if]
  split
  · rename_i hsign
    have hnatural : n ≠ Int64.minValue := by
      rintro rfl
      rw [hmin] at hsign
      omega
    have hvalue : Int64.ofNat n.toInt.toNat = n := by
      rw [← Int64.ofInt_eq_ofNat, Int.toNat_of_nonneg hsign, Int64.ofInt_toInt]
    have hfits : (n.toInt.toNat : Int) ≤ Int64.maxValue.toInt := by omega
    have hparse := parse_natural n.toInt.toNat
    rw [if_pos hfits, hvalue] at hparse
    rw [if_neg hnatural]
    exact hparse
  · rename_i hsign
    have htext : "a = " ++ ("-" ++ (-n.toInt).toNat.repr) =
        "a = -" ++ toString (-n.toInt).toNat := by
      rw [← String.append_assoc]
      rfl
    have hmagnitude : ((-n.toInt).toNat : Int) = -n.toInt := by omega
    have hvalue : -Int64.ofNat (-n.toInt).toNat = n := by
      rw [← Int64.ofInt_eq_ofNat, hmagnitude, Int64.ofInt_neg, Int64.neg_neg, Int64.ofInt_toInt]
    rw [htext, parse_negative, hvalue, hmagnitude, hmax]
    by_cases hsmallest : n = Int64.minValue
    · rw [if_neg (by rw [hsmallest, hmin]; decide), if_pos hsmallest, hsmallest]
      rfl
    · have hless : n.toInt ≠ -9223372036854775808 :=
        fun h => hsmallest (Int64.toInt_inj.mp (h.trans hmin.symm))
      rw [if_pos (by omega), if_neg hsmallest]

end DocQuery.FilterText
