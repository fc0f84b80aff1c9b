import DocQuery.Proofs.ReadTrees
import DocQuery.Value.Extended
set_option autoImplicit false

/-!
# Proofs: the tokens of printed documents

What is printed of a value without floats is cut into the tokens that spell its tree, where it
ends as well: quoted strings end at their quotes, words and numbers in front of whatever can
follow a value.
-/

namespace DocQuery

namespace Json

open Text (quoted quotedChar fourHexDigits hexDigit isControl)

/-! ## Tokens without an end of their own -/

/-- A token without an end of its own is over in front of a character that does not belong to
it. -/
theorem tokensFrom_close {s : Scan} {t : Token} (hclose : s.close = some [t]) {r : List Char}
    (hr : ∀ c ∈ r.head?, s.step c = s.next c) :
        tokensFrom s r = (tokensFrom .idle r).map (t :: ·) := by
  cases r with
  | nil =>
    rw [tokensFrom, hclose]
    rfl
  | cons c rest =>
    have hidle : Scan.idle.step c = Scan.start c := rfl
    rw [tokensFrom, tokensFrom, hr c rfl, Scan.next, hclose, hidle]
    cases Scan.start c with
    | none => rfl
    | some result => simp [Option.map_map, Function.comp_def]

/-- A token of characters of a kind is read up to the first character of another kind. -/
theorem tokensFrom_run (scan : List Char → Scan) (kind : Char → Bool)
    (hmore : ∀ read c, kind c = true → (scan read).step c = some ([], scan (c :: read)))
    (hend : ∀ read c, kind c = false → (scan read).step c = (scan read).next c)
    {cs read r : List Char} {t : Token} (hcs : ∀ c ∈ cs, kind c = true)
    (hr : ∀ c ∈ r.head?, kind c = false)
    (hclose : (scan (cs.reverse ++ read)).close = some [t]) :
    tokensFrom (scan read) (cs ++ r) = (tokensFrom .idle r).map (t :: ·) := by
  induction cs generalizing read with
  | nil => exact tokensFrom_close hclose fun c hc => hend read c (hr c hc)
  | cons c cs ih =>
    obtain ⟨hc, hcs⟩ := List.forall_mem_cons.mp hcs
    rw [List.cons_append, tokensFrom, hmore read c hc]
    simp only [List.nil_append, Option.map_id']
    exact ih hcs (by simpa using hclose)

theorem tokensFrom_word (c : Char) (cs : List Char) {r : List Char} {t : Token}
    (hc : Scan.start c = some ([], .word [c]))
    (hcs : cs.all Char.isLower = true) (ht : wordToken? (c :: cs) = some t)
    (hr : Value.Follows r) :
    tokensFrom .idle (c :: cs ++ r) = (tokensFrom .idle r).map (t :: ·) := by
  have hend : ∀ d ∈ r.head?, d.isLower = false := fun d hd => by
    rcases hr d hd with rfl | rfl | rfl <;> rfl
  rw [List.cons_append, tokensFrom, show Scan.idle.step c = _ from hc]
  simp only [List.nil_append, Option.map_id']
  exact tokensFrom_run .word Char.isLower (fun _ _ hd => by simp [Scan.step, hd])
    (fun _ _ hd => by simp [Scan.step, hd]) (List.all_eq_true.mp hcs) hend
    (by simp [Scan.close, ht])

theorem tokensFrom_number {c : Char} {cs r : List Char} {t : Token}
    (hc : Scan.start c = some ([], .number [c]))
    (hcs : ∀ d ∈ cs, isNumberChar d = true) (ht : numberToken? (c :: cs) = some t)
    (hr : Value.Follows r) :
    tokensFrom .idle (c :: cs ++ r) = (tokensFrom .idle r).map (t :: ·) := by
  have hend : ∀ d ∈ r.head?, isNumberChar d = false := fun d hd => by
    rcases hr d hd with rfl | rfl | rfl <;> rfl
  rw [List.cons_append, tokensFrom, show Scan.idle.step c = _ from hc]
  simp only [List.nil_append, Option.map_id']
  exact tokensFrom_run .number isNumberChar (fun _ _ hd => by simp [Scan.step, hd])
    (fun _ _ hd => by simp [Scan.step, hd]) hcs hend (by simp [Scan.close, ht])

/-! ## Integers -/

/-- The digits of a number do not begin with a zero, unless the number is zero. -/
theorem head?_toDigits {n : Nat} (hn : n ≠ 0) : (Nat.toDigits 10 n).head? ≠ some '0' := by
  induction n using Nat.strongRecOn with
  | _ n ih =>
    by_cases hless : n < 10
    · simp [Nat.toDigits_of_lt_base hless, hn]
    · have hquotient : (Nat.toDigits 10 (n / 10)).head? ≠ some '0' :=
        ih (n / 10) (by omega) (by omega)
      rw [Nat.toDigits_of_base_le (by decide) (by omega), List.head?_append_of_ne_nil _
        Nat.toDigits_ne_nil]
      exact hquotient

theorem unsignedToken?_toDigits (negative : Bool) (n : Nat) :
    unsignedToken? negative (Nat.toDigits 10 n) =
        some (integerToken negative (Nat.toDigits 10 n)) := by
  have hdigits : ∀ c ∈ Nat.toDigits 10 n, c.isDigit = true := fun c hc =>
    Nat.isDigit_of_mem_toDigits (by decide) (by decide) hc
  have hleading : (1 < (Nat.toDigits 10 n).length && (Nat.toDigits 10 n).head? == some '0') =
      false := by
    by_cases hn : n = 0
    · subst hn
      rfl
    · simp [head?_toDigits hn]
  have htake : (Nat.toDigits 10 n).takeWhile Char.isDigit = Nat.toDigits 10 n :=
    List.takeWhile_eq_self_iff.mpr hdigits
  have hdrop : (Nat.toDigits 10 n).dropWhile Char.isDigit = [] :=
    List.dropWhile_eq_nil_iff.mpr hdigits
  have hempty : (Nat.toDigits 10 n).isEmpty = false := by simp
  simp only [unsignedToken?, htake, hdrop, hempty, hleading, Bool.or_self,
    Bool.false_eq_true, if_false]

theorem integerToken_nonneg {n : Nat} (hn : n < Nat.pow 2 64) :
    integerToken false (Nat.toDigits 10 n) = .int n := by
  simp only [integerToken, Number.ofDigits, Nat.ofDigitChars_ten_toDigits]
  rw [if_neg (by simp), if_neg (by simp), if_pos ⟨trivial, hn⟩]

theorem integerToken_neg {n : Nat} (hzero : n ≠ 0) (hn : n ≤ Nat.pow 2 63) :
    integerToken true (Nat.toDigits 10 n) = .int (-(n : Int)) := by
  simp only [integerToken, Number.ofDigits, Nat.ofDigitChars_ten_toDigits]
  rw [if_neg (fun h => hzero h.2), if_pos ⟨trivial, hn⟩]

theorem numberToken?_int (n : Int64) :
    numberToken? (toString n.toInt).toList = some (.int n.toInt) := by
  have hlow := n.le_toInt
  have hhigh := n.toInt_lt
  rw [Int.toString_eq_repr, Int.repr_eq_if]
  split
  · rename_i hsign
    have hrange : n.toInt.toNat < Nat.pow 2 64 := by
      simp only [Nat.pow_eq, Nat.reducePow]
      omega
    obtain ⟨c, cs, hcons⟩ := List.exists_cons_of_ne_nil (Nat.toDigits_ne_nil (n :=
      n.toInt.toNat) (b := 10))
    have hdigit : c.isDigit = true := Nat.isDigit_of_mem_toDigits (b := 10) (n := n.toInt.toNat)
      (by decide) (by decide) (by rw [hcons]; exact List.mem_cons_self)
    have hminus : c ≠ '-' := fun hc => by simp [hc] at hdigit
    have hunsigned : numberToken? (c :: cs) = unsignedToken? false (c :: cs) := by
      unfold numberToken?
      split
      · rename_i hc
        exact absurd (List.cons.inj hc).1 hminus
      · rfl
    rw [Nat.toList_repr, hcons, hunsigned, ← hcons, unsignedToken?_toDigits,
      integerToken_nonneg hrange, Int.toNat_of_nonneg hsign]
  · rename_i hsign
    have hzero : (-n.toInt).toNat ≠ 0 := by omega
    have hrange : (-n.toInt).toNat ≤ Nat.pow 2 63 := by
      simp only [Nat.pow_eq, Nat.reducePow]
      omega
    have hvalue : -((-n.toInt).toNat : Int) = n.toInt := by omega
    rw [String.toList_append, Nat.toList_repr]
    refine (unsignedToken?_toDigits true _).trans (congrArg some ?_)
    rw [integerToken_neg hzero hrange, hvalue]

/-- A number begins with any character that an integer is written with. -/
theorem start_of_isNumeral {c : Char} (h : isNumeral c = true) :
    Scan.start c = some ([], .number [c]) := by
  have hne : ∀ d, isNumeral d = false → c ≠ d := fun d hd hc => by simp [← hc, h] at hd
  have hnumber : (c.isDigit || c == '-') = true := h
  simp [Scan.start, isSpace, hnumber, hne ' ' rfl, hne '\n' rfl, hne '\t' rfl, hne '\r' rfl,
    hne '[' rfl, hne ']' rfl, hne '\x7b' rfl, hne '\x7d' rfl, hne ',' rfl,
    hne ':' rfl, hne '"' rfl]

theorem tokensFrom_int (n : Int64) {r : List Char} (hr : Value.Follows r) :
    tokensFrom .idle ((toString n.toInt).toList ++ r) =
        (tokensFrom .idle r).map (.int n.toInt :: ·) := by
  obtain ⟨c, cs, hcons⟩ := List.exists_cons_of_ne_nil (toString_int_ne_nil n.toInt)
  have hnumeral : ∀ d ∈ c :: cs, isNumeral d = true := fun d hd => isNumeral_int d (hcons ▸ hd)
  rw [hcons]
  refine tokensFrom_number (start_of_isNumeral (hnumeral c List.mem_cons_self)) ?_
    (hcons ▸ numberToken?_int n) hr
  intro d hd
  have hkind := hnumeral d (List.mem_cons_of_mem c hd)
  simp only [isNumeral, Bool.or_eq_true] at hkind
  rcases hkind with hdigit | hminus <;> simp [isNumberChar, *]

/-! ## Strings -/

/-- How a character inside quotes is read. -/
def pieceOf (c : Char) : Piece :=
  if isControl c ∧ c ≠ '\n' ∧ c ≠ '\r' ∧ c ≠ '\t' then .unit c.toNat else .char c

theorem hexValue?_hexDigit : ∀ n < 16, hexValue? (hexDigit n) = some n := by
  decide

/-- Four hexadecimal digits are read as the number that they are written for. -/
theorem tokensFrom_fourHexDigits {n : Nat} (hn : n < 65536) (read : List Piece)
    (r : List Char) :
    tokensFrom (.hex read 3 0) (fourHexDigits n ++ r) =
        tokensFrom (.string (.unit n :: read)) r := by
  have hdigit : ∀ m, hexValue? (hexDigit (m % 16)) = some (m % 16) := fun m =>
    hexValue?_hexDigit _ (Nat.mod_lt _ (by decide))
  have hvalue : (((0 * 16 + n / 4096 % 16) * 16 + n / 256 % 16) * 16 + n / 16 % 16) * 16 + n %
    16 = n := by omega
  simp only [fourHexDigits, List.cons_append, List.nil_append, tokensFrom, Scan.step, hdigit,
    hvalue, Option.map_id']

/-- A character behind a backslash is read as the character that both stand for. -/
theorem tokensFrom_escaped {mark c : Char} (hmark : mark ≠ 'u') (hc : escaped? mark = some c)
    (read : List Piece)
    (r : List Char) : tokensFrom (.string read) ('\\' :: mark :: r) =
        tokensFrom (.string (.char c :: read)) r := by
  simp [tokensFrom, Scan.step, hmark, hc]

/-- What is written for a character inside quotes is read as that character. -/
theorem tokensFrom_quotedChar (c : Char) (read : List Piece) (r : List Char) :
    tokensFrom (.string read) (quotedChar c ++ r) =
        tokensFrom (.string (pieceOf c :: read)) r := by
  by_cases hnamed : c = '"' ∨ c = '\\' ∨ c = '\n' ∨ c = '\r' ∨ c = '\t'
  · rcases hnamed with rfl | rfl | rfl | rfl | rfl <;> exact tokensFrom_escaped (by decide)
      (by decide) read r
  simp only [not_or] at hnamed
  obtain ⟨hquote, hbackslash, hline, hreturn, htab⟩ := hnamed
  rw [quotedChar, if_neg hquote, if_neg hbackslash, if_neg hline, if_neg hreturn, if_neg htab]
  by_cases hcontrol : isControl c = true
  · have hpiece : pieceOf c = .unit c.toNat := if_pos ⟨hcontrol, hline, hreturn, htab⟩
    have hstart : tokensFrom (.string read) ('\\' :: 'u' :: (fourHexDigits c.toNat ++ r)) =
        tokensFrom (.hex read 3 0) (fourHexDigits c.toNat ++ r) := by
      simp [tokensFrom, Scan.step]
    rw [if_pos hcontrol, hpiece, ← tokensFrom_fourHexDigits (Text.isControl_lt hcontrol)]
    exact hstart
  · have hpiece : pieceOf c = .char c := if_neg fun h => hcontrol h.1
    have hvisible : ¬ c.toNat < 0x20 := fun h => hcontrol (by simp [isControl, h])
    rw [if_neg hcontrol, hpiece]
    simp [tokensFrom, Scan.step, hquote, hbackslash, hvisible]

/-- A control character is no half of a surrogate pair. -/
theorem assemble_unit {c : Char} (hc : isControl c = true) (pieces : List Piece) :
    assemble (.unit c.toNat :: pieces) = (assemble pieces).map (c :: ·) := by
  have hlow : c.toNat < 0xD800 := by
    simp only [isControl, Bool.or_eq_true, Bool.and_eq_true, decide_eq_true_eq] at hc
    omega
  have hhigh : isHighSurrogate c.toNat = false := by simp [isHighSurrogate]; omega
  have hlowhalf : isLowSurrogate c.toNat = false := by simp [isLowSurrogate]; omega
  have hchar : Char.ofNat c.toNat = c := Char.ofNat_toNat c
  rcases pieces with _ | ⟨d | m, rest⟩ <;> simp [assemble, hhigh, hlowhalf, hchar]

theorem assemble_pieceOf (cs : List Char) : assemble (cs.map pieceOf) = some cs := by
  induction cs with
  | nil => rfl
  | cons c cs ih =>
    rw [List.map_cons, pieceOf]
    split
    · rename_i hcontrol
      rw [assemble_unit hcontrol.1, ih]
      rfl
    · rw [assemble, ih]
      rfl

theorem tokensFrom_flatMap_quotedChar (cs : List Char) (read : List Piece) (r : List Char) :
    tokensFrom (.string read) (cs.flatMap quotedChar ++ r) =
        tokensFrom (.string ((cs.map pieceOf).reverse ++ read)) r := by
  induction cs generalizing read with
  | nil => rfl
  | cons c cs ih =>
    rw [List.flatMap_cons, List.append_assoc, tokensFrom_quotedChar, ih]
    simp

/-- A quoted string is read up to its closing quote. -/
theorem tokensFrom_quoted (s : String) (r : List Char) :
    tokensFrom .idle (quoted s ++ r) = (tokensFrom .idle r).map (.string s :: ·) := by
  have hopen : ∀ cs, tokensFrom .idle ('"' :: cs) = tokensFrom (.string []) cs := fun cs => by
    simp [tokensFrom, Scan.step, Scan.start, isSpace]
  have hstring : stringToken (s.toList.map pieceOf) = .string s := by
    simp [stringToken, assemble_pieceOf]
  rw [quoted, List.cons_append, List.append_assoc, hopen, tokensFrom_flatMap_quotedChar,
    List.cons_append, List.nil_append, tokensFrom]
  simp [Scan.step, hstring]

/-- A character that is a token by itself. -/
theorem tokensFrom_mark {c : Char} {t : Token} (hc : Scan.start c = some ([t], .idle))
    (r : List Char) : tokensFrom .idle (c :: r) = (tokensFrom .idle r).map (t :: ·) := by
  rw [tokensFrom, show Scan.idle.step c = _ from hc]
  rfl

end Json

namespace Value

open Json
open Text (quoted)

/-! ## Values -/

/-- Whether a value is another one or holds it, at any depth. -/
inductive Contains (w : Value) : Value → Prop where
  | refl : Contains w w
  | item {v : Value} {items : List Value} (hv : v ∈ items) (h : Contains w v) :
    Contains w (.array items)
  | member {m : String × Value} {fields : Document} (hm : m ∈ fields) (h : Contains w m.2) :
    Contains w (.object fields)

/-- Whether a value holds no float. -/
def FloatFree (v : Value) : Prop := ∀ x, ¬ Contains (.float x) v

theorem FloatFree.item {v : Value} {items : List Value} (h : FloatFree (.array items))
    (hv : v ∈ items) : v.FloatFree :=
  fun x hx => h x (.item hv hx)

theorem FloatFree.member {m : String × Value} {fields : Document}
    (h : FloatFree (.object fields)) (hm : m ∈ fields) : m.2.FloatFree :=
  fun x hx => h x (.member hm hx)

mutual

/-- What is printed of a value is cut into the tokens that spell its tree. -/
theorem tokensFrom_write (v : Value) (hv : v.FloatFree) (d : Nat) {r : List Char}
    (hr : Follows r) :
    tokensFrom .idle (write .compact d v ++ r) =
        (tokensFrom .idle r).map (spelling (toJson v) ++ ·) := by
  match v with
  | .null => exact tokensFrom_word 'n' ['u', 'l', 'l'] rfl rfl rfl hr
  | .bool true => exact tokensFrom_word 't' ['r', 'u', 'e'] rfl rfl rfl hr
  | .bool false => exact tokensFrom_word 'f' ['a', 'l', 's', 'e'] rfl rfl rfl hr
  | .int n => exact tokensFrom_int n hr
  | .float x => exact absurd .refl (hv x)
  | .string s => exact tokensFrom_quoted s r
  | .decimal d =>
    simp only [write, lineBreak, colon, List.nil_append, List.cons_append, List.append_assoc,
      List.append_nil]
    rw [tokensFrom_mark (t := .openObject) rfl, tokensFrom_quoted, tokensFrom_mark (t :=
      .colon) rfl, tokensFrom_quoted, tokensFrom_mark (t := .closeObject) rfl]
    simp [toJson, spelling, memberSpelling, Option.map_map, Function.comp_def]
  | .array [] =>
    simp only [write, List.nil_append, List.cons_append]
    rw [tokensFrom_mark (t := .openArray) rfl, tokensFrom_mark (t := .closeArray) rfl]
    simp [toJson, toJsonItems, spelling, Option.map_map, Function.comp_def]
  | .array (item :: rest) =>
    obtain ⟨hitem, hrest⟩ := List.forall_mem_cons.mp fun v hmem => FloatFree.item hv hmem
    simp only [write, lineBreak, List.nil_append, List.cons_append, List.append_assoc]
    rw [tokensFrom_mark (t := .openArray) rfl, tokensFrom_write item hitem (d + 1)
      (follows_items rest (d + 1)), tokensFrom_writeItems rest hrest (d + 1) r]
    simp [toJson, toJsonItems, spelling, Option.map_map, Function.comp_def]
  | .object [] =>
    simp only [write, List.nil_append, List.cons_append]
    rw [tokensFrom_mark (t := .openObject) rfl, tokensFrom_mark (t := .closeObject) rfl]
    simp [toJson, toJsonMembers, spelling, Option.map_map, Function.comp_def]
  | .object ((name, v) :: rest) =>
    obtain ⟨hvalue, hrest⟩ := List.forall_mem_cons.mp fun m hmem => FloatFree.member hv hmem
    simp only [write, lineBreak, colon, List.nil_append, List.cons_append, List.append_assoc]
    rw [tokensFrom_mark (t := .openObject) rfl, tokensFrom_quoted,
      tokensFrom_mark (t := .colon) rfl, tokensFrom_write v hvalue (d + 1) (follows_fields rest
      (d + 1)), tokensFrom_writeFields rest hrest (d + 1) r]
    simp [toJson, toJsonMembers, spelling, Option.map_map, Function.comp_def]

/-- The items behind the first one are cut into the tokens that spell them, with the end of the
array. -/
theorem tokensFrom_writeItems (items : List Value) (hitems : ∀ v ∈ items, v.FloatFree) (d : Nat)
    (r : List Char) : tokensFrom .idle (writeItems .compact d items ++ ']' :: r) =
      (tokensFrom .idle r).map (itemSpelling (toJsonItems items) ++ .closeArray :: ·) := by
  match items with
  | [] => exact tokensFrom_mark rfl r
  | item :: rest =>
    obtain ⟨hitem, hrest⟩ := List.forall_mem_cons.mp hitems
    simp only [writeItems, lineBreak, List.nil_append, List.cons_append, List.append_assoc]
    rw [tokensFrom_mark (t := .comma) rfl, tokensFrom_write item hitem d (follows_items rest d),
      tokensFrom_writeItems rest hrest d r]
    simp [toJsonItems, itemSpelling, Option.map_map, Function.comp_def]

/-- The members behind the first one are cut into the tokens that spell them, with the end of
the object. -/
theorem tokensFrom_writeFields (fields : Document) (hfields : ∀ m ∈ fields, m.2.FloatFree)
    (d : Nat) (r : List Char) :
    tokensFrom .idle (writeFields .compact d fields ++ '\x7d' :: r) =
      (tokensFrom .idle r).map
          (memberSpelling (toJsonMembers fields) ++ .closeObject :: ·) := by
  match fields with
  | [] => exact tokensFrom_mark rfl r
  | (name, v) :: rest =>
    obtain ⟨hvalue, hrest⟩ := List.forall_mem_cons.mp hfields
    simp only [writeFields, lineBreak, colon, List.nil_append, List.cons_append,
      List.append_assoc]
    rw [tokensFrom_mark (t := .comma) rfl, tokensFrom_quoted, tokensFrom_mark (t := .colon) rfl,
      tokensFrom_write v hvalue d (follows_fields rest d),
        tokensFrom_writeFields rest hrest d r]
    simp [toJsonMembers, memberSpelling, Option.map_map, Function.comp_def]

end

end Value

end DocQuery
