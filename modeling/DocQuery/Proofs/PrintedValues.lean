import DocQuery.Proofs.Names
import DocQuery.Value.Printer
set_option autoImplicit false

/-!
# Proofs: values can be told from what is printed of them

What is printed of a value on one line ends where the value does, so a value is given by its
text.  There are two exceptions.  A decimal is printed like an object that holds its text, and
floats are printed by the digits that are needed to tell them apart; values that hold either a
float or such an object are left out.
-/

namespace DocQuery

/-! ## Texts that end where a kind of characters does -/

/-- Two texts of characters of a kind are the same if they are with what follows, which starts
with none of that kind. -/
theorem append_inj_of_kind {kind : Char → Bool} {xs ys r s : List Char}
    (hx : ∀ c ∈ xs, kind c = true)
    (hy : ∀ c ∈ ys, kind c = true) (hr : ∀ c ∈ r.head?, kind c = false)
    (hs : ∀ c ∈ s.head?, kind c = false)
    (h : xs ++ r = ys ++ s) : xs = ys ∧ r = s := by
  induction xs generalizing ys with
  | nil =>
    cases ys with
    | nil => exact ⟨rfl, h⟩
    | cons y ys =>
      obtain rfl : r = y :: (ys ++ s) := h
      have hkind := hr y rfl
      simp [hy y List.mem_cons_self] at hkind
  | cons x xs ih =>
    obtain ⟨hxfirst, hxrest⟩ := List.forall_mem_cons.mp hx
    cases ys with
    | nil =>
      obtain rfl : s = x :: (xs ++ r) := h.symm
      have hkind := hs x rfl
      simp [hxfirst] at hkind
    | cons y ys =>
      obtain ⟨rfl, hrest⟩ := List.cons.inj h
      obtain ⟨rfl, hsame⟩ := ih hxrest (List.forall_mem_cons.mp hy).2 hrest
      exact ⟨rfl, hsame⟩

namespace Text

/-! ## Quoted strings -/

theorem hexDigit_inj : ∀ m < 16, ∀ n < 16, hexDigit m = hexDigit n → m = n := by
  decide

theorem fourHexDigits_inj {m n : Nat} (hm : m < 65536) (hn : n < 65536)
    (h : fourHexDigits m = fourHexDigits n) : m = n := by
  have hdigit : ∀ {a b : Nat}, hexDigit (a % 16) = hexDigit (b % 16) →
      a % 16 = b % 16 := fun hab =>
    hexDigit_inj _ (Nat.mod_lt _ (by decide)) _ (Nat.mod_lt _ (by decide)) hab
  simp only [fourHexDigits, List.cons.injEq, and_true] at h
  obtain ⟨h1, h2, h3, h4⟩ := h
  have := hdigit h1
  have := hdigit h2
  have := hdigit h3
  have := hdigit h4
  omega

theorem isControl_lt {c : Char} (h : isControl c = true) : c.toNat < 65536 := by
  simp only [isControl, Bool.or_eq_true, Bool.and_eq_true, decide_eq_true_eq] at h
  omega

theorem fourHexDigits_append_inj {c d : Char} (hc : isControl c = true)
    (hd : isControl d = true) {r s : List Char}
    (h : fourHexDigits c.toNat ++ r = fourHexDigits d.toNat ++ s) : c = d ∧ r = s := by
  obtain ⟨hdigits, hrest⟩ := List.append_inj h rfl
  exact ⟨Char.toNat_inj.mp (fourHexDigits_inj (isControl_lt hc) (isControl_lt hd) hdigits),
    hrest⟩

/-- What is written for a character inside quotes is not the beginning of what is written for
another one. -/
theorem quotedChar_append_inj {c d : Char} {r s : List Char}
    (h : quotedChar c ++ r = quotedChar d ++ s) : c = d ∧ r = s := by
  unfold quotedChar at h
  repeat' split at h
  all_goals simp only [List.cons_append, List.nil_append, List.cons.injEq] at h
  all_goals grind [fourHexDigits_append_inj]

/-- A quote inside quotes is written behind a backslash. -/
theorem quotedChar_append_ne (c : Char) (r s : List Char) : quotedChar c ++ r ≠ '"' :: s := by
  unfold quotedChar
  repeat' split
  all_goals simp_all

theorem flatMap_quotedChar_inj {cs ds r s : List Char}
    (h : cs.flatMap quotedChar ++ '"' :: r = ds.flatMap quotedChar ++ '"' :: s) :
        cs = ds ∧ r = s := by
  induction cs generalizing ds with
  | nil =>
    cases ds with
    | nil => exact ⟨rfl, (List.cons.inj h).2⟩
    | cons d ds =>
      rw [List.flatMap_cons, List.append_assoc] at h
      exact absurd h.symm (quotedChar_append_ne d _ _)
  | cons c cs ih =>
    cases ds with
    | nil =>
      rw [List.flatMap_cons, List.append_assoc] at h
      exact absurd h (quotedChar_append_ne c _ _)
    | cons d ds =>
      rw [List.flatMap_cons, List.flatMap_cons, List.append_assoc, List.append_assoc] at h
      obtain ⟨rfl, hrest⟩ := quotedChar_append_inj h
      obtain ⟨rfl, hsame⟩ := ih hrest
      exact ⟨rfl, hsame⟩

/-- A quoted string ends where its quotes do. -/
theorem quoted_append_inj {a b : String} {r s : List Char} (h : quoted a ++ r = quoted b ++ s) :
    a = b ∧ r = s := by
  unfold quoted at h
  rw [List.cons_append, List.cons_append, List.append_assoc, List.append_assoc] at h
  obtain ⟨hchars, hrest⟩ := flatMap_quotedChar_inj (List.cons.inj h).2
  exact ⟨String.toList_inj.mp hchars, hrest⟩

end Text

/-! ## Numbers -/

/-- Whether a character stands in the text of an integer. -/
def isNumeral (c : Char) : Bool := c.isDigit || c == '-'

theorem isNumeral_int {n : Int} : ∀ c ∈ (toString n).toList, isNumeral c = true := by
  have hdigits : ∀ m : Nat, ∀ c ∈ (Nat.repr m).toList, isNumeral c = true := fun m c hc => by
    rw [Nat.repr_eq_ofList_toDigits, String.toList_ofList] at hc
    simp [isNumeral, Nat.isDigit_of_mem_toDigits (by decide) (by decide) hc]
  intro c hc
  rw [Int.toString_eq_repr, Int.repr_eq_if] at hc
  split at hc
  · exact hdigits _ c hc
  · rw [String.toList_append, List.mem_append] at hc
    rcases hc with hsign | hdigit
    · obtain rfl : c = '-' := by simpa using hsign
      rfl
    · exact hdigits _ c hdigit

theorem toString_int_inj {m n : Int} (h : toString m = toString n) : m = n := by
  have hsign : ∀ k l : Nat, Nat.repr k ≠ "-" ++ Nat.repr l := fun k l hkl => by
    have hnone : '-' ∉ ("" ++ toString k).toList := notMem_numbered (by decide) (by simp) k
    rw [String.empty_append, Nat.toString_eq_repr, hkl] at hnone
    simp at hnone
  rw [Int.toString_eq_repr, Int.toString_eq_repr, Int.repr_eq_if, Int.repr_eq_if] at h
  split at h <;> split at h
  · have hsame := numbered_injective "" (congrArg ("" ++ ·) h)
    omega
  · exact absurd h (hsign _ _)
  · exact absurd h.symm (hsign _ _)
  · have hsame := numbered_injective "-" h
    omega

theorem toString_int_ne_nil (n : Int) : (toString n).toList ≠ [] := by
  rw [Int.toString_eq_repr, Int.repr_eq_if]
  split
  · exact fun h => Nat.repr_ne_empty (String.toList_inj.mp h)
  · simp

namespace Decimal

/-- The digits of a decimal, with at least one before the point. -/
def digits (d : Decimal) : List Char :=
  List.replicate (d.scale + 1 - (Nat.toDigits 10 d.mantissa).length) '0' ++
    Nat.toDigits 10 d.mantissa

theorem isDigit_digits {d : Decimal} : ∀ c ∈ d.digits, c.isDigit = true := by
  intro c hc
  rcases List.mem_append.mp hc with hzero | hdigit
  · obtain rfl := List.eq_of_mem_replicate hzero
    rfl
  · exact Nat.isDigit_of_mem_toDigits (by decide) (by decide) hdigit

theorem scale_lt_length (d : Decimal) : d.scale < d.digits.length := by
  simp only [digits, List.length_append, List.length_replicate]
  omega

theorem mantissa_eq (d : Decimal) : Nat.ofDigitChars 10 d.digits 0 = d.mantissa := by
  rw [digits, Nat.ofDigitChars_append, Nat.ofDigitChars_replicate_zero]
  simp [Nat.ofDigitChars_ten_toDigits]

/-- The digits before the point. -/
def whole (d : Decimal) : List Char := d.digits.take (d.digits.length - d.scale)

/-- The digits behind the point. -/
def fraction (d : Decimal) : List Char := d.digits.drop (d.digits.length - d.scale)

theorem length_fraction (d : Decimal) : d.fraction.length = d.scale := by
  have hscale := d.scale_lt_length
  simp only [fraction, List.length_drop]
  omega

theorem whole_ne_nil (d : Decimal) : d.whole ≠ [] := by
  have hscale := d.scale_lt_length
  have hlength : d.whole.length ≠ 0 := by
    simp only [whole, List.length_take]
    omega
  exact fun h => hlength (by rw [h]; rfl)

theorem text_eq (d : Decimal) : d.text.toList =
    (if d.negative then ['-'] else []) ++
        (d.whole ++ if d.fraction = [] then [] else '.' :: d.fraction) := by
  have hnone : d.fraction = [] ↔ d.scale = 0 := by
    rw [← List.length_eq_zero_iff, length_fraction]
  simp only [hnone]
  simp [text, whole, fraction, digits]

theorem isDigit_whole {d : Decimal} : ∀ c ∈ d.whole, c.isDigit = true :=
  fun c hc => isDigit_digits c (List.mem_of_mem_take hc)

/-- The digits of a decimal do not start like its sign. -/
theorem whole_append_ne (d : Decimal) (r s : List Char) : d.whole ++ r ≠ '-' :: s := by
  obtain ⟨c, rest, hwhole⟩ := List.exists_cons_of_ne_nil d.whole_ne_nil
  intro h
  rw [hwhole, List.cons_append] at h
  have hdigit := isDigit_whole c (by rw [hwhole]; exact List.mem_cons_self)
  rw [(List.cons.inj h).1] at hdigit
  simp at hdigit

/-- The text of a decimal says what its sign, its digits and the number of its fraction digits
are. -/
theorem text_inj {a b : Decimal} (h : a.text = b.text) : a = b := by
  have hlist := congrArg String.toList h
  rw [text_eq, text_eq] at hlist
  have hsign : a.negative = b.negative := by
    cases ha : a.negative <;> cases hb : b.negative <;> simp only [ha, hb, if_true] at hlist <;>
      try rfl
    · exact absurd hlist (whole_append_ne a _ _)
    · exact absurd hlist.symm (whole_append_ne b _ _)
  rw [hsign] at hlist
  have hpoint : ∀ d : Decimal, ∀ c ∈ (if d.fraction = [] then [] else '.' :: d.fraction).head?,
      c.isDigit = false := by
    intro d c hc
    split at hc
    · simp at hc
    · obtain rfl : '.' = c := by simpa using hc
      rfl
  obtain ⟨hwholes, hpoints⟩ := append_inj_of_kind isDigit_whole isDigit_whole
    (hpoint a) (hpoint b) (List.append_cancel_left hlist)
  have hfractions : a.fraction = b.fraction := by
    split at hpoints <;> split at hpoints <;> simp_all
  have hmantissa : a.mantissa = b.mantissa := by
    have hsplit : ∀ d : Decimal, d.whole ++ d.fraction = d.digits :=
      fun d => List.take_append_drop _ _
    rw [← mantissa_eq a, ← mantissa_eq b, ← hsplit a, ← hsplit b, hwholes, hfractions]
  have hscale : a.scale = b.scale := by
    rw [← length_fraction a, ← length_fraction b, hfractions]
  obtain ⟨_, _, _, _, _⟩ := a
  obtain ⟨_, _, _, _, _⟩ := b
  simp_all

end Decimal

namespace Value

open Text

/-! ## Values -/

mutual

/-- Whether a value can be told from what is printed of it: it holds no float, and no object
that is printed like a decimal. -/
def IsLegible : Value → Prop
  | .float _ => False
  | .array items => AreLegible items
  | .object fields =>
    (∀ d : Decimal, fields ≠ [(decimalKey, .string d.text)]) ∧ MembersLegible fields
  | _ => True

/-- The same for every item. -/
def AreLegible : List Value → Prop
  | [] => True
  | v :: rest => IsLegible v ∧ AreLegible rest

/-- The same for the value of every member. -/
def MembersLegible : List (String × Value) → Prop
  | [] => True
  | (_, v) :: rest => IsLegible v ∧ MembersLegible rest

end

theorem areLegible_iff {items : List Value} : AreLegible items ↔ ∀ v ∈ items, v.IsLegible := by
  induction items with
  | nil => simp [AreLegible]
  | cons v rest ih => simp [AreLegible, ih]

theorem membersLegible_iff {fields : Document} :
    MembersLegible fields ↔ ∀ m ∈ fields, m.2.IsLegible := by
  induction fields with
  | nil => simp [MembersLegible]
  | cons m rest ih => simp [MembersLegible, ih]

/-- Whether a text is what can follow a value in what is printed. -/
def Follows (r : List Char) : Prop := ∀ c ∈ r.head?, c = ',' ∨ c = ']' ∨ c = '\x7d'

/-- The kind of the values that are printed with some first character. -/
def kindOf (c : Char) : Nat :=
  if c = 'n' then 1
  else if c = '"' then 3
  else if c = '\x7b' then 4
  else if c = '[' then 5
  else if c = 't' ∨ c = 'f' then 8
  else if isNumeral c then 2
  else 0

/-- The kind of a legible value as it is printed: a decimal is an object. -/
def printedKind : Value → Nat
  | .null => 1
  | .int _ => 2
  | .float _ => 0
  | .decimal _ => 4
  | .string _ => 3
  | .object _ => 4
  | .array _ => 5
  | .bool _ => 8

theorem kindOf_numeral {c : Char} (h : isNumeral c = true) : kindOf c = 2 := by
  have hne : ∀ d, isNumeral d = false → c ≠ d := fun d hd hc => by simp [← hc, h] at hd
  simp [kindOf, h, hne 'n' rfl, hne '"' rfl, hne '\x7b' rfl, hne '[' rfl,
    hne 't' rfl, hne 'f' rfl]

theorem kindOf_write {v : Value} (h : v.IsLegible) (depth : Nat) :
    ∃ c rest, write .compact depth v = c :: rest ∧ kindOf c = v.printedKind := by
  cases v with
  | null => exact ⟨'n', "ull".toList, rfl, by decide⟩
  | bool b =>
    cases b with
    | false => exact ⟨'f', "alse".toList, rfl, by decide⟩
    | true => exact ⟨'t', "rue".toList, rfl, by decide⟩
  | int n =>
    obtain ⟨c, rest, hcons⟩ := List.exists_cons_of_ne_nil (toString_int_ne_nil n.toInt)
    exact ⟨c, rest, by rw [write, hcons],
      kindOf_numeral (isNumeral_int c (by rw [hcons]; exact List.mem_cons_self))⟩
  | float x => exact h.elim
  | decimal d => exact ⟨'\x7b', _, rfl, (by decide : kindOf '\x7b' = 4)⟩
  | string s => exact ⟨'"', _, by rw [write, quoted], (by decide : kindOf '"' = 3)⟩
  | array items => cases items <;> exact ⟨'[', _, by rw [write], (by decide : kindOf '[' = 5)⟩
  | object fields =>
    cases fields <;> exact ⟨'\x7b', _, by rw [write], (by decide : kindOf '\x7b' = 4)⟩

theorem printedKind_eq {v w : Value} (hv : v.IsLegible) (hw : w.IsLegible) {d e : Nat}
    {r s : List Char}
    (h : write .compact d v ++ r = write .compact e w ++ s) :
        v.printedKind = w.printedKind := by
  obtain ⟨c, rest, hcons, hkind⟩ := kindOf_write hv d
  obtain ⟨c', rest', hcons', hkind'⟩ := kindOf_write hw e
  rw [hcons, hcons', List.cons_append, List.cons_append] at h
  rw [← hkind, ← hkind', (List.cons.inj h).1]

/-- What an array is printed like if its items stand behind commas. -/
theorem write_array_cons (item : Value) (rest : List Value) (d : Nat) (r : List Char) :
    ∃ text, write .compact d (.array (item :: rest)) ++ r = '[' :: text ∧
      writeItems .compact (d + 1) (item :: rest) ++ ']' :: r = ',' :: text :=
  ⟨write .compact (d + 1) item ++ (writeItems .compact (d + 1) rest ++ ']' ::
    r), by simp [write, lineBreak], by simp [writeItems, lineBreak]⟩

/-- What an object is printed like if its members stand behind commas. -/
theorem write_object_cons (m : String × Value) (rest : Document) (d : Nat) (r : List Char) :
    ∃ text, write .compact d (.object (m :: rest)) ++ r = '\x7b' :: text ∧
      writeFields .compact (d + 1) (m :: rest) ++ '\x7d' :: r = ',' :: text :=
  ⟨quoted m.1 ++ (':' :: (write .compact (d + 1) m.2 ++ (writeFields .compact (d + 1) rest ++
    '\x7d' :: r))), by simp [write, lineBreak, colon], by simp [writeFields, lineBreak, colon]⟩

theorem follows_items {r : List Char} (items : List Value) (d : Nat) :
    Follows (writeItems .compact d items ++ ']' :: r) := by
  cases items <;> simp [writeItems, Follows]

theorem follows_fields {r : List Char} (fields : Document) (d : Nat) :
    Follows (writeFields .compact d fields ++ '\x7d' :: r) := by
  cases fields <;> simp [writeFields, Follows]

theorem not_isNumeral_of_follows {r : List Char} (h : Follows r) :
    ∀ c ∈ r.head?, isNumeral c = false := by
  intro c hc
  rcases h c hc with rfl | rfl | rfl <;> rfl

/-- An empty array is not printed like one with an item. -/
theorem write_append_ne {v : Value} (hv : v.IsLegible) (d : Nat) (r s : List Char) :
    write .compact d v ++ r ≠ ']' :: s := by
  intro h
  obtain ⟨c, rest, hcons, hkind⟩ := kindOf_write hv d
  rw [hcons, List.cons_append] at h
  rw [(List.cons.inj h).1] at hkind
  cases v <;> first | exact hv | simp [printedKind, kindOf, isNumeral] at hkind

/-- An object that is printed like a decimal is not legible. -/
theorem write_object_ne_decimal {fields : Document} (h : (object fields).IsLegible)
    {x : Decimal} {d e : Nat}
    {r s : List Char} : write .compact d (.object fields) ++ r ≠ write .compact e
        (.decimal x) ++ s := by
  intro hsame
  cases fields with
  | nil => simp [write, lineBreak, quoted] at hsame
  | cons m rest =>
    obtain ⟨name, v⟩ := m
    simp only [write, lineBreak, colon, List.nil_append, List.cons_append, List.append_assoc,
      List.cons.injEq, true_and] at hsame
    obtain ⟨rfl, hvalue⟩ := quoted_append_inj hsame
    have htext := (List.cons.inj hvalue).2
    have hkind := printedKind_eq (w := .string x.text) (e := e) h.2.1 trivial htext
    cases v <;> simp [printedKind] at hkind
    obtain ⟨rfl, hend⟩ := quoted_append_inj htext
    cases rest with
    | nil => exact h.1 x rfl
    | cons => simp [writeFields] at hend

/-- A decimal ends where its text does. -/
theorem write_decimal_append_inj {x y : Decimal} {d e : Nat} {r s : List Char}
    (h : write .compact d (.decimal x) ++ r = write .compact e (.decimal y) ++ s) :
    x = y ∧ r = s := by
  simp only [write, lineBreak, colon, List.nil_append, List.cons_append, List.append_assoc,
    List.cons.injEq, true_and] at h
  obtain ⟨-, hvalue⟩ := quoted_append_inj h
  obtain ⟨htext, hrest⟩ := quoted_append_inj (List.cons.inj hvalue).2
  exact ⟨Decimal.text_inj htext, (List.cons.inj hrest).2⟩

/-- An array ends where its items do, as each of them stands behind a comma. -/
theorem write_array_append_inj {items others : List Value} (hv : AreLegible items)
    (hw : AreLegible others) {d e : Nat} {r s : List Char}
    (hitems : writeItems .compact (d + 1) items ++ ']' :: r =
      writeItems .compact (e + 1) others ++ ']' :: s → items = others ∧ r = s)
    (h : write .compact d (.array items) ++ r = write .compact e (.array others) ++ s) :
    items = others ∧ r = s := by
  match items, others, hv, hw with
  | [], [], _, _ => exact ⟨rfl, List.append_cancel_left h⟩
  | [], other :: others, _, hw =>
    simp only [write, lineBreak, List.cons_append, List.nil_append, List.append_assoc,
      List.cons.injEq, true_and] at h
    exact absurd h.symm (write_append_ne hw.1 _ _ _)
  | item :: items, [], hv, _ =>
    simp only [write, lineBreak, List.cons_append, List.nil_append, List.append_assoc,
      List.cons.injEq, true_and] at h
    exact absurd h (write_append_ne hv.1 _ _ _)
  | item :: items, other :: others, _, _ =>
    obtain ⟨text, hwrite, hfirst⟩ := write_array_cons item items d r
    obtain ⟨text', hwrite', hfirst'⟩ := write_array_cons other others e s
    rw [hwrite, hwrite'] at h
    rw [(List.cons.inj h).2] at hfirst
    exact hitems (hfirst.trans hfirst'.symm)

/-- An object ends where its members do. -/
theorem write_object_append_inj {fields others : Document} {d e : Nat} {r s : List Char}
    (hfields : writeFields .compact (d + 1) fields ++ '\x7d' :: r =
      writeFields .compact (e + 1) others ++ '\x7d' :: s → fields = others ∧ r = s)
    (h : write .compact d (.object fields) ++ r = write .compact e (.object others) ++ s) :
    fields = others ∧ r = s := by
  match fields, others with
  | [], [] => exact ⟨rfl, List.append_cancel_left h⟩
  | [], other :: others => simp [write, lineBreak, quoted] at h
  | field :: fields, [] => simp [write, lineBreak, quoted] at h
  | field :: fields, other :: others =>
    obtain ⟨text, hwrite, hfirst⟩ := write_object_cons field fields d r
    obtain ⟨text', hwrite', hfirst'⟩ := write_object_cons other others e s
    rw [hwrite, hwrite'] at h
    rw [(List.cons.inj h).2] at hfirst
    exact hfields (hfirst.trans hfirst'.symm)

mutual

/-- What is printed of a value ends where the value does. -/
theorem write_append_inj (v w : Value) (hv : v.IsLegible) (hw : w.IsLegible) {d e : Nat}
    {r s : List Char} (hr : Follows r) (hs : Follows s)
    (h : write .compact d v ++ r = write .compact e w ++ s) : v = w ∧ r = s := by
  -- the first character tells the constructors apart, up to decimals, which are objects
  have hkind := printedKind_eq hv hw h
  match v with
  | .null =>
    cases w <;> simp [printedKind] at hkind
    exact ⟨rfl, List.append_cancel_left h⟩
  | .bool a =>
    cases w <;> simp [printedKind] at hkind
    rename_i b
    cases a <;> cases b <;> simp_all [write]
  | .int m =>
    cases w <;> simp [printedKind] at hkind
    rename_i n
    obtain ⟨htext, hrest⟩ := append_inj_of_kind isNumeral_int isNumeral_int
      (not_isNumeral_of_follows hr) (not_isNumeral_of_follows hs) h
    exact ⟨congrArg Value.int (Int64.toInt_inj.mp (toString_int_inj (String.toList_inj.mp
      htext))), hrest⟩
  | .float x => exact hv.elim
  | .decimal x =>
    cases w <;> simp [printedKind] at hkind
    · exact (write_decimal_append_inj h).imp_left (congrArg Value.decimal)
    · exact absurd h.symm (write_object_ne_decimal hw)
  | .string a =>
    cases w <;> simp [printedKind] at hkind
    obtain ⟨rfl, hrest⟩ := quoted_append_inj h
    exact ⟨rfl, hrest⟩
  | .array items =>
    cases w <;> simp [printedKind] at hkind
    rename_i others
    exact (write_array_append_inj hv hw (writeItems_append_inj items others hv hw) h).imp_left
      (congrArg Value.array)
  | .object fields =>
    cases w <;> simp [printedKind] at hkind
    · exact absurd h (write_object_ne_decimal hv)
    · rename_i others
      exact (write_object_append_inj (writeFields_append_inj fields others hv.2 hw.2)
        h).imp_left (congrArg Value.object)

theorem writeItems_append_inj (vs ws : List Value) (hvs : AreLegible vs) (hws : AreLegible ws)
    {d e : Nat} {r s : List Char}
    (h : writeItems .compact d vs ++ ']' :: r = writeItems .compact e ws ++ ']' :: s) :
        vs = ws ∧ r = s := by
  match vs, ws, hvs, hws with
  | [], [], _, _ => exact ⟨rfl, (List.cons.inj h).2⟩
  | [], _ :: _, _, _ => simp [writeItems] at h
  | _ :: _, [], _, _ => simp [writeItems] at h
  | v :: vs, w :: ws, ⟨hv, hvs⟩, ⟨hw, hws⟩ =>
    simp only [writeItems, lineBreak, List.nil_append, List.cons_append, List.append_assoc,
      List.cons.injEq, true_and] at h
    obtain ⟨rfl, hrest⟩ := write_append_inj v w hv hw (follows_items vs d)
      (follows_items ws e) h
    obtain ⟨rfl, hend⟩ := writeItems_append_inj vs ws hvs hws hrest
    exact ⟨rfl, hend⟩

theorem writeFields_append_inj (vs ws : Document) (hvs : MembersLegible vs)
    (hws : MembersLegible ws) {d e : Nat}
    {r s : List Char} (h : writeFields .compact d vs ++ '\x7d' :: r = writeFields .compact e
      ws ++ '\x7d' :: s) :
    vs = ws ∧ r = s := by
  match vs, ws, hvs, hws with
  | [], [], _, _ => exact ⟨rfl, (List.cons.inj h).2⟩
  | [], (_, _) :: _, _, _ => simp [writeFields] at h
  | (_, _) :: _, [], _, _ => simp [writeFields] at h
  | (j, v) :: vs, (k, w) :: ws, ⟨hv, hvs⟩, ⟨hw, hws⟩ =>
    simp only [writeFields, lineBreak, colon, List.nil_append, List.cons_append,
      List.append_assoc, List.cons.injEq, true_and] at h
    obtain ⟨rfl, hvalue⟩ := quoted_append_inj h
    obtain ⟨rfl, hrest⟩ := write_append_inj v w hv hw (follows_fields vs d) (follows_fields ws
      e) (List.cons.inj hvalue).2
    obtain ⟨rfl, hend⟩ := writeFields_append_inj vs ws hvs hws hrest
    exact ⟨rfl, hend⟩

end

/-- Values that print the same are the same. -/
theorem compactText_inj {v w : Value} (hv : v.IsLegible) (hw : w.IsLegible)
    (h : v.compactText = w.compactText) : v = w := by
  have hwrite : write .compact 0 v = write .compact 0 w := String.ofList_injective h
  refine (write_append_inj v w hv hw (r := []) (s := []) ?_ ?_ (by rw [hwrite])).1 <;>
    simp [Follows]

end Value

end DocQuery
