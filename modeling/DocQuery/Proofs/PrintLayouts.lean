import DocQuery.Compile.Aggregation
import DocQuery.Json.Token
import DocQuery.Proofs.PrintedValues
set_option autoImplicit false

/-!
# Proofs: the layouts of printed documents

A value that is printed over several lines differs from the same value on one line in nothing
but blanks and line breaks outside of strings.  The blanks inside strings are part of the value,
and a quote that is written behind a backslash does not end the string.
-/

namespace DocQuery

namespace Text

/-! ## Texts without blanks and line breaks -/

/-- Where a character of a printed text stands. -/
inductive Place where
  /-- outside of all strings -/
  | outside
  /-- inside a string -/
  | inside
  /-- inside a string, behind a backslash -/
  | escaped
  deriving DecidableEq, Repr

/-- Where the character behind a character stands. -/
def Place.next : Place → Char → Place
  | .outside, c => if c = '"' then .inside else .outside
  | .inside, c => if c = '"' then .outside else if c = '\\' then .escaped else .inside
  | .escaped, _ => .inside

/-- Whether a character is left out where it stands: a blank or a line break outside of
strings. -/
def Place.drops (place : Place) (c : Char) : Bool :=
    place == .outside && (c == ' ' || c == '\n')

/-- Characters without the blanks and line breaks that stand outside of strings. -/
def squeeze : Place → List Char → List Char
  | _, [] => []
  | place, c :: rest =>
    if place.drops c then squeeze (place.next c) rest else c :: squeeze (place.next c) rest

/-- A text without the blanks and line breaks that stand outside of strings. -/
def squeezed (s : String) : String := String.ofList (squeeze .outside s.toList)

/-- Whether a character neither is left out nor begins a string. -/
def isBare (c : Char) : Bool := c != ' ' && c != '\n' && c != '"'

/-- A part of a text that begins and ends outside of strings becomes another part, whatever
follows. -/
def Squeezes (part result : List Char) : Prop :=
  ∀ rest, squeeze .outside (part ++ rest) = result ++ squeeze .outside rest

variable {part result more others : List Char} {c : Char}

namespace Squeezes

theorem nil : Squeezes [] [] := fun _ => rfl

theorem append (h : Squeezes part result) (hmore : Squeezes more others) :
    Squeezes (part ++ more) (result ++ others) := by
  intro rest
  rw [List.append_assoc, h, hmore, List.append_assoc]

theorem drop (hc : c = ' ' ∨ c = '\n') (h : Squeezes part result) :
    Squeezes (c :: part) result := by
  intro rest
  rw [← h rest]
  rcases hc with rfl | rfl <;> rfl

theorem keep (hc : isBare c = true) (h : Squeezes part result) :
    Squeezes (c :: part) (c :: result) := by
  intro rest
  simp only [isBare, Bool.and_eq_true, bne_iff_ne, ne_eq] at hc
  obtain ⟨⟨hblank, hbreak⟩, hquote⟩ := hc
  rw [List.cons_append, squeeze, List.cons_append, ← h rest]
  simp [Place.drops, Place.next, hblank, hbreak, hquote]

theorem blanks (n : Nat) : Squeezes (List.replicate n ' ') [] := by
  induction n with
  | zero => exact nil
  | succ n ih => exact drop (.inl rfl) ih

/-- A part of characters of a kind is kept, if blanks, line breaks and quotes are of another
kind. -/
theorem of_kind (kind : Char → Bool) (hkind : [' ', '\n', '"'].all (fun c => !kind c) = true)
    (h : ∀ c ∈ part, kind c = true) : Squeezes part part := by
  induction part with
  | nil => exact nil
  | cons c part ih =>
    obtain ⟨hc, hpart⟩ := List.forall_mem_cons.mp h
    refine keep ?_ (ih hpart)
    simp only [List.all_cons, List.all_nil, Bool.and_true, Bool.and_eq_true,
      Bool.not_eq_true'] at hkind
    have hne : ∀ d, kind d = false → c ≠ d := fun d hd hcd => by simp [← hcd, hc] at hd
    simp [isBare, hne _ hkind.1, hne _ hkind.2.1, hne _ hkind.2.2]

/-- A word is kept. -/
theorem word (s : String) (h : s.toList.all isBare = true) : Squeezes s.toList s.toList :=
  of_kind isBare rfl (List.all_eq_true.mp h)

/-- Parts that nothing follows. -/
theorem squeeze_eq (h : Squeezes part result) : squeeze .outside part = result := by
  have hwhole := h []
  rwa [List.append_nil, squeeze, List.append_nil] at hwhole

end Squeezes

/-! ## Strings -/

/-- A character that is neither a quote nor a backslash stays inside a string. -/
theorem squeeze_inside {rest : List Char} (hquote : c ≠ '"') (hbackslash : c ≠ '\\') :
    squeeze .inside (c :: rest) = c :: squeeze .inside rest := by
  simp [squeeze, Place.drops, Place.next, hquote, hbackslash]

/-- A character behind a backslash does not end a string. -/
theorem squeeze_escaped (rest : List Char) :
    squeeze .inside ('\\' :: c :: rest) = '\\' :: c :: squeeze .inside rest := by
  simp [squeeze, Place.drops, Place.next]

theorem hexDigit_ne : ∀ n < 16, hexDigit n ≠ '"' ∧ hexDigit n ≠ '\\' := by
  decide

theorem squeeze_fourHexDigits (n : Nat) (rest : List Char) :
    squeeze .inside (fourHexDigits n ++ rest) = fourHexDigits n ++ squeeze .inside rest := by
  have hdigit : ∀ m (cs : List Char),
      squeeze .inside (hexDigit (m % 16) :: cs) = hexDigit (m % 16) :: squeeze .inside cs := by
    intro m cs
    obtain ⟨hquote, hbackslash⟩ := hexDigit_ne _ (Nat.mod_lt m (by decide))
    exact squeeze_inside hquote hbackslash
  simp only [fourHexDigits, List.cons_append, List.nil_append, hdigit]

/-- What is written for a character inside quotes is kept, and does not end the string. -/
theorem squeeze_quotedChar (c : Char) (rest : List Char) :
    squeeze .inside (quotedChar c ++ rest) = quotedChar c ++ squeeze .inside rest := by
  by_cases hnamed : c = '"' ∨ c = '\\' ∨ c = '\n' ∨ c = '\r' ∨ c = '\t'
  · rcases hnamed with rfl | rfl | rfl | rfl | rfl <;> exact squeeze_escaped rest
  simp only [not_or] at hnamed
  obtain ⟨hquote, hbackslash, hline, hreturn, htab⟩ := hnamed
  rw [quotedChar, if_neg hquote, if_neg hbackslash, if_neg hline, if_neg hreturn, if_neg htab]
  split
  · rw [List.cons_append, List.cons_append, squeeze_escaped, squeeze_fourHexDigits]
    rfl
  · exact squeeze_inside hquote hbackslash

theorem squeeze_flatMap_quotedChar (cs rest : List Char) :
    squeeze .inside (cs.flatMap quotedChar ++ rest) =
        cs.flatMap quotedChar ++ squeeze .inside rest := by
  induction cs with
  | nil => rfl
  | cons c cs ih =>
    rw [List.flatMap_cons, List.append_assoc, squeeze_quotedChar, ih, List.append_assoc]

/-- A quoted string is kept as it is. -/
theorem squeezes_quoted (s : String) : Squeezes (quoted s) (quoted s) := by
  intro rest
  have hopen : ∀ cs, squeeze .outside ('"' :: cs) = '"' :: squeeze .inside cs := fun cs => rfl
  have hclose : squeeze .inside ('"' :: rest) = '"' :: squeeze .outside rest := rfl
  simp only [quoted, List.cons_append, List.append_assoc, List.nil_append, hopen,
    squeeze_flatMap_quotedChar, hclose]

end Text

/-! ## Numbers -/

namespace Number

open Json (isNumberChar)

variable {digits : List Char}

theorem isNumberChar_toDigits (n : Nat) : ∀ c ∈ Nat.toDigits 10 n, isNumberChar c = true := by
  intro c hc
  simp [isNumberChar, Nat.isDigit_of_mem_toDigits (by decide) (by decide) hc]

theorem isNumberChar_replicate {n : Nat} :
    ∀ c ∈ List.replicate n '0', isNumberChar c = true := by
  intro c hc
  rw [List.eq_of_mem_replicate hc]
  rfl

theorem isNumberChar_positional (h : ∀ c ∈ digits, isNumberChar c = true) (exponent : Int) :
    ∀ c ∈ positional digits exponent ['.', '0'], isNumberChar c = true := by
  have hpoint : isNumberChar '.' = true := rfl
  have hzero : isNumberChar '0' = true := rfl
  unfold positional
  split
  · simp only [List.forall_mem_append, List.forall_mem_cons, hpoint, hzero, true_and]
    exact ⟨⟨h, isNumberChar_replicate⟩, nofun⟩
  · dsimp only
    split
    · simp only [List.forall_mem_append, List.forall_mem_cons, hpoint, true_and]
      exact ⟨fun c hc => h c (List.mem_of_mem_take hc), fun c hc =>
        h c (List.mem_of_mem_drop hc)⟩
    · simp only [List.forall_mem_append, List.forall_mem_cons, hpoint, hzero, true_and]
      exact ⟨isNumberChar_replicate, h⟩

theorem isNumberChar_exponential (h : ∀ c ∈ digits, isNumberChar c = true) (exponent : Int) :
    ∀ c ∈ exponential digits exponent, isNumberChar c = true := by
  have hmark : isNumberChar 'e' = true := rfl
  have hpoint : ∀ c ∈ (if digits.length ≤ 1 then [] else ['.']), isNumberChar c = true := by
    split <;> simp [isNumberChar]
  have hsign : ∀ magnitude : Int, ∀ c ∈ (if magnitude < 0 then ['-'] else []),
      isNumberChar c = true := by
    intro magnitude
    split <;> simp [isNumberChar]
  simp only [exponential, List.forall_mem_append, List.forall_mem_cons, hmark, true_and]
  exact ⟨⟨⟨fun c hc => h c (List.mem_of_mem_take hc), hpoint⟩, fun c hc =>
    h c (List.mem_of_mem_drop hc)⟩, hsign _, isNumberChar_toDigits _⟩

/-- The text of a float consists of characters of numbers. -/
theorem isNumberChar_literal (b : Binary64) :
    ∀ c ∈ (literal b).toList, isNumberChar c = true := by
  have hunsigned : ∀ c ∈ documentNotation.unsigned (shortest b), isNumberChar c = true := by
    simp only [FloatNotation.unsigned]
    split
    · simp [isNumberChar]
    split
    · exact isNumberChar_positional (isNumberChar_toDigits _) _
    · exact isNumberChar_exponential (isNumberChar_toDigits _) _
  rw [literal, signed, String.toList_ofList]
  split
  · exact List.forall_mem_cons.mpr ⟨rfl, hunsigned⟩
  · exact hunsigned

end Number

namespace Value

open Text

/-! ## Values -/

theorem squeezes_lineBreak (d e : Nat) :
    Squeezes (lineBreak .pretty d) (lineBreak .compact e) :=
  .drop (.inr rfl) (.blanks _)

theorem squeezes_colon : Squeezes (colon .pretty) (colon .compact) :=
  .keep rfl (.drop (.inl rfl) .nil)

/-- The name of a member on its line. -/
theorem squeezes_name (name : String) (d e : Nat) :
    Squeezes (lineBreak .pretty d ++ quoted name ++ colon .pretty) (lineBreak .compact e ++
        quoted name ++ colon .compact) :=
  ((squeezes_lineBreak d e).append (squeezes_quoted name)).append squeezes_colon

/-- A character that closes an array or object. -/
theorem squeezes_close (c : Char) (hc : isBare c = true) (d e : Nat) :
    Squeezes (lineBreak .pretty d ++ [c]) (lineBreak .compact e ++ [c]) :=
  (squeezes_lineBreak d e).append (.keep hc .nil)

mutual

/-- Without the blanks and line breaks outside of strings, a value is printed over several lines
as it is on one line, at any depth. -/
theorem squeezes_write (v : Value) (d e : Nat) :
    Squeezes (write .pretty d v) (write .compact e v) := by
  match v with
  | .null => exact .word "null" rfl
  | .bool true => exact .word "true" rfl
  | .bool false => exact .word "false" rfl
  | .int n => exact .of_kind isNumeral rfl isNumeral_int
  | .float x =>
    rw [write, write]
    split
    · exact .of_kind Json.isNumberChar rfl (Number.isNumberChar_literal _)
    · exact .word "null" rfl
  | .decimal x =>
    rw [write, write, List.append_assoc _ _ ['\x7d'], List.append_assoc _ _ ['\x7d']]
    exact .keep rfl (((squeezes_name _ _ _).append (squeezes_quoted _)).append
      (squeezes_close _ rfl _ _))
  | .string s => exact squeezes_quoted s
  | .array [] => exact .keep rfl (.keep rfl .nil)
  | .array (item :: rest) =>
    rw [write, write, List.append_assoc _ _ [']'], List.append_assoc _ _ [']']]
    exact .keep rfl ((((squeezes_lineBreak _ _).append (squeezes_write item _ _)).append
      (squeezes_writeItems rest _ _)).append (squeezes_close _ rfl _ _))
  | .object [] => exact .keep rfl (.keep rfl .nil)
  | .object ((name, v) :: rest) =>
    rw [write, write, List.append_assoc _ _ ['\x7d'], List.append_assoc _ _ ['\x7d']]
    exact .keep rfl ((((squeezes_name name _ _).append (squeezes_write v _ _)).append
      (squeezes_writeFields rest _ _)).append (squeezes_close _ rfl _ _))

theorem squeezes_writeItems (items : List Value) (d e : Nat) :
    Squeezes (writeItems .pretty d items) (writeItems .compact e items) := by
  match items with
  | [] => exact .nil
  | item :: rest =>
    rw [writeItems, writeItems]
    exact .keep rfl (((squeezes_lineBreak _ _).append (squeezes_write item _ _)).append
      (squeezes_writeItems rest _ _))

theorem squeezes_writeFields (fields : Document) (d e : Nat) :
    Squeezes (writeFields .pretty d fields) (writeFields .compact e fields) := by
  match fields with
  | [] => exact .nil
  | (name, v) :: rest =>
    rw [writeFields, writeFields]
    exact .keep rfl (((squeezes_name name _ _).append (squeezes_write v _ _)).append
      (squeezes_writeFields rest _ _))

end

theorem toList_print (style : Style) (v : Value) :
    (v.print style).toList = write style 0 v := by
  rw [print, String.toList_ofList]

end Value

namespace Aggregation

open Text

/-- An aggregation on a collection whose name has neither blanks nor line breaks nor quotes is
printed like its pipeline: with the same characters in both layouts. -/
theorem squeezes_print {a : Aggregation} (hname : ∀ c ∈ a.collection.toList, isBare c = true) :
    Squeezes (a.print .pretty).toList (a.print .compact).toList := by
  simp only [print, String.toList_append, Value.toList_print]
  exact ((((Squeezes.word "db." rfl).append (.of_kind isBare rfl hname)).append
    (Squeezes.word ".aggregate(" rfl)).append
    (Value.squeezes_write _ 0 0)).append (Squeezes.word ")" rfl)

/-- The two layouts differ in blanks and line breaks outside of strings only, for values and for
aggregations. -/
theorem layouts_differ_in_blanks :
    (∀ v : Value, squeezed (v.print .pretty) = v.compactText) ∧
      ∀ a : Aggregation, (∀ c ∈ a.collection.toList, c ≠ ' ' ∧ c ≠ '\n' ∧ c ≠ '"') →
        squeezed (a.print .pretty) = a.print .compact := by
  refine ⟨fun v => ?_, fun a hname => ?_⟩
  · rw [squeezed, Value.toList_print, (Value.squeezes_write v 0 0).squeeze_eq]
    rfl
  · have hbare : ∀ c ∈ a.collection.toList, isBare c = true := fun c hc => by
      simpa [isBare, and_assoc] using hname c hc
    rw [squeezed, (squeezes_print hbare).squeeze_eq, String.ofList_toList]

/-- An aggregation with a quote, a backslash and a blank inside a string, and with an empty
array. -/
def notedQuotes : Aggregation :=
  ⟨"notes", [.select (.object [("text", .string "\" \\"), ("tags", .array [])]), .limit 2]⟩

theorem notedQuotes_squeezed :
    (∀ c ∈ notedQuotes.collection.toList, c ≠ ' ' ∧ c ≠ '\n' ∧ c ≠ '"') ∧
      notedQuotes.print .compact =
        "db.notes.aggregate([\x7b\"$match\":\x7b\"text\":\"\\\" \\\\\",\"tags\":[]\x7d\x7d," ++
          "\x7b\"$limit\":2\x7d])" ∧
      squeezed (notedQuotes.print .pretty) = notedQuotes.print .compact := by
  have hname : ∀ c ∈ notedQuotes.collection.toList, c ≠ ' ' ∧ c ≠ '\n' ∧ c ≠ '"' := by
    simp [notedQuotes]
  exact ⟨hname, by decide +kernel, layouts_differ_in_blanks.2 notedQuotes hname⟩

end Aggregation

end DocQuery
