import DocQuery.Proofs.FilterGrammar
import Mathlib.Data.List.DropRight
import Mathlib.Logic.Function.Iterate
set_option autoImplicit false

/-!
# Proofs: tokens tile the text

However often tokens are asked for, also behind failures, what was read of a text is a front
part of it, and every position is that of the characters in front of it.  What one call reads is
blanks and a slice.  The slice of a token is read as this token also where it stands alone, so a
token does not depend on the text around it.
-/

namespace DocQuery.FilterText

open DocQuery.Text

/-! ## Positions -/

namespace Position

/-- The place behind a text that begins at the start: a line for each line break, and a column
for each character behind the last one. -/
def behind (cs : List Char) : Position :=
    ⟨1 + cs.count '\n', 1 + (cs.rtakeWhile (· != '\n')).length⟩

theorem start_after (cs : List Char) : start.after cs = behind cs := by
  induction cs using List.reverseRecOn with
  | nil => rfl
  | append_singleton cs c ih =>
    rw [after_append, ih]
    by_cases hbreak : c = '\n'
    · simp [after, next, behind, hbreak, Nat.add_assoc]
    · simp [after, next, behind, hbreak, Nat.add_assoc]

end Position

/-! ## Slices by themselves -/

theorem takeWhile_takeWhile_self (p : Char → Bool) (cs : List Char) :
    (cs.takeWhile p).takeWhile p = cs.takeWhile p :=
  List.takeWhile_eq_self_iff.mpr fun _ hc => List.mem_takeWhile_imp hc

theorem dropWhile_takeWhile_self (p : Char → Bool) (cs : List Char) :
    (cs.takeWhile p).dropWhile p = [] :=
  List.dropWhile_eq_nil_iff.mpr fun _ hc => List.mem_takeWhile_imp hc

/-- What a lexeme is where its own text is all there is. -/
def Lexeme.alone (l : Lexeme) : Lexeme := { l with rest := [] }

theorem readWord_alone (cs : List Char) :
    readWord (readWord cs).text = (readWord cs).alone := by
  simp only [readWord, Lexeme.alone, takeWhile_takeWhile_self, dropWhile_takeWhile_self]

/-- A string that is closed ends at its closing quote, whatever follows. -/
theorem readString_alone {quote : Char} {front cs : List Char} {t : Token}
    (h : (readString quote front cs).result = .ok t) :
    readString quote front (readString quote front cs).text =
        (readString quote front cs).alone := by
  fun_induction readString quote front cs with
  | case1 front => simp at h
  | case2 front rest => simp [readString, Lexeme.alone]
  | case3 front hquote => simp at h
  | case4 front d rest e hescape hquote ih =>
    simp only [Lexeme.behind, List.cons_append, List.nil_append] at h ⊢
    rw [readString, if_neg hquote, if_pos rfl]
    simp only [hescape, ih h]
    rfl
  | case5 front d rest hescape hquote => simp at h
  | case6 front c rest hquote hbackslash ih =>
    simp only [Lexeme.behind, List.cons_append, List.nil_append] at h ⊢
    rw [readString.eq_def]
    simp only [if_neg hquote, if_neg hbackslash, ih h]
    rfl

/-- Digits by themselves are an integer. -/
theorem readNumber_digits {whole : List Char} (h : ∀ c ∈ whole, isDigit c = true) :
    readNumber whole = ⟨integerOf whole, whole, []⟩ := by
  simp only [readNumber, List.takeWhile_eq_self_iff.mpr h, List.dropWhile_eq_nil_iff.mpr h]

/-- Digits by themselves on both sides of a point are a float. -/
theorem readNumber_fraction {whole fraction : List Char}
    (hwhole : ∀ c ∈ whole, isDigit c = true)
    (hfraction : ∀ c ∈ fraction, isDigit c = true) (hsome : fraction ≠ []) :
    readNumber (whole ++ '.' :: fraction) = ⟨.ok (floatOf whole fraction), whole ++ '.' ::
        fraction, []⟩ := by
  obtain ⟨d, more, rfl⟩ := List.exists_cons_of_ne_nil hsome
  have hpoint : isDigit '.' = false := by decide
  have htake : (whole ++ '.' :: d :: more).takeWhile isDigit = whole := by
    rw [List.takeWhile_append_of_pos hwhole, List.takeWhile_cons_of_neg (by simp [hpoint]),
      List.append_nil]
  have hdrop : (whole ++ '.' :: d :: more).dropWhile isDigit = '.' :: d :: more := by
    rw [List.dropWhile_append_of_pos hwhole, List.dropWhile_cons_of_neg (by simp [hpoint])]
  simp only [readNumber, htake, hdrop, hfraction d List.mem_cons_self, if_true,
    List.takeWhile_eq_self_iff.mpr hfraction, List.dropWhile_eq_nil_iff.mpr hfraction]

theorem readNumber_alone (cs : List Char) :
    readNumber (readNumber cs).text = (readNumber cs).alone := by
  have hdigits : ∀ l : List Char, ∀ c ∈ l.takeWhile isDigit, isDigit c = true := fun _ _ hc =>
    List.mem_takeWhile_imp hc
  have hread : readNumber cs = ⟨integerOf (cs.takeWhile isDigit), cs.takeWhile isDigit,
    cs.dropWhile isDigit⟩ ∨ ∃ fraction rest : List Char, fraction.takeWhile isDigit ≠ [] ∧
    readNumber cs = ⟨.ok (floatOf (cs.takeWhile isDigit) (fraction.takeWhile isDigit)),
          cs.takeWhile isDigit ++ '.' :: fraction.takeWhile isDigit, rest⟩ := by
    simp only [readNumber]
    split
    · split
      · rename_i hd
        exact .inr ⟨_, _, by simp [List.takeWhile_cons_of_pos hd], rfl⟩
      · exact .inl rfl
    · exact .inl rfl
  rcases hread with hinteger | ⟨fraction, rest, hsome, hfloat⟩
  · rw [hinteger]
    exact readNumber_digits (hdigits cs)
  · rw [hfloat]
    exact readNumber_fraction (hdigits cs) (hdigits fraction) hsome

/-- The text of a token starts where the token starts. -/
theorem readToken_text_eq_cons {c : Char} {rest : List Char} {t : Token}
    (h : (readToken c rest).result = .ok t) : ∃ cs, (readToken c rest).text = c :: cs := by
  have htiles := readToken_tiles c rest
  have hpos := readToken_text_pos h
  cases htext : (readToken c rest).text with
  | nil => simp [htext] at hpos
  | cons d cs =>
    rw [htext, List.cons_append] at htiles
    exact ⟨cs, by rw [(List.cons.inj htiles).1]⟩

/-- A token is read off its own text, and nothing of the text is left. -/
theorem readToken_alone {c : Char} {rest cs : List Char} {t : Token}
    (h : (readToken c rest).result = .ok t)
    (hcs : (readToken c rest).text = c :: cs) : readToken c cs = ⟨.ok t, c :: cs, []⟩ := by
  suffices halone : readToken c cs = (readToken c rest).alone by
    rw [halone, Lexeme.alone, h, hcs]
  cases hsingle : single? c with
  | some s =>
    have hread : ∀ more, readToken c more = ⟨.ok s, [c], more⟩ := fun more => by
      simp only [readToken, hsingle]
    rw [hread] at hcs ⊢
    rw [hread, Lexeme.alone, ← (List.cons.inj hcs).2]
  | none =>
    by_cases hquote : c = '"' ∨ c = '\''
    · have hread : ∀ more, readToken c more = (readString c [] more).behind [c] :=
        fun more => by
        simp only [readToken, hsingle, if_pos hquote]
      rw [hread] at h hcs ⊢
      have hstring : cs = (readString c [] rest).text := (List.cons.inj hcs).2.symm
      rw [hread, hstring, readString_alone h]
      rfl
    by_cases hword : isWordStart c = true
    · have hread : ∀ more, readToken c more = readWord (c :: more) := fun more => by
        simp only [readToken, hsingle, if_neg hquote, if_pos hword]
      rw [hread] at hcs ⊢
      rw [hread, ← hcs, readWord_alone]
    by_cases hdigit : isDigit c = true
    · have hread : ∀ more, readToken c more = readNumber (c :: more) := fun more => by
        simp only [readToken, hsingle, if_neg hquote, if_neg hword, if_pos hdigit]
      rw [hread] at hcs ⊢
      rw [hread, ← hcs, readNumber_alone]
    · simp [readToken, hsingle, hquote, hword, hdigit] at h

/-! ## One call -/

namespace Cursor

variable {c : Cursor} {t : Token}

theorem tokens_of_token (h : c.step.reading = .token t) :
    c.tokens = (⟨t, c.step.start⟩ :: c.step.next.tokens.1, c.step.next.tokens.2) := by
  rw [tokens]
  split
  · rename_i t' ht
    obtain rfl : t = t' := Reading.token.inj (h.symm.trans ht)
    rfl
  · rename_i hdone
    simp [h] at hdone
  · rename_i e hfailed
    simp [h] at hfailed

theorem tokens_of_done (h : c.step.reading = .done) : c.tokens = ([], .done c.step.start) := by
  rw [tokens]
  split
  · rename_i t ht
    simp [h] at ht
  · rfl
  · rename_i e hfailed
    simp [h] at hfailed

theorem step_start (c : Cursor) :
    c.step.start = c.position.after (c.rest.takeWhile isBlank) := by
  rw [step]
  split
  · rfl
  · dsimp only
    split <;> rfl

theorem step_of_nil (h : c.rest.dropWhile isBlank = []) :
    c.step.reading = .done ∧ c.step.next = ⟨[], c.step.start⟩ := by
  simp only [step, h, and_self]

theorem step_next_of_cons {d : Char} {rest : List Char}
    (h : c.rest.dropWhile isBlank = d :: rest) :
    c.step.next = ⟨(readToken d rest).rest, c.step.start.after (readToken d rest).text⟩ := by
  simp only [step, h]
  split <;> rfl

theorem step_reading_of_cons {d : Char} {rest : List Char}
    (h : c.rest.dropWhile isBlank = d :: rest) :
    c.step.reading ≠ .done ∧ (c.step.reading = .token t ↔
        (readToken d rest).result = .ok t) := by
  simp only [step, h]
  split
  · rename_i t' ht
    simp [ht]
  · rename_i fault hfault
    simp [hfault]

/-- A token is read as this token where it stands alone. -/
theorem lexes_alone {d : Char} {rest : List Char} (hblank : isBlank d = false)
    (h : (readToken d rest).result = .ok t) :
        Lexes (String.ofList (readToken d rest).text) [t] := by
  obtain ⟨cs, hcs⟩ := readToken_text_eq_cons h
  have halone := readToken_alone h hcs
  have hbehind : (ofText (String.ofList (d :: cs))).rest.dropWhile isBlank = d :: cs := by
    rw [ofText, String.toList_ofList]
    exact List.dropWhile_cons_of_neg (by simp [hblank])
  have hread : (ofText (String.ofList (d :: cs))).step.reading = .token t :=
    (step_reading_of_cons hbehind).2.mpr (by rw [halone])
  have hnext := step_next_of_cons hbehind
  rw [halone] at hnext
  have hdone := (step_of_nil (c := (ofText (String.ofList (d :: cs))).step.next)
    (by rw [hnext]; rfl)).1
  rw [hcs]
  exact ⟨_, _, by rw [tokens_of_token hread, tokens_of_done hdone], rfl⟩

/-- Blanks and the characters behind them that one call reads. -/
structure Tile where
  blanks : List Char
  slice : List Char

/-- All characters of a tile. -/
def Tile.text (t : Tile) : List Char := t.blanks ++ t.slice

/-- What one call takes off a text: all blanks in front, and a slice that is a token by itself
if a token is read. -/
structure Takes (c : Cursor) (tile : Tile) : Prop where
  rest : c.rest = tile.text ++ c.step.next.rest
  position : c.step.next.position = c.position.after tile.text
  start : c.step.start = c.position.after tile.blanks
  blanks : ∀ b ∈ tile.blanks, isBlank b = true
  slice : ∀ d ∈ (tile.slice ++ c.step.next.rest).head?, isBlank d = false
  token : ∀ t, c.step.reading = .token t → Lexes (String.ofList tile.slice) [t]
  done : c.step.reading = .done → tile.slice = [] ∧ c.step.next.rest = []

/-- Every call takes a tile. -/
theorem exists_takes (c : Cursor) : ∃ tile, c.Takes tile := by
  have hsplit : c.rest.takeWhile isBlank ++ c.rest.dropWhile isBlank = c.rest :=
    List.takeWhile_append_dropWhile
  have hblanks : ∀ b ∈ c.rest.takeWhile isBlank, isBlank b = true := fun b hb =>
    List.mem_takeWhile_imp hb
  have hstart := c.step_start
  cases hrest : c.rest.dropWhile isBlank with
  | nil =>
    obtain ⟨hdone, hnext⟩ := step_of_nil hrest
    rw [hrest] at hsplit
    exact ⟨⟨c.rest.takeWhile isBlank, []⟩, {
      rest := by rw [hnext, Tile.text, List.append_nil, hsplit]
      position := by rw [hnext, Tile.text, List.append_nil, hstart]
      start := hstart
      blanks := hblanks
      slice := by simp [hnext]
      token := by simp [hdone]
      done := fun _ => ⟨rfl, by rw [hnext]⟩ }⟩
  | cons d rest =>
    have hnext := step_next_of_cons hrest
    have htiles := readToken_tiles d rest
    have hd : isBlank d = false := by
      have hhead := List.head?_dropWhile_not isBlank c.rest
      simpa [hrest] using hhead
    exact ⟨⟨c.rest.takeWhile isBlank, (readToken d rest).text⟩, {
      rest := by rw [hnext, Tile.text, List.append_assoc, htiles, ← hrest, hsplit]
      position := by rw [hnext, Tile.text, Position.after_append, hstart]
      start := hstart
      blanks := hblanks
      slice := by simp [hnext, htiles, hd]
      token := fun t ht => lexes_alone hd ((step_reading_of_cons hrest).2.mp ht)
      done := fun hdone => absurd hdone (step_reading_of_cons (t := .null) hrest).1 }⟩

/-! ## Many calls -/

/-- The cursor behind a number of calls, whatever they give. -/
def run (c : Cursor) (calls : Nat) : Cursor := (fun d => d.step.next)^[calls] c

theorem run_succ (c : Cursor) (calls : Nat) : c.run (calls + 1) = (c.run calls).step.next :=
  Function.iterate_succ_apply' _ _ _

/-- The tiles that calls take, one behind another, make up the text that they read. -/
theorem run_tiles {tiles : List Tile}
    (h : ∀ i (hi : i < tiles.length), (c.run i).Takes tiles[i]) {i : Nat}
    (hi : i ≤ tiles.length) :
    c.rest = (tiles.take i).flatMap Tile.text ++ (c.run i).rest ∧
      (c.run i).position = c.position.after ((tiles.take i).flatMap Tile.text) := by
  induction i with
  | zero => exact ⟨rfl, rfl⟩
  | succ i ih =>
    obtain ⟨hrest, hposition⟩ := ih (Nat.le_of_succ_le hi)
    have hnext := h i hi
    have htake : (tiles.take (i + 1)).flatMap Tile.text =
        (tiles.take i).flatMap Tile.text ++ tiles[i].text := by
      rw [← List.take_append_getElem hi, List.flatMap_append, List.flatMap_singleton]
    rw [htake, run_succ, List.append_assoc, ← hnext.rest, hnext.position,
      Position.after_append, ← hposition]
    exact ⟨hrest, rfl⟩

theorem exists_tiles (c : Cursor) (calls : Nat) :
    ∃ tiles : List Tile, tiles.length = calls ∧ ∀ i (hi : i < tiles.length),
        (c.run i).Takes tiles[i] := by
  choose tile htile using exists_takes
  exact ⟨(List.range calls).map fun i => tile (c.run i), by simp,
    fun i hi => by simpa using htile (c.run i)⟩

/-- However often tokens are asked for, each call takes a tile off the text.  The tiles make up
what was read, from its start and in order, and the positions are those of the characters in
front of them.  A tile is all blanks that come next and a slice; where a token is read, the
slice by itself is this token and nothing else, and where the text is over, there is no
slice. -/
theorem tokens_tile_text (text : String) (calls : Nat) :
    ∃ tiles : List Tile, tiles.length = calls ∧
      (∀ i ≤ calls, text.toList = (tiles.take i).flatMap Tile.text ++
        ((ofText text).run i).rest ∧
        ((ofText text).run i).position = .behind ((tiles.take i).flatMap Tile.text)) ∧
      ∀ i (hi : i < tiles.length),
        ((ofText text).run i).step.start =
          .behind ((tiles.take i).flatMap Tile.text ++ tiles[i].blanks) ∧
        (∀ b ∈ tiles[i].blanks, isBlank b = true) ∧
        (∀ d ∈ (tiles[i].slice ++ ((ofText text).run (i + 1)).rest).head?, isBlank d = false) ∧
        (∀ t, ((ofText text).run i).step.reading = .token t →
          Lexes (String.ofList tiles[i].slice) [t]) ∧
        (((ofText text).run i).step.reading = .done →
          tiles[i].slice = [] ∧ ((ofText text).run (i + 1)).rest = []) := by
  obtain ⟨tiles, hlength, htakes⟩ := (ofText text).exists_tiles calls
  refine ⟨tiles, hlength, fun i hi => ?_, fun i hi => ?_⟩
  · obtain ⟨hrest, hposition⟩ := run_tiles htakes (hlength ▸ hi)
    exact ⟨hrest, hposition.trans (Position.start_after _)⟩
  · obtain ⟨-, hposition⟩ := run_tiles htakes (Nat.le_of_lt hi)
    have hnext := htakes i hi
    refine ⟨?_, hnext.blanks, ?_, hnext.token, ?_⟩
    · rw [hnext.start, hposition, ← Position.after_append]
      exact Position.start_after _
    · rw [run_succ]
      exact hnext.slice
    · rw [run_succ]
      exact hnext.done

example : ((ofText "a =\n   [1]").run 2).step.start = ⟨2, 4⟩ := by cbv

end Cursor

end DocQuery.FilterText
