import DocQuery.FilterText.Token
import DocQuery.Number.Reading
import DocQuery.Text.Blank
import DocQuery.Text.Letter
set_option autoImplicit false

/-!
# FilterText: reading tokens

A text is read token by token, each one as long as possible, with blanks between them.  A token
is read off the front of what is left of the text, without regard to what came before it; its
position follows from the text that was read.
-/

namespace DocQuery.FilterText

open DocQuery.Text

/-! ## Failures -/

/-- Why no token can be read. -/
inductive LexFault where
  | unexpectedChar (c : Char)
  | unterminatedString
  | invalidEscape (c : Char)
  /-- an integer beyond 64 bits -/
  | invalidNumber (text : String)
  deriving DecidableEq, Repr

/-- A failure and the place that it is about. -/
structure LexError where
  fault : LexFault
  position : Position
  deriving DecidableEq, Repr

/-- The text of a failure. -/
def LexError.message (e : LexError) : String :=
  match e.fault with
  | .unexpectedChar c =>
    "unexpected character '" ++ String.ofList [c] ++ "' at " ++ e.position.text
  | .unterminatedString => "unterminated string starting at " ++ e.position.text
  | .invalidEscape c =>
    "invalid escape sequence '\\" ++ String.ofList [c] ++ "' at " ++ e.position.text
  | .invalidNumber text => "invalid number '" ++ text ++ "' at " ++ e.position.text

/-! ## One token -/

/-- What is read off the front of a text: a token or a failure, the text that it takes and what
is left. -/
structure Lexeme where
  result : Except LexFault Token
  text : List Char
  rest : List Char

/-- A lexeme with more text in front of it. -/
def Lexeme.behind (l : Lexeme) (front : List Char) : Lexeme :=
    { l with text := front ++ l.text }

/-- Whether a character may stand inside a word. -/
def isWordPart (c : Char) : Bool := isAlphanumeric c || c == '_'

/-- Whether a word may start with a character. -/
def isWordStart (c : Char) : Bool := isAlphabetic c || c == '_'

/-- Whether a character is a decimal digit. -/
def isDigit (c : Char) : Bool := '0' ≤ c && c ≤ '9'

/-- The word at the front of a text. -/
def readWord (cs : List Char) : Lexeme :=
  let word := cs.takeWhile isWordPart
  ⟨.ok (Token.ofWord (String.ofList word)), word, cs.dropWhile isWordPart⟩

/-- The token of an integer literal. -/
def integerOf (digits : List Char) : Except LexFault Token :=
  let n := Number.ofDigits digits
  if (n : Int) ≤ Int64.maxValue.toInt then .ok (.integer (Int64.ofNat n))
  else .error (.invalidNumber (String.ofList digits))

/-- The token of a literal with digits in front of and behind a point. -/
def floatOf (whole fraction : List Char) : Token :=
  .float (Number.floatOf false
    ⟨Number.ofDigits (whole ++ fraction), -(fraction.length : Int)⟩)

/-- The number at the front of a text.  A point belongs to it if a digit follows. -/
def readNumber (cs : List Char) : Lexeme :=
  let whole := cs.takeWhile isDigit
  let rest := cs.dropWhile isDigit
  match rest with
  | '.' :: d :: more =>
    if isDigit d then
      let fraction := (d :: more).takeWhile isDigit
      ⟨.ok (floatOf whole fraction), whole ++ '.' :: fraction, (d :: more).dropWhile isDigit⟩
    else ⟨integerOf whole, whole, rest⟩
  | _ => ⟨integerOf whole, whole, rest⟩

/-- What a character behind a backslash stands for. -/
def escape? : Char → Option Char
  | 'n' => some '\n'
  | 't' => some '\t'
  | 'r' => some '\r'
  | '"' => some '"'
  | '\'' => some '\''
  | '\\' => some '\\'
  | _ => none

/-- The rest of a string behind its opening quote and the characters `front`, which come last
first. -/
def readString (quote : Char) (front : List Char) : List Char → Lexeme
  | [] => ⟨.error .unterminatedString, [], []⟩
  | c :: rest =>
    if c = quote then ⟨.ok (.string (String.ofList front.reverse)), [c], rest⟩
    else if c = '\\' then
      match rest with
      | [] => ⟨.error .unterminatedString, [c], []⟩
      | d :: rest =>
        match escape? d with
        | some e => (readString quote (e :: front) rest).behind [c, d]
        | none => ⟨.error (.invalidEscape d), [c], d :: rest⟩
    else (readString quote (c :: front) rest).behind [c]

/-- The token that a character is by itself. -/
def single? : Char → Option Token
  | '=' => some .equals
  | '-' => some .minus
  | ',' => some .comma
  | '(' => some .openParen
  | ')' => some .closeParen
  | '[' => some .openBracket
  | ']' => some .closeBracket
  | _ => none

/-- The lexeme at the front of a text that starts with `c`. -/
def readToken (c : Char) (rest : List Char) : Lexeme :=
  match single? c with
  | some t => ⟨.ok t, [c], rest⟩
  | none =>
    if c = '"' ∨ c = '\'' then (readString c [] rest).behind [c]
    else if isWordStart c then readWord (c :: rest)
    else if isDigit c then readNumber (c :: rest)
    else ⟨.error (.unexpectedChar c), [], c :: rest⟩

theorem takeWhile_append_dropWhile_eq (p : Char → Bool) (cs : List Char) :
    cs.takeWhile p ++ cs.dropWhile p = cs := List.takeWhile_append_dropWhile

theorem readString_tiles (quote : Char) (front cs : List Char) :
    (readString quote front cs).text ++ (readString quote front cs).rest = cs := by
  fun_induction readString quote front cs <;> simp_all [Lexeme.behind]

theorem readNumber_tiles (cs : List Char) :
    (readNumber cs).text ++ (readNumber cs).rest = cs := by
  have h := takeWhile_append_dropWhile_eq isDigit cs
  simp only [readNumber]
  split
  · rename_i d more hrest
    split
    · have h' := takeWhile_append_dropWhile_eq isDigit (d :: more)
      rw [hrest] at h
      rw [List.append_assoc, List.cons_append, h', h]
    · exact h
  · exact h

/-- The text of a lexeme and what is left make up the whole text. -/
theorem readToken_tiles (c : Char) (rest : List Char) :
    (readToken c rest).text ++ (readToken c rest).rest = c :: rest := by
  simp only [readToken]
  split
  · rfl
  · split
    · simpa [Lexeme.behind] using readString_tiles c [] rest
    · split
      · exact takeWhile_append_dropWhile_eq isWordPart (c :: rest)
      · split
        · exact readNumber_tiles (c :: rest)
        · rfl

/-! ## Tokens one after another -/

/-- How far a text has been read: what is left and the place where it starts. -/
structure Cursor where
  rest : List Char
  position : Position
  deriving DecidableEq, Repr

/-- The start of a text. -/
def Cursor.ofText (text : String) : Cursor := ⟨text.toList, .start⟩

/-- What is read next. -/
inductive Reading where
  | token (t : Token)
  /-- there is nothing left but blanks -/
  | done
  | failed (e : LexError)

/-- What is read next, where it starts and how far the text has been read then. -/
structure Step where
  start : Position
  reading : Reading
  next : Cursor

/-- The place that a failure is about: an escape is behind the backslash, where reading stops;
everything else is about the start of the token. -/
def faultPosition (start stop : Position) : LexFault → Position
  | .invalidEscape _ => stop
  | _ => start

/-- Reads one token behind blanks. -/
def Cursor.step (c : Cursor) : Step :=
  let start := c.position.after (c.rest.takeWhile isBlank)
  match c.rest.dropWhile isBlank with
  | [] => ⟨start, .done, ⟨[], start⟩⟩
  | d :: rest =>
    let l := readToken d rest
    let stop := start.after l.text
    match l.result with
    | .ok t => ⟨start, .token t, ⟨l.rest, stop⟩⟩
    | .error fault => ⟨start, .failed ⟨fault, faultPosition start stop fault⟩, ⟨l.rest, stop⟩⟩

theorem dropWhile_length_le (p : Char → Bool) (cs : List Char) :
    (cs.dropWhile p).length ≤ cs.length := by
  have h := congrArg List.length (takeWhile_append_dropWhile_eq p cs)
  rw [List.length_append] at h
  omega

theorem length_takeWhile_pos {p : Char → Bool} {c : Char} {cs : List Char} (h : p c = true) :
    0 < ((c :: cs).takeWhile p).length := by
  simp [h]

/-- A token takes at least one character. -/
theorem readToken_text_pos {c : Char} {rest : List Char} {t : Token}
    (h : (readToken c rest).result = .ok t) : 0 < (readToken c rest).text.length := by
  revert h
  simp only [readToken]
  split
  · simp
  · split
    · simp [Lexeme.behind]
    · split
      · rename_i hc
        intro _
        refine length_takeWhile_pos ?_
        simp only [isWordStart, Bool.or_eq_true] at hc
        simp only [isWordPart, Bool.or_eq_true]
        exact hc.imp isAlphanumeric_of_isAlphabetic id
      · split
        · rename_i hc
          intro _
          have hpos : 0 < ((c :: rest).takeWhile isDigit).length := length_takeWhile_pos hc
          simp only [readNumber]
          split
          · split
            · simp only [List.length_append, List.length_cons]
              omega
            · exact hpos
          · exact hpos
        · simp

theorem readToken_rest_lt {c : Char} {rest : List Char} {t : Token}
    (h : (readToken c rest).result = .ok t) :
    (readToken c rest).rest.length < (c :: rest).length := by
  have hlen := congrArg List.length (readToken_tiles c rest)
  have hpos := readToken_text_pos h
  rw [List.length_append] at hlen
  omega

/-- Reading a token leaves less of the text. -/
theorem Cursor.step_lt {c : Cursor} {t : Token} (h : c.step.reading = .token t) :
    c.step.next.rest.length < c.rest.length := by
  revert h
  simp only [Cursor.step]
  split
  · simp
  · rename_i d rest hrest
    have hle := dropWhile_length_le isBlank c.rest
    rw [hrest] at hle
    split
    · rename_i t' ht
      intro _
      exact Nat.lt_of_lt_of_le (readToken_rest_lt ht) hle
    · simp

/-- A token with the place where it starts. -/
structure Located where
  token : Token
  position : Position

/-- How a text ends behind its last token. -/
inductive Ending where
  /-- there is nothing left; the place where the text ends -/
  | done (position : Position)
  | failed (e : LexError)
  deriving DecidableEq, Repr

/-- The tokens from a cursor on, and the end behind them. -/
def Cursor.tokens (c : Cursor) : List Located × Ending :=
  match _h : c.step.reading with
  | .token t =>
    let (ts, ending) := c.step.next.tokens
    (⟨t, c.step.start⟩ :: ts, ending)
  | .done => ([], .done c.step.start)
  | .failed e => ([], .failed e)
termination_by c.rest.length
decreasing_by exact Cursor.step_lt _h

end DocQuery.FilterText
