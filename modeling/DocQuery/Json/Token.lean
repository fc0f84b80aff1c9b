import DocQuery.Number.Reading
set_option autoImplicit false

/-!
# Json: tokens

A JSON text is cut into tokens by a machine that reads one character at a time.  Brackets,
commas and colons are tokens of one character; strings end at their closing quote; numbers and
words end where a character follows that cannot belong to them, and only then are checked as a
whole.
-/

namespace DocQuery.Json

open DocQuery.Number

/-- A token of a JSON text. -/
inductive Token where
  | openArray
  | closeArray
  | openObject
  | closeObject
  | comma
  | colon
  | null
  | bool (b : Bool)
  | int (n : Int)
  | float (x : Float)
  | string (s : String)
  /-- a number or string that has no value -/
  | broken
  deriving Inhabited

/-! ## Strings -/

/-- A part of a string literal: a character, or a UTF-16 unit written in hexadecimal. -/
inductive Piece where
  | char (c : Char)
  | unit (n : Nat)
  deriving DecidableEq, Repr

/-- Whether a UTF-16 unit is the first half of a surrogate pair. -/
def isHighSurrogate (n : Nat) : Bool := 0xD800 ≤ n && n < 0xDC00

/-- Whether a UTF-16 unit is the second half of a surrogate pair. -/
def isLowSurrogate (n : Nat) : Bool := 0xDC00 ≤ n && n < 0xE000

/-- The characters of a string literal, none if half of a surrogate pair stands alone. -/
def assemble : List Piece → Option (List Char)
  | [] => some []
  | .char c :: rest => (assemble rest).map (c :: ·)
  | .unit high :: .unit low :: rest =>
    if isHighSurrogate high then
      if isLowSurrogate low then
        let n := 0x10000 + (high - 0xD800) * 0x400 + (low - 0xDC00)
        (assemble rest).map (Char.ofNat n :: ·)
      else none
    else if isLowSurrogate high then none
    else (assemble (.unit low :: rest)).map (Char.ofNat high :: ·)
  | .unit n :: rest =>
    if isHighSurrogate n || isLowSurrogate n then none
    else (assemble rest).map (Char.ofNat n :: ·)

/-- The token of a string literal. -/
def stringToken (pieces : List Piece) : Token :=
  match assemble pieces with
  | some cs => .string (String.ofList cs)
  | none => .broken

/-- The character that a backslash and one more character stand for. -/
def escaped? : Char → Option Char
  | '"' => some '"'
  | '\\' => some '\\'
  | '/' => some '/'
  | 'b' => some '\x08'
  | 'f' => some '\x0c'
  | 'n' => some '\n'
  | 'r' => some '\r'
  | 't' => some '\t'
  | _ => none

/-- The value of a hexadecimal digit. -/
def hexValue? (c : Char) : Option Nat :=
  if '0' ≤ c ∧ c ≤ '9' then some (c.toNat - '0'.toNat)
  else if 'a' ≤ c ∧ c ≤ 'f' then some (c.toNat - 'a'.toNat + 10)
  else if 'A' ≤ c ∧ c ≤ 'F' then some (c.toNat - 'A'.toNat + 10)
  else none

/-! ## Numbers -/

/-- Whether a character can stand in a number. -/
def isNumberChar (c : Char) : Bool :=
  c.isDigit || c == '-' || c == '+' || c == '.' || c == 'e' || c == 'E'

/-- Appends decimal digits to a significand while it stays within 64 bits, and returns the
digits that are left over. -/
def significand : Nat → List Char → Nat × List Char
  | n, [] => (n, [])
  | n, c :: cs =>
    let next := n * 10 + (c.toNat - '0'.toNat)
    if next < Nat.pow 2 64 then significand next cs else (n, c :: cs)

/-- The largest power of ten among the floats. -/
def largestPower : Nat := 308

/-- A float times a power of ten, none beyond the largest float.  It is one multiplication or
division by a power of ten where that power is a float.  Smaller powers are divided by in steps
until nothing is left, and each step rounds: the result need not be the nearest float. -/
def scaled? (x : Float) (exponent : Int) : Option Float :=
  if exponent.natAbs ≤ largestPower then
    let power := Float.ofScientific 1 false exponent.natAbs
    if 0 ≤ exponent then
      let y := x * power
      if y.isInf then none else some y
    else some (x / power)
  else if x == 0.0 then some x
  else if 0 ≤ exponent then none
  else scaled? (x / Float.ofScientific 1 false largestPower) (exponent + largestPower)
termination_by exponent.natAbs
decreasing_by
  simp only [largestPower] at *
  omega

/-- The token of a number with these digits in front of its point and behind it.  Digits that do
not fit into 64 bits are dropped; those in front of the point still raise the exponent. -/
def floatToken (negative : Bool) (whole fraction : List Char) (exponent : Int) : Token :=
  let (front, dropped) := significand 0 whole
  let (digits, ignored) := significand front fraction
  let places : Int := fraction.length - ignored.length
  match scaled? (Float.ofNat digits) (exponent + dropped.length - places) with
  | none => .broken
  | some x => .float (if negative then -x else x)

/-- The token of a number without point and exponent.  A negative zero is a float, and so is a
number outside of the 64-bit ranges. -/
def integerToken (negative : Bool) (whole : List Char) : Token :=
  let n := ofDigits whole
  if negative ∧ n = 0 then .float (-0.0)
  else if negative ∧ n ≤ Nat.pow 2 63 then .int (-(n : Int))
  else if negative = false ∧ n < Nat.pow 2 64 then .int n
  else floatToken negative whole [] 0

/-- The exponent behind its mark: an optional sign and at least one digit, nothing else. -/
def exponent? (cs : List Char) : Option Int :=
  let (negative, digits) := match cs with
    | '-' :: rest => (true, rest)
    | '+' :: rest => (false, rest)
    | _ => (false, cs)
  if digits.isEmpty || !digits.all Char.isDigit then none
  else some (if negative then -(ofDigits digits : Int) else ofDigits digits)

/-- The token of a number without its sign. -/
def unsignedToken? (negative : Bool) (cs : List Char) : Option Token :=
  let whole := cs.takeWhile Char.isDigit
  let rest := cs.dropWhile Char.isDigit
  if whole.isEmpty || (1 < whole.length && whole.head? == some '0') then none
  else
    match rest with
    | [] => some (integerToken negative whole)
    | '.' :: rest =>
      let fraction := rest.takeWhile Char.isDigit
      if fraction.isEmpty then none
      else
        match rest.dropWhile Char.isDigit with
        | [] => some (floatToken negative whole fraction 0)
        | mark :: rest =>
          if mark = 'e' ∨ mark = 'E' then
            (exponent? rest).map (floatToken negative whole fraction)
          else none
    | mark :: rest =>
      if mark = 'e' ∨ mark = 'E' then
        (exponent? rest).map (floatToken negative whole [])
      else none

/-- The token of a number. -/
def numberToken? (cs : List Char) : Option Token :=
  match cs with
  | '-' :: rest => unsignedToken? true rest
  | _ => unsignedToken? false cs

/-- The token of a word. -/
def wordToken? (cs : List Char) : Option Token :=
  if cs = ['n', 'u', 'l', 'l'] then some .null
  else if cs = ['t', 'r', 'u', 'e'] then some (.bool true)
  else if cs = ['f', 'a', 'l', 's', 'e'] then some (.bool false)
  else none

/-! ## The machine -/

/-- What has been read of the current token, last character first. -/
inductive Scan where
  /-- between tokens -/
  | idle
  | word (read : List Char)
  | number (read : List Char)
  | string (read : List Piece)
  /-- behind a backslash -/
  | escape (read : List Piece)
  /-- inside a hexadecimal unit that still lacks `missing + 1` digits -/
  | hex (read : List Piece) (missing : Nat) (value : Nat)

/-- Blanks of JSON. -/
def isSpace (c : Char) : Bool := c == ' ' || c == '\n' || c == '\t' || c == '\r'

/-- The tokens completed by a character between tokens, and how to go on. -/
def Scan.start (c : Char) : Option (List Token × Scan) :=
  if isSpace c then some ([], .idle)
  else if c = '[' then some ([.openArray], .idle)
  else if c = ']' then some ([.closeArray], .idle)
  else if c = '\x7b' then some ([.openObject], .idle)
  else if c = '\x7d' then some ([.closeObject], .idle)
  else if c = ',' then some ([.comma], .idle)
  else if c = ':' then some ([.colon], .idle)
  else if c = '"' then some ([], .string [])
  else if c.isDigit || c == '-' then some ([], .number [c])
  else if c.isLower then some ([], .word [c])
  else none

/-- Ends a token that has no closing character of its own. -/
def Scan.close : Scan → Option (List Token)
  | .idle => some []
  | .word read => (wordToken? read.reverse).map ([·])
  | .number read => (numberToken? read.reverse).map ([·])
  | _ => none

/-- Ends a token in front of a character that does not belong to it. -/
def Scan.next (s : Scan) (c : Char) : Option (List Token × Scan) :=
  match s.close, Scan.start c with
  | some done, some (tokens, scan) => some (done ++ tokens, scan)
  | _, _ => none

/-- Reads one character. -/
def Scan.step (s : Scan) (c : Char) : Option (List Token × Scan) :=
  match s with
  | .idle => Scan.start c
  | .word read => if c.isLower then some ([], .word (c :: read)) else Scan.next (.word read) c
  | .number read =>
    if isNumberChar c then some ([], .number (c :: read)) else Scan.next (.number read) c
  | .string read =>
    if c = '"' then some ([stringToken read.reverse], .idle)
    else if c = '\\' then some ([], .escape read)
    else if c.toNat < 0x20 then none
    else some ([], .string (.char c :: read))
  | .escape read =>
    if c = 'u' then some ([], .hex read 3 0)
    else (escaped? c).map fun e => ([], .string (.char e :: read))
  | .hex read missing value =>
    match hexValue? c with
    | none => none
    | some digit =>
      match missing with
      | 0 => some ([], .string (.unit (value * 16 + digit) :: read))
      | missing + 1 => some ([], .hex read missing (value * 16 + digit))

/-- The tokens of a text from a state of the machine on. -/
def tokensFrom : Scan → List Char → Option (List Token)
  | s, [] => s.close
  | s, c :: rest =>
    match s.step c with
    | none => none
    | some (done, next) => (tokensFrom next rest).map (done ++ ·)

/-- The tokens of a JSON text. -/
def tokens? (text : String) : Option (List Token) := tokensFrom .idle text.toList

end DocQuery.Json
