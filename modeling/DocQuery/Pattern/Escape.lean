import DocQuery.Pattern.Property
import DocQuery.Pattern.Token
set_option autoImplicit false

/-!
# Pattern: escapes

What a backslash and the characters behind it stand for.  A verbose pattern may have blanks and
comments inside of an escape; they are skipped.
-/

namespace DocQuery.Pattern

open DocQuery.Text

/-- Characters with a meaning of their own in patterns. -/
def isMeta (c : Char) : Bool :=
  ['\\', '.', '+', '*', '?', '(', ')', '|', '[', ']', '\x7b', '\x7d', '^', '$', '#', '&', '-',
    '~'].contains c

/-- A text as a pattern that matches just this text. -/
def escape (s : String) : String :=
  String.ofList (s.toList.flatMap fun c => if isMeta c then ['\\', c] else [c])

/-- Characters that a backslash may stand in front of without changing them. -/
def isEscapable (c : Char) : Bool :=
  isMeta c || (c.toNat < 0x80 && !c.isAlphanum && c != '<' && c != '>')

/-! ## Blanks and comments -/

/-- A text without the blanks and comments at its start; it may begin inside of a comment. -/
def skipGap (inComment : Bool) : List Char → List Char
  | [] => []
  | c :: rest =>
    if inComment then skipGap (c != '\n') rest
    else if isBlank c then skipGap false rest
    else if c == '#' then skipGap true rest
    else c :: rest

/-- Skips blanks and comments in a verbose pattern. -/
def gap (verbose : Bool) (cs : List Char) : List Char :=
  if verbose then skipGap false cs else cs

/-- The characters up to a closing brace and what follows it.  In a verbose pattern blanks and
comments are left out; the text may begin inside of a comment. -/
def takeBraced (verbose inComment : Bool) : List Char → Option (List Char × List Char)
  | [] => none
  | c :: rest =>
    if inComment then takeBraced verbose (c != '\n') rest
    else if verbose && isBlank c then takeBraced verbose false rest
    else if verbose && c == '#' then takeBraced verbose true rest
    else if c == '\x7d' then some ([], rest)
    else (takeBraced verbose false rest).map fun r => (c :: r.1, r.2)

/-- A number of characters and what follows them, with blanks and comments skipped behind each
one in a verbose pattern. -/
def takeSpaced (verbose : Bool) : Nat → List Char → Option (List Char × List Char)
  | 0, cs => some ([], cs)
  | _ + 1, [] => none
  | n + 1, c :: rest => (takeSpaced verbose n (gap verbose rest)).map fun r => (c :: r.1, r.2)

/-! ## Characters by number -/

/-- The value of a hexadecimal number. -/
def hexNumber? (cs : List Char) : Option Nat :=
  let digit := fun c : Char =>
    if '0' ≤ c ∧ c ≤ '9' then some (c.toNat - 48)
    else if 'a' ≤ c ∧ c ≤ 'f' then some (c.toNat - 87)
    else if 'A' ≤ c ∧ c ≤ 'F' then some (c.toNat - 55)
    else none
  if cs.isEmpty then none
  else (cs.mapM digit).map fun ds => ds.foldl (fun acc d => acc * 16 + d) 0

/-- The character of a hexadecimal number, if it is the code point of one. -/
def hexChar? (cs : List Char) : Option Char :=
  (hexNumber? cs).bind fun n => if n.isValidChar then some (Char.ofNat n) else none

/-- A character by its number in hexadecimal:  a fixed count of digits, or any in braces.  Two
digits without braces give a byte where Unicode is switched off. -/
def readHex (verbose : Bool) (digits : Nat) (cs : List Char) : Option (Token × List Char) :=
  match gap verbose cs with
  | '\x7b' :: rest =>
    (takeBraced verbose false rest).bind fun r =>
      (hexChar? r.1).map fun c => (.char (.literal c), r.2)
  | cs =>
    (takeSpaced verbose digits cs).bind fun r =>
      (hexChar? r.1).map fun c =>
        (.char (if digits = 2 ∧ 0x80 ≤ c.toNat then .octet c else .literal c), r.2)

/-! ## Word boundaries -/

/-- The special word boundaries that are named in braces. -/
def namedEdge? (name : List Char) : Option WordEdge :=
  if name = "start".toList then some .start
  else if name = "end".toList then some .finish
  else if name = "start-half".toList then some .startHalf
  else if name = "end-half".toList then some .finishHalf
  else none

/-- A word boundary, with its name in braces if there is one.  Braces that cannot hold a name
are a repetition of the boundary. -/
def readBoundary (verbose : Bool) (cs : List Char) : Option (Token × List Char) :=
  match cs with
  | '\x7b' :: rest =>
    if (gap verbose rest).head?.any fun c => c.isAlpha || c == '-' then
      (takeBraced verbose false rest).bind fun r =>
        (namedEdge? r.1).map fun e => (.edge e, r.2)
    else some (.edge .boundary, cs)
  | _ => some (.edge .boundary, cs)

/-! ## Properties -/

/-- A property, by one letter or by its name in braces. -/
def readProperty (verbose negated : Bool) (cs : List Char) : Option (Token × List Char) :=
  let token := fun s : CharSpec => Token.char (if negated then .negation s else s)
  match gap verbose cs with
  | [] => none
  | '\x7b' :: rest =>
    (takeBraced verbose false rest).bind fun r =>
      (propertySpec? r.1).map fun s => (token s, r.2)
  | c :: rest => (propertyNamed? [c]).map fun s => (token (.property s), rest)

/-! ## All escapes -/

/-- What stands behind a backslash. -/
def readEscape (verbose : Bool) : List Char → Option (Token × List Char)
  | [] => none
  | c :: rest =>
    if isEscapable c then some (.char (.literal c), rest)
    else
      match c with
      | 'd' => some (.char .digit, rest)
      | 'D' => some (.char (.negation .digit), rest)
      | 's' => some (.char .blank, rest)
      | 'S' => some (.char (.negation .blank), rest)
      | 'w' => some (.char .word, rest)
      | 'W' => some (.char (.negation .word), rest)
      | 'p' => readProperty verbose false rest
      | 'P' => readProperty verbose true rest
      | 'a' => some (.char (.literal '\x07'), rest)
      | 'f' => some (.char (.literal '\x0c'), rest)
      | 't' => some (.char (.literal '\t'), rest)
      | 'n' => some (.char (.literal '\n'), rest)
      | 'r' => some (.char (.literal '\r'), rest)
      | 'v' => some (.char (.literal '\x0b'), rest)
      | 'A' => some (.anchor .textStart, rest)
      | 'z' => some (.anchor .textEnd, rest)
      | 'b' => readBoundary verbose rest
      | 'B' => some (.edge .noBoundary, rest)
      | '<' => some (.edge .start, rest)
      | '>' => some (.edge .finish, rest)
      | 'x' => readHex verbose 2 rest
      | 'u' => readHex verbose 4 rest
      | 'U' => readHex verbose 8 rest
      | _ => none

end DocQuery.Pattern
