import DocQuery.Pattern.Bracket
set_option autoImplicit false

/-!
# Pattern: from the text to tokens

A text that is no pattern fails here or when the tokens are put together.  Whether blanks and
comments are skipped is an option that a pattern can change for its groups, so that it is kept
while the tokens are read.
-/

namespace DocQuery.Pattern

open DocQuery.Text

/-! ## Repetitions -/

/-- A number, with blanks around it. -/
def count? (cs : List Char) : Option Nat :=
  let digits := ((cs.dropWhile isBlank).reverse.dropWhile isBlank).reverse
  let n := Nat.ofDigitChars 10 digits 0
  if digits.isEmpty ∨ !digits.all Char.isDigit ∨ Nat.pow 2 32 ≤ n then none else some n

/-- The repetition of bounds between braces. -/
def bounds? (cs : List Char) : Option Token :=
  match cs.dropWhile (· != ',') with
  | [] => (count? cs).map fun n => .repetition n (some n)
  | _ :: behind =>
    (count? (cs.takeWhile (· != ','))).bind fun least =>
      if behind.isEmpty then some (.repetition least none)
      else
        (count? behind).bind fun most =>
          if least ≤ most then some (.repetition least (some most)) else none

/-- A question mark behind a repetition asks for the shortest match, which is a match all the
same. -/
def skipLazy : List Char → List Char
  | '?' :: rest => rest
  | cs => cs

/-- Bounds behind an opening brace. -/
def readBounds (verbose : Bool) (cs : List Char) : Option (Token × List Char) :=
  (takeBraced verbose false cs).bind fun r =>
    (bounds? r.1).map fun t => (t, skipLazy (gap verbose r.2))

/-! ## Groups -/

/-- The letters of options, behind a hyphen for those to switch off; `last` says that a letter
was read last. -/
def readOptions : OptionChange → Bool → Bool → List Char → Option (OptionChange × List Char)
  | o, value, last, c :: rest =>
    if c = ')' ∨ c = ':' then if last then some (o, c :: rest) else none
    else if c = '-' then if value then readOptions o false false rest else none
    else
      match o.setOption c value with
      | some o => readOptions o value true rest
      | none => none
  | _, _, _, [] => none

/-- Whether a text can name a group. -/
def isGroupName (name : List Char) : Bool :=
  match name with
  | [] => false
  | c :: rest =>
    (c == '_' || isAlphabetic c) &&
      rest.all fun c => c == '_' || c == '.' || c == '[' || c == ']' || isAlphanumeric c

/-- The name of a group, up to the closing angle. -/
def readGroupName (cs : List Char) : Option (Token × List Char) :=
  let name := cs.takeWhile (· != '>')
  match cs.dropWhile (· != '>') with
  | _ :: rest =>
    if isGroupName name then some (.openGroup (some name) .unchanged, rest) else none
  | [] => none

/-- What stands behind an opening parenthesis. -/
def readGroup : List Char → Option (Token × List Char)
  | '?' :: ':' :: rest => some (.openGroup none .unchanged, rest)
  | '?' :: 'P' :: '<' :: rest => readGroupName rest
  | '?' :: '<' :: rest =>
    match rest with
    | '=' :: _ => none
    | '!' :: _ => none
    | _ => readGroupName rest
  | '?' :: rest =>
    match readOptions .unchanged true false rest with
    | some (o, ')' :: rest) => some (.options o, rest)
    | some (o, ':' :: rest) => some (.openGroup none o, rest)
    | _ => none
  | rest => some (.openGroup none .unchanged, rest)

/-! ## All tokens -/

/-- The first token of a text that is not empty. -/
def readToken (verbose : Bool) : List Char → Option (Token × List Char)
  | [] => none
  | c :: rest =>
    match c with
    | '\\' => readEscape verbose rest
    | '.' => some (.any, rest)
    | '^' => some (.caret, rest)
    | '$' => some (.dollar, rest)
    | '|' => some (.bar, rest)
    | '(' => readGroup (gap verbose rest)
    | ')' => some (.closeGroup, rest)
    | '[' => (readBracket verbose rest).map fun r => (.char r.1, r.2)
    | '*' => some (.repetition 0 none, skipLazy rest)
    | '+' => some (.repetition 1 none, skipLazy rest)
    | '?' => some (.repetition 0 (some 1), skipLazy rest)
    | '\x7b' => readBounds verbose rest
    | _ => some (.char (.literal c), rest)

/-- Whether blanks and comments are skipped: in the innermost group, and in those around it. -/
structure Layout where
  verbose : Bool
  outer : List Bool

namespace Layout

/-- The start of a pattern. -/
def start : Layout := ⟨false, []⟩

/-- The layout behind a token. -/
def after (l : Layout) : Token → Layout
  | .options change => { l with verbose := (change.value? .verbose).getD l.verbose }
  | .openGroup _ change => ⟨(change.value? .verbose).getD l.verbose, l.verbose :: l.outer⟩
  | .closeGroup =>
    match l.outer with
    | [] => l
    | verbose :: outer => ⟨verbose, outer⟩
  | _ => l

end Layout

/-- The tokens of a text.  Every token takes a character, so the length bounds their number. -/
def tokens : Nat → Layout → List Char → Option (List Token)
  | 0, _, cs => if cs.isEmpty then some [] else none
  | fuel + 1, l, cs =>
    match gap l.verbose cs with
    | [] => some []
    | c :: rest =>
      match readToken l.verbose (c :: rest) with
      | none => none
      | some (t, rest) => (tokens fuel (l.after t) rest).map (t :: ·)

end DocQuery.Pattern
