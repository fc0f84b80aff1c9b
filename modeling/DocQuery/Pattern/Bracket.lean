import DocQuery.Pattern.Escape
set_option autoImplicit false

/-!
# Pattern: bracketed sets

A set in brackets is the union of its items: characters, ranges, escapes, named sets and further
sets.  Sets can be cut with, taken away from and compared to what stands in front of them.
-/

namespace DocQuery.Pattern

/-- The set of a name between `[:` and `:]`. -/
def namedSet? (name : List Char) : Option CharSpec :=
  let named := fun s : String => name = s.toList
  if named "alnum" then some .asciiAlnum
  else if named "alpha" then some (.union .asciiUpper .asciiLower)
  else if named "ascii" then some .ascii
  else if named "blank" then some (.union (.literal '\t') (.literal ' '))
  else if named "cntrl" then some (.union (.range '\x00' '\x1f') (.literal '\x7f'))
  else if named "digit" then some .asciiDigit
  else if named "graph" then some (.range '!' '~')
  else if named "lower" then some .asciiLower
  else if named "print" then some (.range ' ' '~')
  else if named "punct" then
    some (.union (.union (.range '!' '/') (.range ':' '@'))
      (.union (.range '[' '\x60') (.range '\x7b' '~')))
  else if named "space" then some .asciiBlank
  else if named "upper" then some .asciiUpper
  else if named "word" then some .asciiWord
  else if named "xdigit" then
    some (.union .asciiDigit (.union (.range 'A' 'F') (.range 'a' 'f')))
  else none

/-- A named set behind `[:`, with a caret for its negation. -/
def readNamedSet (cs : List Char) : Option (CharSpec × List Char) :=
  let (negated, cs) := match cs with
    | '^' :: rest => (true, rest)
    | _ => (false, cs)
  match cs.dropWhile (· != ':') with
  | ':' :: ']' :: behind =>
    (namedSet? (cs.takeWhile (· != ':'))).map fun s =>
      (if negated then .negation s else s, behind)
  | _ => none

/-! ## Items -/

/-- One item of a set: a character, or a backslash and what follows it. -/
def readSetItem (verbose : Bool) : List Char → Option (CharSpec × List Char)
  | [] => none
  | '\\' :: rest =>
    match readEscape verbose rest with
    | some (.char s, rest) => some (s, rest)
    | _ => none
  | c :: rest => some (.literal c, rest)

/-- The range between two items, which have to be characters in order. -/
def rangeOf? (low high : CharSpec) : Option CharSpec :=
  match low.single?, high.single? with
  | some low, some high => if low ≤ high then some (.range low high) else none
  | _, _ => none

/-- An item of a set or a range between two characters.  A hyphen in front of the closing
bracket or of another hyphen makes no range. -/
def readSetRange (verbose : Bool) (cs : List Char) : Option (CharSpec × List Char) :=
  match readSetItem verbose cs with
  | none => none
  | some (first, rest) =>
    match gap verbose rest with
    | [] => none
    | '-' :: behind =>
      let behind := gap verbose behind
      if behind.head? = some ']' ∨ behind.head? = some '-' then some (first, gap verbose rest)
      else
        match readSetItem verbose behind with
        | some (last, rest) => (rangeOf? first last).map fun s => (s, rest)
        | none => none
    | rest => some (first, rest)

/-! ## Sets -/

/-- An operation between two sets. -/
inductive SetOperation where
  | intersection
  | difference
  | symmetricDifference

/-- The result of an operation. -/
def SetOperation.apply : SetOperation → CharSpec → CharSpec → CharSpec
  | .intersection, s, t => .intersection s t
  | .difference, s, t => .difference s t
  | .symmetricDifference, s, t => CharSpec.symmetricDifference s t

/-- A set that is being read: the operand and operation in front of what is read now. -/
structure OpenSet where
  negated : Bool
  pending : Option (CharSpec × SetOperation)
  items : CharSpec

/-- The items of a set combined with what stands in front of them. -/
def OpenSet.combined (s : OpenSet) : CharSpec :=
  match s.pending with
  | none => s.items
  | some (left, op) => op.apply left s.items

/-- A complete set. -/
def OpenSet.close (s : OpenSet) : CharSpec :=
  if s.negated then .negation s.combined else s.combined

/-- Adds an item. -/
def OpenSet.add (s : OpenSet) (item : CharSpec) : OpenSet :=
  { s with items := .union s.items item }

/-- Goes on behind an operation. -/
def OpenSet.operate (s : OpenSet) (op : SetOperation) : OpenSet :=
  { s with pending := some (s.combined, op), items := .nothing }

/-- Hyphens at the start of a set stand for themselves.  Every round takes a character, so the
length of the text bounds their number. -/
def leadingHyphens (verbose : Bool) : Nat → OpenSet → List Char → OpenSet × List Char
  | fuel + 1, s, '-' :: rest =>
    leadingHyphens verbose fuel (s.add (.literal '-')) (gap verbose rest)
  | _, s, cs => (s, cs)

/-- The start of a set behind its opening bracket: a caret negates, and hyphens or else a
closing bracket in the first place stand for themselves. -/
def openSet (verbose : Bool) (cs : List Char) : OpenSet × List Char :=
  let (negated, cs) := match gap verbose cs with
    | '^' :: rest => (true, gap verbose rest)
    | cs => (false, cs)
  let s : OpenSet := ⟨negated, none, .nothing⟩
  match cs with
  | ']' :: rest => (s.add (.literal ']'), rest)
  | _ => leadingHyphens verbose cs.length s cs

/-- Reads a set and the sets in it to the closing bracket.  Every round takes a character, so
the length of the text bounds their number. -/
def readSet (verbose : Bool) : Nat → List OpenSet → List Char → Option (CharSpec × List Char)
  | 0, _, _ => none
  | _, [], _ => none
  | fuel + 1, s :: outer, cs =>
    match gap verbose cs with
    | [] => none
    | '[' :: rest =>
      let named := match rest with
        | ':' :: rest => readNamedSet rest
        | _ => none
      match named with
      | some (item, rest) => readSet verbose fuel (s.add item :: outer) rest
      | none =>
        let (inner, rest) := openSet verbose rest
        readSet verbose fuel (inner :: s :: outer) rest
    | ']' :: rest =>
      match outer with
      | [] => some (s.close, rest)
      | t :: outer => readSet verbose fuel (t.add s.close :: outer) rest
    | '&' :: '&' :: rest => readSet verbose fuel (s.operate .intersection :: outer) rest
    | '-' :: '-' :: rest => readSet verbose fuel (s.operate .difference :: outer) rest
    | '~' :: '~' :: rest => readSet verbose fuel (s.operate .symmetricDifference :: outer) rest
    | cs =>
      match readSetRange verbose cs with
      | some (item, rest) => readSet verbose fuel (s.add item :: outer) rest
      | none => none

/-- Reads a set behind its opening bracket. -/
def readBracket (verbose : Bool) (cs : List Char) : Option (CharSpec × List Char) :=
  let (s, inside) := openSet verbose cs
  readSet verbose (inside.length + 1) [s] inside

end DocQuery.Pattern
