import DocQuery.Text.Case
import DocQuery.Text.Word
set_option autoImplicit false

/-!
# Pattern: descriptions of single characters

What a pattern says about one character:  the character itself, a range, one of the named
classes, a Unicode property, and combinations of these.  Matching without regard to case means
that a character is taken as soon as one of its case variants is.
-/

namespace DocQuery.Pattern

open DocQuery.Text

/-- A description of single characters. -/
inductive CharSpec where
  | nothing
  | anything
  | literal (c : Char)
  /-- a character by two hexadecimal digits, which is a byte where Unicode is switched off -/
  | octet (c : Char)
  | range (low high : Char)
  | digit
  | word
  | blank
  /-- the characters with a Unicode property -/
  | property (s : CharSet)
  | negation (s : CharSpec)
  | union (s t : CharSpec)
  | intersection (s t : CharSpec)
  | difference (s t : CharSpec)
  /-- the characters that have a case variant in the description -/
  | folded (s : CharSpec)
  deriving DecidableEq, Repr

namespace CharSpec

/-- The characters that have the same simple case folding as a character, itself included. -/
def variants (c : Char) : List Char :=
  let target := foldCase c
  let sources := foldRuns.filterMap fun r =>
    let n := (target.toNat : Int) - r.shift
    if (r.first : Int) ≤ n ∧ n ≤ r.last ∧ (n - r.first) % r.step = 0 then
      some (Char.ofNat n.toNat)
    else none
  c :: target :: sources

/-- Whether a character fits a description. -/
def accepts : CharSpec → Char → Bool
  | .nothing, _ => false
  | .anything, _ => true
  | .literal d, c => c == d
  | .octet d, c => c == d
  | .range low high, c => low ≤ c && c ≤ high
  | .digit, c => isDecimalDigit c
  | .word, c => isWordChar c
  | .blank, c => isBlank c
  | .property s, c => s.contains c
  | .negation s, c => !accepts s c
  | .union s t, c => accepts s c || accepts t c
  | .intersection s t, c => accepts s c && accepts t c
  | .difference s t, c => accepts s c && !accepts t c
  | .folded s, c => (variants c).any (accepts s)

/-- The character that a description names by itself. -/
def single? : CharSpec → Option Char
  | .literal c => some c
  | .octet c => some c
  | _ => none

/-- The same description without regard to case: characters, ranges and properties take all case
variants, the named classes have them already. -/
def ignoringCase : CharSpec → CharSpec
  | .literal c => .folded (.literal c)
  | .octet c => .folded (.octet c)
  | .range low high => .folded (.range low high)
  | .property s => .folded (.property s)
  | .negation s => .negation s.ignoringCase
  | .union s t => .union s.ignoringCase t.ignoringCase
  | .intersection s t => .intersection s.ignoringCase t.ignoringCase
  | .difference s t => .difference s.ignoringCase t.ignoringCase
  | s => s

/-- What exactly one of two descriptions takes. -/
def symmetricDifference (s t : CharSpec) : CharSpec :=
  .union (.difference s t) (.difference t s)

/-! ## Without Unicode -/

/-- The characters of ASCII. -/
def ascii : CharSpec := .range '\x00' '\x7f'

/-- The small letters of ASCII. -/
def asciiLower : CharSpec := .range 'a' 'z'

/-- The capital letters of ASCII. -/
def asciiUpper : CharSpec := .range 'A' 'Z'

/-- The digits of ASCII. -/
def asciiDigit : CharSpec := .range '0' '9'

/-- The letters and digits of ASCII. -/
def asciiAlnum : CharSpec := .union asciiDigit (.union asciiUpper asciiLower)

/-- The word characters of ASCII. -/
def asciiWord : CharSpec := .union asciiAlnum (.literal '_')

/-- The blanks of ASCII. -/
def asciiBlank : CharSpec := .union (.range '\t' '\r') (.literal ' ')

/-- A description where Unicode is switched off:  classes are those of ASCII, and there are no
properties.  A description that takes bytes beyond ASCII has no value, since it could match a
part of a character. -/
def inAscii? : CharSpec → Option CharSpec
  | .nothing => some .nothing
  | .literal c => if c.toNat < 0x80 then some (.literal c) else none
  | .octet c => if c.toNat < 0x80 then some (.literal c) else none
  | .range low high => if high.toNat < 0x80 then some (.range low high) else none
  | .digit => some asciiDigit
  | .word => some asciiWord
  | .blank => some asciiBlank
  | .union s t => s.inAscii?.bind fun s => t.inAscii?.map (.union s)
  | .intersection s t => s.inAscii?.bind fun s => t.inAscii?.map (.intersection s)
  | .difference s t => s.inAscii?.bind fun s => t.inAscii?.map (.difference s)
  | _ => none

/-- A description of ASCII characters without regard to the case of ASCII letters. -/
def ignoringAsciiCase (s : CharSpec) : CharSpec := .intersection ascii s.ignoringCase

/-- What stands for one character where Unicode is switched off: a character stands for itself,
also one beyond ASCII. -/
def withoutUnicode? (ignoreCase : Bool) : CharSpec → Option CharSpec
  | .literal c =>
    some (if ignoreCase && c.toNat < 0x80 then ignoringAsciiCase (.literal c) else .literal c)
  | s => s.inAscii?.map fun s => if ignoreCase then s.ignoringAsciiCase else s

end CharSpec

end DocQuery.Pattern
