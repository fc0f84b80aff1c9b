import DocQuery.Pattern.Basic
set_option autoImplicit false

/-!
# Pattern: tokens

The text of a pattern is cut into tokens: single characters and descriptions of them, anchors,
groups, alternatives and repetitions.
-/

namespace DocQuery.Pattern

/-- An option of a part of a pattern. -/
inductive Flag where
  /-- letters match in both cases -/
  | ignoreCase
  /-- anchors of the text also hold at line ends -/
  | multiLine
  /-- the point also matches the end of a line -/
  | dotAll
  /-- repetitions ask for the shortest match, and for the longest one with a question mark -/
  | swapGreed
  /-- classes and case are those of Unicode -/
  | unicode
  /-- a carriage return ends a line like a line feed -/
  | crlf
  /-- blanks and comments between tokens are skipped -/
  | verbose
  deriving DecidableEq, Repr

/-- The option of a letter. -/
def Flag.ofLetter? : Char → Option Flag
  | 'i' => some .ignoreCase
  | 'm' => some .multiLine
  | 's' => some .dotAll
  | 'U' => some .swapGreed
  | 'u' => some .unicode
  | 'R' => some .crlf
  | 'x' => some .verbose
  | _ => none

/-- Options that a part of a pattern switches on or off; the others stay as they are. -/
structure OptionChange where
  settings : List (Flag × Bool)
  deriving DecidableEq, Repr

namespace OptionChange

/-- No change. -/
def unchanged : OptionChange := ⟨[]⟩

/-- What an option is set to. -/
def value? (o : OptionChange) (f : Flag) : Option Bool := o.settings.lookup f

/-- Sets an option that was not set before. -/
def setOption (o : OptionChange) (c : Char) (value : Bool) : Option OptionChange :=
  match Flag.ofLetter? c with
  | none => none
  | some f => if (o.value? f).isSome then none else some ⟨(f, value) :: o.settings⟩

end OptionChange

/-- A token of a pattern. -/
inductive Token where
  | char (s : CharSpec)
  /-- the point -/
  | any
  /-- the anchor at the start -/
  | caret
  /-- the anchor at the end -/
  | dollar
  | anchor (a : Anchor)
  /-- a condition on the words around a place -/
  | edge (e : WordEdge)
  | bar
  | openGroup (name : Option (List Char)) (change : OptionChange)
  | closeGroup
  /-- changes options up to the end of the group -/
  | options (change : OptionChange)
  | repetition (least : Nat) (most : Option Nat)
  deriving DecidableEq, Repr

/-- The name of the group that a token opens. -/
def Token.groupName? : Token → Option (List Char)
  | .openGroup name _ => name
  | _ => none

end DocQuery.Pattern
