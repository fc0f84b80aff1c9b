import DocQuery.Number.FloatText
import DocQuery.Text.Visible
set_option autoImplicit false

/-!
# FilterText: tokens

A filter may be written as a text.  Its tokens are literals, names, keywords and punctuation,
and every token has a position in the text.
-/

namespace DocQuery.FilterText

/-- A place in a text: line and column, counted from one. -/
structure Position where
  line : Nat
  column : Nat
  deriving DecidableEq, Repr

namespace Position

/-- The start of a text. -/
def start : Position := ⟨1, 1⟩

/-- The place behind a character. -/
def next (p : Position) (c : Char) : Position :=
  if c = '\n' then ⟨p.line + 1, 1⟩ else ⟨p.line, p.column + 1⟩

/-- The place behind a text. -/
def after (p : Position) (cs : List Char) : Position := cs.foldl next p

/-- A place as messages name it. -/
def text (p : Position) : String := toString p.line ++ ":" ++ toString p.column

@[simp] theorem after_nil (p : Position) : p.after [] = p := rfl

theorem after_append (p : Position) (xs ys : List Char) :
    p.after (xs ++ ys) = (p.after xs).after ys := by
  simp [after]

end Position

/-- A token of a filter text. -/
inductive Token where
  | integer (n : Int64)
  | float (x : Float)
  | string (s : String)
  | boolean (b : Bool)
  | null
  | name (s : String)
  | equals
  | minus
  | and
  | or
  | not
  | openParen
  | closeParen
  | openBracket
  | closeBracket
  | comma

namespace Token

/-- The keyword or literal that a word is, else a name. -/
def ofWord (word : String) : Token :=
  match word with
  | "and" => .and
  | "or" => .or
  | "not" => .not
  | "true" => .boolean true
  | "false" => .boolean false
  | "null" => .null
  | _ => .name word

/-- A float as messages show it. -/
def shownFloat (x : Float) : String :=
  match Number.Binary64.ofFloat? x with
  | some b => Number.literal b
  | none => if x.isNaN then "NaN" else "inf"

/-- A token as messages show it. -/
def shown : Token → String
  | .integer n => "Integer(" ++ toString n.toInt ++ ")"
  | .float x => "Float(" ++ shownFloat x ++ ")"
  | .string s => "String(" ++ Text.shown s ++ ")"
  | .boolean b => "Boolean(" ++ (if b then "true" else "false") ++ ")"
  | .null => "Null"
  | .name s => "Identifier(" ++ Text.shown s ++ ")"
  | .equals => "Eq"
  | .minus => "Minus"
  | .and => "And"
  | .or => "Or"
  | .not => "Not"
  | .openParen => "LParen"
  | .closeParen => "RParen"
  | .openBracket => "LBracket"
  | .closeBracket => "RBracket"
  | .comma => "Comma"

end Token

end DocQuery.FilterText
