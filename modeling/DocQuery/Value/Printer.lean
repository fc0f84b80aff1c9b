import DocQuery.Value.Basic
import DocQuery.Number.FloatText
import DocQuery.Text.Quoted
set_option autoImplicit false

/-!
# Value: printed documents

Values print as JSON, on one line without blanks or with one member or item a line.  Members
keep their order, decimals are objects that hold their text, and numbers that are not finite
print as null.
-/

namespace DocQuery.Value

open DocQuery.Number
open DocQuery.Text

/-- The layout of printed documents. -/
inductive Style where
  /-- no blanks at all -/
  | compact
  /-- one member or item a line, indented by two blanks a level -/
  | pretty
  deriving DecidableEq, Repr

/-- The member that holds the text of a decimal. -/
def decimalKey : String := "$numberDecimal"

/-- The start of a new line, if the layout has lines. -/
def lineBreak (style : Style) (depth : Nat) : List Char :=
  match style with
  | .compact => []
  | .pretty => '\n' :: List.replicate (2 * depth) ' '

/-- What stands between a name and its value. -/
def colon : Style → List Char
  | .compact => [':']
  | .pretty => [':', ' ']

mutual

/-- A printed value, inside `depth` arrays and objects. -/
def write (style : Style) (depth : Nat) : Value → List Char
  | .null => "null".toList
  | .bool b => (if b then "true" else "false").toList
  | .int n => (toString n.toInt).toList
  | .float x =>
    match Binary64.ofFloat? x with
    | some b => (literal b).toList
    | none => "null".toList
  | .decimal d =>
    '\x7b' :: (lineBreak style (depth + 1) ++ quoted decimalKey ++ colon style ++ quoted d.text
      ++ lineBreak style depth ++ ['\x7d'])
  | .string s => quoted s
  | .array [] => ['[', ']']
  | .array (item :: rest) =>
    '[' :: (lineBreak style (depth + 1) ++ write style (depth + 1) item
      ++ writeItems style (depth + 1) rest ++ lineBreak style depth ++ [']'])
  | .object [] => ['\x7b', '\x7d']
  | .object ((name, v) :: rest) =>
    '\x7b' :: (lineBreak style (depth + 1) ++ quoted name ++ colon style
      ++ write style (depth + 1) v ++ writeFields style (depth + 1) rest
      ++ lineBreak style depth ++ ['\x7d'])

/-- The items behind the first one. -/
def writeItems (style : Style) (depth : Nat) : List Value → List Char
  | [] => []
  | item :: rest =>
    ',' :: (lineBreak style depth ++ write style depth item ++ writeItems style depth rest)

/-- The members behind the first one. -/
def writeFields (style : Style) (depth : Nat) : List (String × Value) → List Char
  | [] => []
  | (name, v) :: rest =>
    ',' :: (lineBreak style depth ++ quoted name ++ colon style ++ write style depth v
      ++ writeFields style depth rest)

end

/-- A printed value in a layout. -/
def print (style : Style) (v : Value) : String := String.ofList (write style 0 v)

/-- A value printed on one line. -/
def compactText (v : Value) : String := print .compact v

end DocQuery.Value
