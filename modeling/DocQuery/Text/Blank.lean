import DocQuery.Text.CharSet
set_option autoImplicit false

/-!
# Text: blank characters

The Unicode property `White_Space`: what may stand between the tokens of a filter, and what is
cut from both ends of a filter text.
-/

namespace DocQuery.Text

/-- The characters with the Unicode property `White_Space`. -/
def blanks : CharSet := ⟨
  [(0x9, 0xD), (0x20, 0x20), (0x85, 0x85), (0xA0, 0xA0), (0x1680, 0x1680), (0x2000, 0x200A),
   (0x2028, 0x2029), (0x202F, 0x202F), (0x205F, 0x205F), (0x3000, 0x3000)]⟩

/-- Whether a character is blank. -/
def isBlank (c : Char) : Bool := blanks.contains c

/-- A text without the blanks at its two ends. -/
def trim (s : String) : String :=
  String.ofList ((s.toList.dropWhile isBlank).reverse.dropWhile isBlank).reverse

end DocQuery.Text
