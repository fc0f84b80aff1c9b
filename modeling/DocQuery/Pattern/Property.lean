import DocQuery.Pattern.CharSpec
import DocQuery.Text.Property
import DocQuery.Text.Script
set_option autoImplicit false

/-!
# Pattern: properties by name

A pattern names a Unicode property by itself (a general category, a script or a property that a
character has or does not have) or as the value of another one.  Values of the properties `Age`,
`Grapheme_Cluster_Break`, `Sentence_Break` and `Word_Break` are not known.
-/

namespace DocQuery.Pattern

open DocQuery.Text

/-- A name as it is looked up:  in small letters, without blanks, hyphens and underscores and
without the word `is` in front of it.  What would be left of the name `isc` is another name. -/
def looseName (name : List Char) : String :=
  let isWord := fun c d : Char => c.toLower == 'i' && d.toLower == 's'
  let (shortened, name) := match name with
    | c :: d :: rest => if isWord c d then (true, rest) else (false, name)
    | _ => (false, name)
  let kept := name.filter fun c => c.toNat < 0x80 && c != ' ' && c != '_' && c != '-'
  let loose := kept.map Char.toLower
  if shortened ∧ loose = ['c'] then "isc" else String.ofList loose

/-- The characters with a property that is named by itself. -/
def propertyNamed? (name : List Char) : Option CharSet :=
  let loose := looseName name
  (binaryProperty? loose).or ((category? loose).or ((script? loose).map Script.chars))

/-- The characters for which a property has a value. -/
def propertyValue? (name value : List Char) : Option CharSet :=
  let property := looseName name
  let value := looseName value
  if property = "generalcategory" ∨ property = "gc" then category? value
  else if property = "script" ∨ property = "sc" then (script? value).map Script.chars
  else if property = "scriptextensions" ∨ property = "scx" then
    (script? value).map Script.extended
  else none

/-- What stands in front of the first occurrence of a mark and behind it. -/
def splitAtMark? (mark : List Char) : List Char → Option (List Char × List Char)
  | [] => none
  | c :: rest =>
    if mark.isPrefixOf (c :: rest) then some ([], (c :: rest).drop mark.length)
    else (splitAtMark? mark rest).map fun r => (c :: r.1, r.2)

/-- The description that a name in braces stands for. -/
def propertySpec? (name : List Char) : Option CharSpec :=
  match splitAtMark? ['!', '='] name with
  | some (property, value) =>
    (propertyValue? property value).map fun s => .negation (.property s)
  | none =>
    match (splitAtMark? [':'] name).or (splitAtMark? ['='] name) with
    | some (property, value) => (propertyValue? property value).map .property
    | none => (propertyNamed? name).map .property

end DocQuery.Pattern
