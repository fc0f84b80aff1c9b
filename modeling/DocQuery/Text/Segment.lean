import DocQuery.Number.Reading
import DocQuery.Text.Split
set_option autoImplicit false

/-!
# Text: the names of a path

The names of a lookup path stand between doubled underscores.  A name may be a position in an
array, or two positions with an underscore between them.
-/

namespace DocQuery.Text

/-- The part in front of the first doubled separator, and the parts behind each of them.  Of
more than two separators in a row the first two count. -/
def doublyPartsOf (sep : Char) : List Char → List Char × List (List Char)
  | c :: d :: rest =>
    if c = sep ∧ d = sep then
      let (first, others) := doublyPartsOf sep rest
      ([], first :: others)
    else
      let (first, others) := doublyPartsOf sep (d :: rest)
      (c :: first, others)
  | cs => (cs, [])

/-- The mark that stands twice between the names of a path. -/
def segmentMark : Char := '_'

/-- The names of a path. -/
def segments (path : String) : List String :=
  let (first, others) := doublyPartsOf segmentMark path.toList
  String.ofList first :: others.map String.ofList

/-- A path with one more name. -/
def extendPath (path name : String) : String := path ++ "__" ++ name

/-- The number above all positions. -/
def positionLimit : Nat := 4294967296

/-- The position that a name stands for: digits, possibly behind a plus sign. -/
def position? (name : String) : Option Nat :=
  let digits := (stripFirst? '+' name).getD name
  let n := Number.ofDigits digits.toList
  if digits ≠ "" ∧ digits.toList.all Char.isDigit ∧ n < positionLimit then some n else none

/-- The two positions that a name stands for. -/
def positions? (name : String) : Option (Nat × Nat) :=
  match splitOnce? segmentMark name with
  | none => none
  | some (first, second) =>
    match position? first, position? second with
    | some m, some n => some (m, n)
    | _, _ => none

theorem segments_ne_nil (path : String) : segments path ≠ [] := by
  simp [segments]

theorem position?_lt {name : String} {n : Nat} (h : position? name = some n) :
    n < positionLimit := by
  simp only [position?] at h
  split at h
  · rename_i hc
    obtain rfl := Option.some.inj h
    exact hc.2.2
  · exact absurd h (by simp)

end DocQuery.Text
