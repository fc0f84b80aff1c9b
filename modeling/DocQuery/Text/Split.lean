set_option autoImplicit false

/-!
# Text: cutting a text at a character

A text cut at a separator has at least one part, and the parts joined by the separator give the
text back.  The separators of this program are the point of document paths and the dollar sign
in front of operators and paths.
-/

namespace DocQuery.Text

/-- The part in front of the first separator, and the parts behind each separator. -/
def partsOf (sep : Char) : List Char → List Char × List (List Char)
  | [] => ([], [])
  | c :: rest =>
    let (first, others) := partsOf sep rest
    if c = sep then ([], first :: others) else (c :: first, others)

/-- The parts of a text between separators. -/
def split (sep : Char) (s : String) : List String :=
  let (first, others) := partsOf sep s.toList
  String.ofList first :: others.map String.ofList

/-- The texts in front of and behind the first separator, if there is one. -/
def splitOnce? (sep : Char) (s : String) : Option (String × String) :=
  match s.toList.dropWhile (· != sep) with
  | [] => none
  | _ :: rest => some (String.ofList (s.toList.takeWhile (· != sep)), String.ofList rest)

/-- The text behind a leading character, if it leads. -/
def stripFirst? (c : Char) (s : String) : Option String :=
  match s.toList with
  | d :: rest => if d = c then some (String.ofList rest) else none
  | [] => none

/-- Whether a text starts with a character. -/
def startsWith (c : Char) (s : String) : Bool := s.toList.head? == some c

/-- Texts with a separator between them. -/
def join (sep : String) : List String → String
  | [] => ""
  | [s] => s
  | s :: rest => s ++ sep ++ join sep rest

theorem split_ne_nil (sep : Char) (s : String) : split sep s ≠ [] := by
  simp [split]

theorem partsOf_of_notMem {sep : Char} {cs : List Char} (h : sep ∉ cs) :
    partsOf sep cs = (cs, []) := by
  induction cs with
  | nil => rfl
  | cons c rest ih =>
    simp only [List.mem_cons, not_or] at h
    simp [partsOf, ih h.2, Ne.symm h.1]

/-- A text without the separator is its only part. -/
theorem split_of_notMem {sep : Char} {s : String} (h : sep ∉ s.toList) : split sep s = [s] := by
  simp [split, partsOf_of_notMem h, String.ofList_toList]

end DocQuery.Text
