set_option autoImplicit false

/-!
# Text: similar names

Two names are as similar as the share of their characters that stand in both in one order.  What
is left are the characters that have to be removed and put in to get from one name to the other.
-/

namespace DocQuery.Text

/-- A row of distances behind its first entry.  `left` is the entry before, and the list is the
row above:  equal characters cost nothing, and otherwise one is removed or put in. -/
def restOfRow (c : Char) (left : Nat) : List Nat → List Char → List Nat
  | diagonal :: up :: above, d :: ds =>
    let here := if c = d then diagonal else min (up + 1) (left + 1)
    here :: restOfRow c here (up :: above) ds
  | _, _ => []

/-- The distances of a text with one more character from the beginnings of another text. -/
def nextRow (t : List Char) (above : List Nat) (c : Char) : List Nat :=
  match above with
  | [] => []
  | first :: rest => (first + 1) :: restOfRow c (first + 1) (first :: rest) t

/-- The distances of the empty text from the beginnings of a text. -/
def firstRow (t : List Char) : List Nat := List.range (t.length + 1)

/-- How many characters are removed and put in to get from one text to the other. -/
def indelDistance (s t : List Char) : Nat :=
  ((s.foldl (nextRow t) (firstRow t)).getLast?).getD 0

/-- The similarity of two names, between zero and one. -/
def similarity (a b : String) : Float :=
  let total := a.length + b.length
  if total = 0 then 1.0
  else Float.ofNat (total - indelDistance a.toList b.toList) / Float.ofNat total

/-- Whether a scored name stands in front of another one: the more similar one, and of equally
similar ones the one that is later in the order of texts. -/
def isBetter (a b : Float × String) : Bool :=
  if a.1 == b.1 then decide (b.2 ≤ a.2) else decide (b.1 < a.1)

/-- At most `count` of the candidates that are at least as similar to a name as the cutoff, the
best one first. -/
def closest (name : String) (candidates : List String) (cutoff : Float) (count : Nat) :
    List String :=
  let scored := candidates.map fun c => (similarity name c, c)
  let close := scored.filter fun p => decide (cutoff ≤ p.1)
  ((close.mergeSort isBetter).take count).map (·.2)

end DocQuery.Text
