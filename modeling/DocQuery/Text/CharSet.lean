set_option autoImplicit false

/-!
# Text: sets of characters

A character set is a list of code point intervals in increasing order.  The classes that the
program needs (letters, digits, blanks, word characters) are values of this type, and so are the
properties of characters that patterns name.
-/

namespace DocQuery.Text

/-- A set of characters, given by closed intervals of code points in increasing order. -/
structure CharSet where
  ranges : List (Nat × Nat)
  deriving DecidableEq, Repr

namespace CharSet

/-- Whether a code point lies in one of the intervals; the search ends at the first interval
that starts above it. -/
def covers : List (Nat × Nat) → Nat → Bool
  | [], _ => false
  | (low, high) :: rest, n => if n < low then false else n ≤ high || covers rest n

/-- Whether a character belongs to the set. -/
def contains (s : CharSet) (c : Char) : Bool :=
  covers s.ranges c.toNat

/-- All characters. -/
def all : CharSet := ⟨[(0x0, 0x10FFFF)]⟩

/-- Every other code point of some intervals, from the first to the last one of each. -/
def alternating (pairs : List (Nat × Nat)) : CharSet :=
  ⟨pairs.flatMap fun (first, last) =>
    (List.range ((last - first) / 2 + 1)).map fun i => (first + 2 * i, first + 2 * i)⟩

/-- The characters of two sets. -/
def union (s t : CharSet) : CharSet :=
  ⟨List.merge s.ranges t.ranges fun a b => a.1 ≤ b.1⟩

instance : Union CharSet := ⟨union⟩

/-- The characters of several sets. -/
def unions (sets : List CharSet) : CharSet := sets.foldr union ⟨[]⟩

/-- The code points from one on that intervals leave free. -/
def gaps : Nat → List (Nat × Nat) → List (Nat × Nat)
  | start, [] => if start ≤ 0x10FFFF then [(start, 0x10FFFF)] else []
  | start, (low, high) :: rest =>
    if start < low then (start, low - 1) :: gaps (high + 1) rest
    else gaps (max start (high + 1)) rest

/-- The characters that are not in a set. -/
def complement (s : CharSet) : CharSet := ⟨gaps 0 s.ranges⟩

/-- The characters of one set that are not in another one. -/
def diff (s t : CharSet) : CharSet := (s.complement ∪ t).complement

instance : SDiff CharSet := ⟨diff⟩

end CharSet

end DocQuery.Text
