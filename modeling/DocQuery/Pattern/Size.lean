import DocQuery.Pattern.Basic
set_option autoImplicit false

/-!
# Pattern: the size of a pattern

A pattern may be too large to be compiled.  Its size is that of the automaton which reads texts
backwards, byte by byte:  a state for every byte of a character, with repetitions written out.
A class of characters takes a state for every range of bytes that its encodings have, and
encodings that start alike share states.
-/

namespace DocQuery.Pattern

open DocQuery.Text

/-- The bytes of a state. -/
def stateBytes : Nat := 32

/-- The bytes of a choice between states: its state and its links. -/
def choiceBytes (links : Nat) : Nat := stateBytes + 4 * links

/-! ## The characters of a description -/

/-- Characters that belong together with others by their case. -/
def casedPairs : List Char :=
  foldRuns.flatMap fun r =>
    (List.range ((r.last - r.first) / r.step + 1)).flatMap fun i =>
      let source := r.first + r.step * i
      [Char.ofNat source, Char.ofNat ((source : Int) + r.shift).toNat]

/-- The code points where characters start and cease to be taken. -/
def charCuts (cs : List Char) : List Nat := cs.flatMap fun c => [c.toNat, c.toNat + 1]

/-- The code points where intervals of a set start and cease. -/
def setCuts (s : CharSet) : List Nat := s.ranges.flatMap fun r => [r.1, r.2 + 1]

/-- Code points between which a description takes all characters or none. -/
def CharSpec.cuts : CharSpec → List Nat
  | .nothing => []
  | .anything => []
  | .literal c => charCuts [c]
  | .octet c => charCuts [c]
  | .range low high => [low.toNat, high.toNat + 1]
  | .digit => setCuts decimalDigits
  | .word => setCuts alphabetic ++ setCuts decimalDigits ++ setCuts wordMarks
  | .blank => setCuts blanks
  | .property s => setCuts s
  | .negation s => s.cuts
  | .union s t => s.cuts ++ t.cuts
  | .intersection s t => s.cuts ++ t.cuts
  | .difference s t => s.cuts ++ t.cuts
  | .folded (.literal c) => charCuts (CharSpec.variants c)
  | .folded s =>
    s.cuts ++ charCuts (casedPairs.filter fun c => (CharSpec.variants c).any s.accepts)

/-- Joins intervals that follow each other without a gap; an interval goes up to its second code
point exclusively. -/
def joinIntervals : List (Nat × Nat) → List (Nat × Nat)
  | [] => []
  | (low, high) :: rest =>
    match joinIntervals rest with
    | (next, last) :: more =>
      if high = next then (low, last) :: more else (low, high) :: (next, last) :: more
    | [] => [(low, high)]

/-- The intervals of code points that a description takes, each with its first code point and
the first one behind it. -/
def CharSpec.intervals (s : CharSpec) : List (Nat × Nat) :=
  let cuts := (0 :: 0xD800 :: 0xE000 :: s.cuts).mergeSort
  joinIntervals ((cuts.zip (cuts.tail ++ [0x110000])).filter fun (low, high) =>
    low < high && low.isValidChar && s.accepts (Char.ofNat low))

/-! ## Encodings -/

/-- The parts of an interval that are cut out by the multiples of a number: all of them are
between neighbouring multiples but one, which goes from multiple to multiple. -/
def cutAt (n : Nat) (interval : Nat × Nat) : List (Nat × Nat) :=
  let (low, high) := interval
  if low / n = (high - 1) / n then [interval]
  else
    let first := (low + n - 1) / n * n
    let last := high / n * n
    [(low, first), (first, last), (last, high)].filter fun part => part.1 < part.2

/-- The ranges of bytes that encode an interval; encodings have one length. -/
def byteRanges (interval : Nat × Nat) : List (UInt8 × UInt8) :=
  (String.utf8EncodeChar (Char.ofNat interval.1)).zip
    (String.utf8EncodeChar (Char.ofNat (interval.2 - 1)))

/-- The code points from which on encodings are longer. -/
def longerEncodings : List Nat := [0x80, 0x800, 0x10000]

/-- The sequences of ranges of bytes that encode the characters of intervals. -/
def encodings (intervals : List (Nat × Nat)) : List (List (UInt8 × UInt8)) :=
  let lengths := fun interval : Nat × Nat =>
    longerEncodings.foldl
      (fun parts n => parts.flatMap fun (low, high) =>
        if low < n ∧ n < high then [(low, n), (n, high)] else [(low, high)])
      [interval]
  let blocks := fun interval : Nat × Nat =>
    if interval.1 < 0x80 then [interval]
    else [0x40, 0x1000, 0x40000].foldl (fun parts n => parts.flatMap (cutAt n)) [interval]
  ((intervals.flatMap lengths).flatMap blocks).map byteRanges

/-- The length of what two sequences start with. -/
def commonLength : List (UInt8 × UInt8) → List (UInt8 × UInt8) → Nat
  | a :: as, b :: bs => if a = b then commonLength as bs + 1 else 0
  | _, _ => 0

/-- The number of states of sequences behind another one, which share what they start with. -/
def stateCount : List (UInt8 × UInt8) → List (List (UInt8 × UInt8)) → Nat
  | _, [] => 0
  | previous, s :: rest => (s.length - commonLength previous s) + stateCount s rest

/-! ## Sizes -/

/-- The bytes of the automaton of a description.  Classes of ASCII take one state with a
transition of eight bytes for every interval. -/
def CharSpec.bytes : CharSpec → Nat
  | .literal c => stateBytes * c.utf8Size
  | s =>
    let intervals := s.intervals
    if intervals.all fun interval => interval.2 ≤ 0x80 then
      stateBytes + 8 * intervals.length + stateBytes
    else
      let sequences := encodings intervals
      choiceBytes sequences.length + stateBytes * stateCount [] sequences + stateBytes

/-- The bytes of the automaton of a pattern. -/
def bytes : Pattern → Nat
  | .empty => stateBytes
  | .char s => s.bytes
  | .anchor _ => stateBytes
  | .seq p q => p.bytes + q.bytes
  | .alt p q => choiceBytes 2 + p.bytes + q.bytes + stateBytes
  | .repetition p least none => max 1 least * p.bytes + choiceBytes 2
  | .repetition p least (some most) =>
    least * p.bytes + (most - least) * (choiceBytes 2 + p.bytes) + stateBytes

/-- Patterns may have this size at most: ten mebibytes. -/
def sizeLimit : Nat := 10 * 1024 * 1024

end DocQuery.Pattern
