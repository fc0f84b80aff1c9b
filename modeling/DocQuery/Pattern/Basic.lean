import DocQuery.Pattern.CharSpec
set_option autoImplicit false

/-!
# Pattern: patterns and what they match

A pattern is matched anywhere in a text.  The matcher follows all ways through the pattern at
once:  it maps a place in the text to the places where a match that starts there can end, so
that it needs no backtracking and always ends.
-/

namespace DocQuery

open DocQuery.Text

/-- A condition on the word characters in front of a place and behind it. -/
inductive WordEdge where
  | boundary
  | noBoundary
  | start
  | finish
  /-- no word character in front -/
  | startHalf
  /-- no word character behind -/
  | finishHalf
  deriving DecidableEq, Repr

/-- A condition on a place in a text. -/
inductive Anchor where
  | textStart
  | textEnd
  /-- the start of a line; a carriage return may end lines as well -/
  | lineStart (crlf : Bool)
  /-- the end of a line; a carriage return may end lines as well -/
  | lineEnd (crlf : Bool)
  /-- a condition on words, of Unicode or of ASCII characters -/
  | word (edge : WordEdge) (unicode : Bool)
  deriving DecidableEq, Repr

/-- A pattern. -/
inductive Pattern where
  | empty
  | char (s : Pattern.CharSpec)
  | anchor (a : Anchor)
  | seq (p q : Pattern)
  | alt (p q : Pattern)
  /-- at least `least` and, if given, at most `most` matches in a row -/
  | repetition (p : Pattern) (least : Nat) (most : Option Nat)
  deriving DecidableEq, Repr

namespace Pattern

/-- A place in a text: the character in front of it and the text behind it. -/
structure Place where
  before : Option Char
  after : List Char
  deriving DecidableEq, Repr

namespace Place

/-- Whether a character belongs to words, of Unicode or of ASCII characters. -/
def inWord (unicode : Bool) (c : Char) : Bool :=
  if unicode then isWordChar c else CharSpec.asciiWord.accepts c

/-- Whether a place fulfils a condition on words. -/
def atEdge (p : Place) (unicode : Bool) (edge : WordEdge) : Bool :=
  let before := p.before.any (inWord unicode)
  let after := p.after.head?.any (inWord unicode)
  match edge with
  | .boundary => before != after
  | .noBoundary => before == after
  | .start => !before && after
  | .finish => before && !after
  | .startHalf => !before
  | .finishHalf => !after

/-- Whether a line starts at a place.  A carriage return and a line feed behind it end one
line. -/
def startsLine (p : Place) (crlf : Bool) : Bool :=
  match p.before with
  | none => true
  | some c => c == '\n' || (crlf && c == '\r' && p.after.head? != some '\n')

/-- Whether a line ends at a place.  A carriage return and a line feed behind it end one
line. -/
def endsLine (p : Place) (crlf : Bool) : Bool :=
  match p.after with
  | [] => true
  | c :: _ => (c == '\n' && !(crlf && p.before == some '\r')) || (crlf && c == '\r')

/-- Whether a place fulfils a condition. -/
def satisfies (p : Place) : Anchor → Bool
  | .textStart => p.before.isNone
  | .textEnd => p.after.isEmpty
  | .lineStart crlf => p.startsLine crlf
  | .lineEnd crlf => p.endsLine crlf
  | .word edge unicode => p.atEdge unicode edge

/-- The place behind the next character. -/
def next? (p : Place) : Option (Char × Place) :=
  match p.after with
  | [] => none
  | c :: rest => some (c, ⟨some c, rest⟩)

/-- Places of one text without repetition; the length of the text behind a place tells places
apart. -/
def distinct : List Place → List Place
  | [] => []
  | p :: rest =>
    let others := distinct rest
    if others.any fun q => q.after.length == p.after.length then others else p :: others

end Place

/-- The places after exactly `n` rounds. -/
def exactly (round : Place → List Place) : Nat → List Place → List Place
  | 0, places => places
  | n + 1, places =>
    match places with
    | [] => []
    | _ => exactly round n (Place.distinct (places.flatMap round))

/-- The places after at most `n` rounds.  Every round goes on from the places that are new. -/
def atMost (round : Place → List Place) : Nat → List Place → List Place → List Place
  | 0, seen, _ => seen
  | n + 1, seen, fresh =>
    let reached := Place.distinct (fresh.flatMap round)
    let new := reached.filter fun p => !seen.any fun q => q.after.length == p.after.length
    match new with
    | [] => seen
    | _ => atMost round n (seen ++ new) new

/-- The places where a match that starts at a place can end.  A text of `n` characters has
`n + 1` places, so that more rounds than that reach nothing new. -/
def ends : Pattern → Place → List Place
  | .empty, p => [p]
  | .char s, p =>
    match p.next? with
    | some (c, q) => if s.accepts c then [q] else []
    | none => []
  | .anchor a, p => if p.satisfies a then [p] else []
  | .seq a b, p => Place.distinct ((ends a p).flatMap (ends b))
  | .alt a b, p => Place.distinct (ends a p ++ ends b p)
  | .repetition a least most, p =>
    let start := exactly (ends a) least [p]
    let rounds := p.after.length + 1
    match most with
    | none => atMost (ends a) rounds start start
    | some n => atMost (ends a) (min (n - least) rounds) start start

/-- Whether a pattern matches from a place or a later one on. -/
def matchesFrom (pattern : Pattern) (before : Option Char) : List Char → Bool
  | [] => !(pattern.ends ⟨before, []⟩).isEmpty
  | c :: rest =>
    !(pattern.ends ⟨before, c :: rest⟩).isEmpty || matchesFrom pattern (some c) rest

/-- Whether a pattern matches somewhere in a text. -/
def isMatch (pattern : Pattern) (text : String) : Bool := matchesFrom pattern none text.toList

/-- The sequence of patterns. -/
def sequence : List Pattern → Pattern
  | [] => .empty
  | [p] => p
  | p :: rest => .seq p (sequence rest)

/-- The choice between a pattern and others. -/
def choice (p : Pattern) : List Pattern → Pattern
  | [] => p
  | q :: rest => .alt p (choice q rest)

end Pattern

end DocQuery
