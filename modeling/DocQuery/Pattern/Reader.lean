import DocQuery.Pattern.Lexer
import DocQuery.Pattern.Size
set_option autoImplicit false

/-!
# Pattern: reading a pattern

The tokens of a pattern are put together by a machine with a stack of open groups.  Options hold
up to the end of the group in which they are set, across its alternatives.
-/

namespace DocQuery.Pattern

/-- The options in force. -/
structure Options where
  ignoreCase : Bool
  multiLine : Bool
  dotAll : Bool
  unicode : Bool
  crlf : Bool
  deriving DecidableEq, Repr

namespace Options

/-- The options of a whole pattern. -/
def start (ignoreCase : Bool) : Options := ⟨ignoreCase, false, false, true, false⟩

/-- Options after a change. -/
def change (o : Options) (c : OptionChange) : Options where
  ignoreCase := (c.value? .ignoreCase).getD o.ignoreCase
  multiLine := (c.value? .multiLine).getD o.multiLine
  dotAll := (c.value? .dotAll).getD o.dotAll
  unicode := (c.value? .unicode).getD o.unicode
  crlf := (c.value? .crlf).getD o.crlf

/-- What a description stands for. -/
def spec? (o : Options) (s : CharSpec) : Option CharSpec :=
  if o.unicode then some (if o.ignoreCase then s.ignoringCase else s)
  else s.withoutUnicode? o.ignoreCase

/-- What the point stands for.  Without Unicode it would match parts of characters. -/
def point? (o : Options) : Option CharSpec :=
  if !o.unicode then none
  else if o.dotAll then some .anything
  else if o.crlf then some (.negation (.union (.literal '\n') (.literal '\r')))
  else some (.negation (.literal '\n'))

end Options

/-- An open group: its complete alternatives and the parts of the current one, both last first.
`none` is the place of an option change, which nothing can repeat. -/
structure Group where
  /-- the options in force outside of the group -/
  outside : Options
  alternatives : List Pattern
  parts : List (Option Pattern)

namespace Group

/-- The current alternative. -/
def current (g : Group) : Pattern := sequence (g.parts.reverse.filterMap id)

/-- The pattern of a complete group. -/
def close (g : Group) : Pattern :=
  match (g.current :: g.alternatives).reverse with
  | [] => .empty
  | p :: rest => choice p rest

/-- Adds a part to the current alternative. -/
def add (g : Group) (p : Option Pattern) : Group := { g with parts := p :: g.parts }

end Group

/-- A state of the machine: the options in force, the innermost group and those around it. -/
structure Assembly where
  options : Options
  group : Group
  outer : List Group

namespace Assembly

/-- The start of a pattern. -/
def start (ignoreCase : Bool) : Assembly :=
  let options := Options.start ignoreCase
  ⟨options, ⟨options, [], []⟩, []⟩

/-- Adds a part to the innermost group. -/
def add (a : Assembly) (p : Pattern) : Assembly := { a with group := a.group.add (some p) }

/-- Reads one token. -/
def step (a : Assembly) : Token → Option Assembly
  | .char s => (a.options.spec? s).map fun s => a.add (.char s)
  | .any => a.options.point?.map fun s => a.add (.char s)
  | .caret =>
    some (a.add (.anchor (if a.options.multiLine then
      .lineStart a.options.crlf else .textStart)))
  | .dollar =>
    some (a.add (.anchor (if a.options.multiLine then .lineEnd a.options.crlf else .textEnd)))
  | .anchor x => some (a.add (.anchor x))
  | .edge e => some (a.add (.anchor (.word e a.options.unicode)))
  | .bar =>
    some { a with group := ⟨a.group.outside, a.group.current :: a.group.alternatives, []⟩ }
  | .openGroup _ change =>
    some ⟨a.options.change change, ⟨a.options, [], []⟩, a.group :: a.outer⟩
  | .closeGroup =>
    match a.outer with
    | [] => none
    | g :: outer => some ⟨a.group.outside, g.add (some a.group.close), outer⟩
  | .options change =>
    some { a with options := a.options.change change, group := a.group.add none }
  | .repetition least most =>
    match a.group.parts with
    | some p :: parts =>
      some { a with group :=
        { a.group with parts := some (.repetition p least most) :: parts } }
    | _ => none

/-- Reads tokens one after another. -/
def run : Assembly → List Token → Option Assembly
  | a, [] => some a
  | a, t :: rest =>
    match a.step t with
    | none => none
    | some next => run next rest

/-- The pattern, if all groups are closed. -/
def finish (a : Assembly) : Option Pattern :=
  match a.outer with
  | [] => some a.group.close
  | _ => none

end Assembly

/-- The pattern of a text.  Its groups have different names. -/
def read? (ignoreCase : Bool) (text : String) : Option Pattern :=
  match tokens text.toList.length Layout.start text.toList with
  | none => none
  | some ts =>
    if (ts.filterMap Token.groupName?).Nodup then
      match ((Assembly.start ignoreCase).run ts).bind Assembly.finish with
      | none => none
      | some p => if p.bytes ≤ sizeLimit then some p else none
    else none

end DocQuery.Pattern
