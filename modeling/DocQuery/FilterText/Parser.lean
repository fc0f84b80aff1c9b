import DocQuery.FilterText.Lexer
import DocQuery.Query.Basic
set_option autoImplicit false

/-!
# FilterText: filters

The grammar of filter texts:

    filter  := or
    or      := and ("or" and)*
    and     := unary ("and" unary)*
    unary   := "not" unary | "(" or ")" | name "=" operand
    operand := literal | "-" number | "[" (operand ("," operand)* ","?)? "]"
             | "F" "(" name ")" | "outer" "(" name ")"

A token that cannot be read is an error as soon as the parser comes to it.
-/

namespace DocQuery.FilterText

/-! ## Failures -/

/-- What a parser expects. -/
inductive Expected where
  | junctionOrEnd
  | unary
  | path
  | equals
  | closeParen
  | value
  | number
  | arguments
  | commaOrBracket
  deriving DecidableEq, Repr

/-- What is expected, in words. -/
def Expected.text : Expected → String
  | .junctionOrEnd => "'and', 'or' or end of input"
  | .unary => "a lookup, 'not' or '('"
  | .path => "a lookup path"
  | .equals => "'='"
  | .closeParen => "')'"
  | .value => "a value"
  | .number => "a number after '-'"
  | .arguments => "'(' after a function name"
  | .commaOrBracket => "',' or ']'"

/-- Why a text is no filter. -/
inductive ParseError where
  | lexical (e : LexError)
  /-- a token, or the end of the text, where something else is expected -/
  | unexpected (expected : Expected) (found : Option Token) (position : Position)
  | unknownFunction (name : String) (position : Position)

/-- The text of a failure. -/
def ParseError.message : ParseError → String
  | .lexical e => e.message
  | .unexpected expected found position =>
    "expected " ++ expected.text ++ " at " ++ position.text ++ ", got "
      ++ (match found with | some t => t.shown | none => "Eof")
  | .unknownFunction name position =>
    "unknown function '" ++ name ++ "' at " ++ position.text ++ "; expected F or outer"

/-! ## Parsers -/

/-- Tokens that are left over from others. -/
abbrev Shorter (ts : List Located) := { rest : List Located // rest.length < ts.length }

/-- Tokens that are left over, possibly all of them. -/
abbrev NotLonger (ts : List Located) := { rest : List Located // rest.length ≤ ts.length }

/-- The error of tokens that do not go on as expected. -/
def unexpected (ending : Ending) (expected : Expected) : List Located → ParseError
  | t :: _ => .unexpected expected (some t.token) t.position
  | [] =>
    match ending with
    | .done position => .unexpected expected none position
    | .failed e => .lexical e

/-- The error behind the last token, if reading failed there. -/
def lexicalError? (ending : Ending) : List Located → Option LexError
  | _ :: _ => none
  | [] =>
    match ending with
    | .done _ => none
    | .failed e => some e

/-- The reference to a path that a function makes. -/
def reference? (function path : String) : Option Expr :=
  if function = "F" then some (.field path)
  else if function = "outer" then some (.outer path)
  else none

/-- The arguments of a function. -/
def parseReference (ending : Ending) (function : Located) (name : String) (ts : List Located) :
    Except ParseError (Expr × NotLonger ts) :=
  match ts with
  | ⟨.openParen, _⟩ :: rest =>
    match rest with
    | ⟨.name path, _⟩ :: rest =>
      match rest with
      | ⟨.closeParen, _⟩ :: rest =>
        match lexicalError? ending rest with
        | some e => .error (.lexical e)
        | none =>
          match reference? name path with
          | some e => .ok (e, ⟨rest, by simp only [List.length_cons]; omega⟩)
          | none => .error (.unknownFunction name function.position)
      | rest => .error (unexpected ending .closeParen rest)
    | rest => .error (unexpected ending .path rest)
  | rest => .error (unexpected ending .arguments rest)

/-- The values of expressions that are all literals. -/
def literals? : List Expr → Option (List Value)
  | [] => some []
  | .literal v :: rest => (literals? rest).map (v :: ·)
  | _ :: _ => none

/-- A list: of literals it is a literal array. -/
def listOf (items : List Expr) : Expr :=
  match literals? items with
  | some vs => .literal (.array vs)
  | none => .list items

mutual

/-- The value behind an equals sign, or an item of a list. -/
def parseOperand (ending : Ending) (ts : List Located) :
    Except ParseError (Expr × Shorter ts) :=
  match ts with
  | [] => .error (unexpected ending .value [])
  | t :: rest =>
    match t.token with
    | .integer n => .ok (.literal (.int n), ⟨rest, by simp⟩)
    | .float x => .ok (.literal (.float x), ⟨rest, by simp⟩)
    | .string s => .ok (.literal (.string s), ⟨rest, by simp⟩)
    | .boolean b => .ok (.literal (.bool b), ⟨rest, by simp⟩)
    | .null => .ok (.literal .null, ⟨rest, by simp⟩)
    | .minus =>
      match rest with
      | ⟨.integer n, _⟩ :: rest =>
        .ok (.literal (.int (-n)), ⟨rest, by simp only [List.length_cons]; omega⟩)
      | ⟨.float x, _⟩ :: rest =>
        .ok (.literal (.float (-x)), ⟨rest, by simp only [List.length_cons]; omega⟩)
      | rest => .error (unexpected ending .number rest)
    | .openBracket =>
      match parseItems ending rest with
      | .error e => .error e
      | .ok (items, ⟨rest', h⟩) =>
        .ok (listOf items, ⟨rest', by simp only [List.length_cons]; omega⟩)
    | .name function =>
      match parseReference ending t function rest with
      | .error e => .error e
      | .ok (e, ⟨rest', h⟩) => .ok (e, ⟨rest', by simp only [List.length_cons]; omega⟩)
    | _ => .error (unexpected ending .value (t :: rest))
termination_by (ts.length, 0)

/-- The items of a list and its closing bracket. -/
def parseItems (ending : Ending) (ts : List Located) :
    Except ParseError (List Expr × Shorter ts) :=
  match ts with
  | ⟨.closeBracket, _⟩ :: rest => .ok ([], ⟨rest, by simp⟩)
  | ts =>
    match parseOperand ending ts with
    | .error e => .error e
    | .ok (item, ⟨rest, h⟩) =>
      match rest with
      | ⟨.closeBracket, _⟩ :: rest =>
        .ok ([item], ⟨rest, by simp only [List.length_cons] at h; omega⟩)
      | ⟨.comma, _⟩ :: rest =>
        have hrest : rest.length < ts.length := by simp only [List.length_cons] at h; omega
        match parseItems ending rest with
        | .error e => .error e
        | .ok (items, ⟨rest', h'⟩) => .ok (item :: items, ⟨rest', by omega⟩)
      | rest => .error (unexpected ending .commaOrBracket rest)
termination_by (ts.length, 1)

end

/-- A conjunction; of one filter it is that filter. -/
def conjunction (first : Filter) : List Filter → Filter
  | [] => first
  | rest => .and (first :: rest)

/-- A disjunction; of one filter it is that filter. -/
def disjunction (first : Filter) : List Filter → Filter
  | [] => first
  | rest => .or (first :: rest)

/-- A lookup behind its path. -/
def parseLookup (ending : Ending) (path : String) (ts : List Located) :
    Except ParseError (Filter × NotLonger ts) :=
  match ts with
  | ⟨.equals, _⟩ :: rest =>
    match parseOperand ending rest with
    | .error e => .error e
    | .ok (value, ⟨rest', h⟩) =>
      .ok (.lookup path value, ⟨rest', by simp only [List.length_cons]; omega⟩)
  | rest => .error (unexpected ending .equals rest)

mutual

/-- A negation, a filter in parentheses or a lookup. -/
def parseUnary (ending : Ending) (ts : List Located) :
    Except ParseError (Filter × Shorter ts) :=
  match ts with
  | [] => .error (unexpected ending .unary [])
  | t :: rest =>
    match t.token with
    | .not =>
      match parseUnary ending rest with
      | .error e => .error e
      | .ok (f, ⟨rest', h⟩) => .ok (.not f, ⟨rest', by simp only [List.length_cons]; omega⟩)
    | .openParen =>
      match parseOr ending rest with
      | .error e => .error e
      | .ok (f, ⟨rest', h⟩) =>
        match rest' with
        | ⟨.closeParen, _⟩ :: rest'' =>
          .ok (f, ⟨rest'', by simp only [List.length_cons] at *; omega⟩)
        | rest' => .error (unexpected ending .closeParen rest')
    | .name path =>
      match parseLookup ending path rest with
      | .error e => .error e
      | .ok (f, ⟨rest', h⟩) => .ok (f, ⟨rest', by simp only [List.length_cons]; omega⟩)
    | _ => .error (unexpected ending .unary (t :: rest))
termination_by (ts.length, 0)

/-- A chain of filters with `and` between them. -/
def parseAnd (ending : Ending) (ts : List Located) :
    Except ParseError (Filter × Shorter ts) :=
  match parseUnary ending ts with
  | .error e => .error e
  | .ok (first, ⟨rest, h⟩) =>
    match parseAndRest ending rest with
    | .error e => .error e
    | .ok (others, ⟨rest', h'⟩) => .ok (conjunction first others, ⟨rest', by omega⟩)
termination_by (ts.length, 1)

/-- The filters behind each further `and`. -/
def parseAndRest (ending : Ending) (ts : List Located) :
    Except ParseError (List Filter × NotLonger ts) :=
  match ts with
  | ⟨.and, _⟩ :: rest =>
    match parseUnary ending rest with
    | .error e => .error e
    | .ok (f, ⟨rest', h⟩) =>
      match parseAndRest ending rest' with
      | .error e => .error e
      | .ok (others, ⟨rest'', h'⟩) =>
        .ok (f :: others, ⟨rest'', by simp only [List.length_cons]; omega⟩)
  | ts => .ok ([], ⟨ts, Nat.le_refl _⟩)
termination_by (ts.length, 0)

/-- A chain of filters with `or` between them. -/
def parseOr (ending : Ending) (ts : List Located) :
    Except ParseError (Filter × Shorter ts) :=
  match parseAnd ending ts with
  | .error e => .error e
  | .ok (first, ⟨rest, h⟩) =>
    match parseOrRest ending rest with
    | .error e => .error e
    | .ok (others, ⟨rest', h'⟩) => .ok (disjunction first others, ⟨rest', by omega⟩)
termination_by (ts.length, 2)

/-- The filters behind each further `or`. -/
def parseOrRest (ending : Ending) (ts : List Located) :
    Except ParseError (List Filter × NotLonger ts) :=
  match ts with
  | ⟨.or, _⟩ :: rest =>
    match parseAnd ending rest with
    | .error e => .error e
    | .ok (f, ⟨rest', h⟩) =>
      match parseOrRest ending rest' with
      | .error e => .error e
      | .ok (others, ⟨rest'', h'⟩) =>
        .ok (f :: others, ⟨rest'', by simp only [List.length_cons]; omega⟩)
  | ts => .ok ([], ⟨ts, Nat.le_refl _⟩)
termination_by (ts.length, 0)

end

/-- The filter of tokens, all of which have to belong to it. -/
def parseTokens (ending : Ending) (ts : List Located) : Except ParseError Filter :=
  match parseOr ending ts with
  | .error e => .error e
  | .ok (f, ⟨rest, _⟩) =>
    match rest, ending with
    | [], .done _ => .ok f
    | _, _ => .error (unexpected ending .junctionOrEnd rest)

/-- The filter that a text stands for. -/
def parse (text : String) : Except ParseError Filter :=
  let (ts, ending) := (Cursor.ofText text).tokens
  parseTokens ending ts

end DocQuery.FilterText
