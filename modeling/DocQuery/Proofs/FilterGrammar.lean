import DocQuery.FilterText.Parser
set_option autoImplicit false

/-!
# Proofs: the grammar of filter texts

A filter text stands for a filter if its tokens derive it in the grammar.  A derivation is a
tree with one kind of node for each rule:

    or      := and ("or" and)*
    and     := unary ("and" unary)*
    unary   := "not" unary | "(" or ")" | name "=" operand
    operand := literal | "-" number | list | ("F" | "outer") "(" name ")"
    list    := "[" "]" | "[" operand ("," operand)* ","? "]"

The parser accepts the tokens of the trees and nothing else, and gives the filter that the tree
stands for.  No two trees have the same tokens.
-/

namespace DocQuery.FilterText

/-! ## Derivations of operands -/

/-- A literal that is a token by itself. -/
inductive Literal where
  | integer (n : Int64)
  | float (x : Float)
  | string (s : String)
  | boolean (b : Bool)
  | null

/-- A number behind a minus sign. -/
inductive Numeral where
  | integer (n : Int64)
  | float (x : Float)

/-- A function that refers to a path. -/
inductive PathFunction where
  /-- of the documents that are filtered -/
  | field
  /-- of the document of the enclosing query -/
  | outer

/-- A derivation of an operand. -/
inductive OperandTree where
  | literal (l : Literal)
  | negative (n : Numeral)
  | emptyList
  /-- a list with at least one item, and perhaps a comma behind the last one -/
  | list (first : OperandTree) (others : List OperandTree) (comma : Bool)
  | reference (f : PathFunction) (path : String)

/-- The token of a literal. -/
def Literal.token : Literal → Token
  | .integer n => .integer n
  | .float x => .float x
  | .string s => .string s
  | .boolean b => .boolean b
  | .null => .null

/-- The value of a literal. -/
def Literal.value : Literal → Value
  | .integer n => .int n
  | .float x => .float x
  | .string s => .string s
  | .boolean b => .bool b
  | .null => .null

/-- The token of a number. -/
def Numeral.token : Numeral → Token
  | .integer n => .integer n
  | .float x => .float x

/-- The value of a number behind a minus sign. -/
def Numeral.opposite : Numeral → Value
  | .integer n => .int (-n)
  | .float x => .float (-x)

/-- The name of a function. -/
def PathFunction.name : PathFunction → String
  | .field => "F"
  | .outer => "outer"

/-- The reference to a path that a function makes. -/
def PathFunction.reference : PathFunction → String → Expr
  | .field, path => .field path
  | .outer, path => .outer path

namespace OperandTree

/-- The comma behind the last item of a list, if there is one. -/
def trailing (comma : Bool) : List Token := if comma then [.comma] else []

mutual

/-- The tokens of an operand. -/
def tokens : OperandTree → List Token
  | .literal l => [l.token]
  | .negative n => [.minus, n.token]
  | .emptyList => [.openBracket, .closeBracket]
  | .list first others comma =>
    .openBracket :: (tokens first ++ (othersTokens others ++ (trailing comma ++
      [.closeBracket])))
  | .reference f path => [.name f.name, .openParen, .name path, .closeParen]

/-- The tokens of the items behind the first one, each behind a comma. -/
def othersTokens : List OperandTree → List Token
  | [] => []
  | t :: rest => .comma :: (tokens t ++ othersTokens rest)

end

mutual

/-- The value of an operand without references. -/
def constant? : OperandTree → Option Value
  | .literal l => some l.value
  | .negative n => some n.opposite
  | .emptyList => some (.array [])
  | .list first others _ =>
    match constant? first, constants? others with
    | some v, some vs => some (.array (v :: vs))
    | _, _ => none
  | .reference _ _ => none

/-- The values of operands without references. -/
def constants? : List OperandTree → Option (List Value)
  | [] => some []
  | t :: rest =>
    match constant? t, constants? rest with
    | some v, some vs => some (v :: vs)
    | _, _ => none

end

mutual

/-- What an operand stands for: a list without references is one value, any other list a list of
expressions. -/
def expr : OperandTree → Expr
  | .literal l => .literal l.value
  | .negative n => .literal n.opposite
  | .emptyList => .literal (.array [])
  | .list first others comma =>
    match constant? (.list first others comma) with
    | some v => .literal v
    | none => .list (expr first :: exprs others)
  | .reference f path => f.reference path

/-- What operands stand for. -/
def exprs : List OperandTree → List Expr
  | [] => []
  | t :: rest => expr t :: exprs rest

end

end OperandTree

/-! ## Derivations of filters -/

mutual

/-- A derivation of a negation, a filter in parentheses or a lookup. -/
inductive UnaryTree where
  | not (u : UnaryTree)
  | parenthesized (o : OrTree)
  | lookup (path : String) (operand : OperandTree)

/-- A derivation of a chain of filters with `and` between them. -/
inductive AndTree where
  | chain (first : UnaryTree) (others : List UnaryTree)

/-- A derivation of a chain of filters with `or` between them. -/
inductive OrTree where
  | chain (first : AndTree) (others : List AndTree)

end

mutual

/-- The tokens of a negation, a filter in parentheses or a lookup. -/
def UnaryTree.tokens : UnaryTree → List Token
  | .not u => .not :: u.tokens
  | .parenthesized o => .openParen :: (o.tokens ++ [.closeParen])
  | .lookup path operand => .name path :: .equals :: operand.tokens

/-- The tokens of a chain with `and`. -/
def AndTree.tokens : AndTree → List Token
  | .chain first others => first.tokens ++ AndTree.othersTokens others

/-- The tokens of the filters behind the first one, each behind `and`. -/
def AndTree.othersTokens : List UnaryTree → List Token
  | [] => []
  | u :: rest => .and :: (u.tokens ++ AndTree.othersTokens rest)

/-- The tokens of a chain with `or`. -/
def OrTree.tokens : OrTree → List Token
  | .chain first others => first.tokens ++ OrTree.othersTokens others

/-- The tokens of the chains behind the first one, each behind `or`. -/
def OrTree.othersTokens : List AndTree → List Token
  | [] => []
  | t :: rest => .or :: (t.tokens ++ OrTree.othersTokens rest)

end

/-- A chain of filters: of one member it is that member. -/
def chained (make : List Filter → Filter) : List Filter → Filter
  | [f] => f
  | filters => make filters

mutual

/-- The filter that a negation, a filter in parentheses or a lookup stands for. -/
def UnaryTree.filter : UnaryTree → Filter
  | .not u => .not u.filter
  | .parenthesized o => o.filter
  | .lookup path operand => .lookup path operand.expr

/-- The filter that a chain with `and` stands for. -/
def AndTree.filter : AndTree → Filter
  | .chain first others => chained .and (first.filter :: AndTree.filters others)

/-- The filters behind the first one of a chain with `and`. -/
def AndTree.filters : List UnaryTree → List Filter
  | [] => []
  | u :: rest => u.filter :: AndTree.filters rest

/-- The filter that a chain with `or` stands for. -/
def OrTree.filter : OrTree → Filter
  | .chain first others => chained .or (first.filter :: OrTree.filters others)

/-- The filters behind the first one of a chain with `or`. -/
def OrTree.filters : List AndTree → List Filter
  | [] => []
  | t :: rest => t.filter :: OrTree.filters rest

end

/-- The tokens of a text, up to its end. -/
def Lexes (text : String) (tokens : List Token) : Prop :=
  ∃ located position, (Cursor.ofText text).tokens = (located, .done position) ∧
    located.map (·.token) = tokens

/-! ## Parts that the parser puts together -/

theorem conjunction_eq (first : Filter) (others : List Filter) :
    conjunction first others = chained .and (first :: others) := by
  cases others <;> rfl

theorem disjunction_eq (first : Filter) (others : List Filter) :
    disjunction first others = chained .or (first :: others) := by
  cases others <;> rfl

theorem reference?_eq_some {name path : String} {e : Expr} :
    reference? name path = some e ↔ ∃ f : PathFunction, f.name = name ∧
        f.reference path = e := by
  unfold reference?
  constructor
  · intro h
    split at h
    · rename_i hname
      exact ⟨.field, hname.symm, Option.some.inj h⟩
    · split at h
      · rename_i hname
        exact ⟨.outer, hname.symm, Option.some.inj h⟩
      · simp at h
  · rintro ⟨f, rfl, rfl⟩
    cases f <;> rfl

namespace OperandTree

/-- An operand without references stands for its value, one with references for no value. -/
theorem expr_eq_literal_iff (t : OperandTree) (v : Value) :
    t.expr = .literal v ↔ t.constant? = some v := by
  match t with
  | .literal l => simp [expr, constant?]
  | .negative n => simp [expr, constant?]
  | .emptyList => simp [expr, constant?]
  | .list first others comma =>
    rw [expr]
    cases constant? (.list first others comma) <;> simp
  | .reference f path => cases f <;> simp [expr, constant?, PathFunction.reference]

theorem literals?_exprs (ts : List OperandTree) : literals? (exprs ts) = constants? ts := by
  induction ts with
  | nil => rfl
  | cons t rest ih =>
    rw [exprs, constants?]
    cases hconstant : constant? t with
    | some v =>
      rw [(expr_eq_literal_iff t v).mpr hconstant, literals?, ih]
      cases constants? rest <;> rfl
    | none =>
      have hno : ∀ v, expr t ≠ .literal v := fun v hv => by
        rw [(expr_eq_literal_iff t v).mp hv] at hconstant
        simp at hconstant
      unfold literals?
      split <;> simp_all

theorem listOf_exprs (first : OperandTree) (others : List OperandTree) (comma : Bool) :
    listOf (first.expr :: exprs others) = (list first others comma).expr := by
  have hall := literals?_exprs (first :: others)
  rw [exprs, constants?] at hall
  rw [listOf, expr, constant?, hall]
  cases constant? first <;> cases constants? others <;> rfl

end OperandTree

/-! ## What the parser accepts has a derivation -/

variable {ending : Ending} {ts : List Located}

theorem parseReference_sound {function : Located} {name : String} {e : Expr}
    {rest : NotLonger ts} (h : parseReference ending function name ts = .ok (e, rest)) :
    ∃ f path, PathFunction.name f = name ∧ f.reference path = e ∧
      ts.map (·.token) = .openParen :: .name path :: .closeParen :: rest.val.map (·.token) := by
  unfold parseReference at h
  split at h
  · split at h
    · split at h
      · split at h
        · simp at h
        · split at h
          · rename_i path _ _ _ _ _ _ _ e' hreference
            obtain ⟨rfl, rfl⟩ := Prod.mk.inj (Except.ok.inj h)
            obtain ⟨f, hname, hpath⟩ := reference?_eq_some.mp hreference
            exact ⟨f, path, hname, hpath, rfl⟩
          · simp at h
      · simp at h
    · simp at h
  · simp at h

theorem literal_sound (l : Literal) {position : Position} {behind : List Located}
    {hshorter : behind.length < (⟨l.token, position⟩ :: behind : List Located).length}
    {e : Expr} {rest : Shorter (⟨l.token, position⟩ :: behind)}
    (h : (.ok (.literal l.value, ⟨behind, hshorter⟩) : Except ParseError (Expr × Shorter _)) =
      .ok (e, rest)) :
    ∃ t : OperandTree, t.expr = e ∧
      l.token :: behind.map (·.token) = t.tokens ++ rest.val.map (·.token) := by
  obtain ⟨rfl, rfl⟩ := Prod.mk.inj (Except.ok.inj h)
  exact ⟨.literal l, rfl, rfl⟩

theorem negative_sound (n : Numeral) {position place : Position} {behind : List Located}
    {hshorter : behind.length <
      (⟨.minus, position⟩ :: ⟨n.token, place⟩ :: behind : List Located).length}
    {e : Expr} {rest : Shorter (⟨.minus, position⟩ :: ⟨n.token, place⟩ :: behind)}
    (h : (.ok (.literal n.opposite, ⟨behind, hshorter⟩) :
      Except ParseError (Expr × Shorter _)) = .ok (e, rest)) :
    ∃ t : OperandTree, t.expr = e ∧
      .minus :: n.token :: behind.map (·.token) = t.tokens ++ rest.val.map (·.token) := by
  obtain ⟨rfl, rfl⟩ := Prod.mk.inj (Except.ok.inj h)
  exact ⟨.negative n, rfl, rfl⟩

mutual

/-- The tokens of an operand that is accepted derive it. -/
theorem parseOperand_sound (ts : List Located) {e : Expr} {rest : Shorter ts}
    (h : parseOperand ending ts = .ok (e, rest)) :
    ∃ t : OperandTree, t.expr = e ∧ ts.map (·.token) = t.tokens ++ rest.val.map (·.token) := by
  unfold parseOperand at h
  split at h
  · simp at h
  · rename_i token behind
    obtain ⟨token, position⟩ := token
    split at h
    case h_1 n htoken =>
      obtain rfl : token = .integer n := htoken
      exact literal_sound (.integer n) h
    case h_2 x htoken =>
      obtain rfl : token = .float x := htoken
      exact literal_sound (.float x) h
    case h_3 s htoken =>
      obtain rfl : token = .string s := htoken
      exact literal_sound (.string s) h
    case h_4 b htoken =>
      obtain rfl : token = .boolean b := htoken
      exact literal_sound (.boolean b) h
    case h_5 htoken =>
      obtain rfl : token = .null := htoken
      exact literal_sound .null h
    case h_6 htoken =>
      obtain rfl : token = .minus := htoken
      split at h
      · exact negative_sound (.integer _) h
      · exact negative_sound (.float _) h
      · simp at h
    case h_7 htoken =>
      obtain rfl : token = .openBracket := htoken
      split at h
      · simp at h
      · rename_i items behind' hshorter hitems
        obtain ⟨rfl, rfl⟩ := Prod.mk.inj (Except.ok.inj h)
        rcases parseItems_sound behind hitems with ⟨rfl, hclose⟩ | ⟨first, others,
          comma, rfl, htokens⟩
        · exact ⟨.emptyList, rfl, by simp [OperandTree.tokens, hclose]⟩
        · exact ⟨.list first others comma, (OperandTree.listOf_exprs first others comma).symm,
            by simp [OperandTree.tokens, htokens]⟩
    case h_8 name htoken =>
      obtain rfl : token = .name name := htoken
      split at h
      · simp at h
      · rename_i e' behind' hshorter hreference
        obtain ⟨rfl, rfl⟩ := Prod.mk.inj (Except.ok.inj h)
        obtain ⟨f, path, rfl, rfl, htokens⟩ := parseReference_sound hreference
        exact ⟨.reference f path, by rw [OperandTree.expr], by
          simp [OperandTree.tokens, htokens]⟩
    case h_9 => simp at h
termination_by (ts.length, 0)

/-- The tokens of the items of a list that are accepted derive them, up to the closing
bracket. -/
theorem parseItems_sound (ts : List Located) {items : List Expr} {rest : Shorter ts}
    (h : parseItems ending ts = .ok (items, rest)) :
    (items = [] ∧ ts.map (·.token) = .closeBracket :: rest.val.map (·.token)) ∨
      ∃ first others comma, items = OperandTree.expr first :: OperandTree.exprs others ∧
        ts.map (·.token) = first.tokens ++ (OperandTree.othersTokens others ++
          (OperandTree.trailing comma ++ .closeBracket :: rest.val.map (·.token))) := by
  unfold parseItems at h
  split at h
  · obtain ⟨rfl, rfl⟩ := Prod.mk.inj (Except.ok.inj h)
    exact .inl ⟨rfl, rfl⟩
  · split at h
    · simp at h
    · rename_i item behind hshorter hitem
      obtain ⟨t, rfl, htokens⟩ := parseOperand_sound _ hitem
      split at h
      · obtain ⟨rfl, rfl⟩ := Prod.mk.inj (Except.ok.inj h)
        exact .inr ⟨t, [], false, rfl, htokens⟩
      · rename_i behind hbehind
        have hless : behind.length < ts.length := Nat.lt_of_succ_lt hbehind
        simp only at h
        split at h
        · simp at h
        · rename_i others behind' hshorter' hothers
          obtain ⟨rfl, rfl⟩ := Prod.mk.inj (Except.ok.inj h)
          rcases parseItems_sound _ hothers with ⟨rfl, hclose⟩ | ⟨first, more,
            comma, rfl, hmore⟩
          · exact .inr ⟨t, [], true,
              rfl, by simp [htokens, hclose, OperandTree.othersTokens, OperandTree.trailing]⟩
          · exact .inr ⟨t, first :: more, comma,
              rfl, by simp [htokens, hmore, OperandTree.othersTokens]⟩
      · simp at h
termination_by (ts.length, 1)

end

theorem parseLookup_sound {path : String} {f : Filter} {rest : NotLonger ts}
    (h : parseLookup ending path ts = .ok (f, rest)) :
    ∃ t : OperandTree, .lookup path t.expr = f ∧
        ts.map (·.token) = .equals :: (t.tokens ++ rest.val.map (·.token)) := by
  unfold parseLookup at h
  split at h
  · split at h
    · simp at h
    · rename_i value behind hshorter hvalue
      obtain ⟨rfl, rfl⟩ := Prod.mk.inj (Except.ok.inj h)
      obtain ⟨t, rfl, htokens⟩ := parseOperand_sound _ hvalue
      exact ⟨t, rfl, by simp [htokens]⟩
  · simp at h

mutual

/-- The tokens of a negation, a filter in parentheses or a lookup that is accepted derive it. -/
theorem parseUnary_sound (ts : List Located) {f : Filter} {rest : Shorter ts}
    (h : parseUnary ending ts = .ok (f, rest)) :
    ∃ u : UnaryTree, u.filter = f ∧ ts.map (·.token) = u.tokens ++ rest.val.map (·.token) := by
  unfold parseUnary at h
  split at h
  · simp at h
  · rename_i token behind
    obtain ⟨token, position⟩ := token
    split at h
    case h_1 htoken =>
      obtain rfl : token = .not := htoken
      split at h
      · simp at h
      · rename_i f' behind' hshorter hnegated
        obtain ⟨rfl, rfl⟩ := Prod.mk.inj (Except.ok.inj h)
        obtain ⟨u, rfl, htokens⟩ := parseUnary_sound behind hnegated
        exact ⟨.not u, by rw [UnaryTree.filter], by simp [UnaryTree.tokens, htokens]⟩
    case h_2 htoken =>
      obtain rfl : token = .openParen := htoken
      split at h
      · simp at h
      · rename_i f' behind' hshorter hinside
        obtain ⟨o, rfl, htokens⟩ := parseOr_sound behind hinside
        split at h
        · obtain ⟨rfl, rfl⟩ := Prod.mk.inj (Except.ok.inj h)
          exact ⟨.parenthesized
            o, by rw [UnaryTree.filter], by simp [UnaryTree.tokens, htokens]⟩
        · simp at h
    case h_3 path htoken =>
      obtain rfl : token = .name path := htoken
      split at h
      · simp at h
      · rename_i f' behind' hshorter hlookup
        obtain ⟨rfl, rfl⟩ := Prod.mk.inj (Except.ok.inj h)
        obtain ⟨t, rfl, htokens⟩ := parseLookup_sound hlookup
        exact ⟨.lookup path t, by rw [UnaryTree.filter], by simp [UnaryTree.tokens, htokens]⟩
    case h_4 => simp at h
termination_by (ts.length, 0)

/-- The tokens of a chain with `and` that is accepted derive it. -/
theorem parseAnd_sound (ts : List Located) {f : Filter} {rest : Shorter ts}
    (h : parseAnd ending ts = .ok (f, rest)) :
    ∃ t : AndTree, t.filter = f ∧ ts.map (·.token) = t.tokens ++ rest.val.map (·.token) := by
  unfold parseAnd at h
  split at h
  · simp at h
  · rename_i first behind hshorter hfirst
    split at h
    · simp at h
    · rename_i others behind' hshorter' hothers
      obtain ⟨rfl, rfl⟩ := Prod.mk.inj (Except.ok.inj h)
      obtain ⟨u, rfl, htokens⟩ := parseUnary_sound ts hfirst
      obtain ⟨us, rfl, hmore⟩ := parseAndRest_sound behind hothers
      refine ⟨.chain u us, ?_, ?_⟩
      · rw [AndTree.filter, conjunction_eq]
      · simp [AndTree.tokens, htokens, hmore]
termination_by (ts.length, 1)

/-- The tokens of the filters behind each further `and` that are accepted derive them. -/
theorem parseAndRest_sound (ts : List Located) {fs : List Filter} {rest : NotLonger ts}
    (h : parseAndRest ending ts = .ok (fs, rest)) :
    ∃ us : List UnaryTree, AndTree.filters us = fs ∧
      ts.map (·.token) = AndTree.othersTokens us ++ rest.val.map (·.token) := by
  unfold parseAndRest at h
  split at h
  · split at h
    · simp at h
    · rename_i f behind hshorter hfirst
      split at h
      · simp at h
      · rename_i others behind' hshorter' hothers
        obtain ⟨rfl, rfl⟩ := Prod.mk.inj (Except.ok.inj h)
        obtain ⟨u, rfl, htokens⟩ := parseUnary_sound _ hfirst
        obtain ⟨us, rfl, hmore⟩ := parseAndRest_sound behind hothers
        exact ⟨u :: us, by rw [AndTree.filters], by simp [AndTree.othersTokens, htokens, hmore]⟩
  · obtain ⟨rfl, rfl⟩ := Prod.mk.inj (Except.ok.inj h)
    exact ⟨[], rfl, rfl⟩
termination_by (ts.length, 0)
decreasing_by all_goals subst_vars; simp only [Prod.lex_def, List.length_cons]; omega

/-- The tokens of a chain with `or` that is accepted derive it. -/
theorem parseOr_sound (ts : List Located) {f : Filter} {rest : Shorter ts}
    (h : parseOr ending ts = .ok (f, rest)) :
    ∃ o : OrTree, o.filter = f ∧ ts.map (·.token) = o.tokens ++ rest.val.map (·.token) := by
  unfold parseOr at h
  split at h
  · simp at h
  · rename_i first behind hshorter hfirst
    split at h
    · simp at h
    · rename_i others behind' hshorter' hothers
      obtain ⟨rfl, rfl⟩ := Prod.mk.inj (Except.ok.inj h)
      obtain ⟨t, rfl, htokens⟩ := parseAnd_sound ts hfirst
      obtain ⟨ts', rfl, hmore⟩ := parseOrRest_sound behind hothers
      refine ⟨.chain t ts', ?_, ?_⟩
      · rw [OrTree.filter, disjunction_eq]
      · simp [OrTree.tokens, htokens, hmore]
termination_by (ts.length, 2)

/-- The tokens of the chains behind each further `or` that are accepted derive them. -/
theorem parseOrRest_sound (ts : List Located) {fs : List Filter} {rest : NotLonger ts}
    (h : parseOrRest ending ts = .ok (fs, rest)) :
    ∃ os : List AndTree, OrTree.filters os = fs ∧
      ts.map (·.token) = OrTree.othersTokens os ++ rest.val.map (·.token) := by
  unfold parseOrRest at h
  split at h
  · split at h
    · simp at h
    · rename_i f behind hshorter hfirst
      split at h
      · simp at h
      · rename_i others behind' hshorter' hothers
        obtain ⟨rfl, rfl⟩ := Prod.mk.inj (Except.ok.inj h)
        obtain ⟨t, rfl, htokens⟩ := parseAnd_sound _ hfirst
        obtain ⟨os, rfl, hmore⟩ := parseOrRest_sound behind hothers
        exact ⟨t :: os, by rw [OrTree.filters], by simp [OrTree.othersTokens, htokens, hmore]⟩
  · obtain ⟨rfl, rfl⟩ := Prod.mk.inj (Except.ok.inj h)
    exact ⟨[], rfl, rfl⟩
termination_by (ts.length, 0)
decreasing_by all_goals subst_vars; simp only [Prod.lex_def, List.length_cons]; omega

end

/-! ## What has a derivation is accepted -/

variable {p : Position} {more : List Token}

theorem Located.map_token_eq_cons {ts : List Located} {token : Token} {tokens : List Token}
    (h : ts.map (·.token) = token :: tokens) :
    ∃ position behind, ts = ⟨token, position⟩ :: behind ∧ behind.map (·.token) = tokens := by
  obtain ⟨⟨token, position⟩, behind, rfl, rfl, hbehind⟩ := List.map_eq_cons_iff.mp h
  exact ⟨position, behind, rfl, hbehind⟩

/-- No operand begins with a closing bracket. -/
theorem OperandTree.tokens_eq_cons (t : OperandTree) :
    ∃ token behind, t.tokens = token :: behind ∧ token ≠ .closeBracket := by
  match t with
  | .literal l => cases l <;> exact ⟨_, _, rfl, by simp [Literal.token]⟩
  | .negative n => exact ⟨_, _, rfl, by simp⟩
  | .emptyList => exact ⟨_, _, rfl, by simp⟩
  | .list first others comma => exact ⟨_, _, by rw [OperandTree.tokens], by simp⟩
  | .reference f path => exact ⟨_, _, rfl, by simp⟩

theorem parseReference_complete (function : Located) (f : PathFunction) {path : String}
    (h : ts.map (·.token) = .openParen :: .name path :: .closeParen :: more) :
    ∃ rest : NotLonger ts, parseReference (.done p) function f.name ts =
      .ok (f.reference path, rest) ∧ rest.val.map (·.token) = more := by
  obtain ⟨_, _, rfl, hpath⟩ := Located.map_token_eq_cons h
  obtain ⟨_, _, rfl, hclose⟩ := Located.map_token_eq_cons hpath
  obtain ⟨_, behind, rfl, hbehind⟩ := Located.map_token_eq_cons hclose
  have hreference : reference? f.name path = some (f.reference path) :=
    reference?_eq_some.mpr ⟨f, rfl, rfl⟩
  refine ⟨⟨behind, by simp only [List.length_cons]; omega⟩, ?_, hbehind⟩
  cases behind <;> simp [parseReference, lexicalError?, hreference]

mutual

/-- The tokens of an operand are accepted, whatever follows them. -/
theorem parseOperand_complete (t : OperandTree) {ts : List Located} {more : List Token}
    (h : ts.map (·.token) = t.tokens ++ more) :
    ∃ rest : Shorter ts, parseOperand (.done p) ts = .ok (t.expr, rest) ∧
        rest.val.map (·.token) = more := by
  match t with
  | .literal l =>
    obtain ⟨_, behind, rfl, hbehind⟩ := Located.map_token_eq_cons h
    refine ⟨⟨behind, by simp⟩, ?_, hbehind⟩
    unfold parseOperand
    cases l <;> rfl
  | .negative n =>
    obtain ⟨_, _, rfl, hnumber⟩ := Located.map_token_eq_cons h
    obtain ⟨_, behind, rfl, hbehind⟩ := Located.map_token_eq_cons hnumber
    refine ⟨⟨behind, by simp only [List.length_cons]; omega⟩, ?_, hbehind⟩
    unfold parseOperand
    cases n <;> rfl
  | .emptyList =>
    obtain ⟨_, _, rfl, hclose⟩ := Located.map_token_eq_cons h
    obtain ⟨_, behind, rfl, hbehind⟩ := Located.map_token_eq_cons hclose
    refine ⟨⟨behind, by simp only [List.length_cons]; omega⟩, ?_, hbehind⟩
    unfold parseOperand parseItems
    rfl
  | .list first others comma =>
    rw [OperandTree.tokens, List.cons_append] at h
    obtain ⟨_, inside, rfl, hinside⟩ := Located.map_token_eq_cons h
    simp only [List.append_assoc, List.cons_append, List.nil_append] at hinside
    obtain ⟨⟨behind, hshorter⟩, hitems, hbehind⟩ :=
      parseItems_complete first others comma hinside
    refine ⟨⟨behind, Nat.lt_succ_of_lt hshorter⟩, ?_, hbehind⟩
    unfold parseOperand
    simp only [hitems, OperandTree.listOf_exprs first others comma]
  | .reference f path =>
    rw [OperandTree.tokens, List.cons_append] at h
    obtain ⟨position, inside, rfl, hinside⟩ := Located.map_token_eq_cons h
    obtain ⟨⟨behind, hshorter⟩, hreference, hbehind⟩ :=
      parseReference_complete (p := p) ⟨.name f.name, position⟩ f hinside
    refine ⟨⟨behind, Nat.lt_succ_of_le hshorter⟩, ?_, hbehind⟩
    unfold parseOperand
    simp only [hreference, OperandTree.expr]
termination_by sizeOf t

/-- The tokens of the items of a list are accepted, with its closing bracket. -/
theorem parseItems_complete (first : OperandTree) (others : List OperandTree) (comma : Bool)
    {ts : List Located} {more : List Token}
    (h : ts.map (·.token) = first.tokens ++ (OperandTree.othersTokens others ++
      (OperandTree.trailing comma ++ .closeBracket :: more))) :
    ∃ rest : Shorter ts, parseItems (.done p) ts =
      .ok (first.expr :: OperandTree.exprs others, rest) ∧ rest.val.map (·.token) = more := by
  obtain ⟨⟨behind, hshorter⟩, hitem, hbehind⟩ := parseOperand_complete first h
  have hopen : ∀ position tail, ts ≠ ⟨.closeBracket, position⟩ :: tail := by
    rintro position tail rfl
    obtain ⟨token, tail', htokens, htoken⟩ := first.tokens_eq_cons
    rw [htokens] at h
    exact htoken (List.cons.inj h).1.symm
  unfold parseItems
  split
  · exact absurd rfl (hopen _ _)
  simp only [hitem]
  match others, comma with
  | [], false =>
    obtain ⟨_, tail, rfl, htail⟩ := Located.map_token_eq_cons hbehind
    exact ⟨_, rfl, htail⟩
  | [], true =>
    obtain ⟨_, _, rfl, hclose⟩ := Located.map_token_eq_cons hbehind
    obtain ⟨_, tail, rfl, htail⟩ := Located.map_token_eq_cons hclose
    unfold parseItems
    exact ⟨_, rfl, htail⟩
  | second :: others, comma =>
    rw [OperandTree.othersTokens, List.cons_append, List.append_assoc] at hbehind
    obtain ⟨_, tail, rfl, htail⟩ := Located.map_token_eq_cons hbehind
    obtain ⟨⟨behind, _⟩, hitems, hbehind⟩ := parseItems_complete second others comma htail
    simp only [hitems]
    exact ⟨_, rfl, hbehind⟩
termination_by sizeOf first + sizeOf others + 1

end

theorem parseLookup_complete (path : String) (operand : OperandTree)
    (h : ts.map (·.token) = .equals :: (operand.tokens ++ more)) :
    ∃ rest : NotLonger ts, parseLookup (.done p) path ts =
      .ok (.lookup path operand.expr, rest) ∧ rest.val.map (·.token) = more := by
  obtain ⟨_, inside, rfl, hinside⟩ := Located.map_token_eq_cons h
  obtain ⟨⟨behind, hshorter⟩, hoperand, hbehind⟩ := parseOperand_complete (p :=
    p) operand hinside
  exact ⟨⟨behind, Nat.le_of_lt (Nat.lt_succ_of_lt
    hshorter)⟩, by simp only [parseLookup, hoperand], hbehind⟩

/-- Behind a chain with `and` that is followed by the rest of a chain with `or`, there is no
further `and`. -/
theorem OrTree.othersTokens_head?_ne (os : List AndTree) (hand : more.head? ≠ some .and) :
    (OrTree.othersTokens os ++ more).head? ≠ some .and := by
  cases os with
  | nil => rwa [OrTree.othersTokens, List.nil_append]
  | cons t os => simp [OrTree.othersTokens]

mutual

/-- The tokens of a negation, a filter in parentheses or a lookup are accepted, whatever follows
them. -/
theorem parseUnary_complete (u : UnaryTree) {ts : List Located} {more : List Token}
    (h : ts.map (·.token) = u.tokens ++ more) :
    ∃ rest : Shorter ts, parseUnary (.done p) ts = .ok (u.filter, rest) ∧
        rest.val.map (·.token) = more := by
  match u with
  | .not u =>
    rw [UnaryTree.tokens, List.cons_append] at h
    obtain ⟨_, inside, rfl, hinside⟩ := Located.map_token_eq_cons h
    obtain ⟨⟨behind, hshorter⟩, hnegated, hbehind⟩ := parseUnary_complete u hinside
    refine ⟨⟨behind, Nat.lt_succ_of_lt hshorter⟩, ?_, hbehind⟩
    unfold parseUnary
    simp only [hnegated, UnaryTree.filter]
  | .parenthesized o =>
    rw [UnaryTree.tokens, List.cons_append, List.append_assoc] at h
    obtain ⟨_, inside, rfl, hinside⟩ := Located.map_token_eq_cons h
    obtain ⟨⟨behind, hshorter⟩, hor, hclose⟩ := parseOr_complete o hinside (by simp) (by simp)
    obtain ⟨_, behind, rfl, hbehind⟩ := Located.map_token_eq_cons hclose
    refine ⟨⟨behind, Nat.lt_succ_of_lt (Nat.lt_of_succ_lt hshorter)⟩, ?_, hbehind⟩
    unfold parseUnary
    simp only [hor, UnaryTree.filter]
  | .lookup path operand =>
    rw [UnaryTree.tokens, List.cons_append, List.cons_append] at h
    obtain ⟨_, inside, rfl, hinside⟩ := Located.map_token_eq_cons h
    obtain ⟨⟨behind, hshorter⟩, hlookup, hbehind⟩ := parseLookup_complete (p :=
      p) path operand hinside
    refine ⟨⟨behind, Nat.lt_succ_of_le hshorter⟩, ?_, hbehind⟩
    unfold parseUnary
    simp only [hlookup, UnaryTree.filter]

/-- The tokens of a chain with `and` are accepted if it does not go on behind them. -/
theorem parseAnd_complete (t : AndTree) {ts : List Located} {more : List Token}
    (h : ts.map (·.token) = t.tokens ++ more) (hand : more.head? ≠ some .and) :
    ∃ rest : Shorter ts, parseAnd (.done p) ts = .ok (t.filter, rest) ∧
        rest.val.map (·.token) = more := by
  match t with
  | .chain first others =>
    rw [AndTree.tokens, List.append_assoc] at h
    obtain ⟨⟨behind, hshorter⟩, hfirst, hbehind⟩ := parseUnary_complete first h
    obtain ⟨⟨behind', hshorter'⟩, hothers, hbehind'⟩ :=
      parseAndRest_complete others hbehind hand
    refine ⟨⟨behind', Nat.lt_of_le_of_lt hshorter' hshorter⟩, ?_, hbehind'⟩
    unfold parseAnd
    simp only [hfirst, hothers, AndTree.filter, conjunction_eq]

/-- The tokens of the filters behind each further `and` are accepted. -/
theorem parseAndRest_complete (us : List UnaryTree) {ts : List Located} {more : List Token}
    (h : ts.map (·.token) = AndTree.othersTokens us ++ more) (hand : more.head? ≠ some .and) :
    ∃ rest : NotLonger ts, parseAndRest (.done p) ts = .ok (AndTree.filters us, rest) ∧
      rest.val.map (·.token) = more := by
  match us with
  | [] =>
    refine ⟨⟨ts, Nat.le_refl _⟩, ?_, h⟩
    unfold parseAndRest
    split
    · rw [AndTree.othersTokens, List.nil_append] at h
      exact absurd (by rw [← h]; rfl) hand
    · rfl
  | u :: us =>
    rw [AndTree.othersTokens, List.cons_append, List.append_assoc] at h
    obtain ⟨_, inside, rfl, hinside⟩ := Located.map_token_eq_cons h
    obtain ⟨⟨behind, hshorter⟩, hfirst, hbehind⟩ := parseUnary_complete u hinside
    obtain ⟨⟨behind', hshorter'⟩, hothers, hbehind'⟩ := parseAndRest_complete us hbehind hand
    refine ⟨⟨behind', Nat.le_of_lt (Nat.lt_succ_of_le (Nat.le_trans hshorter'
      (Nat.le_of_lt hshorter)))⟩, ?_, hbehind'⟩
    unfold parseAndRest
    simp only [hfirst, hothers, AndTree.filters]

/-- The tokens of a chain with `or` are accepted if it does not go on behind them. -/
theorem parseOr_complete (o : OrTree) {ts : List Located} {more : List Token}
    (h : ts.map (·.token) = o.tokens ++ more) (hand : more.head? ≠ some .and)
    (hor : more.head? ≠ some .or) :
    ∃ rest : Shorter ts, parseOr (.done p) ts = .ok (o.filter, rest) ∧
        rest.val.map (·.token) = more := by
  match o with
  | .chain first others =>
    rw [OrTree.tokens, List.append_assoc] at h
    obtain ⟨⟨behind, hshorter⟩, hfirst, hbehind⟩ :=
      parseAnd_complete first h (OrTree.othersTokens_head?_ne others hand)
    obtain ⟨⟨behind', hshorter'⟩, hothers, hbehind'⟩ :=
      parseOrRest_complete others hbehind hand hor
    refine ⟨⟨behind', Nat.lt_of_le_of_lt hshorter' hshorter⟩, ?_, hbehind'⟩
    unfold parseOr
    simp only [hfirst, hothers, OrTree.filter, disjunction_eq]

/-- The tokens of the chains behind each further `or` are accepted. -/
theorem parseOrRest_complete (os : List AndTree) {ts : List Located} {more : List Token}
    (h : ts.map (·.token) = OrTree.othersTokens os ++ more) (hand : more.head? ≠ some .and)
    (hor : more.head? ≠ some .or) :
    ∃ rest : NotLonger ts, parseOrRest (.done p) ts = .ok (OrTree.filters os, rest) ∧
      rest.val.map (·.token) = more := by
  match os with
  | [] =>
    refine ⟨⟨ts, Nat.le_refl _⟩, ?_, h⟩
    unfold parseOrRest
    split
    · rw [OrTree.othersTokens, List.nil_append] at h
      exact absurd (by rw [← h]; rfl) hor
    · rfl
  | t :: os =>
    rw [OrTree.othersTokens, List.cons_append, List.append_assoc] at h
    obtain ⟨_, inside, rfl, hinside⟩ := Located.map_token_eq_cons h
    obtain ⟨⟨behind, hshorter⟩, hfirst, hbehind⟩ :=
      parseAnd_complete t hinside (OrTree.othersTokens_head?_ne os hand)
    obtain ⟨⟨behind', hshorter'⟩, hothers, hbehind'⟩ := parseOrRest_complete os hbehind hand hor
    refine ⟨⟨behind', Nat.le_of_lt (Nat.lt_succ_of_le (Nat.le_trans hshorter'
      (Nat.le_of_lt hshorter)))⟩, ?_, hbehind'⟩
    unfold parseOrRest
    simp only [hfirst, hothers, OrTree.filters]

end

/-! ## No two derivations have the same tokens -/

theorem Literal.token_inj {l l' : Literal} (h : l.token = l'.token) : l = l' := by
  cases l <;> cases l' <;> simp_all [Literal.token]

theorem Numeral.token_inj {n n' : Numeral} (h : n.token = n'.token) : n = n' := by
  cases n <;> cases n' <;> simp_all [Numeral.token]

theorem PathFunction.name_inj {f f' : PathFunction} (h : f.name = f'.name) : f = f' := by
  cases f <;> cases f' <;> simp_all [PathFunction.name]

/-- A list that ends behind an item, with or without a comma, does not go on with another
one. -/
theorem OperandTree.trailing_ne_othersTokens (comma : Bool) (t : OperandTree)
    (rest : List OperandTree)
    {r s : List Token} :
        trailing comma ++ .closeBracket :: r ≠ othersTokens (t :: rest) ++ s := by
  obtain ⟨token, behind, htokens, htoken⟩ := t.tokens_eq_cons
  cases comma with
  | false => simp [trailing, othersTokens]
  | true =>
    simp only [trailing, othersTokens, htokens, if_true, List.cons_append, List.nil_append]
    exact fun h => htoken (List.cons.inj (List.cons.inj h).2).1.symm

mutual

/-- Where the tokens of an operand end, and which operand they derive, is determined by the
tokens. -/
theorem OperandTree.tokens_append_inj (t t' : OperandTree) {r s : List Token}
    (h : t.tokens ++ r = t'.tokens ++ s) : t = t' ∧ r = s := by
  match t, t' with
  | .literal l, .literal l' =>
    obtain ⟨hl, rfl⟩ := List.cons.inj h
    exact ⟨congrArg _ (Literal.token_inj hl), rfl⟩
  | .negative n, .negative n' =>
    obtain ⟨hn, rfl⟩ := List.cons.inj (List.cons.inj h).2
    exact ⟨congrArg _ (Numeral.token_inj hn), rfl⟩
  | .emptyList, .emptyList => exact ⟨rfl, (List.cons.inj (List.cons.inj h).2).2⟩
  | .list first others comma, .list first' others' comma' =>
    simp only [OperandTree.tokens, List.cons_append, List.append_assoc, List.nil_append,
      List.cons.injEq, true_and] at h
    obtain ⟨rfl, hothers⟩ := OperandTree.tokens_append_inj first first' h
    obtain ⟨rfl, rfl, rfl⟩ := OperandTree.othersTokens_append_inj others others' hothers
    exact ⟨rfl, rfl⟩
  | .reference f path, .reference f' path' =>
    simp only [OperandTree.tokens, List.cons_append, List.nil_append, List.cons.injEq,
      Token.name.injEq, true_and] at h
    obtain ⟨hname, rfl, rfl⟩ := h
    exact ⟨congrArg (OperandTree.reference · path) (PathFunction.name_inj hname), rfl⟩
  | .emptyList, .list first _ _ =>
    obtain ⟨token, behind, htokens, htoken⟩ := first.tokens_eq_cons
    simp only [OperandTree.tokens, htokens, List.cons_append, List.cons.injEq, true_and] at h
    exact absurd h.1.symm htoken
  | .list first _ _, .emptyList =>
    obtain ⟨token, behind, htokens, htoken⟩ := first.tokens_eq_cons
    simp only [OperandTree.tokens, htokens, List.cons_append, List.cons.injEq, true_and] at h
    exact absurd h.1 htoken
  | .literal l, .negative _ | .literal l, .emptyList | .literal l, .list _ _ _ | .literal l,
    .reference _ _
  | .negative _, .literal l | .emptyList, .literal l | .list _ _ _,
      .literal l | .reference _ _, .literal l =>
    cases l <;> simp [OperandTree.tokens, Literal.token] at h
  | .negative _, .emptyList | .negative _, .list _ _ _ | .negative _,
    .reference _ _ | .emptyList, .negative _
  | .list _ _ _, .negative _ | .reference _ _, .negative _ | .emptyList,
    .reference _ _ | .reference _ _, .emptyList
  | .list _ _ _, .reference _ _ | .reference _ _, .list _ _ _ =>
    simp [OperandTree.tokens] at h

/-- The same for the items of a list behind the first one, up to the closing bracket. -/
theorem OperandTree.othersTokens_append_inj (ts ts' : List OperandTree) {comma comma' : Bool}
    {r s : List Token} (h : othersTokens ts ++ (trailing comma ++ .closeBracket :: r) =
      othersTokens ts' ++ (trailing comma' ++ .closeBracket :: s)) :
    ts = ts' ∧ comma = comma' ∧ r = s := by
  match ts, ts' with
  | [], [] => cases comma <;> cases comma' <;> simp_all [trailing, othersTokens]
  | [], t' :: rest' => exact absurd h (OperandTree.trailing_ne_othersTokens comma t' rest')
  | t :: rest, [] => exact absurd h.symm (OperandTree.trailing_ne_othersTokens comma' t rest)
  | t :: rest, t' :: rest' =>
    simp only [othersTokens, List.cons_append, List.append_assoc, List.cons.injEq,
      true_and] at h
    obtain ⟨rfl, hrest⟩ := OperandTree.tokens_append_inj t t' h
    obtain ⟨rfl, hcomma, hs⟩ := OperandTree.othersTokens_append_inj rest rest' hrest
    exact ⟨rfl, hcomma, hs⟩

end

mutual

/-- The same for a negation, a filter in parentheses or a lookup. -/
theorem UnaryTree.tokens_append_inj (u u' : UnaryTree) {r s : List Token}
    (h : u.tokens ++ r = u'.tokens ++ s) : u = u' ∧ r = s := by
  match u, u' with
  | .not u, .not u' =>
    simp only [UnaryTree.tokens, List.cons_append, List.cons.injEq, true_and] at h
    obtain ⟨rfl, rfl⟩ := UnaryTree.tokens_append_inj u u' h
    exact ⟨rfl, rfl⟩
  | .parenthesized o, .parenthesized o' =>
    simp only [UnaryTree.tokens, List.cons_append, List.append_assoc, List.cons.injEq,
      true_and] at h
    obtain ⟨rfl, hclose⟩ := OrTree.tokens_append_inj o o' h (by simp) (by simp)
      (by simp) (by simp)
    exact ⟨rfl, (List.cons.inj hclose).2⟩
  | .lookup path operand, .lookup path' operand' =>
    simp only [UnaryTree.tokens, List.cons_append, List.cons.injEq, Token.name.injEq,
      true_and] at h
    obtain ⟨rfl, hoperand⟩ := h
    obtain ⟨rfl, rfl⟩ := operand.tokens_append_inj operand' hoperand
    exact ⟨rfl, rfl⟩
  | .not _, .parenthesized _ | .not _, .lookup _ _ | .parenthesized _,
    .not _ | .parenthesized _, .lookup _ _
  | .lookup _ _, .not _ | .lookup _ _, .parenthesized _ =>
    simp [UnaryTree.tokens] at h

/-- The same for a chain with `and` that does not go on behind its tokens. -/
theorem AndTree.tokens_append_inj (t t' : AndTree) {r s : List Token}
    (h : t.tokens ++ r = t'.tokens ++ s)
    (hr : r.head? ≠ some .and) (hs : s.head? ≠ some .and) : t = t' ∧ r = s := by
  match t, t' with
  | .chain first others, .chain first' others' =>
    simp only [AndTree.tokens, List.append_assoc] at h
    obtain ⟨rfl, hothers⟩ := UnaryTree.tokens_append_inj first first' h
    obtain ⟨rfl, rfl⟩ := AndTree.othersTokens_append_inj others others' hothers hr hs
    exact ⟨rfl, rfl⟩

/-- The same for the filters behind each further `and`. -/
theorem AndTree.othersTokens_append_inj (us us' : List UnaryTree) {r s : List Token}
    (h : AndTree.othersTokens us ++ r = AndTree.othersTokens us' ++ s)
    (hr : r.head? ≠ some .and) (hs : s.head? ≠ some .and) : us = us' ∧ r = s := by
  match us, us' with
  | [], [] => exact ⟨rfl, h⟩
  | [], u' :: rest' => exact absurd (by rw [show r = _ from h]; simp [AndTree.othersTokens]) hr
  | u :: rest, [] =>
    exact absurd (by rw [show s = _ from h.symm]; simp [AndTree.othersTokens]) hs
  | u :: rest, u' :: rest' =>
    simp only [AndTree.othersTokens, List.cons_append, List.append_assoc, List.cons.injEq,
      true_and] at h
    obtain ⟨rfl, hrest⟩ := UnaryTree.tokens_append_inj u u' h
    obtain ⟨rfl, hs⟩ := AndTree.othersTokens_append_inj rest rest' hrest hr hs
    exact ⟨rfl, hs⟩

/-- The same for a chain with `or` that does not go on behind its tokens. -/
theorem OrTree.tokens_append_inj (o o' : OrTree) {r s : List Token}
    (h : o.tokens ++ r = o'.tokens ++ s)
    (hrand : r.head? ≠ some .and) (hror : r.head? ≠ some .or) (hsand : s.head? ≠ some .and)
    (hsor : s.head? ≠ some .or) : o = o' ∧ r = s := by
  match o, o' with
  | .chain first others, .chain first' others' =>
    simp only [OrTree.tokens, List.append_assoc] at h
    obtain ⟨rfl, hothers⟩ := AndTree.tokens_append_inj first first' h
      (OrTree.othersTokens_head?_ne others hrand) (OrTree.othersTokens_head?_ne others' hsand)
    obtain ⟨rfl, rfl⟩ := OrTree.othersTokens_append_inj others others' hothers hrand
      hror hsand hsor
    exact ⟨rfl, rfl⟩

/-- The same for the chains behind each further `or`. -/
theorem OrTree.othersTokens_append_inj (os os' : List AndTree) {r s : List Token}
    (h : OrTree.othersTokens os ++ r = OrTree.othersTokens os' ++ s)
    (hrand : r.head? ≠ some .and) (hror : r.head? ≠ some .or) (hsand : s.head? ≠ some .and)
    (hsor : s.head? ≠ some .or) : os = os' ∧ r = s := by
  match os, os' with
  | [], [] => exact ⟨rfl, h⟩
  | [], t' :: rest' => exact absurd (by rw [show r = _ from h]; simp [OrTree.othersTokens]) hror
  | t :: rest, [] =>
    exact absurd (by rw [show s = _ from h.symm]; simp [OrTree.othersTokens]) hsor
  | t :: rest, t' :: rest' =>
    simp only [OrTree.othersTokens, List.cons_append, List.append_assoc, List.cons.injEq,
      true_and] at h
    obtain ⟨rfl, hrest⟩ := AndTree.tokens_append_inj t t' h
      (OrTree.othersTokens_head?_ne rest hrand) (OrTree.othersTokens_head?_ne rest' hsand)
    obtain ⟨rfl, hs⟩ := OrTree.othersTokens_append_inj rest rest' hrest hrand hror hsand hsor
    exact ⟨rfl, hs⟩

end

/-- No two derivations have the same tokens. -/
theorem OrTree.tokens_inj {o o' : OrTree} (h : o.tokens = o'.tokens) : o = o' :=
  have hends : o.tokens ++ [] = o'.tokens ++ [] := congrArg (· ++ []) h
  (OrTree.tokens_append_inj o o' hends (by simp) (by simp) (by simp) (by simp)).1

/-! ## The grammar of texts -/

theorem parseTokens_eq_ok_iff {p : Position} {ts : List Located} {f : Filter} :
    parseTokens (.done p) ts = .ok f ↔ ∃ o : OrTree, o.tokens = ts.map (·.token) ∧
        o.filter = f := by
  constructor
  · intro h
    unfold parseTokens at h
    split at h
    · simp at h
    · rename_i f' rest _ hor
      obtain ⟨o, rfl, htokens⟩ := parseOr_sound ts hor
      split at h
      · exact ⟨o, by simpa using htokens.symm, Except.ok.inj h⟩
      · simp at h
  · rintro ⟨o, htokens, rfl⟩
    have hend : ts.map (·.token) = o.tokens ++ [] := by rw [List.append_nil, htokens]
    obtain ⟨⟨rest, hshorter⟩, hor, hrest⟩ := parseOr_complete (p :=
      p) o hend (by simp) (by simp)
    obtain rfl : rest = [] := List.map_eq_nil_iff.mp hrest
    simp only [parseTokens, hor]

/-- Where a token cannot be read, nothing is accepted. -/
theorem parseTokens_failed {e : LexError} {ts : List Located} {f : Filter} :
    parseTokens (.failed e) ts ≠ .ok f := by
  intro h
  unfold parseTokens at h
  split at h
  · simp at h
  · split at h
    case h_1 hending _ => exact Ending.noConfusion hending
    case h_2 => simp at h

theorem Lexes.unique {text : String} {tokens tokens' : List Token} (h : Lexes text tokens)
    (h' : Lexes text tokens') : tokens = tokens' := by
  obtain ⟨located, position, hread, rfl⟩ := h
  obtain ⟨located', position', hread', rfl⟩ := h'
  obtain ⟨rfl, -⟩ := Prod.mk.inj (hread.symm.trans hread')
  rfl

/-- A text is accepted, and stands for a filter, exactly if its tokens have a derivation that
stands for it.  They have at most one derivation. -/
theorem parse_accepts_grammar (text : String) :
    (∀ f, parse text = .ok f ↔ ∃ o : OrTree, Lexes text o.tokens ∧ o.filter = f) ∧
      ∀ o o' : OrTree, Lexes text o.tokens → Lexes text o'.tokens → o = o' := by
  constructor
  · intro f
    cases hread : (Cursor.ofText text).tokens with
    | mk located ending =>
      have hparse : parse text = parseTokens ending located := by rw [parse, hread]
      rw [hparse]
      constructor
      · intro h
        cases ending with
        | failed e => exact absurd h parseTokens_failed
        | done position =>
          obtain ⟨o, htokens, hfilter⟩ := parseTokens_eq_ok_iff.mp h
          exact ⟨o, ⟨located, position, hread, htokens.symm⟩, hfilter⟩
      · rintro ⟨o, ⟨located', position, hread', htokens⟩, hfilter⟩
        obtain ⟨rfl, rfl⟩ := Prod.mk.inj (hread.symm.trans hread')
        exact parseTokens_eq_ok_iff.mpr ⟨o, htokens.symm, hfilter⟩
  · intro o o' h h'
    exact OrTree.tokens_inj (h.unique h')

example : parse "not a = [1,] or (b = F(c) and d = 2)" =
    .ok (.or [.not (.lookup "a" (.literal (.array [.int 1]))),
      .and [.lookup "b" (.field "c"), .lookup "d" (.literal (.int 2))]]) := by cbv

end DocQuery.FilterText
