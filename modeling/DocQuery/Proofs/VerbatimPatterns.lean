import DocQuery.Pattern.Reader
import Mathlib.Algebra.GroupWithZero.Nat
import Mathlib.Data.List.Basic
set_option autoImplicit false

/-!
# Proofs: patterns of escaped texts

The pattern of an escaped text, with an anchor in front of it or behind it if need be, is read
as the sequence of the characters of the text.  It matches where these characters stand in a
row:  anywhere, at the start or at the end.
-/

namespace DocQuery.Pattern

/-! ## Reading -/

/-- Characters as an escaped text. -/
def escapeChars (cs : List Char) : List Char :=
    cs.flatMap fun c => if isMeta c then ['\\', c] else [c]

theorem toList_escape (p : String) : (escape p).toList = escapeChars p.toList := by
  simp [escape, escapeChars]

/-- An escaped character is read as itself. -/
theorem readToken_escaped (c : Char) (rest : List Char) :
    readToken false ((if isMeta c then ['\\', c] else [c]) ++ rest) =
      some (.char (.literal c), rest) := by
  by_cases hmeta : isMeta c = true
  · rw [if_pos hmeta]
    have hescapable : isEscapable c = true := by simp [isEscapable, hmeta]
    simp only [List.cons_append, List.nil_append, readToken, readEscape, hescapable, if_true]
  · rw [if_neg hmeta]
    -- Every character with a case of its own has a meaning of its own.
    simp only [List.cons_append, List.nil_append, readToken]
    split <;> first | rfl | exact absurd (by decide) hmeta

/-- A text is read as tokens, each of which takes a character at least and leaves blanks and
comments to be read. -/
inductive ReadsAs : List Char → List Token → Prop
  | nil : ReadsAs [] []
  | cons {c : Char} {cs rest : List Char} {t : Token} {ts : List Token}
      (hread : readToken false (c :: cs) = some (t, rest)) (hlength : rest.length ≤ cs.length)
      (hlayout : Layout.start.after t = Layout.start) (hrest : ReadsAs rest ts) :
      ReadsAs (c :: cs) (t :: ts)

/-- A text that is read as tokens has these tokens. -/
theorem ReadsAs.tokens {text : List Char} {ts : List Token} (h : ReadsAs text ts) {fuel : Nat}
    (hfuel : text.length ≤ fuel) : tokens fuel Layout.start text = some ts := by
  induction h generalizing fuel with
  | nil => cases fuel <;> rfl
  | @cons c cs rest t ts hread hlength hlayout _ ih =>
    cases fuel with
    | zero => cases hfuel
    | succ fuel =>
      have hrest : Pattern.tokens fuel Layout.start rest = some ts :=
        ih (by simp only [List.length_cons] at hfuel; omega)
      have hgap : gap Layout.start.verbose (c :: cs) = c :: cs := rfl
      have htoken : readToken Layout.start.verbose (c :: cs) = some (t, rest) := hread
      simp only [Pattern.tokens, hgap, htoken, hlayout, hrest, Option.map_some]

/-- An escaped text in front of another one is read character by character. -/
theorem ReadsAs.escaped {tail : List Char} {ts : List Token} (h : ReadsAs tail ts)
    (cs : List Char) :
    ReadsAs (escapeChars cs ++ tail) (cs.map (fun c => Token.char (.literal c)) ++ ts) := by
  induction cs with
  | nil => exact h
  | cons c rest ih =>
    have hread := readToken_escaped c (escapeChars rest ++ tail)
    by_cases hmeta : isMeta c = true
    · rw [if_pos hmeta] at hread
      have htext : escapeChars (c :: rest) ++ tail = '\\' :: c ::
          (escapeChars rest ++ tail) := by
        simp [escapeChars, hmeta]
      rw [htext]
      exact .cons hread (by simp) rfl ih
    · rw [if_neg hmeta] at hread
      have htext : escapeChars (c :: rest) ++ tail = c :: (escapeChars rest ++ tail) := by
        simp [escapeChars, hmeta]
      rw [htext]
      exact .cons hread (Nat.le_refl _) rfl ih

/-! ## Putting together -/

/-- The patterns that match in at most one way: single characters and anchors. -/
def isSingle : Pattern → Bool
  | .char _ => true
  | .anchor _ => true
  | _ => false

/-- The part of a pattern that a token stands for by itself, where no options are set. -/
def partOf? : Token → Option Pattern
  | .char s => some (.char s)
  | .caret => some (.anchor .textStart)
  | .dollar => some (.anchor .textEnd)
  | _ => none

/-- Tokens that stand for parts are put together as the parts, one behind the other. -/
theorem run_of_parts {ts : List Token} {ps : List Pattern} (h : ts.map partOf? = ps.map some)
    (a : Assembly) (ha : a.options = Options.start false) :
    a.run ts = some { a with group := { a.group with parts := (ps.map some).reverse ++
        a.group.parts } } := by
  induction ts generalizing ps a with
  | nil =>
    obtain rfl : ps = [] := by simpa using h.symm
    rfl
  | cons t rest ih =>
    cases ps with
    | nil => simp at h
    | cons p others =>
      obtain ⟨ht, hrest⟩ := List.cons.inj h
      have hstep : a.step t = some (a.add p) := by
        cases t <;> simp [partOf?] at ht <;> subst ht <;>
          simp [Assembly.step, ha, Options.start, Options.spec?]
      have hnext := ih hrest (a.add p) ha
      simp only [Assembly.run, hstep, hnext]
      simp [Assembly.add, Group.add]

/-- A text whose tokens stand for parts is the pattern of the parts in a row, unless the pattern
is too large. -/
theorem read?_of_parts {text : String} {ts : List Token} {ps : List Pattern}
    (htokens : tokens text.toList.length Layout.start text.toList = some ts)
    (hparts : ts.map partOf? = ps.map some) :
    read? false text =
      if (sequence ps).bytes ≤ sizeLimit then some (sequence ps) else none := by
  have hnames : ts.filterMap Token.groupName? = [] := by
    refine List.filterMap_eq_nil_iff.mpr fun t ht => ?_
    obtain ⟨p, -, hp⟩ : ∃ p ∈ ps, some p = partOf? t := by
      simpa using (hparts ▸ List.mem_map_of_mem ht : partOf? t ∈ ps.map some)
    cases t <;> first | rfl | cases hp
  have hrun := run_of_parts hparts (Assembly.start false) rfl
  have hfinish : ((Assembly.start false).run ts).bind Assembly.finish = some (sequence ps) := by
    rw [hrun]
    show some (sequence (((ps.map some).reverse ++ []).reverse.filterMap id)) =
      some (sequence ps)
    simp
  simp only [read?, htokens, hnames, List.nodup_nil, if_true, hfinish]

/-- The characters of a text one behind the other, tied to the start and the end of the text if
need be. -/
def verbatim (start finish : Bool) (p : String) : List Pattern :=
  (if start then [anchor .textStart] else []) ++ p.toList.map (fun c => char (.literal c)) ++
    (if finish then [anchor .textEnd] else [])

/-- The text of a pattern for the characters of a text. -/
def verbatimSource (start finish : Bool) (p : String) : String :=
  (if start then "^" else "") ++ escape p ++ (if finish then "$" else "")

/-- An escaped text between anchors is read as its characters between anchors. -/
theorem readsAs_verbatimSource (start finish : Bool) (p : String) :
    ReadsAs (verbatimSource start finish p).toList ((if start then [Token.caret] else []) ++
      (p.toList.map (fun c => Token.char (.literal c)) ++
          (if finish then [Token.dollar] else []))) := by
  have hend : ReadsAs (if finish then ['$'] else [])
      (if finish then [Token.dollar] else []) := by
    cases finish with
    | false => exact .nil
    | true => exact .cons rfl (Nat.le_refl _) rfl .nil
  have hbody := hend.escaped p.toList
  have htext : (verbatimSource start finish p).toList =
      (if start then ['^'] else []) ++
          (escapeChars p.toList ++ (if finish then ['$'] else [])) := by
    cases start <;> cases finish <;> simp [verbatimSource, toList_escape]
  rw [htext]
  cases start with
  | false => exact hbody
  | true => exact .cons rfl (Nat.le_refl _) rfl hbody

/-- An escaped text between anchors is the pattern of its characters between anchors, unless the
pattern is too large. -/
theorem read?_verbatimSource (start finish : Bool) (p : String) :
    read? false (verbatimSource start finish p) =
      if (sequence (verbatim start finish p)).bytes ≤ sizeLimit then
        some (sequence (verbatim start finish p))
      else none := by
  refine read?_of_parts ((readsAs_verbatimSource start finish p).tokens (Nat.le_refl _)) ?_
  cases start <;> cases finish <;> simp [verbatim, partOf?, Function.comp_def]

/-! ## Matching -/

/-- The place behind a single character or an anchor, if it fits at a place. -/
def advance? : Pattern → Place → Option Place
  | .char s, pl => pl.next?.bind fun next => if s.accepts next.1 then some next.2 else none
  | .anchor a, pl => if pl.satisfies a then some pl else none
  | _, _ => none

/-- The place behind single characters and anchors in a row. -/
def walk? : List Pattern → Place → Option Place
  | [], pl => some pl
  | p :: rest, pl => (advance? p pl).bind (walk? rest)

theorem ends_of_isSingle {p : Pattern} (h : isSingle p = true) (pl : Place) :
    p.ends pl = (advance? p pl).toList := by
  cases p with
  | char s =>
    rcases hnext : pl.next? with _ | next
    · simp [ends, advance?, hnext]
    · by_cases haccepts : s.accepts next.1 = true <;> simp [ends, advance?, hnext, haccepts]
  | anchor a => by_cases hsat : pl.satisfies a = true <;> simp [ends, advance?, hsat]
  | _ => cases h

/-- Single patterns in a row match in at most one way. -/
theorem ends_sequence {ps : List Pattern} (h : ∀ p ∈ ps, isSingle p = true) (pl : Place) :
    (sequence ps).ends pl = (walk? ps pl).toList := by
  induction ps generalizing pl with
  | nil => rfl
  | cons p rest ih =>
    have hp := ends_of_isSingle (h p (.head _))
    have hrest := ih (fun q hq => h q (.tail _ hq))
    cases rest with
    | nil => simp [sequence, hp, walk?]
    | cons q others =>
      rw [sequence]
      · simp only [ends, hp, walk?]
        cases advance? p pl with
        | none => rfl
        | some next =>
          simp only [Option.toList_some, List.flatMap_cons, List.flatMap_nil,
            List.append_nil, hrest, walk?, Option.bind_some]
          cases (advance? q next).bind (walk? others) <;> rfl
      · simp

/-- Characters in a row, up to the end if need be, fit where the text behind a place starts with
them. -/
theorem isSome_walk?_literals (finish : Bool) (cs : List Char) (pl : Place) :
    (walk? (cs.map (fun c => char (.literal c)) ++ (if finish then [anchor .textEnd] else []))
      pl).isSome = true ↔ ∃ back, pl.after = cs ++ back ∧ (finish = true → back = []) := by
  induction cs generalizing pl with
  | nil =>
    cases finish with
    | false => simp [walk?]
    | true => by_cases hend : pl.after = [] <;> simp [walk?, advance?, Place.satisfies, hend]
  | cons c rest ih =>
    obtain ⟨before, after⟩ := pl
    cases after with
    | nil => simp [walk?, advance?, Place.next?]
    | cons d behind =>
      by_cases hd : d = c
      · subst hd
        simpa [walk?, advance?, Place.next?, CharSpec.accepts] using ih ⟨some d, behind⟩
      · simp [walk?, advance?, Place.next?, CharSpec.accepts, hd]

theorem getLast?_cons_or (c : Char) (front : List Char) (before : Option Char) :
    (c :: front).getLast?.or before = front.getLast?.or (some c) := by
  cases h : front.getLast? <;> simp [List.getLast?_cons, h]

/-- A pattern matches if a match starts at one of the places of the text. -/
theorem matchesFrom_iff (pattern : Pattern) (before : Option Char) (text : List Char) :
    matchesFrom pattern before text = true ↔
      ∃ front back, front ++ back = text ∧ pattern.ends ⟨front.getLast?.or before,
          back⟩ ≠ [] := by
  induction text generalizing before with
  | nil =>
    simp only [matchesFrom, List.append_eq_nil_iff]
    constructor
    · intro h
      exact ⟨[], [], ⟨rfl, rfl⟩, by simpa using h⟩
    · rintro ⟨front, back, ⟨rfl, rfl⟩, h⟩
      simpa using h
  | cons c rest ih =>
    simp only [matchesFrom, Bool.or_eq_true, ih]
    constructor
    · rintro (h | ⟨front, back, htext, h⟩)
      · exact ⟨[], c :: rest, rfl, by simpa using h⟩
      · refine ⟨c :: front, back, by rw [List.cons_append, htext], ?_⟩
        rwa [getLast?_cons_or]
    · rintro ⟨front, back, htext, h⟩
      cases front with
      | nil =>
        obtain rfl : back = c :: rest := htext
        exact .inl (by simpa using h)
      | cons d others =>
        obtain ⟨rfl, hrest⟩ := List.cons.inj htext
        exact .inr ⟨others, back, hrest, by rwa [getLast?_cons_or] at h⟩

/-- A text between anchors consists of single patterns. -/
theorem isSingle_of_mem_verbatim {start finish : Bool} {p : String} {q : Pattern}
    (h : q ∈ verbatim start finish p) : isSingle q = true := by
  simp only [verbatim, List.mem_append, List.mem_map] at h
  rcases h with (h | ⟨c, _, rfl⟩) | h
  · cases start <;> simp at h
    rw [h]
    rfl
  · rfl
  · cases finish <;> simp at h
    rw [h]
    rfl

/-- Patterns in a row take together what they take each. -/
theorem bytes_sequence {ps : List Pattern} (h : ps ≠ []) :
    (sequence ps).bytes = (ps.map bytes).sum := by
  induction ps with
  | nil => exact absurd rfl h
  | cons p rest ih =>
    cases rest with
    | nil => simp [sequence]
    | cons q others =>
      have hbytes : (sequence (p :: q :: others)).bytes =
        p.bytes + (sequence (q :: others)).bytes := rfl
      rw [hbytes, ih (by simp), List.map_cons (l := q :: others), List.sum_cons]

/-- The characters of a text take a state for each byte, and each anchor takes one. -/
theorem bytes_verbatim (start finish : Bool) (p : String) :
    (sequence (verbatim start finish p)).bytes =
      stateBytes * max 1 (start.toNat + (p.toList.map Char.utf8Size).sum + finish.toNat) := by
  have hchars : (p.toList.map fun c => (char (.literal c)).bytes).sum =
      stateBytes * (p.toList.map Char.utf8Size).sum := by
    induction p.toList with
    | nil => rfl
    | cons c cs ih =>
      simp only [List.map_cons, List.sum_cons, ih, Nat.mul_add]
      rfl
  have hsize : p.toList ≠ [] → 1 ≤ (p.toList.map Char.utf8Size).sum := fun h => by
    obtain ⟨c, cs, hcs⟩ := List.exists_cons_of_ne_nil h
    have hc := c.utf8Size_pos
    rw [hcs, List.map_cons, List.sum_cons]
    omega
  by_cases hnil : verbatim start finish p = []
  · obtain ⟨hfront, hback⟩ := List.append_eq_nil_iff.mp hnil
    obtain ⟨hstart, htext⟩ := List.append_eq_nil_iff.mp hfront
    have hempty : p.toList = [] := List.map_eq_nil_iff.mp htext
    rw [hnil, hempty]
    cases start <;> cases finish <;> first | rfl | cases hstart
  · have hpos : 1 ≤ start.toNat + (p.toList.map Char.utf8Size).sum + finish.toNat := by
      cases start <;> cases finish <;> simp only [Bool.toNat_true, Bool.toNat_false]
      · have := hsize fun hempty => hnil (by simp [verbatim, hempty])
        omega
      all_goals omega
    rw [bytes_sequence hnil, Nat.max_eq_right hpos, verbatim]
    simp only [List.map_append, List.sum_append, List.map_map, Function.comp_def, hchars]
    cases start <;> cases finish <;> simp [bytes, Nat.mul_add]

/-- The characters of a text match where they stand in another text, from its start or up to its
end if need be. -/
theorem isMatch_verbatim (start finish : Bool) (p s : String) :
    (sequence (verbatim start finish p)).isMatch s = true ↔
      ∃ front back, front ++ (p.toList ++ back) = s.toList ∧ (start = true → front = []) ∧
        (finish = true → back = []) := by
  have hfits (front after : List Char) :
      (sequence (verbatim start finish p)).ends ⟨front.getLast?.or none, after⟩ ≠ [] ↔
        (start = true → front = []) ∧ ∃ back, after = p.toList ++ back ∧
            (finish = true → back = []) := by
    rw [ends_sequence fun _ => isSingle_of_mem_verbatim, verbatim, List.append_assoc,
      ← isSome_walk?_literals finish p.toList ⟨front.getLast?.or none, after⟩]
    cases start with
    | false => simp [Option.isSome_iff_ne_none]
    | true =>
      cases front with
      | nil => simp [walk?, advance?, Place.satisfies, Option.isSome_iff_ne_none]
      | cons c rest => simp [walk?, advance?, Place.satisfies, List.getLast?_cons]
  simp only [isMatch, matchesFrom_iff, hfits]
  constructor
  · rintro ⟨front, _, htext, hstart, back, rfl, hfinish⟩
    exact ⟨front, back, htext, hstart, hfinish⟩
  · rintro ⟨front, back, htext, hstart, hfinish⟩
    exact ⟨front, _, htext, hstart, back, rfl, hfinish⟩

end DocQuery.Pattern
