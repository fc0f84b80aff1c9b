import DocQuery.Proofs.FieldPaths
import DocQuery.Proofs.FoldedPatterns
import DocQuery.Proofs.VerbatimPatterns
import Mathlib.Data.List.Infix
set_option autoImplicit false

/-!
# Proofs: lookups for a text

A field can be looked up for a text that stands somewhere in it, at its start or at its end.
The text is escaped, quoted where it would be read as a path, and put together with anchors into
the text of a pattern.  Nothing of this shows:  whatever characters the text consists of, the
lookup is true of the strings that the text stands in.
-/

namespace DocQuery

open Value
open Operator (found truth)

/-! ## Pieces of a pattern -/

namespace Value

/-- A string is a literal piece, whether it has to be quoted or not. -/
theorem literalPiece?_protect (s : String) : literalPiece? (protect (.string s)) = some s := by
  rw [protect]
  by_cases hs : isOperatorName s = true
  · rw [if_pos hs]
    rfl
  · rw [if_neg hs]
    simp only [literalPiece?, if_neg hs]

/-- A test for a pattern of literal pieces is one for their texts, put together. -/
theorem eval_patternCheck {a : Value} {pieces : List Value} {source : String} {scope : Scope}
    {x : Option Value}
    (hpieces : literalPieces? pieces = some source) (ha : eval a scope = .ok x) :
    eval (patternCheck a pieces false) scope =
        applyPatternMatch x (some (.string source)) none := by
  refine (eval_patternMatch_of_spells (spells_patternOf_literals hpieces) a false).trans ?_
  rw [ha]
  rfl

end Value

/-! ## Texts in a string -/

namespace Lookup

/-- The lookups for a text that tell letters of both cases apart. -/
def seeking : List Lookup := [.contains, .startswith, .endswith]

theorem mem_seeking {l : Lookup} :
    l ∈ seeking ↔ l = .contains ∨ l = .startswith ∨ l = .endswith := by
  simp [seeking]

/-- Whether a lookup for a text finds it in a string. -/
def findsIn (l : Lookup) (p s : String) : Prop :=
  match l with
  | .contains => p.toList <:+: s.toList
  | .startswith => p.toList <+: s.toList
  | .endswith => p.toList <:+ s.toList
  | _ => False

instance (l : Lookup) (p s : String) : Decidable (l.findsIn p s) := by
  unfold findsIn
  split <;> infer_instance

/-- The text of the pattern that a lookup for a text makes of it. -/
def patternText (l : Lookup) (p : String) : String :=
  Pattern.verbatimSource (l == .startswith) (l == .endswith) p

variable {l : Lookup} {p : String}

/-- The patterns of all texts are accepted that are not too large: each byte of the text takes a
state, and so does the anchor at one end of it. -/
theorem read?_patternText_isSome_iff (hl : l ∈ seeking) :
    (Pattern.read? false (l.patternText p)).isSome = true ↔
      Pattern.stateBytes *
        max 1 ((p.toList.map Char.utf8Size).sum + if l = .contains then 0 else 1) ≤
          Pattern.sizeLimit := by
  have hbytes :
      (Pattern.sequence (Pattern.verbatim (l == .startswith) (l == .endswith) p)).bytes =
        Pattern.stateBytes *
          max 1 ((p.toList.map Char.utf8Size).sum + if l = .contains then 0 else 1) := by
    rw [Pattern.bytes_verbatim]
    generalize (p.toList.map Char.utf8Size).sum = n
    refine congrArg (fun k => Pattern.stateBytes * max 1 k) ?_
    rcases mem_seeking.mp hl with rfl | rfl | rfl
    · show 0 + n + 0 = n + 0
      omega
    · show 1 + n + 0 = n + 1
      omega
    · show 0 + n + 1 = n + 1
      omega
  rw [patternText, Pattern.read?_verbatimSource, hbytes]
  split <;> simp [*]

/-- The pattern that a lookup makes of a text matches the strings that the lookup finds the text
in. -/
theorem isMatch_iff_findsIn (hl : l ∈ seeking) {pattern : Pattern}
    (h : Pattern.read? false (l.patternText p) = some pattern) (s : String) :
    pattern.isMatch s = true ↔ l.findsIn p s := by
  obtain rfl : Pattern.sequence (Pattern.verbatim (l == .startswith) (l == .endswith) p) =
      pattern := by
    rw [patternText, Pattern.read?_verbatimSource] at h
    split at h
    · exact Option.some.inj h
    · cases h
  rw [Pattern.isMatch_verbatim]
  rcases mem_seeking.mp hl with rfl | rfl | rfl
  · constructor
    · rintro ⟨front, back, htext, -⟩
      exact ⟨front, back, by rw [← htext, List.append_assoc]⟩
    · rintro ⟨front, back, htext⟩
      exact ⟨front, back, by rw [← htext, List.append_assoc], nofun, nofun⟩
  · constructor
    · rintro ⟨front, back, htext, hstart, -⟩
      obtain rfl := hstart rfl
      exact ⟨back, htext⟩
    · rintro ⟨back, htext⟩
      exact ⟨[], back, htext, fun _ => rfl, nofun⟩
  · constructor
    · rintro ⟨front, back, htext, -, hend⟩
      obtain rfl := hend rfl
      exact ⟨front, by rw [← htext, List.append_nil]⟩
    · rintro ⟨front, htext⟩
      exact ⟨front, [], by rw [List.append_nil, htext], nofun, fun _ => rfl⟩

/-- What a lookup for a text is built of evaluates to a match of its pattern. -/
theorem eval_build_text (hl : l ∈ seeking) {a : Value} {scope : Scope} {x : Option Value}
    (ha : eval a scope = .ok x) :
    eval (l.build a (protect (.string (Pattern.escape p)))) scope =
      applyPatternMatch x (some (.string (l.patternText p))) none := by
  have hpiece := literalPiece?_protect (Pattern.escape p)
  have hstart : literalPiece? startPiece = some "^" := rfl
  have hend : literalPiece? endPiece = some "$" := rfl
  rcases mem_seeking.mp hl with rfl | rfl | rfl
  all_goals
    refine eval_patternCheck ?_ ha
    simp [literalPieces?, hpiece, hstart, hend, patternText, Pattern.verbatimSource]

end Lookup

namespace Compiler

variable {c : Compiler} {model path p : String} {m : Model} {l : Lookup} {names : List String}
  {reads : Option Value → Option Value}

/-- A lookup for a text at the end of a path to a string is compiled, whatever characters the
text consists of.  It is true of the documents where the string is one that the text stands in,
at its start or at its end if the lookup asks for that.  It is false of all other documents,
those without a string among them. -/
theorem text_lookup_finds (hplain : c.schema.hasPlainColumns = true)
    (hm : c.schema.model? model = some m) (htop : m.embedded = false) (hl : l ∈ Lookup.seeking)
    (hreads : c.schema.Locates (.embedded model) names (.scalar .string) reads)
    (hpath : Text.segments path = names ++ [l.name]) (hempty : "" ∉ names)
    (haccepted : (Pattern.read? false (l.patternText p)).isSome = true) :
    ∃ e, c.compileFilterOn model (.lookup path (.literal (.string p))) = .ok ⟨[], e⟩ ∧
      ∀ doc, c.schema.conforms (.embedded model) doc = true →
        (reads (some doc) = none → e.evalOn doc = truth false) ∧
          ∀ v, reads (some doc) = some v → ∃ s, v = .string s ∧
              e.evalOn doc = truth (decide (l.findsIn p s)) := by
  obtain ⟨a, ha⟩ := exists_fieldAccess hm hreads
  have hallowed : (Lookup.allowed (.scalar .string)).contains l = true := by
    rcases Lookup.mem_seeking.mp hl with rfl | rfl | rfl <;> rfl
  have hliteral : l.literal (some .string) (.string p) =
      .ok (protect (.string (Pattern.escape p))) := by
    rcases Lookup.mem_seeking.mp hl with rfl | rfl | rfl <;> rfl
  obtain ⟨pattern, hpattern⟩ := Option.isSome_iff_exists.mp haccepted
  have hcompiled := ha.compileFilter_literal hpath hempty hallowed hliteral
  refine ⟨_, compileFilterOn_of_same hm htop hcompiled, fun doc hdoc => ?_⟩
  obtain ⟨x, hx, hpresent⟩ := ha.readsAs hplain hm hdoc
  have hmatch := Lookup.eval_build_text (p := p) hl (hx [])
  refine ⟨fun hread => ?_, fun v hread => ?_⟩
  · rw [hread] at hpresent
    refine hmatch.trans ?_
    rcases eq_none_or_null_of_present hpresent with rfl | rfl <;> rfl
  · obtain ⟨s, rfl⟩ : ∃ s, v = .string s := by
      have hkind := ha.isOfKind hplain hm hdoc hread
      cases v <;> first | exact ⟨_, rfl⟩ | cases hkind
    rw [hread] at hpresent
    have hfound : pattern.isMatch s = decide (l.findsIn p s) :=
      Bool.eq_iff_iff.mpr ((Lookup.isMatch_iff_findsIn hl hpattern s).trans
        decide_eq_true_iff.symm)
    refine ⟨s, rfl, hmatch.trans ?_⟩
    rw [eq_some_of_present hpresent]
    simp only [applyPatternMatch, hpattern, hfound]

/-- Offers with lines, each of which may have a label. -/
def offerModels : List Model :=
  [⟨"Offer", some "offers", false, [Model.primaryKey, ⟨"lines", .embeddedArray "Line",
    false, none⟩]⟩, ⟨"Line", none, true, [⟨"label", .scalar .string, true, none⟩]⟩]

/-- A compiler for offers. -/
def offers : Compiler := ⟨⟨offerModels⟩, .usual⟩

/-- An offer with one line. -/
def offerOf (label : Value) : Value :=
  .object [("_id", .int 1), ("lines", .array [.object [("label", label)]])]

/-- A price at the start of a label is found as it is written: its dollar sign is no path and no
end of the text, and its point stands for a point only. -/
theorem price_found : ∃ e,
    offers.compileFilterOn "Offer" (.lookup "lines__0__label__startswith"
      (.literal (.string "$5."))) = .ok ⟨[], e⟩ ∧
      e.evalOn (offerOf (.string "$5.00 each")) = truth true ∧
        e.evalOn (offerOf (.string "$500")) = truth false ∧
      e.evalOn (offerOf .null) = truth false := by
  have hlabel : offers.schema.Locates (.embedded "Offer") ["lines", "0", "label"]
      (.scalar .string) _ :=
    .field rfl rfl rfl (.item rfl (.field rfl rfl rfl (.here _)))
  have haccepted : (Pattern.read? false (Lookup.startswith.patternText "$5.")).isSome = true :=
    (Lookup.read?_patternText_isSome_iff (by decide)).mpr (by decide)
  have hpath : Text.segments "lines__0__label__startswith" = ["lines", "0", "label"] ++
    [Lookup.startswith.name] := rfl
  obtain ⟨e, he, hdocs⟩ :=
    text_lookup_finds (c := offers) (by decide) rfl rfl (by decide) hlabel hpath
      (by decide) haccepted
  obtain ⟨s, hs, hprice⟩ := (hdocs (offerOf (.string "$5.00 each")) (by decide)).2 _ rfl
  obtain ⟨t, ht, hother⟩ := (hdocs (offerOf (.string "$500")) (by decide)).2 _ rfl
  have hnull := (hdocs (offerOf .null) (by decide)).1 rfl
  obtain rfl := string.inj hs
  obtain rfl := string.inj ht
  exact ⟨e, he, hprice, hother, hnull⟩

end Compiler

end DocQuery
