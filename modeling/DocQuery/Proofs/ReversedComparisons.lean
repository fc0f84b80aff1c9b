import DocQuery.Proofs.FieldPaths
import DocQuery.Proofs.OuterReferences
import DocQuery.Proofs.ValueOrder
set_option autoImplicit false

/-!
# Proofs: two fields compared from either side

That one field is below another one can be asked from below, by a lookup on the first field, and
from above, by a lookup on the second one.  The lookup from below asks for a first field that is
there, and the lookup from above does not.  So the two agree unless the first field is null or
missing and sorts before the second one.
-/

namespace DocQuery

open Value
open Operator (found truth)

namespace Comparison

/-- The comparison from the other side. -/
def reverse : Comparison → Comparison
  | .eq => .eq
  | .ne => .ne
  | .gt => .lt
  | .gte => .lte
  | .lt => .gt
  | .lte => .gte

/-- A comparison holds from one side if the reverse one does from the other. -/
theorem holds_reverse (cmp : Comparison) (a b : Option Value) :
    cmp.reverse.holds (compare? b a) = cmp.holds (compare? a b) := by
  rw [← compare?_swap a b]
  cases cmp <;> cases compare? a b <;> rfl

end Comparison

/-- An operator on two operands fails where one of them does. -/
theorem Value.eval_operator_pair_error (op : Operator) {a b : Value} {scope : Scope}
    (hfails : (∃ error, eval a scope = .error error) ∨ ∃ error, eval b scope = .error error) :
    ∃ error, eval (.operator op.name (.array [a, b])) scope = .error error := by
  rw [eval_operator_array]
  rcases ha : eval a scope with error | x
  · exact ⟨error, by simp only [evalItems, ha, Except.bind]⟩
  · obtain ⟨error, hb⟩ : ∃ error, eval b scope = .error error := by simpa [ha] using hfails
    exact ⟨error, by simp only [evalItems, ha, hb, Except.bind]⟩

namespace Lookup

/-- Two lookups that ask for the same comparison, the first one from below and the second one
from above. -/
inductive Reverses : Lookup → Lookup → Comparison → Prop where
  | strict : Reverses .lt .gt .lt
  | weak : Reverses .lte .gte .lte

namespace Reverses

variable {below above : Lookup} {cmp : Comparison}

theorem build_below (h : Reverses below above cmp) (a b : Value) :
    below.build a b = presentAnd cmp.name a b := by
  cases h <;> rfl

theorem build_above (h : Reverses below above cmp) (a b : Value) :
    above.build a b = binary cmp.reverse.name a b := by
  cases h <;> rfl

/-- All scalars take both lookups, except for truth values. -/
theorem allowed (h : Reverses below above cmp) {kind : ScalarKind} (hkind : kind ≠ .boolean) :
    (Lookup.allowed (.scalar kind)).contains below = true ∧
        (Lookup.allowed (.scalar kind)).contains above = true := by
  cases h <;> cases kind <;> first | exact absurd rfl hkind | decide

/-- Truth values take neither of the lookups. -/
theorem refused (h : Reverses below above cmp) :
    (Lookup.allowed (.scalar .boolean)).contains below = false ∧
      (Lookup.allowed (.scalar .boolean)).contains above = false := by
  cases h <;> decide

/-- The lookup from below asks for a first value that is there and in order with the second
one. -/
theorem decides_below (h : Reverses below above cmp) {a b : Value} {scope : Scope}
    {x y : Option Value}
    (hsingle : a.items? = none) (ha : eval a scope = .ok x) (hb : eval b scope = .ok y) :
    Decides scope (below.build a b) ((present x).isSome && cmp.holds (compare? x y)) := by
  have hguarded := Decides.and₂ (Decides.comparison cmp ha hb) (Decides.nullCheck
    hsingle ha false)
  have hvalue : (cmp.holds (compare? x y) && ((present x).isNone == false)) =
      ((present x).isSome && cmp.holds (compare? x y)) := by
    rw [Bool.and_comm]
    cases present x <;> rfl
  rw [hvalue] at hguarded
  rw [h.build_below]
  exact hguarded

/-- The lookup from above asks for the order alone. -/
theorem decides_above (h : Reverses below above cmp) {a b : Value} {scope : Scope}
    {x y : Option Value} (ha : eval a scope = .ok x) (hb : eval b scope = .ok y) :
    Decides scope (above.build b a) (cmp.holds (compare? x y)) := by
  rw [h.build_above, ← cmp.holds_reverse x y]
  exact Decides.comparison cmp.reverse hb ha

/-- Where one of the values fails, so do both lookups. -/
theorem fails (h : Reverses below above cmp) {a b : Value} {scope : Scope}
    (hfails : (∃ error, eval a scope = .error error) ∨ ∃ error, eval b scope = .error error) :
    (∃ error, eval (below.build a b) scope = .error error) ∧ ∃ error, eval
        (above.build b a) scope = .error error := by
  rw [h.build_below, h.build_above]
  refine ⟨?_, eval_operator_pair_error (.comparison cmp.reverse) hfails.symm⟩
  obtain ⟨error, hbelow⟩ := eval_operator_pair_error (.comparison cmp) hfails
  have hfirst : eval (binary cmp.name a b) scope = .error error := hbelow
  exact ⟨error, (eval_and _ scope).trans (by simp only [evalUntil, hfirst])⟩

end Reverses

end Lookup

namespace Compiler

variable {c : Compiler} {model : String} {m : Model} {kind : ScalarKind} {names : List String}

/-- Two scalar fields of documents of a model are compared from below and from above.  A field
of truth values takes neither lookup.  For all other fields both filters compile without stages,
and on documents of the model both are true or false as long as columns have plain names:  from
below the first field has to be there, and from above null and what is missing count as the
lowest values.  So the filters agree on a document if and only if the first field is there or
does not compare with the second one as asked for. -/
theorem reversed_comparisons_agree_iff {below above : Lookup} {cmp : Comparison}
    {first second less greater : String}
    {others : List String} {kind' : ScalarKind} {reads reads' : Option Value → Option Value}
    (hm : c.schema.model? model = some m) (htop : m.embedded = false)
    (hreverses : Lookup.Reverses below above cmp)
    (hfirst : c.schema.Locates (.embedded model) names (.scalar kind) reads)
    (hsecond : c.schema.Locates (.embedded model) others (.scalar kind') reads')
    (hpath : Text.segments first = names) (hpath' : Text.segments second = others)
    (hless : Text.segments less = names ++ [below.name])
    (hgreater : Text.segments greater = others ++ [above.name])
    (hempty : "" ∉ names) (hempty' : "" ∉ others) :
    (kind = .boolean → ∃ error, c.compileFilterOn model (.lookup less (.field second)) =
      .error error) ∧
    (kind' = .boolean → ∃ error, c.compileFilterOn model (.lookup greater (.field first)) =
      .error error) ∧
    (kind ≠ .boolean → kind' ≠ .boolean → ∃ a b fromBelow fromAbove,
      c.compileExpr (.ofModel m) (.field first) = .ok ((a, .scalar kind), .ofModel m) ∧
      c.compileExpr (.ofModel m) (.field second) = .ok ((b, .scalar kind'), .ofModel m) ∧
      c.compileFilterOn model (.lookup less (.field second)) = .ok ⟨[], fromBelow⟩ ∧
      c.compileFilterOn model (.lookup greater (.field first)) = .ok ⟨[], fromAbove⟩ ∧
      ∀ doc,
        (c.schema.hasPlainColumns = true → c.schema.conforms (.embedded model) doc = true →
          ∃ x y, a.evalOn doc = .ok x ∧ present x = reads (some doc) ∧ b.evalOn doc = .ok y ∧
          present y = reads' (some doc)) ∧
        (∀ x y, a.evalOn doc = .ok x → b.evalOn doc = .ok y →
          fromBelow.evalOn doc = truth ((present x).isSome && cmp.holds (compare? x y)) ∧
          fromAbove.evalOn doc = truth (cmp.holds (compare? x y)) ∧
          (fromBelow.evalOn doc = fromAbove.evalOn doc ↔
            (present x).isSome = true ∨ cmp.holds (compare? x y) = false)) ∧
        ((∃ error, a.evalOn doc = .error error) ∨ (∃ error, b.evalOn doc = .error error) →
          (∃ error, fromBelow.evalOn doc = .error error) ∧ ∃ error, fromAbove.evalOn doc =
              .error error)) := by
  obtain ⟨a, ha⟩ := exists_fieldAccess hm hfirst
  obtain ⟨b, hb⟩ := exists_fieldAccess hm hsecond
  refine ⟨fun hkind => ?_, fun hkind' => ?_, fun hkind hkind' => ?_⟩
  · subst hkind
    exact ha.compileFilterOn_refused hm htop hless hempty (by decide) rfl hreverses.refused.1
  · subst hkind'
    exact hb.compileFilterOn_refused hm htop hgreater hempty' (by decide) rfl
      hreverses.refused.2
  have hacompiled : c.compileExpr (.ofModel m) (.field first) = .ok ((a.render, .scalar kind),
      .ofModel m) :=
    ha.compileExpr hpath hempty rfl rfl
  have hbcompiled : c.compileExpr (.ofModel m) (.field second) = .ok ((b.render, .scalar kind'),
      .ofModel m) :=
    hb.compileExpr hpath' hempty' rfl rfl
  have hbelow := ha.compileFilter_computed hless hempty (hreverses.allowed hkind).1
    rfl hbcompiled
  have habove := hb.compileFilter_computed hgreater hempty' (hreverses.allowed hkind').2
    rfl hacompiled
  refine ⟨a.render, b.render, _, _, hacompiled, hbcompiled, compileFilterOn_of_same
    hm htop hbelow, compileFilterOn_of_same hm htop habove, fun doc => ⟨fun hplain hdoc => ?_,
    fun x y hx hy => ?_, hreverses.fails⟩⟩
  · obtain ⟨x, hx, hpresent⟩ := ha.readsAs hplain hm hdoc
    obtain ⟨y, hy, hpresent'⟩ := hb.readsAs hplain hm hdoc
    exact ⟨x, y, hx [], hpresent, hy [], hpresent'⟩
  · have hless := hreverses.decides_below a.items?_render hx hy
    have hgreater := hreverses.decides_above hx hy
    refine ⟨hless, hgreater, ?_⟩
    rw [show (below.build a.render b.render).evalOn doc = _ from hless,
      show (above.build b.render a.render).evalOn doc = _ from hgreater]
    cases (present x).isSome <;> cases cmp.holds (compare? x y) <;> simp [truth, found]

/-- Trips from one station to another one, each of which may be unknown. -/
def tripModel : Model :=
  ⟨"Trip", some "trips", false, [Model.primaryKey, ⟨"from", .scalar .integer, true, none⟩,
    ⟨"to", .scalar .integer, true, none⟩]⟩

/-- A compiler for trips. -/
def trips : Compiler := ⟨⟨[tripModel]⟩, .usual⟩

/-- A trip between two stations. -/
def tripUp : Value := .object [("_id", .int 1), ("from", .int 3), ("to", .int 5)]

/-- A trip between known stations leads up, asked from below and from above. -/
theorem tripUp_agrees : ∃ fromBelow fromAbove,
    trips.compileFilterOn "Trip" (.lookup "from__lt" (.field "to")) = .ok ⟨[], fromBelow⟩ ∧
    trips.compileFilterOn "Trip" (.lookup "to__gt" (.field "from")) = .ok ⟨[], fromAbove⟩ ∧
    fromBelow.evalOn tripUp = fromAbove.evalOn tripUp := by
  have hfrom : trips.schema.Locates (.embedded "Trip") ["from"] (.scalar .integer) _ :=
    .field rfl rfl rfl (.here _)
  have hto : trips.schema.Locates (.embedded "Trip") ["to"] (.scalar .integer) _ :=
    .field rfl rfl rfl (.here _)
  have hpath : Text.segments "from" = ["from"] := rfl
  have hpath' : Text.segments "to" = ["to"] := rfl
  have hless : Text.segments "from__lt" = ["from"] ++ [Lookup.lt.name] := rfl
  have hgreater : Text.segments "to__gt" = ["to"] ++ [Lookup.gt.name] := rfl
  obtain ⟨-, -, hcompiled⟩ :=
    reversed_comparisons_agree_iff rfl rfl .strict hfrom hto hpath hpath' hless hgreater
      (by decide) (by decide)
  obtain ⟨a, b, fromBelow, fromAbove, -, -, hbelow, habove, hdocs⟩ :=
    hcompiled (by decide) (by decide)
  obtain ⟨hreads, hagree, -⟩ := hdocs tripUp
  obtain ⟨x, y, hx, hpresent, hy, -⟩ := hreads (by decide) (by decide)
  exact ⟨fromBelow, fromAbove, hbelow, habove, (hagree x y hx hy).2.2.mpr
    (.inl (congrArg Option.isSome hpresent))⟩

/-- A trip to a station from nowhere. -/
def tripFromNowhere : Value := .object [("_id", .int 1), ("to", .int 5)]

/-- A trip from nowhere leads up if that is asked from above, and it does not if it is asked
from below. -/
theorem tripFromNowhere_disagrees :
    trips.schema.conforms (.embedded "Trip") tripFromNowhere = true ∧ ∃ fromBelow fromAbove,
      trips.compileFilterOn "Trip" (.lookup "from__lt" (.field "to")) = .ok ⟨[], fromBelow⟩ ∧
      trips.compileFilterOn "Trip" (.lookup "to__gt" (.field "from")) = .ok ⟨[], fromAbove⟩ ∧
      fromBelow.evalOn tripFromNowhere = truth false ∧
          fromAbove.evalOn tripFromNowhere = truth true :=
  ⟨by decide, _, _, rfl, rfl, rfl, rfl⟩

end Compiler

end DocQuery
