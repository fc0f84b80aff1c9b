import DocQuery.Proofs.ClosedPipelines
import DocQuery.Proofs.Inversion
import DocQuery.Proofs.Names
set_option autoImplicit false

/-!
# Proofs: the parts of compiled queries are closed

Literals, accesses, predicates and joins only refer to what there is, whatever texts the
literals hold.
-/

namespace DocQuery

/-! ## More variables -/

theorem Value.Closed.mono {vars others : List String} {e : Value} (h : e.Closed vars)
    (hsub : vars ⊆ others) : e.Closed others := by
  induction h generalizing others with
  | constant hstring hitems hfields => exact .constant hstring hitems hfields
  | text hplain => exact .text hplain
  | path hplain => exact .path hplain
  | bound hname hmem => exact .bound hname (hsub hmem)
  | member hname hmem => exact .member hname (hsub hmem)
  | array _ ih => exact .array fun item hitem => ih item hitem hsub
  | object hnames _ ih => exact .object hnames fun m hm => ih m hm hsub
  | quoted v => exact .quoted v
  | apply op _ ih => exact .apply op (ih hsub)
  | and _ ih => exact .and fun item hitem => ih item hitem hsub
  | or _ ih => exact .or fun item hitem => ih item hitem hsub
  | cond _ _ _ ihcondition ihyes ihno => exact .cond (ihcondition hsub) (ihyes hsub) (ihno hsub)
  | switch _ _ _ ihcases ihbodies ihotherwise =>
    exact .switch (fun b hb => ihcases b hb hsub) (fun b hb => ihbodies b hb hsub)
      (ihotherwise hsub)
  | map _ _ iharray ihbody => exact .map (iharray hsub) (ihbody (List.cons_subset_cons _ hsub))
  | patternMatch ignoreCase _ _ ihinput ihpattern =>
    exact .patternMatch ignoreCase (ihinput hsub) (ihpattern hsub)
  | field name _ ih => exact .field name (ih hsub)

theorem Stage.Closed.mono {vars others : List String} {s : Stage} (h : s.Closed vars)
    (hsub : vars ⊆ others) : s.Closed others := by
  induction h generalizing others with
  | select he => exact .select (he.mono hsub)
  | project hfields => exact .project fun m hm => (hfields m hm).mono hsub
  | addFields hfields => exact .addFields fun m hm => (hfields m hm).mono hsub
  | set hfields => exact .set fun m hm => (hfields m hm).mono hsub
  | lookup source target hbindings _ ih =>
    exact .lookup source target (fun m hm => (hbindings m hm).mono hsub)
      fun s hs => ih s hs (List.append_subset.mpr
        ⟨List.subset_append_left _ _, List.subset_append_of_subset_right _ hsub⟩)
  | unwind path keepEmpty => exact .unwind path keepEmpty
  | facet _ ih => exact .facet fun f hf s hs => ih f hf s hs hsub
  | group hkey hfields =>
    refine .group (hkey.mono hsub) fun m hm => ?_
    obtain ⟨operator, e, hoperator, hknown, he⟩ := hfields m hm
    exact ⟨operator, e, hoperator, hknown, he.mono hsub⟩
  | sort keys => exact .sort keys
  | skip count => exact .skip count
  | limit count => exact .limit count
  | unionWith collection _ ih => exact .unionWith collection fun s hs => ih s hs hsub

namespace Value

variable {vars : List String} {a b e : Value}

/-! ## Literals -/

theorem closed_null : Closed vars .null := .constant rfl rfl rfl

theorem closed_bool (b : Bool) : Closed vars (.bool b) := .constant rfl rfl rfl

theorem closed_int (n : Int64) : Closed vars (.int n) := .constant rfl rfl rfl

theorem forall_mem_pair {P : Value → Prop} (ha : P a) (hb : P b) : ∀ v ∈ [a, b], P v := by
  simpa using ⟨ha, hb⟩

theorem closed_pair (ha : Closed vars a) (hb : Closed vars b) : Closed vars (.array [a, b]) :=
  .array (forall_mem_pair ha hb)

theorem closed_binary (op : Operator) (ha : Closed vars a) (hb : Closed vars b) :
    Closed vars (.operator op.name (.array [a, b])) :=
  .apply op (closed_pair ha hb)

mutual

/-- A protected literal is closed, whatever it holds. -/
theorem closed_protect (v : Value) : Closed vars v.protect := by
  match v with
  | .string s =>
    rw [protect]
    split
    · exact .quoted _
    · rename_i hplain
      exact .text (by simpa using hplain)
  | .object fields => exact .quoted _
  | .array items => exact .array (closed_protectItems items)
  | .null => exact closed_null
  | .bool b => exact closed_bool b
  | .int n => exact closed_int n
  | .float x => exact .constant rfl rfl rfl
  | .decimal d => exact .constant rfl rfl rfl

theorem closed_protectItems (items : List Value) : ∀ v ∈ protectItems items, Closed vars v := by
  match items with
  | [] => simp [protectItems]
  | item :: rest =>
    rw [protectItems]
    exact List.forall_mem_cons.mpr ⟨closed_protect item, closed_protectItems rest⟩

end

theorem closed_protectAlone (v : Value) : Closed vars v.protectAlone := by
  cases v with
  | int n => exact .quoted _
  | array items => exact .quoted _
  | _ => exact closed_protect _

/-! ## Predicates -/

theorem closed_nullCheck (ha : Closed vars a) (flag : Bool) :
    Closed vars (nullCheck a flag) := by
  have htype : Closed vars (binary "$eq" (.operator "$type" a) (.string "missing")) :=
    closed_binary (.comparison .eq) (.apply .type ha) (.text rfl)
  have hnull : Closed vars (binary "$eq" a .null) := closed_binary (.comparison .eq)
    ha closed_null
  have hcheck := Closed.or (forall_mem_pair htype hnull)
  cases flag with
  | true => exact hcheck
  | false => exact .apply .not hcheck

theorem closed_presentAnd (c : Comparison) (ha : Closed vars a) (hb : Closed vars b) :
    Closed vars (presentAnd c.name a b) :=
  .and (forall_mem_pair (closed_binary (.comparison c) ha hb) (closed_nullCheck ha false))

theorem closed_boundsOf (hb : Closed vars b) :
    Closed vars (boundsOf b).1 ∧ Closed vars (boundsOf b).2 := by
  unfold boundsOf
  split
  · rename_i low high
    cases hb with
    | constant _ hitems _ => simp [items?] at hitems
    | array hitems => exact ⟨hitems low (by simp), hitems high (by simp)⟩
  · exact ⟨hb, closed_null⟩

theorem closed_rangeCheck (ha : Closed vars a) (hb : Closed vars b) :
    Closed vars (rangeCheck a b) := by
  obtain ⟨hlow, hhigh⟩ := closed_boundsOf hb
  refine .and (forall_mem_pair ?_ ?_)
  · exact .or (forall_mem_pair (closed_nullCheck hlow true)
      (closed_binary (.comparison .gte) ha hlow))
  · exact .or (forall_mem_pair (closed_nullCheck hhigh true)
      (closed_binary (.comparison .lte) ha hhigh))

theorem closed_subsetCheck {mapped values subset superset : Value}
    (hmapped : Closed vars mapped) (hvalues : Closed vars values) (hsubset : Closed vars subset)
    (hsuperset : Closed vars superset) :
    Closed vars (subsetCheck mapped values subset superset) := by
  have hfirst : Closed vars (binary "$ne" mapped .null) :=
    closed_binary (.comparison .ne) hmapped closed_null
  have hsecond : Closed vars (binary "$ne" values .null) :=
    closed_binary (.comparison .ne) hvalues closed_null
  refine .and (List.forall_mem_cons.mpr ⟨hfirst, forall_mem_pair hsecond ?_⟩)
  exact closed_binary .setIsSubset hsubset hsuperset

theorem closed_patternCheck (ha : Closed vars a) {pieces : List Value} (ignoreCase : Bool)
    (hpieces : ∀ piece ∈ pieces, Closed vars piece) :
    Closed vars (patternCheck a pieces ignoreCase) := by
  have hpattern : Closed vars (patternOf pieces) := by
    unfold patternOf
    split
    · rename_i s _
      exact closed_protect (.string s)
    · split
      · exact hpieces _ (by simp)
      · exact .apply .concat (.array hpieces)
  exact .patternMatch ignoreCase ha hpattern

theorem closed_build (l : Lookup) (ha : Closed vars a) (hb : Closed vars b) :
    Closed vars (l.build a b) := by
  have hstart : Closed vars startPiece := .text rfl
  have hend : Closed vars endPiece := .quoted _
  cases l with
  | exact => exact closed_binary (.comparison .eq) ha hb
  | gt => exact closed_binary (.comparison .gt) ha hb
  | gte => exact closed_binary (.comparison .gte) ha hb
  | lt => exact closed_presentAnd .lt ha hb
  | lte => exact closed_presentAnd .lte ha hb
  | «in» => exact closed_binary .membership ha hb
  | range => exact closed_rangeCheck ha hb
  | isnull => exact closed_nullCheck ha _
  | all => exact closed_subsetCheck ha hb hb ha
  | containedBy => exact closed_subsetCheck ha hb ha hb
  | iexact =>
    exact closed_patternCheck ha true
      (List.forall_mem_cons.mpr ⟨hstart, forall_mem_pair hb hend⟩)
  | startswith => exact closed_patternCheck ha false (forall_mem_pair hstart hb)
  | istartswith => exact closed_patternCheck ha true (forall_mem_pair hstart hb)
  | endswith => exact closed_patternCheck ha false (forall_mem_pair hb hend)
  | iendswith => exact closed_patternCheck ha true (forall_mem_pair hb hend)
  | contains => exact closed_patternCheck ha false (by simpa using hb)
  | icontains => exact closed_patternCheck ha true (by simpa using hb)
  | regex => exact closed_patternCheck ha false (by simpa using hb)
  | iregex => exact closed_patternCheck ha true (by simpa using hb)

/-! ## Fragments -/

theorem closed_conjunction {es : List Value} (h : ∀ e ∈ es, Closed vars e) :
    Closed vars (conjunction es) := by
  unfold conjunction
  split
  · exact closed_bool true
  · exact h _ (by simp)
  · exact .and h

theorem closed_disjunction {es : List Value} (h : ∀ e ∈ es, Closed vars e) :
    Closed vars (disjunction es) := by
  unfold disjunction
  split
  · exact closed_bool false
  · exact h _ (by simp)
  · exact .or h

theorem closed_negation (h : Closed vars e) : Closed vars (negation e) :=
  .apply .not (.array (by simpa using h))

theorem closed_caseDistinction {branches : List (Value × Value)}
    (hcases : ∀ b ∈ branches, Closed vars b.1) (hbodies : ∀ b ∈ branches, Closed vars b.2)
    (h : Closed vars e) :
    Closed vars (caseDistinction (branches.map fun b => branch b.1 b.2) e) := by
  cases branches with
  | nil => exact h
  | cons b rest => exact .switch hcases hbodies h

theorem closed_combine (op : Combination) (ha : Closed vars a) (hb : Closed vars b) :
    Closed vars (op.combine a b) := by
  have hpower : Closed vars (powerOfTwo b) := closed_binary (.arithmetic .power)
    (closed_int 2) hb
  cases op with
  | arithmetic op => exact closed_binary (.arithmetic op) ha hb
  | bits op => exact closed_binary (.bits op) ha hb
  | leftShift => exact closed_binary (.arithmetic .multiply) ha hpower
  | rightShift => exact .apply .floor (closed_binary (.arithmetic .divide) ha hpower)

/-! ## Paths -/

/-- The column of a name that does not look like that of an operator. -/
theorem closed_column {name : String} (h : isOperatorName name = false) :
    Closed vars (.string ("$" ++ name)) := .path h

/-- A path goes on behind a point, wherever it starts. -/
theorem closed_extend {text : String} (h : Closed vars (.string text)) (name : String) :
    Closed vars (.string (text ++ "." ++ name)) := by
  cases h with
  | constant hstring _ _ => simp [string?] at hstring
  | text hplain => exact .text (Text.startsWith_append hplain name)
  | @path _ path hplain =>
    have hlonger : Closed vars (.string ("$" ++ (path ++ "." ++ name))) :=
      .path (Text.startsWith_append hplain name)
    rwa [← String.append_assoc, ← String.append_assoc] at hlonger
  | bound hname hmem => exact .member hname hmem
  | @member _ var path hname hmem =>
    have hlonger : Closed vars (.string ("$$" ++ var ++ "." ++ (path ++ "." ++ name))) :=
      .member hname hmem
    rwa [← String.append_assoc, ← String.append_assoc] at hlonger

theorem closed_keyOf (h : Closed vars e) (name : String) :
    Closed vars (Access.keyOf e name) := by
  unfold Access.keyOf
  split
  · exact closed_extend h name
  · exact .field name h

theorem closed_lengthOf (h : Closed vars e) : Closed vars (Access.lengthOf e) :=
  .cond (.apply .isArray h) (.apply .size h) closed_null

theorem closed_mapOf (ha : Closed vars a) (hb : Closed (Access.itemName :: vars) b) :
    Closed vars (Access.mapOf a b) :=
  closed_binary .ifNull (.map ha hb) (.array (by simp))

end Value

end DocQuery
