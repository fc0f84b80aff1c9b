import DocQuery.Proofs.Evaluation
set_option autoImplicit false

/-!
# Proofs: expressions that evaluate consistently

Two expressions agree if they evaluate to the same wherever both of them evaluate.  What an
expression evaluates to depends on its parts only through what these evaluate to, so that
expressions of the same form agree if their parts do; and of the conditions of a junction only
the truth counts, in whatever order they are.
-/

namespace DocQuery

open Operator (found truth fail)

namespace Value

/-! ## What expressions evaluate to, whatever they are applied to

An operator takes the parameters that its argument has and fails on an argument of another
shape.
-/

theorem evalMember?_eq (spec : Document) (key : String) :
    evalMember? spec key = (Document.value? spec key).map fun v scope => eval v scope := by
  induction spec with
  | nil => rfl
  | cons m rest ih =>
    obtain ⟨k, v⟩ := m
    rw [evalMember?, Document.value?]
    split
    · rfl
    · exact ih

theorem evalBranchesMember?_eq (spec : Document) :
    evalBranchesMember? spec =
      ((Document.value? spec "branches").bind items?).map fun branches scope =>
          evalBranches branches scope := by
  induction spec with
  | nil => rfl
  | cons m rest ih =>
    obtain ⟨k, v⟩ := m
    rw [evalBranchesMember?.eq_def, Document.value?]
    simp only
    split
    · cases v <;> rfl
    · exact ih

theorem evalItems_cons_eq (item : Value) (rest : List Value) (scope : Scope) :
    evalItems (item :: rest) scope =
      (eval item scope).bind fun v => (evalItems rest scope).bind fun vs => .ok (v :: vs) := by
  rw [evalItems]
  cases eval item scope with
  | error e => rfl
  | ok v => cases evalItems rest scope <;> rfl

theorem evalFields_cons_eq (name : String) (v : Value) (rest : Document) (scope : Scope) :
    evalFields ((name, v) :: rest) scope =
      (eval v scope).bind fun r => (evalFields rest scope).bind fun members =>
        .ok (r.elim members fun w => (name, w) :: members) := by
  rw [evalFields]
  cases eval v scope with
  | error e => rfl
  | ok r =>
    cases evalFields rest scope with
    | error e => rfl
    | ok members => cases r <;> rfl

theorem evalBranches_cons_eq (branch : Value) (rest : List Value) (scope : Scope) :
    evalBranches (branch :: rest) scope =
      match branch.field? "case" with
      | none => .error (.typeError (.branchPart "case"))
      | some condition =>
        (eval condition scope).bind fun v =>
          if isTruthy? v then
            match branch.field? "then" with
            | none => .error (.typeError (.branchPart "then"))
            | some body => (eval body scope).map some
          else evalBranches rest scope := by
  cases branch with
  | object spec =>
    rw [evalBranches]
    simp only [evalMember?_eq, field?]
    cases Document.value? spec "case" with
    | none => rfl
    | some condition =>
      simp only [Option.map_some]
      cases eval condition scope with
      | error e => rfl
      | ok v =>
        simp only [Except.bind]
        cases Document.value? spec "then" <;> rfl
  | _ => rfl

theorem eval_junctionForm (settles : Bool) (arg : Value) (scope : Scope) :
    eval (.operator (if settles then "$or" else "$and") arg) scope =
      match arg with
      | .array items => evalUntil settles items scope
      | single => (eval single scope).bind fun v => truth (isTruthy? v) := by
  cases settles <;> cases arg <;> rfl

theorem eval_conditionalList (condition yes no : Value) (scope : Scope) :
    eval (.operator "$cond" (.array [condition, yes, no])) scope =
      (eval condition scope).bind fun v => if isTruthy? v then eval yes scope else
          eval no scope := by
  rw [operator, eval.eq_def]
  simp only [show isOperatorName "$cond" = true from rfl, show SpecialForm.ofName? "$cond" =
    some .cond from rfl, if_true]
  cases eval condition scope <;> rfl

theorem eval_conditionalForm (spec : Document) (scope : Scope) :
    eval (.operator "$cond" (.object spec)) scope =
      match (Value.object spec).field? "if", (Value.object spec).field? "then",
          (Value.object spec).field? "else" with
      | none, _, _ => fail (.conditionalPart "if")
      | _, none, _ => fail (.conditionalPart "then")
      | _, _, none => fail (.conditionalPart "else")
      | some condition, some yes, some no =>
        (eval condition scope).bind fun v => if isTruthy? v then eval yes scope else
            eval no scope := by
  rw [operator, eval.eq_def]
  simp only [show isOperatorName "$cond" = true from rfl, show SpecialForm.ofName? "$cond" =
    some .cond from rfl, if_true, evalMember?_eq, field?]
  cases Document.value? spec "if" with
  | none => rfl
  | some condition =>
    cases Document.value? spec "then" with
    | none => rfl
    | some yes =>
      cases Document.value? spec "else" with
      | none => rfl
      | some no =>
        simp only [Option.map_some]
        cases eval condition scope <;> rfl

theorem eval_switchForm (arg : Value) (scope : Scope) :
    eval (.operator "$switch" arg) scope =
      match (arg.field? "branches").bind items? with
      | none => fail .branches
      | some branches =>
        (evalBranches branches scope).bind fun r =>
          match r with
          | some v => .ok v
          | none =>
            match arg.field? "default" with
            | some default => eval default scope
            | none => fail .noBranch := by
  cases arg with
  | object spec =>
    rw [operator, eval.eq_def]
    simp only [show isOperatorName "$switch" = true from rfl, show SpecialForm.ofName?
      "$switch" = some .switch from rfl, if_true, evalMember?_eq,
      evalBranchesMember?_eq, field?]
    cases (Document.value? spec "branches").bind items? with
    | none => rfl
    | some branches =>
      simp only [Option.map_some]
      cases evalBranches branches scope with
      | error e => rfl
      | ok r =>
        cases r with
        | some v => rfl
        | none => cases Document.value? spec "default" <;> rfl
  | _ => rfl

theorem eval_mapForm (arg : Value) (scope : Scope) :
    eval (.operator "$map" arg) scope =
      match arg.field? "input", arg.field? "in" with
      | none, _ => fail (.mapPart "input")
      | _, none => fail (.mapPart "in")
      | some input, some body =>
        (eval input scope).bind (applyMap fun item =>
          eval body (scope.bind (((arg.field? "as").bind string?).getD "this") item)) := by
  cases arg with
  | object spec =>
    rw [operator, eval.eq_def]
    simp only [show isOperatorName "$map" = true from rfl, show SpecialForm.ofName? "$map" =
      some .map from rfl, if_true, evalMember?_eq, field?, mapVariable]
    cases Document.value? spec "input" with
    | none => rfl
    | some input =>
      cases Document.value? spec "in" with
      | none => rfl
      | some body =>
        simp only [Option.map_some]
        cases eval input scope <;> rfl
  | _ => rfl

theorem eval_patternMatchForm (arg : Value) (scope : Scope) :
    eval (.operator "$regexMatch" arg) scope =
      match arg.field? "input", arg.field? "regex" with
      | none, _ => fail (.patternPart "input")
      | _, none => fail (.patternPart "regex")
      | some input, some pattern =>
        (eval input scope).bind fun text => (eval pattern scope).bind fun source =>
          match arg.field? "options" with
          | none => applyPatternMatch text source none
          | some options => (eval options scope).bind (applyPatternMatch text source) := by
  cases arg with
  | object spec =>
    rw [operator, eval.eq_def]
    simp only [show isOperatorName "$regexMatch" = true from rfl,
      show SpecialForm.ofName? "$regexMatch" = some .patternMatch from rfl, if_true,
        evalMember?_eq, field?]
    cases Document.value? spec "input" with
    | none => rfl
    | some input =>
      cases Document.value? spec "regex" with
      | none => rfl
      | some pattern =>
        simp only [Option.map_some]
        cases eval input scope with
        | error e => rfl
        | ok text =>
          cases eval pattern scope with
          | error e => rfl
          | ok source =>
            cases Document.value? spec "options" with
            | none => rfl
            | some options =>
              simp only [Option.map_some, Except.bind]
              cases eval options scope <;> rfl
  | _ => rfl

theorem eval_getFieldForm (spec : Document) (scope : Scope) :
    eval (.operator "$getField" (.object spec)) scope =
      match (Value.object spec).field? "field" with
      | none => fail .fieldName
      | some field =>
        match (Value.object spec).field? "input" with
        | none => applyGetField field.string? (some scope.root)
        | some input => (eval input scope).bind (applyGetField field.string?) := by
  rw [operator, eval.eq_def]
  simp only [show isOperatorName "$getField" = true from rfl, show SpecialForm.ofName?
    "$getField" = some .getField from rfl, if_true, evalMember?_eq, field?]
  cases Document.value? spec "field" with
  | none => rfl
  | some field =>
    cases Document.value? spec "input" with
    | none => rfl
    | some input =>
      simp only [Option.map_some]
      cases eval input scope <;> rfl

/-- An object that applies no operator is evaluated member by member. -/
theorem eval_plainObject {fields : Document} (h : (Value.object fields).operator? = none)
    (scope : Scope) :
    eval (.object fields) scope = (evalFields fields scope).map fun members =>
        some (.object members) := by
  match fields with
  | [] => rfl
  | [(key, v)] =>
    have hkey : isOperatorName key = false := by simpa [operator?] using h
    rw [eval.eq_def, evalFields_cons_eq]
    simp only [hkey, Bool.false_eq_true, if_false]
    cases eval v scope with
    | error e => rfl
    | ok r => cases r <;> rfl
  | m :: n :: rest =>
    rw [eval.eq_def]
    simp only
    cases evalFields (m :: n :: rest) scope <;> rfl

theorem eval_unknown {key : String} (hkey : isOperatorName key = true)
    (hform : SpecialForm.ofName? key = none)
    (hop : Operator.ofName? key = none) (arg : Value) (scope : Scope) :
    eval (.operator key arg) scope = .error (.unknownOperator key) := by
  rw [operator, eval.eq_def]
  simp only [hkey, hform, hop, if_true]

theorem eval_getFieldText {arg : Value} (h : arg.fields? = none) (scope : Scope) :
    eval (.operator "$getField" arg) scope = applyGetField arg.string? (some scope.root) := by
  cases arg with
  | object spec => simp [fields?] at h
  | _ => rfl

end Value

/-! ## Consistent results -/

/-- Whether two computations do not return different results. -/
def Consistent {α : Type} (r s : Except ExecError α) : Prop :=
    ∀ a b, r = .ok a → s = .ok b → a = b

namespace Consistent

variable {α β : Type} {r s : Except ExecError α}

theorem refl (r : Except ExecError α) : Consistent r r :=
    fun _ _ ha hb => Except.ok.inj (ha.symm.trans hb)

theorem error_left (e : ExecError) (s : Except ExecError α) : Consistent (.error e) s := by
  intro a b ha
  simp at ha

theorem error_right (r : Except ExecError α) (e : ExecError) : Consistent r (.error e) := by
  intro a b _ hb
  simp at hb

/-- What goes on consistently behind consistent results is consistent. -/
theorem bind (h : Consistent r s) {f g : α → Except ExecError β}
    (hfg : ∀ a, Consistent (f a) (g a)) : Consistent (r.bind f) (s.bind g) := by
  cases r with
  | error e => exact error_left e _
  | ok a =>
    cases s with
    | error e => exact error_right _ e
    | ok b => exact h a b rfl rfl ▸ hfg a

theorem map (h : Consistent r s) (f : α → β) : Consistent (r.map f) (s.map f) := by
  cases r with
  | error e => exact error_left e _
  | ok a =>
    cases s with
    | error e => exact error_right _ e
    | ok b => exact h a b rfl rfl ▸ refl _

end Consistent

namespace Value

/-- Whether two expressions evaluate to the same wherever both evaluate. -/
def Agrees (v w : Value) : Prop := ∀ scope, Consistent (eval v scope) (eval w scope)

variable {v w a b : Value} {items others : List Value} {fields members : Document}
  {scope : Scope}

theorem Agrees.refl (v : Value) : Agrees v v := fun scope => .refl (eval v scope)

theorem consistent_evalItems (h : List.Forall₂ Agrees items others) (scope : Scope) :
    Consistent (evalItems items scope) (evalItems others scope) := by
  induction h with
  | nil => exact .refl _
  | cons hfirst _ ih =>
    rw [evalItems_cons_eq, evalItems_cons_eq]
    exact (hfirst scope).bind fun _ => ih.bind fun _ => .refl _

theorem consistent_evalFields
    (h : List.Forall₂ (fun m n => m.1 = n.1 ∧ Agrees m.2 n.2) fields members) (scope : Scope) :
    Consistent (evalFields fields scope) (evalFields members scope) := by
  induction h with
  | nil => exact .refl _
  | @cons m n _ _ hfirst _ ih =>
    obtain ⟨name, v⟩ := m
    obtain ⟨_, w⟩ := n
    obtain ⟨rfl, hvalue⟩ := hfirst
    rw [evalFields_cons_eq, evalFields_cons_eq]
    exact (hvalue scope).bind fun _ => ih.bind fun _ => .refl _

/-- A junction returns the truth that settles it if some condition has that; else all conditions
have the other one. -/
theorem evalUntil_ok {want : Bool} {r : Option Value} (h : evalUntil want items scope = .ok r) :
    (r = some (.bool want) ∧ ∃ item ∈ items, ∃ v, eval item scope = .ok v ∧
      isTruthy? v = want) ∨ (r = some (.bool !want) ∧ ∀ item ∈ items, ∃ v, eval item scope =
      .ok v ∧ isTruthy? v ≠ want) := by
  induction items with
  | nil => exact .inr ⟨(Except.ok.inj h).symm, fun _ hmem => absurd hmem List.not_mem_nil⟩
  | cons item rest ih =>
    rw [evalUntil] at h
    cases hv : eval item scope with
    | error e => simp [hv] at h
    | ok v =>
      simp only [hv] at h
      by_cases htruth : isTruthy? v = want
      · rw [if_pos htruth] at h
        exact .inl ⟨(Except.ok.inj h).symm, item, List.mem_cons_self, v, hv, htruth⟩
      · rw [if_neg htruth] at h
        rcases ih h with ⟨hr, x, hx, hsettles⟩ | ⟨hr, hall⟩
        · exact .inl ⟨hr, x, List.mem_cons_of_mem item hx, hsettles⟩
        · exact .inr ⟨hr, List.forall_mem_cons.mpr ⟨⟨v, hv, htruth⟩, hall⟩⟩

/-- The order of the conditions of a junction does not count: a condition that settles one of
them has a partner in the other one, which would have to settle that. -/
theorem consistent_evalUntil (want : Bool) (hleft : ∀ v ∈ items, ∃ w ∈ others, Agrees v w)
    (hright : ∀ w ∈ others, ∃ v ∈ items, Agrees v w) (scope : Scope) :
    Consistent (evalUntil want items scope) (evalUntil want others scope) := by
  intro r s hr hs
  rcases evalUntil_ok hr with ⟨rfl, v, hv, p, hp, hsettles⟩ | ⟨rfl, hall⟩
  · rcases evalUntil_ok hs with ⟨rfl, -⟩ | ⟨-, hall'⟩
    · rfl
    · obtain ⟨w, hw, hagrees⟩ := hleft v hv
      obtain ⟨q, hq, hother⟩ := hall' w hw
      exact absurd (hagrees scope p q hp hq ▸ hsettles) hother
  · rcases evalUntil_ok hs with ⟨-, w, hw, q, hq, hsettles⟩ | ⟨rfl, -⟩
    · obtain ⟨v, hv, hagrees⟩ := hright w hw
      obtain ⟨p, hp, hother⟩ := hall v hv
      exact absurd ((hagrees scope p q hp hq).symm ▸ hsettles) hother
    · rfl

theorem eq_array_of_items? (h : v.items? = some items) : v = .array items := by
  cases v with
  | array others => exact congrArg Value.array (Option.some.inj h)
  | _ => simp [items?] at h

theorem eq_object_of_fields? (h : v.fields? = some fields) : v = .object fields := by
  cases v with
  | object others => exact congrArg Value.object (Option.some.inj h)
  | _ => simp [fields?] at h

/-- Members that correspond are both missing or both there. -/
theorem rel_cases {R : Value → Value → Prop} {p q : Option Value} (h : Option.Rel R p q) :
    (p = none ∧ q = none) ∨ ∃ a b, p = some a ∧ q = some b ∧ R a b := by
  cases h with
  | none => exact .inl ⟨rfl, rfl⟩
  | some hab => exact .inr ⟨_, _, rfl, rfl, hab⟩

/-- Whether parameters agree if they are there, and are there in both or in none. -/
def ParametersAgree (names : List String) (v w : Value) : Prop :=
  ∀ name ∈ names, Option.Rel Agrees (v.field? name) (w.field? name)

theorem consistent_evalBranches
    (h : List.Forall₂ (ParametersAgree ["case", "then"]) items others) (scope : Scope) :
    Consistent (evalBranches items scope) (evalBranches others scope) := by
  induction h with
  | nil => exact .refl _
  | @cons v w _ _ hfirst _ ih =>
    rw [evalBranches_cons_eq, evalBranches_cons_eq]
    rcases rel_cases (hfirst "case" (by simp)) with ⟨hv, hw⟩ | ⟨_, _, hv, hw, hcondition⟩
      <;> rw [hv, hw]
    · exact .refl _
    · refine (hcondition scope).bind fun r => ?_
      split
      · rcases rel_cases (hfirst "then" (by simp)) with ⟨hv, hw⟩ | ⟨_, _, hv, hw, hbody⟩
          <;> rw [hv, hw]
        · exact .refl _
        · exact (hbody scope).map some
      · exact ih

theorem consistent_applyMap {body other : Value → Evaluation}
    (h : ∀ item, Consistent (body item) (other item))
    (input : Option Value) : Consistent (applyMap body input) (applyMap other input) := by
  have hitems : ∀ items, Consistent (mapItems body items) (mapItems other items) := by
    intro items
    induction items with
    | nil => exact .refl _
    | cons item rest ih =>
      have hcons : ∀ f : Value → Evaluation, mapItems f (item :: rest) =
          (f item).bind fun v => (mapItems f rest).bind fun vs => .ok (v.getD .null :: vs) := by
        intro f
        rw [mapItems]
        cases f item with
        | error e => rfl
        | ok v => cases mapItems f rest <;> rfl
      rw [hcons, hcons]
      exact (h item).bind fun _ => ih.bind fun _ => .refl _
  unfold applyMap
  split
  · exact .refl _
  · exact .refl _
  · exact (hitems _).map _
  · exact .refl _

/-! ## Special forms of parts that agree -/

theorem agrees_junction (settles : Bool)
    (hitems : ∀ items, a = .array items → ∃ others, b = .array others ∧
      (∀ v ∈ items, ∃ w ∈ others, Agrees v w) ∧ ∀ w ∈ others, ∃ v ∈ items, Agrees v w)
    (hsingle : a.items? = none → b.items? = none ∧ Agrees a b) :
    Agrees (.operator (if settles then "$or" else "$and") a)
        (.operator (if settles then "$or" else "$and") b) := by
  intro scope
  rw [eval_junctionForm, eval_junctionForm]
  cases hshape : a.items? with
  | none =>
    obtain ⟨hb, hagrees⟩ := hsingle hshape
    split
    · simp [items?] at hshape
    · split
      · simp [items?] at hb
      · exact (hagrees scope).bind fun _ => .refl _
  | some items =>
    obtain rfl := eq_array_of_items? hshape
    obtain ⟨others, rfl, hleft, hright⟩ := hitems items rfl
    exact consistent_evalUntil settles hleft hright scope

theorem consistent_choice {condition condition' yes yes' no no' : Value}
    (hcondition : Agrees condition condition')
    (hyes : Agrees yes yes') (hno : Agrees no no') (scope : Scope) :
    Consistent ((eval condition scope).bind fun v => if isTruthy? v then eval yes scope else
      eval no scope) ((eval condition' scope).bind fun v => if isTruthy? v then
      eval yes' scope else eval no' scope) := by
  refine (hcondition scope).bind fun v => ?_
  split
  · exact hyes scope
  · exact hno scope

theorem agrees_conditional
    (hparameters : ParametersAgree ["if", "then", "else"] (.object fields) (.object members)) :
    Agrees (.operator "$cond" (.object fields)) (.operator "$cond" (.object members)) := by
  intro scope
  rw [eval_conditionalForm, eval_conditionalForm]
  rcases rel_cases (hparameters "if" (by simp)) with ⟨hv, hw⟩ | ⟨_, _, hv, hw, hcondition⟩
    <;> rw [hv, hw]
  · exact .error_left _ _
  rcases rel_cases (hparameters "then" (by simp)) with ⟨hv, hw⟩ | ⟨_, _, hv, hw, hyes⟩
    <;> rw [hv, hw]
  · exact .error_left _ _
  rcases rel_cases (hparameters "else" (by simp)) with ⟨hv, hw⟩ | ⟨_, _, hv, hw, hno⟩
    <;> rw [hv, hw]
  · exact .error_left _ _
  exact consistent_choice hcondition hyes hno scope

theorem agrees_switch (hparameters : ParametersAgree ["default"] a b)
    (hbranches : Option.Rel (List.Forall₂ (ParametersAgree ["case", "then"]))
      ((a.field? "branches").bind items?) ((b.field? "branches").bind items?)) :
    Agrees (.operator "$switch" a) (.operator "$switch" b) := by
  intro scope
  rw [eval_switchForm, eval_switchForm]
  generalize (a.field? "branches").bind items? = items at hbranches ⊢
  generalize (b.field? "branches").bind items? = others at hbranches ⊢
  cases hbranches with
  | none => exact .refl _
  | some hbranches =>
    refine (consistent_evalBranches hbranches scope).bind fun r => ?_
    split
    · exact .refl _
    · rcases rel_cases (hparameters "default" (by simp)) with ⟨hv, hw⟩ | ⟨_, _, hv, hw, hagrees⟩
        <;> rw [hv, hw]
      · exact .refl _
      · exact hagrees scope

theorem agrees_map (hname : (a.field? "as").bind string? = (b.field? "as").bind string?)
    (hparameters : ParametersAgree ["input", "in"] a b) :
    Agrees (.operator "$map" a) (.operator "$map" b) := by
  intro scope
  rw [eval_mapForm, eval_mapForm, hname]
  rcases rel_cases (hparameters "input" (by simp)) with ⟨hv, hw⟩ | ⟨_, _, hv, hw, hinput⟩
    <;> rw [hv, hw]
  · exact .error_left _ _
  rcases rel_cases (hparameters "in" (by simp)) with ⟨hv, hw⟩ | ⟨_, _, hv, hw, hbody⟩
    <;> rw [hv, hw]
  · exact .error_left _ _
  exact (hinput scope).bind fun v => consistent_applyMap (fun item => hbody _) v

theorem agrees_patternMatch (hparameters : ParametersAgree ["input", "regex", "options"] a b) :
    Agrees (.operator "$regexMatch" a) (.operator "$regexMatch" b) := by
  intro scope
  rw [eval_patternMatchForm, eval_patternMatchForm]
  rcases rel_cases (hparameters "input" (by simp)) with ⟨hv, hw⟩ | ⟨_, _, hv, hw, hinput⟩
    <;> rw [hv, hw]
  · exact .error_left _ _
  rcases rel_cases (hparameters "regex" (by simp)) with ⟨hv, hw⟩ | ⟨_, _, hv, hw, hpattern⟩
    <;> rw [hv, hw]
  · exact .error_left _ _
  refine (hinput scope).bind fun _ => (hpattern scope).bind fun _ => ?_
  rcases rel_cases (hparameters "options" (by simp)) with ⟨hv, hw⟩ | ⟨_, _, hv, hw, hoptions⟩
    <;> rw [hv, hw]
  · exact .refl _
  · exact (hoptions scope).bind fun _ => .refl _

theorem agrees_getField
    (hname : Option.Rel (fun v w => v.string? = w.string?)
      ((Value.object fields).field? "field") ((Value.object members).field? "field"))
    (hparameters : ParametersAgree ["input"] (.object fields) (.object members)) :
    Agrees (.operator "$getField" (.object fields))
        (.operator "$getField" (.object members)) := by
  intro scope
  rw [eval_getFieldForm, eval_getFieldForm]
  rcases rel_cases hname with ⟨hv, hw⟩ | ⟨_, _, hv, hw, hstring⟩ <;> rw [hv, hw]
  · exact .error_left _ _
  rcases rel_cases (hparameters "input" (by simp)) with ⟨hv, hw⟩ | ⟨_, _, hv, hw, hagrees⟩
    <;> rw [hv, hw]
  · simp only [hstring]
    exact .refl _
  · simp only [hstring]
    exact (hagrees scope).bind fun _ => .refl _

/-- An operator sees only what its operands evaluate to. -/
theorem agrees_apply (op : Operator)
    (hitems : ∀ items, a = .array items → ∃ others, b = .array others ∧
      List.Forall₂ Agrees items others)
    (hsingle : a.items? = none → b.items? = none ∧ Agrees a b) :
    Agrees (.operator op.name a) (.operator op.name b) := by
  intro scope
  cases hshape : a.items? with
  | none =>
    obtain ⟨hb, hagrees⟩ := hsingle hshape
    rw [eval_operator_single op hshape, eval_operator_single op hb]
    exact (hagrees scope).bind fun _ => .refl _
  | some items =>
    obtain rfl := eq_array_of_items? hshape
    obtain ⟨others, rfl, hagrees⟩ := hitems items rfl
    rw [eval_operator_array, eval_operator_array]
    exact (consistent_evalItems hagrees scope).bind fun _ => .refl _

end Value

end DocQuery
