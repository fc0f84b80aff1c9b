import DocQuery.Proofs.ClosedPipelines
set_option autoImplicit false

/-!
# Proofs: values in the place of variables

Where the value of a variable is known, a literal may stand in its place.  An expression in
which known variables are filled in evaluates to the same value, wherever only the other
variables have to be bound.
-/

namespace DocQuery

open Operator (found truth)

namespace Value

/-! ## Filled expressions -/

/-- A literal, or an expression for nothing. -/
def literalOf : Option Value → Value
  | some v => quote v
  | none => Access.fieldOf (quote (.object [])) ""

/-- A text, with a literal in its place if it reads a known variable. -/
def fillText (known : Document) (s : String) : Value :=
  match (Text.stripFirst? '$' s).bind (Text.stripFirst? '$') with
  | none => .string s
  | some text =>
    match Text.splitOnce? '.' text with
    | none =>
      match Document.value? known text with
      | some v => quote v
      | none => .string s
    | some (name, path) =>
      match Document.value? known name with
      | some v => literalOf (v.getPath path)
      | none => .string s

mutual

/-- An expression with literals in the place of known variables.  What is quoted stays as it is,
and so does the name of a field that is read. -/
def fill (known : Document) : Value → Value
  | .string s => fillText known s
  | .array items => .array (fillItems known items)
  | .object [(key, argument)] =>
    if key = "$literal" then .object [(key, argument)]
    else if key = "$getField" then .object [(key, fillInput known argument)]
    else .object [(key, fill known argument)]
  | .object fields => .object (fillFields known fields)
  | v => v

/-- The expressions of a list with literals in the place of known variables. -/
def fillItems (known : Document) : List Value → List Value
  | [] => []
  | v :: rest => fill known v :: fillItems known rest

/-- Members with literals in the place of known variables. -/
def fillFields (known : Document) : List (String × Value) → List (String × Value)
  | [] => []
  | (name, v) :: rest => (name, fill known v) :: fillFields known rest

/-- What a field is read from, with literals in the place of known variables. -/
def fillInput (known : Document) : Value → Value
  | .object spec => .object (fillInputMember known spec)
  | v => v

/-- The same for the member that says what a field is read from. -/
def fillInputMember (known : Document) : List (String × Value) → List (String × Value)
  | [] => []
  | (name, v) :: rest =>
    (name, if name = "input" then fill known v else v) :: fillInputMember known rest

end

section Shapes

variable (known : Document)

theorem fill_string (s : String) : fill known (.string s) = fillText known s := rfl

theorem fill_single (key : String) (argument : Value) :
    fill known (.object [(key, argument)]) =
      if key = "$literal" then .object [(key, argument)]
      else if key = "$getField" then .object [(key, fillInput known argument)]
      else .object [(key, fill known argument)] := rfl

theorem fill_members (m n : String × Value) (rest : Document) :
    fill known (.object (m :: n :: rest)) = .object (fillFields known (m :: n :: rest)) := rfl

theorem fillItems_eq_map (items : List Value) :
    fillItems known items = items.map (fill known) := by
  induction items with
  | nil => rfl
  | cons v rest ih => rw [fillItems, ih, List.map_cons]

theorem fillFields_eq_map (fields : Document) :
    fillFields known fields = fields.map fun m => (m.1, fill known m.2) := by
  induction fields with
  | nil => rfl
  | cons m rest ih =>
    obtain ⟨name, v⟩ := m
    rw [fillFields, ih, List.map_cons]

/-- A text that reads no variable stays as it is. -/
theorem fill_text {s : String} (h : isOperatorName s = false) :
    fill known (.string s) = .string s := by
  rw [fill_string, fillText, Text.stripFirst?_of_not_startsWith h]
  rfl

theorem fill_path {path : String} (h : isOperatorName path = false) :
    fill known (.string ("$" ++ path)) = .string ("$" ++ path) := by
  rw [fill_string, fillText, Text.stripFirst?_append, Option.bind_some,
    Text.stripFirst?_of_not_startsWith h]

theorem stripFirst?_variable (text : String) :
    (Text.stripFirst? '$' ("$$" ++ text)).bind (Text.stripFirst? '$') = some text := by
  have houter : Text.stripFirst? '$' ("$$" ++ text) = some ("$" ++ text) := by
    have h := Text.stripFirst?_append ("$" ++ text)
    rwa [← String.append_assoc] at h
  rw [houter, Option.bind_some, Text.stripFirst?_append]

theorem fill_variable {name : String} (h : '.' ∉ name.toList) :
    fill known (.string ("$$" ++ name)) =
      match Document.value? known name with
      | some v => quote v
      | none => .string ("$$" ++ name) := by
  rw [fill_string, fillText, stripFirst?_variable]
  simp only [Text.splitOnce?_of_notMem h]

theorem fill_member {name : String} (h : '.' ∉ name.toList) (path : String) :
    fill known (.string ("$$" ++ name ++ "." ++ path)) =
      match Document.value? known name with
      | some v => literalOf (v.getPath path)
      | none => .string ("$$" ++ name ++ "." ++ path) := by
  have htext : "$$" ++ name ++ "." ++ path = "$$" ++ (name ++ "." ++ path) := by
    simp only [String.append_assoc]
  rw [htext, fill_string, fillText, stripFirst?_variable]
  simp only [Text.splitOnce?_append h]

/-- What is quoted stays as it is. -/
theorem fill_quote (v : Value) : fill known (quote v) = quote v := by
  rfl

theorem fill_array (items : List Value) :
    fill known (.array items) = .array (items.map (fill known)) := by
  rw [← fillItems_eq_map]
  rfl

/-- Members of plain names are filled one by one. -/
theorem fill_object {fields : Document} (h : ∀ m ∈ fields, isOperatorName m.1 = false) :
    fill known (.object fields) = .object (fields.map fun m => (m.1, fill known m.2)) := by
  match fields with
  | [] => rfl
  | [(key, v)] =>
    have hkey : isOperatorName key = false := h (key, v) List.mem_cons_self
    have hliteral : key ≠ "$literal" := by
      rintro rfl
      simp [isOperatorName, Text.startsWith] at hkey
    have hfield : key ≠ "$getField" := by
      rintro rfl
      simp [isOperatorName, Text.startsWith] at hkey
    rw [fill_single, if_neg hliteral, if_neg hfield]
    rfl
  | m :: n :: rest => rw [fill_members, fillFields_eq_map]

/-- An operator keeps its name. -/
theorem fill_operator {name : String} (hliteral : name ≠ "$literal")
    (hfield : name ≠ "$getField")
    (arg : Value) : fill known (.operator name arg) = .operator name (fill known arg) := by
  rw [operator, fill_single, if_neg hliteral, if_neg hfield]
  rfl

theorem fill_apply (op : Operator) (arg : Value) :
    fill known (.operator op.name arg) = .operator op.name (fill known arg) := by
  have hform := op.specialForm_name
  refine fill_operator known ?_ ?_ arg <;>
  · intro hname
    rw [hname] at hform
    simp [SpecialForm.ofName?] at hform

theorem fill_fieldOf (input : Value) (name : String) :
    fill known (Access.fieldOf input name) = Access.fieldOf (fill known input) name := by
  rfl

theorem fill_choice (condition yes no : Value) :
    fill known (Join.choice condition yes no) =
      Join.choice (fill known condition) (fill known yes) (fill known no) := by
  rfl

theorem fill_switch (branches : List Value) (otherwise : Value) :
    fill known (.operator "$switch" (.object [("branches", .array branches),
      ("default", otherwise)])) = .operator "$switch" (.object [("branches",
      .array (branches.map (fill known))), ("default", fill known otherwise)]) := by
  rw [← fillItems_eq_map]
  rfl

theorem fill_map (array body : Value) :
    fill known (.operator "$map"
        (.object [("input", array), ("as", .string Access.itemName), ("in", body)])) =
      .operator "$map" (.object [("input", fill known array), ("as", .string Access.itemName),
        ("in", fill known body)]) := by
  rfl

theorem fill_patternMatch (input pattern : Value) (ignoreCase : Bool) :
    fill known (.operator "$regexMatch" (.object ([("input", input), ("regex", pattern)]
        ++ if ignoreCase then [("options", .string "i")] else []))) =
      .operator "$regexMatch" (.object ([("input", fill known input),
        ("regex", fill known pattern)] ++ if ignoreCase then
        [("options", .string "i")] else [])) := by
  cases ignoreCase <;> rfl

theorem fill_branch (condition result : Value) :
    fill known (branch condition result) =
        branch (fill known condition) (fill known result) := by
  rfl

/-- A text is filled with itself or with an operator that stands for a value. -/
theorem fillText_cases (s : String) :
    fillText known s = .string s ∨ ∃ fields, fillText known s = .object fields := by
  unfold fillText
  split
  · exact .inl rfl
  · split <;> split
    · exact .inr ⟨_, rfl⟩
    · exact .inl rfl
    · unfold literalOf
      split <;> exact .inr ⟨_, rfl⟩
    · exact .inl rfl

theorem exists_fill_object (fields : Document) :
    ∃ filled, fill known (.object fields) = .object filled := by
  match fields with
  | [] => exact ⟨_, rfl⟩
  | [(key, argument)] =>
    rw [fill_single]
    split
    · exact ⟨_, rfl⟩
    · split <;> exact ⟨_, rfl⟩
  | m :: n :: rest => exact ⟨_, rfl⟩

/-- Filling in does not make an array of an expression that is none. -/
theorem items?_fill {e : Value} (h : e.items? = none) : (fill known e).items? = none := by
  cases e with
  | array items => simp [items?] at h
  | string s =>
    rw [fill_string]
    rcases fillText_cases known s with htext | ⟨fields, htext⟩ <;> rw [htext] <;> rfl
  | object fields =>
    obtain ⟨filled, hfilled⟩ := exists_fill_object known fields
    rw [hfilled]
    rfl
  | _ => rfl

end Shapes

mutual

/-- Without known variables, nothing changes. -/
theorem fill_nil (v : Value) : fill [] v = v := by
  match v with
  | .string s =>
    rw [fill_string, fillText]
    split
    · rfl
    · split <;> rfl
  | .array items => exact congrArg Value.array (fillItems_nil items)
  | .object [] => rfl
  | .object [(key, argument)] =>
    rw [fill_single, fillInput_nil argument, fill_nil argument]
    split
    · rfl
    · split <;> rfl
  | .object (m :: n :: rest) => rw [fill_members, fillFields_nil (m :: n :: rest)]
  | .null | .bool _ | .int _ | .float _ | .decimal _ => rfl

theorem fillItems_nil (items : List Value) : fillItems [] items = items := by
  match items with
  | [] => rfl
  | v :: rest => rw [fillItems, fill_nil v, fillItems_nil rest]

theorem fillFields_nil (fields : List (String × Value)) : fillFields [] fields = fields := by
  match fields with
  | [] => rfl
  | (name, v) :: rest => rw [fillFields, fill_nil v, fillFields_nil rest]

theorem fillInput_nil (v : Value) : fillInput [] v = v := by
  match v with
  | .object spec => rw [fillInput, fillInputMember_nil spec]
  | .null | .bool _ | .int _ | .float _ | .decimal _ | .string _ | .array _ => rfl

theorem fillInputMember_nil (spec : List (String × Value)) :
    fillInputMember [] spec = spec := by
  match spec with
  | [] => rfl
  | (name, v) :: rest => rw [fillInputMember, fill_nil v, fillInputMember_nil rest, ite_self]

end

end Value

/-! ## Variables -/

/-- Variables that have the known values, and others that may lack these but are the same
otherwise. -/
structure Document.Knows (known : Document) (names : List String) (vars lacking : Document) :
    Prop where
  plain : ∀ name ∈ names, ∀ v, Document.value? known name = some v →
    Scope.isRootName name = false
  bound : ∀ name ∈ names, ∀ v, Document.value? known name = some v →
    Document.value? vars name = some v
  others : ∀ name ∈ names, Document.value? known name = none →
    Document.value? lacking name = Document.value? vars name

namespace Document.Knows

variable {known vars lacking : Document} {names : List String}

theorem variableOf_bound (h : Knows known names vars lacking) {name : String}
    (hname : name ∈ names)
    {v : Value} (hv : Document.value? known name = some v) (root : Value) :
    Scope.variableOf ⟨root, vars⟩ name = .ok v := by
  simp only [Scope.variableOf, h.plain name hname v hv, h.bound name hname v hv,
    Bool.false_eq_true, if_false]

theorem variableOf_other (h : Knows known names vars lacking) {name : String}
    (hname : name ∈ names) (hnone : Document.value? known name = none) (root : Value) :
    Scope.variableOf ⟨root, lacking⟩ name = Scope.variableOf ⟨root, vars⟩ name := by
  simp only [Scope.variableOf, h.others name hname hnone]

/-- One more variable that is not known. -/
theorem insert (h : Knows known names vars lacking) {item : String}
    (hitem : Document.value? known item = none) (v : Value) :
    Knows known (item :: names) (Document.insert vars item v)
      (Document.insert lacking item v) where
  plain := by
    intro name hname w hw
    have hne : name ≠ item := by
      rintro rfl
      simp [hitem] at hw
    exact h.plain name (List.mem_of_ne_of_mem hne hname) w hw
  bound := by
    intro name hname w hw
    have hne : name ≠ item := by
      rintro rfl
      simp [hitem] at hw
    rw [Document.value?_insert_ne _ _ hne.symm]
    exact h.bound name (List.mem_of_ne_of_mem hne hname) w hw
  others := by
    intro name hname hnone
    by_cases hne : name = item
    · subst hne
      rw [Document.value?_insert_self, Document.value?_insert_self]
    · rw [Document.value?_insert_ne _ _ (Ne.symm hne), Document.value?_insert_ne _ _
        (Ne.symm hne)]
      exact h.others name (List.mem_of_ne_of_mem hne hname) hnone

end Document.Knows

/-! ## Values of filled expressions -/

namespace Value

section Values

variable {known : Document} {scope lacking : Scope}

theorem eval_literalOf (v : Option Value) (scope : Scope) :
    eval (literalOf v) scope = .ok v := by
  cases v with
  | some v => rfl
  | none => rfl

/-- Expressions that evaluate to the same, before and after the known variables are filled
in. -/
theorem evalItems_fill {items : List Value}
    (h : ∀ item ∈ items, eval (fill known item) lacking = eval item scope) :
    evalItems (items.map (fill known)) lacking = evalItems items scope := by
  induction items with
  | nil => rfl
  | cons item rest ih =>
    have hrest := ih fun i hi => h i (List.mem_cons_of_mem item hi)
    simp only [List.map_cons, evalItems, h item List.mem_cons_self, hrest]

theorem evalUntil_fill (want : Bool) {items : List Value}
    (h : ∀ item ∈ items, eval (fill known item) lacking = eval item scope) :
    evalUntil want (items.map (fill known)) lacking = evalUntil want items scope := by
  induction items with
  | nil => rfl
  | cons item rest ih =>
    have hrest := ih fun i hi => h i (List.mem_cons_of_mem item hi)
    simp only [List.map_cons, evalUntil, h item List.mem_cons_self, hrest]

theorem evalFields_fill {fields : Document}
    (h : ∀ m ∈ fields, eval (fill known m.2) lacking = eval m.2 scope) :
    evalFields (fields.map fun m => (m.1, fill known m.2)) lacking =
        evalFields fields scope := by
  induction fields with
  | nil => rfl
  | cons m rest ih =>
    obtain ⟨name, v⟩ := m
    have hfirst := h (name, v) List.mem_cons_self
    have hrest := ih fun i hi => h i (List.mem_cons_of_mem _ hi)
    simp only [List.map_cons, evalFields, hrest]
    rw [hfirst]

/-- An object with one plain member, which is left out if it has no value. -/
theorem eval_object_single {key : String} (h : isOperatorName key = false) (v : Value)
    (scope : Scope) : eval (.object [(key, v)]) scope =
      (eval v scope).bind fun w => found (.object (w.toList.map fun w => (key, w))) := by
  rw [eval.eq_def]
  simp only [h, Bool.false_eq_true, if_false]
  cases eval v scope with
  | error error => rfl
  | ok w => cases w <;> rfl

theorem eval_object_fill {fields : Document} (hnames : ∀ m ∈ fields, isOperatorName m.1 = false)
    (h : ∀ m ∈ fields, eval (fill known m.2) lacking = eval m.2 scope) :
    eval (fill known (.object fields)) lacking = eval (.object fields) scope := by
  rw [fill_object known hnames]
  match fields with
  | [] => rfl
  | [(key, v)] =>
    have hname : isOperatorName key = false := hnames (key, v) List.mem_cons_self
    have hv : eval (fill known v) lacking = eval v scope := h (key, v) List.mem_cons_self
    rw [List.map_cons, List.map_nil, eval_object_single hname, eval_object_single hname, hv]
  | m :: n :: rest =>
    have hmembers := evalFields_fill h
    simp only [List.map_cons] at hmembers ⊢
    simp only [eval, hmembers]

theorem evalBranches_fill {branches : List (Value × Value)}
    (hcases : ∀ b ∈ branches, eval (fill known b.1) lacking = eval b.1 scope)
    (hbodies : ∀ b ∈ branches, eval (fill known b.2) lacking = eval b.2 scope) :
    evalBranches ((branches.map fun b => branch b.1 b.2).map (fill known)) lacking =
      evalBranches (branches.map fun b => branch b.1 b.2) scope := by
  induction branches with
  | nil => rfl
  | cons b rest ih =>
    have hrest := ih (fun i hi => hcases i (List.mem_cons_of_mem b hi))
      fun i hi => hbodies i (List.mem_cons_of_mem b hi)
    simp only [List.map_cons, fill_branch, evalBranches_cons, hcases b List.mem_cons_self,
      hbodies b List.mem_cons_self, hrest]

/-- An expression evaluates to the same before and after known variables are filled in, and so
do the items of one that is a list. -/
structure FillsIn (known : Document) (scope lacking : Scope) (e : Value) : Prop where
  value : eval (fill known e) lacking = eval e scope
  items : ∀ items, e = .array items → evalItems (items.map (fill known)) lacking =
    evalItems items scope

namespace FillsIn

theorem of_single {e : Value} (hsingle : e.items? = none)
    (h : eval (fill known e) lacking = eval e scope) : FillsIn known scope lacking e where
  value := h
  items := by
    rintro items rfl
    simp [items?] at hsingle

theorem array {items : List Value} (h : ∀ item ∈ items, FillsIn known scope lacking item) :
    FillsIn known scope lacking (.array items) where
  value := by
    rw [fill_array, eval_array, eval_array, evalItems_fill fun item hitem =>
      (h item hitem).value]
  items := by
    intro others heq
    obtain rfl := Value.array.inj heq
    exact evalItems_fill fun item hitem => (h item hitem).value

theorem apply (op : Operator) {arg : Value} (h : FillsIn known scope lacking arg) :
    FillsIn known scope lacking (.operator op.name arg) := by
  refine of_single rfl ?_
  rw [fill_apply]
  cases harray : arg.items? with
  | none =>
    rw [eval_operator_single op (items?_fill known harray), eval_operator_single op
      harray, h.value]
  | some items =>
    obtain rfl : arg = .array items := by cases arg <;> simp_all [Value.items?]
    rw [fill_array, eval_operator_array, eval_operator_array, h.items items rfl]

theorem constant {v : Value} (hstring : v.string? = none) (hitems : v.items? = none)
    (hfields : v.fields? = none) : FillsIn known scope lacking v := by
  refine of_single hitems ?_
  cases v with
  | string s => simp [string?] at hstring
  | array items => simp [items?] at hitems
  | object fields => simp [fields?] at hfields
  | _ => rfl

theorem text {s : String} (hplain : isOperatorName s = false) :
    FillsIn known scope lacking (.string s) := by
  refine of_single rfl ?_
  rw [fill_text known hplain, eval_string, eval_string, read_of_not_operatorName hplain,
    read_of_not_operatorName hplain]

theorem bound {name : String} (hname : '.' ∉ name.toList)
    (hbound : ∀ v, Document.value? known name = some v → scope.variableOf name = .ok v)
    (hother : Document.value? known name = none → lacking.variableOf name =
      scope.variableOf name) :
    FillsIn known scope lacking (.string ("$$" ++ name)) := by
  refine of_single rfl ?_
  rw [fill_variable known hname]
  cases hv : Document.value? known name with
  | some v =>
    rw [eval_quote, eval_string, (PathText.bound _ v hname (hbound v hv)).read, walk_nil]
    rfl
  | none =>
    rw [eval_string, eval_string, PathText.read_variable, PathText.read_variable,
      Scope.reference, Scope.reference, Text.splitOnce?_of_notMem hname]
    simp only [hother hv]

theorem member {name path : String} (hname : '.' ∉ name.toList)
    (hbound : ∀ v, Document.value? known name = some v → scope.variableOf name = .ok v)
    (hother : Document.value? known name = none → lacking.variableOf name =
      scope.variableOf name) :
    FillsIn known scope lacking (.string ("$$" ++ name ++ "." ++ path)) := by
  refine of_single rfl ?_
  rw [fill_member known hname]
  cases hv : Document.value? known name with
  | some v =>
    rw [eval_string, (PathText.member _ v path hname (hbound v hv)).read]
    exact eval_literalOf (v.getPath path) lacking
  | none =>
    have htext : "$$" ++ name ++ "." ++ path = "$$" ++ (name ++ "." ++ path) := by
      simp only [String.append_assoc]
    rw [htext, eval_string, eval_string, PathText.read_variable, PathText.read_variable,
      Scope.reference, Scope.reference, Text.splitOnce?_append hname]
    simp only [hother hv]

theorem conjunction {items : List Value}
    (h : ∀ item ∈ items, FillsIn known scope lacking item) :
    FillsIn known scope lacking (.operator "$and" (.array items)) := by
  refine of_single rfl ?_
  rw [fill_operator known (by decide) (by decide), fill_array, eval_and, eval_and]
  exact evalUntil_fill false fun item hmem => (h item hmem).value

theorem disjunction {items : List Value}
    (h : ∀ item ∈ items, FillsIn known scope lacking item) :
    FillsIn known scope lacking (.operator "$or" (.array items)) := by
  refine of_single rfl ?_
  rw [fill_operator known (by decide) (by decide), fill_array, eval_or, eval_or]
  exact evalUntil_fill true fun item hmem => (h item hmem).value

/-- The item is bound on both sides, whatever it is called outside. -/
theorem mapOf {array body : Value} (harray : FillsIn known scope lacking array)
    (hbody : ∀ item, FillsIn known (scope.bind Access.itemName item)
      (lacking.bind Access.itemName item) body) :
    FillsIn known scope lacking (.operator "$map"
      (.object [("input", array), ("as", .string Access.itemName), ("in", body)])) := by
  refine of_single rfl ?_
  rw [fill_map, eval_map, eval_map, harray.value]
  simp only [fun item => (hbody item).value]

end FillsIn

end Values

variable {known vars lacking : Document}

/-- Closed expressions evaluate to the same where the known variables are not bound, once these
are filled in. -/
theorem Closed.fillsIn {names : List String} {e : Value} (h : Closed names e)
    (hitem : Document.value? known Access.itemName = none)
    (hvars : Document.Knows known names vars lacking) (root : Value) :
    FillsIn known ⟨root, vars⟩ ⟨root, lacking⟩ e := by
  induction h generalizing vars lacking with
  | constant hstring hitems hfields => exact .constant hstring hitems hfields
  | text hplain => exact .text hplain
  | path hplain =>
    refine .of_single rfl ?_
    rw [fill_path known hplain, eval_string, eval_string, PathText.read_root _ hplain,
      PathText.read_root _ hplain]
  | bound hname hmem =>
    exact .bound hname (fun _ hv => hvars.variableOf_bound hmem hv root)
      fun hnone => hvars.variableOf_other hmem hnone root
  | member hname hmem =>
    exact .member hname (fun _ hv => hvars.variableOf_bound hmem hv root)
      fun hnone => hvars.variableOf_other hmem hnone root
  | array _ ih => exact .array fun item hmem => ih item hmem hvars
  | object hnames _ ih =>
    exact .of_single rfl (eval_object_fill hnames fun m hm => (ih m hm hvars).value)
  | quoted v => exact .of_single rfl (by rw [fill_quote, eval_quote, eval_quote])
  | apply op _ ih => exact .apply op (ih hvars)
  | and _ ih => exact .conjunction fun item hmem => ih item hmem hvars
  | or _ ih => exact .disjunction fun item hmem => ih item hmem hvars
  | cond _ _ _ ihcondition ihyes ihno =>
    refine .of_single rfl ?_
    rw [fill_choice, Join.choice, Join.choice, eval_choice, eval_choice,
      (ihcondition hvars).value, (ihyes hvars).value, (ihno hvars).value]
  | switch _ _ _ ihcases ihbodies ihotherwise =>
    have hbranches := evalBranches_fill (fun b hb => (ihcases b hb hvars).value)
      fun b hb => (ihbodies b hb hvars).value
    refine .of_single rfl ?_
    rw [fill_switch, eval_switch, eval_switch, hbranches, (ihotherwise hvars).value]
  | map _ _ iharray ihbody =>
    exact .mapOf (iharray hvars) fun item => ihbody (hvars.insert hitem item)
  | patternMatch ignoreCase _ _ ihinput ihpattern =>
    refine .of_single rfl ?_
    rw [fill_patternMatch, eval_patternMatch, eval_patternMatch, (ihinput hvars).value,
      (ihpattern hvars).value]
  | field name _ ih =>
    refine .of_single rfl ?_
    rw [fill_fieldOf, eval_fieldOf, eval_fieldOf, (ih hvars).value]

/-- Where known variables are filled in, a closed expression evaluates to what it did, and they
need not be bound. -/
theorem Closed.eval_fill {names : List String} {e : Value} (h : Closed names e)
    (hitem : Document.value? known Access.itemName = none)
    (hvars : Document.Knows known names vars lacking) (root : Value) :
    eval (fill known e) ⟨root, lacking⟩ = eval e ⟨root, vars⟩ :=
  (h.fillsIn hitem hvars root).value

end Value

end DocQuery
