import DocQuery.Proofs.Failures
import DocQuery.Proofs.MentionedFields
import DocQuery.Proofs.Moves
set_option autoImplicit false

/-!
# Proofs: items are read one by one at most once

A path may read the items of one array one by one, and goes on inside of it from then on.  So
the variable of the current item is bound once in the expression of the path, and is read
nowhere else.
-/

namespace DocQuery

/-! ## Variables -/

namespace Value

/-- The variable that a text reads, alone or with a path behind it. -/
def variableOf? (s : String) : Option String :=
  ((Text.stripFirst? '$' s).bind (Text.stripFirst? '$')).map pathStart

mutual

/-- The variables that an expression reads without binding them.  What is quoted reads none, and
the name of a field that is read is no expression. -/
def freeVariables : Value → List String
  | .string s => (variableOf? s).toList
  | .array items => freeOfItems items
  | .object [(key, argument)] =>
    if key = "$literal" then []
    else if key = "$getField" then freeOfInput argument
    else if key = "$map" then freeOfMap argument
    else freeVariables argument
  | .object fields => freeOfFields fields
  | _ => []

/-- The same for several expressions. -/
def freeOfItems : List Value → List String
  | [] => []
  | item :: rest => freeVariables item ++ freeOfItems rest

/-- The same for the members of an object. -/
def freeOfFields : List (String × Value) → List String
  | [] => []
  | (_, v) :: rest => freeVariables v ++ freeOfFields rest

/-- The same for what a field is read from. -/
def freeOfInput : Value → List String
  | .object spec => freeOfInputMember spec
  | _ => []

/-- The same for the member that says what a field is read from. -/
def freeOfInputMember : List (String × Value) → List String
  | [] => []
  | (name, v) :: rest =>
    (if name = "input" then freeVariables v else []) ++ freeOfInputMember rest

/-- The same for a body that is evaluated for each item, which binds a variable. -/
def freeOfMap : Value → List String
  | .object spec => freeOfMapMembers spec (mapVariable spec)
  | _ => []

/-- The same for its members: only the body may read the variable. -/
def freeOfMapMembers : List (String × Value) → String → List String
  | [], _ => []
  | (name, v) :: rest, bound =>
    (if name = "as" then []
      else if name = "in" then (freeVariables v).filter (· ≠ bound)
      else freeVariables v) ++ freeOfMapMembers rest bound

end

theorem variableOf?_path (path : String) :
    variableOf? ("$" ++ path) = (Text.stripFirst? '$' path).map pathStart := by
  rw [variableOf?, Text.stripFirst?_append, Option.bind_some]

theorem pathStart_dollar (path : String) : pathStart ("$" ++ path) = "$" ++ pathStart path := by
  simp [pathStart, pathNames, Text.split, Text.partsOf]

/-- A stored path is read as a variable if its first name starts with a dollar sign too. -/
theorem variableOf?_path_eq_some {path x : String} :
    variableOf? ("$" ++ path) = some x ↔ pathStart path = "$" ++ x := by
  rw [variableOf?_path]
  by_cases hoperator : isOperatorName path = true
  · obtain ⟨rest, rfl⟩ := exists_of_isOperatorName hoperator
    rw [Text.stripFirst?_append, pathStart_dollar]
    simp
  · have hplain : isOperatorName path = false := by simpa using hoperator
    rw [Text.stripFirst?_of_not_startsWith hplain]
    refine ⟨fun h => by simp at h, fun h => ?_⟩
    obtain ⟨behind, hbehind⟩ := pathStart_isPrefix path
    rw [h] at hbehind
    simp [isOperatorName, Text.startsWith, ← hbehind] at hplain

/-- What stands behind a point does not change the variable that is read. -/
theorem variableOf?_extend (s name : String) :
    variableOf? (s ++ "." ++ name) = variableOf? s := by
  by_cases hoperator : isOperatorName s = true
  · obtain ⟨path, rfl⟩ := exists_of_isOperatorName hoperator
    have hlonger : variableOf? ("$" ++ path ++ "." ++ name) =
        variableOf? ("$" ++ (path ++ "." ++ name)) := by
      simp only [String.append_assoc]
    refine Option.ext fun x => ?_
    rw [hlonger, variableOf?_path_eq_some, variableOf?_path_eq_some, pathStart_extend]
  · have hplain : isOperatorName s = false := by simpa using hoperator
    rw [variableOf?, Text.stripFirst?_of_not_startsWith (Text.startsWith_append hplain name),
      variableOf?, Text.stripFirst?_of_not_startsWith hplain]

variable {x : String} {e array body : Value}

@[simp] theorem freeVariables_string (s : String) :
    (Value.string s).freeVariables = (variableOf? s).toList := by
  rw [freeVariables]

@[simp] theorem freeVariables_array (items : List Value) :
    (Value.array items).freeVariables = items.flatMap freeVariables := by
  rw [freeVariables]
  induction items with
  | nil => rfl
  | cons item rest ih => rw [freeOfItems, ih, List.flatMap_cons]

@[simp] theorem freeVariables_int (n : Int64) :
    (Value.int n).freeVariables = [] := by simp [freeVariables]

theorem freeVariables_operator {name : String} (hliteral : name ≠ "$literal")
    (hfield : name ≠ "$getField")
    (hmap : name ≠ "$map") (argument : Value) :
        (operator name argument).freeVariables = argument.freeVariables := by
  rw [operator, freeVariables, if_neg hliteral, if_neg hfield, if_neg hmap]

@[simp] theorem freeVariables_fieldOf (e : Value) (name : String) :
    (Access.fieldOf e name).freeVariables = e.freeVariables := by
  simp [Access.fieldOf, operator, freeVariables, freeOfInput, freeOfInputMember]

@[simp] theorem mem_freeVariables_keyOf {name : String} :
    x ∈ (Access.keyOf e name).freeVariables ↔ x ∈ e.freeVariables := by
  unfold Access.keyOf
  split
  · simp [variableOf?_extend]
  · simp

@[simp] theorem mem_freeVariables_lengthOf :
    x ∈ (Access.lengthOf e).freeVariables ↔ x ∈ e.freeVariables := by
  simp [Access.lengthOf, operator, freeVariables, freeOfFields]

@[simp] theorem mem_freeVariables_mapOf :
    x ∈ (Access.mapOf array body).freeVariables ↔
      x ∈ array.freeVariables ∨ x ∈ body.freeVariables ∧ x ≠ Access.itemName := by
  simp [Access.mapOf, operator, freeVariables, freeOfItems, freeOfMap, freeOfMapMembers,
    mapVariable, Document.value?, string?]

example :
    (Access.mapOf (.string "$$row.parts") (.array [.string "$$item.size", .string "$$row",
      .string "$size"])).freeVariables = ["row", "row"] := by
  decide

end Value

/-! ## Accesses -/

namespace Access

/-- The column or the item that an access starts at. -/
def origin : Access → Access
  | .key base _ _ => base.origin
  | .jsonKey base _ _ => base.origin
  | .index base _ _ => base.origin
  | .slice base _ _ _ => base.origin
  | .length base _ => base.origin
  | .each base _ => base.origin
  | start => start

/-- Whether the last thing that an access does is to read items one by one. -/
def isEach : Access → Bool
  | .each _ _ => true
  | _ => false

/-- How often an access reads items one by one, on its way and for each of the items. -/
def broadcasts : Access → Nat
  | .key base _ _ => base.broadcasts
  | .jsonKey base _ _ => base.broadcasts
  | .index base _ _ => base.broadcasts
  | .slice base _ _ _ => base.broadcasts
  | .length base _ => base.broadcasts
  | .each base inner => base.broadcasts + inner.broadcasts + 1
  | _ => 0

variable {a b start array inner : Access} {type : ValueType} {x : String}

/-- An access that reads no items one by one reads the variables that its start reads. -/
theorem mem_freeVariables_render (h : a.broadcasts = 0) :
    x ∈ a.render.freeVariables ↔ x ∈ a.origin.render.freeVariables := by
  induction a with
  | column | item | computed => rfl
  | key base name type ih =>
    rw [render, Value.mem_freeVariables_keyOf, ih h]
    rfl
  | jsonKey base name type ih =>
    rw [render, Value.freeVariables_fieldOf, ih h]
    rfl
  | index base position type ih =>
    rw [render, Value.freeVariables_operator (by decide) (by decide) (by decide),
      origin, ← ih h]
    simp
  | slice base first stop type ih =>
    rw [render, Value.freeVariables_operator (by decide) (by decide) (by decide),
      origin, ← ih h]
    simp
  | length base type ih =>
    rw [render, Value.mem_freeVariables_lengthOf, ih h]
    rfl
  | each base inner => simp [broadcasts] at h

theorem freeVariables_item (type : ValueType) :
    (Access.item type).render.freeVariables = [itemName] := by
  rw [render, Value.freeVariables_string]
  rfl

/-- A column is read as a variable if it or its alias is named like one. -/
theorem mem_freeVariables_column {joined : Option String} {name : String} :
    x ∈ (Access.column joined name type).render.freeVariables ↔
        Value.pathStart (joined.getD name) = "$" ++ x := by
  cases joined with
  | none =>
    rw [render, Value.freeVariables_string, Option.mem_toList, Value.variableOf?_path_eq_some]
    rfl
  | some joined =>
    rw [render, Value.freeVariables_string, Option.mem_toList, Value.variableOf?_extend,
      Value.variableOf?_path_eq_some]
    rfl

/-- An access to one value, behind a start and without reading items one by one. -/
structure IsSingle (start a : Access) : Prop where
  origin : a.origin = start
  broadcasts : a.broadcasts = 0
  whole : a.type.isMapped = false

/-- An access that reads no items one by one, or those of one array and goes on for each of them
only. -/
inductive IsShallow (start : Access) : Access → Prop where
  | single {a : Access} (h : IsSingle start a) : IsShallow start a
  | each {array inner : Access} {type : ValueType} (harray : IsSingle start array)
    (hinner : IsSingle (.item type) inner) :
      IsShallow start (.each array inner)

theorem IsShallow.origin (h : IsShallow start a) : a.origin = start := by
  cases h with
  | single ha => exact ha.origin
  | each harray hinner => exact harray.origin

/-- The variable of the current item is bound where items are read, so what is left are the
variables of the start. -/
theorem IsShallow.mem_freeVariables (h : IsShallow start a) :
    x ∈ a.render.freeVariables ↔ x ∈ start.render.freeVariables := by
  cases h with
  | single ha => rw [mem_freeVariables_render ha.broadcasts, ha.origin]
  | @each array inner itemType harray hinner =>
    have hitem : x ∈ inner.render.freeVariables ↔ x = itemName := by
      rw [mem_freeVariables_render hinner.broadcasts, hinner.origin, freeVariables_item,
        List.mem_singleton]
    rw [render, Value.mem_freeVariables_mapOf, mem_freeVariables_render harray.broadcasts,
      harray.origin, hitem]
    simp

/-- An access from a column that reads the items of at most one array one by one.  If it does,
this is the last thing that it does, and the rest of it is read from each item. -/
structure BroadcastsOnce (a : Access) : Prop where
  mapped : a.type.isMapped = a.isEach
  once : a.broadcasts = a.isEach.toNat
  column : ∃ joined name type, a.origin = .column joined name type
  item : ∀ array inner, a = .each array inner → ∃ type, inner.origin = .item type
  element : ∀ element, a.type = .mapped element → element.isMapped = false

theorem IsShallow.broadcastsOnce {joined : Option String} {name : String}
    (h : IsShallow (.column joined name type) a) : a.BroadcastsOnce := by
  have hcolumn : ∃ joined name type, a.origin = .column joined name type :=
    ⟨joined, name, type, h.origin⟩
  cases h with
  | single ha =>
    have hwhole := ha.whole
    have hflat : a.isEach = false := by
      cases a with
      | each => simp [Access.type, ValueType.isMapped] at hwhole
      | _ => rfl
    refine ⟨by rw [hwhole, hflat], by rw [ha.broadcasts, hflat]; rfl, hcolumn, ?_, ?_⟩
    · rintro array inner rfl
      cases hflat
    · intro element htype
      simp [htype, ValueType.isMapped] at hwhole
  | @each array inner itemType harray hinner =>
    refine ⟨rfl, ?_, hcolumn, ?_, ?_⟩
    · rw [broadcasts, harray.broadcasts, hinner.broadcasts]
      rfl
    · intro _ _ heq
      obtain ⟨-, rfl⟩ := each.inj heq
      exact ⟨itemType, hinner.origin⟩
    · intro element htype
      obtain rfl : inner.type = element := ValueType.mapped.inj htype
      exact hinner.whole

end Access

namespace Compiler

open Access (IsSingle IsShallow)

variable {c : Compiler} {ctx ctx' : Context} {path text : String} {start a b : Access}
  {m : Model} {name : String}
  {last : Bool}

/-! ## Steps -/

section Steps

/-- What a name of a path comes to: an access with a property, a lookup, or an error other than
that of an invalid path. -/
def GoesOn (P : Access → Prop) : Except CompileError Landing → Prop
  | .ok (.access b) => P b
  | .ok (.lookup _) => True
  | .error e => ∀ text, e ≠ .invalidPath text

theorem GoesOn.imp {P Q : Access → Prop} {r : Except CompileError Landing} (h : GoesOn P r)
    (hPQ : ∀ b, P b → Q b) : GoesOn Q r := by
  rcases r with e | (b | l)
  · exact h
  · exact hPQ b h
  · trivial

theorem goesOn_modelOf {P : Access → Prop} {e : CompileError} (h : c.modelOf name = .error e) :
    GoesOn P (.error e) := by
  obtain ⟨-, rfl⟩ := modelOf_error h
  intro text
  simp

theorem goesOn_lookupOr {P : Access → Prop} {e : CompileError}
    (he : ∀ text, e ≠ .invalidPath text) : GoesOn P (lookupOr name last e) := by
  unfold lookupOr
  split
  · trivial
  · exact he

theorem goesOn_keyStep (ha : IsSingle start a) (f : Field) :
    GoesOn (IsSingle start) (keyStep a m f) := by
  unfold keyStep
  split
  · intro text
    simp
  · exact ⟨ha.origin, ha.broadcasts, isMapped_ofField f.kind⟩

theorem goesOn_documentStep {e : CompileError} (ha : IsSingle start a)
    (he : ∀ text, e ≠ .invalidPath text) :
    GoesOn (IsSingle start) (documentStep a m name last e) := by
  unfold documentStep
  split
  · exact goesOn_keyStep ha _
  · exact goesOn_lookupOr he

theorem goesOn_memberStep (ha : IsSingle start a) (type : ValueType) :
    GoesOn (IsSingle start) (.ok (memberStep a type name last)) := by
  have hmember : IsSingle start (.jsonKey a name (.scalar .json)) :=
    ⟨ha.origin, ha.broadcasts, rfl⟩
  unfold memberStep
  dsimp only
  split
  · split
    · trivial
    · exact hmember
  · exact hmember

/-- The length of an array, a position in it or two of them read no items one by one. -/
theorem arrayStep_cases (ha : IsSingle start a) (model name : String) :
    (∃ b, arrayStep a model name = .ok (some b) ∧ IsSingle start b) ∨
      arrayStep a model name = .ok none ∨ arrayStep a model name =
      .error (.invalidSlice name) := by
  unfold arrayStep
  split
  · exact .inl ⟨_, rfl, ha.origin, ha.broadcasts, rfl⟩
  · split
    · exact .inl ⟨_, rfl, ha.origin, ha.broadcasts, rfl⟩
    · split
      · split
        · exact .inl ⟨_, rfl, ha.origin, ha.broadcasts, rfl⟩
        · exact .inr (.inr rfl)
      · exact .inr (.inl rfl)

/-- A field of the documents of an array is read from each of them. -/
theorem goesOn_itemStep (ha : IsSingle start a) (model : String) :
    GoesOn (IsShallow start) (itemStep a m model name) := by
  unfold itemStep
  split
  · rename_i f _
    have hkey : GoesOn (IsSingle _) (keyStep (.item (.embedded model)) m f) :=
      goesOn_keyStep ⟨rfl, rfl, rfl⟩ f
    split
    · rename_i landing hlanding
      rw [hlanding] at hkey
      cases landing with
      | access b => exact .each ha hkey
      | lookup l => trivial
    · rename_i e hfault
      rwa [hfault] at hkey
  · split <;> intro text <;> simp

/-- A name behind what is read from each item goes on for each of them, and reads no further
items one by one. -/
theorem goesOn_elementStep (ha : IsSingle start a) (mapped : ValueType) :
    GoesOn (IsSingle start) (c.elementStep a mapped name last) := by
  have hunsupported : ∀ text, c.unsupported name mapped ≠ .invalidPath text := fun text => by
    simp [unsupported]
  unfold elementStep
  split
  · rename_i model _
    rcases arrayStep_cases ha model name with ⟨b, hb, hsingle⟩ | hnone | hfault
    · rw [hb]
      exact hsingle
    · rw [hnone]
      dsimp only
      split
      · rename_i e hmodel
        exact goesOn_modelOf hmodel
      · split
        · intro text
          simp
        · exact goesOn_lookupOr hunsupported
    · rw [hfault]
      intro text
      simp
  · split
    · rename_i e hmodel
      exact goesOn_modelOf hmodel
    · exact goesOn_documentStep ha hunsupported
  · exact goesOn_memberStep ha mapped
  · exact goesOn_lookupOr hunsupported

/-- A name behind an access that reads no items one by one may read some. -/
theorem goesOn_step_single (ha : IsSingle start a) :
    GoesOn (IsShallow start) (c.step a name last) := by
  have hwhole := ha.whole
  unfold step
  split
  · split
    · rename_i e hmodel
      exact goesOn_modelOf hmodel
    · exact (goesOn_documentStep ha fun text => by simp).imp fun b hb => .single hb
  · rename_i model _
    rcases arrayStep_cases ha model name with ⟨b, hb, hsingle⟩ | hnone | hfault
    · rw [hb]
      exact .single hsingle
    · rw [hnone]
      dsimp only
      split
      · rename_i e hmodel
        exact goesOn_modelOf hmodel
      · exact goesOn_itemStep ha model
    · rw [hfault]
      intro text
      simp
  · rename_i htype
    simp [htype, ValueType.isMapped] at hwhole
  · exact (goesOn_memberStep ha _).imp fun b hb => .single hb
  · split
    · intro text
      simp [unsupported]
    · exact goesOn_lookupOr fun text => by simp [unsupported]

/-- A name behind any access of a path leads to another one, and makes the path no invalid
one. -/
theorem goesOn_step (ha : IsShallow start a) :
    GoesOn (IsShallow start) (c.step a name last) := by
  cases ha with
  | single ha => exact goesOn_step_single ha
  | @each array inner itemType harray hinner =>
    have helement : GoesOn _ (c.elementStep inner (.mapped inner.type) name last) :=
      goesOn_elementStep hinner _
    simp only [step, Access.type]
    split
    · rename_i e hfault
      rwa [hfault] at helement
    · rename_i landing hlanding
      rw [hlanding] at helement
      cases landing with
      | access next => exact .each harray helement
      | lookup l => trivial

theorem isShallow_step (ha : IsShallow start a) (h : c.step a name last = .ok (.access b)) :
    IsShallow start b := by
  have hgoes : GoesOn _ (c.step a name last) := goesOn_step ha
  rwa [h] at hgoes

theorem step_ne_invalidPath (ha : IsShallow start a) :
    c.step a name last ≠ .error (.invalidPath text) := by
  intro h
  have hgoes : GoesOn _ (c.step a name last) := goesOn_step ha
  rw [h] at hgoes
  exact hgoes text rfl

/-- All further names of a path lead to such accesses. -/
theorem isShallow_follow {names : List String} {joins : List Nat} {e : Ending}
    (ha : IsShallow start a)
    (h : c.follow path (.value a) names joins ctx = (.ok e, ctx')) :
        IsShallow start e.target := by
  induction names generalizing a with
  | nil =>
    obtain ⟨rfl, -⟩ := follow_value_nil_ok h
    exact ha
  | cons name rest ih =>
    rcases follow_value_cons_ok h with ⟨next, hstep, hnext⟩ | ⟨l, -, rfl, -⟩
    · exact ih (isShallow_step ha hstep) hnext
    · exact ha

theorem isSingle_column (joined : Option String) (f : Field) :
    IsSingle (.column joined f.column (.ofField f.kind))
        (.column joined f.column (.ofField f.kind)) :=
  ⟨rfl, rfl, isMapped_ofField f.kind⟩

/-- From a document, a path starts at one of its columns or at one of a joined document. -/
theorem isShallow_follow_document {joined : Option String} {relation : String}
    {names : List String} {joins : List Nat}
    {e : Ending} (h : c.follow path (.document m joined relation) names joins ctx =
      (.ok e, ctx')) :
    ∃ joined column type, IsShallow (.column joined column type) e.target := by
  induction names generalizing m joined relation joins ctx with
  | nil => simp [follow] at h
  | cons name rest ih =>
    obtain ⟨_, _, f, hnames, -, hcase⟩ := follow_document_ok h
    obtain ⟨rfl, rfl⟩ := List.cons.inj hnames
    rcases hcase with ⟨-, hcolumn⟩ | ⟨_, _, _, target, k, -, -, -, -, hjoin⟩
    · exact ⟨joined, f.column, _, isShallow_follow (.single (isSingle_column joined f)) hcolumn⟩
    · exact ih hjoin

end Steps

/-! ## Paths -/

/-- What a path leads to, where no column is computed. -/
theorem isShallow_followPath {e : Ending} (hannotations : ctx.annotations = [])
    (h : c.followPath ctx path = (.ok e, ctx')) :
    ∃ joined column type, IsShallow (.column joined column type) e.target := by
  obtain ⟨name, rest, -, -, ⟨type, hcomputed, -⟩ | ⟨-, hdocument⟩⟩ := followPath_ok h
  · simp [Context.computedType?_of_annotations hannotations] at hcomputed
  · exact isShallow_follow_document hdocument

/-- A lookup on such an access has a fragment. -/
theorem buildOn_of_shallow (ha : IsShallow start a) (l : Lookup) (rhs : Value) :
    ∃ e, l.buildOn a rhs = .ok e := by
  unfold Lookup.buildOn
  cases ha with
  | single ha =>
    rw [ha.whole]
    exact ⟨_, rfl⟩
  | each harray hinner =>
    unfold Lookup.buildMapped
    split
    · split <;> exact ⟨_, rfl⟩
    · exact ⟨_, rfl⟩

/-- Where no column is computed, a path that leads to a value reads the items of at most one
array one by one, whether it is the path of a filter or of a reference.  In its expression the
variable of the current item is read for each item only, unless the column or the alias at the
start is named like the variable.  No further name makes the path an invalid one, and every
lookup has a fragment on what it leads to. -/
theorem items_read_at_most_once {r : Resolved} (hannotations : ctx.annotations = [])
    (h : c.resolveLookup ctx path = (.ok r, ctx') ∨ c.resolveField ctx path = (.ok r, ctx')) :
    r.target.BroadcastsOnce ∧
      (Access.itemName ∈ r.target.render.freeVariables ↔ ∃ joined column type,
        r.target.origin = .column joined column type ∧
        Value.pathStart (joined.getD column) = "$" ++ Access.itemName) ∧
      (∀ name last text, c.step r.target name last ≠ .error (.invalidPath text)) ∧
      ∀ (l : Lookup) (rhs : Value), ∃ e, l.buildOn r.target rhs = .ok e := by
  obtain ⟨e, hfollow, htarget⟩ : ∃ e, c.followPath ctx path = (.ok e, ctx') ∧
      r.target = e.target := by
    rcases h with hlookup | hfield
    · obtain ⟨e, hfollow, hcompared⟩ := resolveLookup_ok hlookup
      obtain ⟨rfl, -⟩ := compared_ok hcompared
      exact ⟨e, hfollow, rfl⟩
    · exact resolveField_ok hfield
  obtain ⟨joined, column, type, hshallow⟩ := isShallow_followPath hannotations hfollow
  rw [htarget]
  refine ⟨hshallow.broadcastsOnce, ?_, fun _ _ _ => step_ne_invalidPath hshallow,
    buildOn_of_shallow hshallow⟩
  rw [hshallow.mem_freeVariables, hshallow.origin, Access.mem_freeVariables_column]
  refine ⟨fun h => ⟨joined, column, type, rfl, h⟩, ?_⟩
  rintro ⟨_, _, _, heq, hname⟩
  obtain ⟨rfl, rfl, -⟩ := Access.column.inj heq
  exact hname

/-- Stops of a bus, with values of any type about their times. -/
def busStop : Model where
  name := "Stop"
  storedCollection := none
  embedded := true
  fields := [⟨"times", .scalar .json, true, none⟩]

/-- Bus lines with their stops. -/
def busLine : Model where
  name := "Line"
  storedCollection := none
  embedded := false
  fields := [Model.primaryKey, ⟨"stops", .embeddedArray "Stop", false, none⟩]

/-- Tickets for a bus line.  The kind is stored under the name of a variable. -/
def busTicket : Model where
  name := "Ticket"
  storedCollection := none
  embedded := false
  fields := [Model.primaryKey, ⟨"line", .foreignKey "Line" none none, false, none⟩,
    ⟨"kind", .scalar .json, false, some "$item"⟩, ⟨"notes", .scalar .json, true, none⟩]

/-- Tickets for bus lines. -/
def busNetwork : Compiler := ⟨⟨[busTicket, busLine, busStop]⟩, .usual⟩

/-- Behind a relation and two positions, a member of what is read from each item. -/
theorem firstTimes_read_once : ∃ r ctx,
    (Context.ofModel busTicket).annotations = [] ∧
      busNetwork.resolveLookup (.ofModel busTicket) "line__stops__0_2__times__0__gt" =
        (.ok r, ctx) ∧
      r.target.isEach = true ∧ r.target.BroadcastsOnce ∧
        Access.itemName ∉ r.target.render.freeVariables ∧
      (∀ name last text, busNetwork.step r.target name last ≠ .error (.invalidPath text)) ∧
      ∃ e, Lookup.gt.buildOn r.target (.int 7) = .ok e := by
  have hpath : busNetwork.resolveLookup (.ofModel busTicket) "line__stops__0_2__times__0__gt" =
    (.ok _, _) := rfl
  obtain ⟨honce, hfree, hstep, hbuild⟩ := items_read_at_most_once rfl (.inl hpath)
  refine ⟨_, _, rfl, hpath, rfl, honce, fun hitem => ?_, hstep, hbuild .gt (.int 7)⟩
  obtain ⟨joined, column, type, horigin, hname⟩ := hfree.mp hitem
  obtain ⟨rfl, rfl, -⟩ := Access.column.inj horigin
  exact absurd hname (by decide)

/-- A column that is stored under the name of the variable is read as the variable, although
there are no items.  The name of a member is no variable, even where it is written like one. -/
theorem ticketKind_read_as_item :
    (Context.ofModel busTicket).annotations = [] ∧
      busNetwork.resolveLookup (.ofModel busTicket) "kind"
        = (.ok ⟨.column none "$item" (.scalar .json), .exact, []⟩, .ofModel busTicket) ∧
      (Access.column none "$item" (.scalar .json)).render = .string "$$item" ∧
      Access.itemName ∈ (Access.column none "$item" (.scalar .json)).render.freeVariables ∧
      busNetwork.resolveLookup (.ofModel busTicket) "notes__$$item"
        = (.ok ⟨.jsonKey (.column none "notes" (.scalar .json)) "$$item" (.scalar .json),
          .exact, []⟩, .ofModel busTicket) ∧
      (Access.jsonKey (.column none "notes" (.scalar .json)) "$$item" (.scalar .json)).render
        = Access.fieldOf (.string "$notes") "$$item" :=
  ⟨rfl, rfl, rfl, Access.mem_freeVariables_column.mpr rfl, rfl, rfl⟩

end Compiler

end DocQuery
