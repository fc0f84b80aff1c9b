import DocQuery.Proofs.PathRoots
set_option autoImplicit false

/-!
# Proofs: the fields that expressions mention

A path in an expression starts from a field of the row, or from a variable.  The fields that the
paths in an expression start from are read off its text, without running it.  An expression that
is put together from others mentions what they mention.
-/

namespace DocQuery

/-! ## Names -/

namespace Text

/-- No name of a path holds the mark that stands between the names. -/
theorem not_isInfix_doublyPartsOf (sep : Char) (cs : List Char) :
    ∀ part ∈ (doublyPartsOf sep cs).1 :: (doublyPartsOf sep cs).2, ¬ [sep, sep] <:+: part := by
  match cs with
  | [] => simp [doublyPartsOf]
  | [c] => simp [doublyPartsOf, List.infix_cons_iff]
  | c :: d :: rest =>
    by_cases hmark : c = sep ∧ d = sep
    · have ih := not_isInfix_doublyPartsOf sep rest
      rw [doublyPartsOf, if_pos hmark]
      exact List.forall_mem_cons.mpr ⟨by simp, ih⟩
    · obtain ⟨hfirst, hothers⟩ := List.forall_mem_cons.mp
        (not_isInfix_doublyPartsOf sep (d :: rest))
      have hstart := take_doublyPartsOf_ne sep (c :: d :: rest)
      rw [doublyPartsOf, if_neg hmark] at hstart ⊢
      refine List.forall_mem_cons.mpr ⟨fun hinfix => ?_, hothers⟩
      rcases List.infix_cons_iff.mp hinfix with hprefix | hbehind
      · exact hstart (List.prefix_iff_eq_take.mp hprefix).symm
      · exact hfirst hbehind

theorem not_isInfix_of_mem_segments {path name : String} (h : name ∈ segments path) :
    ¬ [segmentMark, segmentMark] <:+: name.toList := by
  have hparts := not_isInfix_doublyPartsOf segmentMark path.toList
  rcases List.mem_cons.mp h with rfl | hother
  · simpa using hparts _ List.mem_cons_self
  · obtain ⟨part, hpart, rfl⟩ := List.mem_map.mp hother
    simpa using hparts part (List.mem_cons_of_mem _ hpart)

/-- A path that starts with the mark has an empty name. -/
theorem empty_mem_segments {path : String} (h : [segmentMark, segmentMark] <+: path.toList) :
    "" ∈ segments path := by
  obtain ⟨behind, hbehind⟩ := h
  simp [segments, ← hbehind, doublyPartsOf]

end Text

/-- Whether a name starts with the mark between the names of a path.  Fields that a query
computes for itself have such names. -/
def IsReserved (name : String) : Prop := [Text.segmentMark, Text.segmentMark] <+: name.toList

instance (name : String) : Decidable (IsReserved name) :=
  inferInstanceAs (Decidable ([Text.segmentMark, Text.segmentMark] <+: name.toList))

namespace Value

/-- The field that a path starts from. -/
def pathStart (path : String) : String := (pathNames path).headD ""

theorem pathStart_extend (path name : String) :
    pathStart (path ++ "." ++ name) = pathStart path := by
  have hne := Text.split_ne_nil '.' path
  rw [pathStart, pathNames, Text.split_extend, pathStart, pathNames]
  cases hnames : Text.split '.' path with
  | nil => exact absurd hnames hne
  | cons first others => rfl

theorem pathStart_of_notMem {name : String} (h : '.' ∉ name.toList) :
    pathStart name = name := by
  rw [pathStart, pathNames, Text.split_of_notMem h]
  rfl

/-- A path starts with the characters of the field that it starts from. -/
theorem pathStart_isPrefix (path : String) : (pathStart path).toList <+: path.toList := by
  simpa [pathStart, pathNames, Text.split] using Text.partsOf_isPrefix '.' path.toList

/-- The field of the row that a text starts from, if it is a path into the row. -/
def rootOf? (s : String) : Option String := (Compiler.storedPath? (.string s)).map pathStart

theorem rootOf?_path (path : String) :
    rootOf? ("$" ++ path) = if isOperatorName path then none else some (pathStart path) := by
  rw [rootOf?, Compiler.storedPath?, Text.stripFirst?_append]
  dsimp only
  split <;> rfl

theorem rootOf?_text {s : String} (h : isOperatorName s = false) : rootOf? s = none := by
  rw [rootOf?, Compiler.storedPath?, Text.stripFirst?_of_not_startsWith h]
  rfl

theorem rootOf?_variable (name : String) : rootOf? ("$$" ++ name) = none := by
  rw [show "$$" ++ name = "$" ++ ("$" ++ name) by rw [← String.append_assoc]; rfl, rootOf?_path]
  simp [isOperatorName, Text.startsWith]

/-- A path into the row starts with a dollar sign, and its field stands right behind. -/
theorem isInfix_of_rootOf? {s x : String} (h : rootOf? s = some x) :
    x.toList <:+: s.toList := by
  by_cases hoperator : isOperatorName s = true
  · obtain ⟨path, rfl⟩ := exists_of_isOperatorName hoperator
    rw [rootOf?_path] at h
    split at h
    · simp at h
    · obtain rfl := Option.some.inj h
      exact List.IsInfix.trans (pathStart_isPrefix path).isInfix ⟨['$'], [], by simp⟩
  · rw [rootOf?_text (by simpa using hoperator)] at h
    simp at h

theorem rootOf?_extend (s name : String) : rootOf? (s ++ "." ++ name) = rootOf? s := by
  by_cases hoperator : isOperatorName s = true
  · obtain ⟨path, rfl⟩ := exists_of_isOperatorName hoperator
    rw [show "$" ++ path ++ "." ++ name = "$" ++
      (path ++ "." ++ name) by simp only [String.append_assoc], rootOf?_path,
      rootOf?_path, pathStart_extend, isOperatorName_extend]
  · have htext : isOperatorName s = false := by simpa using hoperator
    rw [rootOf?_text htext, rootOf?_text (Text.startsWith_append htext name)]

/-! ## Expressions -/

mutual

/-- The fields of the row that the paths in an expression start from.  What is quoted is no
path. -/
def roots : Value → List String
  | .string s => (rootOf? s).toList
  | .array items => rootsOfItems items
  | .object fields => rootsOfFields fields
  | _ => []

/-- The same for several expressions. -/
def rootsOfItems : List Value → List String
  | [] => []
  | item :: rest => item.roots ++ rootsOfItems rest

/-- The same for the members of an object, such as an operator with its argument. -/
def rootsOfFields : List (String × Value) → List String
  | [] => []
  | (name, v) :: rest => (if name = "$literal" then [] else v.roots) ++ rootsOfFields rest

end

variable {x : String} {a b e : Value}

@[simp] theorem roots_array (items : List Value) :
    (Value.array items).roots = items.flatMap roots := by
  rw [roots]
  induction items with
  | nil => rfl
  | cons item rest ih => rw [rootsOfItems, ih, List.flatMap_cons]

@[simp] theorem roots_object (fields : Document) :
    (Value.object fields).roots = fields.flatMap fun m => if m.1 = "$literal" then
        [] else m.2.roots := by
  rw [roots]
  induction fields with
  | nil => rfl
  | cons m rest ih => rw [rootsOfFields, ih, List.flatMap_cons]

@[simp] theorem roots_operator (name : String) (v : Value) :
    (operator name v).roots = if name = "$literal" then [] else v.roots := by
  simp [operator]

@[simp] theorem roots_string (s : String) :
    (Value.string s).roots = (rootOf? s).toList := by rw [roots]

@[simp] theorem roots_null : Value.null.roots = [] := by simp [roots]

@[simp] theorem roots_int (n : Int64) : (Value.int n).roots = [] := by simp [roots]

@[simp] theorem roots_bool (flag : Bool) : (Value.bool flag).roots = [] := by simp [roots]

theorem roots_text {s : String} (h : isOperatorName s = false) :
    (Value.string s).roots = [] := by
  simp [rootOf?_text h]

theorem roots_variable (name : String) : (Value.string ("$$" ++ name)).roots = [] := by
  simp [rootOf?_variable]

/-- A path mentions the field that it starts from, and nothing else. -/
theorem eq_of_mem_roots_path {path : String} (h : x ∈ (Value.string ("$" ++ path)).roots) :
    x = pathStart path := by
  rw [roots_string, rootOf?_path] at h
  split at h
  · simp at h
  · simpa using h

/-! ## Literals -/

@[simp] theorem roots_quote (v : Value) : (quote v).roots = [] := by simp [quote]

mutual

/-- A protected literal mentions nothing, whatever it holds. -/
@[simp] theorem roots_protect (v : Value) : v.protect.roots = [] := by
  match v with
  | .string s =>
    rw [protect]
    split
    · simp
    · rename_i hplain
      exact roots_text (by simpa using hplain)
  | .object fields => simp [protect]
  | .array items => simpa [protect] using roots_protectItems items
  | .null | .bool _ | .int _ | .float _ | .decimal _ => simp [protect, roots]

theorem roots_protectItems (items : List Value) : ∀ v ∈ protectItems items, v.roots = [] := by
  match items with
  | [] => simp [protectItems]
  | item :: rest =>
    rw [protectItems]
    exact List.forall_mem_cons.mpr ⟨roots_protect item, roots_protectItems rest⟩

end

@[simp] theorem roots_protectAlone (v : Value) : v.protectAlone.roots = [] := by
  cases v <;> simp [protectAlone]

/-! ## Predicates -/

theorem roots_binary {name : String} (h : name ≠ "$literal") :
    (binary name a b).roots = a.roots ++ b.roots := by
  simp [binary, h]

theorem mem_roots_nullCheck {flag : Bool} (h : x ∈ (nullCheck a flag).roots) : x ∈ a.roots := by
  have hmissing : rootOf? "missing" = none := rootOf?_text rfl
  cases flag <;> simpa [nullCheck, binary, hmissing] using h

theorem mem_roots_presentAnd {name : String} (hname : name ≠ "$literal")
    (h : x ∈ (presentAnd name a b).roots) : x ∈ a.roots ∨ x ∈ b.roots := by
  simp only [presentAnd, roots_operator, roots_array, List.flatMap_cons, List.flatMap_nil,
    List.append_nil, roots_binary hname, String.reduceEq, if_false, List.mem_append] at h
  rcases h with hboth | hcheck
  · exact hboth
  · exact .inl (mem_roots_nullCheck hcheck)

theorem mem_roots_boundsOf (h : x ∈ (boundsOf b).1.roots ∨ x ∈ (boundsOf b).2.roots) :
    x ∈ b.roots := by
  unfold boundsOf at h
  split at h
  · simpa using h
  · simpa using h

theorem mem_roots_rangeCheck (h : x ∈ (rangeCheck a b).roots) : x ∈ a.roots ∨ x ∈ b.roots := by
  simp only [rangeCheck, roots_operator, roots_array, List.flatMap_cons, List.flatMap_nil,
    List.append_nil, roots_binary (show "$gte" ≠ "$literal" by decide),
    roots_binary (show "$lte" ≠ "$literal" by decide),
    String.reduceEq, if_false, List.mem_append] at h
  rcases h with (hnull | ha | hlow) | (hnull | ha | hhigh)
  · exact .inr (mem_roots_boundsOf (.inl (mem_roots_nullCheck hnull)))
  · exact .inl ha
  · exact .inr (mem_roots_boundsOf (.inl hlow))
  · exact .inr (mem_roots_boundsOf (.inr (mem_roots_nullCheck hnull)))
  · exact .inl ha
  · exact .inr (mem_roots_boundsOf (.inr hhigh))

theorem mem_roots_subsetCheck {subset superset : Value}
    (h : x ∈ (subsetCheck a b subset superset).roots) :
    x ∈ a.roots ∨ x ∈ b.roots ∨ x ∈ subset.roots ∨ x ∈ superset.roots := by
  have hne : "$ne" ≠ "$literal" := by decide
  simpa [subsetCheck, roots_binary hne, or_assoc] using h

theorem mem_roots_patternOf {pieces : List Value} (h : x ∈ (patternOf pieces).roots) :
    ∃ piece ∈ pieces, x ∈ piece.roots := by
  unfold patternOf at h
  split at h
  · have hprotected : ∀ s, literalText s = protect (.string s) := fun s => by
      rw [literalText, protect]; rfl
    simp [hprotected] at h
  · split at h
    · exact ⟨_, List.mem_singleton_self _, h⟩
    · simpa using h

theorem mem_roots_patternCheck {pieces : List Value} {ignoreCase : Bool}
    (h : x ∈ (patternCheck a pieces ignoreCase).roots) :
        x ∈ a.roots ∨ ∃ piece ∈ pieces, x ∈ piece.roots := by
  have hletter : rootOf? "i" = none := rootOf?_text rfl
  have hparts : x ∈ a.roots ∨ x ∈ (patternOf pieces).roots := by
    cases ignoreCase <;> simpa [patternCheck, hletter] using h
  exact hparts.imp_right mem_roots_patternOf

/-- The predicate of a lookup mentions what its operands mention. -/
theorem mem_roots_build (l : Lookup) (h : x ∈ (l.build a b).roots) :
    x ∈ a.roots ∨ x ∈ b.roots := by
  have hstart : startPiece.roots = [] := roots_text rfl
  have hend : endPiece.roots = [] := by simp [endPiece]
  cases l with
  | exact | gt | gte | «in» => simpa [Lookup.build, roots_binary] using h
  | lt | lte => exact mem_roots_presentAnd (by decide) h
  | range => exact mem_roots_rangeCheck h
  | isnull => exact .inl (mem_roots_nullCheck h)
  | all | containedBy =>
    have hparts := mem_roots_subsetCheck h
    tauto
  | iexact | startswith | istartswith | endswith | iendswith | contains | icontains
      | regex | iregex =>
    have hpieces := mem_roots_patternCheck h
    simpa [hstart, hend] using hpieces

/-! ## Fragments -/

theorem mem_roots_conjunction {es : List Value} (h : x ∈ (conjunction es).roots) :
    ∃ e ∈ es, x ∈ e.roots := by
  unfold conjunction at h
  split at h
  · simp at h
  · exact ⟨_, List.mem_singleton_self _, h⟩
  · simpa using h

theorem mem_roots_disjunction {es : List Value} (h : x ∈ (disjunction es).roots) :
    ∃ e ∈ es, x ∈ e.roots := by
  unfold disjunction at h
  split at h
  · simp at h
  · exact ⟨_, List.mem_singleton_self _, h⟩
  · simpa using h

@[simp] theorem roots_negation (e : Value) : (negation e).roots = e.roots := by simp [negation]

@[simp] theorem roots_branch (condition result : Value) :
    (branch condition result).roots = condition.roots ++ result.roots := by
  simp [branch]

theorem mem_roots_caseDistinction {branches : List Value}
    (h : x ∈ (caseDistinction branches e).roots) :
    (∃ b ∈ branches, x ∈ b.roots) ∨ x ∈ e.roots := by
  unfold caseDistinction at h
  split at h
  · exact .inr h
  · simpa using h

theorem roots_combine (op : Combination) (a b : Value) :
    (op.combine a b).roots = a.roots ++ b.roots := by
  cases op with
  | arithmetic op => cases op <;> simp [Combination.combine, Arithmetic.name]
  | bits op => cases op <;> simp [Combination.combine, BitOperation.name]
  | leftShift | rightShift => simp [Combination.combine, powerOfTwo]

/-! ## Accesses -/

theorem roots_fieldOf (e : Value) (name : String) :
    (Access.fieldOf e name).roots = e.roots ++ (rootOf? name).toList := by
  simp [Access.fieldOf]

theorem mem_roots_keyOf {name : String} (h : x ∈ (Access.keyOf e name).roots) :
    x ∈ e.roots ∨ rootOf? name = some x := by
  unfold Access.keyOf at h
  split at h
  · exact .inl (by simpa [rootOf?_extend] using h)
  · simpa [roots_fieldOf] using h

theorem mem_roots_lengthOf (h : x ∈ (Access.lengthOf e).roots) : x ∈ e.roots := by
  simpa [Access.lengthOf] using h

theorem roots_mapOf (a b : Value) : (Access.mapOf a b).roots = a.roots ++ b.roots := by
  have hitem : rootOf? Access.itemName = none := rootOf?_text rfl
  simp [Access.mapOf, hitem]

end Value

/-- A name on a path, or that of a column, is mentioned where it is asked for.  Nothing else is
mentioned as paths go on. -/
theorem Access.isKeptBy_roots (x : String) :
    Access.IsKeptBy (fun name => Value.rootOf? name ≠ some x) fun _ a =>
        x ∉ a.render.roots where
  item := by
    intro _ _ _ h
    rw [render, Value.roots_variable] at h
    simp at h
  key := fun _ hname ha h => (Value.mem_roots_keyOf h).elim ha hname
  jsonKey := by
    intro _ _ _ _ hname ha h
    rw [render, Value.roots_fieldOf] at h
    simp [ha, hname] at h
  index := fun _ _ ha h => ha (by simpa [render] using h)
  slice := fun _ _ _ ha h => ha (by simpa [render] using h)
  length := fun _ ha h => ha (Value.mem_roots_lengthOf h)
  each := by
    intro _ base inner
    rw [render, Value.roots_mapOf]
    simp

/-- A lookup mentions what its path and its operand mention. -/
theorem Lookup.mem_roots_buildOn {l : Lookup} {target : Access} {rhs e : Value} {x : String}
    (hbuild : l.buildOn target rhs = .ok e) (h : x ∈ e.roots) :
        x ∈ target.render.roots ∨ x ∈ rhs.roots := by
  unfold buildOn buildMapped at hbuild
  split at hbuild
  · split at hbuild
    · obtain rfl := Except.ok.inj hbuild
      exact Value.mem_roots_build l h
    · split at hbuild
      · rename_i array inner _
        obtain rfl := Except.ok.inj hbuild
        rw [Access.render, Value.roots_mapOf, List.mem_append]
        have hparts : x ∈ array.render.roots ∨ x ∈ (l.build inner.render rhs).roots := by
          simpa [someItem, Value.roots_mapOf] using h
        rcases hparts with harray | hbody
        · exact .inl (.inl harray)
        · exact (Value.mem_roots_build l hbody).imp_left .inr
      · simp at hbuild
  · obtain rfl := Except.ok.inj hbuild
    exact Value.mem_roots_build l h

end DocQuery
