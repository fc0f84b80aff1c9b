import DocQuery.Proofs.OuterReferences
set_option autoImplicit false

/-!
# Proofs: shapes of the values of lookups

A check for null asks for a truth value and a range for two bounds.  A literal and a list are
refused if they have another shape.  Any other value is compiled whatever it will be, and then
stands for something:  a check for null takes it for a flag, and a range for a lower bound.
-/

namespace DocQuery

open Value

namespace Lookup

/-- Whether a lookup asks for a value of a shape of its own: a flag or two bounds. -/
def isShaped (l : Lookup) : Bool := l.arity == .flag || l.arity == .pair

theorem isShaped_iff {l : Lookup} : l.isShaped = true ↔ l = .isnull ∨ l = .range := by
  cases l <;> simp [isShaped, arity]

/-- Whether a value is written in the shape that such a lookup asks for: as a truth value, or as
two bounds. -/
def hasShape (l : Lookup) : Expr → Bool
  | .literal (.bool _) => l.arity == .flag
  | .literal (.array [_, _]) => l.arity == .pair
  | .list [_, _] => l.arity == .pair
  | _ => false

/-- Such lookups are on single values only. -/
theorem buildOn_of_isShaped {l : Lookup} {target : Access} (hl : l.isShaped = true)
    (hallowed : (allowed target.type).contains l = true) (w : Value) :
    l.buildOn target w = .ok (l.build target.render w) := by
  have hflat : target.type.isMapped = false := by
    cases htype : target.type with
    | mapped element =>
      rw [htype] at hallowed
      have hmapped : mapped.contains l = true := by
        have hsub : ∀ element, (allowed (.mapped element)).contains l = true →
            mapped.contains l = true := by
          intro element h
          unfold allowed at h
          split at h <;> simp_all [mappedOf]
        exact hsub element hallowed
      rcases isShaped_iff.mp hl with rfl | rfl <;> simp [mapped] at hmapped
    | _ => rfl
  simp only [buildOn, hflat, Bool.false_eq_true, if_false]

/-- A check for null of a value that counts as true asks for null. -/
theorem build_isnull_of_isTruthy {w : Value} (hw : w.isTruthy = true) (a : Value) :
    Lookup.isnull.build a w = nullCheck a true := by
  rw [build, hw]

/-- A range with a value that is no list has the value for its lower bound, and no upper
bound. -/
theorem build_range_of_single {w : Value} (hw : w.items? = none) (a : Value) :
    Lookup.range.build a w = rangeCheck a (.array [w, .null]) := by
  have hbounds : boundsOf w = boundsOf (.array [w, .null]) := by
    cases w <;> first | rfl | simp [items?] at hw
  rw [build, rangeCheck, hbounds, rangeCheck]

end Lookup

namespace Expr

/-- Whether a value is written down, as a literal or as a list. -/
def isWritten : Expr → Bool
  | .literal _ => true
  | .list _ => true
  | _ => false

/-- Whether a value is only known for a document: that of a field, of a computation or of
another query. -/
def isRead : Expr → Bool
  | .field _ => true
  | .outer _ => true
  | .combined _ _ _ => true
  | .subquery _ => true
  | _ => false

end Expr

/-- An access is written as the text of a path or as an operator. -/
theorem Access.isTruthy_render (a : Access) : a.render.isTruthy = true := by
  cases a with
  | column joined name type => cases joined <;> rfl
  | key base name type =>
    rw [Access.render]
    unfold Access.keyOf
    split <;> rfl
  | _ => rfl

namespace Compiler

variable {c : Compiler} {ctx ctx' after : Context} {path : String} {r : Resolved} {e : Value}
  {type : ValueType}

/-- A value that is read is compiled to an expression that counts as true and is no list. -/
theorem shape_of_isRead {operand : Expr} (hread : operand.isRead = true)
    (h : c.compileExpr ctx operand = .ok ((e, type), ctx')) :
        e.isTruthy = true ∧ e.items? = none := by
  cases operand with
  | field path =>
    simp only [compileExpr] at h
    obtain ⟨ending, -, rfl⟩ := fieldExpr_ok h
    exact ⟨ending.target.isTruthy_render, ending.target.items?_render⟩
  | outer path =>
    simp only [compileExpr] at h
    obtain ⟨index, -, rfl⟩ := outerExpr_ok h
    exact ⟨rfl, rfl⟩
  | combined op left right =>
    obtain ⟨_, _, _, _, _, -, -, rfl⟩ := compileExpr_combined_ok h
    cases op <;> exact ⟨rfl, rfl⟩
  | subquery q =>
    obtain ⟨n, -, hplaced⟩ := compileSubquery_ok (compileExpr_subquery_ok h)
    obtain ⟨bindings, after, -, rfl, -⟩ := placeSubquery_ok hplaced
    exact ⟨rfl, rfl⟩
  | _ => cases hread

/-- A value that is not written down is compiled like any computed value, also for such a
lookup. -/
theorem compileFilter_of_not_isWritten {operand : Expr}
    (hr : c.resolveLookup ctx path = (.ok r, after))
    (hl : r.lookup.isShaped = true) (hwritten : operand.isWritten = false) :
    c.compileFilter ctx (.lookup path operand) =
      (withoutType (c.compileExpr (noteLookup r after) operand)).map fun compiled =>
        (r.lookup.build r.target.render compiled.1, compiled.2) := by
  obtain ⟨ending, -, hcompared⟩ := resolveLookup_ok hr
  obtain ⟨-, hallowed⟩ := compared_ok hcompared
  have hoperand : c.compileFilter ctx (.lookup path operand) =
      c.lookupWith ctx path fun _ ctx => withoutType (c.compileExpr ctx operand) := by
    cases operand with
    | literal v => cases hwritten
    | list items => cases hwritten
    | subquery q =>
      have hlist : (r.lookup.arity == .list) = false := by
        rcases Lookup.isShaped_iff.mp hl with hl | hl <;> rw [hl] <;> rfl
      rw [compileFilter]
      simp only [lookupWith, hr, hlist, compileExpr]
      rcases c.compileSubquery (noteLookup r after) false q with error | ⟨w, ctx'⟩ <;> rfl
    | _ => exact compileFilter_computed rfl
  rw [hoperand]
  simp only [lookupWith, hr]
  rcases withoutType (c.compileExpr (noteLookup r after) operand) with error | ⟨w, ctx'⟩
  · rfl
  · simp only [Lookup.buildOn_of_isShaped hl hallowed]
    rfl

/-- A literal or a list of another shape is refused. -/
theorem compileFilter_of_isWritten {operand : Expr}
    (hr : c.resolveLookup ctx path = (.ok r, after))
    (hl : r.lookup.isShaped = true) (hwritten : operand.isWritten = true)
    (hshape : r.lookup.hasShape operand = false) :
    ∃ expected actual,
      c.compileFilter ctx (.lookup path operand) =
          .error (.valueShape r.lookup.name expected actual) := by
  cases operand with
  | literal v =>
    have hfault : ∃ expected actual, r.lookup.literal r.target.type.scalar? v =
        .error (.valueShape r.lookup.name expected actual) := by
      rcases Lookup.isShaped_iff.mp hl with hl | hl <;> rw [hl] at hshape ⊢
      · cases v <;> first | exact ⟨_, _, rfl⟩ | cases hshape
      · unfold Lookup.literal
        split <;> first | exact ⟨_, _, rfl⟩ | simp_all [Lookup.arity, Lookup.hasShape]
    obtain ⟨expected, actual, hfault⟩ := hfault
    refine ⟨expected, actual, ?_⟩
    rw [compileFilter]
    simp only [lookupWith, hr, literalOperand, hfault]
  | list items =>
    have hfault : ∃ expected actual, listFault? r.lookup items.length =
        some (.valueShape r.lookup.name expected actual) := by
      rcases Lookup.isShaped_iff.mp hl with hl | hl <;> rw [hl] at hshape ⊢
      · exact ⟨_, _, rfl⟩
      · have hlength : items.length ≠ 2 := by
          intro htwo
          obtain ⟨x, y, rfl⟩ := List.length_eq_two.mp htwo
          cases hshape
        exact ⟨_, _, if_neg hlength⟩
    obtain ⟨expected, actual, hfault⟩ := hfault
    refine ⟨expected, actual, ?_⟩
    rw [compileFilter]
    simp only [lookupWith, hr, hfault]
  | _ => cases hwritten

/-- Where a lookup asks for a shape of its own, a value that does not have the shape is refused
if it is written down as a literal or as a list.  It is compiled like any other value if it is
not:  a check for null then takes the compiled expression for its flag, and a range for its
bounds.  What is read from a document, computed or taken from another query always counts as the
flag for null, whatever it is in the documents, and always as a lower bound alone. -/
theorem shapes_of_written_values_checked {operand : Expr}
    (hr : c.resolveLookup ctx path = (.ok r, after))
    (hl : r.lookup.isShaped = true) (hshape : r.lookup.hasShape operand = false) :
    (operand.isWritten = true → ∃ expected actual,
      c.compileFilter ctx (.lookup path operand) =
        .error (.valueShape r.lookup.name expected actual)) ∧
    (operand.isWritten = false → c.compileFilter ctx (.lookup path operand) =
      (withoutType (c.compileExpr (noteLookup r after) operand)).map fun compiled =>
        (r.lookup.build r.target.render compiled.1, compiled.2)) ∧
    ∀ e type ctx', operand.isRead = true →
      c.compileExpr (noteLookup r after) operand = .ok ((e, type), ctx') →
        c.compileFilter ctx (.lookup path operand) =
          .ok (if r.lookup = .isnull then nullCheck r.target.render true
            else rangeCheck r.target.render (.array [e, .null]), ctx') := by
  refine ⟨fun hwritten => compileFilter_of_isWritten hr hl hwritten hshape,
    fun hwritten => compileFilter_of_not_isWritten hr hl hwritten,
      fun e type ctx' hread he => ?_⟩
  have hwritten : operand.isWritten = false := by cases operand <;> first | rfl | cases hread
  obtain ⟨htruthy, hsingle⟩ := shape_of_isRead hread he
  rw [compileFilter_of_not_isWritten hr hl hwritten, he]
  rcases Lookup.isShaped_iff.mp hl with hisnull | hrange
  · simp only [withoutType, Except.map, hisnull, if_true,
      Lookup.build_isnull_of_isTruthy htruthy]
  · simp [withoutType, Except.map, hrange, Lookup.build_range_of_single hsingle]

/-- Notes of a kind, with a count. -/
def countedModel : Model :=
  ⟨"Note", some "notes", false, [Model.primaryKey, ⟨"kind", .scalar .integer, true, none⟩,
    ⟨"count", .scalar .integer, true, none⟩]⟩

/-- A compiler for such notes. -/
def counted : Compiler := ⟨⟨[countedModel]⟩, .usual⟩

/-- A check for null that takes a number for its flag is refused, and one that takes a field is
a check for null. -/
theorem countedModel_flags :
    (∃ expected actual, counted.compileFilter (.ofModel countedModel) (.lookup "kind__isnull"
      (.literal (.int 1))) = .error (.valueShape "isnull" expected actual)) ∧
    counted.compileFilter (.ofModel countedModel) (.lookup "kind__isnull" (.field "count")) =
      .ok (nullCheck (.string "$kind") true, .ofModel countedModel) := by
  have hkind : counted.resolveLookup (.ofModel countedModel) "kind__isnull" =
      (.ok ⟨.column none "kind" (.scalar .integer), .isnull, []⟩, .ofModel countedModel) := rfl
  have hcount : counted.compileExpr (.ofModel countedModel) (.field "count") =
      .ok ((.string "$count", .scalar .integer), .ofModel countedModel) := rfl
  exact ⟨(shapes_of_written_values_checked hkind rfl rfl).1 rfl,
    (shapes_of_written_values_checked hkind rfl rfl).2.2 _ _ _ rfl hcount⟩

end Compiler

end DocQuery
