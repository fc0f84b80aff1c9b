import DocQuery.Compile.Error
import DocQuery.Config.Basic
import DocQuery.Lookup.Basic
import DocQuery.Text.Similarity
set_option autoImplicit false

/-!
# Compile: the compiler

A compiler knows a schema and its settings.  It keeps nothing between two queries.
-/

namespace DocQuery

/-- What a compiler knows. -/
structure Compiler where
  schema : Schema
  config : Config

namespace Compiler

/-- The model of a name. -/
def modelOf (c : Compiler) (name : String) : Except CompileError Model :=
  match c.schema.model? name with
  | some m => .ok m
  | none => .error (.unknownModel name)

/-- The model of a name if it has documents of its own. -/
def queryableModel (c : Compiler) (name : String) : Except CompileError Model :=
  match c.modelOf name with
  | .error e => .error e
  | .ok m => if m.embedded then .error (.embeddedQuery m.name) else .ok m

/-- The candidates that are close to a name. -/
def suggest (config : Config) (name : String) (candidates : List String) : List String :=
  Text.closest name candidates config.suggestionCutoff config.maxSuggestions

/-- The error for a name that is no lookup for values of a type. -/
def unsupported (c : Compiler) (name : String) (type : ValueType) : CompileError :=
  .unsupportedLookup name type.describe
    (suggest c.config name ((Lookup.allowed type).map Lookup.name))

theorem queryableModel_eq_ok_iff (c : Compiler) (name : String) (m : Model) :
    c.queryableModel name = .ok m ↔ c.schema.model? name = some m ∧ m.embedded = false := by
  simp only [queryableModel, modelOf]
  cases h : c.schema.model? name with
  | none => simp
  | some k =>
    by_cases he : k.embedded = true
    · simp only [he, if_true, Option.some.injEq, reduceCtorEq, false_iff, not_and]
      rintro rfl
      simp [he]
    · simp only [he, Bool.false_eq_true, if_false, Except.ok.injEq, Option.some.injEq]
      constructor
      · rintro rfl
        exact ⟨rfl, by simpa using he⟩
      · exact fun h => h.1

end Compiler

end DocQuery
