import DocQuery.Proofs.Failures
import DocQuery.Schema.Check
set_option autoImplicit false

/-!
# Proofs: foreign keys that refer to no field

A foreign key may name the field of the other model that it refers to.  The checks of a schema
look at the other model and not at that field, so a schema without problems can have keys that
refer to nothing.  A path through such a key fails for the name in its definition; apart from
that a path only fails for names that are written in it.
-/

namespace DocQuery

/-! ## Definitions -/

namespace Schema

variable {s : Schema} {m target : Model} {name key : String}

/-- Whether a field of a model is a foreign key that names a field which the other model does
not have. -/
def RefersNowhere (s : Schema) (m : Model) (name : String) (target : Model)
    (key : String) : Prop :=
  ∃ f model storedAs, m.field? name = some f ∧ f.kind = .foreignKey model (some key) storedAs ∧
    s.model? model = some target ∧ target.field? key = none

/-- A top-level model has the field that foreign keys refer to if they name none. -/
theorem exists_usualKey {models : List Model} (hschema : ofModels models = .ok s)
    (hm : m ∈ s.models)
    (hembedded : m.embedded = false) : m.field? Compiler.usualKey ≠ none := by
  simp only [ofModels] at hschema
  split at hschema
  · simp at hschema
  · obtain rfl := Except.ok.inj hschema
    obtain ⟨given, -, rfl⟩ := List.mem_map.mp hm
    have hgiven : given.embedded = false := by
      unfold Model.withPrimaryKey at hembedded
      split at hembedded <;> exact hembedded
    have hsome := Model.field?_withPrimaryKey_isSome given hgiven
    intro hnone
    rw [show Compiler.usualKey = "id" from rfl] at hnone
    rw [hnone] at hsome
    simp at hsome

/-- In a schema without problems a foreign key that refers to no field names one. -/
theorem refersNowhere_of_check {models : List Model} (hschema : ofModels models = .ok s)
    (hcheck : s.check = [])
    {f : Field} {model : String} {named : Option String} {storedAs : Option ScalarKind}
    (hm : m ∈ s.models)
    (hf : m.field? name = some f) (hkind : f.kind = .foreignKey model named storedAs)
    (htarget : s.model? model = some target)
    (hnone : target.field? (named.getD Compiler.usualKey) = none) :
    s.RefersNowhere m name target (named.getD Compiler.usualKey) := by
  cases named with
  | some key => exact ⟨f, model, storedAs, hf, hkind, htarget, hnone⟩
  | none =>
    have hfault := (check_eq_nil_iff s).mp hcheck m hm f (List.mem_of_find?_eq_some hf)
    have hembedded : target.embedded = false := by
      simpa [fieldFault?, hkind, htarget] using hfault
    exact absurd hnone (exists_usualKey hschema (List.mem_of_find?_eq_some htarget) hembedded)

end Schema

namespace Compiler

variable {c : Compiler} {ctx ctx' : Context} {path model field : String}

/-! ## Paths that fail -/

/-- A name behind a value fails for itself. -/
theorem step_missing {a : Access} {name : String} {last : Bool}
    (h : c.step a name last = .error (.fieldDoesNotExist model field)) : field = name := by
  cases step_error h with
  | relation _ _ hrelation =>
    obtain ⟨f, -, -, hfault⟩ := hrelation
    simp at hfault
  | missing => rfl
  | use huse => simp [CompileError.isAboutUse] at huse

theorem follow_value_missing {a : Access} {names : List String} {joins : List Nat}
    (h : c.follow path (.value a) names joins ctx =
      (.error (.fieldDoesNotExist model field), ctx')) :
    field ∈ names := by
  induction names generalizing a with
  | nil =>
    obtain ⟨_, _, hnames, -⟩ := follow_value_error h
    simp at hnames
  | cons name rest ih =>
    obtain ⟨_, _, hnames, hcase⟩ := follow_value_error h
    obtain ⟨rfl, rfl⟩ := List.cons.inj hnames
    rcases hcase with hstep | ⟨next, -, hnext⟩
    · exact step_missing hstep ▸ List.mem_cons_self
    · exact List.mem_cons_of_mem _ (ih hnext)

/-- Names from a document fail for one of them, or for a foreign key among them that refers to
no field. -/
theorem follow_document_missing {m : Model} {joined : Option String} {relation : String}
    {names : List String}
    {joins : List Nat} {models : List Model} (hschema : Schema.ofModels models = .ok c.schema)
    (hcheck : c.schema.check = []) (hm : m ∈ c.schema.models)
    (h : c.follow path (.document m joined relation) names joins ctx
      = (.error (.fieldDoesNotExist model field), ctx')) :
    field ∈ names ∨ ∃ m' ∈ c.schema.models, ∃ name ∈ names, ∃ target,
      c.schema.RefersNowhere m' name target field ∧ target.name = model := by
  induction names generalizing m joined relation joins ctx with
  | nil =>
    rcases follow_document_error h with ⟨-, hpath⟩ | ⟨_, _, hnames, -⟩
    · simp at hpath
    · simp at hnames
  | cons name rest ih =>
    rcases follow_document_error h with ⟨hnames, -⟩ | ⟨_, _, hnames, hcase⟩
    · simp at hnames
    obtain ⟨rfl, rfl⟩ := List.cons.inj hnames
    rcases hcase with hfault | ⟨f, -, hvalue⟩ | ⟨_, _, _, _, target, _, _, _, -, -,
      htarget, hjoin⟩
    · cases hfault with
      | missing => exact .inl List.mem_cons_self
      | key hf hkind htarget hnone =>
        exact .inr ⟨m, hm, name, List.mem_cons_self, _,
          Schema.refersNowhere_of_check hschema hcheck hm hf hkind htarget hnone, rfl⟩
    · exact .inl (List.mem_cons_of_mem _ (follow_value_missing hvalue))
    · rcases ih (List.mem_of_find?_eq_some htarget) hjoin with hmem | ⟨m', hm', name',
        hname', hrefers⟩
      · exact .inl (List.mem_cons_of_mem _ hmem)
      · exact .inr ⟨m', hm', name', List.mem_cons_of_mem _ hname', hrefers⟩

theorem followPath_missing {models : List Model}
    (hschema : Schema.ofModels models = .ok c.schema)
    (hcheck : c.schema.check = []) (hm : ctx.model ∈ c.schema.models)
    (h : c.followPath ctx path = (.error (.fieldDoesNotExist model field), ctx')) :
    field ∈ Text.segments path ∨ ∃ m ∈ c.schema.models, ∃ name ∈ Text.segments path, ∃ target,
      c.schema.RefersNowhere m name target field ∧ target.name = model := by
  rcases followPath_error h with hpath | ⟨name, rest, hnames, ⟨type, -, hvalue⟩ | hfollow⟩
  · simp at hpath
  · exact .inl (hnames ▸ List.mem_cons_of_mem _ (follow_value_missing hvalue))
  · exact hnames ▸ follow_document_missing hschema hcheck hm hfollow

/-- A path that goes on behind a foreign key fails if the key refers to no field. -/
theorem followPath_refersNowhere {name next key : String} {rest : List String} {target : Model}
    (hkey : c.schema.RefersNowhere ctx.model name target key)
    (hcomputed : ctx.computedType? name = none)
    (hnames : Text.segments path = name :: next :: rest) (hempty : "" ∉ Text.segments path)
    (hread : readsStoredKey target (next :: rest) = false) :
    c.followPath ctx path = (.error (.fieldDoesNotExist target.name key), ctx) := by
  obtain ⟨f, model, storedAs, hf, hkind, htarget, hnone⟩ := hkey
  have hfollow : c.follow path (.document ctx.model none "") (name :: next :: rest) [] ctx
      = (.error (.fieldDoesNotExist target.name key), ctx) := by
    rw [follow]
    simp only [hf, hkind, modelOf, htarget, hread, Bool.false_eq_true, if_false,
      Option.getD_some, hnone]
  rw [hnames] at hempty
  have hfull : (name :: next :: rest).contains "" = false := by simpa using hempty
  simp only [followPath, hnames, hfull, Bool.false_eq_true, if_false, List.headD_cons,
    hcomputed, hfollow]

/-- With a schema without problems a path fails for a field that is missing only if the field is
named in the path, or in a foreign key on the way that refers to no field of the other model.
Conversely a path that starts at such a key and goes on behind it always fails for the name in
its definition. -/
theorem resolve_misses_named_fields {models : List Model}
    (hschema : Schema.ofModels models = .ok c.schema)
    (hcheck : c.schema.check = []) (hm : ctx.model ∈ c.schema.models) :
    (∀ path model field ctx', c.resolveLookup ctx path =
      (.error (.fieldDoesNotExist model field), ctx') ∨
        c.resolveField ctx path = (.error (.fieldDoesNotExist model field), ctx') →
      field ∈ Text.segments path ∨ ∃ m ∈ c.schema.models, ∃ name ∈ Text.segments path, ∃ target,
        c.schema.RefersNowhere m name target field ∧ target.name = model) ∧
    ∀ path name next rest target key, c.schema.RefersNowhere ctx.model name target key →
      ctx.computedType? name = none → Text.segments path = name :: next :: rest →
        "" ∉ Text.segments path →
      readsStoredKey target (next :: rest) = false →
      c.resolveLookup ctx path = (.error (.fieldDoesNotExist target.name key), ctx) ∧
        c.resolveField ctx path = (.error (.fieldDoesNotExist target.name key), ctx) := by
  constructor
  · intro path model field ctx' h
    have hpath : c.followPath ctx path = (.error (.fieldDoesNotExist model field), ctx') := by
      rcases h with h | h
      · exact (resolveLookup_error h).elim id fun huse =>
          absurd huse (by simp [CompileError.isAboutUse])
      · exact (resolveField_error h).elim id fun huse =>
          absurd huse (by simp [CompileError.isAboutUse])
    exact followPath_missing hschema hcheck hm hpath
  · intro path name next rest target key hkey hcomputed hnames hempty hread
    have hpath := followPath_refersNowhere hkey hcomputed hnames hempty hread
    exact ⟨by rw [resolveLookup, hpath], by rw [resolveField, hpath]⟩

/-- Loans of books.  A loan refers to its book by a number that books do not have. -/
def bookLoan : Model where
  name := "Loan"
  storedCollection := none
  embedded := false
  fields := [Model.primaryKey, ⟨"book", .foreignKey "Book" (some "isbn") none, false, none⟩]

/-- Books with a title. -/
def titled : Model where
  name := "Book"
  storedCollection := none
  embedded := false
  fields := [Model.primaryKey, ⟨"title", .scalar .string, false, none⟩]

/-- Loans and books. -/
def bookLoans : Compiler := ⟨⟨[bookLoan, titled]⟩, .usual⟩

/-- The schema of loans and books has no problems, and the title of the book of a loan fails for
the number of the book, which the path does not name. -/
theorem bookTitle_fails :
    Schema.ofModels [bookLoan, titled] = .ok bookLoans.schema ∧ bookLoans.schema.check = [] ∧
      bookLoan ∈ bookLoans.schema.models ∧
      bookLoans.resolveLookup (.ofModel bookLoan) "book__title"
        = (.error (.fieldDoesNotExist "Book" "isbn"), .ofModel bookLoan) ∧
      bookLoans.resolveField (.ofModel bookLoan) "book__title"
        = (.error (.fieldDoesNotExist "Book" "isbn"), .ofModel bookLoan) ∧
            "isbn" ∉ Text.segments "book__title" := by
  have hschema : Schema.ofModels [bookLoan, titled] = .ok bookLoans.schema := rfl
  have hcheck : bookLoans.schema.check = [] := by decide
  have hmodel : (Context.ofModel bookLoan).model ∈ bookLoans.schema.models := by decide
  have hkey : bookLoans.schema.RefersNowhere bookLoan "book" titled "isbn" :=
    ⟨_, _, _, rfl, rfl, rfl, rfl⟩
  have hfails := (resolve_misses_named_fields hschema hcheck hmodel).2
    "book__title" "book" "title" [] titled "isbn" hkey rfl rfl (by decide) (by decide)
  exact ⟨hschema, hcheck, hmodel, hfails.1, hfails.2, by decide⟩

end Compiler

end DocQuery
