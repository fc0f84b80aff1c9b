import DocQuery.Json.Reader
import DocQuery.Proofs.PrintedValues
set_option autoImplicit false

/-!
# Proofs: reading the tokens of trees

A tree is spelled by its tokens:  every value stands alone or between brackets, with commas and
colons inside.  The machine that puts tokens together makes the tree again.
-/

namespace DocQuery.Json

mutual

/-- The tokens that spell a tree. -/
def spelling : Json → List Token
  | .null => [.null]
  | .bool b => [.bool b]
  | .int n => [.int n]
  | .float x => [.float x]
  | .string s => [.string s]
  | .broken => [.broken]
  | .array [] => [.openArray, .closeArray]
  | .array (j :: rest) => .openArray :: (spelling j ++ (itemSpelling rest ++ [.closeArray]))
  | .object [] => [.openObject, .closeObject]
  | .object ((name, j) :: rest) =>
    .openObject :: .string name :: .colon :: (spelling j ++ (memberSpelling rest ++
      [.closeObject]))

/-- The tokens of the items behind the first one. -/
def itemSpelling : List Json → List Token
  | [] => []
  | j :: rest => .comma :: (spelling j ++ itemSpelling rest)

/-- The tokens of the members behind the first one. -/
def memberSpelling : List (String × Json) → List Token
  | [] => []
  | (name, j) :: rest => .comma :: .string name :: .colon :: (spelling j ++ memberSpelling rest)

end

namespace Building

/-- The first item of an array is read like any other value. -/
theorem run_firstItem (j : Json) (stack : List Frame) (ts : List Token) :
    run ⟨stack, .firstItem⟩ (spelling j ++ ts) =
        run ⟨.array [] :: stack, .value⟩ (spelling j ++ ts) := by
  match j with
  | .null | .bool _ | .int _ | .float _ | .string _ | .broken => rfl
  | .array [] | .array (_ :: _) | .object [] | .object ((_, _) :: _) => rfl

mutual

/-- The tokens of a tree are put together as that tree. -/
theorem run_spelling (j : Json) (stack : List Frame) (ts : List Token) :
    run ⟨stack, .value⟩ (spelling j ++ ts) = run ⟨stack, .done j⟩ ts := by
  match j with
  | .null | .bool _ | .int _ | .float _ | .string _ | .broken => rfl
  | .array [] | .object [] => rfl
  | .array (first :: rest) =>
    rw [spelling, List.cons_append, List.append_assoc, List.append_assoc]
    calc run ⟨stack, .firstItem⟩ (spelling first ++ (itemSpelling rest ++
      ([.closeArray] ++ ts)))
      _ = run ⟨.array [] :: stack, .done first⟩ (itemSpelling rest ++ .closeArray :: ts) := by
        rw [run_firstItem, run_spelling first]
        rfl
      _ = run ⟨stack, .done (.array (first :: rest))⟩ ts :=
        run_itemSpelling rest [] first stack ts
  | .object ((name, first) :: rest) =>
    rw [spelling, List.cons_append, List.cons_append, List.cons_append, List.append_assoc,
      List.append_assoc]
    calc run ⟨.object [] name :: stack, .value⟩ (spelling first ++ (memberSpelling rest ++
      ([.closeObject] ++ ts)))
      _ = run ⟨.object [] name :: stack, .done first⟩ (memberSpelling rest ++
          .closeObject :: ts) := by
        rw [run_spelling first]
        rfl
      _ = run ⟨stack, .done (.object ((name, first) :: rest))⟩ ts :=
        run_memberSpelling rest [] name first stack ts

/-- The items behind the first one are added to an open array, up to its end. -/
theorem run_itemSpelling (rest items : List Json) (j : Json) (stack : List Frame)
    (ts : List Token) :
    run ⟨.array items :: stack, .done j⟩ (itemSpelling rest ++ .closeArray :: ts) =
      run ⟨stack, .done (.array ((j :: items).reverse ++ rest))⟩ ts := by
  match rest with
  | [] => rw [List.append_nil]; rfl
  | next :: rest =>
    rw [itemSpelling, List.cons_append, List.append_assoc]
    calc run ⟨.array (j :: items) :: stack, .value⟩ (spelling next ++ (itemSpelling rest ++
      .closeArray :: ts))
      _ = run ⟨.array (j :: items) :: stack, .done next⟩ (itemSpelling rest ++ .closeArray ::
        ts) := run_spelling next _ _
      _ = run ⟨stack, .done (.array ((next :: j :: items).reverse ++ rest))⟩ ts :=
        run_itemSpelling rest _ next stack ts
      _ = run ⟨stack, .done (.array ((j :: items).reverse ++ next :: rest))⟩ ts := by simp

/-- The members behind the first one are added to an open object, up to its end. -/
theorem run_memberSpelling (rest members : List (String × Json)) (name : String) (j : Json)
    (stack : List Frame) (ts : List Token) :
    run ⟨.object members name :: stack, .done j⟩ (memberSpelling rest ++ .closeObject :: ts) =
      run ⟨stack, .done (.object (((name, j) :: members).reverse ++ rest))⟩ ts := by
  match rest with
  | [] => rw [List.append_nil]; rfl
  | (key, next) :: rest =>
    rw [memberSpelling, List.cons_append, List.cons_append, List.cons_append, List.append_assoc]
    calc run ⟨.object ((name, j) :: members) key :: stack, .value⟩
          (spelling next ++ (memberSpelling rest ++ .closeObject :: ts))
      _ = run ⟨.object ((name, j) :: members) key :: stack, .done next⟩ (memberSpelling rest ++
          .closeObject :: ts) :=
        run_spelling next _ _
      _ = run ⟨stack, .done (.object (((key, next) :: (name, j) :: members).reverse ++ rest))⟩
          ts :=
        run_memberSpelling rest _ key next stack ts
      _ = run ⟨stack, .done (.object (((name, j) :: members).reverse ++ (key, next) :: rest))⟩
        ts := by simp

end

end Building

/-- A text whose tokens spell a tree is read as that tree. -/
theorem read?_of_spelling {text : String} {j : Json} (h : tokens? text = some (spelling j)) :
    read? text = some j := by
  have hrun : Building.start.run (spelling j) = some ⟨[], .done j⟩ := by
    have happend := Building.run_spelling j [] []
    rwa [List.append_nil] at happend
  simp only [read?, h, hrun, Option.bind_some, Building.finish]

end DocQuery.Json
