import DocQuery.Proofs.ColumnReads
set_option autoImplicit false

/-!
# Proofs: where paths start in a row

The expression of a path starts at one field of the row:  a stored column, a computed one or an
alias.  A path that is followed once more, when more is joined, leads to the same expression,
since the join of a relation keeps its alias.
-/

namespace DocQuery

open Value

/-! ## Names -/

namespace Text

/-- A text starts with the part of it in front of a separator. -/
theorem partsOf_isPrefix (sep : Char) (cs : List Char) : (partsOf sep cs).1 <+: cs := by
  induction cs with
  | nil => exact List.nil_prefix
  | cons c rest ih =>
    by_cases hc : c = sep
    · simp [partsOf, hc]
    · simpa [partsOf, hc] using ih

/-- No name of a path starts with the mark that stands between the names. -/
theorem take_doublyPartsOf_ne (sep : Char) (cs : List Char) :
    (doublyPartsOf sep cs).1.take 2 ≠ [sep, sep] := by
  match cs with
  | [] => simp [doublyPartsOf]
  | [c] => simp [doublyPartsOf]
  | c :: d :: rest =>
    by_cases hmark : c = sep ∧ d = sep
    · simp [doublyPartsOf, hmark]
    · rw [doublyPartsOf, if_neg hmark]
      intro heq
      obtain ⟨rfl, hrest⟩ := List.cons.inj heq
      have hd : d ≠ c := fun h => hmark ⟨rfl, h⟩
      have hhead : (doublyPartsOf c (d :: rest)).1.head? = some d := head?_doublyPartsOf rfl hd
      have hsep : ((doublyPartsOf c (d :: rest)).1.take 1).head? = some c := by rw [hrest]; rfl
      rw [List.head?_take, if_neg (by decide), hhead] at hsep
      exact hd (Option.some.inj hsep)

end Text

/-- Whether a path stays clear of the fields that are computed for orders. -/
def Value.SparesOrder (path : String) : Prop :=
    ∀ index, (pathNames path).head? ≠ some (Compiler.orderField index)

theorem Value.sparesOrder_of_take {name : String} (h : name.toList.take 2 ≠ ['_', '_']) :
    SparesOrder name := by
  intro index hhead
  obtain ⟨behind, hname⟩ := Text.partsOf_isPrefix '.' name.toList
  have hfield : (Text.partsOf '.' name.toList).1 = (Compiler.orderField index).toList := by
    rw [← Option.some.inj hhead, String.toList_ofList]
  rw [hfield, Compiler.orderField, String.toList_append] at hname
  exact h (by rw [← hname]; rfl)

/-- A path in a query cannot start with such a field: its name starts with the mark between
names. -/
theorem Value.sparesOrder_of_segments {path name : String} {rest : List String}
    (h : Text.segments path = name :: rest) : SparesOrder name := by
  refine sparesOrder_of_take ?_
  rw [← (List.cons.inj h).1, String.toList_ofList]
  exact Text.take_doublyPartsOf_ne Text.segmentMark path.toList

/-! ## Accesses -/

namespace Access

/-- The field of the row that an access starts at; none for the item of an array. -/
def root? : Access → Option String
  | .column joined name _ => some (joined.getD name)
  | .item _ => none
  | .computed name _ => some name
  | .key base _ _ => base.root?
  | .jsonKey base _ _ => base.root?
  | .index base _ _ => base.root?
  | .slice base _ _ _ => base.root?
  | .length base _ => base.root?
  | .each base _ => base.root?

/-- Going on from an access does not change where it starts. -/
theorem isKept_root (root : Option String) :
    IsKept fun vars a => vars = [] → a.root? = root where
  item := fun _ hmem hvars => by simp [hvars] at hmem
  key := fun _ _ h => h
  jsonKey := fun _ _ h => h
  index := fun _ _ h => h
  slice := fun _ _ _ h => h
  length := fun _ h => h
  each := by
    intro vars base inner
    exact ⟨fun h => ⟨h, fun hvars => by simp at hvars⟩, fun h => h.1⟩

/-- An access that is written as a path is written as one from its field. -/
theorem render_root {a : Access} {root s : String} (hroot : a.root? = some root)
    (h : a.render = .string s) :
    ∃ path, s = "$" ++ path ∧ ∃ behind, pathNames path = pathNames root ++ behind := by
  induction a generalizing s with
  | column joined name type =>
    obtain rfl := Option.some.inj hroot
    cases joined with
    | none => exact ⟨name, (Value.string.inj h).symm, [], by simp⟩
    | some joined =>
      exact ⟨joined ++ "." ++
        name, by rw [← Value.string.inj h]; simp only [String.append_assoc],
        pathNames name, Text.split_extend joined name⟩
  | item type => simp [root?] at hroot
  | computed name type =>
    obtain rfl := Option.some.inj hroot
    exact ⟨name, (Value.string.inj h).symm, [], by simp⟩
  | key base name type ih =>
    rw [render] at h
    unfold keyOf at h
    split at h
    · rename_i text htext
      obtain ⟨path, rfl, behind, hpath⟩ := ih hroot htext
      refine ⟨path ++ "." ++
        name, by rw [← Value.string.inj h]; simp only [String.append_assoc],
        behind ++ pathNames name, ?_⟩
      rw [pathNames, Text.split_extend, ← List.append_assoc, ← hpath]
      rfl
    · cases h
  | jsonKey base name type ih => cases h
  | index base position type ih => cases h
  | slice base start stop type ih => cases h
  | length base type ih => cases h
  | each base inner ihbase ihinner => cases h

end Access

/-- A context with the columns of another one and its joins, in which no relation is joined
twice. -/
structure Context.Resumes (ctx later : Context) : Prop where
  model : later.model = ctx.model
  annotations : later.annotations = ctx.annotations
  aliases : ctx.aliases ⊆ later.aliases
  once : (later.aliases.map (·.1)).Nodup

namespace Compiler

open Context (Resumes)

variable {c : Compiler} {ctx ctx' later : Context} {path : String} {e : Ending}

/-! ## Fields of the row -/

theorem follow_value_root {a : Access} {names : List String} {joins : List Nat}
    (h : c.follow path (.value a) names joins ctx = (.ok e, ctx')) :
        e.target.root? = a.root? := by
  have ha : ([] : List String) = [] → a.root? = a.root? := fun _ => rfl
  exact kept_follow (Access.isKept_root a.root?) ha h rfl

theorem follow_root {m : Model} {parent : Option String} {relation : String}
    {names : List String} {joins : List Nat}
    (hplace : (parent = none ∧ m = ctx.model) ∨ ∃ x, parent = some x ∧
      x ∈ ctx.aliases.map (·.2))
    (h : c.follow path (.document m parent relation) names joins ctx = (.ok e, ctx')) :
    ∃ root, e.target.root? = some root ∧ (root ∈ ctx'.model.columns ∨
        root ∈ ctx'.aliases.map (·.2)) := by
  induction names generalizing m parent relation joins ctx with
  | nil => simp [follow] at h
  | cons name rest ih =>
    obtain ⟨_, _, f, hnames, hf, hcase⟩ := follow_document_ok h
    obtain ⟨rfl, rfl⟩ := List.cons.inj hnames
    rcases hcase with ⟨-, hcolumn⟩ | ⟨_, _, _, target, k, -, -, -, -, hjoin⟩
    · obtain rfl := follow_value_context hcolumn
      refine ⟨_, follow_value_root hcolumn, ?_⟩
      rcases hplace with ⟨rfl, rfl⟩ | ⟨x, rfl, hx⟩
      · exact .inl (List.mem_map_of_mem (List.mem_of_find?_eq_some hf))
      · exact .inr hx
    · obtain ⟨-, hmem, -⟩ := Context.aliases_join ctx (relationPath relation name)
        parent f target k
      exact ih (.inr ⟨_, rfl, List.mem_map_of_mem hmem⟩) hjoin

/-- A path starts at the computed column that it names, at a stored column or at an alias. -/
theorem followPath_root (h : c.followPath ctx path = (.ok e, ctx')) :
    ∃ root, e.target.root? = some root ∧
      ((∃ rest, Text.segments path = root :: rest) ∨ root ∈ ctx'.model.columns ∨
          root ∈ ctx'.aliases.map (·.2)) := by
  obtain ⟨name, rest, hsegments, -, hstart⟩ := followPath_ok h
  rcases hstart with ⟨type, -, hvalue⟩ | ⟨-, hfollow⟩
  · exact ⟨name, follow_value_root hvalue, .inl ⟨rest, hsegments⟩⟩
  · obtain ⟨root, hroot, hfrom⟩ := follow_root (.inl ⟨rfl, rfl⟩) hfollow
    exact ⟨root, hroot, .inr hfrom⟩

/-! ## Paths that are followed once more -/

/-- The join of a relation that has one is joined again under its alias. -/
theorem join_again {text joined : String} (honce : (later.aliases.map (·.1)).Nodup)
    (hmem : (text, joined) ∈ later.aliases)
    (parent : Option String) (f : Field) (t : Model) (k : Field) :
    (later.join text parent f t k).1.1 = joined ∧
        (later.join text parent f t k).2.aliases = later.aliases := by
  have haliases : (later.join text parent f t k).2.aliases = later.aliases := by
    obtain ⟨entry, hentry, heq⟩ := List.mem_map.mp hmem
    obtain ⟨rfl, -⟩ := Prod.mk.inj heq
    unfold Context.join
    split
    · dsimp only
      split
      · exact Context.aliases_promoteAt later _
      · rfl
    · rename_i hnone
      have habsent := List.findIdx?_eq_none_iff.mp hnone entry hentry
      simp at habsent
  have hagain := (Context.aliases_join later text parent f t k).2.1
  rw [haliases] at hagain
  exact ⟨(Prod.mk.inj (List.inj_on_of_nodup_map honce hagain hmem rfl)).2, haliases⟩

theorem follow_value_again {a : Access} {names : List String} {joins : List Nat}
    (h : c.follow path (.value a) names joins ctx = (.ok e, ctx')) (others : List Nat)
    (later : Context) :
    ∃ through, c.follow path (.value a) names others later = (.ok { e with joins :=
        through }, later) := by
  induction names generalizing a with
  | nil =>
    obtain ⟨rfl, -⟩ := follow_value_nil_ok h
    exact ⟨others, rfl⟩
  | cons name rest ih =>
    rcases follow_value_cons_ok h with ⟨next, hnext, hrest⟩ | ⟨l, hl, rfl, -⟩
    · obtain ⟨through, hagain⟩ := ih hrest
      exact ⟨through, by simp only [follow, hnext, hagain]⟩
    · exact ⟨others, by simp only [follow, hl]⟩

theorem follow_aliases {place : Place} {names : List String} {joins : List Nat}
    (h : c.follow path place names joins ctx = (.ok e, ctx')) : ctx.aliases ⊆ ctx'.aliases := by
  induction names generalizing place joins ctx with
  | nil =>
    cases place with
    | document => simp [follow] at h
    | value a => rw [follow_value_context h]; exact List.Subset.refl _
  | cons name rest ih =>
    cases place with
    | value a => rw [follow_value_context h]; exact List.Subset.refl _
    | document m parent relation =>
      obtain ⟨_, _, f, hnames, -, hcase⟩ := follow_document_ok h
      obtain ⟨rfl, rfl⟩ := List.cons.inj hnames
      rcases hcase with ⟨-, hcolumn⟩ | ⟨_, _, _, target, k, -, -, -, -, hjoin⟩
      · exact ih hcolumn
      · exact List.Subset.trans (Context.aliases_join ctx _ parent f target k).1 (ih hjoin)

theorem follow_again {place : Place} {names : List String} {joins : List Nat}
    (h : c.follow path place names joins ctx = (.ok e, ctx'))
    (honce : (later.aliases.map (·.1)).Nodup)
    (haliases : ctx'.aliases ⊆ later.aliases) (others : List Nat) :
    ∃ through later', c.follow path place names others later = (.ok { e with joins :=
        through }, later') := by
  induction names generalizing place joins ctx others later with
  | nil =>
    cases place with
    | document => simp [follow] at h
    | value a =>
      obtain ⟨through, hagain⟩ := follow_value_again h others later
      exact ⟨through, later, hagain⟩
  | cons name rest ih =>
    cases place with
    | value a =>
      obtain ⟨through, hagain⟩ := follow_value_again h others later
      exact ⟨through, later, hagain⟩
    | document m parent relation =>
      obtain ⟨_, _, f, hnames, hf, -⟩ := follow_document_ok h
      obtain ⟨rfl, rfl⟩ := List.cons.inj hnames
      cases hstays : c.schema.staysInside f rest with
      | true =>
        rw [follow_stays hf hstays] at h
        obtain ⟨through, hagain⟩ := follow_value_again h others later
        exact ⟨through, later, by rw [follow_stays hf hstays, hagain]⟩
      | false =>
        obtain ⟨link, t, hlink⟩ := link?_of_leaves hf hstays h
        obtain ⟨k, hleaves⟩ := follow_leaves hf hstays hlink
        rw [hleaves] at h ⊢
        -- the alias of this join is among those at the end of the path, so it is the one that
        -- is found again
        have hmem := haliases (follow_aliases h (Context.aliases_join ctx (relationPath relation
          name) parent f t k).2.1)
        obtain ⟨hjoined, hsame⟩ := join_again honce hmem parent f t k
        rw [hjoined]
        exact ih h (by rwa [hsame]) (by rwa [hsame]) _

/-- A path that was followed before leads to the same again. -/
theorem followPath_again (h : c.followPath ctx path = (.ok e, ctx'))
    (hlater : Resumes ctx' later) :
    ∃ through later', c.followPath later path = (.ok { e with joins := through }, later') := by
  have hgathers := (followPath_reads h).1
  have htypes : ∀ name, later.computedType? name = ctx.computedType? name := fun name => by
    rw [Context.computedType?, Context.computedType?, hlater.annotations, hgathers.annotations]
  obtain ⟨name, rest, hsegments, hempty, hstart⟩ := followPath_ok h
  have hcontains : (name :: rest).contains "" = false := by simpa using hempty
  simp only [followPath, hsegments, hcontains, List.headD_cons, List.tail_cons, htypes,
    hlater.model, hgathers.model]
  rcases hstart with ⟨type, htype, hvalue⟩ | ⟨hnone, hfollow⟩
  · obtain ⟨through, hagain⟩ := follow_value_again hvalue [] (later.refer name)
    exact ⟨through, _, by simp only [htype, hagain]; rfl⟩
  · obtain ⟨through, later', hagain⟩ := follow_again hfollow hlater.once hlater.aliases []
    exact ⟨through, later', by simp only [hnone, hagain]; rfl⟩

/-- So its expression is the same. -/
theorem fieldExpr_again {v : Value} {type : ValueType}
    (h : c.fieldExpr ctx path = .ok ((v, type), ctx'))
    (hlater : Resumes ctx' later) :
        ∃ later', c.fieldExpr later path = .ok ((v, type), later') := by
  unfold fieldExpr at h
  split at h
  · rename_i r after hr
    obtain ⟨hvalue, rfl⟩ := Prod.mk.inj (Except.ok.inj h)
    simp only [resolveField] at hr
    split at hr
    · rename_i ending after' hpath
      obtain ⟨hreferred, rfl⟩ := Prod.mk.inj hr
      obtain ⟨through, later', hagain⟩ := followPath_again hpath hlater
      refine ⟨later', ?_⟩
      unfold referred at hreferred
      split at hreferred
      · simp at hreferred
      · rename_i hlookup
        obtain rfl := Except.ok.inj hreferred
        simp only [fieldExpr, resolveField, hagain, referred, hlookup, ← hvalue]
    · simp at hr
  · simp at h

end Compiler

end DocQuery
