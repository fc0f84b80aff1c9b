import DocQuery.Proofs.Literals
import DocQuery.Proofs.NamedValues
set_option autoImplicit false

/-!
# Proofs: paths in two parts

A path is read in one go.  What it finds is found as well by reading its front first, keeping
that in a column and going on from there, unless arrays stand where the parts meet.  So a lookup
on a path holds where the same lookup on its end behind the column does.
-/

namespace DocQuery

/-! ## Texts of paths -/

/-- A text with a point in it is what is before the first one and what is behind. -/
theorem Text.exists_front {s : String} (h : '.' ∈ s.toList) :
    ∃ front rest, s = front ++ "." ++ rest ∧ '.' ∉ front.toList := by
  obtain ⟨cs, ds, hs, hcs⟩ := List.eq_append_cons_of_mem h
  refine ⟨String.ofList cs, String.ofList ds, String.toList_injective ?_, by simpa using hcs⟩
  simp [hs]

namespace PathText

variable {scope : Scope} {text : String} {root : Value} {names : List String}

/-- A text that reads something is that of a path. -/
theorem exists_of_read {v : Option Value} (h : scope.read ("$" ++ text) = .ok v) :
    ∃ root names, PathText scope ("$" ++ text) root names := by
  cases hname : isOperatorName text with
  | false => exact ⟨_, _, .root text hname⟩
  | true =>
    obtain ⟨rest, rfl⟩ := exists_of_isOperatorName hname
    have htext : "$" ++ ("$" ++ rest) = "$$" ++ rest := by rw [← String.append_assoc]; rfl
    rw [htext, read_variable, Scope.reference] at h
    rw [htext]
    by_cases hdots : '.' ∈ rest.toList
    · obtain ⟨front, path, rfl, hfront⟩ := Text.exists_front hdots
      rw [Text.splitOnce?_append hfront] at h
      cases hvalue : scope.variableOf front with
      | error e => simp [hvalue, Except.map] at h
      | ok w =>
        rw [← String.append_assoc, ← String.append_assoc]
        exact ⟨_, _, .member front w path hfront hvalue⟩
    · rw [Text.splitOnce?_of_notMem hdots] at h
      cases hvalue : scope.variableOf rest with
      | error e => simp [hvalue, Except.map] at h
      | ok w => exact ⟨_, _, .bound rest w hdots hvalue⟩

/-- The text of a path goes on with the text of another one. -/
theorem extend_path (h : PathText scope text root names) (name : String) :
    PathText scope (text ++ "." ++ name) root (names ++ Value.pathNames name) := by
  have hnames : ∀ path,
      Value.pathNames (path ++ "." ++ name) = Value.pathNames path ++ Value.pathNames name :=
    fun path => Text.split_extend path name
  cases h with
  | root path hplain =>
    have h : PathText scope _ _ _ :=
      .root (path ++ "." ++ name) (Text.startsWith_append hplain name)
    rwa [hnames, ← String.append_assoc, ← String.append_assoc] at h
  | bound v w hv hvalue => exact .member v _ name hv hvalue
  | member v w path hv hvalue =>
    have h : PathText scope _ _ _ := .member v _ (path ++ "." ++ name) hv hvalue
    rwa [hnames, ← String.append_assoc, ← String.append_assoc] at h

end PathText

namespace Value

/-- Documents that are read item by item, of which none holds an array there, may be read on in
the same way. -/
theorem walkItems_append {names rest : List String} {next : String}
    (ih : ∀ v : Value, (∀ items, walk v names = some (.array items) → ∀ item ∈ items,
      item.items? = none) →
      walk v (names ++ next :: rest) = (walk v names).bind fun w => walk w (next :: rest))
    {items : List Value} {name : String}
    (h : ∀ item ∈ walkItems items name names, item.items? = none) :
    walkItems items name (names ++ next :: rest) =
        walkItems (walkItems items name names) next rest := by
  induction items with
  | nil => rfl
  | cons item others ihitems =>
    cases item with
    | object fields =>
      simp only [walkItems, walkField_eq] at h ⊢
      cases hfield : Document.value? fields name with
      | none =>
        rw [hfield] at h
        exact ihitems h
      | some v =>
        rw [hfield] at h
        simp only [Option.bind_some] at h ⊢
        cases hwalk : walk v names with
        | none =>
          rw [hwalk] at h
          rw [ih v (by simp [hwalk]), hwalk]
          exact ihitems h
        | some w =>
          rw [hwalk] at h
          obtain ⟨hw, hothers⟩ := List.forall_mem_cons.mp h
          rw [ih v (fun items hitems => by
            obtain rfl := Option.some.inj (hwalk.symm.trans hitems)
            simp [items?] at hw), hwalk, ihitems hothers]
          cases w with
          | array items => simp [items?] at hw
          | _ => simp only [Option.bind_some, walk, walkItems, walkField_eq]
    | _ => exact ihitems h

/-- A path goes on from where it has come to, unless that is an array that holds arrays. -/
theorem walk_append_of_flat (rest : List String) {v : Value} {names : List String}
    (h : ∀ items, walk v names = some (.array items) → ∀ item ∈ items, item.items? = none) :
    walk v (names ++ rest) = (walk v names).bind fun w => walk w rest := by
  cases rest with
  | nil => simp
  | cons next rest =>
    induction names generalizing v with
    | nil => simp
    | cons name names ih =>
      cases v with
      | object fields =>
        simp only [List.cons_append, walk, walkField_eq] at h ⊢
        cases hfield : Document.value? fields name with
        | none => rfl
        | some w =>
          rw [hfield] at h
          exact ih h
      | array items =>
        have hflat := walkItems_append (fun v => ih) (h _ rfl)
        simp only [List.cons_append, walk, hflat, Option.bind_some]
      | _ => rfl

end Value

namespace Move

/-- The names that a move to a field adds to a path. -/
def path : Move → List String
  | .key name _ => Value.pathNames name
  | _ => []

/-- Whether moves ask for a field of an embedded document, with nothing but such fields before
it. -/
def Opens (moves front : List Move) (name : String) : Prop :=
  front.all isKey = true ∧ ∃ type back, moves = front ++ .key name type :: back

theorem Opens.append {moves front : List Move} {name : String} (h : Opens moves front name)
    (more : List Move) : Opens (moves ++ more) front name := by
  obtain ⟨hfront, type, back, rfl⟩ := h
  exact ⟨hfront, type, back ++ more, by simp⟩

/-- Moves go over some fields first. -/
theorem exists_fields (moves : List Move) :
    ∃ fields rest, moves = fields ++ rest ∧ fields.all isKey = true ∧
    ∀ move, rest.head? = some move → move.isKey = false := by
  refine ⟨moves.takeWhile isKey, moves.dropWhile isKey, List.takeWhile_append_dropWhile.symm,
    List.all_takeWhile, ?_⟩
  intro move hmove
  have hhead := List.head?_dropWhile_not isKey moves
  rwa [hmove] at hhead

theorem all_isMember_of_isKey {fields : List Move} (h : fields.all isKey = true) :
    fields.all isMember = true := by
  rw [List.all_eq_true] at h ⊢
  intro move hmove
  have hkey := h move hmove
  cases move <;> first | rfl | simp [isKey] at hkey

theorem exists_opens {fields : List Move} (h : fields.all isKey = true) (hne : fields ≠ []) :
    ∃ name, Opens fields [] name := by
  obtain ⟨move, rest, rfl⟩ := List.exists_cons_of_ne_nil hne
  cases move with
  | key name type => exact ⟨name, rfl, type, rest, rfl⟩
  | _ => simp [isKey] at h

end Move

namespace Access

open Operator (found)
open Value Move

/-- Whether a document is read in the same way along a path, and along its end behind a column
that holds what is in front of it. -/
structure Splits (base : Access) (moves : List Move) (asksNull : Bool)
    (doc : Value) : Prop where
  document : doc.items? = none
  /-- A path goes on behind an array, but not into arrays that the array holds. -/
  path : base.isPath = true → ∀ name, Opens moves [] name → ∀ items,
    base.render.evalOn doc = .ok (some (.array items)) → ∀ item ∈ items, item.items? = none
  /-- A path goes on behind an array, but the operator `$getField` does not. -/
  array : base.isPath = false → ∀ front name, Opens moves front name → ∀ items,
    (base.along front).render.evalOn doc ≠ .ok (some (.array items))
  /-- The operator `$getField` takes names with points as they are. -/
  name : base.isPath = false → ∀ front name, Opens moves front name → '.' ∉ name.toList
  /-- The operator `$getField` finds null in null, and a path finds nothing there. -/
  null : base.isPath = false → asksNull = true → moves.all isMember = true → ∀ front name,
    Opens moves front name → (base.along front).render.evalOn doc ≠ .ok (some .null)

theorem Splits.front {base : Access} {moves more : List Move} {asksNull : Bool} {doc : Value}
    (h : base.Splits (moves ++ more) asksNull doc) : base.Splits moves false doc where
  document := h.document
  path := fun hpath name hopens => h.path hpath name (hopens.append more)
  array := fun hpath front name hopens => h.array hpath front name (hopens.append more)
  name := fun hpath front name hopens => h.name hpath front name (hopens.append more)
  null := fun _ hasks => by simp at hasks

/-- The text of a path goes on with fields. -/
theorem exists_pathText_along {scope : Scope} (base : Access) {text : String} {root : Value}
    {names : List String}
    (hbase : base.render = .string text) (h : PathText scope text root names)
    {fields : List Move}
    (hfields : fields.all isKey = true) :
    ∃ longer, (base.along fields).render = .string longer ∧
      PathText scope longer root (names ++ fields.flatMap Move.path) := by
  induction fields generalizing base text names with
  | nil => exact ⟨text, hbase, by simpa using h⟩
  | cons move rest ih =>
    simp only [List.all_cons, Bool.and_eq_true] at hfields
    cases move with
    | key name type =>
      have hnext : (base.go (.key name type)).render = .string (text ++ "." ++ name) := by
        rw [go, render, hbase]
        rfl
      obtain ⟨longer, hlonger, htext⟩ := ih _ hnext (h.extend_path name) hfields.2
      exact ⟨longer, hlonger, by simpa [Move.path] using htext⟩
    | _ => simp [isKey] at hfields

theorem exists_text_of_isPath {base : Access} (h : base.isPath = true) :
    ∃ text, base.render = .string ("$" ++ text) := by
  induction base with
  | column joined name type =>
    cases joined with
    | none => exact ⟨name, rfl⟩
    | some x => exact ⟨x ++ "." ++ name, by simp only [render, String.append_assoc]⟩
  | item type => exact ⟨"$" ++ itemName, rfl⟩
  | computed name type => exact ⟨name, rfl⟩
  | key inner name type ih =>
    cases hinner : inner.isPath with
    | true =>
      obtain ⟨text, htext⟩ := ih hinner
      exact ⟨text ++ "." ++ name, by rw [render, htext, keyOf]; simp only [String.append_assoc]⟩
    | false =>
      rw [isPath, render_key hinner] at h
      simp [fieldOf, operator, string?] at h
  | _ => simp [isPath, render, fieldOf, lengthOf, mapOf, operator, string?] at h

section Fields

variable {base : Access} {fields : List Move} {doc out : Value} {v : Option Value}
  {column : String} {type : ValueType}

/-- Fields behind a column that holds a value. -/
theorem eval_along_column (hcolumn : IsPlainName column) (hout : out.items? = none)
    (hfields : fields.all isKey = true) :
    ((Access.computed column type).along fields).render.evalOn out =
      .ok ((out.field? column).bind fun w => w.walk (fields.flatMap Move.path)) := by
  have hstart : PathText ⟨out, []⟩ ("$" ++ column) out [column] := by
    have h : PathText ⟨out, []⟩ _ _ _ := .root column hcolumn.2
    rwa [pathNames_of_plain hcolumn.1] at h
  obtain ⟨longer, hlonger, htext⟩ := exists_pathText_along (.computed column type) rfl
    hstart hfields
  rw [hlonger, evalOn, eval_string, htext.read, List.cons_append, List.nil_append,
    walk_cons hout]

/-- Fields behind a path. -/
theorem eval_along_path (hpath : base.isPath = true) (hfields : fields.all isKey = true)
    (hv : base.render.evalOn doc = .ok v)
    (hflat : fields ≠ [] → ∀ items, v = some (.array items) → ∀ item ∈ items,
      item.items? = none) :
    (base.along fields).render.evalOn doc =
        .ok (v.bind fun w => w.walk (fields.flatMap Move.path)) := by
  obtain ⟨text, htext⟩ := exists_text_of_isPath hpath
  rw [htext, evalOn, eval_string] at hv
  obtain ⟨root, names, hnames⟩ := PathText.exists_of_read hv
  obtain rfl : root.walk names = v := Except.ok.inj (hnames.read.symm.trans hv)
  obtain ⟨longer, hlonger, hall⟩ := exists_pathText_along base htext hnames hfields
  rw [hlonger, evalOn, eval_string, hall.read]
  cases fields with
  | nil => simp
  | cons move rest => rw [walk_append_of_flat _ (hflat (by simp))]

/-- One more field: the operator `$getField` and a path find the same, or null and nothing. -/
theorem coincide_getField {strictly : Prop} {w : Option Value}
    (harray : ∀ items, w ≠ some (.array items))
    (hnull : strictly → w ≠ some .null) (name : String) :
    Coincide strictly (applyGetField (some name) w) (.ok (w.bind fun u => u.walk [name])) := by
  rcases w with _ | u
  · exact .inl rfl
  · cases u with
    | null => exact .inr ⟨fun hstrict => hnull hstrict rfl, isBlank_null, isBlank_none⟩
    | object members => exact .inl (congrArg _ (walk_singleton (.object members) name rfl).symm)
    | array items => exact absurd rfl (harray items)
    | _ => exact .inl rfl

theorem isPath_along (hpath : base.isPath = false) (moves : List Move) :
    (base.along moves).isPath = false := by
  induction moves generalizing base with
  | nil => exact hpath
  | cons move rest ih => exact ih (isPath_go fun _ => hpath)

/-- Fields behind what is no path, as long as no array stands where they are asked for. -/
theorem coincide_along_fields {strictly : Prop} (hpath : base.isPath = false)
    (hv : base.render.evalOn doc = .ok v) (hfields : fields.all isKey = true)
    (harray : ∀ front name, Opens fields front name → ∀ items,
      (base.along front).render.evalOn doc ≠ .ok (some (.array items)))
    (hname : ∀ front name, Opens fields front name → '.' ∉ name.toList)
    (hnull : strictly → ∀ front name, Opens fields front name → (base.along front).render.evalOn
      doc ≠ .ok (some .null)) :
    Coincide strictly ((base.along fields).render.evalOn doc)
      (.ok (v.bind fun w => w.walk (fields.flatMap Move.path))) := by
  -- every field is read by an operator of its own, so the induction is on the last one
  induction fields using List.reverseRecOn with
  | nil => exact .inl (by simpa using hv)
  | append_singleton fields move ih =>
    rw [List.all_append, Bool.and_eq_true] at hfields
    cases move with
    | key name type =>
      have hopens : Opens (fields ++ [.key name type]) fields name := ⟨hfields.1, type, [], rfl⟩
      have hsame := ih hfields.1 (fun front name h => harray front name (h.append _))
        (fun front name h => hname front name (h.append _)) fun hstrict front name h =>
          hnull hstrict front name (h.append _)
      have hnames : (fields ++ [Move.key name type]).flatMap Move.path =
          fields.flatMap Move.path ++ [name] := by
        simp [Move.path, pathNames_of_plain (hname _ _ hopens)]
      rw [along_concat, go, render_key (isPath_along hpath fields), evalOn,
        eval_fieldOf, hnames]
      -- what is read of the fields before is no array, and null only if it need not be told
      -- from nothing
      generalize hw : (v.bind fun w => w.walk (fields.flatMap Move.path)) = w at hsame
      have hflat : ∀ items, w ≠ some (.array items) := by
        rcases hsame with hsame | ⟨-, -, hblank⟩
        · exact fun items hitems => harray _ _ hopens items (hsame.trans (congrArg _ hitems))
        · rintro items rfl
          rcases hblank.cases with hnone | hnone <;> simp [found] at hnone
      have hthere : strictly → w ≠ some .null := by
        rcases hsame with hsame | ⟨hnot, -, -⟩
        · exact fun hstrict hitem => hnull hstrict _ _ hopens (hsame.trans (congrArg _ hitem))
        · exact fun hstrict => absurd hstrict hnot
      have hlonger : (v.bind fun u => u.walk (fields.flatMap Move.path ++ [name])) =
          w.bind fun u => u.walk [name] := by
        subst hw
        cases v with
        | none => rfl
        | some u => exact walk_append u _ _ hflat
      rw [hlonger]
      exact (coincide_fieldOf hsame name).trans (coincide_getField hflat hthere name)
    | _ => simp [isKey] at hfields

end Fields

section Columns

variable {base : Access} {moves : List Move} {asksNull : Bool} {column : String}
  {type : ValueType}
  (hcolumn : IsPlainName column) (hmoves : ∀ move ∈ moves, move.IsConstant)
include hcolumn hmoves

/-- A path and its end behind a column read the same. -/
theorem coincide_along_column (type : ValueType) {doc out : Value}
    (hsplits : base.Splits moves asksNull doc) (hout : out.items? = none)
    (hv : base.render.evalOn doc = .ok (out.field? column)) :
    Coincide (asksNull = true ∨ moves.all isMember = false)
      ((base.along moves).render.evalOn doc)
      (((Access.computed column type).along moves).render.evalOn out) := by
  obtain ⟨fields, rest, rfl, hkeys, hhead⟩ := exists_fields moves
  have hmembers : (fields ++ rest).all isMember = rest.all isMember := by
    rw [List.all_append, all_isMember_of_isKey hkeys, Bool.true_and]
  have hnear : Coincide (asksNull = true ∧ (fields ++ rest).all isMember = true)
    ((base.along fields).render.evalOn doc)
    (((Access.computed column type).along fields).render.evalOn out) := by
    rw [eval_along_column hcolumn hout hkeys]
    cases hpath : base.isPath with
    | true =>
      refine .inl (eval_along_path hpath hkeys hv fun hne items hitems => ?_)
      obtain ⟨name, hopens⟩ := exists_opens hkeys hne
      exact hsplits.path hpath name (hopens.append rest) items (hitems ▸ hv)
    | false =>
      exact coincide_along_fields hpath hv hkeys (fun front name h => hsplits.array hpath front
        name (h.append rest)) (fun front name h => hsplits.name hpath front name
        (h.append rest)) fun hnull front name h => hsplits.null hpath hnull.1 hnull.2 front name
        (h.append rest)
  -- what comes behind the fields starts with something else than a field
  have hall := eval_along_congr hsplits.document hout (fun move hmove hkey =>
    absurd hkey (by simp [hhead move hmove]))
    (fun move hmove => hmoves move (List.mem_append_right fields hmove)) hnear
  rw [← along_append, ← along_append] at hall
  refine hall.mono ?_
  rw [← hmembers]
  rintro (hasks | hother)
  · cases hmoves : (fields ++ rest).all isMember with
    | true => exact .inl ⟨hasks, rfl⟩
    | false => exact .inr rfl
  · exact .inr hother

/-- A lookup on a path and one on its end behind a column are written alike, and hold alike. -/
theorem exists_buildOn {l : Lookup} {u e : Value} (htype : type = base.type)
    (hflat : base.type.isMapped = false)
    (heach : (base.along moves).type.isMapped = true → ∃ array inner, base.along moves =
      .each array inner)
    (hallowed : (Lookup.allowed (base.along moves).type).contains l = true)
    (hlist : l = .in → ∃ items, u = .array items)
    (he : l.buildOn (base.along moves) u.protect = .ok e) :
    ∃ e', l.buildOn ((Access.computed column type).along moves) u.protect = .ok e' ∧
      ∀ doc out, base.Splits moves (l.asksNull u) doc → out.items? = none →
        base.render.evalOn doc = .ok (out.field? column) → e.evalOn doc = e'.evalOn out := by
  have hsame : ((Access.computed column type).along moves).type = (base.along moves).type :=
    type_along base (.computed column type) htype moves
  have hplain : ∀ doc out, base.Splits moves (l.asksNull u) doc → out.items? = none →
      base.render.evalOn doc = .ok (out.field? column) →
        (l.build (base.along moves).render u.protect).evalOn doc =
        (l.build ((Access.computed column type).along moves).render u.protect).evalOn out := by
    intro doc out hsplits hout hv
    refine eval_build_congr hsplits.document hout (items?_render _) (items?_render _)
      (coincide_along_column hcolumn hmoves type hsplits hout hv) hlist (fun hnot => ?_)
        fun hnot => ?_
    · simpa using fun hasks => hnot (.inl hasks)
    · refine Lookup.ne_all_of_allowed (Bool.eq_false_iff.mpr fun hmapped => ?_) hallowed
      obtain ⟨array, inner, hbase⟩ := heach hmapped
      obtain ⟨front, rfl, -⟩ := exists_of_along_eq_each hflat hbase
      exact hnot (.inr (by simp [isMember]))
  unfold Lookup.buildOn at he ⊢
  rw [hsame]
  split at he
  · rename_i hmapped
    rw [if_pos hmapped]
    unfold Lookup.buildMapped at he ⊢
    split at he
    · rename_i hwhole
      obtain rfl := Except.ok.inj he
      exact ⟨_, if_pos hwhole, hplain⟩
    · rename_i hwhole
      rw [if_neg hwhole]
      split at he
      · rename_i array inner hbase
        obtain ⟨front, rfl, rfl⟩ := exists_of_along_eq_each hflat hbase
        obtain rfl := Except.ok.inj he
        rw [along_concat]
        refine ⟨_, rfl, fun doc out hsplits hout hv => ?_⟩
        have hfront := coincide_along_column hcolumn
          (fun move hmove => hmoves move (List.mem_append_left _ hmove)) type
            hsplits.front hout hv
        have hinner := hmoves (.each inner) (List.mem_append_right front List.mem_cons_self)
          inner rfl
        exact eval_someItem_congr hsplits.document hout hinner (hfront.mono False.elim) l u
      · cases he
  · rename_i hmapped
    obtain rfl := Except.ok.inj he
    exact ⟨_, if_neg hmapped, hplain⟩

end Columns

end Access

namespace Move

/-- Moves that read no fields read nothing but what they start from. -/
theorem isConstant_of_mirrors {base : Access} {moves : List Move}
    (h : Access.Mirrors (fun _ _ => False) (base.along moves) (base.along moves)) :
        ∀ move ∈ moves, move.IsConstant := by
  induction moves using List.reverseRecOn with
  | nil => simp
  | append_singleton moves move ih =>
    rw [Access.along_concat] at h
    have hboth : Access.Mirrors (fun _ _ => False) (base.along moves) (base.along moves) ∧
        move.IsConstant := by
      cases move with
      | each inner =>
        cases h with
        | each hbase hinner =>
          refine ⟨hbase, fun other heq => ?_⟩
          obtain rfl := Move.each.inj heq
          exact hinner.render fun _ _ hfalse => hfalse.elim
      | _ =>
        cases h
        exact ⟨‹_›, fun inner heq => by cases heq⟩
    intro other hother
    rcases List.mem_append.mp hother with hfront | hlast
    · exact ih hboth.1 other hfront
    · exact List.mem_singleton.mp hlast ▸ hboth.2

end Move

/-! ## Literals -/

namespace Value

variable {kind : Option ScalarKind}

theorem isNull_of_ofKind? {kind : ScalarKind} {v u : Value} (h : v.ofKind? kind = some u) :
    u.isNull = v.isNull := by
  unfold ofKind? at h
  split at h <;> grind [isNull, Option.map_eq_some_iff]

theorem isNull_of_preparedFor? {v u : Value} (h : v.preparedFor? kind = some u) :
    u.isNull = v.isNull := by
  cases kind with
  | none => exact congrArg isNull (Option.some.inj h).symm
  | some k => exact isNull_of_ofKind? h

theorem any_isNull_of_mapM {items us : List Value}
    (h : items.mapM (preparedFor? kind) = some us) : us.any isNull = items.any isNull := by
  induction items generalizing us with
  | nil =>
    obtain rfl := Option.some.inj h
    rfl
  | cons v rest ih =>
    rw [List.mapM_cons] at h
    obtain ⟨u, hu, h⟩ := Option.bind_eq_some_iff.mp h
    obtain ⟨others, hothers, h⟩ := Option.bind_eq_some_iff.mp h
    obtain rfl := Option.some.inj h
    rw [List.any_cons, List.any_cons, isNull_of_preparedFor? hu, ih hothers]

end Value

namespace Lookup

variable {l : Lookup} {kind : Option ScalarKind} {v w : Value}

/-- The literal of a lookup is quoted, and asks for null as it did. -/
theorem literal_ok (h : l.literal kind v = .ok w) :
    ∃ u : Value, w = u.protect ∧ (l = .in → ∃ items, u = .array items) ∧
        l.asksNull u = l.asksNull v := by
  unfold literal at h
  split at h <;> rename_i harity
  · obtain ⟨u, hu, rfl⟩ := scalarLiteral_ok h
    refine ⟨u, rfl, ?_, ?_⟩
    · rintro rfl
      cases harity
    · cases l <;> first | rfl | exact Value.isNull_of_preparedFor? hu | cases harity
  · obtain rfl := Except.ok.inj h
    refine ⟨.bool _, rfl, ?_, ?_⟩
    · rintro rfl
      cases harity
    · cases l <;> rfl
  · cases h
  · obtain ⟨us, hus, rfl⟩ := listLiteral_ok h
    refine ⟨.array us, rfl, fun _ => ⟨us, rfl⟩, ?_⟩
    cases l <;> first | rfl | exact Value.any_isNull_of_mapM hus
  · cases h
  · obtain ⟨us, -, rfl⟩ := listLiteral_ok h
    refine ⟨.array us, rfl, fun _ => ⟨us, rfl⟩, ?_⟩
    cases l <;> first | rfl | cases harity
  · cases h
  · obtain rfl := Except.ok.inj h
    refine ⟨.string _, rfl, ?_, ?_⟩
    · rintro rfl
      cases harity
    · cases l <;> rfl
  · cases h

end Lookup

end DocQuery
