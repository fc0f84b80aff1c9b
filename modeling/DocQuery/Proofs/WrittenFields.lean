import DocQuery.Proofs.CompiledMentions
import DocQuery.Proofs.UsedPaths
set_option autoImplicit false

/-!
# Proofs: the fields that stages mention and write

A pipeline is in order for a field if each stage that mentions the field stands behind one that
writes it.  The stages of joins are, for each field but the stored columns:  a join reads stored
columns or the document of an earlier join.  So are the stages of subqueries, for each field
that their results are put into.
-/

namespace DocQuery

open Value (pathStart)

namespace Stage

/-! ## Mentioned and written fields -/

mutual

/-- The fields of its documents that a stage mentions:  in the paths of its expressions, as what
it unwinds and as its sort keys.  What it mentions in pipelines that it runs on other documents
does not count. -/
def mentions : Stage → List String
  | .select query => query.roots
  | .project fields => fields.flatMap (·.2.roots)
  | .addFields fields => fields.flatMap (·.2.roots)
  | .set fields => fields.flatMap (·.2.roots)
  | .lookup _ bindings _ _ => bindings.flatMap (·.2.roots)
  | .unwind path _ => [pathStart path]
  | .facet facets => mentionsOfFacets facets
  | .group key fields => key.roots ++ fields.flatMap (·.2.roots)
  | .sort keys => keys.map fun k => pathStart k.1
  | .skip _ | .limit _ | .unionWith _ _ | .count _ => []

/-- The same for the stages of a pipeline. -/
def mentionsOfAll : List Stage → List String
  | [] => []
  | s :: rest => s.mentions ++ mentionsOfAll rest

/-- The same for several pipelines on the same documents. -/
def mentionsOfFacets : List (String × List Stage) → List String
  | [] => []
  | (_, stages) :: rest => mentionsOfAll stages ++ mentionsOfFacets rest

end

mutual

/-- The pipelines that a stage runs on documents of other collections. -/
def inner : Stage → List (List Stage)
  | .lookup _ _ pipeline _ => [pipeline]
  | .unionWith _ pipeline => [pipeline]
  | .facet facets => innerOfFacets facets
  | .select _ | .project _ | .addFields _ | .set _ | .unwind _ _ | .group _ _ | .sort _
    | .skip _ | .limit _
  | .count _ => []

/-- The same for the stages of a pipeline. -/
def innerOfAll : List Stage → List (List Stage)
  | [] => []
  | s :: rest => s.inner ++ innerOfAll rest

/-- The same for several pipelines on the same documents. -/
def innerOfFacets : List (String × List Stage) → List (List Stage)
  | [] => []
  | (_, stages) :: rest => innerOfAll stages ++ innerOfFacets rest

end

/-- The fields of its documents that a stage writes.  A projection that only keeps a field does
not write it. -/
def writes : Stage → List String
  | .project fields => (fields.filter fun m => !isFlag m.2).map fun m => pathStart m.1
  | .addFields fields => fields.map fun m => pathStart m.1
  | .set fields => fields.map fun m => pathStart m.1
  | .lookup _ _ _ target => [pathStart target]
  | .facet facets => facets.map fun f => pathStart f.1
  | .group _ fields => "_id" :: fields.map fun m => pathStart m.1
  | .count field => [pathStart field]
  | .select _ | .unwind _ _ | .sort _ | .skip _ | .limit _ | .unionWith _ _ => []

/-- Whether stages mention a field only behind one of them that writes it. -/
def WritesFirst (x : String) : List Stage → Prop
  | [] => True
  | s :: rest => x ∉ s.mentions ∧ (x ∈ s.writes ∨ WritesFirst x rest)

variable {x : String} {stages others : List Stage}

theorem writesFirst_of_forall (h : ∀ s ∈ stages, x ∉ s.mentions) : WritesFirst x stages := by
  induction stages with
  | nil => trivial
  | cons s rest ih =>
    obtain ⟨hs, hrest⟩ := List.forall_mem_cons.mp h
    exact ⟨hs, .inr (ih hrest)⟩

theorem WritesFirst.append (h : WritesFirst x stages)
    (h' : (∃ s ∈ stages, x ∈ s.writes) ∨ WritesFirst x others) :
    WritesFirst x (stages ++ others) := by
  induction stages with
  | nil => simpa using h'
  | cons s rest ih =>
    refine ⟨h.1, ?_⟩
    rcases h.2 with hwrites | hrest
    · exact .inl hwrites
    · by_cases hs : x ∈ s.writes
      · exact .inl hs
      · exact .inr (ih hrest (by simpa [hs] using h'))

/-- In front of a stage that mentions the field there is one that writes it. -/
theorem WritesFirst.exists_writes {front back : List Stage} {s : Stage}
    (h : WritesFirst x (front ++ s :: back))
    (hs : x ∈ s.mentions) : ∃ t ∈ front, x ∈ t.writes := by
  induction front with
  | nil => exact absurd hs h.1
  | cons t rest ih =>
    rcases h.2 with hwrites | hrest
    · exact ⟨t, List.mem_cons_self, hwrites⟩
    · obtain ⟨t', ht', hwrites⟩ := ih hrest
      exact ⟨t', List.mem_cons_of_mem _ ht', hwrites⟩

/-- The field that a stage puts documents of another collection into. -/
def output? : Stage → Option String
  | .lookup _ _ _ target => some target
  | _ => none

/-- The pipelines of a pipeline: itself, and those that its stages run on documents of other
collections, at any depth. -/
inductive Holds : List Stage → List Stage → Prop where
  | self (pipeline : List Stage) : Holds pipeline pipeline
  | inside {pipeline part found : List Stage} {s : Stage} (hs : s ∈ pipeline)
    (hpart : part ∈ s.inner)
      (h : Holds part found) : Holds pipeline found

end Stage

open Stage (WritesFirst)

/-! ## Joins -/

namespace Join

variable {config : Config} {m : Model} {x : String} {earlier : List String}

theorem mem_roots_choice {condition holds fails : Value}
    (h : x ∈ (choice condition holds fails).roots) :
    x ∈ condition.roots ∨ x ∈ holds.roots ∨ x ∈ fails.roots := by
  simpa [choice] using h

theorem mem_roots_isEmptyArray {e : Value} (h : x ∈ (isEmptyArray e).roots) : x ∈ e.roots := by
  have hmissing : Value.rootOf? "missing" = none := Value.rootOf?_text rfl
  simpa [isEmptyArray, hmissing] using h

/-- The pipeline of a join, which finds the matching documents in the other collection. -/
def matching (config : Config) (j : Join) : List Stage :=
  [.selectExpr (.operator "$and" (.array (conditions config 0 j.pairs)))]

theorem inner_stages {j : Join} {s : Stage} (hs : s ∈ j.stages config) {r : List Stage}
    (hr : r ∈ s.inner) : r = j.matching config := by
  have hcases : s = lookupStage config j ∨ s.inner = [] := by
    unfold stages at hs
    split at hs <;> simp only [List.mem_cons, List.not_mem_nil, or_false] at hs
    · rcases hs with rfl | rfl
      · exact .inl rfl
      · exact .inr (by rw [Stage.unwindAll, Stage.inner])
    · rcases hs with rfl | rfl | rfl
      · exact .inl rfl
      · exact .inr (by rw [placeholder, Stage.inner])
      · exact .inr (by rw [Stage.unwindAll, Stage.inner])
  rcases hcases with rfl | hnone
  · rw [lookupStage, Stage.inner] at hr
    exact List.mem_singleton.mp hr
  · simp [hnone] at hr

/-- The variables of a join carry what is read at the parent alias, or at stored columns if
there is none. -/
theorem mem_roots_bindings {parent : Option String} {index : Nat} {pairs : List JoinPair}
    {binding : String × Value}
    (hbinding : binding ∈ bindings config parent index pairs) (hx : x ∈ binding.2.roots) :
    ∃ p ∈ pairs, x = pathStart (parent.getD p.parent) := by
  induction pairs generalizing index with
  | nil => simp [bindings] at hbinding
  | cons p rest ih =>
    rcases List.mem_cons.mp hbinding with rfl | hlater
    · refine ⟨p, List.mem_cons_self, ?_⟩
      have hkey : x ∈ (Value.string (parentPath parent p.parent)).roots := by
        simp only [parentKey, key] at hx
        split at hx
        · exact hx
        · simpa using hx
      cases parent with
      | none => exact Value.eq_of_mem_roots_path hkey
      | some a =>
        rw [Option.getD_some, ← Value.pathStart_extend a p.parent]
        refine Value.eq_of_mem_roots_path ?_
        simpa only [parentPath, String.append_assoc] using hkey
    · obtain ⟨p', hp', heq⟩ := ih hlater
      exact ⟨p', List.mem_cons_of_mem p hp', heq⟩

/-- A join reads stored columns or the document of an earlier join, and its alias is a plain
name of its own. -/
structure Hooks (m : Model) (earlier : List String) (j : Join) : Prop where
  parent : ∀ a ∈ j.parentAlias, a ∈ earlier
  own : j.parentAlias = none → ∀ p ∈ j.pairs, p.parent ∈ m.columns
  plain : '.' ∉ j.joined.toList
  fresh : j.joined ∉ m.columns

/-- Joins each of which reads stored columns or the document of an earlier one. -/
def Chained (m : Model) (earlier : List String) : List (String × Join) → Prop
  | [] => True
  | j :: rest => j.2.Hooks m earlier ∧ Chained m (earlier ++ [j.2.joined]) rest

theorem chained_append {joins : List (String × Join)} {j : String × Join} :
    Chained m earlier (joins ++ [j]) ↔ Chained m earlier joins ∧
        j.2.Hooks m (earlier ++ joins.map (·.2.joined)) := by
  induction joins generalizing earlier with
  | nil => simp [Chained]
  | cons first rest ih => simp [Chained, ih, and_assoc]

/-- It makes no difference what the joins do with documents without a match. -/
theorem chained_modify {joins : List (String × Join)} {index : Nat}
    (h : Chained m earlier joins) :
    Chained m earlier (joins.modify index Context.keepUnmatched) := by
  induction joins generalizing earlier index with
  | nil => simpa using h
  | cons j rest ih =>
    cases index with
    | zero => exact ⟨⟨h.1.parent, h.1.own, h.1.plain, h.1.fresh⟩, h.2⟩
    | succ index => exact ⟨h.1, ih h.2⟩

theorem Chained.hooks {front back : List (String × Join)} {j : String × Join}
    (h : Chained m earlier (front ++ j :: back)) :
        j.2.Hooks m (earlier ++ front.map (·.2.joined)) := by
  induction front generalizing earlier with
  | nil => simpa using h.1
  | cons first rest ih => simpa using ih h.2

theorem Chained.hooks_of_mem {joins : List (String × Join)} (h : Chained m earlier joins)
    {j : String × Join} (hj : j ∈ joins) : ∃ before, j.2.Hooks m before := by
  obtain ⟨front, back, rfl⟩ := List.append_of_mem hj
  exact ⟨_, h.hooks⟩

/-- The stages of a join write its alias, and mention nothing else than what the join reads. -/
theorem writesFirst_stages (config : Config) {j : Join} (hj : j.Hooks m earlier)
    (hcolumns : ∀ column ∈ m.columns, '.' ∉ column.toList)
    (hearlier : ∀ a ∈ earlier, '.' ∉ a.toList)
    (hx : x ∉ m.columns) (hnew : x ∉ earlier) :
    WritesFirst x (j.stages config) ∧ (x = j.joined → ∃ s ∈ j.stages config, x ∈ s.writes) := by
  have hlookup : x ∉ (lookupStage config j).mentions := by
    intro hmention
    obtain ⟨binding, hbinding, hroot⟩ := List.mem_flatMap.mp hmention
    obtain ⟨p, hp, rfl⟩ := mem_roots_bindings hbinding hroot
    cases hparent : j.parentAlias with
    | none =>
      have hcolumn := hj.own hparent p hp
      rw [hparent, Option.getD_none, Value.pathStart_of_notMem (hcolumns _ hcolumn)] at hx
      exact hx hcolumn
    | some a =>
      have ha := hj.parent a hparent
      rw [hparent, Option.getD_some, Value.pathStart_of_notMem (hearlier a ha)] at hnew
      exact hnew ha
  have hjoined : pathStart j.joined = j.joined := Value.pathStart_of_notMem hj.plain
  have hfirst : j.joined ∈ (lookupStage config j).writes := by
    simp [lookupStage, Stage.writes, hjoined]
  have hmem : lookupStage config j ∈ j.stages config := by
    unfold stages
    split <;> simp
  refine ⟨?_, fun heq => ⟨_, hmem, heq ▸ hfirst⟩⟩
  by_cases heq : x = j.joined
  · unfold stages
    split <;> exact ⟨hlookup, .inl (heq ▸ hfirst)⟩
  · have hunwind : x ∉ (Stage.unwindAll j.joined).mentions := by
      simp [Stage.unwindAll, Stage.mentions, hjoined, heq]
    have hplaceholder : x ∉ (placeholder j.joined).mentions := by
      intro hmention
      have hroot : x ∈ (Value.string ("$" ++ j.joined)).roots := by
        rcases mem_roots_choice (by simpa [placeholder, Stage.mentions]
          using hmention) with hempty | hnull | hpath
        · exact mem_roots_isEmptyArray hempty
        · simp at hnull
        · exact hpath
      exact heq ((Value.eq_of_mem_roots_path hroot).trans hjoined)
    unfold stages
    split
    · exact ⟨hlookup, .inr ⟨hunwind, .inr trivial⟩⟩
    · exact ⟨hlookup, .inr ⟨hplaceholder, .inr ⟨hunwind, .inr trivial⟩⟩⟩

/-- So the stages of chained joins are in order for all fields that are no stored columns, and
write all aliases. -/
theorem Chained.writesFirst (config : Config) {joins : List (String × Join)}
    (h : Chained m earlier joins)
    (hcolumns : ∀ column ∈ m.columns, '.' ∉ column.toList)
    (hearlier : ∀ a ∈ earlier, '.' ∉ a.toList)
    (hx : x ∉ m.columns) (hnew : x ∉ earlier) :
    WritesFirst x (joins.flatMap fun j => j.2.stages config) ∧
      (x ∈ joins.map (·.2.joined) → ∃ s ∈ joins.flatMap fun j => j.2.stages config,
          x ∈ s.writes) := by
  induction joins generalizing earlier with
  | nil => exact ⟨trivial, by simp⟩
  | cons j rest ih =>
    obtain ⟨hfirst, hwrites⟩ := writesFirst_stages config h.1 hcolumns hearlier hx hnew
    have hplain : ∀ a ∈ earlier ++ [j.2.joined], '.' ∉ a.toList := by
      simpa [List.forall_mem_append] using fun a ha => ha.elim (hearlier a) fun heq =>
        heq ▸ h.1.plain
    rw [List.flatMap_cons]
    by_cases heq : x = j.2.joined
    · obtain ⟨s, hs, hsx⟩ := hwrites heq
      exact ⟨hfirst.append (.inl ⟨s, hs, hsx⟩), fun _ => ⟨s, List.mem_append_left _ hs, hsx⟩⟩
    · obtain ⟨hrest, hlater⟩ := ih h.2 hplain (by simpa using ⟨hnew, heq⟩)
      refine ⟨hfirst.append (.inr hrest), fun hmem => ?_⟩
      obtain ⟨s, hs, hsx⟩ := hlater (by simpa [heq] using hmem)
      exact ⟨s, List.mem_append_right _ hs, hsx⟩

end Join

namespace Context

variable {ctx ctx' : Context} {m : Model}

theorem chained_promote (h : Join.Chained m [] ctx.joins) (indices : List Nat) :
    Join.Chained m [] (ctx.promote indices).joins := by
  induction indices generalizing ctx with
  | nil => exact h
  | cons index rest ih =>
    exact ih (show Join.Chained m [] (ctx.promoteAt index).joins from Join.chained_modify h)

/-- A join with a model under a plain name reads what it stands behind. -/
theorem chained_join {text : String} {parent : Option String} {f : Field}
    {t : Model} {k : Field} (h : Join.Chained ctx.model [] ctx.joins)
    (hplace : (parent = none ∧ f ∈ ctx.model.fields) ∨ ∃ a, parent = some a ∧
      a ∈ ctx.aliases.map (·.2))
    (hplain : '.' ∉ t.collection.toList) :
        Join.Chained ctx.model [] (ctx.join text parent f t k).2.joins := by
  unfold join
  split
  · dsimp only
    split
    · exact Join.chained_modify h
    · exact h
  · refine Join.chained_append.mpr ⟨h, ?_⟩
    have hfresh := freshAlias_notMem ctx t.collection
    simp only [takenNames, List.mem_cons, List.mem_append, not_or] at hfresh
    refine ⟨fun a ha => ?_, fun hnone p hp => ?_, notMem_freshAlias (by decide) (by decide)
      hplain, hfresh.2.1.1⟩
    · rcases hplace with ⟨rfl, -⟩ | ⟨x, rfl, hx⟩
      · simp [newJoin] at ha
      · obtain rfl : x = a := by simpa [newJoin] using ha
        simpa [aliases] using hx
    · obtain rfl : p = _ := List.mem_singleton.mp hp
      rcases hplace with ⟨-, hf⟩ | ⟨x, rfl, -⟩
      · exact List.mem_map_of_mem hf
      · simp [newJoin] at hnone

end Context

namespace Compiler

open Context (NestedStages Traced)

variable {c : Compiler} {ctx ctx' : Context} {path x : String}

theorem follow_chained (hplain : c.schema.hasPlainCollections = true) {m : Model}
    {parent : Option String}
    {relation : String} {names : List String} {joins : List Nat} {ending : Ending}
    (hplace : (parent = none ∧ m = ctx.model) ∨ ∃ a, parent = some a ∧
      a ∈ ctx.aliases.map (·.2))
    (hchained : Join.Chained ctx.model [] ctx.joins)
    (h : c.follow path (.document m parent relation) names joins ctx = (.ok ending, ctx')) :
    Join.Chained ctx'.model [] ctx'.joins := by
  induction names generalizing m parent relation joins ctx with
  | nil => simp [follow] at h
  | cons name rest ih =>
    obtain ⟨_, _, f, heq, hf, hcase⟩ := follow_document_ok h
    obtain ⟨rfl, rfl⟩ := List.cons.inj heq
    rcases hcase with ⟨-, hcolumn⟩ | ⟨_, _, _, target, k, -, htarget, -, -, hjoin⟩
    · obtain rfl := follow_value_context hcolumn
      exact hchained
    · have hmem := (Context.aliases_join ctx (relationPath relation name) parent f target k).2.1
      have hcollection := (Schema.plain_of_hasPlainCollections hplain
        (List.mem_of_find?_eq_some htarget)).1
      have hmodel := (Context.Alike.join ctx (relationPath relation name) parent f
        target k).model
      refine ih (.inr ⟨_, rfl, List.mem_map_of_mem hmem⟩) (hmodel ▸ Context.chained_join
        hchained ?_ hcollection) hjoin
      rcases hplace with ⟨rfl, rfl⟩ | hjoined
      · exact .inl ⟨rfl, List.mem_of_find?_eq_some hf⟩
      · exact .inr hjoined

theorem followPath_chained (hplain : c.schema.hasPlainCollections = true) {ending : Ending}
    (hchained : Join.Chained ctx.model [] ctx.joins)
    (h : c.followPath ctx path = (.ok ending, ctx')) :
    Join.Chained ctx'.model [] ctx'.joins := by
  obtain ⟨name, rest, -, -, hstart⟩ := followPath_ok h
  rcases hstart with ⟨type, -, hvalue⟩ | ⟨-, hfollow⟩
  · obtain rfl := follow_value_context hvalue
    rwa [(Context.Alike.refer ctx name).model, Context.joins_refer]
  · exact follow_chained hplain (.inl ⟨rfl, rfl⟩) hchained hfollow

/-- Whatever paths are followed, each join reads stored columns or the document of an earlier
one. -/
theorem traced_chained (hplain : c.schema.hasPlainCollections = true) {us : List Use}
    (h : Traced c ctx us ctx')
    (hchained : Join.Chained ctx.model [] ctx.joins) :
        Join.Chained ctx'.model [] ctx'.joins := by
  induction h with
  | quiet hmodel hjoins => rwa [hmodel, hjoins]
  | use _ _ hpath =>
    have hafter := followPath_chained hplain hchained hpath
    rw [(Context.Alike.noteUse _ _ _).model]
    unfold Context.noteUse
    split
    · exact Context.chained_promote hafter _
    · exact hafter
  | append _ _ ihfirst ihrest => exact ihrest (ihfirst hchained)
  | listed _ _ ih => exact ih hchained

/-! ## Subqueries -/

/-- The stage behind a subquery mentions the field of its result. -/
theorem eq_of_mem_firstOrEmpty {output : String} (h : x ∈ (firstOrEmpty output).mentions) :
    x = pathStart output := by
  have hroot : x ∈ (Value.string ("$" ++ output)).roots := by
    rcases Join.mem_roots_choice (by simpa [firstOrEmpty, Stage.mentions] using h) with hempty
      | hnone | hitem
    · exact Join.mem_roots_isEmptyArray hempty
    · simp at hnone
    · simpa using hitem
  exact Value.eq_of_mem_roots_path hroot

/-- The stages of subqueries are in order for the fields of their results. -/
theorem writesFirst_nested {first last : Nat} {stages : List Stage}
    (h : NestedStages c ctx first last stages)
    (hreserved : IsReserved x) (hx : ¬ ctx.Supplies x) : WritesFirst x stages := by
  induction h with
  | nil => trivial
  | @snoc next stages _ q n wrap bindings hn hbindings ih =>
    refine ih.append (.inr ⟨fun hmention => ?_, ?_⟩)
    · obtain ⟨binding, hbinding, hroot⟩ := List.mem_flatMap.mp hmention
      exact hx (hbindings binding hbinding x hroot hreserved)
    · by_cases heq : x = pathStart (c.config.subqueryField next)
      · exact .inl (by simp [Stage.writes, heq])
      · exact .inr ⟨fun hmention => heq (eq_of_mem_firstOrEmpty hmention), .inr trivial⟩

/-- They write the field of each of their numbers. -/
theorem exists_writes_placed {config : Config} {first last k : Nat} {stages : List Stage}
    (h : Placed config first last stages) (hfirst : first ≤ k) (hlast : k < last) :
    ∃ s ∈ stages, pathStart (config.subqueryField k) ∈ s.writes := by
  induction h with
  | nil => omega
  | @snoc next stages source bindings pipeline _ ih =>
    by_cases heq : k = next
    · exact ⟨_, List.mem_append_right _ List.mem_cons_self, by simp [Stage.writes, heq]⟩
    · obtain ⟨s, hs, hwrites⟩ := ih (by omega)
      exact ⟨s, List.mem_append_left _ hs, hwrites⟩

/-- They put their results into fields of different numbers. -/
theorem outputs_placed {config : Config} {first last : Nat} {stages : List Stage}
    (h : Placed config first last stages) :
    stages.filterMap Stage.output? =
        (List.range' first (last - first)).map config.subqueryField := by
  have hle : first ≤ last ∧
      stages.filterMap Stage.output? =
          (List.range' first (last - first)).map config.subqueryField := by
    induction h with
    | nil => simp
    | @snoc next stages source bindings pipeline _ ih =>
      obtain ⟨hle, heq⟩ := ih
      refine ⟨Nat.le_succ_of_le hle, ?_⟩
      rw [List.filterMap_append, heq, Nat.succ_sub hle, List.range'_concat, List.map_append]
      simp [Stage.output?, firstOrEmpty, hle]
  exact hle.2

theorem nodup_outputs {config : Config} {first last : Nat} {stages : List Stage}
    (h : Placed config first last stages) :
    (stages.filterMap Stage.output?).Nodup := by
  rw [outputs_placed h]
  exact List.Nodup.map (fun _ _ h => numbered_injective config.subqueryPrefix h)
    List.nodup_range'

end Compiler

end DocQuery
