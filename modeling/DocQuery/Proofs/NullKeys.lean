import DocQuery.Proofs.JoinKeys
set_option autoImplicit false

/-!
# Proofs: joins on keys that are null

A join carries a key that is missing as null, and null is equal to null.  So a document without
a key is joined with the documents whose own key is null, and with no others:  a key that is
missing on their side is equal to nothing.
-/

namespace DocQuery

open Value
open Operator (isAbsent)

theorem Value.getPath_null (path : String) : Value.null.getPath path = none := by
  rw [getPath]
  cases hnames : pathNames path with
  | nil => exact absurd hnames (Text.split_ne_nil '.' path)
  | cons name rest => rfl

/-- Only null is equal to null. -/
theorem Value.compare?_null_eq_iff {v : Option Value} :
    (compare? (some .null) v == .eq) = true ↔ v = some .null := by
  rcases v with _ | v
  · simp [compare?]
  · cases v <;> simp [compare?, compare, isNumber, rank]

namespace Join

variable {config : Config} {store : Store} {j : Join} {p : JoinPair} {row child : Value}

/-! ## Keys that are null -/

section Absent

variable (hp : p ∈ j.pairs)
  (habsent : isAbsent (row.getPath (keyPath j.parentAlias p.parent)) = true)
include hp habsent

/-- What agrees with a document without a key has null for its own key. -/
theorem child_null_of_agreesWith (h : j.agreesWith row child = true) :
    child.getPath p.child = some .null := by
  have hequal := List.all_eq_true.mp h p hp
  have hnull : (row.getPath (keyPath j.parentAlias p.parent)).getD .null = .null := by
    cases hkey : row.getPath (keyPath j.parentAlias p.parent) with
    | none => rfl
    | some v => cases v <;> simp_all [isAbsent, isNull]
  rw [equalKeys, hnull] at hequal
  exact compare?_null_eq_iff.mp hequal

/-- A document without a key is treated as one that nothing matches exactly if no document
agrees with it. -/
theorem pairedRows_eq_unmatchedRows_iff : j.pairedRows store row = j.unmatchedRows row ↔
    ∀ child ∈ store.collection j.collection, j.agreesWith row child = false := by
  have hnone : (store.collection j.collection).filter (j.agreesWith row) = [] ↔
      ∀ child ∈ store.collection j.collection, j.agreesWith row child = false := by
    simp [List.filter_eq_nil_iff]
  rw [← hnone, pairedRows]
  cases hchildren : (store.collection j.collection).filter (j.agreesWith row) with
  | nil => simp
  | cons child rest =>
    refine ⟨fun hrows => ?_, fun hempty => absurd hempty (List.cons_ne_nil _ _)⟩
    exfalso
    unfold unmatchedRows at hrows
    cases hkind : j.kind with
    | inner => simp [hkind] at hrows
    | left =>
      -- the only row would hold null, which has no key that could be null
      have hset : row.setPath j.joined child = row.setPath j.joined .null := by
        simp only [hkind, List.map_cons] at hrows
        exact (List.cons.inj hrows).1
      have hchild : child = .null := by
        have hread := congrArg (·.getPath j.joined) hset
        simpa [getPath_setPath] using hread
      have hmem : child ∈ (store.collection j.collection).filter (j.agreesWith row) := by
        rw [hchildren]
        exact List.mem_cons_self
      have hkey := child_null_of_agreesWith hp habsent (List.mem_filter.mp hmem).2
      rw [hchild, getPath_null] at hkey
      simp at hkey

end Absent

/-- A join of columns with the same types, on any rows and with any variables from outside,
pairs each row with the documents that have equal keys in all pairs.  So a row whose key is null
or missing in some pair is paired with documents whose key in this pair is null, never with one
that has another key or none.  It counts as a row that nothing matches, which an inner join
drops and a left join keeps once with null under the alias, exactly if no document of the
collection agrees with it in this way.

Names that start with a dollar sign would be read as variables, and a point in the prefix of the
variables would make them paths.  A left join counts the matches, so its collection has to have
fewer documents than integers can count. -/
theorem null_keys_match_nulls (hconfig : '.' ∉ config.parentPrefix.toList)
    (hnames : j.NamesFields) (htypes : ∀ p ∈ j.pairs, p.parentType = p.childType)
    (hcount : j.kind = .left → (store.collection j.collection).length < 2 ^ 63)
    (vars : Document)
    (rows : List Value) :
    Stage.runAll store (j.stages config) vars rows = .ok (rows.flatMap (j.pairedRows store)) ∧
      ∀ row ∈ rows, ∀ p ∈ j.pairs, isAbsent (row.getPath (keyPath j.parentAlias p.parent)) =
        true → (∀ child ∈ store.collection j.collection, j.agreesWith row child = true →
          child.getPath p.child = some .null) ∧
        (j.pairedRows store row = j.unmatchedRows row ↔
          ∀ child ∈ store.collection j.collection, j.agreesWith row child = false) :=
  ⟨run_stages_eq_pairedRows hconfig hnames htypes hcount vars rows, fun _ _ _ hp habsent =>
    ⟨fun _ _ => child_null_of_agreesWith hp habsent,
      pairedRows_eq_unmatchedRows_iff hp habsent⟩⟩

/-- Tickets with the seats that have their code. -/
def ticketSeats : Join where
  parentAlias := none
  collection := "seats"
  joined := "seat"
  pairs := [⟨"seat_id", "code", "string", "string"⟩]
  kind := .left

/-- A seat whose code is null, and one without a code. -/
def twoSeats : Store :=
    ⟨[("seats", [.object [("row", .int 1), ("code", .null)], .object [("row", .int 2)]])]⟩

/-- A ticket whose seat is null, and one with a code that no seat has. -/
def twoTickets : List Value :=
  [.object [("_id", .int 7), ("seat_id", .null)], .object [("_id", .int 8),
    ("seat_id", .string "B4")]]

/-- The ticket whose seat is null is joined with the seat whose code is null, so it does not
count as a ticket that nothing matches, as the other ticket does. -/
theorem twoTickets_seated :
    Stage.runAll twoSeats (ticketSeats.stages .usual) [] twoTickets =
        .ok [.object [("_id", .int 7), ("seat_id", .null),
            ("seat", .object [("row", .int 1), ("code", .null)])],
          .object [("_id", .int 8), ("seat_id", .string "B4"), ("seat", .null)]] ∧
      ticketSeats.pairedRows twoSeats (.object [("_id", .int 7), ("seat_id", .null)]) ≠
        ticketSeats.unmatchedRows (.object [("_id", .int 7), ("seat_id", .null)]) := by
  have hnames : ticketSeats.NamesFields := ⟨by decide, by decide, by decide⟩
  have hpaired := @null_keys_match_nulls .usual twoSeats ticketSeats (by decide)
    hnames (by decide) (fun _ => by decide) [] twoTickets
  have hnull := (hpaired.2 (.object [("_id", .int 7), ("seat_id", .null)]) List.mem_cons_self
    ⟨"seat_id", "code", "string", "string"⟩ List.mem_cons_self rfl).2
  refine ⟨hpaired.1.trans rfl, fun hrows => ?_⟩
  have hseat := hnull.mp hrows (.object [("row", .int 1), ("code", .null)]) List.mem_cons_self
  exact absurd hseat (by decide)

end Join

end DocQuery
