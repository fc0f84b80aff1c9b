import DocQuery.Proofs.ValueOrder
set_option autoImplicit false

/-!
# Proofs: the order of values is a preorder, however floats are converted

The order of values converts floats to decimals.  Nothing that makes it an order depends on
which decimals these are, as long as there is one for each float that is compared:  a value is
ordered like the same value with its floats replaced by their decimals.
-/

namespace DocQuery.Value

section Conversion

variable (decimal? : Float → Option Decimal)

/-! ## Orders by other conversions -/

/-- A number as a decimal, with a conversion of floats. -/
def toDecimalWith? : Value → Option Decimal
  | .float x => decimal? x
  | v => v.toDecimal?

/-- The order of numbers, with a conversion of floats. -/
def compareNumbersWith (a b : Value) : Ordering :=
  match a, b with
  | .int x, .int y => Ord.compare x.toInt y.toInt
  | _, _ =>
    match a.toDecimalWith? decimal?, b.toDecimalWith? decimal? with
    | some x, some y => x.compare y
    | _, _ =>
      match a.toFloat?, b.toFloat? with
      | some x, some y => compareFloats x y
      | _, _ => .eq

mutual

/-- The order of values, with a conversion of floats. -/
def compareWith : Value → Value → Ordering
  | .string a, .string b => Ord.compare a b
  | .bool a, .bool b => Ord.compare a b
  | .array a, .array b => compareItemsWith a b
  | .object a, .object b => compareFieldsWith a b
  | a, b =>
    if a.isNumber && b.isNumber then compareNumbersWith decimal? a b else
      Ord.compare a.rank b.rank

/-- The order of arrays, with a conversion of floats. -/
def compareItemsWith : List Value → List Value → Ordering
  | [], [] => .eq
  | [], _ :: _ => .lt
  | _ :: _, [] => .gt
  | a :: as, b :: bs => (compareWith a b).then (compareItemsWith as bs)

/-- The order of objects, with a conversion of floats. -/
def compareFieldsWith : List (String × Value) → List (String × Value) → Ordering
  | [], [] => .eq
  | [], _ :: _ => .lt
  | _ :: _, [] => .gt
  | (j, a) :: as, (k, b) :: bs =>
    (Ord.compare j k).then ((compareWith a b).then (compareFieldsWith as bs))

end

/-- The order of values that may be missing, with a conversion of floats. -/
def compareWith? : Option Value → Option Value → Ordering
  | none, none => .eq
  | none, some _ => .lt
  | some _, none => .gt
  | some a, some b => compareWith decimal? a b

mutual

/-- Whether every float in a value is converted. -/
def Converts : Value → Prop
  | .float x => (decimal? x).isSome = true
  | .array items => ConvertsItems items
  | .object fields => ConvertsFields fields
  | _ => True

/-- The same for every item. -/
def ConvertsItems : List Value → Prop
  | [] => True
  | v :: rest => Converts v ∧ ConvertsItems rest

/-- The same for the value of every member. -/
def ConvertsFields : List (String × Value) → Prop
  | [] => True
  | (_, v) :: rest => Converts v ∧ ConvertsFields rest

end

/-- The same for a value that may be missing. -/
def Converts? (v : Option Value) : Prop := ∀ w ∈ v, Converts decimal? w

mutual

/-- A value with its floats replaced by their decimals. -/
def settled : Value → Value
  | .float x => (decimal? x).elim (.float x) .decimal
  | .array items => .array (settledItems items)
  | .object fields => .object (settledFields fields)
  | v => v

/-- The same for items. -/
def settledItems : List Value → List Value
  | [] => []
  | v :: rest => settled v :: settledItems rest

/-- The same for the values of members. -/
def settledFields : List (String × Value) → List (String × Value)
  | [] => []
  | (key, v) :: rest => (key, settled v) :: settledFields rest

end

end Conversion

variable {decimal? : Float → Option Decimal}

theorem rank_settled (v : Value) : (settled decimal? v).rank = v.rank := by
  cases v with
  | float x =>
    rw [settled]
    cases decimal? x <;> rfl
  | _ => simp [settled, rank]

mutual

/-- A value without floats has decimals for all of its numbers. -/
theorem hasDecimals_settled (v : Value) (h : Converts decimal? v) :
    (settled decimal? v).HasDecimals := by
  match v with
  | .float x =>
    obtain ⟨d, hd⟩ := Option.isSome_iff_exists.mp h
    rw [settled, hd]
    trivial
  | .array items => exact hasDecimals_settledItems items h
  | .object fields => exact hasDecimals_settledFields fields h
  | .null | .int _ | .decimal _ | .string _ | .bool _ => trivial

theorem hasDecimals_settledItems (items : List Value) (h : ConvertsItems decimal? items) :
    HasDecimalItems (settledItems decimal? items) := by
  match items, h with
  | [], _ => trivial
  | v :: rest, ⟨hv, hrest⟩ =>
    exact ⟨hasDecimals_settled v hv, hasDecimals_settledItems rest hrest⟩

theorem hasDecimals_settledFields (fields : Document) (h : ConvertsFields decimal? fields) :
    HasDecimalFields (settledFields decimal? fields) := by
  match fields, h with
  | [], _ => trivial
  | (_, v) :: rest, ⟨hv, hrest⟩ =>
    exact ⟨hasDecimals_settled v hv, hasDecimals_settledFields rest hrest⟩

end

/-- The order of values is that of their types, and within a type one of its own. -/
theorem compareWith_eq_then (a b : Value) :
    compareWith decimal? a b = (Ord.compare a.rank b.rank).then (compareWith decimal? a b) := by
  cases a <;> cases b <;> rfl

/-- A number whose float is converted has a decimal, and replaced by it still has this
decimal. -/
theorem exists_decimal {v : Value} (h : Converts decimal? v) (hv : v.rank = 2) :
    ∃ d, v.toDecimalWith? decimal? = some d ∧ (settled decimal? v).toDecimal? = some d := by
  cases v with
  | int n => exact ⟨_, rfl, rfl⟩
  | decimal d => exact ⟨_, rfl, rfl⟩
  | float x =>
    obtain ⟨d, hd⟩ := Option.isSome_iff_exists.mp h
    exact ⟨d, hd, by rw [settled, hd]; rfl⟩
  | _ => simp [rank] at hv

theorem compareWith_eq_decimals {a b : Value} {d e : Decimal}
    (ha : a.toDecimalWith? decimal? = some d)
    (hb : b.toDecimalWith? decimal? = some e) : compareWith decimal? a b = d.compare e := by
  have hnumbers : compareWith decimal? a b = compareNumbersWith decimal? a b := by
    cases a <;> cases b <;> simp_all [toDecimalWith?, toDecimal?, compareWith, isNumber]
  rw [hnumbers]
  unfold compareNumbersWith
  split
  · rename_i m n
    obtain rfl : Decimal.ofInt64 m = d := Option.some.inj ha
    obtain rfl : Decimal.ofInt64 n = e := Option.some.inj hb
    exact (Decimal.compare_ofInt64 m n).symm
  · simp only [ha, hb]

theorem compareWith_eq_settled_numbers {a b : Value} (ha : Converts decimal? a)
    (hb : Converts decimal? b) (hnumber : a.rank = 2) (hab : b.rank = a.rank) :
    compareWith decimal? a b = compare (settled decimal? a) (settled decimal? b) := by
  obtain ⟨d, hd, hsettled⟩ := exists_decimal ha hnumber
  obtain ⟨e, he, hsettled'⟩ := exists_decimal hb (hab.trans hnumber)
  rw [compareWith_eq_decimals hd he, Decimal.compare_eq_value]
  exact (compare_eq_number (by rw [number?, hsettled]; rfl)
    (by rw [number?, hsettled']; rfl)).symm

mutual

/-- Values whose floats are converted are ordered like the same values with decimals instead. -/
theorem compareWith_eq_settled (a b : Value) (ha : Converts decimal? a)
    (hb : Converts decimal? b) :
    compareWith decimal? a b = compare (settled decimal? a) (settled decimal? b) := by
  rw [compareWith_eq_then, compare_eq_then, rank_settled, rank_settled]
  cases hrank : Ord.compare a.rank b.rank with
  | lt => rfl
  | gt => rfl
  | eq =>
    have hb' : b.rank = a.rank := (Nat.compare_eq_eq.mp hrank).symm
    match a with
    | .array as =>
      cases b <;> simp [rank] at hb'
      exact compareItemsWith_eq_settled as _ ha hb
    | .object as =>
      cases b <;> simp [rank] at hb'
      exact compareFieldsWith_eq_settled as _ ha hb
    | .string s =>
      cases b <;> simp [rank] at hb'
      rfl
    | .bool x =>
      cases b <;> simp [rank] at hb'
      rfl
    | .null =>
      cases b <;> simp [rank] at hb'
      rfl
    | .int n => exact compareWith_eq_settled_numbers ha hb rfl hb'
    | .float x => exact compareWith_eq_settled_numbers ha hb rfl hb'
    | .decimal d => exact compareWith_eq_settled_numbers ha hb rfl hb'

theorem compareItemsWith_eq_settled (as bs : List Value) (ha : ConvertsItems decimal? as)
    (hb : ConvertsItems decimal? bs) :
    compareItemsWith decimal? as bs =
        compareItems (settledItems decimal? as) (settledItems decimal? bs) := by
  match as, bs, ha, hb with
  | [], [], _, _ => rfl
  | [], _ :: _, _, _ => rfl
  | _ :: _, [], _, _ => rfl
  | a :: as, b :: bs, ⟨ha, has⟩, ⟨hb, hbs⟩ =>
    simp only [compareItemsWith, settledItems, compareItems, compareWith_eq_settled a b ha hb,
      compareItemsWith_eq_settled as bs has hbs]

theorem compareFieldsWith_eq_settled (as bs : Document) (ha : ConvertsFields decimal? as)
    (hb : ConvertsFields decimal? bs) :
    compareFieldsWith decimal? as bs =
        compareFields (settledFields decimal? as) (settledFields decimal? bs) := by
  match as, bs, ha, hb with
  | [], [], _, _ => rfl
  | [], _ :: _, _, _ => rfl
  | _ :: _, [], _, _ => rfl
  | (j, a) :: as, (k, b) :: bs, ⟨ha, has⟩, ⟨hb, hbs⟩ =>
    simp only [compareFieldsWith, settledFields, compareFields,
      compareWith_eq_settled a b ha hb, compareFieldsWith_eq_settled as bs has hbs]

end

/-! ## The conversion of the program -/

mutual

/-- The order of values is the one with the conversion that there is. -/
theorem compareWith_ofFloat? (a b : Value) :
    compareWith Decimal.ofFloat? a b = compare a b := by
  match a with
  | .array as =>
    cases b with
    | array bs => exact compareItemsWith_ofFloat? as bs
    | _ => rfl
  | .object as =>
    cases b with
    | object bs => exact compareFieldsWith_ofFloat? as bs
    | _ => rfl
  | .string s => cases b <;> rfl
  | .bool x => cases b <;> rfl
  | .null => cases b <;> rfl
  | .int n => cases b <;> rfl
  | .float x => cases b <;> rfl
  | .decimal d => cases b <;> rfl

theorem compareItemsWith_ofFloat? (as bs : List Value) :
    compareItemsWith Decimal.ofFloat? as bs = compareItems as bs := by
  match as, bs with
  | [], [] => rfl
  | [], _ :: _ => rfl
  | _ :: _, [] => rfl
  | a :: as, b :: bs =>
    rw [compareItemsWith, compareItems, compareWith_ofFloat? a b,
      compareItemsWith_ofFloat? as bs]

theorem compareFieldsWith_ofFloat? (as bs : Document) :
    compareFieldsWith Decimal.ofFloat? as bs = compareFields as bs := by
  match as, bs with
  | [], [] => rfl
  | [], _ :: _ => rfl
  | _ :: _, [] => rfl
  | (j, a) :: as, (k, b) :: bs =>
    rw [compareFieldsWith, compareFields, compareWith_ofFloat? a b,
      compareFieldsWith_ofFloat? as bs]

end

theorem compareWith?_ofFloat? : compareWith? Decimal.ofFloat? = compare? := by
  funext a b
  cases a <;> cases b
  case some.some a b => exact compareWith_ofFloat? a b
  all_goals rfl

/-! ## The preorder -/

/-- The same for values that may be missing. -/
theorem compareWith?_eq_settled {a b : Option Value} (ha : Converts? decimal? a)
    (hb : Converts? decimal? b) :
    compareWith? decimal? a b =
        compare? (a.map (settled decimal?)) (b.map (settled decimal?)) := by
  cases a <;> cases b
  case some.some a b => exact compareWith_eq_settled a b (ha a rfl) (hb b rfl)
  all_goals rfl

theorem hasDecimals_map_settled {a : Option Value} (ha : Converts? decimal? a) :
    ∀ v ∈ a.map (settled decimal?), v.HasDecimals := by
  intro v hv
  obtain ⟨w, hw, rfl⟩ := Option.map_eq_some_iff.mp hv
  exact hasDecimals_settled w (ha w hw)

theorem compareWith?_chains {a b c : Option Value} (ha : Converts? decimal? a)
    (hb : Converts? decimal? b) (hc : Converts? decimal? c) :
    Chains (compareWith? decimal? a b) (compareWith? decimal? b c)
        (compareWith? decimal? a c) := by
  rw [compareWith?_eq_settled ha hb, compareWith?_eq_settled hb hc,
    compareWith?_eq_settled ha hc]
  exact compare?_chains (hasDecimals_map_settled ha) (hasDecimals_map_settled hb)
    (hasDecimals_map_settled hc)

theorem compareWith?_swap {a b : Option Value} (ha : Converts? decimal? a)
    (hb : Converts? decimal? b) :
    (compareWith? decimal? a b).swap = compareWith? decimal? b a := by
  rw [compareWith?_eq_settled ha hb, compareWith?_eq_settled hb ha]
  exact compare?_swap _ _

/-- The order of values that may be missing is a total preorder, with any partial conversion of
floats, on all values whose floats are converted:  a value is equal to itself, two values are
ordered one way round or the other, what is not behind a value is not behind what that one is
not behind, and equal values are ordered alike with all others.  The order that there is uses
the conversion that there is. -/
theorem compareWith_preorder (decimal? : Float → Option Decimal) :
    (∀ a, Converts? decimal? a → compareWith? decimal? a a = .eq) ∧
    (∀ a b, Converts? decimal? a → Converts? decimal? b →
      compareWith? decimal? b a = (compareWith? decimal? a b).swap) ∧
    (∀ a b c, Converts? decimal? a → Converts? decimal? b → Converts? decimal? c →
      compareWith? decimal? a b ≠ .gt → compareWith? decimal? b c ≠ .gt →
        compareWith? decimal? a c ≠ .gt) ∧
    (∀ a b c, Converts? decimal? a → Converts? decimal? b → Converts? decimal? c →
      compareWith? decimal? a b = .eq →
        compareWith? decimal? a c = compareWith? decimal? b c ∧
          compareWith? decimal? c a = compareWith? decimal? c b) ∧
    compareWith? Decimal.ofFloat? = compare? := by
  refine ⟨fun a ha => ?_, fun a b ha hb => (compareWith?_swap ha hb).symm,
    fun a b c ha hb hc => (compareWith?_chains ha hb hc).isLE, fun a b c ha hb hc heq => ?_,
      compareWith?_ofFloat?⟩
  · have hswap := compareWith?_swap ha ha
    cases hself : compareWith? decimal? a a <;> simp_all
  · have hac := (compareWith?_chains ha hb hc).1 heq
    exact ⟨hac, by rw [← compareWith?_swap ha hc, ← compareWith?_swap hb hc, hac]⟩

/-- One half, with four digits behind the point. -/
def half : Decimal := ⟨false, 5000, 4, by decide, by decide⟩

/-- A half is the same as a float and as a decimal, so both have the same place before one, also
in lists. -/
theorem half_alike :
    Converts? Decimal.ofFloat? (some (.array [.float 0.5])) ∧
      compare? (some (.array [.float 0.5])) (some (.array [.decimal half])) = .eq ∧
      compare? (some (.array [.decimal half])) (some (.array [.int 1])) = .lt ∧
      compare? (some (.array [.float 0.5])) (some (.array [.int 1])) = .lt := by
  have hfloat : (Decimal.ofFloat? 0.5).isSome = true := by decide +kernel
  have hhalf : Converts? Decimal.ofFloat? (some (.array [.float 0.5])) := by
    rintro _ ⟨⟩
    exact ⟨hfloat, trivial⟩
  have hdecimal : Converts? Decimal.ofFloat? (some (.array [.decimal half])) := by
    rintro _ ⟨⟩
    exact ⟨trivial, trivial⟩
  have hone : Converts? Decimal.ofFloat? (some (.array [.int 1])) := by
    rintro _ ⟨⟩
    exact ⟨trivial, trivial⟩
  obtain ⟨-, -, -, halike, horder⟩ := compareWith_preorder Decimal.ofFloat?
  rw [horder] at halike
  have hequal : compare? (some (.array [.float 0.5])) (some (.array [.decimal half])) =
    .eq := by decide +kernel
  have hbefore : compare? (some (.array [.decimal half])) (some (.array [.int 1])) = .lt := by
    decide +kernel
  exact ⟨hhalf, hequal, hbefore, (halike _ _ _ hhalf hdecimal hone hequal).1.trans hbefore⟩

end DocQuery.Value
