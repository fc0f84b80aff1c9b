import DocQuery.Number.Floor
import DocQuery.Number.Rounding
import Mathlib
set_option autoImplicit false

/-!
# Proofs: the numbers that floats are

Conversions of integers, quotients by powers of two and floors of floats as operations on
rational numbers.  All of it goes through the floats with a mantissa of 53 binary digits, which
the first two do not leave but for zero.  The one place where digits are lost is the conversion
of an integer that has more of them.
-/

namespace DocQuery.Number

open Float.Model (Format UnpackedFloat totalExponent)
open Float.Model.UnpackedFloat

/-! ## Exact numbers -/

/-- The rational number that an exact number is. -/
def Binary64.value (b : Binary64) : ℚ :=
    (if b.negative then -b.mantissa else b.mantissa : Int) * 2 ^ b.exponent

theorem zpow_eq_div (e : Int) : (2 : ℚ) ^ e = (2 ^ e.toNat : Nat) / (2 ^ (-e).toNat : Nat) := by
  push_cast
  rw [eq_div_iff (by positivity), ← zpow_natCast (2 : ℚ), ← zpow_natCast (2 : ℚ),
    ← zpow_add₀ two_ne_zero]
  congr 1
  omega

theorem Binary64.floor_eq (b : Binary64) : b.floor = ⌊b.value⌋ := by
  have hvalue : b.value =
      ((if b.negative then -b.mantissa else b.mantissa : Int) *
        (Nat.pow 2 b.exponent.toNat : Nat) : Int) / (Nat.pow 2 (-b.exponent).toNat : Nat) := by
    rw [Binary64.value, zpow_eq_div, Int.cast_mul, Int.cast_natCast, mul_div_assoc]
    rfl
  rw [hvalue, Rat.floor_intCast_div_natCast]
  rfl

/-- The rational number that a float is, none for infinities and undefined numbers. -/
def floatValue? (x : Float) : Option ℚ := (Binary64.ofFloat? x).map Binary64.value

/-! ## Rounding to 53 binary digits -/

/-- A natural number rounded to 53 binary digits, a tie to the even neighbour. -/
def roundTo53 (m : Nat) : Nat := roundHalfEven m (2 ^ (m.log2 - 52)) * 2 ^ (m.log2 - 52)

theorem roundHalfEven_mul (n d : Nat) {c : Nat} (hc : 0 < c) :
    roundHalfEven (n * c) (d * c) = roundHalfEven n d := by
  have hless : d * c < 2 * (n % d * c) ↔ d < 2 * (n % d) := by
    rw [← Nat.mul_assoc]
    exact Nat.mul_lt_mul_right hc
  have hequal : 2 * (n % d * c) = d * c ↔ 2 * (n % d) = d := by
    rw [← Nat.mul_assoc]
    exact Nat.mul_left_inj hc.ne'
  simp only [roundHalfEven, Nat.mul_div_mul_right _ _ hc, Nat.mul_mod_mul_right, hless, hequal]

theorem roundTo53_of_lt {m : Nat} (h : m < 2 ^ 53) : roundTo53 m = m := by
  have hlog : m.log2 - 52 = 0 := by
    by_cases hm : m = 0
    · simp [hm]
    · have := (Nat.log2_lt hm).mpr h
      omega
  simp [roundTo53, hlog, roundHalfEven_one]

theorem ne_zero_of_le_log2 {m : Nat} (h : 52 ≤ m.log2) : m ≠ 0 := by
  rintro rfl
  simp at h

theorem log2_mul_pow {m : Nat} (hm : m ≠ 0) (k : Nat) : (m * 2 ^ k).log2 = m.log2 + k := by
  have hpower := Nat.two_pow_pos k
  refine (Nat.log2_eq_iff (Nat.mul_ne_zero hm hpower.ne')).mpr ⟨?_, ?_⟩
  · rw [Nat.pow_add]
    exact Nat.mul_le_mul_right _ (Nat.log2_self_le hm)
  · rw [Nat.add_right_comm, Nat.pow_add]
    exact Nat.mul_lt_mul_of_pos_right Nat.lt_log2_self hpower

/-- Zeros behind a number do not matter. -/
theorem roundTo53_mul_pow {m : Nat} (h : 52 ≤ m.log2) (k : Nat) :
    roundTo53 (m * 2 ^ k) = roundTo53 m * 2 ^ k := by
  have hm := ne_zero_of_le_log2 h
  have hplaces : m.log2 + k - 52 = m.log2 - 52 + k := by omega
  rw [roundTo53, log2_mul_pow hm, hplaces, Nat.pow_add, roundHalfEven_mul _ _
    (Nat.two_pow_pos k), roundTo53, Nat.mul_assoc]

/-- What is rounded away is at most half of the last digit that is kept. -/
theorem roundTo53_near (m : Nat) :
    2 * roundTo53 m ≤ 2 * m + 2 ^ (m.log2 - 52) ∧ 2 * m ≤ 2 * roundTo53 m + 2 ^ (m.log2 - 52) :=
  roundHalfEven_near m _ (Nat.two_pow_pos _)

/-- The number has 53 binary digits in front of the zeros, or one more if the digits carry. -/
theorem roundHalfEven_bounds {m : Nat} (h : 52 ≤ m.log2) :
    2 ^ 52 ≤ roundHalfEven m (2 ^ (m.log2 - 52)) ∧
        roundHalfEven m (2 ^ (m.log2 - 52)) ≤ 2 ^ 53 := by
  have hm := ne_zero_of_le_log2 h
  have hlow : 2 ^ 52 ≤ m / 2 ^ (m.log2 - 52) := by
    rw [Nat.le_div_iff_mul_le (Nat.two_pow_pos _), ← Nat.pow_add, Nat.add_sub_cancel' h]
    exact Nat.log2_self_le hm
  have hhigh : m / 2 ^ (m.log2 - 52) < 2 ^ 53 := by
    rw [Nat.div_lt_iff_lt_mul (Nat.two_pow_pos _), ← Nat.pow_add, show 53 + (m.log2 - 52) =
      m.log2 + 1 by omega]
    exact Nat.lt_log2_self
  simp only [roundHalfEven]
  split <;> omega

/-- Shifting to the right keeps the quotient, whether the rest is at least the half of the
divisor, and whether it is neither nothing nor just the half. -/
theorem shiftRight_eq (m k : Nat) :
    (⟨m, false, false⟩ : ExtendedMantissa) >>> k =
      ⟨m / 2 ^ k, decide (2 ^ k ≤ 2 * (m % 2 ^ k)), decide (m % 2 ^ k ≠ 0 ∧
          2 * (m % 2 ^ k) ≠ 2 ^ k)⟩ := by
  -- The bit that is shifted out next is the half of the next divisor, and the rest so far is
  -- below it.
  induction k with
  | zero => simp [Nat.mod_one]; rfl
  | succ k ih =>
    have hstep : (⟨m, false, false⟩ : ExtendedMantissa) >>> (k + 1) =
        ((⟨m, false, false⟩ : ExtendedMantissa) >>> k).shiftRightOne := rfl
    have hrest := Nat.mod_lt m (Nat.two_pow_pos k)
    have hbit : m % 2 ^ (k + 1) = m % 2 ^ k + 2 ^ k * (m / 2 ^ k % 2) := by
      rw [Nat.pow_succ, Nat.mod_mul]
    rw [hstep, ih, ExtendedMantissa.shiftRightOne, hbit, Nat.div_div_eq_div_mul,
      ← Nat.pow_succ, Nat.pow_succ]
    generalize 2 ^ k = half at *
    rcases Nat.mod_two_eq_zero_or_one (m / half) with hodd | hodd <;> simp [hodd] <;> grind

theorem roundedMantissa_shiftRight (m k : Nat) :
    ((⟨m, false, false⟩ : ExtendedMantissa) >>> k).roundedMantissa =
        roundHalfEven m (2 ^ k) := by
  rw [shiftRight_eq, roundHalfEven, ExtendedMantissa.roundedMantissa]
  have hrest := Nat.mod_lt m (Nat.two_pow_pos k)
  generalize 2 ^ k = d at *
  by_cases hhalf : d ≤ 2 * (m % d) <;> by_cases hother : m % d ≠ 0 ∧ 2 * (m % d) ≠ d <;>
    simp [hhalf, hother, ExtendedMantissa.accuracy, Accuracy.roundToNearestEven] <;> grind

/-! ## Normal floats -/

/-- A float whose mantissa has 53 binary digits. -/
structure Normal where
  sign : Sign
  mantissa : Nat
  exponent : Int
  le_mantissa : 2 ^ 52 ≤ mantissa
  mantissa_lt : mantissa < 2 ^ 53
  le_exponent : -1074 ≤ exponent
  exponent_le : exponent ≤ 971

namespace Normal

variable (x : Normal)

theorem mantissa_pos : 0 < x.mantissa := Nat.lt_of_lt_of_le (by decide) x.le_mantissa

theorem log2_mantissa : x.mantissa.log2 = 52 :=
    (Nat.log2_eq_iff x.mantissa_pos.ne').mpr ⟨x.le_mantissa, x.mantissa_lt⟩

/-- The parts of the float. -/
def unpacked : UnpackedFloat := .finite x.sign x.mantissa x.exponent x.mantissa_pos

/-- The float itself. -/
def toFloat : Float := .ofModel (.pack x.unpacked)

/-- The exact number that the float is. -/
def toBinary64 : Binary64 := ⟨x.sign == .negative, x.mantissa, x.exponent⟩

/-- The rational number that the float is. -/
def value : ℚ := x.toBinary64.value

/-- The absolute value of the float. -/
def magnitude : ℚ := x.mantissa * 2 ^ x.exponent

theorem value_eq : x.value = if x.sign == .negative then -x.magnitude else x.magnitude := by
  rw [value, Binary64.value, magnitude, toBinary64]
  split <;> simp

/-- The exponent follows from powers of two around the float. -/
theorem exponent_bounds (low high : Int) (hlow : 2 ^ low ≤ x.magnitude)
    (hhigh : x.magnitude ≤ 2 ^ high) : low - 53 < x.exponent ∧ x.exponent ≤ high - 52 := by
  have hmantissa : (2 : ℚ) ^ (52 : Int) ≤ x.mantissa := by exact_mod_cast x.le_mantissa
  have hmantissa' : (x.mantissa : ℚ) < 2 ^ (53 : Int) := by exact_mod_cast x.mantissa_lt
  have hpower : (0 : ℚ) < 2 ^ x.exponent := by positivity
  have hleast : (2 : ℚ) ^ (52 + x.exponent) ≤ x.magnitude := by
    rw [zpow_add₀ two_ne_zero]
    exact mul_le_mul_of_nonneg_right hmantissa hpower.le
  have hmost : x.magnitude < (2 : ℚ) ^ (53 + x.exponent) := by
    rw [zpow_add₀ two_ne_zero]
    exact mul_lt_mul_of_pos_right hmantissa' hpower
  have h := (zpow_lt_zpow_iff_right₀ (one_lt_two (α := ℚ))).mp (hlow.trans_lt hmost)
  have h' := (zpow_le_zpow_iff_right₀ (one_lt_two (α := ℚ))).mp (hleast.trans hhigh)
  omega

/-! ### Bits -/

/-- The bits of the exponent. -/
def biased : Nat := (x.exponent + 1075).toNat

/-- The bits of the mantissa, of which the first digit is left out. -/
def fraction : Nat := x.mantissa - 2 ^ 52

theorem biased_bounds : 0 < x.biased ∧ x.biased < 2047 := by
  have := x.le_exponent
  have := x.exponent_le
  simp only [biased]
  omega

theorem exponent_eq : x.exponent = x.biased - 1075 := by
  have := x.le_exponent
  simp only [biased]
  omega

theorem fraction_lt : x.fraction < 2 ^ 52 :=
  Nat.sub_lt_left_of_lt_add x.le_mantissa (x.mantissa_lt.trans_eq (Nat.two_pow_succ 52))

theorem mantissa_eq : x.mantissa = 2 ^ 52 + x.fraction :=
    (Nat.add_sub_cancel' x.le_mantissa).symm

theorem pack_unpacked : UnpackedFloat.pack Format.binary64 x.unpacked =
    packComponents Format.binary64 x.sign (BitVec.ofNat 11 x.biased)
        (BitVec.ofNat 52 x.fraction) := by
  have hbias :
      (x.exponent + Format.binary64.exponentBias +
          Format.binary64.mantissaBitsWithoutImplicit).toNat = x.biased := by
    change (x.exponent + 1023 + 52).toNat = (x.exponent + 1075).toNat
    omega
  have hmantissa : BitVec.ofNat 52 x.mantissa = BitVec.ofNat 52 x.fraction := by
    refine BitVec.eq_of_toNat_eq ?_
    rw [BitVec.toNat_ofNat, BitVec.toNat_ofNat, mantissa_eq, Nat.add_mod_left]
  have hfinite := x.biased_bounds
  rw [unpacked, UnpackedFloat.pack, hbias, x.log2_mantissa,
    if_neg (by change ¬ 2048 ≤ _; omega)]
  exact (if_pos rfl).trans (congrArg _ hmantissa)

theorem toNat_toBits : x.toFloat.toBits.toNat =
    (if x.sign == .negative then 2 ^ 63 else 0) + x.biased * 2 ^ 52 + x.fraction := by
  have hbits : x.toFloat.toBits.toNat = (UnpackedFloat.pack Format.binary64 x.unpacked).toNat :=
    rfl
  have hbiased := x.biased_bounds
  have hfraction := x.fraction_lt
  have hfits : x.biased < 2 ^ 11 := by omega
  rw [hbits, pack_unpacked, packComponents, BitVec.toNat_append, BitVec.toNat_append,
    BitVec.toNat_ofNat, BitVec.toNat_ofNat, Nat.mod_eq_of_lt hfits, Nat.mod_eq_of_lt hfraction,
    ← Nat.shiftLeft_add_eq_or_of_lt hfraction,
    ← Nat.shiftLeft_add_eq_or_of_lt hfits, Nat.shiftLeft_eq, Nat.shiftLeft_eq]
  cases x.sign with
  | positive =>
    change (0 * 2 ^ 11 + _) * 2 ^ 52 + _ = 0 + _ + _
    omega
  | negative =>
    change (1 * 2 ^ 11 + _) * 2 ^ 52 + _ = 2 ^ 63 + _ + _
    omega

/-- The bits read as the exact number. -/
theorem ofFloat?_toFloat : Binary64.ofFloat? x.toFloat = some x.toBinary64 := by
  have hbiased := x.biased_bounds
  have hfraction := x.fraction_lt
  have hfields : x.toFloat.toBits.toNat / 2 ^ 63 = (if x.sign == .negative then 1 else 0) ∧
      x.toFloat.toBits.toNat / 2 ^ 52 % 2 ^ 11 = x.biased ∧
      x.toFloat.toBits.toNat % 2 ^ 52 = x.fraction := by
    rw [toNat_toBits]
    split <;> omega
  obtain ⟨hsign, hexponent, hmantissa⟩ := hfields
  simp only [Binary64.ofFloat?, Binary64.ofBits?, Nat.pow_eq, hsign, hexponent, hmantissa]
  rw [if_neg (by omega), if_neg (by omega), toBinary64, mantissa_eq, exponent_eq]
  cases x.sign <;> rfl

theorem floatValue?_toFloat : floatValue? x.toFloat = some x.value := by
  rw [floatValue?, x.ofFloat?_toFloat]
  rfl

/-- The bits read as the parts. -/
theorem unpack_toFloat : x.toFloat.toModel.unpack = x.unpacked := by
  have hbiased := x.biased_bounds
  have hexponent : (BitVec.ofNat 11 x.biased).toNat = x.biased := by
    rw [BitVec.toNat_ofNat, Nat.mod_eq_of_lt (by omega)]
  have hmantissa : (1#1 ++ BitVec.ofNat 52 x.fraction).toNat = x.mantissa := by
    rw [BitVec.toNat_append, BitVec.toNat_ofNat, BitVec.toNat_ofNat,
      Nat.mod_eq_of_lt x.fraction_lt, ← Nat.shiftLeft_add_eq_or_of_lt x.fraction_lt,
      mantissa_eq]
    rfl
  have hspecial : BitVec.ofNat 11 x.biased ≠ -1#11 := fun h => by
    rw [h] at hexponent
    exact absurd (hexponent.symm.trans rfl) hbiased.2.ne
  have hsubnormal : BitVec.ofNat 11 x.biased ≠ 0#11 := fun h => by
    rw [h] at hexponent
    exact absurd (hexponent.symm.trans rfl) hbiased.1.ne'
  change UnpackedFloat.unpack Format.binary64 (UnpackedFloat.pack Format.binary64 x.unpacked) =
    _
  rw [pack_unpacked, UnpackedFloat.unpack]
  simp only [unpackMantissa_packComponents, unpackExponent_packComponents,
    unpackSign_packComponents, Sign.ofBitVec_toBitVec]
  rw [if_neg hspecial, if_neg hsubnormal]
  simp only [hexponent, hmantissa, unpacked, UnpackedFloat.finite.injEq, true_and]
  exact x.exponent_eq.symm

/-! ### Rounding -/

theorem shiftToTargetExponent_exact {m : Nat} {e : Int} (hm : 52 ≤ m.log2)
    (he : -1074 ≤ e + (m.log2 - 52 : Nat)) : shiftToTargetExponent Format.binary64 m e .exact =
      ((⟨m, false, false⟩ : ExtendedMantissa) >>> (m.log2 - 52), e + (m.log2 - 52 : Nat)) := by
  have htarget : Format.binary64.targetExponent (totalExponent m e) =
      e + (m.log2 - 52 : Nat) := by
    change max ((m.log2 : Int) + 1 + e - 53) (-1074) = _
    omega
  have hshift : (e + (m.log2 - 52 : Nat) - e).toNat = m.log2 - 52 := by omega
  rw [shiftToTargetExponent, htarget, shiftToExponent, hshift]
  rfl

theorem roundWithAccuracy_exact (s : Sign) {m r : Nat} {e : Int} (hm : 52 ≤ m.log2)
    (he : -1074 ≤ e + (m.log2 - 52 : Nat)) (hr : roundHalfEven m (2 ^ (m.log2 - 52)) = r)
    (hpos : 0 < r / 2 ^ (r.log2 - 52)) :
    roundWithAccuracy Format.binary64 s m e .exact =
      .finite s (r / 2 ^ (r.log2 - 52)) (e + (m.log2 - 52 : Nat) + (r.log2 - 52 : Nat))
          hpos := by
  have hlog : 52 ≤ r.log2 := by
    rw [Nat.le_log2 (by rintro rfl; simp at hpos), ← hr]
    exact (roundHalfEven_bounds hm).1
  simp only [roundWithAccuracy, shiftToTargetExponent_exact hm he,
    roundedMantissa_shiftRight, hr, shiftToTargetExponent_exact hlog
    (show -1074 ≤ e + (m.log2 - 52 : Nat) + (r.log2 - 52 : Nat) by omega)]
  simp only [shiftRight_eq]
  exact dif_neg hpos.ne'

theorem exists_roundWithAccuracy (s : Sign) {m : Nat} {e : Int} (hm : 52 ≤ m.log2)
    (he : -1074 ≤ e + (m.log2 - 52 : Nat)) (he' : e + (m.log2 - 52 : Nat) ≤ 970) :
    ∃ x : Normal, roundWithAccuracy Format.binary64 s m e .exact = x.unpacked ∧ x.sign = s ∧
      x.magnitude = roundTo53 m * 2 ^ e := by
  obtain ⟨hlow, hhigh⟩ := roundHalfEven_bounds hm
  generalize hr : roundHalfEven m (2 ^ (m.log2 - 52)) = r at hlow hhigh
  have hround := roundWithAccuracy_exact s hm he hr
  have hpower : (roundTo53 m : ℚ) * 2 ^ e = r * 2 ^ (e + (m.log2 - 52 : Nat)) := by
    rw [roundTo53, hr, zpow_add₀ two_ne_zero, zpow_natCast]
    push_cast
    ring
  rcases hhigh.lt_or_eq with hsmall | rfl
  · have hlog : r.log2 = 52 := (Nat.log2_eq_iff (by omega)).mpr ⟨hlow, hsmall⟩
    simp only [hlog, Nat.sub_self, Nat.pow_zero, Nat.div_one, Nat.cast_zero,
      Int.add_zero] at hround
    exact ⟨⟨s, r, e + (m.log2 - 52 : Nat), hlow, hsmall, he, by omega⟩, hround (by omega),
      rfl, hpower.symm⟩
  · -- The digits carry: the mantissa is a power of two, and the exponent is one larger.
    rw [Nat.log2_two_pow] at hround
    refine ⟨⟨s, 2 ^ 52, e + (m.log2 - 52 : Nat) + 1, le_rfl, by decide, by omega, by omega⟩,
      hround (by decide), rfl, ?_⟩
    rw [hpower, magnitude, zpow_add₀ two_ne_zero _ 1]
    norm_num
    ring

/-! ### Operations -/

/-- The float of the other sign. -/
def neg : Normal := { x with sign := -x.sign }

theorem neg_toFloat : -x.toFloat = x.neg.toFloat := by
  change Float.ofModel (.pack x.toFloat.toModel.unpack.neg) = _
  rw [unpack_toFloat]
  rfl

theorem value_neg : x.neg.value = -x.value := by
  rw [value_eq, value_eq]
  change (if (-x.sign) == .negative then -x.magnitude else x.magnitude) = _
  cases x.sign with
  | positive => rfl
  | negative => exact (neg_neg _).symm

theorem toFloat_ne_zero : (x.toFloat == 0.0) = false := by
  change x.toFloat.toModel.unpack.beq (.zero .positive) = false
  rw [unpack_toFloat, unpacked]
  cases x.sign <;> rfl

theorem zero_div (hsign : x.sign = .positive) : Float.ofNat 0 / x.toFloat = Float.ofNat 0 := by
  change Float.ofModel (.pack (UnpackedFloat.div Format.binary64 (.zero .positive)
    x.toFloat.toModel.unpack)) = _
  rw [unpack_toFloat, unpacked, hsign]
  rfl

theorem exists_mul {y : Normal} (hlow : -1000 ≤ x.exponent + y.exponent)
    (hhigh : x.exponent + y.exponent ≤ 900) :
    ∃ z : Normal, x.toFloat * y.toFloat = z.toFloat ∧ z.sign = x.sign * y.sign ∧
      z.magnitude = roundTo53 (x.mantissa * y.mantissa) * 2 ^ (x.exponent + y.exponent) := by
  have hnonzero : x.mantissa * y.mantissa ≠ 0 := Nat.mul_ne_zero x.mantissa_pos.ne'
    y.mantissa_pos.ne'
  have hlog : 104 ≤ (x.mantissa * y.mantissa).log2 :=
    (Nat.le_log2 hnonzero).mpr (Nat.pow_add 2 52 52 ▸ Nat.mul_le_mul x.le_mantissa
      y.le_mantissa)
  have hlog' : (x.mantissa * y.mantissa).log2 < 106 :=
    (Nat.log2_lt hnonzero).mpr (Nat.pow_add 2 53 53 ▸ Nat.mul_lt_mul'' x.mantissa_lt
      y.mantissa_lt)
  obtain ⟨z, hz, hsign, hmagnitude⟩ := exists_roundWithAccuracy (x.sign * y.sign) (m :=
    x.mantissa * y.mantissa) (e := x.exponent + y.exponent) (by omega) (by omega) (by omega)
  refine ⟨z, ?_, hsign, hmagnitude⟩
  change Float.ofModel (.pack (UnpackedFloat.mul Format.binary64 x.toFloat.toModel.unpack
    y.toFloat.toModel.unpack)) = _
  rw [unpack_toFloat, unpack_toFloat, toFloat, ← hz]
  rfl

theorem divCore_eq {y : Normal} (hy : y.mantissa = 2 ^ 52)
    (hlow : -1000 ≤ x.exponent - y.exponent) :
    divCore Format.binary64 x.mantissa x.exponent y.mantissa y.exponent =
      (x.mantissa * 2 ^ 1, x.exponent - y.exponent - 53, .exact) := by
  have htarget : Format.binary64.targetExponent
      (totalExponent x.mantissa x.exponent - totalExponent y.mantissa y.exponent) =
          x.exponent - y.exponent - 53 := by
    rw [totalExponent, totalExponent, log2_mantissa, log2_mantissa]
    change max ((52 : Int) + 1 + x.exponent - (52 + 1 + y.exponent) - 53) (-1074) = _
    omega
  have hshift : (x.exponent - y.exponent - (x.exponent - y.exponent - 53)).toNat =
    53 := by omega
  have hdigits : x.mantissa <<< 53 = x.mantissa * 2 ^ 1 * 2 ^ 52 := by
    rw [Nat.shiftLeft_eq]
    ring
  rw [divCore, htarget, min_eq_right (by omega), hshift, hy, hdigits, Nat.mul_div_cancel _
    (by decide), Nat.mul_mod_left]
  rfl

/-- A quotient by a power of two is exact. -/
theorem exists_div {y : Normal} (hy : y.mantissa = 2 ^ 52) (hsign : y.sign = .positive)
    (hlow : -1000 ≤ x.exponent - y.exponent) (hhigh : x.exponent - y.exponent ≤ 900) :
    ∃ z : Normal, x.toFloat / y.toFloat = z.toFloat ∧ z.value = x.value / y.value := by
  have hlog : (x.mantissa * 2 ^ 1).log2 = 53 := by
    rw [log2_mul_pow x.mantissa_pos.ne', log2_mantissa]
  obtain ⟨z, hz, hsign', hmagnitude⟩ := exists_roundWithAccuracy x.sign (m :=
    x.mantissa * 2 ^ 1) (e := x.exponent - y.exponent - 53) (by omega) (by omega) (by omega)
  have hquotient : z.magnitude = x.magnitude / y.magnitude := by
    rw [hmagnitude, roundTo53_mul_pow (by rw [log2_mantissa]), roundTo53_of_lt x.mantissa_lt,
      magnitude, magnitude, hy, zpow_sub₀ two_ne_zero, zpow_sub₀ two_ne_zero]
    push_cast
    field_simp
    ring
  refine ⟨z, ?_, ?_⟩
  · have hpositive : x.sign / y.sign = x.sign := by
      rw [hsign]
      cases x.sign <;> rfl
    change Float.ofModel (.pack (UnpackedFloat.div Format.binary64 x.toFloat.toModel.unpack
      y.toFloat.toModel.unpack)) = _
    rw [unpack_toFloat, unpack_toFloat, unpacked, unpacked, UnpackedFloat.div,
      x.divCore_eq hy hlow, hpositive, toFloat, ← hz]
  · rw [value_eq, value_eq, value_eq, hsign, hsign', hquotient]
    cases x.sign with
    | positive => rfl
    | negative => exact (neg_div _ _).symm

end Normal

/-! ## Conversions of integers -/

/-- A natural number of at most 53 binary digits is filled up with zeros. -/
theorem exists_round {m : Nat} (hpos : 0 < m) (hm : m < 2 ^ 53) :
    ∃ x : Normal, UnpackedFloat.round Format.binary64 .positive m 0 = x.unpacked ∧
        x.sign = .positive ∧ x.magnitude = m := by
  have hlog : m.log2 < 53 := (Nat.log2_lt hpos.ne').mpr hm
  have htarget : Format.binary64.targetExponent (totalExponent m 0) = m.log2 - 52 := by
    change max ((m.log2 : Int) + 1 + 0 - 53) (-1074) = _
    omega
  have hfilled : (m * 2 ^ (52 - m.log2)).log2 = 52 := by
    rw [log2_mul_pow hpos.ne']
    omega
  obtain ⟨x, hx, hsign, hmagnitude⟩ := Normal.exists_roundWithAccuracy .positive (m :=
    m * 2 ^ (52 - m.log2)) (e := m.log2 - 52) (by omega) (by omega) (by omega)
  refine ⟨x, ?_, hsign, ?_⟩
  · have hshift : ((0 : Int) - (m.log2 - 52)).toNat = 52 - m.log2 := by omega
    have hexponent : (0 : Int) - (52 - m.log2 : Nat) = m.log2 - 52 := by omega
    rw [← hx, UnpackedFloat.round, htarget]
    simp only [decreaseExponent, hshift, hexponent, Nat.shiftLeft_eq]
  · have hexact : roundTo53 (m * 2 ^ (52 - m.log2)) = m * 2 ^ (52 - m.log2) :=
      roundTo53_of_lt ((Nat.log2_lt (Nat.mul_ne_zero hpos.ne' (Nat.two_pow_pos _).ne')).mp
        (by omega))
    have hzero : ((52 - m.log2 : Nat) : Int) + (m.log2 - 52) = 0 := by omega
    rw [hmagnitude, hexact, Nat.cast_mul, mul_assoc, Nat.cast_pow, ← zpow_natCast,
      Nat.cast_ofNat, ← zpow_add₀ two_ne_zero, hzero, zpow_zero, mul_one]

/-- The float one. -/
def one : Normal := ⟨.positive, 2 ^ 52, -52, le_rfl, by decide, by decide, by decide⟩

/-- Natural numbers of at most 53 binary digits are converted as machine words, and multiplied
by one. -/
theorem exists_ofNat_of_lt {m : Nat} (hpos : 0 < m) (hm : m < 2 ^ 53) :
    ∃ x : Normal, Float.ofNat m = x.toFloat ∧ x.sign = .positive ∧ x.magnitude = m := by
  obtain ⟨y, hy, hsign, hmagnitude⟩ := exists_round hpos hm
  have hword : m.toUInt64.toNat = m := UInt64.toNat_ofNat_of_lt' (hm.trans (by decide))
  have hconverted : m.toUInt64.toFloat = y.toFloat := by
    change Float.ofModel (.pack (UnpackedFloat.normalize Format.binary64 m.toUInt64.toNat 0
      .positive)) = _
    rw [hword, UnpackedFloat.normalize, Int.compare_eq_gt.mpr (by omega), Normal.toFloat, ← hy]
    rfl
  have hproduct : Float.ofNat m = y.toFloat * one.toFloat := by
    change Float.ofScientific m false 0 = _
    rw [Float.ofScientific, dif_pos ⟨hm, by decide⟩, ← hconverted]
    rfl
  have hexponent := y.exponent_bounds 0 53 (by rw [hmagnitude]; exact_mod_cast hpos)
    (by rw [hmagnitude]; exact_mod_cast hm.le)
  obtain ⟨x, hx, hsign', hmagnitude'⟩ := y.exists_mul (y := one) (by change _ ≤ _ + -52; omega)
    (by change _ + -52 ≤ _; omega)
  refine ⟨x, hproduct.trans hx, ?_, ?_⟩
  · rw [hsign', hsign]
    rfl
  · rw [hmagnitude', ← hmagnitude]
    change ((roundTo53 (y.mantissa * 2 ^ 52) : Nat) : ℚ) * 2 ^ (y.exponent + -52) = _
    rw [roundTo53_mul_pow (by rw [y.log2_mantissa]), roundTo53_of_lt y.mantissa_lt,
      Normal.magnitude, zpow_add₀ two_ne_zero]
    push_cast
    ring

/-- Larger ones are rounded. -/
theorem exists_ofNat_of_le {m : Nat} (hm : 2 ^ 53 ≤ m) (hm' : m < 2 ^ 64) :
    ∃ x : Normal, Float.ofNat m = x.toFloat ∧ x.sign = .positive ∧
        x.magnitude = roundTo53 m := by
  have hpos : m ≠ 0 := by omega
  have hlog : 53 ≤ m.log2 := (Nat.le_log2 hpos).mpr hm
  have hlog' : m.log2 < 64 := (Nat.log2_lt hpos).mpr hm'
  have hfilled := log2_mul_pow hpos 53
  obtain ⟨x, hx, hsign, hmagnitude⟩ := Normal.exists_roundWithAccuracy .positive (m :=
    m * 2 ^ 53) (e := -53) (by omega) (by omega) (by omega)
  refine ⟨x, ?_, hsign, ?_⟩
  · have hrange : ¬ (0 : Int) < -((2 ^ Format.binary64.exponentBits : Int) + m.log2) := by
      have : (0 : Int) ≤ 2 ^ Format.binary64.exponentBits := by positivity
      omega
    change Float.ofScientific m false 0 = _
    rw [Float.ofScientific, dif_neg (by omega)]
    change Float.ofModel (.pack (UnpackedFloat.ofScientific Format.binary64 m 0)) = _
    rw [UnpackedFloat.ofScientific, dif_neg hpos, if_neg (by decide), if_neg hrange,
      if_pos le_rfl, UnpackedFloat.mul, Nat.shiftLeft_eq, Int.toNat_zero, Nat.pow_zero,
      Nat.mul_one, Normal.toFloat, ← hx]
    rfl
  · rw [hmagnitude, roundTo53_mul_pow (by omega), Nat.cast_mul, mul_assoc]
    norm_num

theorem exists_ofNat {m : Nat} (hpos : 0 < m) (hm : m < 2 ^ 64) :
    ∃ x : Normal, Float.ofNat m = x.toFloat ∧ x.sign = .positive ∧
        x.magnitude = roundTo53 m := by
  by_cases hsmall : m < 2 ^ 53
  · rw [roundTo53_of_lt hsmall]
    exact exists_ofNat_of_lt hpos hsmall
  · exact exists_ofNat_of_le (Nat.not_lt.mp hsmall) hm

/-- The exponent of a natural number of at most 64 binary digits. -/
theorem Normal.exponent_of_natural {x : Normal} {m : Nat} (hpos : 0 < m) (hm : m < 2 ^ 64)
    (hx : x.magnitude = roundTo53 m) : -53 < x.exponent ∧ x.exponent ≤ 13 := by
  have hplaces : 2 ^ (m.log2 - 52) ≤ m :=
    (Nat.pow_le_pow_right (by decide) (Nat.sub_le _ _)).trans (Nat.log2_self_le hpos.ne')
  have hnear := roundTo53_near m
  have hleast : 1 ≤ roundTo53 m := by omega
  have hmost : roundTo53 m ≤ 2 ^ 65 := by omega
  have hbounds := x.exponent_bounds 0 65 (by rw [hx]; exact_mod_cast hleast)
    (by rw [hx]; exact_mod_cast hmost)
  omega

/-- The integer of 53 binary digits that is nearest to an integer, the even one of two. -/
def nearest (n : Int) : Int := if n < 0 then -roundTo53 n.natAbs else roundTo53 n.natAbs

theorem nearest_eq_self {n : Int} (h : n.natAbs ≤ 2 ^ 53) : nearest n = n := by
  have hexact : roundTo53 n.natAbs = n.natAbs := by
    rcases h.lt_or_eq with hless | hequal
    · exact roundTo53_of_lt hless
    · rw [hequal]
      decide
  rw [nearest, hexact]
  split <;> omega

theorem exists_ofInt {n : Int} (hnonzero : n ≠ 0) (hn : n.natAbs < 2 ^ 64) :
    ∃ x : Normal, Float.ofInt n = x.toFloat ∧ -53 < x.exponent ∧ x.exponent ≤ 13 ∧
        x.value = nearest n := by
  obtain ⟨x, hx, hsign, hmagnitude⟩ := exists_ofNat (Int.natAbs_pos.mpr hnonzero) hn
  obtain ⟨hlow, hhigh⟩ := Normal.exponent_of_natural (Int.natAbs_pos.mpr hnonzero) hn hmagnitude
  have hvalue : x.value = roundTo53 n.natAbs := by
    rw [x.value_eq, hsign, hmagnitude]
    rfl
  cases n with
  | ofNat m => exact ⟨x, hx, hlow, hhigh, by rw [hvalue]; rfl⟩
  | negSucc m =>
    refine ⟨x.neg, ?_, hlow, hhigh, ?_⟩
    · rw [← x.neg_toFloat, ← hx]
      rfl
    · rw [x.value_neg, hvalue, nearest, if_pos (Int.negSucc_lt_zero m), Int.cast_neg,
        Int.cast_natCast]

theorem roundTo53_two_pow (k : Nat) : roundTo53 (2 ^ k) = 2 ^ k := by
  by_cases hk : k ≤ 52
  · exact roundTo53_of_lt (Nat.pow_lt_pow_right (by decide) (by omega))
  · have hsplit : 2 ^ k = 2 ^ 52 * 2 ^ (k - 52) := by
      rw [← Nat.pow_add, Nat.add_sub_cancel' (by omega)]
    rw [hsplit, roundTo53_mul_pow (by decide), roundTo53_of_lt (by decide)]

/-- Powers of two have no digits behind the first one. -/
theorem exists_two_pow {k : Nat} (hk : k < 64) :
    ∃ x : Normal, Float.ofNat (2 ^ k) = x.toFloat ∧ x.sign = .positive ∧ x.mantissa = 2 ^ 52 ∧
      x.exponent = k - 52 ∧ x.value = (2 ^ k : Nat) := by
  obtain ⟨x, hx, hsign, hmagnitude⟩ := exists_ofNat (Nat.two_pow_pos k) (Nat.pow_lt_pow_right
    (by decide) hk)
  rw [roundTo53_two_pow] at hmagnitude
  have hpower : x.magnitude = 2 ^ (k : Int) := by
    rw [hmagnitude, Nat.cast_pow, zpow_natCast, Nat.cast_ofNat]
  obtain ⟨hlow, hhigh⟩ := x.exponent_bounds k k hpower.ge hpower.le
  have hexponent : x.exponent = k - 52 := by omega
  have hmantissa : (x.mantissa : ℚ) = 2 ^ 52 := by
    rw [Normal.magnitude, hexponent, zpow_sub₀ two_ne_zero, mul_div_assoc',
      div_eq_iff (by positivity), mul_comm] at hpower
    exact_mod_cast mul_left_cancel₀ (by positivity) hpower
  refine ⟨x, hx, hsign, by exact_mod_cast hmantissa, hexponent, ?_⟩
  rw [x.value_eq, hsign, ← hmagnitude]
  rfl

/-! ## Floors -/

/-- A natural number of at most 53 binary digits is a float, with either sign. -/
theorem floatValue?_ofNat {m : Nat} (hm : m < 2 ^ 53) :
    floatValue? (Float.ofNat m) = some (m : ℚ) ∧
    floatValue? (-Float.ofNat m) = some (-m : ℚ) := by
  rcases Nat.eq_zero_or_pos m with rfl | hpos
  · have hzero : Binary64.ofFloat? (Float.ofNat 0) = some ⟨false, 0, -1074⟩ := by decide
    have hzero' : Binary64.ofFloat? (-Float.ofNat 0) = some ⟨true, 0, -1074⟩ := by decide
    simp [floatValue?, hzero, hzero', Binary64.value]
  · obtain ⟨x, hx, hsign, hmagnitude⟩ := exists_ofNat_of_lt hpos hm
    have hvalue : x.value = m := by
      rw [x.value_eq, hsign, hmagnitude]
      rfl
    rw [hx, x.neg_toFloat, x.floatValue?_toFloat, x.neg.floatValue?_toFloat,
      x.value_neg, hvalue]
    exact ⟨rfl, rfl⟩

namespace Binary64

theorem mantissa_lt {x : Float} {b : Binary64} (h : ofFloat? x = some b) :
    b.mantissa < 2 ^ 53 := by
  have hfraction := Nat.mod_lt x.toBits.toNat (Nat.two_pow_pos 52)
  simp only [ofFloat?, ofBits?, Nat.pow_eq] at h
  split at h
  · cases h
  · split at h
    · cases h
      exact hfraction.trans (by decide)
    · cases h
      change 2 ^ 52 + _ < 2 ^ 53
      omega

theorem natAbs_floor_le {b : Binary64} (h : b.exponent < 0) : b.floor.natAbs ≤ b.mantissa := by
  have hwhole : b.exponent.toNat = 0 := by omega
  rw [floor, hwhole]
  refine (Int.natAbs_ediv_le_natAbs _ _).trans_eq ?_
  split <;> simp

/-- The floor of a negative number is no positive number, and the other way round. -/
theorem floor_eq_natAbs (b : Binary64) :
    b.floor = if b.negative then -(b.floor.natAbs : Int) else b.floor.natAbs := by
  rw [b.floor_eq]
  by_cases hnegative : b.negative
  · have hvalue : b.value ≤ 0 := by
      rw [value, if_pos hnegative]
      exact mul_nonpos_of_nonpos_of_nonneg (by simp) (by positivity)
    have := Int.floor_nonpos hvalue
    rw [if_pos hnegative]
    omega
  · have hvalue : 0 ≤ b.value := by
      rw [value, if_neg hnegative]
      exact mul_nonneg (by simp) (by positivity)
    have := Int.floor_nonneg.mpr hvalue
    rw [if_neg hnegative]
    omega

/-- Numbers without binary places after the point are integers. -/
theorem exists_value_eq_intCast {b : Binary64} (h : 0 ≤ b.exponent) :
    ∃ n : Int, b.value = n := by
  refine ⟨(if b.negative then -b.mantissa else b.mantissa : Int) * 2 ^ b.exponent.toNat, ?_⟩
  rw [value, Int.cast_mul, Int.cast_pow, ← zpow_natCast, Int.toNat_of_nonneg h]
  rfl

end Binary64

/-- The floor of a float is the floor of the number that it is. -/
theorem floatValue?_floatFloor (x : Float) :
    floatValue? (floatFloor x) = (floatValue? x).map fun v => (⌊v⌋ : ℚ) := by
  cases hb : Binary64.ofFloat? x with
  | none => simp [floatFloor, floatValue?, hb]
  | some b =>
    have hvalue : floatValue? x = some b.value := by rw [floatValue?, hb, Option.map_some]
    rw [floatFloor, hb]
    dsimp only
    split
    · rename_i hwhole
      obtain ⟨n, hn⟩ := Binary64.exists_value_eq_intCast hwhole
      rw [hvalue, Option.map_some, hn, Int.floor_intCast]
    · rename_i hplaces
      have hsmall := (Binary64.natAbs_floor_le (Int.not_le.mp hplaces)).trans_lt
        (Binary64.mantissa_lt hb)
      obtain ⟨hpositive, hnegative⟩ := floatValue?_ofNat hsmall
      have hsign : (b.floor : ℚ) = if b.negative then -(b.floor.natAbs : ℚ) else
          b.floor.natAbs := by
        conv_lhs => rw [b.floor_eq_natAbs]
        split <;> simp only [Int.cast_neg, Int.cast_natCast]
      rw [hvalue, Option.map_some, ← b.floor_eq, hsign]
      split
      · exact hnegative
      · exact hpositive

/-- The floor of the quotient of an integer and a power of two.  The integer is rounded to 53
binary digits, and the rest is exact. -/
theorem floatValue?_floor_div {n : Int} (hn : n.natAbs < 2 ^ 64) {k : Nat} (hk : k < 64) :
    floatValue? (floatFloor (Float.ofInt n / Float.ofNat (2 ^ k))) =
        some ((nearest n / 2 ^ k : Int) : ℚ) := by
  obtain ⟨p, hp, hsign, hmantissa, hexponent, hpower⟩ := exists_two_pow hk
  rw [floatValue?_floatFloor, hp]
  by_cases hzero : n = 0
  · subst hzero
    have hquotient : Float.ofInt 0 / p.toFloat = Float.ofNat 0 := p.zero_div hsign
    rw [hquotient, (floatValue?_ofNat (by decide)).1]
    simp [nearest, roundTo53_of_lt]
  · obtain ⟨x, hx, hlow, hhigh, hvalue⟩ := exists_ofInt hzero hn
    obtain ⟨z, hz, hquotient⟩ := x.exists_div hmantissa hsign (by omega) (by omega)
    rw [hx, hz, z.floatValue?_toFloat, hquotient, hvalue, hpower, Option.map_some,
      Rat.floor_intCast_div_natCast, Nat.cast_pow]
    rfl

end DocQuery.Number
