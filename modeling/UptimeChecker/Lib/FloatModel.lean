import Mathlib.Algebra.Order.Field.Rat
import Mathlib.Algebra.Order.Field.Power
import Mathlib.Tactic.Positivity
import Mathlib.Tactic.Ring
import UptimeChecker.Lib.HalfEven

/-!
# Integers as floating point numbers

What the logical model of `Float` does with integers. An integer that is converted, by value or
from its digits, becomes the number of its rounding to the bits of the mantissa, and numbers are
compared by value. So two integers compare as doubles the way their roundings compare.

The statements about unpacked numbers hold in any format with a positive exponent bias. `Denotes`
covers zero and the normal range, which no integer leaves.
-/

namespace FloatModel

open Float.Model Float.Model.UnpackedFloat

variable {spec : Format} {n : Int}

/-- A number of the format in the normal range, or zero, has the value `v`. -/
def Denotes (spec : Format) (v : ℚ) : UnpackedFloat → Prop
  | .zero _ => v = 0
  | .finite sign m e _ => 2 ^ spec.mantissaBitsWithoutImplicit ≤ m ∧
      m < 2 ^ (spec.mantissaBitsWithoutImplicit + 1) ∧ v = (sign.apply m : Int) * 2 ^ e
  | _ => False

/-- A sign is a factor. -/
private theorem cast_apply (sign : Sign) (k : Nat) :
    ((sign.apply k : Int) : ℚ) = (sign.apply 1 : Int) * k := by
  cases sign with
  | negative => simp [Sign.apply]
  | positive => simp [Sign.apply]

/-! ## The mantissa -/

/-- A shifted mantissa with the bit below it, and whether anything is left below that. -/
private theorem shiftRight_exact (m s : Nat) :
    ExtendedMantissa.ofMantissaAndAccuracy m .exact >>> s =
      ⟨m / 2 ^ s, decide (2 ^ s ≤ 2 * (m % 2 ^ s)),
        decide (m % 2 ^ s ≠ 0 ∧ 2 * (m % 2 ^ s) ≠ 2 ^ s)⟩ := by
  show Nat.repeat ExtendedMantissa.shiftRightOne s _ = _
  induction s with
  | zero => simp [Nat.repeat, ExtendedMantissa.ofMantissaAndAccuracy, Nat.mod_one]
  | succ s ih =>
    have hpos : 0 < 2 ^ s := Nat.two_pow_pos s
    have hlt : m % 2 ^ s < 2 ^ s := Nat.mod_lt m hpos
    have hdiv : m / 2 ^ s / 2 = m / 2 ^ (s + 1) := by rw [Nat.div_div_eq_div_mul, Nat.pow_succ]
    have hmod : m % 2 ^ (s + 1) = m % 2 ^ s + 2 ^ s * (m / 2 ^ s % 2) := Nat.mod_pow_succ
    -- the bit that leaves the mantissa, and what it weighs in the new remainder
    have hbit : m / 2 ^ s % 2 = 0 ∧ 2 ^ s * (m / 2 ^ s % 2) = 0 ∨
        m / 2 ^ s % 2 = 1 ∧ 2 ^ s * (m / 2 ^ s % 2) = 2 ^ s := by
      obtain h | h := Nat.mod_two_eq_zero_or_one (m / 2 ^ s)
      · exact .inl ⟨h, by rw [h, Nat.mul_zero]⟩
      · exact .inr ⟨h, by rw [h, Nat.mul_one]⟩
    rw [Nat.repeat, ih, ExtendedMantissa.shiftRightOne, hdiv, hmod, Nat.pow_succ]
    simp only [ExtendedMantissa.mk.injEq, true_and]
    constructor
    · rw [Bool.eq_iff_iff]
      simp
      omega
    · rw [Bool.eq_iff_iff]
      simp
      omega

/-- The two bits below the mantissa are what rounding to the nearest takes. -/
private theorem roundedMantissa_shiftRight (m s : Nat) :
    (ExtendedMantissa.ofMantissaAndAccuracy m .exact >>> s).roundedMantissa =
      HalfEven.shift m s := by
  rw [shiftRight_exact]
  unfold ExtendedMantissa.roundedMantissa HalfEven.shift
  by_cases hlt : 2 * (m % 2 ^ s) < 2 ^ s
  · rw [if_pos hlt, decide_eq_false (Nat.not_le.mpr hlt)]
    cases decide (m % 2 ^ s ≠ 0 ∧ 2 * (m % 2 ^ s) ≠ 2 ^ s) <;> rfl
  · rw [if_neg hlt, decide_eq_true (Nat.not_lt.mp hlt)]
    by_cases heq : 2 * (m % 2 ^ s) = 2 ^ s
    · rw [if_pos heq, decide_eq_false (fun h => h.2 heq)]
      rfl
    · rw [if_neg heq, decide_eq_true ⟨fun h => hlt (by rw [h]; exact Nat.two_pow_pos s), heq⟩]
      rfl

/-- A mantissa with bits to spare is shifted to its leading ones. -/
private theorem shiftToTargetExponent_exact {m : Nat} {e : Int}
    (hm : spec.mantissaBitsWithoutImplicit ≤ m.log2)
    (he : spec.minExponent ≤ e + ((m.log2 - spec.mantissaBitsWithoutImplicit : Nat) : Int)) :
    shiftToTargetExponent spec m e .exact =
      (ExtendedMantissa.ofMantissaAndAccuracy m .exact >>>
          (m.log2 - spec.mantissaBitsWithoutImplicit),
        e + ((m.log2 - spec.mantissaBitsWithoutImplicit : Nat) : Int)) := by
  have htarget : spec.targetExponent (totalExponent m e) - e =
      ((m.log2 - spec.mantissaBitsWithoutImplicit : Nat) : Int) := by
    unfold Format.targetExponent totalExponent Format.mantissaBits
    omega
  unfold shiftToTargetExponent shiftToExponent
  dsimp only
  rw [htarget, Int.toNat_natCast]

/-- The last shift of a rounding, by the bits that a carry has left below the mantissa. -/
private theorem denotes_shifted (sign : Sign) {q t : Nat} {e : Int} (hq0 : q ≠ 0)
    (hq : q.log2 = spec.mantissaBitsWithoutImplicit + t) (hexact : q / 2 ^ t * 2 ^ t = q)
    (he : spec.minExponent ≤ e + t) :
    Denotes spec ((sign.apply q : Int) * 2 ^ e)
      (if h : (shiftToTargetExponent spec q e .exact).1.mantissa = 0 then .zero sign
        else .finite sign _ (shiftToTargetExponent spec q e .exact).2 (Nat.pos_of_ne_zero h)) := by
  have ht : q.log2 - spec.mantissaBitsWithoutImplicit = t := by omega
  have hshift := @shiftToTargetExponent_exact spec q e (by omega) (by rw [ht]; exact he)
  rw [ht, shiftRight_exact] at hshift
  have hlow : 2 ^ spec.mantissaBitsWithoutImplicit ≤ q / 2 ^ t := by
    rw [Nat.le_div_iff_mul_le (Nat.two_pow_pos t), ← Nat.pow_add, ← hq]
    exact Nat.log2_self_le hq0
  have hup : q / 2 ^ t < 2 ^ (spec.mantissaBitsWithoutImplicit + 1) := by
    rw [Nat.div_lt_iff_lt_mul (Nat.two_pow_pos t), ← Nat.pow_add, Nat.add_right_comm, ← hq]
    exact Nat.lt_log2_self
  have hne : ¬ q / 2 ^ t = 0 := Nat.ne_of_gt (Nat.lt_of_lt_of_le (Nat.two_pow_pos _) hlow)
  rw [hshift]
  dsimp only
  rw [dif_neg hne]
  refine ⟨hlow, hup, ?_⟩
  have hval : (q : ℚ) = ((q / 2 ^ t : Nat) : ℚ) * 2 ^ t := by exact_mod_cast hexact.symm
  rw [cast_apply, cast_apply, hval, zpow_add₀ two_ne_zero, zpow_natCast]
  ring

/-- Rounding a mantissa with bits to spare; a carry into a bit of its own moves the exponent. -/
theorem denotes_roundWithAccuracy (sign : Sign) {m : Nat} {e : Int} {s : Nat} (hm0 : m ≠ 0)
    (hm : m.log2 = spec.mantissaBitsWithoutImplicit + s) (he : spec.minExponent ≤ e + s) :
    Denotes spec ((sign.apply (HalfEven.shift m s) : Int) * 2 ^ (e + s))
      (roundWithAccuracy spec sign m e .exact) := by
  have hs : m.log2 - spec.mantissaBitsWithoutImplicit = s := by omega
  obtain ⟨hlow, hup⟩ := @HalfEven.shift_mem_binade m spec.mantissaBitsWithoutImplicit s
    (hm ▸ Nat.log2_self_le hm0)
    (by rw [Nat.add_right_comm, ← hm]; exact Nat.le_of_lt Nat.lt_log2_self)
  have hfirst := @shiftToTargetExponent_exact spec m e (by omega) (by rw [hs]; exact he)
  rw [hs] at hfirst
  unfold roundWithAccuracy
  rw [hfirst]
  dsimp only
  rw [roundedMantissa_shiftRight]
  generalize HalfEven.shift m s = q at hlow hup
  have hq0 : q ≠ 0 := Nat.ne_of_gt (Nat.lt_of_lt_of_le (Nat.two_pow_pos _) hlow)
  by_cases hcarry : q = 2 ^ (spec.mantissaBitsWithoutImplicit + 1)
  · apply denotes_shifted sign hq0 (t := 1)
    · rw [hcarry, Nat.log2_two_pow]
    · rw [hcarry, Nat.pow_succ, Nat.pow_one, Nat.mul_div_cancel _ Nat.two_pos]
    · omega
  · apply denotes_shifted sign hq0 (t := 0)
    · exact (Nat.log2_eq_iff hq0).mpr ⟨hlow, Nat.lt_of_le_of_ne hup hcarry⟩
    · rw [Nat.pow_zero, Nat.div_one, Nat.mul_one]
    · omega

/-! ## Integers -/

theorem log2_mul_two_pow {m : Nat} (hm : m ≠ 0) (j : Nat) : (m * 2 ^ j).log2 = m.log2 + j := by
  rw [Nat.log2_eq_iff (Nat.mul_ne_zero hm (Nat.ne_of_gt (Nat.two_pow_pos j)))]
  constructor
  · rw [Nat.pow_add]
    exact Nat.mul_le_mul_right _ (Nat.log2_self_le hm)
  · rw [Nat.add_right_comm, Nat.pow_add]
    exact Nat.mul_lt_mul_of_pos_right Nat.lt_log2_self (Nat.two_pow_pos j)

/-- The smallest exponent leaves room for the units of a mantissa. -/
private theorem minExponent_le (hspec : 0 < spec.exponentBias) :
    spec.minExponent ≤ -(spec.mantissaBitsWithoutImplicit : Int) := by
  have hcast : ((2 ^ (spec.exponentBits - 1) : Nat) : Int) = 2 ^ (spec.exponentBits - 1) := by
    exact_mod_cast rfl
  unfold Format.exponentBias at hspec
  unfold Format.minExponent Format.mantissaBits
  omega

/-- A natural number given with spare bits is rounded to its leading ones. -/
theorem denotes_roundWithAccuracy_mul (hspec : 0 < spec.exponentBias) (sign : Sign) {m j : Nat}
    (hm : m ≠ 0) (hj : spec.mantissaBitsWithoutImplicit ≤ m.log2 + j) :
    Denotes spec (sign.apply (HalfEven.round spec.mantissaBits m) : Int)
      (roundWithAccuracy spec sign (m * 2 ^ j) (-j) .exact) := by
  obtain ⟨s, hs⟩ : ∃ s, m.log2 + j = spec.mantissaBitsWithoutImplicit + s :=
    ⟨_, (Nat.add_sub_cancel' hj).symm⟩
  have hlog : (m * 2 ^ j).log2 = spec.mantissaBitsWithoutImplicit + s := by
    rw [log2_mul_two_pow hm, hs]
  have hmin : spec.minExponent ≤ -(j : Int) + s := by
    have := minExponent_le hspec
    omega
  have hden := @denotes_roundWithAccuracy spec sign _ _ s
    (Nat.mul_ne_zero hm (Nat.ne_of_gt (Nat.two_pow_pos j))) hlog hmin
  have hround : HalfEven.shift (m * 2 ^ j) s * 2 ^ s =
      HalfEven.round spec.mantissaBits m * 2 ^ j := by
    apply HalfEven.shift_mul_eq_round
    unfold Format.mantissaBits
    omega
  have hval : (HalfEven.round spec.mantissaBits m : ℚ) =
      HalfEven.shift (m * 2 ^ j) s * 2 ^ (-(j : Int) + s) := by
    have hcast : (HalfEven.shift (m * 2 ^ j) s : ℚ) * 2 ^ s =
        HalfEven.round spec.mantissaBits m * 2 ^ j := by exact_mod_cast hround
    rw [zpow_add₀ two_ne_zero, zpow_neg, zpow_natCast, zpow_natCast, mul_left_comm, hcast,
      mul_comm, mul_inv_cancel_right₀ (pow_ne_zero j two_ne_zero)]
  rw [cast_apply, mul_assoc, ← hval] at hden
  rwa [cast_apply]

/-- A natural number by value. -/
private theorem denotes_round (hspec : 0 < spec.exponentBias) (sign : Sign) {m : Nat} (hm : m ≠ 0) :
    Denotes spec (sign.apply (HalfEven.round spec.mantissaBits m) : Int)
      (UnpackedFloat.round spec sign m 0) := by
  have hshift : (0 - spec.targetExponent (totalExponent m 0)).toNat =
      spec.mantissaBitsWithoutImplicit - m.log2 := by
    have := minExponent_le hspec
    unfold Format.targetExponent totalExponent Format.mantissaBits
    omega
  unfold UnpackedFloat.round decreaseExponent
  dsimp only
  rw [hshift, Nat.shiftLeft_eq, zero_sub]
  exact denotes_roundWithAccuracy_mul hspec sign hm (by omega)

/-- An integer by value. -/
theorem denotes_ofInt (hspec : 0 < spec.exponentBias) (n : Int) :
    Denotes spec (HalfEven.roundInt spec.mantissaBits n) (UnpackedFloat.ofInt spec n) := by
  unfold UnpackedFloat.ofInt UnpackedFloat.normalize
  obtain hlt | heq | hgt := Int.lt_trichotomy n 0
  · obtain ⟨m, rfl⟩ := Int.eq_negSucc_of_lt_zero hlt
    have hden := denotes_round hspec .negative (Nat.succ_ne_zero m)
    rw [compare_lt_iff_lt.mpr hlt]
    rw [Int.negSucc_eq, HalfEven.roundInt_neg, ← Int.natCast_succ, HalfEven.roundInt_natCast,
      Int.neg_neg, Int.toNat_natCast]
    exact hden
  · rw [compare_eq_iff_eq.mpr heq, heq]
    show ((HalfEven.roundInt spec.mantissaBits 0 : Int) : ℚ) = 0
    simp [HalfEven.roundInt]
  · obtain ⟨m, rfl⟩ := Int.eq_ofNat_of_zero_le (Int.le_of_lt hgt)
    have hm : m ≠ 0 := by omega
    have hden := denotes_round hspec .positive hm
    rw [compare_gt_iff_gt.mpr hgt]
    rw [HalfEven.roundInt_natCast, Int.toNat_natCast]
    exact hden

/-- A natural number from its digits. -/
theorem denotes_ofScientific (hspec : 0 < spec.exponentBias) (m : Nat) :
    Denotes spec (HalfEven.round spec.mantissaBits m) (UnpackedFloat.ofScientific spec m 0) := by
  unfold UnpackedFloat.ofScientific
  by_cases hm : m = 0
  · rw [dif_pos hm, hm, HalfEven.round_zero]
    exact Nat.cast_zero
  · have hhigh : ¬ (0 : Int) > 2 ^ spec.exponentBits := by
      have : (0 : Int) < 2 ^ spec.exponentBits := Int.pow_pos (by decide)
      omega
    have hlow : ¬ (0 : Int) < -((2 ^ spec.exponentBits : Int) + m.log2) := by
      omega
    rw [dif_neg hm, if_neg hhigh, if_neg hlow, if_pos (Int.le_refl 0)]
    have hden := denotes_roundWithAccuracy_mul hspec (.positive * .positive) hm
      (j := spec.mantissaBits) (by unfold Format.mantissaBits; omega)
    show Denotes spec _ (roundWithAccuracy spec _ (m <<< spec.mantissaBits * 1) (_ + 0) .exact)
    rw [Nat.shiftLeft_eq, Nat.mul_one, Int.add_zero]
    exact hden

/-! ## Comparison -/

/-- A mantissa of the leading bits is outweighed by any greater exponent. -/
private theorem mul_zpow_lt {p m m' : Nat} {e e' : Int} (hm : m < 2 ^ (p + 1)) (hm' : 2 ^ p ≤ m')
    (he : e < e') : (m : ℚ) * 2 ^ e < m' * 2 ^ e' := by
  have hmq : (m : ℚ) < 2 ^ (p + 1) := by exact_mod_cast hm
  have hmq' : (2 : ℚ) ^ p ≤ m' := by exact_mod_cast hm'
  calc (m : ℚ) * 2 ^ e < 2 ^ (p + 1) * 2 ^ e :=
        mul_lt_mul_of_pos_right hmq (zpow_pos two_pos e)
    _ = 2 ^ p * 2 ^ (e + 1) := by
        rw [zpow_add₀ two_ne_zero, zpow_one]
        ring
    _ ≤ 2 ^ p * 2 ^ e' :=
        mul_le_mul_of_nonneg_left (zpow_le_zpow_right₀ one_le_two he) (by positivity)
    _ ≤ m' * 2 ^ e' := mul_le_mul_of_nonneg_right hmq' (zpow_nonneg two_pos.le e')

/-- Exponents first and mantissas next is the order of the values. -/
private theorem compare_then {p m m' : Nat} {e e' : Int} (hlow : 2 ^ p ≤ m)
    (hup : m < 2 ^ (p + 1)) (hlow' : 2 ^ p ≤ m') (hup' : m' < 2 ^ (p + 1)) :
    (compare e e').then (compare m m') = compare ((m : ℚ) * 2 ^ e) (m' * 2 ^ e') := by
  obtain he | he | he := Int.lt_trichotomy e e'
  · rw [compare_lt_iff_lt.mpr he, compare_lt_iff_lt.mpr (mul_zpow_lt hup hlow' he)]
    rfl
  · subst he
    have hpos : (0 : ℚ) < 2 ^ e := zpow_pos two_pos e
    rw [compare_eq_iff_eq.mpr rfl]
    show compare m m' = _
    obtain hm | hm | hm := Nat.lt_trichotomy m m'
    · rw [compare_lt_iff_lt.mpr hm, eq_comm, compare_lt_iff_lt]
      exact mul_lt_mul_of_pos_right (Nat.cast_lt.mpr hm) hpos
    · rw [compare_eq_iff_eq.mpr hm, hm, eq_comm, compare_eq_iff_eq]
    · rw [compare_gt_iff_gt.mpr hm, eq_comm, compare_gt_iff_gt]
      exact mul_lt_mul_of_pos_right (Nat.cast_lt.mpr hm) hpos
  · rw [compare_gt_iff_gt.mpr he, compare_gt_iff_gt.mpr (mul_zpow_lt hup' hlow he)]
    rfl

/-- Changing both signs turns an order around. -/
private theorem compare_neg_neg (a b : ℚ) : compare (-a) (-b) = (compare a b).swap := by
  obtain h | h | h := lt_trichotomy a b
  · rw [compare_lt_iff_lt.mpr h, compare_gt_iff_gt.mpr (neg_lt_neg h)]
    rfl
  · rw [compare_eq_iff_eq.mpr h, compare_eq_iff_eq.mpr (congrArg Neg.neg h)]
    rfl
  · rw [compare_gt_iff_gt.mpr h, compare_lt_iff_lt.mpr (neg_lt_neg h)]
    rfl

/-- The value of a negative number. -/
private theorem Denotes.negative {v : ℚ} {m : Nat} {e : Int} {hm : 0 < m}
    (h : Denotes spec v (.finite .negative m e hm)) : v = -(m * 2 ^ e) := by
  obtain ⟨_, _, hv⟩ := h
  rw [hv, ← neg_mul]
  exact congrArg (· * (2 : ℚ) ^ e) (Int.cast_neg (m : Int))

/-- The value of a positive number. -/
private theorem Denotes.positive {v : ℚ} {m : Nat} {e : Int} {hm : 0 < m}
    (h : Denotes spec v (.finite .positive m e hm)) : v = m * 2 ^ e := h.2.2

/-- Numbers are compared by value. -/
theorem compare_eq {v w : ℚ} {x y : UnpackedFloat} (hx : Denotes spec v x)
    (hy : Denotes spec w y) : x.compare y = some (compare v w) := by
  have hpos : ∀ {m : Nat} {e : Int}, 0 < m → (0 : ℚ) < m * 2 ^ e := by
    intro m e hm
    exact mul_pos (Nat.cast_pos.mpr hm) (zpow_pos two_pos e)
  cases x with
  | infinity => exact hx.elim
  | notANumber => exact hx.elim
  | zero s =>
    have hv : v = 0 := hx
    subst hv
    cases y with
    | infinity => exact hy.elim
    | notANumber => exact hy.elim
    | zero s' =>
      have hw : w = 0 := hy
      rw [hw, compare_eq_iff_eq.mpr rfl]
      rfl
    | finite s' m' e' hm' =>
      cases s' with
      | negative =>
        rw [hy.negative, compare_gt_iff_gt.mpr (neg_lt_zero.mpr (hpos hm'))]
        rfl
      | positive =>
        rw [hy.positive, compare_lt_iff_lt.mpr (hpos hm')]
        rfl
  | finite s m e hm =>
    cases y with
    | infinity => exact hy.elim
    | notANumber => exact hy.elim
    | zero s' =>
      have hw : w = 0 := hy
      cases s with
      | negative =>
        rw [hx.negative, hw, compare_lt_iff_lt.mpr (neg_lt_zero.mpr (hpos hm))]
        rfl
      | positive =>
        rw [hx.positive, hw, compare_gt_iff_gt.mpr (hpos hm)]
        rfl
    | finite s' m' e' hm' =>
      have hthen := @compare_then _ m m' e e' hx.1 hx.2.1 hy.1 hy.2.1
      cases s with
      | negative =>
        cases s' with
        | negative =>
          rw [hx.negative, hy.negative, compare_neg_neg, ← hthen]
          rfl
        | positive =>
          rw [hx.negative, hy.positive,
            compare_lt_iff_lt.mpr ((neg_lt_zero.mpr (hpos hm)).trans (hpos hm'))]
          rfl
      | positive =>
        cases s' with
        | negative =>
          rw [hx.positive, hy.negative,
            compare_gt_iff_gt.mpr ((neg_lt_zero.mpr (hpos hm')).trans (hpos hm))]
          rfl
        | positive =>
          rw [hx.positive, hy.positive, ← hthen]
          rfl

/-! ## Packing -/

@[simp] theorem unpackSign_packComponents (s : Sign) (e : BitVec spec.exponentBits)
    (m : BitVec spec.mantissaBitsWithoutImplicit) :
    unpackSign (packComponents spec s e m) = s.toBitVec := by
  ext i hi
  obtain rfl : i = 0 := by omega
  unfold unpackSign packComponents
  simp [BitVec.getLsbD_append, BitVec.getElem_append]

@[simp] theorem ofBitVec_toBitVec (s : Sign) : Sign.ofBitVec s.toBitVec = s := by
  cases s <;> rfl

/-- The leading bit of a mantissa, which packing drops, is put back. -/
private theorem toNat_append_one {p m : Nat} (hlow : 2 ^ p ≤ m) (hup : m < 2 ^ (p + 1)) :
    (1#1 ++ BitVec.ofNat p m).toNat = m := by
  have hmod : m % 2 ^ p = m - 2 ^ p := by
    rw [Nat.mod_eq_sub_mod hlow, Nat.mod_eq_of_lt]
    rw [Nat.pow_succ] at hup
    omega
  rw [BitVec.toNat_append, ← Nat.shiftLeft_add_eq_or_of_lt (BitVec.isLt _),
    BitVec.toNat_ofNat 1 1, BitVec.toNat_ofNat m p, hmod, Nat.mod_eq_of_lt (by decide),
    Nat.one_shiftLeft, Nat.add_sub_cancel' hlow]

/-- An exponent between the two reserved ones is neither. -/
private theorem ofNat_ne_reserved {k b : Nat} (hlow : 1 ≤ b) (hup : b + 1 < 2 ^ k) :
    BitVec.ofNat k b ≠ -1#k ∧ BitVec.ofNat k b ≠ 0#k := by
  have hb : (BitVec.ofNat k b).toNat = b := Nat.mod_eq_of_lt (by omega)
  constructor
  · intro h
    rw [h, BitVec.neg_one_eq_allOnes, BitVec.toNat_allOnes] at hb
    omega
  · intro h
    rw [h, BitVec.toNat_zero] at hb
    omega

/-- Bits with an exponent that is not reserved are a number in the normal range. -/
private theorem unpack_normal {b : BitVec spec.numBits} (hones : unpackExponent b ≠ -1#_)
    (hzero : unpackExponent b ≠ 0#_) (hpos : 0 < (1#1 ++ unpackMantissa b).toNat) :
    UnpackedFloat.unpack spec b = .finite (Sign.ofBitVec (unpackSign b))
      (1#1 ++ unpackMantissa b).toNat
      ((unpackExponent b).toNat - (spec.exponentBias + spec.mantissaBitsWithoutImplicit))
      hpos := by
  unfold UnpackedFloat.unpack
  rw [if_neg hones, if_neg hzero]

/-- A number in the normal range is unpacked as it was packed. -/
theorem unpack_pack_finite {s : Sign} {m : Nat} {e : Int} (hm : 0 < m)
    (hlow : 2 ^ spec.mantissaBitsWithoutImplicit ≤ m)
    (hup : m < 2 ^ (spec.mantissaBitsWithoutImplicit + 1))
    (he : 1 ≤ e + spec.exponentBias + spec.mantissaBitsWithoutImplicit)
    (he' : e + spec.exponentBias + spec.mantissaBitsWithoutImplicit + 1 <
      ((2 ^ spec.exponentBits : Nat) : Int)) :
    UnpackedFloat.unpack spec (UnpackedFloat.pack spec (.finite s m e hm)) = .finite s m e hm := by
  obtain ⟨b, hb⟩ := Int.eq_ofNat_of_zero_le (Int.le_trans (by decide) he)
  rw [hb] at he he'
  obtain ⟨hones, hzero⟩ := @ofNat_ne_reserved spec.exponentBits b (by omega) (by omega)
  have hexp : (BitVec.ofNat spec.exponentBits b).toNat = b := Nat.mod_eq_of_lt (by omega)
  have hlog : m.log2 + 1 = spec.mantissaBits := by
    rw [(Nat.log2_eq_iff (Nat.ne_of_gt hm)).mpr ⟨hlow, hup⟩, Nat.add_comm]
    rfl
  have hpacked : UnpackedFloat.pack spec (.finite s m e hm) =
      packComponents spec s (BitVec.ofNat _ b) (BitVec.ofNat _ m) := by
    unfold UnpackedFloat.pack
    dsimp only
    rw [hb, Int.toNat_natCast, if_neg (by omega), if_pos hlog]
  have hmantissa := @toNat_append_one _ m hlow hup
  rw [hpacked, unpack_normal (by rwa [unpackExponent_packComponents])
    (by rwa [unpackExponent_packComponents])
    (by rwa [unpackMantissa_packComponents, hmantissa]), UnpackedFloat.finite.injEq,
    unpackSign_packComponents, unpackMantissa_packComponents, unpackExponent_packComponents,
    ofBitVec_toBitVec, hmantissa, hexp]
  exact ⟨rfl, rfl, by omega⟩

/-- And so is a zero. -/
theorem unpack_pack_zero (s : Sign) :
    UnpackedFloat.unpack spec (UnpackedFloat.pack spec (.zero s)) = .zero s := by
  have hones : (0#_ : BitVec spec.exponentBits) ≠ -1#_ := by
    intro h
    have htwo : 2 ^ 1 ≤ 2 ^ spec.exponentBits := Nat.pow_le_pow_right (by decide) spec.he
    have hnat := congrArg BitVec.toNat h
    rw [BitVec.neg_one_eq_allOnes, BitVec.toNat_allOnes, BitVec.toNat_zero] at hnat
    omega
  unfold UnpackedFloat.pack packedZero UnpackedFloat.unpack
  simp [hones]

/-- The exponent of an integer: its unit is not below the mantissa, and it is as large as it is. -/
private theorem exponent_mem_range {s : Sign} {m : Nat} {e : Int} {hm : 0 < m}
    (hx : Denotes spec n (.finite s m e hm)) {k : Nat} (hn : n.natAbs < 2 ^ k) :
    0 ≤ e + spec.mantissaBitsWithoutImplicit ∧ e + spec.mantissaBitsWithoutImplicit < k := by
  obtain ⟨hlow, hup, hv⟩ := hx
  have hpos : (0 : ℚ) < 2 ^ e := zpow_pos two_pos e
  have habs : (n.natAbs : ℚ) = m * 2 ^ e := by
    rw [Nat.cast_natAbs, Int.cast_abs, hv, abs_mul, abs_of_pos hpos]
    cases s with
    | negative => simp [Sign.apply]
    | positive => simp [Sign.apply]
  have hone : (2 : ℚ) ^ (0 : Int) <
      2 ^ (((spec.mantissaBitsWithoutImplicit + 1 : Nat) : Int) + e) := by
    have hn0 : 0 < n.natAbs := by
      rw [← @Nat.cast_pos ℚ, habs]
      exact mul_pos (Nat.cast_pos.mpr hm) hpos
    have hn1 : (1 : ℚ) ≤ n.natAbs := by exact_mod_cast hn0
    have hmq : (m : ℚ) < 2 ^ (spec.mantissaBitsWithoutImplicit + 1) := by exact_mod_cast hup
    rw [zpow_zero, zpow_add₀ two_ne_zero, zpow_natCast]
    calc (1 : ℚ) ≤ m * 2 ^ e := habs ▸ hn1
      _ < _ := mul_lt_mul_of_pos_right hmq hpos
  have hmax : (2 : ℚ) ^ ((spec.mantissaBitsWithoutImplicit : Int) + e) < 2 ^ (k : Int) := by
    have hnq : (n.natAbs : ℚ) < 2 ^ k := by exact_mod_cast hn
    have hmq : (2 : ℚ) ^ spec.mantissaBitsWithoutImplicit ≤ m := by exact_mod_cast hlow
    rw [zpow_add₀ two_ne_zero, zpow_natCast, zpow_natCast]
    calc _ ≤ (m : ℚ) * 2 ^ e := mul_le_mul_of_nonneg_right hmq hpos.le
      _ < 2 ^ k := habs ▸ hnq
  rw [zpow_lt_zpow_iff_right₀ one_lt_two] at hone hmax
  omega

/-- Negation changes the sign of the value. -/
theorem denotes_neg {v : ℚ} {x : UnpackedFloat} (hx : Denotes spec v x) :
    Denotes spec (-v) x.neg := by
  cases x with
  | infinity => exact hx.elim
  | notANumber => exact hx.elim
  | zero s => exact neg_eq_zero.mpr hx
  | finite s m e hm =>
    obtain ⟨hlow, hup, hv⟩ := hx
    refine ⟨hlow, hup, ?_⟩
    have hsign : (-s).apply (m : Int) = -s.apply m := by
      cases s with
      | negative => exact (Int.neg_neg _).symm
      | positive => rfl
    rw [hsign, hv, Int.cast_neg, neg_mul]

/-- The product with the unit is exact. -/
private theorem denotes_mul_one (hspec : 0 < spec.exponentBias) {x : UnpackedFloat}
    (hx : Denotes spec n x) (hone : 0 < 2 ^ spec.mantissaBitsWithoutImplicit) :
    Denotes spec n (UnpackedFloat.mul spec x (.finite .positive
      (2 ^ spec.mantissaBitsWithoutImplicit) (-spec.mantissaBitsWithoutImplicit) hone)) := by
  cases x with
  | infinity => exact hx.elim
  | notANumber => exact hx.elim
  | zero s => exact hx
  | finite s m e hm =>
    have hrange := (exponent_mem_range hx Nat.lt_two_pow_self).1
    obtain ⟨hlow, hup, hv⟩ := hx
    have hm0 : m ≠ 0 := Nat.ne_of_gt hm
    have hlog : (m * 2 ^ spec.mantissaBitsWithoutImplicit).log2 =
        spec.mantissaBitsWithoutImplicit + spec.mantissaBitsWithoutImplicit := by
      rw [log2_mul_two_pow hm0, (Nat.log2_eq_iff hm0).mpr ⟨hlow, hup⟩]
    have hmin := minExponent_le hspec
    have hden := @denotes_roundWithAccuracy spec (s * .positive) _
      (e + -spec.mantissaBitsWithoutImplicit) spec.mantissaBitsWithoutImplicit
      (Nat.mul_ne_zero hm0 (Nat.ne_of_gt hone)) hlog (by omega)
    have hsign : (s * .positive).apply (m : Int) = s.apply m := by cases s <;> rfl
    rwa [HalfEven.shift_exact, Int.neg_add_cancel_right, hsign, ← hv] at hden

/-- An integer that is in range is unpacked as it was packed. -/
theorem unpack_pack {x : UnpackedFloat} (hn : n.natAbs < 2 ^ spec.exponentBias)
    (hx : Denotes spec n x) :
    UnpackedFloat.unpack spec (UnpackedFloat.pack spec x) = x := by
  cases x with
  | infinity => exact hx.elim
  | notANumber => exact hx.elim
  | zero s => exact unpack_pack_zero s
  | finite s m e hm =>
    have hcapacity : 2 ^ spec.exponentBits = 2 * spec.exponentBias + 2 := by
      obtain ⟨k, hk⟩ : ∃ k, spec.exponentBits = k + 1 := ⟨_, (Nat.sub_add_cancel spec.he).symm⟩
      have := Nat.two_pow_pos k
      unfold Format.exponentBias
      rw [hk, Nat.pow_succ, Nat.add_sub_cancel]
      omega
    have hrange := exponent_mem_range hx hn
    exact unpack_pack_finite hm hx.1 hx.2.1 (by omega) (by omega)

/-! ## Doubles -/

/-- A double has the value of the integer `n`. -/
def DenotesInt (x : Float) (n : Int) : Prop := Denotes .binary64 n x.toModel.unpack

variable {n' : Int} {x y : Float}

private theorem bias_pos : 0 < Format.binary64.exponentBias := by decide

/-- What an operation packs is what it has computed. -/
private theorem denotesInt_pack {u : UnpackedFloat} (hn : n.natAbs ≤ 2 ^ 64)
    (hu : Denotes .binary64 n u) : DenotesInt (.ofModel (.pack u)) n := by
  have hlt : n.natAbs < 2 ^ Format.binary64.exponentBias :=
    Nat.lt_of_le_of_lt hn (Nat.pow_lt_pow_right (by decide) (by decide))
  show Denotes .binary64 n (UnpackedFloat.unpack .binary64 (UnpackedFloat.pack .binary64 u))
  rwa [unpack_pack hlt hu]

private theorem natAbs_round_le {m : Nat} (hm : m < 2 ^ 64) :
    (HalfEven.round 53 m : Int).natAbs ≤ 2 ^ 64 := by
  rw [Int.natAbs_natCast]
  exact HalfEven.round_le_two_pow (by decide) hm

/-- The negation of a double. -/
theorem denotesInt_neg (hn : n.natAbs ≤ 2 ^ 64) (hx : DenotesInt x n) :
    DenotesInt (-x) (-n) := by
  apply denotesInt_pack (by rwa [Int.natAbs_neg])
  rw [Int.cast_neg]
  exact denotes_neg hx

/-- An unsigned integer, by value. -/
theorem denotesInt_toFloat (n : UInt64) : DenotesInt n.toFloat (HalfEven.round 53 n.toNat) := by
  apply denotesInt_pack (natAbs_round_le n.toNat_lt)
  have hden := denotes_ofInt bias_pos n.toNat
  rwa [HalfEven.roundInt_natCast] at hden

/-- A natural number, from its digits. -/
theorem denotesInt_ofScientific {m : Nat} (hm : m < 2 ^ 64) :
    DenotesInt (.ofModel (.ofScientific m 0)) (HalfEven.round 53 m) := by
  apply denotesInt_pack (natAbs_round_le hm)
  rw [Int.cast_natCast]
  exact denotes_ofScientific bias_pos m

/-- A literal that fits the mantissa is the product of its value with a power of ten. -/
private theorem denotesInt_ofNat {m : Nat} (hm : m < 2 ^ 64) :
    DenotesInt (.ofNat m) (HalfEven.round 53 m) := by
  show DenotesInt (Float.ofScientific m false 0) _
  unfold Float.ofScientific
  by_cases hfast : m < 2 ^ 53 ∧ 0 ≤ 22
  · have htoNat : m.toUInt64.toNat = m := Nat.mod_eq_of_lt hm
    have hvalue := denotesInt_toFloat m.toUInt64
    rw [htoNat] at hvalue
    have hone : (Float.ofBits 0x3FF0000000000000).toModel.unpack =
        .finite .positive (2 ^ 52) (-52) (Nat.two_pow_pos 52) := by rfl
    rw [dif_pos hfast]
    apply denotesInt_pack (natAbs_round_le hm)
    show Denotes _ _ (UnpackedFloat.mul _ _ (Float.ofBits 0x3FF0000000000000).toModel.unpack)
    rw [hone]
    exact denotes_mul_one bias_pos hvalue (Nat.two_pow_pos 52)
  · rw [dif_neg hfast]
    exact denotesInt_ofScientific hm

/-- The double of a negated natural number. -/
theorem denotesInt_neg_round {m : Nat} (hm : m < 2 ^ 64)
    (hx : DenotesInt x (HalfEven.round 53 m)) : DenotesInt (-x) (HalfEven.roundInt 53 (-m)) := by
  rw [HalfEven.roundInt_neg, HalfEven.roundInt_natCast]
  exact denotesInt_neg (natAbs_round_le hm) hx

/-- An integer, by value. -/
theorem denotesInt_ofInt (hn : n.natAbs < 2 ^ 64) :
    DenotesInt (.ofInt n) (HalfEven.roundInt 53 n) := by
  cases n with
  | ofNat m =>
    have hden := denotesInt_ofNat hn
    rwa [← HalfEven.roundInt_natCast] at hden
  | negSucc m => exact denotesInt_neg_round hn (denotesInt_ofNat hn)

/-- Doubles of integers are ordered as the integers are. -/
theorem lt_eq (hx : DenotesInt x n) (hy : DenotesInt y n') : x.lt y = decide (n < n') := by
  have hcmp := compare_eq hx hy
  show decide ((x.toModel.unpack.compare y.toModel.unpack == some .lt) = true) = _
  rw [hcmp]
  simp [compare_lt_iff_lt]

/-- They are equal where the integers are. -/
theorem beq_eq (hx : DenotesInt x n) (hy : DenotesInt y n') : (x == y) = decide (n = n') := by
  have hcmp := compare_eq hx hy
  show (x.toModel.unpack.compare y.toModel.unpack == some .eq) = _
  rw [hcmp, Bool.eq_iff_iff]
  simp

end FloatModel
