import Mathlib.Algebra.Group.Nat.Defs
import Mathlib.Data.Nat.Basic

/-!
# Rounding to significant bits

A number keeps its `p` leading bits and is rounded at the bit below them, to the nearer neighbour
and from a tie to the even one. `shift` rounds a quotient by a power of two, `round` a natural
number and `roundInt` an integer, by its magnitude. A number that has the bits to spare is not
touched, and rounding never turns an order around (`roundInt_mono`).
-/

namespace HalfEven

/-- `m / 2 ^ s` rounded to an integer, from a tie to the even one. -/
def shift (m s : Nat) : Nat :=
  if 2 * (m % 2 ^ s) < 2 ^ s then m / 2 ^ s
  else if 2 * (m % 2 ^ s) = 2 ^ s then m / 2 ^ s + m / 2 ^ s % 2
  else m / 2 ^ s + 1

/-- `m` rounded to its `p` leading bits. -/
def round (p m : Nat) : Nat := shift m (m.log2 + 1 - p) * 2 ^ (m.log2 + 1 - p)

/-- `n` rounded to the `p` leading bits of its magnitude. -/
def roundInt (p : Nat) (n : Int) : Int := n.sign * round p n.natAbs

/-! ## Quotients -/

/-- A factor that the power of two cancels does not matter. -/
theorem shift_mul_two_pow (m s j : Nat) : shift (m * 2 ^ j) (s + j) = shift m s := by
  have hj : 0 < 2 ^ j := Nat.two_pow_pos j
  have hdiv : m * 2 ^ j / 2 ^ (s + j) = m / 2 ^ s := by
    rw [Nat.pow_add, Nat.mul_div_mul_right m _ hj]
  have hmod : m * 2 ^ j % 2 ^ (s + j) = m % 2 ^ s * 2 ^ j := by
    rw [Nat.pow_add, Nat.mul_mod_mul_right]
  have hlt : 2 * (m % 2 ^ s * 2 ^ j) < 2 ^ s * 2 ^ j ↔ 2 * (m % 2 ^ s) < 2 ^ s := by
    rw [← Nat.mul_assoc]
    exact Nat.mul_lt_mul_right hj
  have heq : 2 * (m % 2 ^ s * 2 ^ j) = 2 ^ s * 2 ^ j ↔ 2 * (m % 2 ^ s) = 2 ^ s := by
    rw [← Nat.mul_assoc]
    exact Nat.mul_left_inj (Nat.ne_of_gt hj)
  unfold shift
  rw [hdiv, hmod]
  simp only [Nat.pow_add, hlt, heq]

@[simp] theorem shift_zero (m : Nat) : shift m 0 = m := by
  simp [shift, Nat.mod_one]

/-- An exact quotient is not rounded. -/
theorem shift_exact (q s : Nat) : shift (q * 2 ^ s) s = q := by
  have h := shift_mul_two_pow q 0 s
  rwa [Nat.zero_add, shift_zero] at h

/-- The quotient is rounded up by one at most. -/
private theorem shift_bounds (m s : Nat) : m / 2 ^ s ≤ shift m s ∧ shift m s ≤ m / 2 ^ s + 1 := by
  unfold shift
  split
  · omega
  · split <;> omega

theorem shift_mono {m m' : Nat} (h : m ≤ m') (s : Nat) : shift m s ≤ shift m' s := by
  have hdiv : m / 2 ^ s ≤ m' / 2 ^ s := Nat.div_le_div_right h
  by_cases hsame : m / 2 ^ s = m' / 2 ^ s
  · -- on one quotient the remainder decides
    have hm := Nat.div_add_mod m (2 ^ s)
    have hm' := Nat.div_add_mod m' (2 ^ s)
    rw [hsame] at hm
    unfold shift
    rw [hsame]
    split <;> split <;> (try split) <;> (try split) <;> omega
  · have hup := (shift_bounds m s).2
    have hlow := (shift_bounds m' s).1
    omega

/-- A quotient between two powers of two is rounded to a number between them. -/
theorem shift_mem_binade {m p s : Nat} (hlow : 2 ^ (p + s) ≤ m) (hup : m ≤ 2 ^ (p + 1 + s)) :
    2 ^ p ≤ shift m s ∧ shift m s ≤ 2 ^ (p + 1) := by
  constructor
  · have h := shift_mono hlow s
    rwa [Nat.pow_add, shift_exact] at h
  · have h := shift_mono hup s
    rwa [Nat.pow_add, shift_exact] at h

/-! ## Natural numbers -/

@[simp] theorem round_zero (p : Nat) : round p 0 = 0 := by
  have h := shift_exact 0 (Nat.log2 0 + 1 - p)
  rw [Nat.zero_mul] at h
  rw [round, h, Nat.zero_mul]

/-- A number of at most `p` bits is left as it is. -/
theorem round_of_log2_lt {p m : Nat} (h : m.log2 < p) : round p m = m := by
  unfold round
  rw [Nat.sub_eq_zero_of_le h]
  simp

/-- A number stays between the powers of two it lies between. -/
private theorem round_mem_binade {p m : Nat} (hp : 0 < p) (hm : m ≠ 0) :
    2 ^ m.log2 ≤ round p m ∧ round p m ≤ 2 ^ (m.log2 + 1) := by
  by_cases h : m.log2 < p
  · rw [round_of_log2_lt h]
    exact ⟨Nat.log2_self_le hm, Nat.le_of_lt Nat.lt_log2_self⟩
  · obtain ⟨k, hk⟩ : ∃ k, p = k + 1 := ⟨p - 1, by omega⟩
    have hlog : m.log2 = k + (m.log2 + 1 - p) := by omega
    obtain ⟨hlow, hup⟩ := @shift_mem_binade m k (m.log2 + 1 - p)
      (hlog ▸ Nat.log2_self_le hm) (by
        rw [Nat.add_right_comm, ← hlog]
        exact Nat.le_of_lt Nat.lt_log2_self)
    unfold round
    constructor
    · calc 2 ^ m.log2 = 2 ^ k * 2 ^ (m.log2 + 1 - p) := by rw [← Nat.pow_add, ← hlog]
        _ ≤ _ := Nat.mul_le_mul_right _ hlow
    · calc _ ≤ 2 ^ (k + 1) * 2 ^ (m.log2 + 1 - p) := Nat.mul_le_mul_right _ hup
        _ = 2 ^ (m.log2 + 1) := by
          rw [← Nat.pow_add]
          congr 1
          omega

/-- A number of `k` bits is rounded to `2 ^ k` at most. -/
theorem round_le_two_pow {p m k : Nat} (hp : 0 < p) (h : m < 2 ^ k) : round p m ≤ 2 ^ k := by
  by_cases hm : m = 0
  · rw [hm, round_zero]
    exact Nat.zero_le _
  · have hlog : m.log2 < k := (Nat.log2_lt hm).mpr h
    exact Nat.le_trans (round_mem_binade hp hm).2 (Nat.pow_le_pow_right (by decide) hlog)

theorem round_mono {p m m' : Nat} (hp : 0 < p) (h : m ≤ m') : round p m ≤ round p m' := by
  by_cases hm : m = 0
  · rw [hm, round_zero]
    exact Nat.zero_le _
  have hm' : m' ≠ 0 := by omega
  have hlog : m.log2 ≤ m'.log2 := (Nat.le_log2 hm').mpr (Nat.le_trans (Nat.log2_self_le hm) h)
  by_cases hsame : m.log2 = m'.log2
  · unfold round
    rw [hsame]
    exact Nat.mul_le_mul_right _ (shift_mono h _)
  · -- the power of two between the two numbers is between their roundings
    calc round p m ≤ 2 ^ (m.log2 + 1) := (round_mem_binade hp hm).2
      _ ≤ 2 ^ m'.log2 := Nat.pow_le_pow_right (by omega) (by omega)
      _ ≤ round p m' := (round_mem_binade hp hm').1

/-- The rounding may be read off the number times any power of two. -/
theorem shift_mul_eq_round {p m j s : Nat} (hs : m.log2 + 1 + j = p + s) :
    shift (m * 2 ^ j) s * 2 ^ s = round p m * 2 ^ j := by
  by_cases h : m.log2 < p
  · obtain ⟨i, rfl⟩ : ∃ i, j = i + s := ⟨j - s, by omega⟩
    rw [round_of_log2_lt h, Nat.pow_add, ← Nat.mul_assoc, shift_exact]
  · have hst : s = m.log2 + 1 - p + j := by omega
    rw [hst, shift_mul_two_pow, Nat.pow_add, ← Nat.mul_assoc]
    rfl

/-! ## Integers -/

@[simp] theorem roundInt_natCast (p m : Nat) : roundInt p (m : Int) = round p m := by
  cases m with
  | zero => simp [roundInt]
  | succ m =>
    rw [roundInt, Int.natAbs_natCast, Int.sign_eq_one_of_pos (Int.natCast_pos.mpr m.succ_pos),
      Int.one_mul]

@[simp] theorem roundInt_neg (p : Nat) (n : Int) : roundInt p (-n) = -roundInt p n := by
  rw [roundInt, roundInt, Int.sign_neg, Int.natAbs_neg, Int.neg_mul]

theorem roundInt_mono {p : Nat} (hp : 0 < p) {n n' : Int} (h : n ≤ n') :
    roundInt p n ≤ roundInt p n' := by
  obtain ⟨m, hn | hn⟩ := Int.eq_nat_or_neg n
  · obtain ⟨m', rfl⟩ := Int.eq_ofNat_of_zero_le (show 0 ≤ n' by omega)
    subst hn
    rw [roundInt_natCast, roundInt_natCast]
    exact Int.ofNat_le.mpr (round_mono hp (Int.ofNat_le.mp h))
  · obtain ⟨m', hn' | hn'⟩ := Int.eq_nat_or_neg n'
    · subst hn hn'
      rw [roundInt_neg, roundInt_natCast, roundInt_natCast]
      omega
    · subst hn hn'
      rw [roundInt_neg, roundInt_neg, roundInt_natCast, roundInt_natCast]
      have hle := @round_mono p m' m hp (by omega)
      omega

end HalfEven
