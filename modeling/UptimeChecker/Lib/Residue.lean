import Mathlib.Data.List.Rotate
import Mathlib.Data.Nat.ModEq

/-!
# Residue classes on the number line

A residue class modulo `m` cut to an interval that `m` divides is an arithmetic progression, and
walking along a class from member to member goes in steps of exactly `m`. A list of values indexed
by a counter modulo its length is read off a walk as a rotation of the list.
-/

namespace Residue

/-- The progression from `r` in steps of `m` below `n` is the class of `r` below `n`. -/
theorem mem_progression {n m r x : Nat} (hm : 0 < m) (hdvd : m ∣ n) (hr : r < m) :
    x ∈ (List.range (n / m)).map (fun c => r + m * c) ↔ x < n ∧ x % m = r := by
  obtain ⟨k, rfl⟩ := hdvd
  rw [Nat.mul_div_cancel_left k hm, List.mem_map]
  constructor
  · rintro ⟨c, hc, rfl⟩
    have hck : m * (c + 1) ≤ m * k := Nat.mul_le_mul_left m (List.mem_range.mp hc)
    rw [Nat.mul_succ] at hck
    exact ⟨by omega, by rw [Nat.add_mul_mod_self_left, Nat.mod_eq_of_lt hr]⟩
  · rintro ⟨hx, rfl⟩
    refine ⟨x / m, List.mem_range.mpr ?_, by rw [Nat.add_comm, Nat.div_add_mod]⟩
    exact (Nat.div_lt_iff_lt_mul hm).mpr (by rwa [Nat.mul_comm])

/-- The same below any `n`, where the last step is cut short. -/
theorem mem_progression_ceil {n m r x : Nat} (hr : r < m) :
    x ∈ (List.range ((n - r + m - 1) / m)).map (fun c => r + m * c) ↔ x < n ∧ x % m = r := by
  have hm : 0 < m := Nat.lt_of_le_of_lt (Nat.zero_le r) hr
  have hcount : ∀ c, c < (n - r + m - 1) / m ↔ r + m * c < n := by
    intro c
    rw [← Nat.succ_le_iff, Nat.le_div_iff_mul_le hm, Nat.succ_mul, Nat.mul_comm c m]
    omega
  rw [List.mem_map]
  constructor
  · intro ⟨c, hc, hx⟩
    rw [← hx]
    refine ⟨(hcount c).mp (List.mem_range.mp hc), ?_⟩
    rw [Nat.add_mul_mod_self_left, Nat.mod_eq_of_lt hr]
  · intro ⟨hx, hmod⟩
    have hdiv : r + m * (x / m) = x := by rw [← hmod, Nat.mod_add_div]
    refine ⟨x / m, List.mem_range.mpr ((hcount _).mpr ?_), hdiv⟩
    rwa [hdiv]

/-- A progression names no number twice. -/
theorem nodup_progression {k m r : Nat} (hm : 0 < m) :
    ((List.range k).map fun c => r + m * c).Nodup := by
  refine List.Nodup.map ?_ List.nodup_range
  intro a b h
  exact Nat.eq_of_mul_eq_mul_left hm (Nat.add_left_cancel h)

/-- A window as wide as the modulus meets every class once. -/
theorem existsUnique_mem_window {m r : Nat} (hr : r < m) (s : Nat) :
    ∃! x, s ≤ x ∧ x < s + m ∧ x % m = r := by
  have hdiv := Nat.div_add_mod s m
  have hmod : s % m < m := Nat.mod_lt _ (Nat.lt_of_le_of_lt (Nat.zero_le r) hr)
  -- the member of the class in the block of `s`, or in the next one where `s` is past it
  have hex : ∃ x, s ≤ x ∧ x < s + m ∧ x % m = r := by
    by_cases hle : s % m ≤ r
    · refine ⟨r + m * (s / m), by omega, by omega, ?_⟩
      rw [Nat.add_mul_mod_self_left, Nat.mod_eq_of_lt hr]
    · refine ⟨r + m * (s / m + 1), ?_, ?_, ?_⟩
      · rw [Nat.mul_add]
        omega
      · rw [Nat.mul_add]
        omega
      · rw [Nat.add_mul_mod_self_left, Nat.mod_eq_of_lt hr]
  obtain ⟨x, hx⟩ := hex
  refine ⟨x, hx, ?_⟩
  intro y hy
  have hclose : ∀ a b, s ≤ a → a % m = r → b < s + m → b % m = r → b ≤ a := by
    intro a b ha hamod hb hbmod
    by_contra hlt
    have hdvd : m ∣ b - a :=
      (Nat.modEq_iff_dvd' (Nat.le_of_lt (Nat.lt_of_not_le hlt))).mp (hamod.trans hbmod.symm)
    have := Nat.le_of_dvd (by omega) hdvd
    omega
  exact Nat.le_antisymm (hclose x y hx.1 hx.2.2 hy.2.1 hy.2.2)
    (hclose y x hy.1 hy.2.2 hx.2.1 hx.2.2)

/-- Where the modulus divides `n`, that member lies below `n` unless the window starts after the
last member below `n`. -/
theorem mem_window_lt_iff {m n r s x : Nat} (hr : r < m) (hdvd : m ∣ n) (hs : s ≤ x)
    (hx : x < s + m) (hmod : x % m = r) : x < n ↔ s + m ≤ r + n := by
  obtain ⟨k, rfl⟩ := hdvd
  have hdiv : m * (x / m) + r = x := by rw [← hmod, Nat.div_add_mod]
  constructor
  · intro hlt
    have hblock : x / m + 1 ≤ k := (Nat.div_lt_iff_lt_mul
      (Nat.lt_of_le_of_lt (Nat.zero_le r) hr)).mpr (by rwa [Nat.mul_comm])
    have := Nat.mul_le_mul_left m hblock
    rw [Nat.mul_add] at this
    omega
  · intro hle
    have hblock : m * (x / m) < m * k := by omega
    have := Nat.mul_le_mul_left m (Nat.lt_of_mul_lt_mul_left hblock)
    rw [Nat.succ_eq_add_one, Nat.mul_add] at this
    omega

/-- `b` is the first number after `a` with the property. -/
structure IsNext (P : Nat → Prop) (a b : Nat) : Prop where
  lt : a < b
  holds : P b
  first : ∀ c, a < c → c < b → ¬ P c

/-- From a member of a residue class the next member is one modulus further. -/
theorem IsNext.eq_add {m r a b : Nat} (hm : 0 < m) (ha : a % m = r)
    (h : IsNext (· % m = r) a b) : b = a + m := by
  have hb : b % m = r := h.holds
  have hdvd : m ∣ b - a := (Nat.modEq_iff_dvd' (Nat.le_of_lt h.lt)).mp (ha.trans hb.symm)
  have hle : m ≤ b - a := Nat.le_of_dvd (Nat.sub_pos_of_lt h.lt) hdvd
  have hnot : ¬ a + m < b := fun hlt =>
    h.first (a + m) (by omega) hlt (by show (a + m) % m = r; rw [Nat.add_mod_right, ha])
  have := h.lt
  omega

/-- A list that goes up by `m` from entry to entry is a progression. -/
theorem getElem_of_isChain_add {m : Nat} {l : List Nat} (h : l.IsChain fun a b => b = a + m)
    {k : Nat} (hk : k < l.length) : l[k] = l[0] + m * k := by
  induction k with
  | zero => rw [Nat.mul_zero, Nat.add_zero]
  | succ k ih =>
    have hstep : l[k + 1] = l[k] + m := List.isChain_iff_getElem.mp h k hk
    rw [hstep, ih (by omega), Nat.mul_succ, Nat.add_assoc]

/-- Reading a list at `s`, `s + 1`, … modulo its length, once for each of its entries, rotates
it. -/
theorem map_getElem?_mod_eq_rotate {α : Type*} (l : List α) (s : Nat) :
    (List.range l.length).map (fun k => l[(s + k) % l.length]?) = (l.rotate s).map some := by
  apply List.ext_getElem (by simp)
  intro i hi _
  have hlen : i < l.length := by simpa using hi
  have hpos : (s + i) % l.length < l.length := Nat.mod_lt _ (by omega)
  simp only [List.getElem_map, List.getElem_range, List.getElem_rotate]
  rw [List.getElem?_eq_getElem hpos]
  simp only [Nat.add_comm s i]

end Residue
