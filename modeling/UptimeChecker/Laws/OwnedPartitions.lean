import UptimeChecker.Lib.Residue
import UptimeChecker.RedisConfigProvider

/-!
# Every partition has one owner

A checker owns the partitions whose number leaves its own number when divided by the number of
checkers, and so the checkers together own every partition, each of them once.
-/

namespace UptimeChecker.RedisConfigProvider

/-- A stepped range yields a progression, as long as none of its values overflows. -/
private theorem map_toNat_stepValues {step : UInt16} {count : Nat} {value : UInt16}
    (h : ∀ k < count, value.toNat + step.toNat * k < 2 ^ 16) :
    (stepValues step count value).map UInt16.toNat =
      (List.range count).map fun k => value.toNat + step.toNat * k := by
  induction count generalizing value with
  | zero => rfl
  | succ count ih =>
    rw [List.range_succ_eq_map, List.map_cons, List.map_map]
    show value.toNat :: _ = _
    congr 1
    cases count with
    | zero => rfl
    | succ count =>
      have hnext : (value + step).toNat = value.toNat + step.toNat := by
        have := h 1 (by omega)
        rw [UInt16.toNat_add, Nat.mod_eq_of_lt]
        omega
      rw [ih]
      · apply List.map_congr_left
        intro k _
        simp only [hnext, Function.comp_apply, Nat.succ_eq_add_one, Nat.mul_add, Nat.mul_one]
        omega
      · intro k hk
        have := h (k + 1) (by omega)
        rw [hnext]
        rw [Nat.mul_add] at this
        omega

/-- The stepped range is the residue class of its start, cut to the range. -/
private theorem mem_stepBy {start stop step x : UInt16} (h : start < step) :
    x ∈ stepBy start stop step ↔ x < stop ∧ x.toNat % step.toNat = start.toNat := by
  have hr : start.toNat < step.toNat := h
  have hmap : (stepBy start stop step).map UInt16.toNat =
      (List.range ((stop.toNat - start.toNat + step.toNat - 1) / step.toNat)).map
        fun k => start.toNat + step.toNat * k := by
    apply map_toNat_stepValues
    intro k hk
    have hmem := (Residue.mem_progression_ceil hr).mp
      (List.mem_map.mpr ⟨k, List.mem_range.mpr hk, rfl⟩)
    exact Nat.lt_trans hmem.1 stop.toNat_lt
  have hinj : x ∈ stepBy start stop step ↔
      x.toNat ∈ (stepBy start stop step).map UInt16.toNat := by
    rw [List.mem_map]
    constructor
    · intro hx
      exact ⟨x, hx, rfl⟩
    · intro ⟨y, hy, hxy⟩
      rwa [← UInt16.toNat_inj.mp hxy]
  rw [hinj, hmap, Residue.mem_progression_ceil hr, UInt16.lt_iff_toNat_lt]

/-- A checker number out of range is refused. -/
theorem determineOwnedPartitions_eq_none {config : Config}
    (h : config.totalCheckers ≤ config.checkerNumber) : determineOwnedPartitions config = none :=
  if_pos h

/-- A checker owns the partitions that leave its number. -/
theorem determineOwnedPartitions_eq_some {config : Config}
    (h : config.checkerNumber < config.totalCheckers) :
    ∃ owned, determineOwnedPartitions config = some owned ∧ ∀ partition, partition ∈ owned ↔
      partition < config.configProviderRedisTotalPartitions ∧
        partition.toNat % config.totalCheckers.toNat = config.checkerNumber.toNat := by
  refine ⟨_, if_neg (UInt16.not_le.mpr h), ?_⟩
  intro partition
  rw [List.mem_toFinset, mem_stepBy h]

/-- The checkers cover all partitions, and no two of them share one. -/
theorem determineOwnedPartitions_exact_cover {totalCheckers : UInt16} (hone : 1 ≤ totalCheckers)
    (totalPartitions : UInt16) :
    (∃ owned : UInt16 → Finset UInt16,
      (∀ checkerNumber < totalCheckers,
        determineOwnedPartitions ⟨checkerNumber, totalCheckers, totalPartitions⟩ =
          some (owned checkerNumber)) ∧
      (∀ a < totalCheckers, ∀ b < totalCheckers, a ≠ b → Disjoint (owned a) (owned b)) ∧
      ∀ partition, (∃ checkerNumber < totalCheckers, partition ∈ owned checkerNumber) ↔
        partition < totalPartitions) ∧
    ∀ checkerNumber, totalCheckers ≤ checkerNumber →
      determineOwnedPartitions ⟨checkerNumber, totalCheckers, totalPartitions⟩ = none := by
  have hpos : 0 < totalCheckers.toNat := UInt16.le_iff_toNat_le.mp hone
  let owned checkerNumber :=
    (determineOwnedPartitions ⟨checkerNumber, totalCheckers, totalPartitions⟩).getD ∅
  have howned : ∀ checkerNumber < totalCheckers,
      determineOwnedPartitions ⟨checkerNumber, totalCheckers, totalPartitions⟩ =
        some (owned checkerNumber) ∧
      ∀ partition, partition ∈ owned checkerNumber ↔ partition < totalPartitions ∧
        partition.toNat % totalCheckers.toNat = checkerNumber.toNat := by
    intro checkerNumber hlt
    obtain ⟨set, hset, hmem⟩ := @determineOwnedPartitions_eq_some
      ⟨checkerNumber, totalCheckers, totalPartitions⟩ hlt
    have heq : owned checkerNumber = set := by simp only [owned, hset, Option.getD_some]
    rw [heq]
    exact ⟨hset, hmem⟩
  refine ⟨⟨owned, fun a ha => (howned a ha).1, ?_, ?_⟩, ?_⟩
  · intro a ha b hb hne
    apply Finset.disjoint_left.mpr
    intro partition hina hinb
    have hmoda := ((howned a ha).2 partition).mp hina
    have hmodb := ((howned b hb).2 partition).mp hinb
    exact hne (UInt16.toNat_inj.mp (hmoda.2.symm.trans hmodb.2))
  · intro partition
    constructor
    · intro ⟨checkerNumber, hlt, hmem⟩
      exact (((howned checkerNumber hlt).2 partition).mp hmem).1
    · intro hlt
      -- The owner is the checker whose number the partition leaves.
      have hmod : partition.toNat % totalCheckers.toNat < totalCheckers.toNat :=
        Nat.mod_lt _ hpos
      have hfits : (UInt16.ofNat (partition.toNat % totalCheckers.toNat)).toNat =
          partition.toNat % totalCheckers.toNat :=
        UInt16.toNat_ofNat_of_lt (Nat.lt_trans hmod totalCheckers.toNat_lt)
      have howner : UInt16.ofNat (partition.toNat % totalCheckers.toNat) < totalCheckers := by
        rw [UInt16.lt_iff_toNat_lt, hfits]
        exact hmod
      exact ⟨_, howner, ((howned _ howner).2 partition).mpr ⟨hlt, hfits.symm⟩⟩
  · intro checkerNumber hle
    exact determineOwnedPartitions_eq_none hle

/-- With three checkers and all of `u16`, the last step of each passes the maximum. -/
theorem determineOwnedPartitions_exact_cover_three :
    (∃ owned : UInt16 → Finset UInt16,
      (∀ checkerNumber < 3,
        determineOwnedPartitions ⟨checkerNumber, 3, 65535⟩ = some (owned checkerNumber)) ∧
      (∀ a < 3, ∀ b < 3, a ≠ b → Disjoint (owned a) (owned b)) ∧
      ∀ partition, (∃ checkerNumber < 3, partition ∈ owned checkerNumber) ↔
        partition < 65535) ∧
    ∀ checkerNumber, 3 ≤ checkerNumber →
      determineOwnedPartitions ⟨checkerNumber, 3, 65535⟩ = none :=
  determineOwnedPartitions_exact_cover (by decide) 65535

/-- A case of the source's test. -/
example : determineOwnedPartitions ⟨9, 10, 100⟩ =
    some {9, 19, 29, 39, 49, 59, 69, 79, 89, 99} := by decide

end UptimeChecker.RedisConfigProvider
