import Mathlib.Data.List.Chain
import UptimeChecker.Lib.Residue
import UptimeChecker.Types.CheckConfig

/-!
# When and where a config runs

The slots of a config are one residue class: every interval divides the hour, so the class of the
first slot modulo the interval, cut to the hour, is the whole list (`mem_slots_iff`), and a tick at
or after the epoch lands in one of them exactly when its second lies in the same class
(`dueAt_iff`). Two ticks that follow each other in that class are one interval apart, so the
interval count of `shouldRun` goes up by one between them, and the region index walks the list in
order whatever its length.

The seed of the walk is a 128-bit hash. What keeps the `u128` addition from overflowing is the
version nibble of the UUID: it clears a bit far above any count of intervals the calendar holds.
-/

namespace UptimeChecker

theorem CheckInterval.secs_pos (interval : CheckInterval) : 0 < interval.secs := by
  cases interval <;> decide

/-- Every interval divides the longest one. -/
theorem CheckInterval.secs_dvd (interval : CheckInterval) :
    interval.secs ∣ maxCheckIntervalSecs := by
  cases interval <;> decide

/-- The whole seconds of a time at or after the epoch. -/
def DateTime.secs (time : DateTime) : Nat := time.timestamp.toNat

theorem DateTime.secs_eq {time : DateTime} (h : 0 ≤ time.nanos) :
    (time.secs : Int) = time.timestamp := by
  unfold DateTime.secs timestamp nanosPerSec
  omega

/-- At or after the epoch the cast to `usize` keeps the second, so the bucket is the second modulo
the hour. -/
theorem Tick.fromTime_index {time : DateTime} (h : 0 ≤ time.nanos) :
    (Tick.fromTime time).index = time.secs % maxCheckIntervalSecs := by
  have hsecs := DateTime.secs_eq h
  have hbound := time.timestamp_bounds
  show (time.timestamp % 2 ^ 64).toNat % maxCheckIntervalSecs = _
  rw [← hsecs, Int.emod_eq_of_lt (by omega) (by omega), Int.toNat_natCast]

theorem Tick.fromTime_index_lt (time : DateTime) :
    (Tick.fromTime time).index < maxCheckIntervalSecs :=
  Nat.mod_lt _ (by decide)

namespace CheckConfig

variable (newV5 : NewV5) (config : CheckConfig)

theorem firstSlot_lt : config.firstSlot newV5 < config.interval.secs :=
  Nat.mod_lt _ config.interval.secs_pos

/-- The slots are the residue class of the first one, cut to the hour. -/
theorem mem_slots_iff (i : Nat) :
    i ∈ config.slots newV5 ↔
      i < maxCheckIntervalSecs ∧ i % config.interval.secs = config.firstSlot newV5 :=
  Residue.mem_progression config.interval.secs_pos config.interval.secs_dvd
    (config.firstSlot_lt newV5)

theorem slots_nodup : (config.slots newV5).Nodup :=
  Residue.nodup_progression config.interval.secs_pos

/-- The tick falls in one of the config's slots, so its bucket holds the config while a store
does. -/
def dueAt (tick : Tick) : Prop := tick.index ∈ config.slots newV5

instance (tick : Tick) : Decidable (config.dueAt newV5 tick) :=
  inferInstanceAs (Decidable (_ ∈ config.slots newV5))

/-- A tick at or after the epoch is due when its second lies in the class of the first slot. The
hour of buckets drops out, the interval being one of its divisors. -/
theorem dueAt_iff {time : DateTime} (h : 0 ≤ time.nanos) :
    config.dueAt newV5 (Tick.fromTime time) ↔
      time.secs % config.interval.secs = config.firstSlot newV5 := by
  unfold dueAt
  rw [mem_slots_iff, Tick.fromTime_index h, Nat.mod_mod_of_dvd _ config.interval.secs_dvd]
  exact and_iff_right (Nat.mod_lt _ (by decide))

/-! ## The running region -/

theorem intervalCount_eq {time : DateTime} (h : 0 ≤ time.nanos) :
    config.intervalCount (Tick.fromTime time) = time.secs / config.interval.secs := by
  have hsecs := DateTime.secs_eq h
  have hbound := time.timestamp_bounds
  have hle : time.secs / config.interval.secs ≤ time.secs := Nat.div_le_self _ _
  show (time.timestamp.tdiv config.interval.secs % 2 ^ 128).toNat = _
  rw [← hsecs, Int.tdiv_eq_ediv_of_nonneg (by omega), ← Int.natCast_ediv,
    Int.emod_eq_of_lt (Int.natCast_nonneg _) (by omega), Int.toNat_natCast]

/-- The version nibble keeps the seed far enough below `2 ^ 128` for any count of intervals. -/
theorem intervalCount_add_seed_lt {newV5 : NewV5} (hV5 : ∀ ns bytes, (newV5 ns bytes).IsV5)
    {time : DateTime} (h : 0 ≤ time.nanos) :
    config.intervalCount (Tick.fromTime time) + config.subscriptionSeed newV5 < 2 ^ 128 := by
  have hsecs := DateTime.secs_eq h
  have hbound := time.timestamp_bounds
  have hle : time.secs / config.interval.secs ≤ time.secs := Nat.div_le_self _ _
  have hversion := (hV5 subscriptionShouldRunNamespace config.subscriptionId.asBytes).1
  have hseed := (newV5 subscriptionShouldRunNamespace config.subscriptionId.asBytes).isLt
  rw [config.intervalCount_eq h]
  unfold subscriptionSeed
  omega

theorem runningRegionIdx_eq {newV5 : NewV5} (hV5 : ∀ ns bytes, (newV5 ns bytes).IsV5)
    {time : DateTime} (h : 0 ≤ time.nanos) (count : Nat) :
    config.runningRegionIdx newV5 (Tick.fromTime time) count =
      (time.secs / config.interval.secs + config.subscriptionSeed newV5) % count := by
  unfold runningRegionIdx
  rw [Nat.mod_eq_of_lt (config.intervalCount_add_seed_lt hV5 h), config.intervalCount_eq h]

/-- With a schedule mode and regions, a region runs when it is the one the index names. -/
theorem shouldRun_iff {regions : List String} (hmode : config.regionScheduleMode.isSome = true)
    (hactive : config.activeRegions = some regions) (hne : regions ≠ []) (tick : Tick)
    (name : String) :
    config.shouldRun newV5 tick name = true ↔
      regions[config.runningRegionIdx newV5 tick regions.length]? = some name := by
  have hnotNone : config.regionScheduleMode.isNone = false := by
    rw [← Option.not_isSome, hmode, Bool.not_true]
  have hkeep : (!regions.isEmpty) = true := by
    rw [Bool.not_eq_true', List.isEmpty_eq_false_iff]; exact hne
  simp only [shouldRun, hnotNone, hactive, Option.filter_some, hkeep, ↓reduceIte,
    Bool.false_eq_true, decide_eq_true_eq]

/-- The times of consecutive ticks whose buckets contain the config: whole seconds, each the first
one due after the one before it. -/
structure ConsecutiveDue (times : List DateTime) : Prop where
  aligned : ∀ time ∈ times, time.Aligned
  fromEpoch : ∀ time ∈ times, 0 ≤ time.nanos
  due : ∀ time ∈ times, config.dueAt newV5 (Tick.fromTime time)
  increasing : times.IsChain fun a b => a.nanos < b.nanos
  noneBetween : times.IsChain fun a b => ∀ time : DateTime, time.Aligned → a.nanos < time.nanos →
    time.nanos < b.nanos → ¬ config.dueAt newV5 (Tick.fromTime time)

end CheckConfig

/-- A whole second from the epoch to a time of the calendar is one itself. -/
theorem DateTime.exists_secs {b : DateTime} {s : Nat} (hsb : s ≤ b.secs) (hb : 0 ≤ b.nanos) :
    ∃ time : DateTime, time.Aligned ∧ 0 ≤ time.nanos ∧ time.nanos = s * nanosPerSec ∧
      time.secs = s := by
  have hbsecs := DateTime.secs_eq hb
  have hmax := b.lt_max
  unfold timestamp nanosPerSec at *
  refine ⟨.ofSecs s (by omega), ⟨s, Int.mul_comm _ _⟩,
    by show (0 : Int) ≤ s * 1000000000; omega, rfl, ?_⟩
  show ((s : Int) * 1000000000 / 1000000000).toNat = s
  rw [Int.mul_ediv_cancel _ (by decide), Int.toNat_natCast]

theorem DateTime.nanos_eq_of_aligned {time : DateTime} (h : time.Aligned) (h0 : 0 ≤ time.nanos) :
    time.nanos = time.secs * nanosPerSec := by
  obtain ⟨k, hk⟩ := h
  have hsecs := DateTime.secs_eq h0
  unfold timestamp nanosPerSec at *
  omega

namespace CheckConfig

variable {newV5 : NewV5} {config : CheckConfig}

/-- Consecutive due ticks are consecutive members of the residue class. -/
theorem ConsecutiveDue.isChain_secs {times : List DateTime}
    (h : config.ConsecutiveDue newV5 times) :
    (times.map DateTime.secs).IsChain (fun s u => u = s + config.interval.secs) := by
  rw [List.isChain_map]
  induction times with
  | nil => exact .nil
  | cons a rest ih =>
    have htail : config.ConsecutiveDue newV5 rest :=
      ⟨fun t ht => h.aligned t (List.mem_cons_of_mem _ ht),
        fun t ht => h.fromEpoch t (List.mem_cons_of_mem _ ht),
        fun t ht => h.due t (List.mem_cons_of_mem _ ht), h.increasing.tail, h.noneBetween.tail⟩
    cases rest with
    | nil => exact .singleton a
    | cons b rest =>
      refine .cons_cons ?_ (ih htail)
      have ha0 := h.fromEpoch a (by simp)
      have hb0 := h.fromEpoch b (by simp)
      have hda := (config.dueAt_iff newV5 ha0).mp (h.due a (by simp))
      have hdb := (config.dueAt_iff newV5 hb0).mp (h.due b (by simp))
      have hlt : a.secs < b.secs := by
        have := (List.isChain_cons_cons.mp h.increasing).1
        have hna := DateTime.nanos_eq_of_aligned (h.aligned a (by simp)) ha0
        have hnb := DateTime.nanos_eq_of_aligned (h.aligned b (by simp)) hb0
        unfold nanosPerSec at *
        omega
      refine Residue.IsNext.eq_add config.interval.secs_pos hda ⟨hlt, hdb, ?_⟩
      intro s hs hsb hsr
      -- a member of the class strictly between would be a due tick between the two
      obtain ⟨time, haligned, h0, hnanos, hsecs⟩ :=
        DateTime.exists_secs (Nat.le_of_lt hsb) hb0
      have hna := DateTime.nanos_eq_of_aligned (h.aligned a (by simp)) ha0
      have hnb := DateTime.nanos_eq_of_aligned (h.aligned b (by simp)) hb0
      refine (List.isChain_cons_cons.mp h.noneBetween).1 time haligned ?_ ?_
        ((config.dueAt_iff newV5 h0).mpr (hsecs ▸ hsr))
      · unfold nanosPerSec at *; omega
      · unfold nanosPerSec at *; omega

/-- Over consecutive due ticks the regions take their turns in the order of the list: reading the
index at each of `regions.length` ticks reads a rotation of the list. -/
theorem ConsecutiveDue.regions_rotate (hV5 : ∀ ns bytes, (newV5 ns bytes).IsV5)
    {regions : List String} {times : List DateTime} (h : config.ConsecutiveDue newV5 times)
    (hlength : times.length = regions.length) :
    ∃ shift, times.map (fun time =>
        regions[config.runningRegionIdx newV5 (Tick.fromTime time) regions.length]?) =
      (regions.rotate shift).map some := by
  cases times with
  | nil => exact ⟨0, by rw [List.eq_nil_of_length_eq_zero hlength.symm]; rfl⟩
  | cons first rest =>
    refine ⟨first.secs / config.interval.secs + config.subscriptionSeed newV5, ?_⟩
    rw [← Residue.map_getElem?_mod_eq_rotate, ← hlength]
    apply List.ext_getElem (by simp)
    intro k hk _
    have hk' : k < (first :: rest).length := by simpa using hk
    have hsecs : ((first :: rest)[k]).secs = first.secs + config.interval.secs * k := by
      have := Residue.getElem_of_isChain_add h.isChain_secs (k := k) (by simpa using hk')
      simpa only [List.getElem_map, List.getElem_cons_zero] using this
    have hcount : (first.secs + config.interval.secs * k) / config.interval.secs =
        first.secs / config.interval.secs + k :=
      Nat.add_mul_div_left _ _ config.interval.secs_pos
    simp only [List.getElem_map, List.getElem_range]
    rw [config.runningRegionIdx_eq hV5 (h.fromEpoch _ (List.getElem_mem hk')), hsecs, hcount,
      hlength]
    congr 2
    omega

end CheckConfig

/-! ## Round-robin scheduling -/

/-- The config the source's tests start from, the `Default` of `CheckConfig` there. -/
def CheckConfig.default : CheckConfig where
  subscriptionId := .fromU128 0
  interval := .oneMinute
  timeout := 10 * nanosPerSec
  url := "https://example.com"

/-- The hash that answers one version 5 UUID for every name: slot 28 of every minute. -/
def constV5 : NewV5 := fun _ _ => .fromU128 (5 * 2 ^ 76 + 2 * 2 ^ 62)

theorem constV5_isV5 (ns : Uuid) (bytes : List UInt8) : (constV5 ns bytes).IsV5 := by
  unfold constV5 Uuid.IsV5
  decide

/-- Every tick at or after the epoch is run by exactly one region of the list, the `u128` sum does
not overflow, and as many consecutive due ticks as there are regions visit the list in its cyclic
order. -/
theorem shouldRun_round_robin (newV5 : NewV5) (hV5 : ∀ ns bytes, (newV5 ns bytes).IsV5)
    (config : CheckConfig) (regions : List String)
    (hmode : config.regionScheduleMode.isSome = true)
    (hactive : config.activeRegions = some regions) (hne : regions ≠ []) (hnodup : regions.Nodup) :
    (∀ time : DateTime, time.Aligned → 0 ≤ time.nanos →
      config.intervalCount (Tick.fromTime time) + config.subscriptionSeed newV5 < 2 ^ 128 ∧
      ∃! region, region ∈ regions ∧ ∀ name,
        config.shouldRun newV5 (Tick.fromTime time) name = true ↔ name = region) ∧
    ∀ times : List DateTime, times.length = regions.length → config.ConsecutiveDue newV5 times →
      ∃ picks : List String, picks ~r regions ∧ picks.Nodup ∧
        List.Forall₂ (fun time region => ∀ name,
          config.shouldRun newV5 (Tick.fromTime time) name = true ↔ name = region) times picks := by
  have hpick : ∀ tick name, config.shouldRun newV5 tick name = true ↔
      regions[config.runningRegionIdx newV5 tick regions.length]? = some name :=
    config.shouldRun_iff newV5 hmode hactive hne
  constructor
  · intro time _ h0
    refine ⟨config.intervalCount_add_seed_lt hV5 h0, ?_⟩
    have hidx : config.runningRegionIdx newV5 (Tick.fromTime time) regions.length <
        regions.length :=
      Nat.mod_lt _ (List.length_pos_iff.mpr hne)
    refine ⟨regions[config.runningRegionIdx newV5 (Tick.fromTime time) regions.length],
      ⟨List.getElem_mem hidx, ?_⟩, ?_⟩
    · intro name
      rw [hpick, List.getElem?_eq_getElem hidx, Option.some.injEq, eq_comm]
    · intro other hother
      have := (hpick _ _).mp ((hother.2 other).mpr rfl)
      rw [List.getElem?_eq_getElem hidx] at this
      exact (Option.some.inj this).symm
  · intro times hlength hdue
    obtain ⟨shift, hshift⟩ := hdue.regions_rotate hV5 hlength
    refine ⟨regions.rotate shift, List.IsRotated.symm ⟨shift, rfl⟩,
      List.nodup_rotate.mpr hnodup, ?_⟩
    rw [List.forall₂_iff_get]
    refine ⟨by simpa using hlength, ?_⟩
    intro k hk hk' name
    have hat := congrArg (·[k]?) hshift
    simp only [List.getElem?_map, List.getElem?_eq_getElem hk, List.getElem?_eq_getElem hk',
      Option.map_some, Option.some.injEq] at hat
    rw [hpick, List.get_eq_getElem, List.get_eq_getElem, hat, Option.some.injEq, eq_comm]

/-- Two regions take turns at the two consecutive ticks 28 and 88. -/
theorem shouldRun_round_robin_two_regions :
    let config := { CheckConfig.default with
      activeRegions := some ["us_west", "us_east"], regionScheduleMode := some .roundRobin }
    let times := [DateTime.ofSecs 28 (by decide), DateTime.ofSecs 88 (by decide)]
    (∃! region, region ∈ ["us_west", "us_east"] ∧ ∀ name,
      config.shouldRun constV5 (Tick.fromTime (.ofSecs 28 (by decide))) name = true ↔
        name = region) ∧
    ∃ picks : List String, picks ~r ["us_west", "us_east"] ∧ picks.Nodup ∧
      List.Forall₂ (fun time region => ∀ name,
        config.shouldRun constV5 (Tick.fromTime time) name = true ↔ name = region) times picks := by
  intro config times
  have h := shouldRun_round_robin constV5 constV5_isV5 config ["us_west", "us_east"] rfl rfl
    (by decide) (by decide)
  refine ⟨(h.1 (.ofSecs 28 (by decide)) ⟨28, rfl⟩ (by decide)).2, h.2 times rfl ?_⟩
  refine ⟨by simp only [times, List.forall_mem_cons]; exact ⟨⟨28, rfl⟩, ⟨88, rfl⟩, by simp⟩,
    by simp only [times, List.forall_mem_cons]; exact ⟨by decide, by decide, by simp⟩,
    by simp only [times, List.forall_mem_cons]; exact ⟨by decide, by decide, by simp⟩,
    .cons_cons (by decide) (.singleton _), .cons_cons ?_
      (.singleton _)⟩
  intro time haligned hlo hhi hdue
  have hlo' : (28 * 1000000000 : Int) < time.nanos := hlo
  have hhi' : time.nanos < (88 * 1000000000 : Int) := hhi
  have h0 : 0 ≤ time.nanos := by omega
  have hslot : config.firstSlot constV5 = 28 := by
    simp only [CheckConfig.firstSlot, constV5, Uuid.fromU128, BitVec.toNat_ofNat]
    decide
  have hclass : time.secs % 60 = config.firstSlot constV5 := (config.dueAt_iff constV5 h0).mp hdue
  have hsecs := DateTime.nanos_eq_of_aligned haligned h0
  unfold nanosPerSec at hsecs
  omega

end UptimeChecker
