import UptimeChecker.Laws.ConfigStore

/-!
# How often a config runs

A config held by a store is in the buckets of one residue class of seconds, and any window as wide
as its interval meets that class once: the config runs once an interval, wherever one starts to
count.

The robots check asks for one run in a window of that width as well, but the window is one of
minutes of the day, and the minute counter starts anew at midnight. A window that is open at
midnight has lost its run if the last one of the day was before it.
-/

namespace UptimeChecker

/-- The day a time lies in, counted from the epoch. -/
def DateTime.date (time : DateTime) : Int := time.timestamp / 86400

theorem DateTime.numSecondsFromMidnight_eq {time : DateTime} (h : 0 ≤ time.nanos) :
    time.numSecondsFromMidnight = time.secs % 86400 := by
  have hsecs := DateTime.secs_eq h
  unfold numSecondsFromMidnight
  omega

theorem DateTime.numSecondsFromMidnight_lt (time : DateTime) :
    time.numSecondsFromMidnight < 86400 := by
  unfold numSecondsFromMidnight
  omega

/-- A number of seconds later. -/
theorem DateTime.secs_of_add? {time later : DateTime} {k : Nat} (h : 0 ≤ time.nanos)
    (hadd : time.add? (k * nanosPerSec) = some later) :
    0 ≤ later.nanos ∧ later.secs = time.secs + k := by
  have hnanos := DateTime.nanos_of_add? hadd
  have hpos : 0 ≤ later.nanos := by
    rw [hnanos]
    unfold nanosPerSec
    omega
  have hsecs := DateTime.secs_eq h
  have hlater := DateTime.secs_eq hpos
  refine ⟨hpos, ?_⟩
  unfold timestamp nanosPerSec at *
  omega

/-- Within a span of the calendar every second has its time. -/
theorem DateTime.exists_add? {time : DateTime} {k n : Nat} (h : 0 ≤ time.nanos) (hk : k ≤ n)
    (hn : (time.add? (n * nanosPerSec)).isSome) :
    ∃ later, time.add? (k * nanosPerSec) = some later := by
  obtain ⟨last, hlast⟩ := Option.isSome_iff_exists.mp hn
  have hnanos := DateTime.nanos_of_add? hlast
  have hmax := last.lt_max
  unfold add? ofNanos? nanosPerSec at *
  rw [dif_pos (by omega)]
  exact ⟨_, rfl⟩

/-- The times of a day from the epoch on, by their second of the day. -/
theorem DateTime.secs_of_date {time today : DateTime} (hepoch : 0 ≤ today.nanos)
    (hdate : time.date = today.date) :
    0 ≤ time.nanos ∧
      time.secs = 86400 * (today.secs / 86400) + time.numSecondsFromMidnight := by
  have htoday := DateTime.secs_eq hepoch
  have hpos : 0 ≤ time.nanos := by
    unfold date timestamp nanosPerSec at *
    omega
  have hsecs := DateTime.secs_eq hpos
  refine ⟨hpos, ?_⟩
  unfold date numSecondsFromMidnight at *
  omega

/-- A day that has begun has all its seconds: the calendar ends with a day. -/
theorem DateTime.exists_of_date {today : DateTime} (hepoch : 0 ≤ today.nanos) {n : Nat}
    (hn : n < 86400) :
    ∃ time : DateTime, time.Aligned ∧ time.date = today.date ∧ time.numSecondsFromMidnight = n := by
  have htoday := DateTime.secs_eq hepoch
  have hmax := today.lt_max
  have hlt : 86400 * (today.secs / 86400) + n < 8210266876800 := by
    unfold timestamp nanosPerSec at htoday
    omega
  have hstamp : (ofSecs _ hlt).timestamp = (86400 * (today.secs / 86400) + n : Nat) :=
    Int.mul_ediv_cancel _ (by decide)
  refine ⟨.ofSecs _ hlt, ⟨_, Int.mul_comm _ _⟩, ?_, ?_⟩
  · unfold date
    rw [hstamp, ← htoday]
    omega
  · unfold numSecondsFromMidnight
    rw [hstamp]
    omega

/-- A time of the calendar on a whole second is given by its count of seconds. -/
theorem DateTime.eq_of_secs_eq {a b : DateTime} (ha : a.Aligned) (hb : b.Aligned)
    (ha0 : 0 ≤ a.nanos) (hb0 : 0 ≤ b.nanos) (h : a.secs = b.secs) : a = b := by
  apply DateTime.ext
  rw [nanos_eq_of_aligned ha ha0, nanos_eq_of_aligned hb hb0, h]

namespace ConfigStore

/-- The bucket of a tick contains the config. -/
def Due (store : ConfigStore) (config : CheckConfig) (tick : Tick) : Prop :=
  ∃ bucket, store.getConfigs tick = some bucket ∧ config ∈ bucket

variable {newV5 : NewV5} {ops : List (StoreOp × Instant)} {store : ConfigStore}
  {config : CheckConfig}

/-- A config a store holds is due where its slots say so. -/
theorem due_iff (hrun : run newV5 ops .new = some store)
    (hheld : store.configs[config.subscriptionId]? = some config) (time : DateTime) :
    store.Due config (Tick.fromTime time) ↔ config.dueAt newV5 (Tick.fromTime time) := by
  obtain ⟨reached, hreached, hrefines⟩ := run_refines ops (@new_refines newV5)
  cases hrun.symm.trans hreached
  obtain ⟨bucket, hbucket, hmem⟩ := getConfigs_refines hrefines time
  have hmap := (hrefines.configs config.subscriptionId).symm.trans hheld
  constructor
  · intro ⟨other, hother, hin⟩
    cases hbucket.symm.trans hother
    exact ((hmem config).mp hin).2
  · intro hdue
    exact ⟨bucket, hbucket, (hmem config).mpr ⟨hmap, hdue⟩⟩

/-- A store holds the config it was last given. -/
theorem exists_run_add (newV5 : NewV5) (config : CheckConfig) (now : Instant) :
    ∃ store, run newV5 [(.add config, now)] .new = some store ∧
      store.configs[config.subscriptionId]? = some config := by
  obtain ⟨store, hrun, hrefines⟩ := run_refines [(.add config, now)] (@new_refines newV5)
  refine ⟨store, hrun, ?_⟩
  rw [hrefines.configs]
  simp [StoreOp.applyMap]

end ConfigStore

/-! ## Once an interval -/

/-- **Check cadence.** The slots of a config are its residue class, each named once; of the ticks of
any window as wide as the interval one is due; and a due tick is followed by the next an interval
later. -/
theorem configStore_cadence (newV5 : NewV5) {ops : List (ConfigStore.StoreOp × Instant)}
    {store : ConfigStore} (hrun : ConfigStore.run newV5 ops .new = some store)
    {config : CheckConfig} (hheld : store.configs[config.subscriptionId]? = some config) :
    (config.slots newV5).Nodup ∧
    (∀ slot, slot ∈ config.slots newV5 ↔
      slot < maxCheckIntervalSecs ∧ slot ≡ config.firstSlot newV5 [MOD config.interval.secs]) ∧
    (∀ time : DateTime, 0 ≤ time.nanos →
      (time.add? ((config.interval.secs - 1 : Nat) * nanosPerSec)).isSome →
      ∃! k : Nat, k < config.interval.secs ∧ ∃ later, time.add? (k * nanosPerSec) = some later ∧
        store.Due config (Tick.fromTime later)) ∧
    ∀ time next : DateTime, time.Aligned → next.Aligned → 0 ≤ time.nanos →
      store.Due config (Tick.fromTime time) → store.Due config (Tick.fromTime next) →
      time.nanos < next.nanos →
      (∀ between : DateTime, between.Aligned → time.nanos < between.nanos →
        between.nanos < next.nanos → ¬ store.Due config (Tick.fromTime between)) →
      next.nanos = time.nanos + config.interval.secs * nanosPerSec := by
  have hdue := fun time => ConfigStore.due_iff hrun hheld time
  refine ⟨config.slots_nodup newV5, ?_, ?_, ?_⟩
  · intro slot
    rw [config.mem_slots_iff, Nat.ModEq, Nat.mod_eq_of_lt (config.firstSlot_lt newV5)]
  · intro time hepoch hcalendar
    have hiff : ∀ (k : Nat) later, time.add? (k * nanosPerSec) = some later →
        (store.Due config (Tick.fromTime later) ↔
          (time.secs + k) % config.interval.secs = config.firstSlot newV5) := by
      intro k later hadd
      obtain ⟨hlater, hsecs⟩ := DateTime.secs_of_add? hepoch hadd
      rw [hdue, config.dueAt_iff newV5 hlater, hsecs]
    obtain ⟨x, ⟨hlo, hhi, hmod⟩, hunique⟩ :=
      Residue.existsUnique_mem_window (config.firstSlot_lt newV5) time.secs
    have hk : x - time.secs < config.interval.secs := by omega
    have hx : time.secs + (x - time.secs) = x := Nat.add_sub_cancel' hlo
    obtain ⟨later, hadd⟩ := DateTime.exists_add? hepoch (Nat.le_sub_one_of_lt hk) hcalendar
    refine ⟨x - time.secs, ⟨hk, later, hadd, (hiff _ _ hadd).mpr (by rw [hx, hmod])⟩, ?_⟩
    intro k ⟨hklt, other, hother, hduek⟩
    have := hunique (time.secs + k)
      ⟨Nat.le_add_right _ _, Nat.add_lt_add_left hklt _, (hiff k other hother).mp hduek⟩
    omega
  · intro time next htime hnext hepoch hduetime hduenext hlt hnone
    have hepoch' : 0 ≤ next.nanos := Int.le_trans hepoch (Int.le_of_lt hlt)
    have hconsecutive : config.ConsecutiveDue newV5 [time, next] := by
      refine ⟨?_, ?_, ?_, .cons_cons hlt (.singleton _), .cons_cons ?_ (.singleton _)⟩
      · simp [htime, hnext]
      · simp [hepoch, hepoch']
      · simp [(hdue time).mp hduetime, (hdue next).mp hduenext]
      · intro between haligned hafter hbefore hbetween
        exact hnone between haligned hafter hbefore ((hdue between).mpr hbetween)
    have hsecs : next.secs = time.secs + config.interval.secs := by
      simpa using hconsecutive.isChain_secs
    rw [DateTime.nanos_eq_of_aligned hnext hepoch', DateTime.nanos_eq_of_aligned htime hepoch,
      hsecs]
    unfold nanosPerSec
    omega

/-- The default config in a store of its own: one of the first sixty seconds is due. -/
theorem configStore_cadence_default :
    ∃ store, ConfigStore.run constV5 [(.add CheckConfig.default, 0)] .new = some store ∧
      ∃! k : Nat, k < 60 ∧ ∃ later,
        (DateTime.ofSecs 0 (by decide)).add? (k * nanosPerSec) = some later ∧
        store.Due CheckConfig.default (Tick.fromTime later) := by
  obtain ⟨store, hrun, hheld⟩ := ConfigStore.exists_run_add constV5 CheckConfig.default 0
  exact ⟨store, hrun, (configStore_cadence constV5 hrun hheld).2.2.1 (.ofSecs 0 (by decide))
    (by decide) (by decide)⟩

/-! ## Once a day -/

namespace CheckConfig

variable {newV5 : NewV5} {config : CheckConfig} {time : DateTime}

/-- The minute of the day the robots check is asked for. -/
def robotsMinute (config : CheckConfig) : Nat :=
  config.subscriptionId.toNat % robotsTxtCheckIntervalMinutes

/-- Every interval is whole minutes, and divides the day. -/
theorem secs_eq_minutes (config : CheckConfig) :
    config.interval.secs = 60 * (config.interval.secs / 60) ∧ 0 < config.interval.secs / 60 ∧
      config.interval.secs / 60 ∣ robotsTxtCheckIntervalMinutes := by
  cases config.interval <;> decide

/-- The robots check runs in the interval that starts at its minute. -/
theorem shouldCheckRobots_iff :
    config.shouldCheckRobots (Tick.fromTime time) = true ↔
      config.robotsMinute ≤ time.numSecondsFromMidnight / 60 ∧
        time.numSecondsFromMidnight / 60 < config.robotsMinute + config.interval.secs / 60 := by
  have htime : (Tick.fromTime time).time = time := rfl
  have hminutes : (config.interval.secs : Int).tdiv 60 = (config.interval.secs / 60 : Nat) := rfl
  unfold shouldCheckRobots robotsMinute
  simp only [htime, hminutes, DateTime.minute, DateTime.hour, Bool.and_eq_true, decide_eq_true_eq]
  omega

/-- A due tick is told by its minute of the day and its second of the minute. -/
theorem dueAt_iff_minute (h : 0 ≤ time.nanos) :
    config.dueAt newV5 (Tick.fromTime time) ↔
      time.numSecondsFromMidnight / 60 % (config.interval.secs / 60) =
          config.firstSlot newV5 / 60 ∧
        time.numSecondsFromMidnight % 60 = config.firstSlot newV5 % 60 := by
  obtain ⟨hsecs, hpos, -⟩ := config.secs_eq_minutes
  have hday : time.numSecondsFromMidnight % config.interval.secs =
      time.secs % config.interval.secs := by
    rw [DateTime.numSecondsFromMidnight_eq h]
    apply Nat.mod_mod_of_dvd
    exact Nat.dvd_trans config.interval.secs_dvd (by decide)
  rw [config.dueAt_iff newV5 h, ← hday, hsecs, Nat.mod_mul, ← hsecs]
  have hmod : time.numSecondsFromMidnight % 60 < 60 := Nat.mod_lt _ (by decide)
  have hfirst := Nat.div_add_mod (config.firstSlot newV5) 60
  have hfirstmod : config.firstSlot newV5 % 60 < 60 := Nat.mod_lt _ (by decide)
  omega

/-- The day has its robots check unless the interval of the robots minute is cut by midnight before
the config's run in it. -/
theorem existsUnique_shouldCheckRobots_iff (newV5 : NewV5) (config : CheckConfig)
    {today : DateTime} (hepoch : 0 ≤ today.nanos) :
    (∃! time : DateTime, time.Aligned ∧ time.date = today.date ∧
      config.dueAt newV5 (Tick.fromTime time) ∧
      config.shouldCheckRobots (Tick.fromTime time) = true) ↔
    config.robotsMinute + config.interval.secs / 60 ≤
      config.firstSlot newV5 / 60 + robotsTxtCheckIntervalMinutes := by
  obtain ⟨hsecs, hpos, hdvd⟩ := config.secs_eq_minutes
  have hfirst : config.firstSlot newV5 / 60 < config.interval.secs / 60 := by
    have := config.firstSlot_lt newV5
    omega
  have hday : robotsTxtCheckIntervalMinutes = 1440 := rfl
  constructor
  · intro ⟨time, ⟨_, hdate, hdue, hrobots⟩, _⟩
    obtain ⟨hlo, hhi⟩ := shouldCheckRobots_iff.mp hrobots
    have hmod := (dueAt_iff_minute (DateTime.secs_of_date hepoch hdate).1).mp hdue
    have hlt := time.numSecondsFromMidnight_lt
    refine (Residue.mem_window_lt_iff hfirst hdvd hlo hhi hmod.1).mp ?_
    omega
  · intro hle
    obtain ⟨x, ⟨hlo, hhi, hmod⟩, hunique⟩ :=
      Residue.existsUnique_mem_window hfirst config.robotsMinute
    have hx := (Residue.mem_window_lt_iff hfirst hdvd hlo hhi hmod).mpr hle
    obtain ⟨time, haligned, hdate, hn⟩ :=
      DateTime.exists_of_date hepoch
      (show 60 * x + config.firstSlot newV5 % 60 < 86400 by omega)
    have hminute : time.numSecondsFromMidnight / 60 = x := by omega
    refine ⟨time, ⟨haligned, hdate, ?_, ?_⟩, ?_⟩
    · rw [dueAt_iff_minute (DateTime.secs_of_date hepoch hdate).1, hminute]
      exact ⟨hmod, by omega⟩
    · rw [shouldCheckRobots_iff, hminute]
      exact ⟨hlo, hhi⟩
    · intro other ⟨hother, hotherdate, hdue, hrobots⟩
      obtain ⟨hepoch', hothersecs⟩ := DateTime.secs_of_date hepoch hotherdate
      obtain ⟨htime', htimesecs⟩ := DateTime.secs_of_date hepoch hdate
      obtain ⟨holo, hohi⟩ := shouldCheckRobots_iff.mp hrobots
      have hodue := (dueAt_iff_minute hepoch').mp hdue
      have := hunique _ ⟨holo, hohi, hodue.1⟩
      apply DateTime.eq_of_secs_eq hother haligned hepoch' htime'
      omega

end CheckConfig

/-- The config of the source's robots test, under any id. -/
def CheckConfig.hourly (id : Nat) : CheckConfig :=
  { CheckConfig.default with subscriptionId := .fromU128 id, interval := .sixtyMinutes }

/-- On every day the robots check of a config a store holds runs exactly once, unless midnight cuts
its interval short. -/
theorem shouldCheckRobots_once_a_day_iff (newV5 : NewV5)
    {ops : List (ConfigStore.StoreOp × Instant)} {store : ConfigStore}
    (hrun : ConfigStore.run newV5 ops .new = some store) {config : CheckConfig}
    (hheld : store.configs[config.subscriptionId]? = some config) (today : DateTime)
    (hepoch : 0 ≤ today.nanos) :
    (∃! time : DateTime, time.Aligned ∧ time.date = today.date ∧
      store.Due config (Tick.fromTime time) ∧
      config.shouldCheckRobots (Tick.fromTime time) = true) ↔
    config.subscriptionId.toNat % robotsTxtCheckIntervalMinutes + config.interval.secs / 60 ≤
      config.firstSlot newV5 / 60 + robotsTxtCheckIntervalMinutes := by
  simp only [ConfigStore.due_iff hrun hheld]
  exact config.existsUnique_shouldCheckRobots_iff newV5 hepoch

/-- The id of that test has its robots check on the second day. -/
theorem shouldCheckRobots_once_a_day_iff_hourly :
    ∃ store, ConfigStore.run constV5 [(.add (.hourly 435), 0)] .new = some store ∧
      ∃! time : DateTime, time.Aligned ∧ time.date = 1 ∧
        store.Due (.hourly 435) (Tick.fromTime time) ∧
        (CheckConfig.hourly 435).shouldCheckRobots (Tick.fromTime time) = true := by
  obtain ⟨store, hrun, hheld⟩ := ConfigStore.exists_run_add constV5 (.hourly 435) 0
  refine ⟨store, hrun, (shouldCheckRobots_once_a_day_iff constV5 hrun hheld
    (.ofSecs 86400 (by decide)) (by decide)).mpr ?_⟩
  decide

/-- An hourly config whose robots minute is the last of the day has no robots check then. -/
theorem shouldCheckRobots_last_minute :
    ∃ store, ConfigStore.run constV5 [(.add (.hourly 1439), 0)] .new = some store ∧
      store.configs[(CheckConfig.hourly 1439).subscriptionId]? = some (.hourly 1439) ∧
      ¬ ∃! time : DateTime, time.Aligned ∧ time.date = 1 ∧
        store.Due (.hourly 1439) (Tick.fromTime time) ∧
        (CheckConfig.hourly 1439).shouldCheckRobots (Tick.fromTime time) = true := by
  obtain ⟨store, hrun, hheld⟩ := ConfigStore.exists_run_add constV5 (.hourly 1439) 0
  refine ⟨store, hrun, hheld, ?_⟩
  intro hunique
  simp only [ConfigStore.due_iff hrun hheld] at hunique
  have hle := ((CheckConfig.hourly 1439).existsUnique_shouldCheckRobots_iff constV5
    (show 0 ≤ (DateTime.ofSecs 86400 (by decide)).nanos by decide)).mp hunique
  exact absurd hle (by decide)

end UptimeChecker
