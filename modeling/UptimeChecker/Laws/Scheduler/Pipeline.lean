import UptimeChecker.Laws.CheckExecutor
import UptimeChecker.Laws.ConfigStore
import UptimeChecker.Scheduler

/-!
# The pipeline of ticks

A tick goes from the loop through the bundle channel into a batch of the processor, and ends as the
last tick of a batch and then as a watermark, or is lost on the way. `State.ticks` lists the ticks
written and those still on their way, from the oldest on. Every step keeps that list a subsequence
of the ticks scheduled, which are one second apart from the start time on (`Pipeline`).
-/

namespace UptimeChecker

/-- The bundle the loop is filling. -/
def SchedulerPhase.current : SchedulerPhase → List ExecutionBundle
  | .queueing _ tick _ results => [⟨tick, results⟩]
  | _ => []

/-- The ticks the loop has begun, while it runs. -/
def SchedulerPhase.begun : SchedulerPhase → Option Nat
  | .ticking k => some k
  | .queueing k _ _ _ => some (k + 1)
  | _ => none

/-- The bundles of the batch that are still to be handled. -/
def ProcessorPhase.batch : ProcessorPhase → List ExecutionBundle
  | .handling batch _ => batch
  | _ => []

/-- The last tick of the batch that was accepted. -/
def ProcessorPhase.accepted : ProcessorPhase → List Tick
  | .handling _ lastTick => lastTick.toList
  | _ => []

namespace Scheduler

variable {sched : Scheduler} {s s' : State} {a : Action}

/-! ## Ticks -/

/-- The `k`-th tick is the start time and `k` seconds. -/
theorem tickAt_eq_some {k : Nat} {tick : Tick} (h : sched.tickAt k = some tick) :
    tick = Tick.fromTime tick.time ∧ tick.time.nanos = sched.start.nanos + k * nanosPerSec := by
  obtain ⟨time, htime, rfl⟩ := Option.map_eq_some_iff.mp h
  refine ⟨rfl, ?_⟩
  show time.nanos = _
  rw [DateTime.nanos_of_add? htime, intervalTick, Nat.add_sub_cancel_left, Int.natCast_mul]
  rfl

/-- From a whole second on, the ticks are the whole seconds. -/
theorem tickAt_ofSecs {start k : Nat} (hstart : start < 8210266876800)
    (h : sched.start = .ofSecs start hstart) (hk : start + k < 8210266876800) :
    sched.tickAt k = some (Tick.fromTime (.ofSecs (start + k) hk)) := by
  have hnanos : (sched.start.nanos + (sched.intervalTick k - sched.startAt : Nat) : Int) =
      ((start + k : Nat) : Int) * 1000000000 := by
    rw [intervalTick, Nat.add_sub_cancel_left, h]
    show (start : Int) * 1000000000 + ((k * 1000000000 : Nat) : Int) = _
    omega
  have htime : sched.start.add? (sched.intervalTick k - sched.startAt : Nat) =
      some (.ofSecs (start + k) hk) := by
    unfold DateTime.add? DateTime.ofNanos?
    simp only [hnanos]
    rw [dif_pos ⟨(DateTime.ofSecs (start + k) hk).min_le, (DateTime.ofSecs (start + k) hk).lt_max⟩]
    rfl
  rw [tickAt, htime, Option.map_some]

/-- These ticks are the first ones of the schedule, each once and in order. -/
def Schedule (sched : Scheduler) (ticks : List Tick) : Prop :=
  ∀ k, ticks[k]?.isSome → ticks[k]? = sched.tickAt k

theorem Schedule.append {ticks : List Tick} {tick : Tick} (h : Schedule sched ticks)
    (htick : sched.tickAt ticks.length = some tick) : Schedule sched (ticks ++ [tick]) := by
  intro k hk
  rcases Nat.lt_trichotomy k ticks.length with hlt | rfl | hgt
  · rw [List.getElem?_append_left hlt]
    exact h k (by rw [List.getElem?_eq_getElem hlt]; rfl)
  · rw [List.getElem?_concat_length, htick]
  · rw [List.getElem?_eq_none
      (by simp only [List.length_append, List.length_singleton]; omega)] at hk
    cases hk

/-- Ticks of the schedule are in order. -/
theorem Schedule.pairwise {ticks : List Tick} (h : Schedule sched ticks) :
    ticks.Pairwise fun a b => a.time.nanos < b.time.nanos := by
  have hget : ∀ k (hk : k < ticks.length), sched.tickAt k = some ticks[k] := fun k hk => by
    have := h k (by rw [List.getElem?_eq_getElem hk]; rfl)
    rw [← this, List.getElem?_eq_getElem hk]
  rw [List.pairwise_iff_getElem]
  intro i j hi hj hij
  have h₁ := (tickAt_eq_some (hget i hi)).2
  have h₂ := (tickAt_eq_some (hget j hj)).2
  unfold nanosPerSec at *
  omega

/-- The store holds one config: it is the only one ever scheduled, at the ticks it is due. -/
def Holds (store : ConfigStore) (config : CheckConfig) (newV5 : NewV5) : Prop :=
  ∀ time : DateTime, ∃ bucket, store.getConfigs (Tick.fromTime time) = some bucket ∧
    Enumerates (if config.dueAt newV5 (Tick.fromTime time) then [config] else []) bucket

/-- Adding a config to an empty store. -/
theorem exists_singleton_store (newV5 : NewV5) (config : CheckConfig) :
    ∃ store, ConfigStore.new.addConfig newV5 0 config = some store ∧
      Holds store config newV5 := by
  obtain ⟨store, hadd, hrefines⟩ :=
    ConfigStore.addConfig_refines (@ConfigStore.new_refines newV5) 0 config
  refine ⟨store, hadd, ?_⟩
  intro time
  obtain ⟨bucket, hbucket, hmem⟩ := ConfigStore.getConfigs_refines hrefines time
  refine ⟨bucket, hbucket, ?_, ?_⟩
  · split
    · exact List.nodup_singleton _
    · exact List.nodup_nil
  · intro other
    rw [hmem, Function.update_apply]
    constructor
    · intro h
      split at h
      · rename_i hdue
        cases List.mem_singleton.mp h
        exact ⟨if_pos rfl, hdue⟩
      · cases h
    · intro ⟨heq, hdue⟩
      split at heq
      · cases heq
        rw [if_pos hdue]
        exact List.mem_singleton.mpr rfl
      · cases heq

/-! ## What is on its way -/

/-- The bundles on their way, from the oldest on. -/
def State.bundles (s : State) : List ExecutionBundle :=
  s.processor.batch ++ s.tickComplete ++ s.scheduler.current

/-- The ticks handled: written, or accepted and about to be. -/
def State.handled (s : State) : List Tick := s.written ++ s.processor.accepted

/-- The ticks written and those on their way. -/
def State.ticks (s : State) : List Tick := s.handled ++ s.bundles.map (·.tick)

/-- A step schedules one more tick, or moves and loses ticks on their way. -/
theorem Step.ticks (h : Step sched s a s') :
    (∃ k tick, s.scheduler.begun = some k ∧ sched.tickAt k = some tick ∧
      s'.scheduler.begun = some (k + 1) ∧ s'.ticks = s.ticks ++ [tick] ∧
      s'.scheduled = s.scheduled ++ [tick]) ∨
    (∀ k ∈ s'.scheduler.begun, k ∈ s.scheduler.begun) ∧ s'.ticks.Sublist s.ticks ∧
      s'.scheduled = s.scheduled := by
  cases h with
  | @tick k tick bucket configs phase htick hbucket hconfigs =>
    refine .inl ⟨k, tick, by rw [phase]; rfl, htick, rfl, ?_, rfl⟩
    simp [State.ticks, State.handled, State.bundles, phase, SchedulerPhase.current]
  | skipCheck phase | queueCheck phase | sendBundle phase =>
    refine .inr ⟨by simp [phase, SchedulerPhase.begun], ?_, rfl⟩
    simp [State.ticks, State.handled, State.bundles, phase, SchedulerPhase.current]
  | queueCheckError phase | sendBundleError phase | shutdown phase | joinProcessor phase =>
    refine .inr ⟨by simp [SchedulerPhase.begun], ?_, rfl⟩
    simp [State.ticks, State.handled, State.bundles, phase, SchedulerPhase.current]
  -- the processor only moves bundles along, or loses them
  | recvMany phase | recvNone phase | accept phase | breakOff phase | executorDown phase
  | badTimestamp phase | writeWatermark _ phase | writeWatermarkFatal _ phase =>
    refine .inr ⟨fun _ h => h, ?_, rfl⟩
    simp [State.ticks, State.handled, State.bundles, phase, ProcessorPhase.batch,
      ProcessorPhase.accepted]
  | addConfig | removeConfig | startCheck | finishCheck | cancel =>
    exact .inr ⟨fun _ h => h, List.Sublist.refl _, rfl⟩

/-- What every reachable state keeps: the executor is well formed, every check queued has a channel,
the ticks scheduled are the first of the schedule, and those written or on their way are a
subsequence of them. -/
structure Pipeline (sched : Scheduler) (s : State) : Prop where
  executor : s.executor.WellFormed
  queued : ∀ q ∈ s.queued, q.2 < s.executor.opened
  schedule : Schedule sched s.scheduled
  begun : ∀ k ∈ s.scheduler.begun, s.scheduled.length = k
  ticks : s.ticks.Sublist s.scheduled

/-- What a step does to the executor: it stays well formed, and channels that are not pending keep
their message. -/
theorem Step.executor (h : Step sched s a s') (hwf : s.executor.WellFormed) :
    s'.executor.WellFormed ∧ CheckExecutor.Evolves s.executor s'.executor := by
  cases h with
  | queueCheck phase run h => exact ⟨hwf.queueCheck h, CheckExecutor.evolves_queueCheck h⟩
  | startCheck h => exact ⟨hwf.start h, CheckExecutor.evolves_start h⟩
  | finishCheck h => exact ⟨hwf.finish h, hwf.evolves_finish h⟩
  | cancel h => exact ⟨hwf.cancel, hwf.evolves_cancel⟩
  | queueCheckError => exact ⟨hwf.dropReceivers _, CheckExecutor.evolves_dropReceivers _ _⟩
  | sendBundleError => exact ⟨hwf.dropReceivers _, CheckExecutor.evolves_dropReceivers _ _⟩
  | accept => exact ⟨hwf.dropReceivers _, CheckExecutor.evolves_dropReceivers _ _⟩
  | breakOff => exact ⟨hwf.dropReceivers _, CheckExecutor.evolves_dropReceivers _ _⟩
  | executorDown => exact ⟨hwf.dropReceivers _, CheckExecutor.evolves_dropReceivers _ _⟩
  | writeWatermarkFatal => exact ⟨hwf.dropReceivers _, CheckExecutor.evolves_dropReceivers _ _⟩
  | _ => exact ⟨hwf, CheckExecutor.Evolves.refl _⟩

/-- What a step does to the record of queued checks: it may add one, of the tick being queued. -/
theorem Step.queued (h : Step sched s a s') :
    s'.queued = s.queued ∨
    ∃ k tick configs results config, s.scheduler = .queueing k tick (config :: configs) results ∧
      s'.scheduler = .queueing k tick configs (results ++ [s.executor.opened]) ∧
      s'.queued = s.queued ++ [(tick, s.executor.opened)] ∧
      s'.executor.opened = s.executor.opened + 1 ∧ s'.processor = s.processor ∧
      s'.tickComplete = s.tickComplete ∧ s'.written = s.written := by
  cases h with
  | @queueCheck k tick config configs results executor check phase run h =>
    obtain ⟨-, rfl, rfl⟩ := CheckExecutor.queueCheck_eq_some h
    exact .inr ⟨k, tick, configs, results, config, phase, rfl, rfl, rfl, rfl, rfl, rfl⟩
  | _ => exact .inl rfl

theorem pipeline_initial (configStore : ConfigStore) (watermark : Option Int64) :
    Pipeline sched (initial configStore watermark) where
  executor := CheckExecutor.wellFormed_new
  queued q hq := (List.not_mem_nil hq).elim
  schedule k hk := by cases hk
  begun k hk := by cases hk; rfl
  ticks := List.Sublist.refl _

theorem Pipeline.step (hp : Pipeline sched s) (h : Step sched s a s') : Pipeline sched s' := by
  obtain ⟨hwf, hev⟩ := h.executor hp.executor
  have hqueued : ∀ q ∈ s'.queued, q.2 < s'.executor.opened := by
    intro q hq
    rcases h.queued with heq | ⟨_, _, _, _, _, _, _, heq, hopened, _⟩
    · rw [heq] at hq
      exact Nat.lt_of_lt_of_le (hp.queued q hq) hev.opened
    · rw [heq, List.mem_append, List.mem_singleton] at hq
      rcases hq with hq | rfl
      · exact Nat.lt_of_lt_of_le (hp.queued q hq) hev.opened
      · rw [hopened]
        exact Nat.lt_succ_self _
  rcases h.ticks with ⟨k, tick, hbegun, htick, hbegun', hticks, hscheduled⟩ |
    ⟨hbegun, hticks, hscheduled⟩
  · have hlen := hp.begun k hbegun
    refine ⟨hwf, hqueued, ?_, ?_, ?_⟩
    · rw [hscheduled]
      exact hp.schedule.append (hlen ▸ htick)
    · intro j hj
      rw [hbegun'] at hj
      cases hj
      rw [hscheduled, List.length_append, hlen, List.length_singleton]
    · rw [hticks, hscheduled]
      exact hp.ticks.append (List.Sublist.refl _)
  · refine ⟨hwf, hqueued, hscheduled ▸ hp.schedule, ?_, ?_⟩
    · intro k hk
      rw [hscheduled]
      exact hp.begun k (hbegun k hk)
    · rw [hscheduled]
      exact hticks.trans hp.ticks

theorem pipeline_of_reachable (hs : sched.system.Reachable s) : Pipeline sched s := by
  refine hs.invariant ?_ fun s a s' hp h => hp.step h.2
  rintro s ⟨configStore, watermark, rfl⟩
  exact pipeline_initial configStore watermark

/-- The ticks written and those on their way are in order. -/
theorem Pipeline.pairwise (hp : Pipeline sched s) :
    s.ticks.Pairwise fun a b => a.time.nanos < b.time.nanos :=
  hp.schedule.pairwise.sublist hp.ticks

end Scheduler

end UptimeChecker
