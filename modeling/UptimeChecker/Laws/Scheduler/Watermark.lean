import UptimeChecker.Laws.Scheduler.Pipeline

/-!
# What a watermark promises

A watermark is read back as "everything up to here has been done". The invariant behind that is an
account of every check queued: it has been resolved, or its bundle is still on its way, or it is
lost, and then no tick handled so far is at or after its own and no later one will be.

The account balances as long as the processor accepts no bundle after it has broken off a batch. It
can: the loop goes on after the break, and a bundle whose checks are all resolved, or one without
checks, is accepted although checks of earlier bundles were thrown away.
-/

namespace UptimeChecker.Scheduler

variable {sched : Scheduler} {s s' : State} {a : Action}

/-- The check was resolved by `record_result`. -/
def State.Resolved (s : State) (check : Nat) : Prop :=
  ∃ result, (s.executor.oneshots check).message = .sent result

/-- Every check queued for a tick at or before one written as watermark has been resolved. -/
def WatermarkSound (s : State) : Prop :=
  ∀ tick ∈ s.written, ∀ q ∈ s.queued, q.1.time.nanos ≤ tick.time.nanos → s.Resolved q.2

/-- The processor has broken off a batch, or has finished. -/
def State.Stopped (s : State) : Prop := s.brokenOff = true ∨ s.processor = .finished

/-- No tick that could still be accepted is at or after the given one. -/
def State.Closed (s : State) (tick : Tick) : Prop :=
  s.Stopped ∨
    s.scheduler = .returned ∧ ∀ b ∈ s.bundles, b.tick.time.nanos < tick.time.nanos

/-- What has become of a check queued. -/
inductive Account (s : State) (q : Tick × Nat) : Prop where
  | resolved (h : s.Resolved q.2)
  | carried (b : ExecutionBundle) (onWay : b ∈ s.bundles) (tick : b.tick = q.1)
      (check : q.2 ∈ b.checks)
  | lost (after : ∀ t ∈ s.handled, t.time.nanos < q.1.time.nanos) (closed : s.Closed q.1)

/-- The processor accepts no bundle after it has broken off a batch. -/
def AcceptsUnbroken (s : State) (a : Action) : Prop := a = .accept → s.brokenOff = false

/-- Every tick handled is before every one still on its way. -/
theorem Pipeline.handled_lt (hp : Pipeline sched s) {t : Tick} (ht : t ∈ s.handled)
    {b : ExecutionBundle} (hb : b ∈ s.bundles) : t.time.nanos < b.tick.time.nanos :=
  (List.pairwise_append.mp hp.pairwise).2.2 t ht b.tick (List.mem_map_of_mem hb)

/-- The bundles on their way are in the order of their ticks. -/
theorem Pipeline.bundles_pairwise (hp : Pipeline sched s) :
    s.bundles.Pairwise fun a b => a.tick.time.nanos < b.tick.time.nanos := by
  have h := (List.pairwise_append.mp hp.pairwise).2.1
  rwa [List.pairwise_map] at h

/-- While the loop runs, nothing but the processor can have closed a tick. -/
private theorem State.Closed.of_running {tick : Tick} (h : s.Closed tick)
    (hrunning : s.scheduler ≠ .returned) (hstopped : s.Stopped → s'.Stopped) : s'.Closed tick :=
  .inl (hstopped (h.resolve_right fun hr => hrunning hr.1))

/-- Nothing on its way is lost, and nothing more is handled. -/
private theorem Account.mono {q : Tick × Nat} (h : Account s q)
    (hresolved : s.Resolved q.2 → s'.Resolved q.2)
    (hbundles : ∀ b ∈ s.bundles, ∃ b' ∈ s'.bundles, b'.tick = b.tick ∧ b.checks ⊆ b'.checks)
    (hhandled : s'.handled ⊆ s.handled) (hclosed : s.Closed q.1 → s'.Closed q.1) :
    Account s' q := by
  cases h with
  | resolved h => exact .resolved (hresolved h)
  | carried b onWay tick check =>
    obtain ⟨b', hb', htick, hchecks⟩ := hbundles b onWay
    exact .carried b' hb' (htick.trans tick) (hchecks check)
  | lost after closed => exact .lost (fun t ht => after t (hhandled ht)) (hclosed closed)

/-- Some bundles on their way are discarded, after which no later tick will be accepted. -/
private theorem Account.discard {q : Tick × Nat} (hp : Pipeline sched s) (h : Account s q)
    (hresolved : s.Resolved q.2 → s'.Resolved q.2)
    (hbundles : ∀ b ∈ s.bundles, b ∈ s'.bundles ∨ s'.Closed b.tick)
    (hhandled : s'.handled ⊆ s.handled) (hclosed : s.Closed q.1 → s'.Closed q.1) :
    Account s' q := by
  cases h with
  | resolved h => exact .resolved (hresolved h)
  | carried b onWay tick check =>
    rcases hbundles b onWay with hb | hc
    · exact .carried b hb tick check
    · refine .lost ?_ (tick ▸ hc)
      intro t ht
      rw [← tick]
      exact hp.handled_lt (hhandled ht) onWay
  | lost after closed => exact .lost (fun t ht => after t (hhandled ht)) (hclosed closed)

/-- The next bundle of the batch is accepted. -/
private theorem Account.accept {q : Tick × Nat} (h : Account s q) {bundle : ExecutionBundle}
    {batch : List ExecutionBundle} {lastTick : Option Tick}
    (phase : s.processor = .handling (bundle :: batch) lastTick)
    (resolved : ∀ check ∈ bundle.checks, s.Resolved check) (unbroken : s.brokenOff = false)
    (hresolved : s.Resolved q.2 → s'.Resolved q.2)
    (hbundles : ∀ b ∈ s.bundles, b = bundle ∨ b ∈ s'.bundles)
    (hbundles' : s'.bundles ⊆ s.bundles)
    (hhandled : ∀ t ∈ s'.handled, t ∈ s.handled ∨ t = bundle.tick)
    (hscheduler : s'.scheduler = s.scheduler) : Account s' q := by
  cases h with
  | resolved h => exact .resolved (hresolved h)
  | carried b onWay tick check =>
    rcases hbundles b onWay with rfl | hb
    · exact .resolved (hresolved (resolved q.2 check))
    · exact .carried b hb tick check
  | lost after closed =>
    have hstopped : ¬ s.Stopped := by
      rintro (hbroken | hfinished)
      · rw [unbroken] at hbroken
        cases hbroken
      · rw [phase] at hfinished
        cases hfinished
    obtain ⟨hreturned, hpast⟩ := closed.resolve_left hstopped
    have hbundle : bundle ∈ s.bundles := by simp [State.bundles, phase, ProcessorPhase.batch]
    refine .lost ?_ (.inr ⟨hscheduler.trans hreturned, fun b hb =>
      hpast b (hbundles' hb)⟩)
    intro t ht
    rcases hhandled t ht with ht | rfl
    · exact after t ht
    · exact hpast bundle hbundle

/-- The account of a check is kept across a step. -/
private theorem Account.step {q : Tick × Nat} (hp : Pipeline sched s) (hq : q ∈ s.queued)
    (h : Account s q) (hok : AcceptsUnbroken s a) (hstep : Step sched s a s') : Account s' q := by
  have hresolved : s.Resolved q.2 → s'.Resolved q.2 := fun ⟨result, hr⟩ =>
    ⟨result, (hstep.executor hp.executor).2.sent (hp.queued q hq) hr⟩
  have hbefore := hp.bundles_pairwise
  cases hstep with
  | tick phase =>
    refine h.mono hresolved (fun b hb => ⟨b, ?_, rfl, fun _ h => h⟩) (fun _ h => h)
      fun hc => hc.of_running (by rw [phase]; simp) id
    simp only [State.bundles, phase, SchedulerPhase.current, List.append_nil] at hb ⊢
    exact List.mem_append_left _ hb
  | skipCheck phase =>
    refine h.mono hresolved (fun b hb => ⟨b, ?_, rfl, fun _ h => h⟩) (fun _ h => h)
      fun hc => hc.of_running (by rw [phase]; simp) id
    simpa only [State.bundles, phase, SchedulerPhase.current] using hb
  | @queueCheck k tick config configs results executor check phase run h' =>
    refine h.mono hresolved ?_ (fun _ h => h)
      fun hc => hc.of_running (by rw [phase]; simp) id
    intro b hb
    simp only [State.bundles, phase, SchedulerPhase.current, List.mem_append,
      List.mem_singleton] at hb
    rcases hb with hb | rfl
    · exact ⟨b, by simpa only [State.bundles, List.mem_append] using .inl hb, rfl, fun _ h => h⟩
    · exact ⟨⟨tick, results ++ [check]⟩, by simp [State.bundles, SchedulerPhase.current], rfl,
        List.subset_append_left _ _⟩
  | sendBundle phase =>
    refine h.mono hresolved (fun b hb => ⟨b, ?_, rfl, fun _ h => h⟩) (fun _ h => h)
      fun hc => hc.of_running (by rw [phase]; simp) id
    simpa [State.bundles, phase, SchedulerPhase.current] using hb
  | @queueCheckError k tick config configs results phase run h' =>
    simp only [State.bundles, phase, SchedulerPhase.current] at hbefore
    refine h.discard hp hresolved ?_ (fun _ h => h)
      fun hc => hc.of_running (by rw [phase]; simp) id
    intro b hb
    simp only [State.bundles, phase, SchedulerPhase.current, List.mem_append,
      List.mem_singleton] at hb
    rcases hb with hb | rfl
    · exact .inl (by simpa only [State.bundles, SchedulerPhase.current, List.append_nil,
        List.mem_append] using hb)
    · refine .inr (.inr ⟨rfl, ?_⟩)
      intro b hb
      simp only [State.bundles, SchedulerPhase.current, List.append_nil] at hb
      exact (List.pairwise_append.mp hbefore).2.2 b hb _ (List.mem_singleton.mpr rfl)
  | sendBundleError phase gone =>
    refine h.discard hp hresolved ?_ (fun _ h => h)
      fun hc => hc.of_running (by rw [phase]; simp) id
    intro b hb
    exact .inr (.inl (.inr gone))
  | shutdown phase =>
    refine h.mono hresolved (fun b hb => ⟨b, ?_, rfl, fun _ h => h⟩) (fun _ h => h)
      fun hc => hc.of_running (by rw [phase]; simp) id
    simpa only [State.bundles, phase, SchedulerPhase.current] using hb
  | joinProcessor phase =>
    refine h.mono hresolved (fun b hb => ⟨b, ?_, rfl, fun _ h => h⟩) (fun _ h => h)
      fun hc => hc.of_running (by rw [phase]; simp) id
    simpa only [State.bundles, phase, SchedulerPhase.current] using hb
  | @recvMany n phase =>
    have hbundles : ∀ b, b ∈ s.bundles ↔ b ∈ State.bundles { s with
        processor := .handling (s.tickComplete.take n) none
        tickComplete := s.tickComplete.drop n } := fun b => by
      simp [State.bundles, phase, ProcessorPhase.batch]
    refine h.mono hresolved (fun b hb => ⟨b, (hbundles b).mp hb, rfl, fun _ h => h⟩) ?_ ?_
    · simp [State.handled, phase, ProcessorPhase.accepted]
    · rintro (hs | ⟨hr, hpast⟩)
      · exact .inl (hs.imp_right fun hf => by rw [phase] at hf; cases hf)
      · exact .inr ⟨hr, fun b hb => hpast b ((hbundles b).mpr hb)⟩
  | recvNone phase empty =>
    refine h.mono hresolved (fun b hb => ⟨b, ?_, rfl, fun _ h => h⟩) ?_
      fun _ => .inl (.inr rfl)
    · simpa [State.bundles, phase, ProcessorPhase.batch] using hb
    · simp [State.handled, phase, ProcessorPhase.accepted]
  | @accept bundle batch lastTick phase resolved =>
    refine h.accept phase resolved (hok rfl) hresolved ?_ ?_ ?_ rfl
    · intro b hb
      simpa [State.bundles, phase, ProcessorPhase.batch] using hb
    · intro b hb
      simp only [State.bundles, ProcessorPhase.batch, phase, List.mem_append,
        List.mem_cons] at hb ⊢
      exact hb.imp_left fun hb => hb.imp_left .inr
    · intro t ht
      simp only [State.handled, ProcessorPhase.accepted, List.mem_append, Option.mem_toList,
        Option.some.injEq] at ht ⊢
      exact ht.imp .inl Eq.symm
  | @breakOff bundle batch lastTick phase =>
    refine h.discard hp hresolved ?_ ?_ fun _ => .inl (.inl rfl)
    · intro b hb
      exact .inr (.inl (.inl rfl))
    · simp [State.handled, phase, ProcessorPhase.accepted]
  | executorDown phase =>
    refine h.discard hp hresolved ?_ ?_ fun _ => .inl (.inr rfl)
    · intro b hb
      exact .inr (.inl (.inr rfl))
    · simp [State.handled, phase, ProcessorPhase.accepted]
  | badTimestamp phase =>
    refine h.mono hresolved (fun b hb => ⟨b, ?_, rfl, fun _ h => h⟩) ?_ ?_
    · simpa [State.bundles, phase, ProcessorPhase.batch] using hb
    · simp [State.handled, phase, ProcessorPhase.accepted]
    · rintro (hs | ⟨hr, hpast⟩)
      · exact .inl (hs.imp_right fun hf => by rw [phase] at hf; cases hf)
      · refine .inr ⟨hr, fun b hb => hpast b ?_⟩
        simpa [State.bundles, phase, ProcessorPhase.batch] using hb
  | writeWatermark outcome phase =>
    refine h.mono hresolved (fun b hb => ⟨b, ?_, rfl, fun _ h => h⟩) ?_ ?_
    · simpa [State.bundles, phase, ProcessorPhase.batch] using hb
    · simp [State.handled, phase, ProcessorPhase.accepted]
    · rintro (hs | ⟨hr, hpast⟩)
      · exact .inl (hs.imp_right fun hf => by rw [phase] at hf; cases hf)
      · refine .inr ⟨hr, fun b hb => hpast b ?_⟩
        simpa [State.bundles, phase, ProcessorPhase.batch] using hb
  | writeWatermarkFatal outcome phase =>
    refine h.discard hp hresolved ?_ ?_ fun _ => .inl (.inr rfl)
    · intro b hb
      exact .inr (.inl (.inr rfl))
    · simp [State.handled, phase, ProcessorPhase.accepted]
  -- The provider and the executor touch neither bundles nor ticks.
  | _ => exact h.mono hresolved (fun b hb => ⟨b, hb, rfl, fun _ h => h⟩) (fun _ h => h) id

/-- A check just queued is carried by the bundle being filled. -/
private theorem accounts_step (hp : Pipeline sched s) (h : ∀ q ∈ s.queued, Account s q)
    (hok : AcceptsUnbroken s a) (hstep : Step sched s a s') : ∀ q ∈ s'.queued, Account s' q := by
  intro q hq
  rcases hstep.queued with heq | ⟨k, tick, configs, results, config, -, hphase, heq, -⟩
  · rw [heq] at hq
    exact (h q hq).step hp hq hok hstep
  · rw [heq, List.mem_append, List.mem_singleton] at hq
    rcases hq with hq | rfl
    · exact (h q hq).step hp hq hok hstep
    · refine .carried ⟨tick, results ++ [s.executor.opened]⟩ ?_ rfl ?_
      · simp [State.bundles, hphase, SchedulerPhase.current]
      · simp

/-- Where the account of every check balances, watermarks are sound. -/
private theorem sound_of_accounts (hp : Pipeline sched s) (h : ∀ q ∈ s.queued, Account s q) :
    WatermarkSound s := by
  intro tick htick q hq hle
  have hhandled : tick ∈ s.handled := List.mem_append_left _ htick
  cases h q hq with
  | resolved h => exact h
  | carried b onWay htick check =>
    have hlt := hp.handled_lt hhandled onWay
    rw [htick] at hlt
    omega
  | lost after closed =>
    have hlt := after tick hhandled
    omega

/-- In every run in which the processor accepts no bundle after it has broken off a batch, every
watermark is sound. -/
theorem watermarkSound_of_unbroken (sched : Scheduler) (s : State)
    (hs : (sched.system.guarded AcceptsUnbroken).Reachable s) : WatermarkSound s := by
  apply sound_of_accounts (pipeline_of_reachable hs.of_guarded)
  refine hs.invariant_of (Q := Pipeline sched) (fun s hs => pipeline_of_reachable hs.of_guarded)
    ?_ fun s a s' hp h hstep => accounts_step hp h hstep.1 hstep.2.2
  rintro s ⟨configStore, watermark, rfl⟩ q hq
  cases hq

/-! ## A watermark past a lost check -/

/-- A scheduler that starts at a given second, with one retry and no concurrency limit. -/
def startingAt (start : Nat) (h : start < 8210266876800) : Scheduler :=
  ⟨constV5, "us", ⟨0, 1, "us"⟩, .ofSecs start h, 0⟩

/-- The tick of a whole second. -/
def tickOfSecs (n : Nat) (h : n < 8210266876800) : Tick := Tick.fromTime (.ofSecs n h)

/-- With one config in the store, a tick schedules it or nothing. -/
theorem step_tick_of_holds {start k : Nat} {hstart : start < 8210266876800} {config : CheckConfig}
    (hstore : Holds s.configStore config constV5) (hphase : s.scheduler = .ticking k)
    (hk : start + k < 8210266876800) (configs : List CheckConfig)
    (hdue : (if config.dueAt constV5 (tickOfSecs (start + k) hk) then [config] else []) = configs) :
    Step (startingAt start hstart) s .tick
      { s with
        scheduler := .queueing k (tickOfSecs (start + k) hk) configs []
        scheduled := s.scheduled ++ [tickOfSecs (start + k) hk] } := by
  obtain ⟨bucket, hbucket, henum⟩ := hstore (.ofSecs (start + k) hk)
  exact .tick hphase (tickAt_ofSecs hstart rfl hk) hbucket (hdue ▸ henum)

/-- A bundle without checks is complete at once. -/
theorem step_accept_empty {tick : Tick} {batch : List ExecutionBundle} {lastTick : Option Tick}
    (phase : s.processor = .handling (⟨tick, []⟩ :: batch) lastTick) :
    Step sched s .accept
      { s with
        processor := .handling batch (some tick)
        executor := s.executor.dropReceivers [] } :=
  .accept phase fun _ h => (List.not_mem_nil h).elim

/-- An executor with one check queued. -/
def oneQueued (tick : Tick) : CheckExecutor :=
  ⟨[.new .uptime tick .default false 0], true, [], 1,
    fun i => if i = 0 then ⟨.pending, true⟩ else ⟨.dropped, false⟩, [], false⟩

/-- What `do_check` reads when the checker answers a result with a given status. -/
def readingsAt (now : DateTime) (check : ScheduledCheck) (status : CheckStatus) : CheckReadings :=
  ⟨now, now, 0, 0,
    { CheckExecutor.missedFrom check "us" now 0 0 with status, statusReason := none }, none⟩

/-- A watermark can jump over a lost check. Ticks 27 and 28 come in one batch; the check of tick 28
is dropped with the queue, so the batch is broken off and tick 27 written. Tick 29 has no checks: it
is accepted, and written. -/
theorem watermark_jumps : ¬ ∀ (sched : Scheduler) (s : State),
    sched.system.Reachable s → WatermarkSound s := by
  intro h
  obtain ⟨store, hadd, hstore⟩ := exists_singleton_store constV5 CheckConfig.default
  let t27 := tickOfSecs 27 (by decide)
  let t28 := tickOfSecs 28 (by decide)
  let t29 := tickOfSecs 29 (by decide)
  let e1 := oneQueued t28
  let e2 := (e1.dropReceivers []).cancel
  let e3 := e2.dropReceivers [0]
  let sched := startingAt 27 (by decide)
  have h0 : sched.system.Reachable (initial .new none) := .init ⟨_, _, rfl⟩
  have h1 : sched.system.Reachable (initial store none) := h0.step ⟨rfl, .addConfig hadd⟩
  -- Two ticks: the first has no checks, the second has one.
  have h2 : sched.system.Reachable ⟨store, .queueing 0 t27 [] [], [], .receiving, .new, none,
      [t27], [], [], false⟩ :=
    h1.step ⟨rfl, step_tick_of_holds hstore rfl (by decide : 27 + 0 < _) [] (by decide)⟩
  have h3 : sched.system.Reachable ⟨store, .ticking 1, [⟨t27, []⟩], .receiving, .new, none,
      [t27], [], [], false⟩ :=
    h2.step ⟨rfl, .sendBundle rfl nofun⟩
  have h4 : sched.system.Reachable ⟨store, .queueing 1 t28 [.default] [], [⟨t27, []⟩], .receiving,
      .new, none, [t27, t28], [], [], false⟩ :=
    h3.step ⟨rfl, step_tick_of_holds hstore rfl (by decide : 27 + 1 < _) [.default] (by decide)⟩
  have h5 : sched.system.Reachable ⟨store, .queueing 1 t28 [] [0], [⟨t27, []⟩], .receiving,
      e1, none, [t27, t28], [(t28, 0)], [], false⟩ :=
    h4.step ⟨rfl, @Step.queueCheck sched _ 1 t28 .default [] [] e1 0 rfl rfl rfl⟩
  have h6 : sched.system.Reachable ⟨store, .ticking 2, [⟨t27, []⟩, ⟨t28, [0]⟩], .receiving,
      e1, none, [t27, t28], [(t28, 0)], [], false⟩ :=
    h5.step ⟨rfl, .sendBundle rfl nofun⟩
  -- Both in one batch, which is broken off at the second.
  have h7 : sched.system.Reachable ⟨store, .ticking 2, [],
      .handling [⟨t27, []⟩, ⟨t28, [0]⟩] none, e1, none, [t27, t28], [(t28, 0)], [], false⟩ :=
    h6.step ⟨rfl, .recvMany rfl (by decide : 0 < 2) (by decide) (Nat.le_refl 2)⟩
  have h8 : sched.system.Reachable ⟨store, .ticking 2, [], .handling [⟨t28, [0]⟩] (some t27),
      e1.dropReceivers [], none, [t27, t28], [(t28, 0)], [], false⟩ :=
    h7.step ⟨rfl, step_accept_empty rfl⟩
  have h9 : sched.system.Reachable ⟨store, .ticking 2, [], .handling [⟨t28, [0]⟩] (some t27),
      e2, none, [t27, t28], [(t28, 0)], [], false⟩ :=
    h8.step ⟨rfl, .cancel rfl (.inl rfl)⟩
  have hdropped : (e2.oneshots 0).message = .dropped := rfl
  have h10 : sched.system.Reachable ⟨store, .ticking 2, [], .handling [] (some t27),
      e3, none, [t27, t28], [(t28, 0)], [], true⟩ := by
    refine h9.step ⟨rfl, @Step.breakOff sched _ ⟨t28, [0]⟩ [] (some t27) rfl
      ?_ ⟨0, List.mem_singleton.mpr rfl, hdropped⟩⟩
    intro check hcheck
    rw [List.mem_singleton.mp hcheck, hdropped]
    nofun
  have h11 : sched.system.Reachable ⟨store, .ticking 2, [], .receiving,
      e3, some 27000000000, [t27, t28], [(t28, 0)], [t27], true⟩ :=
    h10.step ⟨rfl, .writeWatermark .ok rfl rfl rfl⟩
  -- The next batch has a bundle without checks.
  have h12 : sched.system.Reachable ⟨store, .queueing 2 t29 [] [], [], .receiving,
      e3, some 27000000000, [t27, t28, t29], [(t28, 0)], [t27], true⟩ :=
    h11.step ⟨rfl, step_tick_of_holds hstore rfl (by decide : 27 + 2 < _) [] (by decide)⟩
  have h13 : sched.system.Reachable ⟨store, .ticking 3, [⟨t29, []⟩], .receiving,
      e3, some 27000000000, [t27, t28, t29], [(t28, 0)], [t27], true⟩ :=
    h12.step ⟨rfl, .sendBundle rfl nofun⟩
  have h14 : sched.system.Reachable ⟨store, .ticking 3, [], .handling [⟨t29, []⟩] none,
      e3, some 27000000000, [t27, t28, t29], [(t28, 0)], [t27], true⟩ :=
    h13.step ⟨rfl, .recvMany rfl (by decide : 0 < 1) (by decide) (Nat.le_refl 1)⟩
  have h15 : sched.system.Reachable ⟨store, .ticking 3, [], .handling [] (some t29),
      e3.dropReceivers [], some 27000000000, [t27, t28, t29], [(t28, 0)], [t27], true⟩ :=
    h14.step ⟨rfl, step_accept_empty rfl⟩
  have h16 : sched.system.Reachable ⟨store, .ticking 3, [], .receiving,
      e3.dropReceivers [], some 29000000000, [t27, t28, t29], [(t28, 0)], [t27, t29], true⟩ :=
    h15.step ⟨rfl, .writeWatermark .ok rfl rfl rfl⟩
  obtain ⟨result, hresult⟩ := h _ _ h16 t29 (List.mem_cons_of_mem _ (List.mem_singleton.mpr rfl))
    (t28, 0) (List.mem_singleton.mpr rfl) (by decide)
  rw [CheckExecutor.message_dropReceivers, CheckExecutor.message_dropReceivers, hdropped] at hresult
  cases hresult

/-- Tick 28 with its check resolved and its time written, without a break. -/
theorem watermarkSound_resolved_check :
    ∃ s, ((startingAt 28 (by decide)).system.guarded AcceptsUnbroken).Reachable s ∧
      tickOfSecs 28 (by decide) ∈ s.written ∧ (tickOfSecs 28 (by decide), 0) ∈ s.queued ∧
      WatermarkSound s := by
  obtain ⟨store, hadd, hstore⟩ := exists_singleton_store constV5 CheckConfig.default
  let t28 := tickOfSecs 28 (by decide)
  let check := ScheduledCheck.new .uptime t28 .default false 0
  let e1 := oneQueued t28
  let e2 : CheckExecutor := { e1 with queue := [], running := [check] }
  let readings := readingsAt t28.time check .success
  let e3 := CheckExecutor.doCheck ⟨0, 1, "us"⟩ { e2 with running := [] } check readings
  let sched := startingAt 28 (by decide)
  let sys := sched.system.guarded AcceptsUnbroken
  have h0 : sys.Reachable (initial .new none) := .init ⟨_, _, rfl⟩
  have h1 : sys.Reachable (initial store none) := h0.step ⟨fun _ => rfl, rfl, .addConfig hadd⟩
  have h2 : sys.Reachable ⟨store, .queueing 0 t28 [.default] [], [], .receiving, .new, none,
      [t28], [], [], false⟩ :=
    h1.step ⟨fun _ => rfl, rfl,
      step_tick_of_holds hstore rfl (by decide : 28 + 0 < _) [.default] (by decide)⟩
  have h3 : sys.Reachable ⟨store, .queueing 0 t28 [] [0], [], .receiving, e1, none,
      [t28], [(t28, 0)], [], false⟩ :=
    h2.step ⟨fun _ => rfl, rfl, @Step.queueCheck sched _ 0 t28 .default [] [] e1 0 rfl rfl rfl⟩
  have h4 : sys.Reachable ⟨store, .ticking 1, [⟨t28, [0]⟩], .receiving, e1, none,
      [t28], [(t28, 0)], [], false⟩ :=
    h3.step ⟨fun _ => rfl, rfl, .sendBundle rfl nofun⟩
  have h5 : sys.Reachable ⟨store, .ticking 1, [⟨t28, [0]⟩], .receiving, e2, none,
      [t28], [(t28, 0)], [], false⟩ :=
    h4.step ⟨fun _ => rfl, rfl, .startCheck rfl⟩
  have h6 : sys.Reachable ⟨store, .ticking 1, [⟨t28, [0]⟩], .receiving, e3, none,
      [t28], [(t28, 0)], [], false⟩ :=
    h5.step ⟨fun _ => rfl, rfl, @Step.finishCheck sched _ 0 readings e3 rfl⟩
  have h7 : sys.Reachable ⟨store, .ticking 1, [], .handling [⟨t28, [0]⟩] none, e3, none,
      [t28], [(t28, 0)], [], false⟩ :=
    h6.step ⟨fun _ => rfl, rfl, .recvMany rfl (by decide : 0 < 1) (by decide) (Nat.le_refl 1)⟩
  have h8 : sys.Reachable ⟨store, .ticking 1, [], .handling [] (some t28), e3.dropReceivers [0],
      none, [t28], [(t28, 0)], [], false⟩ := by
    refine h7.step ⟨fun _ => rfl, rfl, @Step.accept sched _ ⟨t28, [0]⟩ [] none rfl ?_⟩
    intro i hi
    rw [List.mem_singleton.mp hi]
    exact ⟨_, rfl⟩
  have h9 : sys.Reachable ⟨store, .ticking 1, [], .receiving, e3.dropReceivers [0],
      some 28000000000, [t28], [(t28, 0)], [t28], false⟩ :=
    h8.step ⟨fun _ => rfl, rfl, .writeWatermark .ok rfl rfl rfl⟩
  exact ⟨_, h9, List.mem_singleton.mpr rfl, List.mem_singleton.mpr rfl,
    watermarkSound_of_unbroken _ _ h9⟩

end UptimeChecker.Scheduler
