import UptimeChecker.Laws.Scheduler.Watermark

/-!
# The expects of `do_check`

A check being run needs two channel ends when it is done: the queue, if it fails with retries left,
and the receiver of its result. The first goes with the cancellation; the second with whatever
throws bundles away, an early return of the loop, a batch broken off or the end of the processor.
Nothing waits for the checks being run before either, so both expects can fail.

They do not as long as each step that drops an end finds it no longer needed (`KeepsEnds`): a
cancellation meets no running check with retries left, and no pending check is in a bundle thrown
away. Both conditions are the weakest: where a step violates one, there is a way for the running
check to end that panics (`panics_after_cancel`, `panics_after_discard`).
-/

namespace UptimeChecker.Scheduler

variable {sched : Scheduler} {s s' : State} {a : Action}

/-- The receivers a step throws away with its bundles. -/
def State.discarded (s : State) : Action → List Nat
  | .queueCheckError => receivers s.scheduler.current
  | .sendBundleError => receivers s.scheduler.current
  | .breakOff => receivers s.processor.batch
  | .executorDown => receivers s.tickComplete
  | .writeWatermarkFatal => receivers s.tickComplete
  | _ => []

/-- A cancellation meets no running check with retries left, and no pending check has its receiver
thrown away. -/
def KeepsEnds (sched : Scheduler) (s : State) (a : Action) : Prop :=
  (a = .cancel → ∀ check ∈ s.executor.running,
    ¬ check.retryCount < sched.conf.failureRetries) ∧
  ∀ i ∈ s.discarded a, (s.executor.oneshots i).message ≠ .pending

end UptimeChecker.Scheduler

namespace UptimeChecker.CheckExecutor

/-- Every live check finds the ends it may need: the receiver of its result, and, while it has
retries left, an open queue. -/
structure Armed (conf : ExecutorConfig) (e : CheckExecutor) : Prop where
  receiver : ∀ i ∈ e.channels, (e.oneshots i).receiver = true
  retries : e.queueOpen = false → ∀ check ∈ e.live, ¬ check.retryCount < conf.failureRetries
  calm : e.panicked = false

variable {conf : ExecutorConfig} {e e' : CheckExecutor}

theorem armed_new : new.Armed conf :=
  ⟨fun _ hi => (List.not_mem_nil hi).elim, nofun, rfl⟩

theorem Armed.dropReceivers (h : e.Armed conf) (hwf : e.WellFormed) {cs : List Nat}
    (hcs : ∀ i ∈ cs, (e.oneshots i).message ≠ .pending) : (e.dropReceivers cs).Armed conf := by
  refine ⟨?_, h.retries, h.calm⟩
  intro i hi
  rw [receiver_dropReceivers e cs fun hmem => hcs i hmem (hwf.pending i hi)]
  exact h.receiver i hi

theorem Armed.queueCheck (h : e.Armed conf) {tick : Tick} {config : CheckConfig} {kind : CheckKind}
    {channel : Nat} (hq : e.queueCheck tick config kind = some (e', channel)) : e'.Armed conf := by
  obtain ⟨hopen, -, rfl⟩ := queueCheck_eq_some hq
  refine ⟨?_, ?_, h.calm⟩
  · intro i hi
    simp only
    split
    · rfl
    · rename_i hne
      apply h.receiver i
      simp only [channels, live, List.map_append, List.map_cons, List.map_nil, List.mem_append,
        List.mem_singleton, ScheduledCheck.new] at hi ⊢
      rcases hi with (hi | rfl) | hi
      · exact .inl hi
      · exact (hne rfl).elim
      · exact .inr hi
  · intro hclosed
    rw [hopen] at hclosed
    cases hclosed

theorem Armed.start (h : e.Armed conf) (hs : e.start conf = some e') : e'.Armed conf := by
  obtain ⟨check, rest, hqueue, hopen, rfl⟩ := start_eq_some hs
  refine ⟨fun i hi => h.receiver i ?_, ?_, h.calm⟩
  · simp only [channels, live, hqueue, List.map_append, List.map_cons, List.map_nil,
      List.mem_append, List.mem_cons] at hi ⊢
    tauto
  · intro hclosed
    rw [hopen] at hclosed
    cases hclosed

/-- A running check that finds its ends ends without a panic, and leaves the others theirs. -/
theorem Armed.finish (h : e.Armed conf) {i : Nat} {readings : CheckReadings}
    (hf : e.finish conf i readings = some e') : e'.Armed conf := by
  obtain ⟨check, hi, hdo⟩ := finish_eq_some hf
  have hmem : check ∈ e.live := List.mem_append_right _ (List.mem_of_getElem? hi)
  have hreceiver := h.receiver _ (List.mem_map_of_mem hmem)
  have hchannels := channels_eraseIdx hi
  have hlive : ∀ c ∈ live { e with running := e.running.eraseIdx i }, c ∈ e.live := fun c hc =>
    (List.Sublist.append_left (List.eraseIdx_sublist _ _) _).subset hc
  have hrest : ∀ j ∈ channels { e with running := e.running.eraseIdx i },
      (e.oneshots j).receiver = true := fun j hj =>
    h.receiver j (hchannels.mem_iff.mpr (List.mem_cons_of_mem _ hj))
  have hset : ∀ (message : Message) (j : Nat), (e.oneshots j).receiver = true →
      (if j = check.resolveTx then (⟨message, (e.oneshots j).receiver⟩ : Oneshot)
        else e.oneshots j).receiver = true := by
    intro message j hj
    split <;> exact hj
  cases hdo with
  | retried left hopen =>
    refine ⟨?_, ?_, h.calm⟩
    · intro j hj
      simp only [channels, live, List.map_append, List.map_cons, List.map_nil, List.mem_append,
        List.mem_singleton] at hj hrest
      rcases hj with (hj | rfl) | hj
      · exact hrest j (.inl hj)
      · exact hreceiver
      · exact hrest j (.inr hj)
    · intro hclosed
      cases hopen.symm.trans hclosed
  | resolved result hr =>
    exact ⟨fun j hj => hset _ j (hrest j hj), fun hc c hcm => h.retries hc c (hlive c hcm), h.calm⟩
  | passed hr =>
    exact ⟨fun j hj => hset _ j (hrest j hj), fun hc c hcm => h.retries hc c (hlive c hcm), h.calm⟩
  | unheard hr => exact ⟨hrest, fun hc c hcm => h.retries hc c (hlive c hcm), h.calm⟩
  | queueClosed left hclosed => exact (h.retries hclosed check hmem left).elim
  | receiverGone result hr => cases hreceiver.symm.trans hr

theorem Armed.cancel (h : e.Armed conf)
    (hretries : ∀ check ∈ e.running, ¬ check.retryCount < conf.failureRetries) :
    e.cancel.Armed conf := by
  refine ⟨?_, fun _ => hretries, h.calm⟩
  intro i hi
  have hmem : i ∈ e.channels := by
    simp only [channels, live, CheckExecutor.cancel, List.nil_append, List.map_append,
      List.mem_append] at hi ⊢
    exact .inr hi
  simp only [CheckExecutor.cancel]
  split <;> exact h.receiver i hmem

end UptimeChecker.CheckExecutor

namespace UptimeChecker.Scheduler

variable {sched : Scheduler} {s s' : State} {a : Action}

/-- A step that drops no end still needed keeps every live check armed. -/
theorem armed_step (hp : Pipeline sched s) (h : s.executor.Armed sched.conf)
    (hok : KeepsEnds sched s a) (hstep : Step sched s a s') : s'.executor.Armed sched.conf := by
  obtain ⟨hcancel, hdiscard⟩ := hok
  cases hstep with
  | queueCheck phase run hq => exact h.queueCheck hq
  | startCheck hs => exact h.start hs
  | finishCheck hf => exact h.finish hf
  | cancel => exact h.cancel (hcancel rfl)
  | queueCheckError phase =>
    refine h.dropReceivers hp.executor fun i hi => hdiscard i ?_
    simpa [State.discarded, phase, SchedulerPhase.current, receivers] using hi
  | sendBundleError phase =>
    refine h.dropReceivers hp.executor fun i hi => hdiscard i ?_
    simpa [State.discarded, phase, SchedulerPhase.current, receivers] using hi
  | accept phase resolved =>
    apply h.dropReceivers hp.executor
    intro i hi
    obtain ⟨result, hresult⟩ := resolved i hi
    simp [hresult]
  | breakOff phase =>
    refine h.dropReceivers hp.executor fun i hi => hdiscard i ?_
    simpa [State.discarded, phase, ProcessorPhase.batch] using hi
  | executorDown => exact h.dropReceivers hp.executor hdiscard
  | writeWatermarkFatal => exact h.dropReceivers hp.executor hdiscard
  | _ => exact h

/-- In every run whose steps drop no channel end that a running check may still need, no `expect` of
`do_check` has fired, and none will, whichever running check ends next and however. -/
theorem doCheck_never_panics (sched : Scheduler) (s : State)
    (hs : (sched.system.guarded (KeepsEnds sched)).Reachable s) :
    s.executor.panicked = false ∧
      ∀ i readings executor, s.executor.finish sched.conf i readings = some executor →
        executor.panicked = false := by
  have harmed : s.executor.Armed sched.conf := by
    refine hs.invariant_of (Q := Pipeline sched) (fun s hs => pipeline_of_reachable hs.of_guarded)
      ?_ fun s a s' hp h hstep => armed_step hp h hstep.1 hstep.2.2
    rintro s ⟨configStore, watermark, rfl⟩
    exact CheckExecutor.armed_new
  exact ⟨harmed.calm, fun i readings executor h => (harmed.finish h).calm⟩

/-! ## The conditions are the weakest -/

/-- An uptime check run in time can come to any status. -/
private theorem checkResult_readingsAt (region : String) {check : ScheduledCheck}
    (hkind : check.kind = .uptime) (status : CheckStatus) :
    ∃ result, CheckExecutor.checkResult region check
      (readingsAt check.tick.time check status) = some result ∧ result.status = status := by
  have hlate : ¬ check.tick.time.nanos - check.tick.time.nanos >
      check.config.interval.secs * nanosPerSec := by
    unfold nanosPerSec
    omega
  refine ⟨(readingsAt check.tick.time check status).checkUrl, ?_, rfl⟩
  simp only [CheckExecutor.checkResult, readingsAt, if_neg hlate, hkind]

/-- A running check with retries left can fail after a cancellation, and panics. -/
theorem panics_after_cancel {check : ScheduledCheck} {i : Nat}
    (hi : s.executor.running[i]? = some check) (hkind : check.kind = .uptime)
    (hleft : check.retryCount < sched.conf.failureRetries) :
    ∃ readings executor, s.executor.cancel.finish sched.conf i readings = some executor ∧
      executor.panicked = true := by
  obtain ⟨result, hresult, hstatus⟩ :=
    checkResult_readingsAt sched.conf.region hkind .failure
  refine ⟨readingsAt check.tick.time check .failure, _,
    Option.map_eq_some_iff.mpr ⟨check, hi, rfl⟩, ?_⟩
  have hretry : CheckExecutor.willRetry sched.conf.failureRetries check result = true := by
    simp [CheckExecutor.willRetry, hstatus, hleft]
  rw [CheckExecutor.doCheck, hresult]
  simp only [hretry, if_true]
  rfl

/-- A running check whose receiver is gone can succeed, and panics. -/
theorem panics_after_discard {check : ScheduledCheck} {i : Nat}
    (hi : s.executor.running[i]? = some check) (hkind : check.kind = .uptime)
    (hgone : (s.executor.oneshots check.resolveTx).receiver = false) :
    ∃ readings executor, s.executor.finish sched.conf i readings = some executor ∧
      executor.panicked = true := by
  obtain ⟨result, hresult, hstatus⟩ :=
    checkResult_readingsAt sched.conf.region hkind .success
  refine ⟨readingsAt check.tick.time check .success, _,
    Option.map_eq_some_iff.mpr ⟨check, hi, rfl⟩, ?_⟩
  have hretry : CheckExecutor.willRetry sched.conf.failureRetries check result = false := by
    simp [CheckExecutor.willRetry, hstatus]
  rw [CheckExecutor.doCheck, hresult]
  simp [hretry, CheckExecutor.recordResult, hgone, CheckExecutor.expect]

/-- A run that panics: the check of tick 28 is being run when the executor is cancelled, and fails
with a retry left. -/
theorem doCheck_panics_after_cancel : ¬ ∀ (sched : Scheduler) (s : State),
    sched.system.Reachable s → s.executor.panicked = false := by
  intro h
  obtain ⟨store, hadd, hstore⟩ := exists_singleton_store constV5 CheckConfig.default
  let t28 := tickOfSecs 28 (by decide)
  let check := ScheduledCheck.new .uptime t28 .default false 0
  let e1 := oneQueued t28
  let e2 : CheckExecutor := { e1 with queue := [], running := [check] }
  let sched := startingAt 28 (by decide)
  have h0 : sched.system.Reachable (initial .new none) := .init ⟨_, _, rfl⟩
  have h1 : sched.system.Reachable (initial store none) := h0.step ⟨rfl, .addConfig hadd⟩
  have h2 : sched.system.Reachable ⟨store, .queueing 0 t28 [.default] [], [], .receiving, .new,
      none, [t28], [], [], false⟩ :=
    h1.step ⟨rfl, step_tick_of_holds hstore rfl (by decide : 28 + 0 < _) [.default] (by decide)⟩
  have h3 : sched.system.Reachable ⟨store, .queueing 0 t28 [] [0], [], .receiving, e1, none,
      [t28], [(t28, 0)], [], false⟩ :=
    h2.step ⟨rfl, @Step.queueCheck sched _ 0 t28 .default [] [] e1 0 rfl rfl rfl⟩
  have h4 : sched.system.Reachable ⟨store, .queueing 0 t28 [] [0], [], .receiving, e2, none,
      [t28], [(t28, 0)], [], false⟩ :=
    h3.step ⟨rfl, .startCheck rfl⟩
  have h5 : sched.system.Reachable ⟨store, .queueing 0 t28 [] [0], [], .receiving, e2.cancel, none,
      [t28], [(t28, 0)], [], false⟩ :=
    h4.step ⟨rfl, .cancel rfl (.inl rfl)⟩
  have h6 : sched.system.Reachable ⟨store, .queueing 0 t28 [] [0], [], .receiving,
      { e2.cancel with running := [], panicked := true }, none, [t28], [(t28, 0)], [], false⟩ :=
    h5.step ⟨rfl, @Step.finishCheck sched _ 0 (readingsAt t28.time check .failure) _ rfl⟩
  cases h sched _ h6

/-- A step other than the cancellation that discards nothing keeps every end. -/
private theorem keepsEnds_of_discarded_nil (ha : a ≠ .cancel) (hd : s.discarded a = []) :
    KeepsEnds sched s a := by
  refine ⟨fun h => (ha h).elim, ?_⟩
  intro i hi
  rw [hd] at hi
  cases hi

/-- The check of tick 28 fails, is cancelled while it waits to be retried, and nothing panics. -/
theorem doCheck_calm_after_retry :
    ∃ s, ((startingAt 28 (by decide)).system.guarded
        (KeepsEnds (startingAt 28 (by decide)))).Reachable s ∧
      s.executor.queueOpen = false ∧ s.executor.panicked = false ∧
      ∀ i readings executor,
        s.executor.finish (startingAt 28 (by decide)).conf i readings = some executor →
        executor.panicked = false := by
  obtain ⟨store, hadd, hstore⟩ := exists_singleton_store constV5 CheckConfig.default
  let t28 := tickOfSecs 28 (by decide)
  let check := ScheduledCheck.new .uptime t28 .default false 0
  let e1 := oneQueued t28
  let e2 : CheckExecutor := { e1 with queue := [], running := [check] }
  let e3 : CheckExecutor := { e1 with queue := [{ check with retryCount := 1 }] }
  let sched := startingAt 28 (by decide)
  let sys := sched.system.guarded (KeepsEnds sched)
  have h0 : sys.Reachable (initial .new none) := .init ⟨_, _, rfl⟩
  have h1 : sys.Reachable (initial store none) :=
    h0.step (a := .addConfig) ⟨keepsEnds_of_discarded_nil nofun rfl, rfl, .addConfig hadd⟩
  have h2 : sys.Reachable ⟨store, .queueing 0 t28 [.default] [], [], .receiving, .new,
      none, [t28], [], [], false⟩ :=
    h1.step (a := .tick) ⟨keepsEnds_of_discarded_nil nofun rfl, rfl,
      step_tick_of_holds hstore rfl (by decide : 28 + 0 < _) [.default] (by decide)⟩
  have h3 : sys.Reachable ⟨store, .queueing 0 t28 [] [0], [], .receiving, e1, none,
      [t28], [(t28, 0)], [], false⟩ :=
    h2.step (a := .queueCheck) ⟨keepsEnds_of_discarded_nil nofun rfl, rfl,
      @Step.queueCheck sched _ 0 t28 .default [] [] e1 0 rfl rfl rfl⟩
  have h4 : sys.Reachable ⟨store, .queueing 0 t28 [] [0], [], .receiving, e2, none,
      [t28], [(t28, 0)], [], false⟩ :=
    h3.step (a := .startCheck) ⟨keepsEnds_of_discarded_nil nofun rfl, rfl, .startCheck rfl⟩
  have h5 : sys.Reachable ⟨store, .queueing 0 t28 [] [0], [], .receiving, e3, none,
      [t28], [(t28, 0)], [], false⟩ :=
    h4.step (a := .finishCheck) ⟨keepsEnds_of_discarded_nil nofun rfl, rfl,
      @Step.finishCheck sched _ 0 (readingsAt t28.time check .failure) _ rfl⟩
  have h6 : sys.Reachable ⟨store, .queueing 0 t28 [] [0], [], .receiving, e3.cancel, none,
      [t28], [(t28, 0)], [], false⟩ :=
    h5.step (a := .cancel)
      ⟨⟨fun _ _ h => (List.not_mem_nil h).elim, nofun⟩, rfl, .cancel rfl (.inl rfl)⟩
  exact ⟨_, h6, rfl, doCheck_never_panics _ _ h6⟩

end UptimeChecker.Scheduler
