import UptimeChecker.Laws.CheckExecutor.Order
import UptimeChecker.Laws.Scheduler.Watermark
import UptimeChecker.Services

/-!
# Shutdown comes to an end

Once the loop of a partition has seen its token it waits for the processor, and the processor for
the checks of the bundles that are still to be handled. No check waits for ever: one whose channel
is pending is in the queue or being run (`Attended`), whatever the other partitions do with the
executor meanwhile (`Sharing`). So as long as the loop has not returned one of its tasks or the
executor can take a step, and the steps of its tasks and on its checks are bounded
(`shutdownWork`), whenever the executor is cancelled, checks fail and are retried, bundles are
thrown away and redis fails.
-/

namespace UptimeChecker

namespace CheckExecutor

variable {conf : ExecutorConfig} {e e' : CheckExecutor}

/-- Someone listens to a channel, and if there is nothing in it yet, its check is live. -/
def Attends (e : CheckExecutor) (channel : Nat) : Prop :=
  (e.oneshots channel).receiver = true ∧
    ((e.oneshots channel).message = .pending → channel ∈ e.channels)

/-- A closed queue is an empty one. -/
def ClosedEmpty (e : CheckExecutor) : Prop := e.queueOpen = false → e.queue = []

theorem Attends.dropReceivers {channel : Nat} (h : e.Attends channel) {cs : List Nat}
    (hcs : channel ∉ cs) : (e.dropReceivers cs).Attends channel := by
  refine ⟨(receiver_dropReceivers e cs hcs).trans h.1, ?_⟩
  rw [message_dropReceivers]
  exact h.2

/-- A new check is attended, and the others still are. -/
theorem Attends.queueCheck {tick : Tick} {config : CheckConfig} {kind : CheckKind}
    {channel new : Nat} (hq : e.queueCheck tick config kind = some (e', new))
    (h : channel = new ∨ e.Attends channel) : e'.Attends channel := by
  obtain ⟨-, rfl, rfl⟩ := queueCheck_eq_some hq
  by_cases hnew : channel = e.opened
  · subst hnew
    refine ⟨by simp, fun _ => ?_⟩
    simp [channels, live, ScheduledCheck.new]
  · have hold := h.resolve_left hnew
    refine ⟨by simpa [hnew] using hold.1, ?_⟩
    intro hpending
    have hmem := hold.2 (by simpa [hnew] using hpending)
    simp only [channels, live, List.map_append, List.mem_append] at hmem ⊢
    exact hmem.imp_left .inl

theorem Attends.start {channel : Nat} (h : e.Attends channel) (hs : e.start conf = some e') :
    e'.Attends channel := by
  obtain ⟨check, rest, hqueue, -, rfl⟩ := start_eq_some hs
  refine ⟨h.1, fun hpending => ?_⟩
  have hmem := h.2 hpending
  simp only [channels, live, hqueue, List.map_append, List.map_cons, List.map_nil, List.mem_append,
    List.mem_cons] at hmem ⊢
  tauto

/-- The end of a check that does not panic. -/
theorem Attends.finish {channel i : Nat} {readings : CheckReadings} (h : e.Attends channel)
    (hf : e.finish conf i readings = some e') (hcalm : e'.panicked = false) :
    e'.Attends channel := by
  obtain ⟨check, hi, hdo⟩ := finish_eq_some hf
  have hperm := channels_eraseIdx hi
  -- A channel of another check is in no way concerned.
  have hrest : channel ≠ check.resolveTx → (e.oneshots channel).message = .pending →
      channel ∈ channels { e with running := e.running.eraseIdx i } := by
    intro hne hpending
    exact (List.mem_cons.mp (hperm.mem_iff.mp (h.2 hpending))).resolve_left hne
  have hset : ∀ (e₁ : CheckExecutor) (result : Option CheckResult), e₁.oneshots = e.oneshots →
      e₁.channels = channels { e with running := e.running.eraseIdx i } →
      (e₁.setMessage check.resolveTx (.sent result)).Attends channel := by
    intro e₁ result honeshots hchannels
    by_cases hown : channel = check.resolveTx
    · refine ⟨?_, ?_⟩
      · simpa [setMessage, hown, honeshots] using hown ▸ h.1
      · simp [setMessage, hown]
    · refine ⟨by simpa [setMessage, hown, honeshots] using h.1, ?_⟩
      intro hpending
      have hmem := hrest hown (by simpa [setMessage, hown, honeshots] using hpending)
      rw [← hchannels] at hmem
      exact hmem
  cases hdo with
  | retried left hopen =>
    refine ⟨h.1, fun hpending => ?_⟩
    have hmem := hperm.mem_iff.mp (h.2 hpending)
    simp only [channels, live, List.map_append, List.map_cons, List.map_nil, List.mem_append,
      List.mem_cons] at hmem ⊢
    tauto
  | resolved result hr => exact hset _ _ rfl rfl
  | passed hr => exact hset _ _ rfl rfl
  | unheard hr =>
    refine ⟨h.1, hrest ?_⟩
    rintro rfl
    cases h.1.symm.trans hr
  | queueClosed left hclosed => cases hcalm
  | receiverGone result hr => cases hcalm

theorem Attends.cancel {channel : Nat} (h : e.Attends channel) : e.cancel.Attends channel := by
  by_cases hqueue : channel ∈ e.queue.map (·.resolveTx)
  · have honeshot : e.cancel.oneshots channel = ⟨.dropped, (e.oneshots channel).receiver⟩ :=
      if_pos hqueue
    unfold Attends
    rw [honeshot]
    exact ⟨h.1, nofun⟩
  · have honeshot : e.cancel.oneshots channel = e.oneshots channel := if_neg hqueue
    unfold Attends
    rw [honeshot]
    refine ⟨h.1, fun hpending => ?_⟩
    have hmem := h.2 hpending
    simp only [channels, live, CheckExecutor.cancel, List.nil_append, List.map_append,
      List.mem_append] at hmem ⊢
    exact hmem.resolve_left hqueue

theorem ClosedEmpty.queueCheck {tick : Tick} {config : CheckConfig} {kind : CheckKind}
    {channel : Nat} (hq : e.queueCheck tick config kind = some (e', channel)) :
    e'.ClosedEmpty := by
  obtain ⟨hopen, -, rfl⟩ := queueCheck_eq_some hq
  intro hclosed
  cases hopen.symm.trans hclosed

theorem ClosedEmpty.start (hs : e.start conf = some e') : e'.ClosedEmpty := by
  obtain ⟨check, rest, -, hopen, rfl⟩ := start_eq_some hs
  intro hclosed
  cases hopen.symm.trans hclosed

theorem ClosedEmpty.finish {i : Nat} {readings : CheckReadings} (h : e.ClosedEmpty)
    (hf : e.finish conf i readings = some e') : e'.ClosedEmpty := by
  obtain ⟨check, -, hdo⟩ := finish_eq_some hf
  cases hdo with
  | retried left hopen =>
    intro hclosed
    cases hopen.symm.trans hclosed
  | _ => exact h

/-- While there is a check, one can be started or finished. -/
theorem ClosedEmpty.exists_start_or_finish (h : e.ClosedEmpty) (hlive : e.live ≠ [])
    (readings : CheckReadings) :
    (∃ e', e.start conf = some e') ∨ ∃ i e', e.finish conf i readings = some e' := by
  cases hopen : e.queueOpen with
  | true => exact CheckExecutor.exists_start_or_finish hopen hlive readings
  | false =>
    match hrunning : e.running with
    | [] => exact absurd (by rw [live, h hopen, hrunning]; rfl) hlive
    | check :: rest =>
      refine .inr ⟨0, doCheck conf { e with running := e.running.eraseIdx 0 } check readings, ?_⟩
      rw [CheckExecutor.finish, hrunning]
      rfl

/-- The end of a check opens no channel. -/
theorem opened_finish {i : Nat} {readings : CheckReadings}
    (h : e.finish conf i readings = some e') : e'.opened = e.opened := by
  obtain ⟨check, -, hdo⟩ := finish_eq_some h
  cases hdo <;> rfl

theorem dropReceivers_nil (e : CheckExecutor) : e.dropReceivers [] = e := by
  simp [dropReceivers]

end CheckExecutor

/-- The steps the processor may still take with what it has. -/
def ProcessorPhase.workLeft : ProcessorPhase → Nat
  | .receiving => 1
  | .handling batch _ => 2 * batch.length + 3
  | .finished => 0

namespace Scheduler

variable {sched : Scheduler} {s t u : State} {a : Action}

/-! ## What the tasks do to the executor -/

/-- What a step of a partition's tasks does to its receivers and the executor: some receivers are
dropped, or a check is queued and its receiver kept. -/
inductive TaskStep (s t : State) : Prop where
  | passes (dropped : List Nat)
      (bundles : (receivers t.bundles ++ dropped).Subperm (receivers s.bundles))
      (executor : t.executor = s.executor.dropReceivers dropped) (queued : t.queued = s.queued)
  | queues {tick : Tick} {config : CheckConfig} {channel : Nat}
      (queues : s.executor.queueCheck tick config .uptime = some (t.executor, channel))
      (bundles : receivers t.bundles = receivers s.bundles ++ [channel])
      (queued : t.queued = s.queued ++ [(tick, channel)])

/-- Nothing is dropped. -/
private theorem TaskStep.stays (hbundles : receivers t.bundles = receivers s.bundles)
    (hexecutor : t.executor = s.executor) (hqueued : t.queued = s.queued) : TaskStep s t := by
  refine .passes [] ?_ ?_ hqueued
  · rw [List.append_nil, hbundles]
  · rw [hexecutor, CheckExecutor.dropReceivers_nil]

theorem Step.taskStep (hstep : Step sched s a t) (ha : a.isExecutor = false) : TaskStep s t := by
  cases hstep with
  | tick phase | skipCheck phase | shutdown phase | joinProcessor phase | sendBundle phase =>
    refine .stays ?_ rfl rfl
    simp [State.bundles, phase, SchedulerPhase.current, receivers]
  | recvMany phase | recvNone phase | badTimestamp phase | writeWatermark _ phase =>
    refine .stays ?_ rfl rfl
    simp [State.bundles, phase, ProcessorPhase.batch, receivers]
  | queueCheckError phase | sendBundleError phase =>
    refine .passes _ (List.Perm.subperm ?_) rfl rfl
    simp [State.bundles, phase, SchedulerPhase.current, receivers]
  | accept phase =>
    refine .passes _ (List.Perm.subperm ?_) rfl rfl
    simp only [State.bundles, phase, ProcessorPhase.batch, receivers, List.cons_append,
      List.flatMap_cons]
    exact List.perm_append_comm
  | breakOff phase =>
    refine .passes _ (List.Perm.subperm ?_) rfl rfl
    simp only [State.bundles, phase, ProcessorPhase.batch, receivers, List.nil_append,
      List.flatMap_append, List.append_assoc]
    rw [← List.append_assoc]
    exact List.perm_append_comm
  | executorDown phase | writeWatermarkFatal _ phase =>
    refine .passes _ (List.Perm.subperm ?_) rfl rfl
    simp only [State.bundles, phase, ProcessorPhase.batch, receivers, List.nil_append,
      List.flatMap_append]
    exact List.perm_append_comm
  | addConfig | removeConfig => exact .stays rfl rfl rfl
  | startCheck | finishCheck | cancel => cases ha
  | @queueCheck k tick config configs results executor check phase run hq =>
    refine .queues hq ?_ rfl
    simp [State.bundles, phase, SchedulerPhase.current, receivers]

theorem TaskStep.opened_le (h : TaskStep s t) : s.executor.opened ≤ t.executor.opened := by
  cases h with
  | passes dropped hbundles hexecutor => exact Nat.le_of_eq (by rw [hexecutor]; rfl)
  | queues hq => exact (CheckExecutor.evolves_queueCheck hq).opened

/-- A receiver was there before, or is that of the check being queued. -/
theorem TaskStep.mem_receivers (h : TaskStep s t) {channel : Nat}
    (hc : channel ∈ receivers t.bundles) :
    channel ∈ receivers s.bundles ∨ channel = s.executor.opened := by
  cases h with
  | passes dropped hbundles => exact .inl (hbundles.subset (List.mem_append_left _ hc))
  | queues hq hbundles =>
    obtain ⟨-, hnew, -⟩ := CheckExecutor.queueCheck_eq_some hq
    rw [hbundles, List.mem_append, List.mem_singleton] at hc
    exact hc.imp_right fun h => h.trans hnew

/-- The checks on record have channels that exist. -/
theorem TaskStep.queued_lt (h : TaskStep s t) (hs : ∀ q ∈ s.queued, q.2 < s.executor.opened) :
    ∀ q ∈ t.queued, q.2 < t.executor.opened := by
  intro q hq
  cases h with
  | passes dropped hbundles hexecutor hqueued =>
    rw [hqueued] at hq
    rw [hexecutor]
    exact hs q hq
  | queues hqueue hbundles hqueued =>
    obtain ⟨-, hnew, hexecutor⟩ := CheckExecutor.queueCheck_eq_some hqueue
    rw [hqueued, List.mem_append, List.mem_singleton] at hq
    rw [hexecutor]
    rcases hq with hq | rfl
    · exact Nat.lt_succ_of_lt (hs q hq)
    · exact hnew ▸ Nat.lt_succ_self _

/-! ## Receivers that are still to be waited for -/

/-- The receivers that are still to be waited for are attended, each in one bundle only. -/
structure Attended (s : State) : Prop where
  nodup : (receivers s.bundles).Nodup
  opened : ∀ channel ∈ receivers s.bundles, channel < s.executor.opened
  closed : s.executor.ClosedEmpty
  attends : s.executor.panicked = false →
    ∀ channel ∈ receivers s.bundles, s.executor.Attends channel

theorem attended_initial (configStore : ConfigStore) (watermark : Option Int64) :
    Attended (initial configStore watermark) :=
  ⟨List.nodup_nil, nofun, nofun, nofun⟩

/-- The executor moves on by itself. -/
theorem Attended.of_executor (h : Attended s) {executor : CheckExecutor}
    (hopened : s.executor.opened ≤ executor.opened) (hclosed : executor.ClosedEmpty)
    (hattends : executor.panicked = false → s.executor.panicked = false ∧
      ∀ channel, s.executor.Attends channel → executor.Attends channel) :
    Attended { s with executor := executor } := by
  refine ⟨h.nodup, fun c hc => Nat.lt_of_lt_of_le (h.opened c hc) hopened, hclosed, ?_⟩
  intro hcalm channel hc
  obtain ⟨hbefore, hkeeps⟩ := hattends hcalm
  exact hkeeps channel (h.attends hbefore channel hc)

/-- Bundles move along, or are thrown away with their receivers. -/
private theorem Attended.of_passes (h : Attended s) {dropped : List Nat}
    (hbundles : (receivers t.bundles ++ dropped).Subperm (receivers s.bundles))
    (hexecutor : t.executor = s.executor.dropReceivers dropped) : Attended t := by
  have hnodup : (receivers t.bundles ++ dropped).Nodup := by
    obtain ⟨l, hperm, hsub⟩ := hbundles
    exact hperm.nodup_iff.mp (h.nodup.sublist hsub)
  have hmem : ∀ channel ∈ receivers t.bundles, channel ∈ receivers s.bundles := fun _ hc =>
    hbundles.subset (List.mem_append_left _ hc)
  refine ⟨(List.nodup_append.mp hnodup).1, ?_, ?_, ?_⟩
  · intro channel hc
    rw [hexecutor]
    exact h.opened channel (hmem channel hc)
  · rw [hexecutor]
    exact h.closed
  · intro hcalm channel hc
    rw [hexecutor] at hcalm ⊢
    exact (h.attends hcalm channel (hmem channel hc)).dropReceivers
      fun hd => List.disjoint_of_nodup_append hnodup hc hd

/-- A check is queued, and its receiver is kept. -/
private theorem Attended.of_queues (h : Attended s) {tick : Tick} {config : CheckConfig}
    {channel : Nat}
    (hq : s.executor.queueCheck tick config .uptime = some (t.executor, channel))
    (hbundles : receivers t.bundles = receivers s.bundles ++ [channel]) : Attended t := by
  obtain ⟨-, hnew, hexecutor⟩ := CheckExecutor.queueCheck_eq_some hq
  have hopened : t.executor.opened = s.executor.opened + 1 := by rw [hexecutor]
  have hpanicked : t.executor.panicked = s.executor.panicked := by rw [hexecutor]
  refine ⟨?_, ?_, .queueCheck hq, ?_⟩
  · rw [hbundles, List.nodup_append]
    refine ⟨h.nodup, List.nodup_singleton _, ?_⟩
    intro old hc other hother heq
    cases List.mem_singleton.mp hother
    exact Nat.lt_irrefl _ (hnew ▸ heq ▸ h.opened old hc)
  · intro old hc
    rw [hbundles] at hc
    rw [hopened]
    rcases List.mem_append.mp hc with hc | hc
    · exact Nat.lt_succ_of_lt (h.opened old hc)
    · cases List.mem_singleton.mp hc
      exact hnew ▸ Nat.lt_succ_self _
  · intro hcalm old hc
    rw [hbundles] at hc
    apply CheckExecutor.Attends.queueCheck hq
    rcases List.mem_append.mp hc with hc | hc
    · exact .inr (h.attends (hpanicked ▸ hcalm) old hc)
    · exact .inl (List.mem_singleton.mp hc)

/-- What was attended still is when a task of the same partition has moved. -/
theorem Attended.of_taskStep (h : Attended s) (hmoves : TaskStep s t) : Attended t := by
  cases hmoves with
  | passes dropped hbundles hexecutor => exact h.of_passes hbundles hexecutor
  | queues hq hbundles => exact h.of_queues hq hbundles

/-- What was attended still is when a task of another partition has moved, whose receivers are
others. -/
theorem Attended.beside (h : Attended { u with executor := s.executor }) (hmoves : TaskStep s t)
    (hapart : (receivers u.bundles).Disjoint (receivers s.bundles)) :
    Attended { u with executor := t.executor } := by
  refine ⟨h.nodup, fun c hc => Nat.lt_of_lt_of_le (h.opened c hc) hmoves.opened_le, ?_, ?_⟩
  · cases hmoves with
    | passes dropped hbundles hexecutor =>
      rw [hexecutor]
      exact h.closed
    | queues hq => exact .queueCheck hq
  · intro hcalm channel hc
    change channel ∈ receivers u.bundles at hc
    cases hmoves with
    | passes dropped hbundles hexecutor =>
      dsimp only at hcalm ⊢
      rw [hexecutor] at hcalm ⊢
      refine (h.attends hcalm channel hc).dropReceivers fun hd => ?_
      exact hapart hc (hbundles.subset (List.mem_append_right _ hd))
    | queues hq =>
      have hpanicked : t.executor.panicked = s.executor.panicked := by
        obtain ⟨-, -, hexecutor⟩ := CheckExecutor.queueCheck_eq_some hq
        rw [hexecutor]
      exact .queueCheck hq (.inr (h.attends (hpanicked ▸ hcalm) channel hc))

/-! ## No deadlock -/

/-- The steps of the three tasks: all but those of the provider. -/
def Action.isPipeline (a : Action) : Bool := a ≠ .addConfig && a ≠ .removeConfig

/-- The processor can go on with a batch, or some check can, which it waits for. -/
private theorem exists_step_of_bundle (h : Attended s) (hcalm : s.executor.panicked = false)
    {bundle : ExecutionBundle} {batch : List ExecutionBundle} {lastTick : Option Tick}
    (phase : s.processor = .handling (bundle :: batch) lastTick) (conf : ExecutorConfig)
    (readings : CheckReadings) :
    (∃ a t, a.isPipeline = true ∧ a.isExecutor = false ∧ Step sched s a t) ∨
      (∃ e, s.executor.start conf = some e) ∨
      ∃ i e, s.executor.finish conf i readings = some e := by
  by_cases hresolved : ∀ check ∈ bundle.checks,
      ∃ result, (s.executor.oneshots check).message = .sent result
  · exact .inl ⟨.accept, _, rfl, rfl, .accept phase hresolved⟩
  by_cases hpending : ∃ check ∈ bundle.checks, (s.executor.oneshots check).message = .pending
  · obtain ⟨check, hcheck, hpending⟩ := hpending
    have hmem : check ∈ receivers s.bundles := by
      simp only [State.bundles, phase, ProcessorPhase.batch, receivers, List.mem_flatMap]
      exact ⟨bundle, by simp, hcheck⟩
    have hlive : s.executor.live ≠ [] := by
      intro hnone
      have hchannel := (h.attends hcalm check hmem).2 hpending
      rw [CheckExecutor.channels, hnone] at hchannel
      cases hchannel
    exact .inr (h.closed.exists_start_or_finish hlive readings)
  · have hsettled : ∀ check ∈ bundle.checks, (s.executor.oneshots check).message ≠ .pending :=
      fun check hcheck hp => hpending ⟨check, hcheck, hp⟩
    have hdropped : ∃ check ∈ bundle.checks, (s.executor.oneshots check).message = .dropped := by
      by_contra hnone
      apply hresolved
      intro check hcheck
      cases hmessage : (s.executor.oneshots check).message with
      | pending => exact absurd hmessage (hsettled check hcheck)
      | sent result => exact ⟨result, rfl⟩
      | dropped => exact absurd ⟨check, hcheck, hmessage⟩ hnone
    exact .inl ⟨.breakOff, _, rfl, rfl, .breakOff phase hsettled hdropped⟩

/-- While the loop waits for the processor, one of the two or the executor can take a step. -/
theorem exists_step_of_draining (h : Attended s) (hcalm : s.executor.panicked = false)
    (hdraining : s.scheduler = .draining) (conf : ExecutorConfig) (readings : CheckReadings) :
    (∃ a t, a.isPipeline = true ∧ a.isExecutor = false ∧ Step sched s a t) ∨
      (∃ e, s.executor.start conf = some e) ∨
      ∃ i e, s.executor.finish conf i readings = some e := by
  cases phase : s.processor with
  | receiving =>
    refine .inl ?_
    match hwaiting : s.tickComplete with
    | [] => exact ⟨.recvNone, _, rfl, rfl, .recvNone phase hwaiting (by rw [hdraining]; trivial)⟩
    | bundle :: rest =>
      exact ⟨.recvMany, _, rfl, rfl, .recvMany phase Nat.one_pos (by decide) (by simp [hwaiting])⟩
  | handling batch lastTick =>
    match batch, lastTick with
    | bundle :: batch, lastTick => exact exists_step_of_bundle h hcalm phase conf readings
    | [], none => exact .inl ⟨.executorDown, _, rfl, rfl, .executorDown phase⟩
    | [], some tick =>
      refine .inl ?_
      cases htime : tick.time.timestampNanosOpt with
      | none => exact ⟨.badTimestamp, _, rfl, rfl, .badTimestamp phase htime⟩
      | some progress =>
        exact ⟨.writeWatermark, _, rfl, rfl, .writeWatermark .ok phase htime rfl⟩
  | finished => exact .inl ⟨.joinProcessor, _, rfl, rfl, .joinProcessor hdraining phase⟩

/-! ## No run without end -/

variable {conf : ExecutorConfig} {own : Nat → Bool}

/-- The steps that are left once the loop has seen its token: of the loop, of the processor with its
bundles, and of the executor with the checks of the partition, told by their channels. -/
def shutdownWork (conf : ExecutorConfig) (own : Nat → Bool) (s : State) : Nat :=
  (match s.scheduler with | .draining => 1 | _ => 0) + s.processor.workLeft +
    6 * s.tickComplete.length + (s.executor.only own).workLeft conf + s.executor.queueOpen.toNat

/-- A step of one of the tasks counts for one. -/
private theorem toNat_isPipeline {a : Action} (h : a.isPipeline = true) :
    a.isPipeline.toNat = 1 := by
  rw [h]
  rfl

/-- A receiver that is dropped ends no check. -/
private theorem workLeft_dropReceivers (e : CheckExecutor) (channels : List Nat) :
    ((e.dropReceivers channels).only own).workLeft conf = (e.only own).workLeft conf := rfl

private theorem queueOpen_dropReceivers (e : CheckExecutor) (channels : List Nat) :
    (e.dropReceivers channels).queueOpen = e.queueOpen := rfl

/-- Every step of the loop and the processor lowers the work that is left, and the provider does not
raise it. -/
theorem shutdownWork_step (hover : s.scheduler.IsOver) (hstep : Step sched s a t)
    (ha : a.isExecutor = false) :
    t.scheduler.IsOver ∧
      shutdownWork conf own t + a.isPipeline.toNat ≤ shutdownWork conf own s := by
  cases hstep with
  | tick phase | skipCheck phase | queueCheck phase | queueCheckError phase | sendBundle phase
  | sendBundleError phase | shutdown phase =>
    rw [phase] at hover
    exact hover.elim
  | addConfig | removeConfig => exact ⟨hover, Nat.le_refl _⟩
  | joinProcessor phase gone =>
    refine ⟨trivial, ?_⟩
    rw [toNat_isPipeline rfl]
    simp only [shutdownWork, phase]
    omega
  | recvMany phase pos le waiting =>
    refine ⟨hover, ?_⟩
    rw [toNat_isPipeline rfl]
    simp only [shutdownWork, phase, ProcessorPhase.workLeft, List.length_take, List.length_drop,
      Nat.min_eq_left waiting]
    omega
  | recvNone phase | badTimestamp phase | writeWatermark _ phase =>
    refine ⟨hover, ?_⟩
    rw [toNat_isPipeline rfl]
    simp only [shutdownWork, phase, ProcessorPhase.workLeft, List.length_nil]
    omega
  | accept phase | breakOff phase | executorDown phase | writeWatermarkFatal _ phase =>
    refine ⟨hover, ?_⟩
    rw [toNat_isPipeline rfl]
    simp only [shutdownWork, phase, ProcessorPhase.workLeft, workLeft_dropReceivers,
      queueOpen_dropReceivers, List.length_cons, List.length_nil]
    omega
  | startCheck | finishCheck | cancel => cases ha

/-- What another partition does to the executor is no work for this one: a check that it queues has
a channel of its own. -/
theorem shutdownWork_beside (hmoves : TaskStep s t) (hown : own s.executor.opened = false) :
    shutdownWork conf own { u with executor := t.executor } =
      shutdownWork conf own { u with executor := s.executor } := by
  cases hmoves with
  | passes dropped hbundles hexecutor =>
    rw [hexecutor]
    rfl
  | queues hq =>
    obtain ⟨-, -, hexecutor⟩ := CheckExecutor.queueCheck_eq_some hq
    simp [shutdownWork, hexecutor, CheckExecutor.only, CheckExecutor.workLeft,
      ScheduledCheck.new, hown]

end Scheduler

namespace Services

open Scheduler (Attended TaskStep receivers shutdownWork)

variable {ι : Type} [DecidableEq ι] {services : Services ι} {s s' : State ι} {a : Action ι}

/-! ## One executor for all -/

theorem view_after_self (s : State ι) (i : ι) (t : Scheduler.State) : (s.after i t).view i = t := by
  simp [State.view, State.after]

theorem view_after_of_ne (s : State ι) {i j : ι} (h : j ≠ i) (t : Scheduler.State) :
    (s.after i t).view j = { s.view j with executor := t.executor } := by
  simp [State.view, State.after, Function.update_of_ne h]

/-- The receivers of every partition are attended, and no two partitions have one in common. -/
structure Sharing (s : State ι) : Prop where
  attended : ∀ i, Attended (s.view i)
  queued : ∀ i, ∀ q ∈ (s.view i).queued, q.2 < s.executor.opened
  apart : ∀ i j, i ≠ j →
    (receivers (s.view i).bundles).Disjoint (receivers (s.view j).bundles)

/-- A partition moves. Its new receivers are not those of another. -/
private theorem Sharing.after (h : Sharing s) {i : ι} {t : Scheduler.State}
    (hmoves : TaskStep (s.view i) t) : Sharing (s.after i t) := by
  have hapart : ∀ j, j ≠ i → (receivers (s.view j).bundles).Disjoint (receivers t.bundles) := by
    intro j hne channel hj ht
    rcases hmoves.mem_receivers ht with hi | hnew
    · exact h.apart j i hne hj hi
    · exact Nat.lt_irrefl _ (hnew ▸ (h.attended j).opened channel hj)
  refine ⟨?_, ?_, ?_⟩
  · intro j
    by_cases hsame : j = i
    · subst hsame
      rw [view_after_self]
      exact (h.attended j).of_taskStep hmoves
    · rw [view_after_of_ne s hsame]
      exact Attended.beside (h.attended j) hmoves (h.apart j i hsame)
  · intro j q hq
    by_cases hsame : j = i
    · subst hsame
      rw [view_after_self] at hq
      exact hmoves.queued_lt (h.queued j) q hq
    · rw [view_after_of_ne s hsame] at hq
      exact Nat.lt_of_lt_of_le (h.queued j q hq) hmoves.opened_le
  · intro j k hne
    by_cases hj : j = i
    · subst hj
      rw [view_after_self, view_after_of_ne s (Ne.symm hne)]
      exact (hapart k (Ne.symm hne)).symm
    · rw [view_after_of_ne s hj]
      by_cases hk : k = i
      · subst hk
        rw [view_after_self]
        exact hapart j hj
      · rw [view_after_of_ne s hk]
        exact h.apart j k hne

omit [DecidableEq ι] in
/-- The executor moves on by itself. -/
private theorem Sharing.of_executor (h : Sharing s) {executor : CheckExecutor}
    (hopened : s.executor.opened ≤ executor.opened) (hclosed : executor.ClosedEmpty)
    (hattends : executor.panicked = false → s.executor.panicked = false ∧
      ∀ channel, s.executor.Attends channel → executor.Attends channel) :
    Sharing { s with executor := executor } where
  attended i := (h.attended i).of_executor hopened hclosed hattends
  queued i q hq := Nat.lt_of_lt_of_le (h.queued i q hq) hopened
  apart := h.apart

theorem Sharing.step [Nonempty ι] (h : Sharing s) (hstep : services.system.step s a s') :
    Sharing s' := by
  obtain ⟨hcalm, hstep⟩ := hstep
  have hclosed : s.executor.ClosedEmpty := (h.attended (Classical.arbitrary ι)).closed
  cases hstep with
  | scheduler hstep ha => exact h.after (hstep.taskStep ha)
  | startCheck hhead hst =>
    exact h.of_executor (CheckExecutor.evolves_start hst).opened (.start hst)
      fun _ => ⟨hcalm, fun _ hc => hc.start hst⟩
  | finishCheck hi hf =>
    exact h.of_executor (Nat.le_of_eq (CheckExecutor.opened_finish hf).symm) (hclosed.finish hf)
      fun hcalm' => ⟨hcalm, fun _ hc => hc.finish hf hcalm'⟩
  | cancel =>
    exact h.of_executor (Nat.le_refl _) (fun _ => rfl) fun _ => ⟨hcalm, fun _ hc => hc.cancel⟩

theorem sharing_of_reachable [Nonempty ι] (hs : services.system.Reachable s) : Sharing s := by
  refine hs.invariant ?_ fun s a s' h hstep => h.step hstep
  rintro s ⟨hexecutor, hinit⟩
  have hview : ∀ i, ∃ configStore watermark,
      s.view i = Scheduler.initial configStore watermark := by
    intro i
    obtain ⟨configStore, watermark, hi⟩ := hinit i
    refine ⟨configStore, watermark, ?_⟩
    rw [State.view, hi, hexecutor]
    rfl
  refine ⟨?_, ?_, ?_⟩
  · intro i
    obtain ⟨configStore, watermark, hi⟩ := hview i
    rw [hi]
    exact Scheduler.attended_initial configStore watermark
  · intro i q hq
    obtain ⟨configStore, watermark, hi⟩ := hview i
    rw [hi] at hq
    cases hq
  · intro i j _ channel hc
    obtain ⟨configStore, watermark, hi⟩ := hview i
    rw [hi] at hc
    cases hc

/-! ## The steps of one partition -/

/-- The channel is that of a check the partition has queued. -/
def owns (s : Scheduler.State) (channel : Nat) : Bool := decide (channel ∈ s.queued.map Prod.snd)

/-- A step of the tasks of a partition or, of the executor's, one on its checks; and the executor's
last look at its stream. -/
def Action.isOf (i : ι) (own : Nat → Bool) : Action ι → Bool
  | .scheduler j a => decide (j = i) && a.isPipeline
  | .startCheck channel | .finishCheck channel => own channel
  | .cancel => true

/-- A step of the tasks of a partition, or of the executor with whatever check. -/
def Action.serves (i : ι) : Action ι → Bool
  | .scheduler j a => decide (j = i) && a.isPipeline
  | .startCheck _ | .finishCheck _ => true
  | .cancel => false

/-- The steps of a partition whose loop has seen its token lower the work that is left for it, and
nothing raises it. -/
private theorem shutdownWork_step {i : ι} {own : Nat → Bool} (hover : (s.view i).scheduler.IsOver)
    (hown : ∀ channel, own channel = true → channel < s.executor.opened)
    (hstep : Step services s a s') :
    ((s'.view i).scheduler.IsOver ∧
      ∀ channel, own channel = true → channel < s'.executor.opened) ∧
    shutdownWork services.conf own (s'.view i) + (a.isOf i own).toNat ≤
      shutdownWork services.conf own (s.view i) := by
  cases hstep with
  | @scheduler j a t hstep ha =>
    have hmoves := hstep.taskStep ha
    have hown' : ∀ channel, own channel = true → channel < (s.after j t).executor.opened :=
      fun channel hc => Nat.lt_of_lt_of_le (hown channel hc) hmoves.opened_le
    by_cases hsame : i = j
    · subst hsame
      rw [view_after_self]
      obtain ⟨hover', hless⟩ :=
        @Scheduler.shutdownWork_step _ _ _ _ services.conf own hover hstep ha
      refine ⟨⟨hover', hown'⟩, ?_⟩
      rw [Action.isOf, decide_eq_true rfl, Bool.true_and]
      exact hless
    · rw [view_after_of_ne s hsame]
      refine ⟨⟨hover, hown'⟩, ?_⟩
      rw [Action.isOf, decide_eq_false (Ne.symm hsame), Bool.false_and]
      have hnew : own s.executor.opened = false := by
        rw [Bool.eq_false_iff]
        exact fun h => Nat.lt_irrefl _ (hown _ h)
      exact Nat.le_of_eq (Scheduler.shutdownWork_beside hmoves hnew)
  | @startCheck check executor hhead hst =>
    have hwork := CheckExecutor.workLeft_only_start own hhead hst
    have hopened := (CheckExecutor.evolves_start hst).opened
    refine ⟨⟨hover, fun channel hc => Nat.lt_of_lt_of_le (hown channel hc) hopened⟩, ?_⟩
    simp only [State.view, shutdownWork, Action.isOf, CheckExecutor.queueOpen_start hst]
    omega
  | @finishCheck k check readings executor hk hf =>
    have hwork := CheckExecutor.workLeft_only_finish own hk hf
    refine ⟨⟨hover, fun channel hc => (CheckExecutor.opened_finish hf).symm ▸ hown channel hc⟩, ?_⟩
    simp only [State.view, shutdownWork, Action.isOf, CheckExecutor.queueOpen_finish hf]
    omega
  | cancel hopen room =>
    refine ⟨⟨hover, hown⟩, ?_⟩
    simp only [State.view, shutdownWork, Action.isOf, CheckExecutor.cancel, CheckExecutor.only,
      CheckExecutor.workLeft, hopen, List.filter_nil, List.map_nil, List.sum_nil, Bool.toNat_true,
      Bool.toNat_false]
    omega

/-- A step of the executor is one on some check. -/
private theorem exists_executor_step (i : ι) {readings : CheckReadings}
    (h : (∃ e, s.executor.start services.conf = some e) ∨
      ∃ k e, s.executor.finish services.conf k readings = some e) :
    ∃ a s', a.serves i = true ∧ Step services s a s' := by
  rcases h with ⟨e, hst⟩ | ⟨k, e, hf⟩
  · obtain ⟨check, rest, hqueue, -, -⟩ := CheckExecutor.start_eq_some hst
    exact ⟨.startCheck check.resolveTx, _, rfl, .startCheck (by rw [hqueue]; rfl) hst⟩
  · obtain ⟨check, hk, -⟩ := CheckExecutor.finish_eq_some hf
    exact ⟨.finishCheck check.resolveTx, _, rfl, .finishCheck hk hf⟩

private theorem lt_28 : 28 < 8210266876800 := by decide

private def twoServices : Services Bool :=
  ⟨⟨0, 1, "us"⟩, fun _ => Scheduler.startingAt 28 lt_28, fun _ => rfl⟩

private def both (executor : CheckExecutor) (first second : Scheduler.State) : State Bool :=
  ⟨executor, fun i => bif i then second else first⟩

/-- The first of two partitions moves. -/
private theorem step_first {executor : CheckExecutor} {first second t : Scheduler.State}
    {a : Scheduler.Action} (h : Scheduler.Step (Scheduler.startingAt 28 (by decide))
      { first with executor := executor } a t) (ha : a.isExecutor = false) :
    Step twoServices (both executor first second) (.scheduler false a)
      (both t.executor t second) := by
  have hafter : (both executor first second).after false t = both t.executor t second := by
    refine congrArg (State.mk t.executor) (funext fun i => ?_)
    cases i <;> rfl
  exact hafter ▸ .scheduler h ha

/-- The second one moves. -/
private theorem step_second {executor : CheckExecutor} {first second t : Scheduler.State}
    {a : Scheduler.Action} (h : Scheduler.Step (Scheduler.startingAt 28 (by decide))
      { second with executor := executor } a t) (ha : a.isExecutor = false) :
    Step twoServices (both executor first second) (.scheduler true a)
      (both t.executor first t) := by
  have hafter : (both executor first second).after true t = both t.executor first t := by
    refine congrArg (State.mk t.executor) (funext fun i => ?_)
    cases i <;> rfl
  exact hafter ▸ .scheduler h ha

end Services

end UptimeChecker
