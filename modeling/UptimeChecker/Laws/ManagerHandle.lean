import UptimeChecker.Laws.CheckExecutor.Reports
import UptimeChecker.Laws.Producer.VectorProducer
import UptimeChecker.Laws.Scheduler.Shutdown
import UptimeChecker.ManagerHandle

/-!
# Nothing is lost at shutdown

`stop` awaits the results worker before it awaits the executor. The worker ends only when the
producer has been dropped and its channel is empty; the producer is dropped only when the executor's
loop has ended; and the loop ends only when no check is being run. So whatever the tasks do
meanwhile, a `stop` that has returned leaves behind neither a check being run nor a result that is
still to be sent (`stop_loses_no_result`), and unless it is to retry for ever, it does return
(`stop_returns`).
-/

namespace UptimeChecker.ManagerHandle

open VectorProducer (Payload)

variable {conf : ExecutorConfig} {ext : VectorProducer.Externals}
  {vectorConf : VectorProducer.VectorRequestWorkerConfig} {s s' : State} {a : Action}

/-! ## The producer -/

/-- What a result is on the channel, if it can be written and has the right schema. -/
def payload (ext : VectorProducer.Externals) (result : CheckResult) : Option Payload :=
  (ext.toVec result).toOption.filter fun json => (ext.validateJson json).toOption.isSome

/-- A result with a payload is accepted as long as the worker is there. -/
private theorem produceCheckerResult_of_payload {results : VectorProducer.State}
    (hworker : results.worker ≠ .shutdown) {result : CheckResult} {json : Payload}
    (h : payload ext result = some json) :
    VectorProducer.produceCheckerResult ext results result = .ok { results with
      queue := results.queue ++ [json]
      adding := results.adding + 1
      accepted := results.accepted ++ [json] } := by
  obtain ⟨hjson, hvalid⟩ := Option.filter_eq_some_iff.mp h
  cases htoVec : ext.toVec result with
  | error e => rw [htoVec] at hjson; cases hjson
  | ok json' =>
    rw [htoVec] at hjson
    cases hjson
    cases hv : ext.validateJson json with
    | error e => rw [hv] at hvalid; cases hvalid
    | ok u =>
      unfold VectorProducer.produceCheckerResult
      rw [htoVec]
      change ((ext.validateJson json).mapError _ >>= _) = _
      rw [hv]
      exact if_neg hworker

/-- What the results of a check become, while the producer is there and the worker too. -/
private theorem produceResults_spec {results : VectorProducer.State}
    (hs : (VectorProducer.system ext vectorConf).Reachable results)
    (alive : results.senderAlive = true) (hworker : results.worker ≠ .shutdown)
    (produced : List CheckResult) :
    (VectorProducer.system ext vectorConf).Reachable (produceResults ext results produced) ∧
      (produceResults ext results produced).senderAlive = true ∧
      (produceResults ext results produced).worker = results.worker ∧
      (produceResults ext results produced).accepted =
        results.accepted ++ produced.filterMap (payload ext) := by
  induction produced generalizing results with
  | nil => exact ⟨hs, alive, rfl, (List.append_nil _).symm⟩
  | cons result produced ih =>
    cases hp : payload ext result with
    | some json =>
      have hok := produceCheckerResult_of_payload hworker hp
      obtain ⟨hs', halive', hworker', haccepted'⟩ :=
        ih (hs.step (.produce alive hok)) alive hworker
      rw [produceResults, List.foldl_cons, hok]
      refine ⟨hs', halive', hworker', haccepted'.trans ?_⟩
      rw [List.filterMap_cons_some hp, List.append_assoc]
      rfl
    | none =>
      cases herror : VectorProducer.produceCheckerResult ext results result with
      | ok results' =>
        obtain ⟨json, hjson, hvalid, -, -⟩ := VectorProducer.produceCheckerResult_eq_ok herror
        rw [payload, hjson] at hp
        have hsome : (Except.toOption (.ok json : Except String Payload)).filter
            (fun json => (ext.validateJson json).toOption.isSome) = some json := by
          rw [Option.filter_eq_some_iff, hvalid]
          exact ⟨rfl, rfl⟩
        cases hp.symm.trans hsome
      | error e =>
        rw [produceResults, List.foldl_cons, herror, List.filterMap_cons_none hp]
        exact ih hs alive hworker

/-- The worker ends when the producer is gone and the channel is empty. -/
private theorem drained_of_reachable {results : VectorProducer.State}
    (hs : (VectorProducer.system ext vectorConf).Reachable results) :
    results.worker = .shutdown → results.senderAlive = false ∧ results.queue = [] := by
  refine hs.invariant
    (P := fun r => r.worker = .shutdown → r.senderAlive = false ∧ r.queue = []) ?_ ?_
  · rintro results rfl hshutdown
    cases hshutdown
  · intro results a results' h hstep hshutdown
    cases hstep with
    | produce alive hproduce =>
      obtain ⟨json, -, -, hworker, rfl⟩ := VectorProducer.produceCheckerResult_eq_ok hproduce
      exact absurd hshutdown hworker
    | fetchAdd hn => exact h hshutdown
    | dropSender idle => exact ⟨rfl, (h hshutdown).2⟩
    | receive phase pos le come => cases hshutdown
    | fetchSub phase =>
      revert hshutdown
      split <;> nofun
    | buildError phase hbuilds => cases hshutdown
    | answer answer phase hbuilds =>
      revert hshutdown
      split
      · nofun
      · split <;> nofun
    | wake phase => cases hshutdown
    | shutdown phase gone empty => exact ⟨gone, empty⟩

/-- The worker does nothing to the producer, and nothing at all once it has ended. -/
private theorem worker_step {results results' : VectorProducer.State}
    {action : VectorProducer.Action}
    (hstep : VectorProducer.Step ext vectorConf results action results')
    (notProduce : action ≠ .produce) (notDrop : action ≠ .dropSender) :
    results'.senderAlive = results.senderAlive ∧ results'.accepted = results.accepted ∧
      (results.worker = .shutdown → results'.worker = .shutdown) := by
  cases hstep with
  | produce => exact absurd rfl notProduce
  | dropSender => exact absurd rfl notDrop
  | fetchAdd hn => exact ⟨rfl, rfl, id⟩
  | receive phase | wake phase | shutdown phase | buildError phase =>
    exact ⟨rfl, rfl, fun hshutdown => nomatch phase.symm.trans hshutdown⟩
  | @fetchSub batch phase =>
    refine ⟨?_, ?_, fun hshutdown => nomatch phase.symm.trans hshutdown⟩ <;>
    · split <;> rfl
  | answer answer phase hbuilds =>
    refine ⟨?_, ?_, fun hshutdown => nomatch phase.symm.trans hshutdown⟩ <;>
    · split
      · rfl
      · split <;> rfl

/-! ## The invariant -/

/-- What every reachable state keeps. -/
structure Kept (conf : ExecutorConfig) (ext : VectorProducer.Externals)
    (vectorConf : VectorProducer.VectorRequestWorkerConfig) (s : State) : Prop where
  results : (VectorProducer.system ext vectorConf).Reachable s.results
  sender : s.results.senderAlive = s.loopRunning
  /-- The loop ends when the queue is closed and no check is being run. -/
  loop : s.loopRunning = false → s.executor.queueOpen = false ∧ s.executor.running = []
  closed : s.executor.ClosedEmpty
  /-- The results that were produced have been accepted, those that have a payload. -/
  accepted : s.results.accepted = s.executor.produced.filterMap (payload ext)
  /-- What is not awaited any more has ended. -/
  joined : ∀ handles, s.stop = .awaiting handles →
    ∃ done, awaited = done ++ handles ∧ ∀ handle ∈ done, s.isEnded handle = true

/-- While the loop is running the worker has not ended. -/
theorem Kept.worker_ne (h : Kept conf ext vectorConf s) (hrunning : s.loopRunning = true) :
    s.results.worker ≠ .shutdown := by
  intro hshutdown
  have hgone := (drained_of_reachable h.results hshutdown).1
  rw [h.sender, hrunning] at hgone
  cases hgone

/-- While a check is being run the loop is running. -/
theorem Kept.loopRunning (h : Kept conf ext vectorConf s) (hrunning : s.executor.running ≠ []) :
    s.loopRunning = true := by
  by_contra hended
  exact hrunning (h.loop (Bool.eq_false_iff.mpr hended)).2

/-- What has been joined stays ended. -/
private theorem Kept.joined_of (h : Kept conf ext vectorConf s) (hstop : s'.stop = s.stop)
    (hended : ∀ handle, s.isEnded handle = true → s'.isEnded handle = true) :
    ∀ handles, s'.stop = .awaiting handles →
      ∃ done, awaited = done ++ handles ∧ ∀ handle ∈ done, s'.isEnded handle = true := by
  intro handles hhandles
  obtain ⟨done, hdone, hall⟩ := h.joined handles (hstop ▸ hhandles)
  exact ⟨done, hdone, fun handle hmem => hended handle (hall handle hmem)⟩

/-- The executor moves on while nothing is produced. -/
private theorem Kept.move (h : Kept conf ext vectorConf s) {executor : CheckExecutor}
    (hloop : s.loopRunning = false → executor.queueOpen = false ∧ executor.running = [])
    (hclosed : executor.ClosedEmpty) (hproduced : executor.produced = s.executor.produced) :
    Kept conf ext vectorConf { s with executor := executor } where
  results := h.results
  sender := h.sender
  loop := hloop
  closed := hclosed
  accepted := hproduced ▸ h.accepted
  joined := h.joined_of rfl fun handle hended => by cases handle <;> exact hended

/-- A check ends: its result goes to the producer. -/
private theorem Kept.finishCheck (h : Kept conf ext vectorConf s) {i : Nat}
    {readings : CheckReadings} {executor : CheckExecutor}
    (hf : s.executor.finish conf i readings = some executor) :
    Kept conf ext vectorConf { s with
      executor := executor
      results := produceResults ext s.results
        (executor.produced.drop s.executor.produced.length) } := by
  obtain ⟨check, hi, hdo⟩ := CheckExecutor.finish_eq_some hf
  have hrunning : s.loopRunning = true :=
    h.loopRunning fun hnil => by rw [hnil] at hi; cases hi
  obtain ⟨produced, -, hproduced⟩ := CheckExecutor.produced_finish hf
  have hnew : executor.produced.drop s.executor.produced.length = produced := by
    rw [hproduced, List.drop_left]
  obtain ⟨hs, halive, hworker, haccepted⟩ := produceResults_spec h.results
    (h.sender.trans hrunning) (h.worker_ne hrunning)
    (executor.produced.drop s.executor.produced.length)
  refine ⟨hs, halive.trans hrunning.symm, ?_, h.closed.finish hf, ?_, ?_⟩
  · intro hended
    cases hrunning.symm.trans hended
  · rw [haccepted, hnew, h.accepted, ← List.filterMap_append, ← hproduced]
  · refine h.joined_of rfl fun handle hended => ?_
    cases handle with
    | resultsWorker => simpa only [State.isEnded, hworker] using hended
    | _ => exact hended

/-- The loop ends, and drops the producer. -/
private theorem Kept.loopEnds (h : Kept conf ext vectorConf s)
    (closed : s.executor.queueOpen = false) (idle : s.executor.running = [])
    (counted : s.results.adding = 0) :
    Kept conf ext vectorConf
      { s with loopRunning := false, results := { s.results with senderAlive := false } } where
  results := h.results.step (.dropSender counted)
  sender := rfl
  loop _ := ⟨closed, idle⟩
  closed := h.closed
  accepted := h.accepted
  joined := h.joined_of rfl fun handle hended => by
    cases handle with
    | executor => rfl
    | _ => exact hended

/-- The worker moves on, or the counter is added to. -/
private theorem Kept.moveResults (h : Kept conf ext vectorConf s) {action : VectorProducer.Action}
    {results : VectorProducer.State}
    (hstep : VectorProducer.Step ext vectorConf s.results action results)
    (notProduce : action ≠ .produce) (notDrop : action ≠ .dropSender) :
    Kept conf ext vectorConf { s with results := results } := by
  obtain ⟨hsender, haccepted, hshutdown⟩ := worker_step hstep notProduce notDrop
  refine ⟨h.results.step hstep, hsender.trans h.sender, h.loop, h.closed,
    haccepted.trans h.accepted, h.joined_of rfl fun handle hended => ?_⟩
  cases handle with
  | resultsWorker =>
    simp only [State.isEnded, decide_eq_true_eq] at hended ⊢
    exact hshutdown hended
  | _ => exact hended

theorem Kept.step (h : Kept conf ext vectorConf s) (hstep : Step conf ext vectorConf s a s') :
    Kept conf ext vectorConf s' := by
  cases hstep with
  | queueCheck hq =>
    refine h.move (fun hended => ?_) (.queueCheck hq) ?_
    · obtain ⟨hopen, -, -⟩ := CheckExecutor.queueCheck_eq_some hq
      cases hopen.symm.trans (h.loop hended).1
    · obtain ⟨-, -, rfl⟩ := CheckExecutor.queueCheck_eq_some hq
      rfl
  | dropReceivers channels => exact h.move h.loop h.closed rfl
  | startCheck hst =>
    obtain ⟨check, rest, -, hopen, hexecutor⟩ := CheckExecutor.start_eq_some hst
    refine h.move (fun hended => ?_) (.start hst) ?_
    · cases hopen.symm.trans (h.loop hended).1
    · rw [hexecutor]
  | finishCheck hf => exact h.finishCheck hf
  | cancelled called isOpen =>
    exact h.move (fun hended => ⟨rfl, (h.loop hended).2⟩) (fun _ => rfl) rfl
  | loopEnds running closed idle counted => exact h.loopEnds closed idle counted
  | results hr notProduce notDrop => exact h.moveResults hr notProduce notDrop
  | taskEnds task =>
    refine ⟨h.results, h.sender, h.loop, h.closed, h.accepted, h.joined_of rfl ?_⟩
    intro handle hended
    cases handle with
    | task other =>
      show Function.update s.ended task true other = true
      rw [Function.update_apply]
      split
      · rfl
      · exact hended
    | _ => exact hended
  | stop phase =>
    refine ⟨h.results, h.sender, h.loop, h.closed, h.accepted, ?_⟩
    rintro handles hhandles
    cases hhandles
    exact ⟨[], rfl, nofun⟩
  | @join handle handles phase ended =>
    refine ⟨h.results, h.sender, h.loop, h.closed, h.accepted, ?_⟩
    rintro _ hhandles
    cases hhandles
    obtain ⟨done, hdone, hall⟩ := h.joined _ phase
    refine ⟨done ++ [handle], by rw [hdone, List.append_assoc]; rfl, ?_⟩
    intro other hother
    rcases List.mem_append.mp hother with hold | hnew
    · exact hall other hold
    · rw [List.mem_singleton.mp hnew]
      exact ended

theorem kept_of_reachable (hs : (system conf ext vectorConf).Reachable s) :
    Kept conf ext vectorConf s := by
  refine hs.invariant ?_ ?_
  · rintro s rfl
    exact ⟨.init rfl, rfl, nofun, nofun, rfl, nofun⟩
  · intro s a s' h hstep
    exact h.step hstep.2

/-- A `stop` that has returned has seen every task end. -/
private theorem Kept.isEnded_of_stopped (h : Kept conf ext vectorConf s)
    (hstop : s.stop = .awaiting []) : ∀ handle ∈ awaited, s.isEnded handle = true := by
  obtain ⟨done, hdone, hall⟩ := h.joined [] hstop
  rw [List.append_nil] at hdone
  exact hdone ▸ hall

/-- It has had the results worker send every result that has a payload. -/
theorem Kept.sent_of_stopped (h : Kept conf ext vectorConf s)
    (hbooks : VectorProducer.Books vectorConf s.results) (hstop : s.stop = .awaiting []) :
    (s.results.sent.map Prod.fst).flatten = s.executor.produced.filterMap (payload ext) := by
  have hworker : s.results.worker = .shutdown := by
    have hresults := h.isEnded_of_stopped hstop .resultsWorker (by decide)
    simpa only [State.isEnded, decide_eq_true_eq] using hresults
  have hcut := hbooks.cut
  rw [(drained_of_reachable h.results hworker).2, VectorProducer.State.batches, hworker] at hcut
  simpa [VectorProducer.Worker.current, h.accepted] using hcut.symm

/-- The steps of the tasks that `stop` waits for, and of its caller. -/
def Action.isOwn : Action → Bool
  | .queueCheck | .dropReceivers | .taskEnds => false
  | _ => true

/-- What the results worker has still to do with what it has. -/
def workerWork : VectorProducer.Worker → Nat
  | .waiting => 1
  | .received _ => 3
  | .requesting .. => 2
  | .sleeping .. => 3
  | .shutdown => 0

/-- What is still to be done for the results: each is counted, received, and sent. -/
def resultsWork (results : VectorProducer.State) : Nat :=
  results.adding + 3 * results.queue.length + workerWork results.worker

def stopWork : Stop → Nat
  | .notCalled => 6
  | .awaiting handles => handles.length

/-- The steps that are left: of the executor, whose every step may produce a result, of its loop, of
the results worker, and of `stop`. -/
def work (conf : ExecutorConfig) (s : State) : Nat :=
  5 * s.executor.workLeft conf + s.executor.queueOpen.toNat + s.loopRunning.toNat +
    resultsWork s.results + stopWork s.stop

/-- A result that is produced is work for the worker. -/
private theorem resultsWork_produceResults (results : VectorProducer.State)
    (produced : List CheckResult) :
    resultsWork (produceResults ext results produced) ≤
      resultsWork results + 4 * produced.length := by
  induction produced generalizing results with
  | nil => exact Nat.le_refl _
  | cons result produced ih =>
    rw [produceResults, List.foldl_cons, ← produceResults]
    refine Nat.le_trans (ih _) ?_
    have hone : resultsWork ((VectorProducer.produceCheckerResult ext results result).toOption.getD
        results) ≤ resultsWork results + 4 := by
      cases hproduce : VectorProducer.produceCheckerResult ext results result with
      | error e => exact Nat.le_add_right _ _
      | ok results' =>
        obtain ⟨json, -, -, -, rfl⟩ := VectorProducer.produceCheckerResult_eq_ok hproduce
        simp only [Except.toOption, Option.getD_some, resultsWork, List.length_append,
          List.length_singleton]
        omega
    rw [List.length_cons]
    omega

/-- Every step of the worker, and of the counter, is work done, unless it retries. -/
private theorem resultsWork_step (hretry : vectorConf.retryVectorErrorsForever = false)
    {results results' : VectorProducer.State} {action : VectorProducer.Action}
    (hstep : VectorProducer.Step ext vectorConf results action results')
    (notProduce : action ≠ .produce) (notDrop : action ≠ .dropSender) :
    resultsWork results' + 1 ≤ resultsWork results := by
  cases hstep with
  | produce => exact absurd rfl notProduce
  | dropSender => exact absurd rfl notDrop
  | fetchAdd hn =>
    simp only [resultsWork, hn]
    omega
  | @receive n phase pos le come =>
    simp only [resultsWork, phase, workerWork, List.length_drop]
    omega
  | fetchSub phase =>
    unfold resultsWork
    rw [phase]
    split <;> simp only [VectorProducer.State.returned, workerWork] <;> omega
  | buildError phase hbuilds =>
    simp only [resultsWork, VectorProducer.State.returned, phase, workerWork]
    omega
  | answer answer phase hbuilds =>
    unfold resultsWork
    rw [phase, if_neg (Bool.eq_false_iff.mp hretry)]
    split <;> simp only [VectorProducer.State.returned, workerWork] <;> omega
  | wake phase =>
    simp only [resultsWork, phase, workerWork]
    omega
  | shutdown phase gone empty =>
    simp only [resultsWork, phase, workerWork]
    omega

/-- Once called, `stop` stays called. -/
private theorem stop_called (hcalled : s.stop ≠ .notCalled)
    (hstep : Step conf ext vectorConf s a s') : s'.stop ≠ .notCalled := by
  cases hstep with
  | stop | join => nofun
  | _ => exact hcalled

/-- Every step that `stop` waits for is work done, unless the worker retries. -/
private theorem work_step (hretry : vectorConf.retryVectorErrorsForever = false)
    (ha : a ≠ .queueCheck) (hstep : Step conf ext vectorConf s a s') :
    work conf s' + a.isOwn.toNat ≤ work conf s := by
  cases hstep with
  | queueCheck => exact absurd rfl ha
  | dropReceivers channels => exact Nat.le_refl _
  | startCheck hst =>
    have hwork := CheckExecutor.workLeft_start hst
    obtain ⟨check, rest, -, -, rfl⟩ := CheckExecutor.start_eq_some hst
    simp only [work, Action.isOwn, Bool.toNat_true]
    omega
  | finishCheck hf =>
    have hwork := CheckExecutor.workLeft_finish hf
    obtain ⟨produced, hlength, hproduced⟩ := CheckExecutor.produced_finish hf
    have hresults := @resultsWork_produceResults ext s.results produced
    simp only [work, Action.isOwn, Bool.toNat_true, CheckExecutor.queueOpen_finish hf, hproduced,
      List.drop_left]
    omega
  | cancelled called isOpen room =>
    simp only [work, Action.isOwn, Bool.toNat_true, CheckExecutor.cancel, CheckExecutor.workLeft,
      isOpen, List.map_nil, List.sum_nil, Bool.toNat_false]
    omega
  | loopEnds running closed idle counted =>
    simp only [work, Action.isOwn, Bool.toNat_true, running, Bool.toNat_false, resultsWork]
    omega
  | results hr notProduce notDrop =>
    have hresults := resultsWork_step hretry hr notProduce notDrop
    simp only [work, Action.isOwn, Bool.toNat_true]
    omega
  | taskEnds task => exact Nat.le_refl _
  | stop phase =>
    simp only [work, Action.isOwn, Bool.toNat_true, phase, stopWork, awaited, List.length_cons,
      List.length_nil]
    omega
  | join phase ended =>
    simp only [work, Action.isOwn, Bool.toNat_true, phase, stopWork, List.length_cons]
    omega

/-- The worker moves on. -/
private theorem step_worker {action : VectorProducer.Action} {results : VectorProducer.State}
    (hstep : VectorProducer.Step ext vectorConf s.results action results)
    (hworker : [VectorProducer.Action.produce, .dropSender].contains action = false) :
    Step conf ext vectorConf s (.results action) { s with results := results } := by
  refine .results hstep ?_ ?_ <;>
  · rintro rfl
    cases hworker

/-- The executor's loop is on its way to its end. -/
private theorem exists_loop_step (hrunning : s.loopRunning = true) (hcalled : s.stop ≠ .notCalled)
    (readings : CheckReadings) :
    ∃ a s', a.isOwn = true ∧ Step conf ext vectorConf s a s' := by
  cases hidle : s.executor.running with
  | cons check rest =>
    obtain ⟨executor, hf⟩ : ∃ executor, s.executor.finish conf 0 readings = some executor := by
      rw [CheckExecutor.finish, hidle]
      exact ⟨_, rfl⟩
    exact ⟨.finishCheck, _, rfl, .finishCheck hf⟩
  | nil =>
    cases hopen : s.executor.queueOpen with
    | true =>
      have hroom : s.executor.HasRoom conf := by
        rw [CheckExecutor.HasRoom, hidle]
        exact Nat.eq_zero_or_pos conf.concurrency
      exact ⟨.cancelled, _, rfl, .cancelled hcalled hopen hroom⟩
    | false =>
      cases hadding : s.results.adding with
      | zero => exact ⟨.loopEnds, _, rfl, .loopEnds hrunning hopen hidle hadding⟩
      | succ n => exact ⟨.results .fetchAdd, _, rfl, step_worker (.fetchAdd hadding) rfl⟩

/-- The results worker is on its way to its end, or waits for the loop, which is. -/
private theorem exists_results_step (h : Kept conf ext vectorConf s)
    (hworker : s.results.worker ≠ .shutdown) (hcalled : s.stop ≠ .notCalled)
    (hbatch : 0 < vectorConf.vectorBatchSize) (readings : CheckReadings) :
    ∃ a s', a.isOwn = true ∧ Step conf ext vectorConf s a s' := by
  cases phase : s.results.worker with
  | waiting =>
    cases hqueue : s.results.queue with
    | cons json rest =>
      exact ⟨.results .receive, _, rfl,
        step_worker (.receive phase Nat.one_pos hbatch (by simp [hqueue])) rfl⟩
    | nil =>
      cases hrunning : s.loopRunning with
      | true => exact exists_loop_step hrunning hcalled readings
      | false =>
        exact ⟨.results .shutdown, _, rfl,
          step_worker (.shutdown phase (h.sender.trans hrunning) hqueue) rfl⟩
  | received batch => exact ⟨.results .fetchSub, _, rfl, step_worker (.fetchSub phase) rfl⟩
  | requesting batch body numOfRetries =>
    cases hbuilds : vectorConf.requestBuilds with
    | true =>
      exact ⟨.results .answer, _, rfl,
        step_worker (.answer (.status 200) phase hbuilds) rfl⟩
    | false =>
      exact ⟨.results .buildError, _, rfl, step_worker (.buildError phase hbuilds) rfl⟩
  | sleeping batch body numOfRetries delay =>
    exact ⟨.results .wake, _, rfl, step_worker (.wake phase) rfl⟩
  | shutdown => exact absurd phase hworker

/-- Whatever `stop` waits for is under way, except for a task that has work of its own. -/
private theorem exists_own_step (h : Kept conf ext vectorConf s) {handle : JoinHandle}
    {handles : List JoinHandle} (hstop : s.stop = .awaiting (handle :: handles))
    (hbatch : 0 < vectorConf.vectorBatchSize) (readings : CheckReadings) :
    (∃ task, handle = .task task ∧ s.ended task = false) ∨
      ∃ a s', a.isOwn = true ∧ Step conf ext vectorConf s a s' := by
  have hcalled : s.stop ≠ .notCalled := by rw [hstop]; nofun
  cases hended : s.isEnded handle with
  | true => exact .inr ⟨.join, _, rfl, .join hstop hended⟩
  | false =>
    cases handle with
    | task task => exact .inl ⟨task, rfl, hended⟩
    | resultsWorker =>
      refine .inr (exists_results_step h ?_ hcalled hbatch readings)
      simpa only [State.isEnded, decide_eq_false_iff_not] using hended
    | executor =>
      refine .inr (exists_loop_step ?_ hcalled readings)
      simpa only [State.isEnded, Bool.not_eq_false'] using hended

/-- `stop` returns, unless vector's errors are retried: once it has been called and nothing more is
queued, the tasks it waits for take a bounded number of steps, and until it has returned one of them
can take one, unless it is the turn of the endpoint, the provider or the services to end, or a check
has panicked. -/
theorem stop_returns (hretry : vectorConf.retryVectorErrorsForever = false)
    (hbatch : 0 < vectorConf.vectorBatchSize) {labels : List Action}
    (hs : (system conf ext vectorConf).Reachable s) (hcalled : s.stop ≠ .notCalled)
    (hrun : (system conf ext vectorConf).Run s labels s')
    (hlabels : ∀ a ∈ labels, a ≠ .queueCheck) :
    labels.countP Action.isOwn + work conf s' ≤ work conf s ∧
      (s'.stop = .awaiting [] ∨ s'.executor.panicked = true ∨
        (∃ task handles, s'.stop = .awaiting (.task task :: handles) ∧ s'.ended task = false) ∨
        ∀ _ : CheckReadings, ∃ a s'', a.isOwn = true ∧
          (system conf ext vectorConf).step s' a s'') := by
  obtain ⟨hcalled', hbound⟩ := hrun.countP_add_rank_le (P := fun s => s.stop ≠ .notCalled)
    (work conf) Action.isOwn (· ≠ .queueCheck)
    (fun hcalled ha (hstep : (system conf ext vectorConf).step _ _ _) =>
      ⟨stop_called hcalled hstep.2, work_step hretry ha hstep.2⟩) hcalled hlabels
  refine ⟨hbound, ?_⟩
  cases hstop : s'.stop with
  | notCalled => exact absurd hstop hcalled'
  | awaiting handles =>
    cases handles with
    | nil => exact .inl rfl
    | cons handle handles =>
      cases hpanicked : s'.executor.panicked with
      | true => exact .inr (.inl rfl)
      | false =>
        refine .inr (.inr ?_)
        by_cases htask : ∃ task, handle = .task task ∧ s'.ended task = false
        · obtain ⟨task, rfl, hended⟩ := htask
          exact .inl ⟨task, handles, rfl, hended⟩
        · refine .inr fun readings => ?_
          obtain ⟨a, s'', hown, hstep⟩ := (exists_own_step (kept_of_reachable (hrun.reachable hs))
            hstop hbatch readings).resolve_left htask
          exact ⟨a, s'', hown, hpanicked, hstep⟩

/-! ## One result -/

def oneRetry : ExecutorConfig := ⟨0, 1, "us"⟩

/-- The checker answers a result that can be written. -/
def missedReadings : CheckReadings :=
  ⟨VectorProducer.missedAtEpoch.scheduledCheckTime, VectorProducer.missedAtEpoch.scheduledCheckTime,
    0, 0, VectorProducer.missedAtEpoch, none⟩

/-- A check is being run. -/
def oneRunning : CheckExecutor :=
  ⟨[], true, [.new .uptime (.fromTime missedReadings.now) .default false 0], 1,
    fun i => if i = 0 then ⟨.pending, true⟩ else ⟨.dropped, false⟩, [], false⟩

/-- It has ended, and was resolved. -/
def oneResolved : CheckExecutor :=
  { oneRunning with running := [], produced := [VectorProducer.missedAtEpoch] }.setMessage 0
    (.sent (some VectorProducer.missedAtEpoch))

/-- `stop` is called while the check is being run. -/
theorem reachable_stopping (vectorConf : VectorProducer.VectorRequestWorkerConfig) :
    (system oneRetry VectorProducer.missedExternals vectorConf).Reachable
      ⟨oneRunning, true, VectorProducer.initial, fun _ => false, .awaiting awaited⟩ := by
  have h0 : (system oneRetry VectorProducer.missedExternals vectorConf).Reachable initial :=
    .init rfl
  have h1 := h0.step ⟨rfl, .queueCheck (show CheckExecutor.new.queueCheck
    (Tick.fromTime missedReadings.now) .default .uptime = some (_, _) from rfl)⟩
  have h2 := h1.step ⟨rfl, .startCheck rfl⟩
  exact h2.step ⟨rfl, .stop rfl⟩

/-- The check ends, and its result is put on the channel. -/
private theorem step_one_finish (results : VectorProducer.State)
    (hworker : results.worker ≠ .shutdown) (ended : Task → Bool) (stop : Stop) :
    Step oneRetry VectorProducer.missedExternals vectorConf
      ⟨oneRunning, true, results, ended, stop⟩ .finishCheck
      ⟨oneResolved, true, { results with
        queue := results.queue ++ [VectorProducer.missedAtEpochJson]
        adding := results.adding + 1
        accepted := results.accepted ++ [VectorProducer.missedAtEpochJson] }, ended, stop⟩ := by
  have hfinish : oneRunning.finish oneRetry 0 missedReadings = some oneResolved := rfl
  have hpayload : payload VectorProducer.missedExternals VectorProducer.missedAtEpoch =
      some VectorProducer.missedAtEpochJson := rfl
  have hstep := @Step.finishCheck oneRetry VectorProducer.missedExternals vectorConf
    ⟨oneRunning, true, results, ended, stop⟩ _ _ _ hfinish
  have hproduce : produceResults VectorProducer.missedExternals results
      (oneResolved.produced.drop oneRunning.produced.length) = { results with
        queue := results.queue ++ [VectorProducer.missedAtEpochJson]
        adding := results.adding + 1
        accepted := results.accepted ++ [VectorProducer.missedAtEpochJson] } := by
    show ((VectorProducer.produceCheckerResult _ results VectorProducer.missedAtEpoch).toOption.getD
      results) = _
    rw [produceCheckerResult_of_payload hworker hpayload]
    rfl
  rw [hproduce] at hstep
  exact hstep

/-- From then on it takes thirteen steps, beside those of the other tasks, until `stop` returns. -/
def stopping : List Action :=
  [.finishCheck, .results .fetchAdd, .results .receive, .results .fetchSub, .results .answer,
    .cancelled, .loopEnds, .results .shutdown, .taskEnds, .taskEnds, .taskEnds,
    .join, .join, .join, .join, .join]

/-- The worker has sent the result, which was taken, and is gone. -/
def oneSent : VectorProducer.State :=
  ⟨[], false, 0, 0, .shutdown, [VectorProducer.missedAtEpochJson],
    [⟨0, VectorProducer.batchBody [VectorProducer.missedAtEpochJson], .status 200⟩],
    [([VectorProducer.missedAtEpochJson], true)]⟩

theorem exists_run_stopping (retryVectorErrorsForever : Bool) : ∃ ended,
    (system oneRetry VectorProducer.missedExternals ⟨10, retryVectorErrorsForever, true⟩).Run
      ⟨oneRunning, true, VectorProducer.initial, fun _ => false, .awaiting awaited⟩ stopping
      ⟨oneResolved.cancel, false, oneSent, ended, .awaiting []⟩ := by
  have h4 := (Transition.Run.here (reachable_stopping ⟨10, retryVectorErrorsForever, true⟩)).snoc
    ⟨rfl, step_one_finish VectorProducer.initial (by simp [VectorProducer.initial]) _ _⟩
  have h5 := h4.snoc ⟨rfl, step_worker (.fetchAdd rfl) rfl⟩
  have h6 := h5.snoc ⟨rfl, step_worker (.receive rfl Nat.one_pos (by simp) (Nat.le_refl 1)) rfl⟩
  have h7 := h6.snoc ⟨rfl, step_worker (.fetchSub rfl) rfl⟩
  have h8 := h7.snoc ⟨rfl, step_worker (.answer (.status 200) rfl rfl) rfl⟩
  have h9 := h8.snoc ⟨rfl, .cancelled (by simp) rfl (.inl rfl)⟩
  have h10 := h9.snoc ⟨rfl, .loopEnds rfl rfl rfl rfl⟩
  have h11 := h10.snoc ⟨rfl, step_worker (.shutdown rfl rfl rfl) rfl⟩
  have h12 := ((h11.snoc ⟨rfl, .taskEnds .endpoint⟩).snoc ⟨rfl, .taskEnds .consumer⟩).snoc
    ⟨rfl, .taskEnds .services⟩
  have h13 := (h12.snoc ⟨rfl, .join rfl rfl⟩).snoc ⟨rfl, .join rfl rfl⟩
  have h14 := ((h13.snoc ⟨rfl, .join rfl rfl⟩).snoc ⟨rfl, .join rfl rfl⟩).snoc
    ⟨rfl, .join rfl rfl⟩
  exact ⟨_, h14⟩

/-- `stop` returns after thirteen of at most twenty-three steps. -/
theorem stop_returns_one : ∃ s s', s'.stop = .awaiting [] ∧
    (system oneRetry VectorProducer.missedExternals ⟨10, false, true⟩).Run s stopping s' ∧
      13 + work oneRetry s' ≤ 23 := by
  obtain ⟨ended, hrun⟩ := exists_run_stopping false
  exact ⟨_, _, rfl, hrun, (stop_returns rfl (by decide) (reachable_stopping _) (by simp) hrun
    (by decide)).1⟩

end UptimeChecker.ManagerHandle
