import UptimeChecker.CheckExecutor.ExecutorLoop
import UptimeChecker.Laws.CheckExecutor

/-!
# Laws of the executor's loop

The phases of the tasks belong to the checks being run, and a task that requeues its check has one
that is retried: `Aligned`. So the operations of the executor that the loop takes apart come to the
same in the end: `executor_reachable`.
-/

namespace UptimeChecker.ExecutorLoop

open CheckExecutor (checkResult willRetry)

/-! ## What the ends of `do_check` leave behind -/

section
variable {conf : ExecutorConfig} {e e' : CheckExecutor} {i : Nat} {check : ScheduledCheck}
  {readings : CheckReadings}

/-- The same checks in the same places. -/
structure SameChecks (e e' : CheckExecutor) : Prop where
  queue : e'.queue = e.queue
  queueOpen : e'.queueOpen = e.queueOpen
  running : e'.running = e.running

/-- Recording a result moves no check, whatever the caller goes on with where that fails. -/
private theorem sameChecks_recordResult (check : ScheduledCheck) (result : Option CheckResult)
    {fallback : CheckExecutor} (h : SameChecks e fallback) :
    SameChecks e ((e.recordResult check result).getD fallback) := by
  unfold CheckExecutor.recordResult
  split
  · exact ⟨rfl, rfl, rfl⟩
  · exact h

/-- Without a retry, `do_check` leaves the queue and the other checks as they are. -/
theorem sameChecks_doCheck (stays : retries conf check readings = false) :
    SameChecks e (CheckExecutor.doCheck conf e check readings) := by
  unfold retries at stays
  unfold CheckExecutor.doCheck
  cases hresult : checkResult conf.region check readings with
  | none => exact sameChecks_recordResult check none ⟨rfl, rfl, rfl⟩
  | some result =>
    have hstays : willRetry conf.failureRetries check result = false := by
      rw [hresult] at stays
      exact stays
    simp only [hstays, Bool.false_eq_true, if_false]
    let handed := { e with produced := e.produced ++ [result] }
    have hsame : SameChecks handed (handed.expect (handed.recordResult check (some result))) :=
      sameChecks_recordResult check (some result) ⟨rfl, rfl, rfl⟩
    exact ⟨hsame.queue, hsame.queueOpen, hsame.running⟩

/-- What the end of a check does that is not retried. -/
theorem sameChecks_finish (run : e.running[i]? = some check)
    (stays : retries conf check readings = false) (h : e.finish conf i readings = some e') :
    SameChecks { e with running := e.running.eraseIdx i } e' := by
  unfold CheckExecutor.finish at h
  rw [run] at h
  cases h
  exact sameChecks_doCheck stays

/-- A retry is one more check in the queue, as long as that is open. -/
theorem sendRetry_of_open (alive : e.queueOpen = true) :
    sendRetry e i check =
      { e with
        queue := e.queue ++ [{ check with retryCount := check.retryCount + 1 }]
        running := e.running.eraseIdx i } := by
  simp only [sendRetry, CheckExecutor.queueCheckForRetry, alive, if_true]
  rfl

theorem sendRetry_of_closed (closed : e.queueOpen = false) :
    sendRetry e i check = { e with running := e.running.eraseIdx i, panicked := true } := by
  simp only [sendRetry, CheckExecutor.queueCheckForRetry, closed, Bool.false_eq_true, if_false]
  rfl

@[simp] theorem running_sendRetry : (sendRetry e i check).running = e.running.eraseIdx i := by
  cases hopen : e.queueOpen with
  | true => rw [sendRetry_of_open hopen]
  | false => rw [sendRetry_of_closed hopen]

@[simp] theorem queueOpen_sendRetry : (sendRetry e i check).queueOpen = e.queueOpen := by
  cases hopen : e.queueOpen with
  | true => rw [sendRetry_of_open hopen, hopen]
  | false => rw [sendRetry_of_closed hopen, hopen]

/-- For a check that is retried, that send is the end of the check. -/
theorem finish_of_retries (run : e.running[i]? = some check)
    (h : retries conf check readings = true) :
    e.finish conf i readings = some (sendRetry e i check) := by
  obtain ⟨result, hresult, hretry⟩ := (Option.any_eq_true _ _).mp h
  unfold CheckExecutor.finish CheckExecutor.doCheck
  simp only [run, Option.map_some, hresult, hretry, if_true]
  rfl

end

/-! ## Where the tasks are -/

/-- How many checks the closure has in its hands. -/
def LoopPhase.held : LoopPhase → Nat
  | .polling => 0
  | _ => 1

variable {conf : ExecutorConfig} {s s' : State} {a : Action}

/-- There is a task for each check being run but the one the closure has, and no more futures than
the limit; the check of a task that requeues is one that is retried. -/
structure Aligned (conf : ExecutorConfig) (s : State) : Prop where
  length : s.executor.running.length = s.tasks.length + s.loop.held
  limit : conf.concurrency = 0 ∨ s.futures + s.loop.held ≤ conf.concurrency
  requeueing : ∀ (i : Nat) (check : ScheduledCheck), s.tasks[i]? = some .requeueing →
    s.executor.running[i]? = some check → ∃ readings, retries conf check readings = true

theorem aligned_initial : Aligned conf initial := by
  refine ⟨rfl, ?_, ?_⟩
  · right
    exact Nat.zero_le conf.concurrency
  · intro i check htask _
    cases htask

private theorem exists_getElem?_eraseIdx (i j : Nat) :
    ∃ k : Nat, ∀ {α : Type} (l : List α), (l.eraseIdx i)[j]? = l[k]? := by
  by_cases hlt : j < i
  · exact ⟨j, fun l => List.getElem?_eraseIdx_of_lt hlt⟩
  · exact ⟨j + 1, fun l => List.getElem?_eraseIdx_of_ge (Nat.le_of_not_lt hlt)⟩

/-- A task ends, and its check with it. -/
private theorem Aligned.erase (h : Aligned conf s) {i : Nat} {check : ScheduledCheck}
    {task : TaskPhase} (htask : s.tasks[i]? = some task)
    (run : s.executor.running[i]? = some check)
    (hrunning : s'.executor.running = s.executor.running.eraseIdx i)
    (htasks : s'.tasks = s.tasks.eraseIdx i) (hloop : s'.loop = s.loop)
    (hended : s'.ended = s.ended + 1) : Aligned conf s' := by
  have hlength := List.length_eraseIdx_add_one (List.getElem?_eq_some_iff.mp run).1
  have hlengthTasks := List.length_eraseIdx_add_one (List.getElem?_eq_some_iff.mp htask).1
  refine ⟨?_, ?_, ?_⟩
  · rw [hrunning, htasks, hloop]
    have := h.length
    omega
  · have := h.limit
    simp only [State.futures, hended, htasks, hloop] at this ⊢
    omega
  · intro j check' hj hj'
    obtain ⟨k, hk⟩ := exists_getElem?_eraseIdx i j
    rw [htasks, hk] at hj
    rw [hrunning, hk] at hj'
    exact h.requeueing k check' hj hj'

/-- The closure gets a check: it comes after those that have a task. -/
private theorem Aligned.receive (h : Aligned conf s) (phase : s.loop = .polling)
    (room : s.HasRoom conf) (check : ScheduledCheck)
    (hrunning : s'.executor.running = s.executor.running ++ [check]) (htasks : s'.tasks = s.tasks)
    (hloop : s'.loop = .received) (hended : s'.ended = s.ended) : Aligned conf s' := by
  have hlength := h.length
  rw [phase] at hlength
  refine ⟨?_, ?_, ?_⟩
  · rw [hrunning, htasks, hloop, List.length_append, hlength]
    rfl
  · rw [State.futures, htasks, hended, hloop]
    exact room
  · intro i other htask hrun
    rw [htasks] at htask
    obtain ⟨hlt, -⟩ := List.getElem?_eq_some_iff.mp htask
    have hlt' : i < s.executor.running.length := hlength ▸ hlt
    rw [hrunning, List.getElem?_append_left hlt'] at hrun
    exact h.requeueing i other htask hrun

/-- The closure returns the future: the check it had gets a task. -/
private theorem Aligned.spawn (h : Aligned conf s) (phase : s.loop = .dequeued)
    (hrunning : s'.executor.running = s.executor.running)
    (htasks : s'.tasks = s.tasks ++ [.checking]) (hloop : s'.loop = .polling)
    (hended : s'.ended = s.ended) : Aligned conf s' := by
  have hlength := h.length
  have hlimit := h.limit
  rw [phase] at hlength hlimit
  refine ⟨?_, ?_, ?_⟩
  · rw [hrunning, htasks, hloop, List.length_append]
    exact hlength
  · simp only [State.futures, LoopPhase.held, htasks, hloop, hended, List.length_append,
      List.length_singleton] at hlimit ⊢
    omega
  · intro i check htask hrun
    rw [htasks] at htask
    rw [hrunning] at hrun
    by_cases hlt : i < s.tasks.length
    · rw [List.getElem?_append_left hlt] at htask
      exact h.requeueing i check htask hrun
    · rw [List.getElem?_append_right (Nat.le_of_not_lt hlt)] at htask
      obtain ⟨hnew, heq⟩ := List.getElem?_eq_some_iff.mp htask
      rw [List.getElem_singleton] at heq
      cases heq

/-- A task goes on to requeue its check, which is one that is retried. -/
private theorem Aligned.requeue (h : Aligned conf s) {i : Nat} {check : ScheduledCheck}
    {readings : CheckReadings} (run : s.executor.running[i]? = some check)
    (hretries : retries conf check readings = true)
    (hrunning : s'.executor.running = s.executor.running)
    (htasks : s'.tasks = s.tasks.set i .requeueing) (hloop : s'.loop = s.loop)
    (hended : s'.ended = s.ended) : Aligned conf s' := by
  refine ⟨?_, ?_, ?_⟩
  · rw [hrunning, htasks, hloop, List.length_set]
    exact h.length
  · rw [State.futures, htasks, hended, hloop, List.length_set]
    exact h.limit
  · intro j other htask hrun
    rw [hrunning] at hrun
    rw [htasks] at htask
    by_cases heq : i = j
    · subst heq
      rw [run] at hrun
      cases hrun
      exact ⟨readings, hretries⟩
    · rw [List.getElem?_set_ne heq] at htask
      exact h.requeueing j other htask hrun

theorem Aligned.step (h : Aligned conf s) (hstep : Step conf s a s') : Aligned conf s' := by
  cases hstep with
  | addQueueSize call => exact ⟨h.length, h.limit, h.requeueing⟩
  | send called hsend =>
    obtain ⟨-, -, rfl⟩ := CheckExecutor.queueCheck_eq_some hsend
    exact ⟨h.length, h.limit, h.requeueing⟩
  | sendError called hsend => exact ⟨h.length, h.limit, h.requeueing⟩
  | receive phase room hstart =>
    obtain ⟨check, rest, -, -, rfl⟩ := CheckExecutor.start_eq_some hstart
    exact h.receive phase room check rfl rfl rfl rfl
  | subQueueSize phase =>
    have hlength := h.length
    have hlimit := h.limit
    rw [phase] at hlength hlimit
    exact ⟨hlength, hlimit, h.requeueing⟩
  | addNumRunning phase => exact h.spawn phase rfl rfl rfl rfl
  | addQueueSizeForRetry task run hretries => exact h.requeue run hretries rfl rfl rfl rfl
  | sendForRetry task run => exact h.erase task run running_sendRetry rfl rfl rfl
  | finish task run stays hfinish =>
    exact h.erase task run (sameChecks_finish run stays hfinish).running rfl rfl rfl
  | subNumRunning phase done =>
    have hlimit := h.limit
    refine ⟨h.length, ?_, h.requeueing⟩
    simp only [State.futures] at hlimit ⊢
    omega
  | dropReceivers channels => exact ⟨h.length, h.limit, h.requeueing⟩
  | cancel phase room alive => exact ⟨h.length, h.limit, h.requeueing⟩

theorem aligned_of_reachable (hs : (system conf).Reachable s) : Aligned conf s := by
  refine hs.invariant ?_ ?_
  · intro s hinit
    rw [hinit]
    exact aligned_initial
  · intro s a s' h hstep
    exact h.step hstep

/-! ## The operations come to the same -/

/-- One operation of the executor, taken for one step. -/
inductive Operation (conf : ExecutorConfig) (e : CheckExecutor) : CheckExecutor → Prop where
  | queueCheck {tick : Tick} {config : CheckConfig} {kind : CheckKind} {e' : CheckExecutor}
      {channel : Nat} (h : e.queueCheck tick config kind = some (e', channel)) :
      Operation conf e e'
  | start {e' : CheckExecutor} (h : e.start conf = some e') : Operation conf e e'
  | finish {i : Nat} {readings : CheckReadings} {e' : CheckExecutor}
      (h : e.finish conf i readings = some e') : Operation conf e e'
  | dropReceivers (channels : List Nat) : Operation conf e (e.dropReceivers channels)
  | cancel : Operation conf e e.cancel

/-- The executor, one operation after the other. -/
def operations (conf : ExecutorConfig) : Transition CheckExecutor Unit where
  init e := e = .new
  step e _ e' := Operation conf e e'

/-- A step is an operation of the executor, or leaves it alone. -/
theorem Aligned.operation (h : Aligned conf s) (hstep : Step conf s a s') :
    s'.executor = s.executor ∨ Operation conf s.executor s'.executor := by
  cases hstep with
  | send called hsend => exact .inr (.queueCheck hsend)
  | receive phase room hstart => exact .inr (.start hstart)
  | sendForRetry task run =>
    obtain ⟨readings, hretries⟩ := h.requeueing _ _ task run
    exact .inr (.finish (finish_of_retries run hretries))
  | finish task run stays hfinish => exact .inr (.finish hfinish)
  | dropReceivers channels => exact .inr (.dropReceivers channels)
  | cancel phase room alive => exact .inr .cancel
  | _ => exact .inl rfl

/-- However the loop's steps are interleaved, they take the executor where its own operations
take it. -/
theorem executor_reachable (hs : (system conf).Reachable s) :
    (operations conf).Reachable s.executor := by
  refine hs.invariant_of (P := fun s => (operations conf).Reachable s.executor)
    (fun s hs => aligned_of_reachable hs) ?_ ?_
  · intro s hinit
    rw [hinit]
    exact .init rfl
  · intro s a s' haligned hreach hstep
    obtain heq | hoperation := haligned.operation hstep
    · rw [heq]
      exact hreach
    · exact hreach.step (a := ()) hoperation

end UptimeChecker.ExecutorLoop
