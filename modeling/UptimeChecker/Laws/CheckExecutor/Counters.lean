import Mathlib.Algebra.Group.Nat.Defs
import UptimeChecker.Lib.Tally
import UptimeChecker.Laws.CheckExecutor.ExecutorLoop
import UptimeChecker.Laws.Outcomes

/-!
# The counters of the executor

Each of the two counters has a tally next to it. While the queue is open, the tally of `queue_size`
is the checks in the queue, those that are about to be sent, and the one check, if any, that the
loop has received and not yet subtracted; only for that one is a reader of the counter told of more
checks than there are before the loop. The tally of `num_running` is the futures the loop holds,
each of which was added and will subtract.
-/

namespace UptimeChecker.ExecutorLoop

/-- How many checks the loop has received and not yet subtracted. -/
def LoopPhase.uncounted : LoopPhase → Nat
  | .received => 1
  | _ => 0

/-- How many calls of `queue_check` and `queue_check_for_retry` are between their addition and their
send. -/
def State.senders (s : State) : Nat := s.sending.length + s.tasks.count .requeueing

/-- What a step adds to `queue_size`. -/
def Action.queueSizeAdded : Action → Int
  | .addQueueSize | .addQueueSizeForRetry => 1
  | .subQueueSize => -1
  | _ => 0

/-- What a step adds to `num_running`. -/
def Action.numRunningAdded : Action → Int
  | .addNumRunning => 1
  | .subNumRunning => -1
  | _ => 0

/-- The system with the tallies of both counters, that of `queue_size` first. -/
def counting (conf : ExecutorConfig) : Transition ((State × Int) × Int) Action :=
  ((system conf).tallied fun _ a => a.queueSizeAdded).tallied fun _ a => a.numRunningAdded

variable {conf : ExecutorConfig} {s s' : State} {a : Action}

/-! ## The queue -/

/-- What `queue_size` counts while the queue is open. -/
def State.queued (s : State) : Nat :=
  s.executor.queue.length + s.senders + s.loop.uncounted

private theorem count_eraseIdx {tasks : List TaskPhase} {i : Nat} {task : TaskPhase}
    (h : tasks[i]? = some task) :
    tasks.count .requeueing =
      (tasks.eraseIdx i).count .requeueing + if task == .requeueing then 1 else 0 := by
  obtain ⟨hlt, rfl⟩ := List.getElem?_eq_some_iff.mp h
  rw [← (List.getElem_cons_eraseIdx_perm hlt).count_eq, List.count_cons]

private theorem count_set_requeueing {tasks : List TaskPhase} {i : Nat}
    (h : tasks[i]? = some .checking) :
    (tasks.set i .requeueing).count .requeueing = tasks.count .requeueing + 1 := by
  obtain ⟨hlt, htask⟩ := List.getElem?_eq_some_iff.mp h
  rw [List.count_set hlt, htask]
  rfl

/-- Whatever leads to an open queue starts from one, and changes what there is to count by what it
adds. -/
theorem step_queued (hstep : Step conf s a s') (alive : s'.executor.queueOpen = true) :
    s.executor.queueOpen = true ∧ (s'.queued : Int) = s.queued + a.queueSizeAdded := by
  cases hstep with
  | addQueueSize call =>
    refine ⟨alive, ?_⟩
    simp only [State.queued, State.senders, Action.queueSizeAdded, List.length_append,
      List.length_singleton]
    omega
  | send called hsend =>
    obtain ⟨hopen, -, rfl⟩ := CheckExecutor.queueCheck_eq_some hsend
    have hlength := List.length_eraseIdx_add_one (List.getElem?_eq_some_iff.mp called).1
    refine ⟨hopen, ?_⟩
    simp only [State.queued, State.senders, Action.queueSizeAdded, List.length_append,
      List.length_singleton]
    omega
  | sendError called hsend =>
    have hopen : s.executor.queueOpen = true := alive
    unfold CheckExecutor.queueCheck at hsend
    rw [if_pos hopen] at hsend
    cases hsend
  | receive phase room hstart =>
    obtain ⟨check, rest, hqueue, hopen, rfl⟩ := CheckExecutor.start_eq_some hstart
    refine ⟨hopen, ?_⟩
    simp only [State.queued, State.senders, Action.queueSizeAdded, LoopPhase.uncounted, phase,
      hqueue, List.length_cons]
    omega
  | subQueueSize phase =>
    refine ⟨alive, ?_⟩
    simp only [State.queued, State.senders, Action.queueSizeAdded, LoopPhase.uncounted, phase]
    omega
  | addNumRunning phase =>
    refine ⟨alive, ?_⟩
    have hcount : (s.tasks ++ [TaskPhase.checking]).count .requeueing =
        s.tasks.count .requeueing := by
      rw [List.count_append]
      rfl
    simp only [State.queued, State.senders, Action.queueSizeAdded, LoopPhase.uncounted, phase,
      hcount]
    omega
  | addQueueSizeForRetry task run hretries =>
    refine ⟨alive, ?_⟩
    simp only [State.queued, State.senders, Action.queueSizeAdded, count_set_requeueing task]
    omega
  | sendForRetry task run =>
    have hopen : s.executor.queueOpen = true := queueOpen_sendRetry ▸ alive
    have hcount := count_eraseIdx task
    refine ⟨hopen, ?_⟩
    simp only [State.queued, State.senders, Action.queueSizeAdded, sendRetry_of_open hopen, hcount,
      List.length_append, List.length_singleton, beq_self_eq_true, if_true]
    omega
  | finish task run stays hfinish =>
    have hsame := sameChecks_finish run stays hfinish
    have hcount := count_eraseIdx task
    refine ⟨hsame.queueOpen ▸ alive, ?_⟩
    simp only [State.queued, State.senders, Action.queueSizeAdded, hsame.queue, hcount]
    simp
  | subNumRunning phase done => exact ⟨alive, (Int.add_zero _).symm⟩
  | dropReceivers channels => exact ⟨alive, (Int.add_zero _).symm⟩
  | cancel phase room wasOpen => cases alive

/-! ## The futures -/

/-- A step changes the number of futures by what it adds to `num_running`. -/
theorem step_futures (hstep : Step conf s a s') :
    (s'.futures : Int) = s.futures + a.numRunningAdded := by
  cases hstep with
  | addNumRunning phase =>
    simp only [State.futures, Action.numRunningAdded, List.length_append, List.length_singleton]
    omega
  | addQueueSizeForRetry task run hretries =>
    simp only [State.futures, Action.numRunningAdded, List.length_set, Int.add_zero]
  | sendForRetry task run =>
    have hlength := List.length_eraseIdx_add_one (List.getElem?_eq_some_iff.mp task).1
    simp only [State.futures, Action.numRunningAdded]
    omega
  | finish task run stays hfinish =>
    have hlength := List.length_eraseIdx_add_one (List.getElem?_eq_some_iff.mp task).1
    simp only [State.futures, Action.numRunningAdded]
    omega
  | subNumRunning phase done =>
    simp only [State.futures, Action.numRunningAdded]
    omega
  | _ => exact (Int.add_zero _).symm

/-! ## The words -/

theorem step_queueSize (hstep : Step conf s a s') :
    (s'.queueSize.toNat : Int) = (s.queueSize.toNat + a.queueSizeAdded) % 2 ^ 64 := by
  cases hstep with
  | addQueueSize call => exact UInt64.intCast_toNat_add _ 1
  | addQueueSizeForRetry task run hretries => exact UInt64.intCast_toNat_add _ 1
  | subQueueSize phase => exact UInt64.intCast_toNat_sub _ 1
  | _ => exact UInt64.intCast_toNat_add_zero _

theorem step_numRunning (hstep : Step conf s a s') :
    (s'.numRunning.toNat : Int) = (s.numRunning.toNat + a.numRunningAdded) % 2 ^ 64 := by
  cases hstep with
  | addNumRunning phase => exact UInt64.intCast_toNat_add _ 1
  | subNumRunning phase done => exact UInt64.intCast_toNat_sub _ 1
  | _ => exact UInt64.intCast_toNat_add_zero _

/-! ## The counters -/

section
variable {q r : Int}

theorem queueSize_eq (hs : (counting conf).Reachable ((s, q), r)) :
    (s.queueSize.toNat : Int) = q % 2 ^ 64 := by
  refine hs.of_tallied.word_eq (fun s => (s.queueSize.toNat : Int)) ?_ ?_
  · intro s hinit
    rw [hinit]
    rfl
  · intro s a s' hstep
    exact step_queueSize hstep

theorem numRunning_eq (hs : (counting conf).Reachable ((s, q), r)) :
    (s.numRunning.toNat : Int) = r % 2 ^ 64 := by
  refine hs.word_eq (fun s => (s.1.numRunning.toNat : Int)) ?_ ?_
  · intro s hinit
    rw [hinit.1]
    rfl
  · intro s a s' hstep
    exact step_numRunning hstep.1

theorem queueTally_eq (hs : (counting conf).Reachable ((s, q), r))
    (alive : s.executor.queueOpen = true) : q = s.queued := by
  refine hs.of_tallied.tally_eq (P := fun s => s.executor.queueOpen = true)
    (fun s => (s.queued : Int)) ?_ ?_ alive
  · intro s hinit
    rw [hinit]
    rfl
  · intro s a s' hstep hopen
    exact step_queued hstep hopen

theorem runningTally_eq (hs : (counting conf).Reachable ((s, q), r)) : r = s.futures := by
  refine hs.tally_eq (P := fun _ => True) (fun s => (s.1.futures : Int)) ?_ ?_ trivial
  · intro s hinit
    rw [hinit.1]
    rfl
  · intro s a s' hstep _
    exact ⟨trivial, step_futures hstep.1⟩

/-- Every run can be counted. -/
theorem exists_counting (hs : (system conf).Reachable s) :
    ∃ q r, (counting conf).Reachable ((s, q), r) := by
  have ⟨q, hq⟩ : ∃ q, ((system conf).tallied fun _ a => a.queueSizeAdded).Reachable (s, q) :=
    hs.tallied
  exact ⟨q, hq.tallied⟩

/-- What a reader of `queue_size` finds, if so many checks fit in a word. -/
theorem queueSize_toNat (hs : (system conf).Reachable s) (alive : s.executor.queueOpen = true)
    (fits : s.queued < 2 ^ 64) : s.queueSize.toNat = s.queued := by
  obtain ⟨q, r, hcounted⟩ := exists_counting hs
  have hword := queueSize_eq hcounted
  rw [queueTally_eq hcounted alive] at hword
  omega

/-- What a reader of `num_running` finds. -/
theorem numRunning_toNat (hs : (system conf).Reachable s) (fits : s.futures < 2 ^ 64) :
    s.numRunning.toNat = s.futures := by
  obtain ⟨q, r, hcounted⟩ := exists_counting hs
  have hword := numRunning_eq hcounted
  rw [runningTally_eq hcounted] at hword
  omega

/-- While the queue is open, `queue_size` is the checks in the queue, those between their addition
and their send, and the one the loop has received and not yet subtracted; `num_running` is the
checks that were started and whose futures have not subtracted yet, at any time. Neither goes below
zero, and `num_running` not above the limit. -/
theorem counters_of_reachable (hs : (counting conf).Reachable ((s, q), r)) :
    (s.executor.queueOpen = true →
      q = s.executor.queue.length + s.senders + s.loop.uncounted ∧ 0 ≤ q) ∧
    (s.queueSize.toNat : Int) = q % 2 ^ 64 ∧
    r + s.loop.held = s.executor.running.length + s.ended ∧ 0 ≤ r ∧
    (s.numRunning.toNat : Int) = r % 2 ^ 64 ∧
    (conf.concurrency ≠ 0 → r ≤ conf.concurrency) := by
  have haligned : Aligned conf s := aligned_of_reachable hs.of_tallied.of_tallied
  have hlength := haligned.length
  have hrunning := runningTally_eq hs
  simp only [State.futures] at hrunning
  refine ⟨?_, queueSize_eq hs, ?_, ?_, numRunning_eq hs, ?_⟩
  · intro alive
    have hqueue := queueTally_eq hs alive
    simp only [State.queued] at hqueue
    omega
  · omega
  · omega
  · intro hlimited
    have hlimit := haligned.limit.resolve_left hlimited
    simp only [State.futures] at hlimit
    omega

end

/-! ## A check that is to be run twice -/

private theorem counting_step {q r : Int} (hstep : Step conf s a s') :
    (counting conf).step ((s, q), r) a ((s', q + a.queueSizeAdded), r + a.numRunningAdded) :=
  ⟨⟨hstep, rfl⟩, rfl⟩

/-- `queue_check` has sent the check, and the stream has it. -/
private theorem reachable_received :
    ∃ e check, e.queue = [] ∧ e.queueOpen = true ∧ e.running = [check] ∧
      retries CheckExecutor.retryOnce check CheckExecutor.failing = true ∧
      (counting CheckExecutor.retryOnce).Reachable ((⟨e, [], .received, [], 0, 1, 0⟩, 1), 0) := by
  have h₀ : (counting CheckExecutor.retryOnce).Reachable ((initial, 0), 0) :=
    .init ⟨⟨rfl, rfl⟩, rfl⟩
  have h₁ := h₀.step (counting_step (.addQueueSize
    ⟨Tick.fromTime CheckExecutor.failing.now, .default, .uptime⟩))
  have h₂ := h₁.step (counting_step (.send (i := 0) rfl rfl))
  have h₃ := h₂.step (counting_step (.receive rfl (.inr (by decide)) rfl))
  exact ⟨_, _, rfl, rfl, rfl, by decide, h₃⟩

/-- It was run, failed, and is about to be sent again: both counters are at one. -/
theorem counters_of_reachable_requeueing :
    ∃ s q r, (counting CheckExecutor.retryOnce).Reachable ((s, q), r) ∧
      s.tasks = [.requeueing] ∧ q = 1 ∧ r = 1 ∧ r ≤ CheckExecutor.retryOnce.concurrency := by
  obtain ⟨e, check, hqueue, hopen, hrunning, hretries, h₀⟩ := reachable_received
  have h₁ := h₀.step (counting_step (.subQueueSize rfl))
  have h₂ := h₁.step (counting_step (.addNumRunning rfl))
  have h₃ := h₂.step (counting_step (.addQueueSizeForRetry (i := 0) rfl
    (congrArg (·[0]?) hrunning) hretries))
  obtain ⟨hqueued, -, -, -, -, hlimit⟩ := counters_of_reachable h₃
  obtain ⟨hq, -⟩ := hqueued hopen
  refine ⟨_, _, _, h₃, rfl, ?_, rfl, hlimit (by decide)⟩
  rw [hq, hqueue]
  rfl

/-- The stream has handed it to the closure: nothing is in the queue, nobody is about to send, and
`queue_size` is one. -/
theorem queueSize_of_received :
    ∃ s q r, (counting CheckExecutor.retryOnce).Reachable ((s, q), r) ∧
      s.executor.queueOpen = true ∧ s.executor.queue = [] ∧ s.senders = 0 ∧
      q = 1 ∧ s.queueSize = 1 := by
  obtain ⟨e, check, hqueue, hopen, -, -, h⟩ := reachable_received
  exact ⟨_, _, _, h, hopen, hqueue, rfl, rfl, rfl⟩

end UptimeChecker.ExecutorLoop
