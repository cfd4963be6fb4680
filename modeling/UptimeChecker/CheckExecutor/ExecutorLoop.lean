import UptimeChecker.CheckExecutor
import UptimeChecker.Lib.Transition

/-!
# The loop of the executor and its counters

`CheckExecutor` takes a check being queued, started or finished for one step. Here each of them
comes apart into the operations on what the tasks share. Two atomic counters stand next to the
queue. `queue_check` and `queue_check_for_retry` add to `queue_size` and then send; the closure of
`for_each_concurrent` gets a check that was received, subtracts it from `queue_size` and adds it to
`num_running`; the future it returns waits for `do_check`, and subtracts from `num_running`. The
closure and the ends of the futures run in the task of the loop, `do_check` in one of its own or in
the future.

The gauges are left out. A panic of `do_check` ends its task, which the future takes for an end like
any other.
-/

namespace UptimeChecker.ExecutorLoop

/-- Where the task of the loop is: polling the stream and the futures, or in the closure. -/
inductive LoopPhase where
  | polling
  /-- About to subtract the check from `queue_size`. -/
  | received
  /-- About to add it to `num_running`. -/
  | dequeued
deriving DecidableEq, Repr

/-- Where a run of `do_check` is. -/
inductive TaskPhase where
  | checking
  /-- In `queue_check_for_retry`, between the addition and the send. -/
  | requeueing
deriving DecidableEq, Repr

/-- The arguments of a call of `queue_check`. -/
structure QueueCheckCall where
  tick : Tick
  config : CheckConfig
  checkKind : CheckKind
deriving DecidableEq

/-- What the tasks share, and where they are. `sending` holds the calls of `queue_check` between
their addition and their send. `tasks` belong, in this order, to the checks being run; the check the
closure has in its hands is the one after them. `ended` counts the futures whose `do_check` is over
and which have not subtracted yet. -/
structure State where
  executor : CheckExecutor
  sending : List QueueCheckCall
  loop : LoopPhase
  tasks : List TaskPhase
  ended : Nat
  queueSize : UInt64
  numRunning : UInt64

def initial : State := ⟨.new, [], .polling, [], 0, 0, 0⟩

/-- How many futures `for_each_concurrent` holds. -/
def State.futures (s : State) : Nat := s.tasks.length + s.ended

/-- `for_each_concurrent` polls the stream while it holds fewer futures than its limit. -/
def State.HasRoom (conf : ExecutorConfig) (s : State) : Prop :=
  conf.concurrency = 0 ∨ s.futures < conf.concurrency

/-- `do_check` from the send of `queue_check_for_retry` on. -/
def sendRetry (e : CheckExecutor) (i : Nat) (check : ScheduledCheck) : CheckExecutor :=
  let e := { e with running := e.running.eraseIdx i }
  e.expect (e.queueCheckForRetry check)

/-- Whether `do_check` comes to a result it retries. -/
def retries (conf : ExecutorConfig) (check : ScheduledCheck) (readings : CheckReadings) : Bool :=
  (CheckExecutor.checkResult conf.region check readings).any
    (CheckExecutor.willRetry conf.failureRetries check)

/-- The names of the steps. -/
inductive Action where
  | addQueueSize | send | sendError
  | receive | subQueueSize | addNumRunning
  | addQueueSizeForRetry | sendForRetry | finish | subNumRunning
  | dropReceivers | cancel
deriving DecidableEq, Repr

variable (conf : ExecutorConfig)

/-- One step of one task. -/
inductive Step (s : State) : Action → State → Prop where
  /-- A call of `queue_check` adds to `queue_size`. -/
  | addQueueSize (call : QueueCheckCall) :
      Step s .addQueueSize
        { s with sending := s.sending ++ [call], queueSize := s.queueSize + 1 }
  /-- A call of `queue_check` sends its check, and returns. -/
  | send {i : Nat} {call : QueueCheckCall} {executor : CheckExecutor} {channel : Nat}
      (called : s.sending[i]? = some call)
      (h : s.executor.queueCheck call.tick call.config call.checkKind =
        some (executor, channel)) :
      Step s .send { s with executor := executor, sending := s.sending.eraseIdx i }
  /-- The queue is closed: the call returns the error. -/
  | sendError {i : Nat} {call : QueueCheckCall} (called : s.sending[i]? = some call)
      (h : s.executor.queueCheck call.tick call.config call.checkKind = none) :
      Step s .sendError { s with sending := s.sending.eraseIdx i }
  /-- The stream has a check, and the closure is called with it. -/
  | receive {executor : CheckExecutor} (phase : s.loop = .polling) (room : s.HasRoom conf)
      (h : s.executor.start conf = some executor) :
      Step s .receive { s with executor := executor, loop := .received }
  /-- The closure subtracts the check from `queue_size`. -/
  | subQueueSize (phase : s.loop = .received) :
      Step s .subQueueSize { s with loop := .dequeued, queueSize := s.queueSize - 1 }
  /-- The closure adds the check to `num_running`, and returns the future. -/
  | addNumRunning (phase : s.loop = .dequeued) :
      Step s .addNumRunning
        { s with
          loop := .polling
          tasks := s.tasks ++ [.checking]
          numRunning := s.numRunning + 1 }
  /-- A check has failed and has retries left: `queue_check_for_retry` adds to `queue_size`. -/
  | addQueueSizeForRetry {i : Nat} {check : ScheduledCheck} {readings : CheckReadings}
      (task : s.tasks[i]? = some .checking) (run : s.executor.running[i]? = some check)
      (h : retries conf check readings = true) :
      Step s .addQueueSizeForRetry
        { s with tasks := s.tasks.set i .requeueing, queueSize := s.queueSize + 1 }
  /-- `queue_check_for_retry` sends the check, and `do_check` is over. -/
  | sendForRetry {i : Nat} {check : ScheduledCheck} (task : s.tasks[i]? = some .requeueing)
      (run : s.executor.running[i]? = some check) :
      Step s .sendForRetry
        { s with
          executor := sendRetry s.executor i check
          tasks := s.tasks.eraseIdx i
          ended := s.ended + 1 }
  /-- `do_check` comes to its end without a retry. -/
  | finish {i : Nat} {check : ScheduledCheck} {readings : CheckReadings}
      {executor : CheckExecutor} (task : s.tasks[i]? = some .checking)
      (run : s.executor.running[i]? = some check) (stays : retries conf check readings = false)
      (h : s.executor.finish conf i readings = some executor) :
      Step s .finish
        { s with executor := executor, tasks := s.tasks.eraseIdx i, ended := s.ended + 1 }
  /-- A future whose `do_check` is over subtracts from `num_running`, and is done. -/
  | subNumRunning {n : Nat} (phase : s.loop = .polling) (done : s.ended = n + 1) :
      Step s .subNumRunning { s with ended := n, numRunning := s.numRunning - 1 }
  /-- Receivers of oneshot channels are dropped by those who queued the checks. -/
  | dropReceivers (channels : List Nat) :
      Step s .dropReceivers { s with executor := s.executor.dropReceivers channels }
  /-- The loop polls the stream and finds the token cancelled. -/
  | cancel (phase : s.loop = .polling) (room : s.HasRoom conf)
      (alive : s.executor.queueOpen = true) :
      Step s .cancel { s with executor := s.executor.cancel }

/-- Whoever queues checks, the loop and the checks being run, interleaved. -/
def system : Transition State Action where
  init s := s = initial
  step := Step conf

end UptimeChecker.ExecutorLoop
