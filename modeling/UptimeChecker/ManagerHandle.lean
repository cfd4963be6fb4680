import Mathlib.Logic.Function.Basic
import UptimeChecker.CheckExecutor
import UptimeChecker.Producer.VectorProducer

/-!
# Stopping the process

What `ManagerHandle::stop` waits for. It sets the token and awaits the tasks of the process one
after another: the endpoint, the config provider's, the worker that sends the results to vector, the
services', and the executor's. The results worker ends when its channel does, and so waits itself
for the producer to be dropped, which the executor's loop and the checks it runs hold. The loop ends
at the token, once the checks being run have.

A check hands its result to the producer as it ends; the addition to the producer's counter comes
later, and the check is not gone before it. The endpoint, the config provider and the services end
when they like. A panic aborts the process, so that no join fails.
-/

namespace UptimeChecker.ManagerHandle

/-- The tasks whose work is not part of this. -/
inductive Task where
  | endpoint
  | consumer
  | services
deriving DecidableEq, Repr

inductive JoinHandle where
  | task (task : Task)
  | resultsWorker
  | executor
deriving DecidableEq, Repr

/-- The handles that `stop` awaits, in order. -/
def awaited : List JoinHandle :=
  [.task .endpoint, .task .consumer, .resultsWorker, .task .services, .executor]

/-- Where `stop` stands: not called yet, or about to await these handles. It has returned when there
are none left. -/
inductive Stop where
  | notCalled
  | awaiting (handles : List JoinHandle)
deriving DecidableEq, Repr

/-- The executor, whether its loop is still running, the results on their way to vector, which of
the other tasks have ended, and the caller of `stop`. -/
structure State where
  executor : CheckExecutor
  loopRunning : Bool
  results : VectorProducer.State
  ended : Task → Bool
  stop : Stop

/-- The process when the manager has been started. -/
def initial : State := ⟨.new, true, VectorProducer.initial, fun _ => false, .notCalled⟩

/-- A handle can be joined. -/
def State.isEnded (s : State) : JoinHandle → Bool
  | .task task => s.ended task
  | .resultsWorker => s.results.worker = .shutdown
  | .executor => !s.loopRunning

variable (conf : ExecutorConfig) (ext : VectorProducer.Externals)
  (vectorConf : VectorProducer.VectorRequestWorkerConfig)

/-- The results a check has come to are handed to the producer; an error is only logged. -/
def produceResults (results : VectorProducer.State) (produced : List CheckResult) :
    VectorProducer.State :=
  produced.foldl
    (fun s result => (VectorProducer.produceCheckerResult ext s result).toOption.getD s) results

/-- The names of the steps. -/
inductive Action where
  | queueCheck | dropReceivers | startCheck | finishCheck | cancelled | loopEnds
  | results (action : VectorProducer.Action)
  | taskEnds | stop | join
deriving DecidableEq, Repr

/-- One step of one task. -/
inductive Step (s : State) : Action → State → Prop where
  /-- A scheduler queues a check. -/
  | queueCheck {tick : Tick} {config : CheckConfig} {kind : CheckKind} {executor : CheckExecutor}
      {channel : Nat} (h : s.executor.queueCheck tick config kind = some (executor, channel)) :
      Step s .queueCheck { s with executor := executor }
  /-- A scheduler gives up some of its receivers. -/
  | dropReceivers (channels : List Nat) :
      Step s .dropReceivers { s with executor := s.executor.dropReceivers channels }
  | startCheck {executor : CheckExecutor} (h : s.executor.start conf = some executor) :
      Step s .startCheck { s with executor := executor }
  /-- A check ends, and hands its result to the producer. -/
  | finishCheck {i : Nat} {readings : CheckReadings} {executor : CheckExecutor}
      (h : s.executor.finish conf i readings = some executor) :
      Step s .finishCheck
        { s with
          executor := executor
          results := produceResults ext s.results
            (executor.produced.drop s.executor.produced.length) }
  /-- The executor's loop sees the token, which it does when it has room for one more check. -/
  | cancelled (called : s.stop ≠ .notCalled) (isOpen : s.executor.queueOpen = true)
      (room : s.executor.HasRoom conf) :
      Step s .cancelled { s with executor := s.executor.cancel }
  /-- The executor's loop ends, and the producer is dropped with it. -/
  | loopEnds (running : s.loopRunning = true) (closed : s.executor.queueOpen = false)
      (idle : s.executor.running = []) (counted : s.results.adding = 0) :
      Step s .loopEnds
        { s with loopRunning := false, results := { s.results with senderAlive := false } }
  /-- The results worker moves on, or the counter is added to. -/
  | results {action : VectorProducer.Action} {results : VectorProducer.State}
      (h : VectorProducer.Step ext vectorConf s.results action results)
      (notProduce : action ≠ .produce) (notDrop : action ≠ .dropSender) :
      Step s (.results action) { s with results := results }
  | taskEnds (task : Task) :
      Step s .taskEnds { s with ended := Function.update s.ended task true }
  /-- `stop` is called, and sets the token. -/
  | stop (phase : s.stop = .notCalled) : Step s .stop { s with stop := .awaiting awaited }
  | join {handle : JoinHandle} {handles : List JoinHandle}
      (phase : s.stop = .awaiting (handle :: handles)) (ended : s.isEnded handle = true) :
      Step s .join { s with stop := .awaiting handles }

/-- The process. Nothing moves after a panic. -/
def system : Transition State Action where
  init s := s = initial
  step s a s' := s.executor.panicked = false ∧ Step conf ext vectorConf s a s'

end UptimeChecker.ManagerHandle
