import Mathlib.Logic.Function.Basic
import UptimeChecker.Scheduler

/-!
# The services of all partitions

`Manager::start` makes one executor, and the service of every partition has its scheduler hand the
checks to that one. Here the schedulers of all partitions, their processors and the executor they
share are one transition system. A partition moves as its scheduler does, and finds the executor as
the others have left it; what the executor does by itself it does for all of them.

Services are told apart by an index of any type. One that is started later, or a second time, stays
where it begins until then.
-/

namespace UptimeChecker

/-- The schedulers of the services, whose checks run under one configuration. -/
structure Services (ι : Type) where
  conf : ExecutorConfig
  schedulers : ι → Scheduler
  conf_eq : ∀ i, (schedulers i).conf = conf

/-- The steps that the executor takes by itself. -/
def Scheduler.Action.isExecutor : Scheduler.Action → Bool
  | .startCheck | .finishCheck | .cancel => true
  | _ => false

namespace Services

/-- The executor, and where the service of each partition stands. -/
structure State (ι : Type) where
  executor : CheckExecutor
  partitions : ι → Scheduler.State

variable {ι : Type} [DecidableEq ι]

/-- What one scheduler has before it: its own tasks, and the executor as it is now. -/
def State.view (s : State ι) (i : ι) : Scheduler.State :=
  { s.partitions i with executor := s.executor }

/-- One scheduler has moved on. -/
def State.after (s : State ι) (i : ι) (t : Scheduler.State) : State ι :=
  ⟨t.executor, Function.update s.partitions i t⟩

/-- The names of the steps. Those of the executor tell the channel of their check. -/
inductive Action (ι : Type) where
  | scheduler (i : ι) (a : Scheduler.Action)
  | startCheck (channel : Nat)
  | finishCheck (channel : Nat)
  | cancel
deriving DecidableEq, Repr

variable (services : Services ι)

/-- One step of a scheduler or its processor, of the provider, or of the executor. -/
inductive Step (s : State ι) : Action ι → State ι → Prop where
  | scheduler {i : ι} {a : Scheduler.Action} {t : Scheduler.State}
      (h : Scheduler.Step (services.schedulers i) (s.view i) a t) (ha : a.isExecutor = false) :
      Step s (.scheduler i a) (s.after i t)
  | startCheck {check : ScheduledCheck} {executor : CheckExecutor}
      (hhead : s.executor.queue.head? = some check)
      (h : s.executor.start services.conf = some executor) :
      Step s (.startCheck check.resolveTx) { s with executor := executor }
  | finishCheck {i : Nat} {check : ScheduledCheck} {readings : CheckReadings}
      {executor : CheckExecutor} (hi : s.executor.running[i]? = some check)
      (h : s.executor.finish services.conf i readings = some executor) :
      Step s (.finishCheck check.resolveTx) { s with executor := executor }
  | cancel (h : s.executor.queueOpen = true) (room : s.executor.HasRoom services.conf) :
      Step s .cancel { s with executor := s.executor.cancel }

/-- All services. Nothing moves after a panic. -/
def system : Transition (State ι) (Action ι) where
  init s := s.executor = .new ∧
    ∀ i, ∃ configStore watermark, s.partitions i = Scheduler.initial configStore watermark
  step s a s' := s.executor.panicked = false ∧ Step services s a s'

end Services

end UptimeChecker
