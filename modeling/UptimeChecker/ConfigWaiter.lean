import Mathlib.Logic.Function.Basic
import UptimeChecker.RunConfigProvider

/-!
# Waiting for a partition to boot

The initial load against the schedulers it feeds. Registering a partition starts its boot waiter,
which polls the config store every 100 ms and guesses from the last update when the load is over;
its scheduler waits for it, and ticks. The load reads the partitions one after another and adds
their configs; each of its steps, and each poll, comes as late as it likes.

Time is the monotonic clock. A poll works with the instant its interval was due at, not with the
instant it runs at. What redis answers for each partition is given from the start, in `answers`.
-/

namespace UptimeChecker.ConfigWaiter

/-- `BOOT_IDLE_TIMEOUT`, 500 ms. -/
def bootIdleTimeout : Nat := 500000000

/-- `BOOT_MAX_IDLE`, 10 s. -/
def bootMaxIdle : Nat := 10000000000

/-- The period of the waiter's interval, 100 ms. -/
def pollPeriod : Nat := 100000000

/-- The waiter's test at a tick: nothing was ever added and it has waited long enough, or the last
update is long ago. Differences of instants saturate at zero. -/
def bootFinished (start tick : Instant) (lastUpdate : Option Instant) : Bool :=
  (lastUpdate.isNone && decide (bootMaxIdle ≤ tick - start)) ||
    lastUpdate.any fun t => bootIdleTimeout ≤ tick - t

/-- Where a partition's waiter stands: not started; spawned at an instant; polling, with the instant
its next tick is due at; or finished. -/
inductive Waiter where
  | absent
  | spawned (start : Instant)
  | polling (start tick : Instant)
  | finished
deriving DecidableEq, Repr

/-- Where the initial load stands: registering the partitions, about to read the first of some
partitions, adding the payloads of one, or done. -/
inductive Loader (Payload : Type) where
  | registering (partitions : List UInt16)
  | reading (partitions : List UInt16)
  | adding (partition : UInt16) (payloads : List Payload) (partitions : List UInt16)
  | done

/-- The clock, the initial load, and for each partition its waiter, its config store, its token and
whether its scheduler has begun to tick. -/
structure State (Payload : Type) where
  now : Instant
  loader : Loader Payload
  waiters : UInt16 → Waiter
  stores : UInt16 → ConfigStore
  cancelled : UInt16 → Bool
  ticked : UInt16 → Bool
  panicked : Bool

/-- The names of the steps. -/
inductive Action where
  | elapse (nanos : Nat)
  | register | connect | readConfigs | redisError | addConfig | skipPayload | partitionDone | loaded
  | cancel | startPolling | poll | exit | firstTick
deriving DecidableEq, Repr

variable {Payload : Type} (newV5 : NewV5) (rmp : Rmp Payload)
  (provider : RunConfigProvider.Provider) (answers : UInt16 → List Payload)

/-- One step of one task, or of the clock. -/
inductive Step (s : State Payload) : Action → State Payload → Prop where
  | elapse (nanos : Nat) : Step s (.elapse nanos) { s with now := s.now + nanos }
  /-- A partition is registered: its waiter is spawned. -/
  | register {partition : UInt16} {partitions : List UInt16}
      (phase : s.loader = .registering (partition :: partitions)) :
      Step s .register
        { s with
          loader := .registering partitions
          waiters := Function.update s.waiters partition (.spawned s.now) }
  | connect (phase : s.loader = .registering []) :
      Step s .connect { s with loader := .reading provider.partitions }
  | connectError (phase : s.loader = .registering []) :
      Step s .redisError { s with panicked := true }
  /-- Redis answers with the configs of the next partition. -/
  | readConfigs {partition : UInt16} {partitions : List UInt16}
      (phase : s.loader = .reading (partition :: partitions)) :
      Step s .readConfigs { s with loader := .adding partition (answers partition) partitions }
  | readConfigsError {partition : UInt16} {partitions : List UInt16}
      (phase : s.loader = .reading (partition :: partitions)) :
      Step s .redisError { s with panicked := true }
  | addConfig {partition : UInt16} {payload : Payload} {payloads : List Payload}
      {partitions : List UInt16} {config : CheckConfig} {store : ConfigStore}
      (phase : s.loader = .adding partition (payload :: payloads) partitions)
      (decodes : rmp.deserializeRmp payload = some config)
      (h : (s.stores partition).addConfig newV5 s.now config = some store) :
      Step s .addConfig
        { s with
          loader := .adding partition payloads partitions
          stores := Function.update s.stores partition store }
  | skipPayload {partition : UInt16} {payload : Payload} {payloads : List Payload}
      {partitions : List UInt16}
      (phase : s.loader = .adding partition (payload :: payloads) partitions)
      (undecodable : rmp.deserializeRmp payload = none) :
      Step s .skipPayload { s with loader := .adding partition payloads partitions }
  | partitionDone {partition : UInt16} {partitions : List UInt16}
      (phase : s.loader = .adding partition [] partitions) :
      Step s .partitionDone { s with loader := .reading partitions }
  | loaded (phase : s.loader = .reading []) : Step s .loaded { s with loader := .done }
  /-- Shutdown of a partition is requested. -/
  | cancel (partition : UInt16) :
      Step s .cancel { s with cancelled := Function.update s.cancelled partition true }
  /-- The waiter's task begins to run, and its interval with it. -/
  | startPolling {partition : UInt16} {start : Instant}
      (phase : s.waiters partition = .spawned start) :
      Step s .startPolling
        { s with waiters := Function.update s.waiters partition (.polling start s.now) }
  /-- The interval has ticked: the waiter tests its config store. -/
  | poll {partition : UInt16} {start tick : Instant}
      (phase : s.waiters partition = .polling start tick) (due : tick ≤ s.now) :
      Step s .poll
        { s with
          waiters := Function.update s.waiters partition
            (if bootFinished start tick (s.stores partition).getLastUpdate then .finished
            else .polling start (tick + pollPeriod)) }
  /-- The waiter sees its token. -/
  | exit {partition : UInt16} {start tick : Instant}
      (phase : s.waiters partition = .polling start tick) (stop : s.cancelled partition = true) :
      Step s .exit { s with waiters := Function.update s.waiters partition .finished }
  /-- The scheduler, which waits for the waiter's end only, schedules its first tick. -/
  | firstTick {partition : UInt16} (phase : s.waiters partition = .finished) :
      Step s .firstTick { s with ticked := Function.update s.ticked partition true }

/-- The initial load, the boot waiters and the schedulers. Nothing moves after a panic. -/
def system : Transition (State Payload) Action where
  init s := ∃ now added,
    RunConfigProvider.Lists added (fun partition => partition ∈ provider.partitions) ∧
    s = ⟨now, .registering added, fun _ => .absent, fun _ => .new, fun _ => false,
      fun _ => false, false⟩
  step s a s' := s.panicked = false ∧ Step newV5 rmp provider answers s a s'

/-! ## Updates after the load -/

/-- The names of the steps, once the updates of the configs are monitored as well. -/
inductive MonitoredAction where
  | boot (a : Action)
  | update
deriving DecidableEq, Repr

/-- One step of the tasks above or of the clock, or a config that `monitor_updates` removes or adds.
It runs on when the initial load is over, for the partitions that were loaded, unless the provider
only reads. -/
inductive MonitoredStep (s : State Payload) : MonitoredAction → State Payload → Prop where
  | boot {a : Action} {s' : State Payload} (h : Step newV5 rmp provider answers s a s') :
      MonitoredStep s (.boot a) s'
  | removeConfig {partition : UInt16} {subscriptionId : Uuid} {store : ConfigStore}
      (phase : s.loader = .done) (readwrite : provider.readonly = false)
      (owned : partition ∈ provider.partitions)
      (h : (s.stores partition).removeConfig newV5 s.now subscriptionId = some store) :
      MonitoredStep s .update { s with stores := Function.update s.stores partition store }
  | addConfig {partition : UInt16} {config : CheckConfig} {store : ConfigStore}
      (phase : s.loader = .done) (readwrite : provider.readonly = false)
      (owned : partition ∈ provider.partitions)
      (h : (s.stores partition).addConfig newV5 s.now config = some store) :
      MonitoredStep s .update { s with stores := Function.update s.stores partition store }

/-- The same system, with the updates that go on after the load. -/
def monitored : Transition (State Payload) MonitoredAction where
  init := (system newV5 rmp provider answers).init
  step s a s' := s.panicked = false ∧ MonitoredStep newV5 rmp provider answers s a s'

end UptimeChecker.ConfigWaiter
