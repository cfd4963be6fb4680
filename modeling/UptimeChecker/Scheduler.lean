import UptimeChecker.CheckExecutor
import UptimeChecker.Lib.Transition

/-!
# The scheduler

One partition's scheduler loop, its in-order tick processor and the check executor, as one
transition system. The loop walks the ticks from its start time on, queues the checks of each tick's
bucket and sends their receivers, as one bundle a tick, to the processor. The processor takes the
waiting bundles in batches, waits for the checks of each bundle in turn, and saves the time of the
last bundle it got through as the watermark. A restart begins one second after the watermark.

Each step of the system is an atomic step of one of the three tasks, or of the provider, which may
change the config store at any time. The step relation says for each what it needs and does; which
task moves next, how the bundles are cut into batches, when checks end and when the cancellation
token fires is free. Nothing moves after a panic.

The watermark is the `i64` redis keeps as decimal text. Timers and metrics are not part of it.
-/

namespace UptimeChecker

/-! ## Where to start -/

/-- The start time: a second after the last watermark but never in the future, and without one the
current second. No answer where chrono panics or `duration_trunc` fails. -/
def startTime (lastProgress : Option Int64) (systemTime : Int) : Option DateTime :=
  match lastProgress with
  | some lastCompletedCheckNanos => do
    let nextCheck ← (DateTime.timestampNanos lastCompletedCheckNanos).add? nanosPerSec
    let now ← (DateTime.now? systemTime).bind DateTime.durationTrunc
    return nextCheck.min now
  | none => (DateTime.now? systemTime).bind DateTime.durationTrunc

/-- The monotonic instant of the start time, from a second reading of the system clock and one of
the monotonic clock. The subtraction fails if the start is still to come; where the monotonic clock
does not reach back that far, another reading of it stands in. -/
def startInstant (start : DateTime) (systemTime : Int) (instant instantAgain : Instant) :
    Option Instant :=
  (DateTime.now? systemTime).bind fun now =>
    if now.nanos < start.nanos then none
    else
      let elapsed := (now.nanos - start.nanos).toNat
      some (if elapsed ≤ instant then instant - elapsed else instantAgain)

/-! ## The tasks -/

/-- The receivers of the checks of a tick. -/
structure ExecutionBundle where
  tick : Tick
  checks : List Nat
deriving DecidableEq

/-- Where the scheduler loop stands: before its `k`-th tick, queueing the configs of that tick,
waiting for the processor after the token was seen, or returned. -/
inductive SchedulerPhase where
  | ticking (k : Nat)
  | queueing (k : Nat) (tick : Tick) (configs : List CheckConfig) (results : List Nat)
  | draining
  | returned

/-- The loop has dropped its end of the bundle channel. -/
def SchedulerPhase.IsOver : SchedulerPhase → Prop
  | .draining => True
  | .returned => True
  | _ => False

/-- Where the processor stands: waiting for bundles, handling a batch, or finished. -/
inductive ProcessorPhase where
  | receiving
  | handling (batch : List ExecutionBundle) (lastTick : Option Tick)
  | finished

/-- `HANDLE_BATCH_SIZE`. -/
def handleBatchSize : Nat := 1000

/-- How `write_watermark` ends. A command that fails may still have been applied. -/
inductive WriteOutcome where
  | ok
  | timeout (applied : Bool)
  | connectionDropped (applied : Bool)
  | fatal (applied : Bool)
deriving DecidableEq, Repr

def WriteOutcome.applied : WriteOutcome → Bool
  | ok => true
  | timeout applied => applied
  | connectionDropped applied => applied
  | fatal applied => applied

/-- The processor logs a timeout or a dropped connection and goes on; any other error ends it. -/
def WriteOutcome.isFatal : WriteOutcome → Bool
  | fatal _ => true
  | _ => false

/-- What a run of the scheduler is given. -/
structure Scheduler where
  newV5 : NewV5
  region : String
  conf : ExecutorConfig
  start : DateTime
  startAt : Instant

namespace Scheduler

/-- The state of the three tasks. The last four fields only record what has happened: the ticks
scheduled, the checks queued with their ticks, the ticks whose time was written as watermark, and
whether the processor has broken off a batch at a dropped check. -/
structure State where
  configStore : ConfigStore
  scheduler : SchedulerPhase
  tickComplete : List ExecutionBundle
  processor : ProcessorPhase
  executor : CheckExecutor
  watermark : Option Int64
  scheduled : List Tick
  queued : List (Tick × Nat)
  written : List Tick
  brokenOff : Bool

/-- The state a run starts in: an idle executor, any config store, any watermark. -/
def initial (configStore : ConfigStore) (watermark : Option Int64) : State :=
  ⟨configStore, .ticking 0, [], .receiving, .new, watermark, [], [], [], false⟩

variable (sched : Scheduler)

/-- The instant tokio's interval returns at its `k`-th tick. -/
def intervalTick (k : Nat) : Instant := sched.startAt + k * nanosPerSec.toNat

/-- `Tick::from_time(start + interval_tick.duration_since(start_at))`. -/
def tickAt (k : Nat) : Option Tick :=
  (sched.start.add? (sched.intervalTick k - sched.startAt : Nat)).map Tick.fromTime

/-- `get_configs` collects a hash set, in any order. -/
def Enumerates (configs : List CheckConfig) (bucket : TickBucket) : Prop :=
  configs.Nodup ∧ ∀ config, config ∈ configs ↔ config ∈ bucket

/-- The names of the steps. -/
inductive Action where
  | addConfig | removeConfig
  | tick | skipCheck | queueCheck | queueCheckError | sendBundle | sendBundleError
  | shutdown | joinProcessor
  | recvMany | recvNone | accept | breakOff | executorDown | badTimestamp
  | writeWatermark | writeWatermarkFatal
  | startCheck | finishCheck | cancel
deriving DecidableEq, Repr

/-- The receivers of the checks of some bundles. -/
def receivers (bundles : List ExecutionBundle) : List Nat := bundles.flatMap (·.checks)

/-- One step of one task. -/
inductive Step (s : State) : Action → State → Prop where
  /-- The provider adds a config. -/
  | addConfig {now : Instant} {config : CheckConfig} {store : ConfigStore}
      (h : s.configStore.addConfig sched.newV5 now config = some store) :
      Step s .addConfig { s with configStore := store }
  /-- The provider removes a config. -/
  | removeConfig {now : Instant} {id : Uuid} {store : ConfigStore}
      (h : s.configStore.removeConfig sched.newV5 now id = some store) :
      Step s .removeConfig { s with configStore := store }
  /-- The interval ticks: the bucket of the tick is read. -/
  | tick {k : Nat} {tick : Tick} {bucket : TickBucket} {configs : List CheckConfig}
      (phase : s.scheduler = .ticking k) (htick : sched.tickAt k = some tick)
      (hbucket : s.configStore.getConfigs tick = some bucket)
      (hconfigs : Enumerates configs bucket) :
      Step s .tick
        { s with scheduler := .queueing k tick configs [], scheduled := s.scheduled ++ [tick] }
  /-- The next config of the tick does not run in this region. -/
  | skipCheck {k : Nat} {tick : Tick} {config : CheckConfig} {configs : List CheckConfig}
      {results : List Nat} (phase : s.scheduler = .queueing k tick (config :: configs) results)
      (run : config.shouldRun sched.newV5 tick sched.region = false) :
      Step s .skipCheck { s with scheduler := .queueing k tick configs results }
  /-- The next config of the tick is queued. -/
  | queueCheck {k : Nat} {tick : Tick} {config : CheckConfig} {configs : List CheckConfig}
      {results : List Nat} {executor : CheckExecutor} {check : Nat}
      (phase : s.scheduler = .queueing k tick (config :: configs) results)
      (run : config.shouldRun sched.newV5 tick sched.region = true)
      (h : s.executor.queueCheck tick config .uptime = some (executor, check)) :
      Step s .queueCheck
        { s with
          scheduler := .queueing k tick configs (results ++ [check])
          executor := executor
          queued := s.queued ++ [(tick, check)] }
  /-- The queue is closed: the loop returns early, with the receivers it has collected. -/
  | queueCheckError {k : Nat} {tick : Tick} {config : CheckConfig} {configs : List CheckConfig}
      {results : List Nat} (phase : s.scheduler = .queueing k tick (config :: configs) results)
      (run : config.shouldRun sched.newV5 tick sched.region = true)
      (h : s.executor.queueCheck tick config .uptime = none) :
      Step s .queueCheckError
        { s with scheduler := .returned, executor := s.executor.dropReceivers results }
  /-- The tick's bundle is sent. -/
  | sendBundle {k : Nat} {tick : Tick} {results : List Nat}
      (phase : s.scheduler = .queueing k tick [] results) (alive : s.processor ≠ .finished) :
      Step s .sendBundle
        { s with
          scheduler := .ticking (k + 1)
          tickComplete := s.tickComplete ++ [⟨tick, results⟩] }
  /-- The processor is gone: the loop returns early, with the bundle. -/
  | sendBundleError {k : Nat} {tick : Tick} {results : List Nat}
      (phase : s.scheduler = .queueing k tick [] results) (gone : s.processor = .finished) :
      Step s .sendBundleError
        { s with scheduler := .returned, executor := s.executor.dropReceivers results }
  /-- The loop sees that shutdown was requested. -/
  | shutdown {k : Nat} (phase : s.scheduler = .ticking k) :
      Step s .shutdown { s with scheduler := .draining }
  /-- The processor has finished, and the loop returns. -/
  | joinProcessor (phase : s.scheduler = .draining) (gone : s.processor = .finished) :
      Step s .joinProcessor { s with scheduler := .returned }
  /-- The processor takes a batch of the waiting bundles. -/
  | recvMany {n : Nat} (phase : s.processor = .receiving) (pos : 0 < n)
      (le : n ≤ handleBatchSize) (waiting : n ≤ s.tickComplete.length) :
      Step s .recvMany
        { s with
          processor := .handling (s.tickComplete.take n) none
          tickComplete := s.tickComplete.drop n }
  /-- No bundle is waiting and none will come. -/
  | recvNone (phase : s.processor = .receiving) (empty : s.tickComplete = [])
      (done : s.scheduler.IsOver) : Step s .recvNone { s with processor := .finished }
  /-- All checks of the next bundle were resolved. -/
  | accept {bundle : ExecutionBundle} {batch : List ExecutionBundle} {lastTick : Option Tick}
      (phase : s.processor = .handling (bundle :: batch) lastTick)
      (resolved : ∀ check ∈ bundle.checks,
        ∃ result, (s.executor.oneshots check).message = .sent result) :
      Step s .accept
        { s with
          processor := .handling batch (some bundle.tick)
          executor := s.executor.dropReceivers bundle.checks }
  /-- A check of the next bundle was dropped: the rest of the batch is discarded. -/
  | breakOff {bundle : ExecutionBundle} {batch : List ExecutionBundle} {lastTick : Option Tick}
      (phase : s.processor = .handling (bundle :: batch) lastTick)
      (settled : ∀ check ∈ bundle.checks, (s.executor.oneshots check).message ≠ .pending)
      (dropped : ∃ check ∈ bundle.checks, (s.executor.oneshots check).message = .dropped) :
      Step s .breakOff
        { s with
          processor := .handling [] lastTick
          executor := s.executor.dropReceivers (receivers (bundle :: batch))
          brokenOff := true }
  /-- The batch had no complete bundle: the processor ends with an error, and the bundles waiting
  are discarded. -/
  | executorDown (phase : s.processor = .handling [] none) :
      Step s .executorDown
        { s with
          processor := .finished
          tickComplete := []
          executor := s.executor.dropReceivers (receivers s.tickComplete) }
  /-- The time of the last bundle has no nanosecond timestamp: logged. -/
  | badTimestamp {tick : Tick} (phase : s.processor = .handling [] (some tick))
      (h : tick.time.timestampNanosOpt = none) :
      Step s .badTimestamp { s with processor := .receiving }
  /-- The time of the last bundle of the batch is written. -/
  | writeWatermark {tick : Tick} {progress : Int64} (outcome : WriteOutcome)
      (phase : s.processor = .handling [] (some tick))
      (h : tick.time.timestampNanosOpt = some progress) (survives : outcome.isFatal = false) :
      Step s .writeWatermark
        { s with
          processor := .receiving
          watermark := if outcome.applied then some progress else s.watermark
          written := s.written ++ [tick] }
  /-- The write ends in a fatal error, which ends the processor: the bundles waiting are
  discarded. -/
  | writeWatermarkFatal {tick : Tick} {progress : Int64} (outcome : WriteOutcome)
      (phase : s.processor = .handling [] (some tick))
      (h : tick.time.timestampNanosOpt = some progress) (fatal : outcome.isFatal = true) :
      Step s .writeWatermarkFatal
        { s with
          processor := .finished
          tickComplete := []
          executor := s.executor.dropReceivers (receivers s.tickComplete)
          watermark := if outcome.applied then some progress else s.watermark
          written := s.written ++ [tick] }
  /-- The executor starts the next check of its queue. -/
  | startCheck {executor : CheckExecutor} (h : s.executor.start sched.conf = some executor) :
      Step s .startCheck { s with executor := executor }
  /-- A check being run ends. -/
  | finishCheck {i : Nat} {readings : CheckReadings} {executor : CheckExecutor}
      (h : s.executor.finish sched.conf i readings = some executor) :
      Step s .finishCheck { s with executor := executor }
  /-- The executor sees its token, which it does when it has room for one more check. -/
  | cancel (h : s.executor.queueOpen = true) (room : s.executor.HasRoom sched.conf) :
      Step s .cancel { s with executor := s.executor.cancel }

/-- The scheduler, its processor and the executor. -/
def system : Transition State Action where
  init s := ∃ configStore watermark, s = initial configStore watermark
  step s a s' := s.executor.panicked = false ∧ Step sched s a s'

end Scheduler

end UptimeChecker
