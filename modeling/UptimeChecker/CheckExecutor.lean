import UptimeChecker.ConfigStore
import UptimeChecker.Types.Result

/-!
# The check executor

A queue of scheduled checks and the loop that runs them, a bounded number at a time. Each check
carries one end of a oneshot channel, through which its outcome goes back to whoever queued it. The
executor is modelled by what its tasks do to the state they share: the queue (an unbounded channel,
open as long as the loop holds its receiver), the checks being run, the oneshot channels and the
results handed to the producer. `panicked` is set where an `expect` fails; the release profile
turns that into an abort.

The counters next to the queue have a model of their own, in which these operations come apart; the
gauges set from them are not part of either.
-/

namespace UptimeChecker

inductive CheckKind where
  | uptime
  | robots
deriving DecidableEq, Repr

/-- A check in the queue or being run. `resolveTx` names the oneshot channel it resolves. -/
structure ScheduledCheck where
  kind : CheckKind
  tick : Tick
  config : CheckConfig
  resolveTx : Nat
  retryCount : UInt16
  forceBodyCapture : Bool
deriving DecidableEq

/-- `ScheduledCheck::new`. -/
def ScheduledCheck.new (kind : CheckKind) (tick : Tick) (config : CheckConfig)
    (forceBodyCapture : Bool) (resolveTx : Nat) : ScheduledCheck :=
  ⟨kind, tick, config, resolveTx, 0, forceBodyCapture⟩

/-- What has become of the sending half of a oneshot channel. -/
inductive Message where
  | pending
  | sent (result : Option CheckResult)
  | dropped

/-- A oneshot channel: its sending half, and whether its receiver still exists. -/
structure Oneshot where
  message : Message
  receiver : Bool

structure ExecutorConfig where
  /-- The number of checks run at the same time; zero is no limit. -/
  concurrency : Nat
  failureRetries : UInt16
  region : String

/-- The state shared by the executor's tasks. Channels from `opened` on do not exist yet. -/
structure CheckExecutor where
  queue : List ScheduledCheck
  queueOpen : Bool
  running : List ScheduledCheck
  opened : Nat
  oneshots : Nat → Oneshot
  produced : List CheckResult
  panicked : Bool

/-- What a run of `do_check` reads: the clock, the checker, and two random ids. -/
structure CheckReadings where
  now : DateTime
  missedNow : DateTime
  missedGuid : Uuid
  missedSpanId : SpanId
  checkUrl : CheckResult
  checkRobots : Option CheckResult

namespace CheckExecutor

def new : CheckExecutor := ⟨[], true, [], 0, fun _ => ⟨.dropped, false⟩, [], false⟩

/-- Put something in a oneshot channel. -/
def setMessage (e : CheckExecutor) (channel : Nat) (message : Message) : CheckExecutor :=
  { e with
    oneshots := fun i =>
      if i = channel then ⟨message, (e.oneshots i).receiver⟩ else e.oneshots i }

/-- Drop the receivers of some oneshot channels. -/
def dropReceivers (e : CheckExecutor) (channels : List Nat) : CheckExecutor :=
  { e with
    oneshots := fun i =>
      if i ∈ channels then ⟨(e.oneshots i).message, false⟩ else e.oneshots i }

/-- `queue_check`: the check's oneshot receiver, or an error when the queue is closed. -/
def queueCheck (e : CheckExecutor) (tick : Tick) (config : CheckConfig) (kind : CheckKind) :
    Option (CheckExecutor × Nat) :=
  if e.queueOpen then
    some ({ e with
      queue := e.queue ++ [.new kind tick config false e.opened]
      opened := e.opened + 1
      oneshots := fun i => if i = e.opened then ⟨.pending, true⟩ else e.oneshots i }, e.opened)
  else none

/-- `queue_check_for_retry`: an error when the queue is closed. -/
def queueCheckForRetry (e : CheckExecutor) (check : ScheduledCheck) : Option CheckExecutor :=
  if e.queueOpen then
    some { e with queue := e.queue ++ [{ check with retryCount := check.retryCount + 1 }] }
  else none

/-- `record_result`: an error when the receiver is gone. -/
def recordResult (e : CheckExecutor) (check : ScheduledCheck) (result : Option CheckResult) :
    Option CheckExecutor :=
  if (e.oneshots check.resolveTx).receiver then some (e.setMessage check.resolveTx (.sent result))
  else none

/-- `missed_from`. A new span id is random, a new trace id is not. -/
def missedFrom (check : ScheduledCheck) (region : String) (now : DateTime) (guid : Uuid)
    (spanId : SpanId) : CheckResult where
  guid := guid
  subscriptionId := check.config.subscriptionId
  status := .missedWindow
  statusReason := some ⟨.missProduced,
    "Check was not completed within the expected time window", none⟩
  traceId := 0
  spanId := spanId
  scheduledCheckTime := check.tick.time
  scheduledCheckTimeUs := check.tick.time
  actualCheckTime := now
  actualCheckTimeUs := now
  durationUs := none
  duration := none
  requestInfo := none
  region := region
  requestInfoList := []
  assertionFailureData := none

/-- The result `do_check` comes to, if any: a robots check that passes has none. A check processed
more than an interval late is not run. -/
def checkResult (region : String) (check : ScheduledCheck) (readings : CheckReadings) :
    Option CheckResult :=
  if readings.now.nanos - check.tick.time.nanos > check.config.interval.secs * nanosPerSec then
    some (missedFrom check region readings.missedNow readings.missedGuid readings.missedSpanId)
  else
    match check.kind with
    | .uptime => some readings.checkUrl
    | .robots => readings.checkRobots

/-- A failed result is retried while the check has retries left. -/
def willRetry (failureRetries : UInt16) (check : ScheduledCheck) (result : CheckResult) : Bool :=
  result.status = .failure && check.retryCount < failureRetries

/-- What the caller of an `expect` goes on with: the value, or a panic. -/
def expect (e : CheckExecutor) (outcome : Option CheckExecutor) : CheckExecutor :=
  outcome.getD { e with panicked := true }

/-- `do_check`, for a check that has left `running`. A passing robots check whose receiver is gone
is only logged. -/
def doCheck (conf : ExecutorConfig) (e : CheckExecutor) (check : ScheduledCheck)
    (readings : CheckReadings) : CheckExecutor :=
  match checkResult conf.region check readings with
  | none => (e.recordResult check none).getD e
  | some result =>
    if willRetry conf.failureRetries check result then e.expect (e.queueCheckForRetry check)
    else
      let e := { e with produced := e.produced ++ [result] }
      e.expect (e.recordResult check (some result))

/-- The loop polls its stream while it runs fewer checks than its limit. -/
def HasRoom (conf : ExecutorConfig) (e : CheckExecutor) : Prop :=
  conf.concurrency = 0 ∨ e.running.length < conf.concurrency

/-- The loop takes the next check, if there is room for one more. -/
def start (conf : ExecutorConfig) (e : CheckExecutor) : Option CheckExecutor :=
  match e.queue with
  | [] => none
  | check :: rest =>
    if e.queueOpen && (conf.concurrency = 0 || e.running.length < conf.concurrency) then
      some { e with queue := rest, running := e.running ++ [check] }
    else none

/-- A check being run comes to its end. -/
def finish (conf : ExecutorConfig) (e : CheckExecutor) (i : Nat) (readings : CheckReadings) :
    Option CheckExecutor :=
  e.running[i]?.map fun check =>
    doCheck conf { e with running := e.running.eraseIdx i } check readings

/-- The loop polls its stream after the cancellation token has fired: the stream ends, and the queue
goes with everything in it. The checks being run go on. -/
def cancel (e : CheckExecutor) : CheckExecutor :=
  { e with
    queue := []
    queueOpen := false
    oneshots := fun i =>
      if i ∈ e.queue.map (·.resolveTx) then ⟨.dropped, (e.oneshots i).receiver⟩
      else e.oneshots i }

end CheckExecutor

end UptimeChecker
