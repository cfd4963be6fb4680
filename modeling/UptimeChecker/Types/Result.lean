import UptimeChecker.Assertions.Compiled
import UptimeChecker.Types.CheckConfig

/-!
# The result of a check

The record the checker hands to the producer, with everything it carries. Durations are counts of
nanoseconds, as `TimeDelta` has them; the timings of a request are the microsecond counts they are
sent as.
-/

namespace UptimeChecker

/-- The status of a check. -/
inductive CheckStatus where
  | success
  | failure
  | missedWindow
  | disallowedByRobots
deriving DecidableEq, Repr

inductive CheckStatusReasonType where
  | timeout
  | dnsError
  | tlsError
  | connectionError
  | redirectError
  | failure
  | missProduced
  | missBackfill
  | assertionCompilationError
  | assertionEvaluationError
deriving DecidableEq, Repr

inductive CheckFailureDetails where
  | assertionCompilationError (error : Assertions.Compiled.CompilationError)
  | assertionEvaluationError (error : Assertions.Compiled.RuntimeError)
deriving DecidableEq, Repr

/-- Why a check has its status. -/
structure CheckStatusReason where
  statusType : CheckStatusReasonType
  description : String
  details : Option CheckFailureDetails
deriving DecidableEq, Repr

structure Timing where
  startUs : Nat
  durationUs : UInt64
deriving DecidableEq, Repr

structure RequestDurations where
  dnsLookup : Timing
  tcpConnection : Timing
  tlsHandshake : Timing
  timeToFirstByte : Timing
  sendRequest : Timing
  receiveResponse : Timing
deriving DecidableEq, Repr

structure CertificateInfo where
  notBeforeTimestampS : UInt64
  notAfterTimestampS : UInt64
deriving DecidableEq, Repr

/-- One request of a check; a redirection makes several. -/
structure RequestInfo where
  requestType : RequestMethod
  httpStatusCode : Option UInt16
  url : String
  requestBodySizeBytes : UInt32
  responseBodySizeBytes : UInt32
  requestDurationUs : UInt64
  durations : RequestDurations
  certificateInfo : Option CertificateInfo
  responseBody : Option String
  responseHeaders : Option (List (String × String))
deriving DecidableEq, Repr

/-! ## The stats of a request -/

/-- `hyper::stats::AbsoluteDuration`. -/
structure AbsoluteDuration where
  start : Instant
  stop : Instant
deriving DecidableEq, Repr

/-- `hyper::rt::ConnectionStats`: what was timed of setting up a connection. -/
structure ConnectionStats where
  dnsResolve : Option AbsoluteDuration
  connect : Option AbsoluteDuration
  tlsConnect : Option AbsoluteDuration
deriving DecidableEq, Repr

/-- `openssl::asn1::TimeDiff`. -/
structure TimeDiff where
  days : Int32
  secs : Int32
deriving DecidableEq

/-- A certificate that parsed: how far its bounds are from the epoch, zero where that failed. -/
structure Certificate where
  notAfterDiff : TimeDiff
  notBeforeDiff : TimeDiff
deriving DecidableEq

/-- What hyper keeps of one request; a pooled connection has no stats of its own. -/
structure RedirectStats where
  connectionStats : Option ConnectionStats
  requestStart : Instant
  requestStartTimestamp : Nat
  requestSent : Option Instant
  responseStart : Option Instant
  requestEnd : Instant
  statusCode : UInt16
  requestBodySize : UInt32
  url : String
  certificate : Option Certificate
deriving DecidableEq

/-- `to_timing`: the microseconds from one instant to another, from a reference that has a
wall-clock time. Instants subtract to zero at the least. -/
def toTiming (referenceTs : Nat) (referenceInstant start stop : Instant) : Timing :=
  ⟨referenceTs + (start - referenceInstant) / 1000, UInt64.ofNat ((stop - start) / 1000)⟩

/-- Seconds from the epoch; a negative bound wraps. -/
def TimeDiff.timestampS (diff : TimeDiff) : UInt64 :=
  diff.secs.toInt64.toUInt64 + diff.days.toInt64.toUInt64 * 24 * 60 * 60

/-- The request info of one request. `newPooled` is `ConnectionStats::new_pooled`. -/
def toRequestInfo (newPooled : Instant → Nat → ConnectionStats) (method : RequestMethod)
    (rs : RedirectStats) : RequestInfo :=
  let connStats := rs.connectionStats.getD (newPooled rs.requestStart rs.requestStartTimestamp)
  let emptyDuration : AbsoluteDuration := ⟨rs.requestStart, rs.requestStart⟩
  let dnsResolve := connStats.dnsResolve.getD emptyDuration
  let connect := connStats.connect.getD emptyDuration
  let tlsConnect := connStats.tlsConnect.getD emptyDuration
  let latestConnectionStat :=
    (connStats.tlsConnect.getD (connStats.connect.getD emptyDuration)).stop
  let timing := toTiming rs.requestStartTimestamp rs.requestStart
  { certificateInfo := rs.certificate.map fun cert =>
      { notAfterTimestampS := cert.notAfterDiff.timestampS
        notBeforeTimestampS := cert.notBeforeDiff.timestampS }
    httpStatusCode := some rs.statusCode
    requestType := method
    requestBodySizeBytes := rs.requestBodySize
    url := rs.url
    responseBodySizeBytes := 0
    requestDurationUs := UInt64.ofNat ((rs.requestEnd - rs.requestStart) / 1000)
    durations :=
      { dnsLookup := timing dnsResolve.start dnsResolve.stop
        tcpConnection := timing connect.start connect.stop
        tlsHandshake := timing tlsConnect.start tlsConnect.stop
        timeToFirstByte := timing (rs.requestSent.getD emptyDuration.start)
          (rs.responseStart.getD emptyDuration.stop)
        sendRequest := timing latestConnectionStat (rs.requestSent.getD emptyDuration.stop)
        receiveResponse := timing (rs.responseStart.getD emptyDuration.start) rs.requestEnd }
    responseBody := none
    responseHeaders := none }

/-- `to_request_info_list`. -/
def toRequestInfoList (newPooled : Instant → Nat → ConnectionStats) (stats : List RedirectStats)
    (method : RequestMethod) : List RequestInfo :=
  stats.map (toRequestInfo newPooled method)

/-! ## The durations as text -/

/-- `to_timings`: where a phase starts and where it ends, counted from a reference; `none` where the
subtraction goes below zero. -/
def toTimings (reference start : Nat) (duration : UInt64) : Option (Nat × Nat) :=
  if reference ≤ start then some (start - reference, start - reference + duration.toNat) else none

/-- One field of the text: `{} - {}` under its name. -/
def timingsField (name : String) (timings : Nat × Nat) : String :=
  name ++ ": " ++ toString timings.1 ++ " - " ++ toString timings.2

/-- `Debug for RequestDurations`: the phases but for the time to first byte, each counted from the
start of the DNS lookup. -/
def RequestDurations.fmt (durations : RequestDurations) : Option String := do
  let timings (timing : Timing) :=
    toTimings durations.dnsLookup.startUs timing.startUs timing.durationUs
  let dnsLookup ← timings durations.dnsLookup
  let tcpConnection ← timings durations.tcpConnection
  let tlsHandshake ← timings durations.tlsHandshake
  let sendRequest ← timings durations.sendRequest
  let receiveResponse ← timings durations.receiveResponse
  some ("RequestDurations \x7b " ++
    ", ".intercalate
      [timingsField "dns_lookup" dnsLookup,
        timingsField "tcp_connection" tcpConnection,
        timingsField "tls_handshake" tlsHandshake,
        timingsField "send_request" sendRequest,
        timingsField "receive_response" receiveResponse] ++ " \x7d")

/-- `SpanId`: eight bytes. -/
abbrev SpanId := BitVec 64

structure CheckResult where
  guid : Uuid
  subscriptionId : Uuid
  status : CheckStatus
  statusReason : Option CheckStatusReason
  traceId : Uuid
  spanId : SpanId
  scheduledCheckTime : DateTime
  scheduledCheckTimeUs : DateTime
  actualCheckTime : DateTime
  actualCheckTimeUs : DateTime
  duration : Option Int
  durationUs : Option Int
  requestInfo : Option RequestInfo
  requestInfoList : List RequestInfo
  region : String
  assertionFailureData : Option Assertions.Assertion
deriving DecidableEq

/-! ## What a checker makes of a response -/

/-- The outcome of a request, before it is put into a `CheckResult`. -/
structure Check where
  result : CheckStatus
  reason : Option CheckStatusReason
  assertPath : Option Assertions.Compiled.EvalPath
  bodyBytes : Option (List UInt8)
  requestInfos : List RequestInfo
deriving DecidableEq

namespace Check

def success : Check := ⟨.success, none, none, none, []⟩

/-- A status that is no success, given as its text. -/
def codeFailure (status : String) : Check :=
  ⟨.failure, some ⟨.failure, "Got non 2xx status: " ++ status, none⟩, none, none, []⟩

def otherFailure (reason : CheckStatusReason) (requestInfos : List RequestInfo) : Check :=
  ⟨.failure, some reason, none, none, requestInfos⟩

def assertCompileFailure (err : Assertions.Compiled.CompilationError) : Check :=
  ⟨.failure, some ⟨.assertionCompilationError, err.display,
    some (.assertionCompilationError err)⟩, none, none, []⟩

def assertEvaluationFailure (err : Assertions.Compiled.RuntimeError) : Check :=
  ⟨.failure, some ⟨.assertionEvaluationError, err.display,
    some (.assertionEvaluationError err)⟩, none, none, []⟩

def assertFailure (path : Assertions.Compiled.EvalPath) : Check :=
  ⟨.failure, some ⟨.failure, "Assertion failed", none⟩, some path, none, []⟩

end Check

end UptimeChecker
