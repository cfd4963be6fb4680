import UptimeChecker.Types.CheckConfig.Json
import UptimeChecker.Types.FailureDetails

/-!
# Check results as JSON

What a result is on the wire. Its ids are written in hexadecimal, and each of its times twice, in
whole milliseconds and in whole microseconds. JSON is a tree here as it is for configs: the one that
the text is read as, in which a number too large for 64 bits is a double. A tree stands for the text
that `serde_json` writes of it, and it is that text which a result is read from: the region is a
`&'static str`, which is no copy of a string but a part of the text.
-/

namespace UptimeChecker

open TaggedUnion

open Assertions.Compiled (Json)

namespace Assertions.Compiled

def Json.ofU64 (n : UInt64) : Json := ofUsize n

def Json.asU64 : Json → Option UInt64 := asUsize

/-- Characters that `serde_json` escapes in a string: the quotation mark, the backslash and the
control characters. -/
def escaped (c : Char) : Bool := c.toNat = 34 || c.toNat = 92 || c.toNat < 32

/-- The string stands in its text as it is. -/
def verbatim (s : String) : Bool := s.toList.all fun c => !escaped c

/-- A `&'static str`, which borrows the string from the text: one written with an escape is none. -/
def Json.asBorrowedStr (json : Json) : Option String := json.asStr.filter verbatim

/-- A `u128`, all digits of which are written. -/
def Json.ofU128 (n : Nat) : Json :=
  if n < 18446744073709551616 then number (.posInt (UInt64.ofNat n))
  else number (.float (Float.ofNat n))

def Json.asU128 : Json → Option Nat
  | number (.posInt n) => some n.toNat
  | _ => none

/-- A time in whole units from the epoch, as `TimestampMilliSeconds<i64>` and its like write it. The
calendar has none that is too far away. -/
def Json.ofTimestamp (unit : Nat) (time : DateTime) : Json :=
  ofSigned (Int64.ofInt (roundTo unit time.nanos))

def Json.asTimestamp (unit : Nat) (json : Json) : Option DateTime :=
  json.asI64.bind fun n => DateTime.ofNanos? (n.toInt * unit)

/-- A duration in whole units, as `Option<DurationMilliSeconds<i64>>` and its like write it; an
error where an `i64` cannot hold their number. -/
def Json.ofDuration (unit : Nat) : Option Int → Option Json
  | none => some null
  | some nanos =>
    let count := roundTo unit nanos
    if count.natAbs ≤ 9223372036854775807 then some (ofSigned (Int64.ofInt count)) else none

/-- Of whole milliseconds and less a `TimeDelta` holds any number but the least. -/
def Json.asDuration (unit : Nat) (json : Json) : Option Int :=
  json.asI64.bind fun n =>
    if n.toInt * unit < -9223372036854775807 * 1000000 then none else some (n.toInt * unit)

end Assertions.Compiled

/-- `Display` of a `SpanId`: sixteen digits. -/
def SpanId.display (id : SpanId) : String := String.ofList (hexDigits 16 id.toNat)

def SpanId.parse (text : String) : Option SpanId :=
  if text.toList.length = 16 then (ofHexDigits 0 text.toList).map (BitVec.ofNat 64) else none

/-- The name of a status. -/
def CheckStatus.name : CheckStatus → String
  | success => "success"
  | failure => "failure"
  | missedWindow => "missed_window"
  | disallowedByRobots => "disallowed_by_robots"

def CheckStatus.deserialize (json : Json) : Option CheckStatus :=
  json.asStr.bind fun name =>
    [success, failure, missedWindow, disallowedByRobots].find? fun status => status.name = name

/-- The name of a type of reasons: that of `as_str` as well as that on the wire. -/
def CheckStatusReasonType.asStr : CheckStatusReasonType → String
  | timeout => "timeout"
  | dnsError => "dns_error"
  | tlsError => "tls_error"
  | connectionError => "connection_error"
  | redirectError => "redirect_error"
  | failure => "failure"
  | missProduced => "miss_produced"
  | missBackfill => "miss_backfill"
  | assertionCompilationError => "assertion_compilation_error"
  | assertionEvaluationError => "assertion_evaluation_error"

def CheckStatusReasonType.deserialize (json : Json) : Option CheckStatusReasonType :=
  json.asStr.bind fun name =>
    [timeout, dnsError, tlsError, connectionError, redirectError, failure, missProduced,
      missBackfill, assertionCompilationError, assertionEvaluationError].find? fun statusType =>
        statusType.asStr = name

def CheckStatusReason.serialize (reason : CheckStatusReason) : Json :=
  .object [("type", .string reason.statusType.asStr),
    ("description", .string reason.description),
    ("details", .ofOption CheckFailureDetails.serialize reason.details)]

def CheckStatusReason.deserialize (json : Json) : Option CheckStatusReason := do
  let fields ← json.asObject
  let statusType ← CheckStatusReasonType.deserialize (← field "type" fields)
  let description ← (← field "description" fields).asStr
  let details ← fieldOr "details" (Json.asOption CheckFailureDetails.deserialize) none fields
  some ⟨statusType, description, details⟩

/-! ## Request infos -/

def Timing.serialize (timing : Timing) : Json :=
  .object [("start_us", .ofU128 timing.startUs), ("duration_us", .ofU64 timing.durationUs)]

def Timing.deserialize (json : Json) : Option Timing := do
  let fields ← json.asObject
  let startUs ← (← field "start_us" fields).asU128
  let durationUs ← (← field "duration_us" fields).asU64
  some ⟨startUs, durationUs⟩

def RequestDurations.serialize (durations : RequestDurations) : Json :=
  .object [("dns_lookup", durations.dnsLookup.serialize),
    ("tcp_connection", durations.tcpConnection.serialize),
    ("tls_handshake", durations.tlsHandshake.serialize),
    ("time_to_first_byte", durations.timeToFirstByte.serialize),
    ("send_request", durations.sendRequest.serialize),
    ("receive_response", durations.receiveResponse.serialize)]

def RequestDurations.deserialize (json : Json) : Option RequestDurations := do
  let fields ← json.asObject
  let dnsLookup ← Timing.deserialize (← field "dns_lookup" fields)
  let tcpConnection ← Timing.deserialize (← field "tcp_connection" fields)
  let tlsHandshake ← Timing.deserialize (← field "tls_handshake" fields)
  let timeToFirstByte ← Timing.deserialize (← field "time_to_first_byte" fields)
  let sendRequest ← Timing.deserialize (← field "send_request" fields)
  let receiveResponse ← Timing.deserialize (← field "receive_response" fields)
  some ⟨dnsLookup, tcpConnection, tlsHandshake, timeToFirstByte, sendRequest, receiveResponse⟩

def CertificateInfo.serialize (info : CertificateInfo) : Json :=
  .object [("not_before_timestamp_s", .ofU64 info.notBeforeTimestampS),
    ("not_after_timestamp_s", .ofU64 info.notAfterTimestampS)]

def CertificateInfo.deserialize (json : Json) : Option CertificateInfo := do
  let fields ← json.asObject
  let notBeforeTimestampS ← (← field "not_before_timestamp_s" fields).asU64
  let notAfterTimestampS ← (← field "not_after_timestamp_s" fields).asU64
  some ⟨notBeforeTimestampS, notAfterTimestampS⟩

namespace RequestInfo

/-- The fields that are there in any case. -/
def commonFields (info : RequestInfo) : List (String × Json) :=
  [("request_type", .string info.requestType.name),
    ("http_status_code", .ofOption .ofU16 info.httpStatusCode),
    ("url", .string info.url),
    ("request_body_size_bytes", .ofU32 info.requestBodySizeBytes),
    ("response_body_size_bytes", .ofU32 info.responseBodySizeBytes),
    ("request_duration_us", .ofU64 info.requestDurationUs),
    ("durations", info.durations.serialize),
    ("certificate_info", .ofOption CertificateInfo.serialize info.certificateInfo)]

/-- `Serialize` of a `RequestInfo`. What was not captured of the response is left out. -/
def serialize (info : RequestInfo) : Json :=
  .object (info.commonFields ++
    (info.responseBody.map fun body => ("response_body", .string body)).toList ++
    (info.responseHeaders.map fun headers =>
      ("response_headers", .array (headers.map .ofStringPair))).toList)

/-- `Deserialize` of a `RequestInfo`. -/
def deserialize (json : Json) : Option RequestInfo := do
  let fields ← json.asObject
  let requestType ← RequestMethod.deserialize (← field "request_type" fields)
  let httpStatusCode ← fieldOr "http_status_code" (Json.asOption Json.asU16) none fields
  let url ← (← field "url" fields).asStr
  let requestBodySizeBytes ← (← field "request_body_size_bytes" fields).asU32
  let responseBodySizeBytes ← (← field "response_body_size_bytes" fields).asU32
  let requestDurationUs ← (← field "request_duration_us" fields).asU64
  let durations ← RequestDurations.deserialize (← field "durations" fields)
  let certificateInfo ←
    fieldOr "certificate_info" (Json.asOption CertificateInfo.deserialize) none fields
  let responseBody ← fieldOr "response_body" (Json.asOption Json.asStr) none fields
  let responseHeaders ←
    fieldOr "response_headers" (Json.asOption (Json.asVec Json.asStringPair)) none fields
  some ⟨requestType, httpStatusCode, url, requestBodySizeBytes, responseBodySizeBytes,
    requestDurationUs, durations, certificateInfo, responseBody, responseHeaders⟩

end RequestInfo

/-! ## Results -/

namespace CheckResult

/-- `Serialize` of a `CheckResult`. -/
def serialize (result : CheckResult) : Option Json := do
  let durationMs ← Json.ofDuration 1000000 result.duration
  let durationUs ← Json.ofDuration 1000 result.durationUs
  some <| .object [("guid", .string result.guid.simple),
    ("subscription_id", .string result.subscriptionId.simple),
    ("status", .string result.status.name),
    ("status_reason", .ofOption CheckStatusReason.serialize result.statusReason),
    ("trace_id", .string result.traceId.simple),
    ("span_id", .string result.spanId.display),
    ("scheduled_check_time_ms", .ofTimestamp 1000000 result.scheduledCheckTime),
    ("scheduled_check_time_us", .ofTimestamp 1000 result.scheduledCheckTimeUs),
    ("actual_check_time_ms", .ofTimestamp 1000000 result.actualCheckTime),
    ("actual_check_time_us", .ofTimestamp 1000 result.actualCheckTimeUs),
    ("duration_ms", durationMs),
    ("duration_us", durationUs),
    ("request_info", .ofOption RequestInfo.serialize result.requestInfo),
    ("request_info_list", .array (result.requestInfoList.map RequestInfo.serialize)),
    ("region", .string result.region),
    ("assertion_failure_data",
      .ofOption Assertions.Assertion.serialize result.assertionFailureData)]

/-- `Deserialize` of a `CheckResult`, from the text of the tree. -/
def deserialize (json : Json) : Option CheckResult := do
  let fields ← json.asObject
  let guid ← Uuid.parseSimple (← (← field "guid" fields).asStr)
  let subscriptionId ← Uuid.parseSimple (← (← field "subscription_id" fields).asStr)
  let status ← CheckStatus.deserialize (← field "status" fields)
  let statusReason ←
    fieldOr "status_reason" (Json.asOption CheckStatusReason.deserialize) none fields
  let traceId ← Uuid.parseSimple (← (← field "trace_id" fields).asStr)
  let spanId ← SpanId.parse (← (← field "span_id" fields).asStr)
  let scheduledCheckTime ← (← field "scheduled_check_time_ms" fields).asTimestamp 1000000
  let scheduledCheckTimeUs ← (← field "scheduled_check_time_us" fields).asTimestamp 1000
  let actualCheckTime ← (← field "actual_check_time_ms" fields).asTimestamp 1000000
  let actualCheckTimeUs ← (← field "actual_check_time_us" fields).asTimestamp 1000
  let duration ← fieldOr "duration_ms" (Json.asOption (Json.asDuration 1000000)) none fields
  let durationUs ← fieldOr "duration_us" (Json.asOption (Json.asDuration 1000)) none fields
  let requestInfo ← fieldOr "request_info" (Json.asOption RequestInfo.deserialize) none fields
  let requestInfoList ← Json.asVec RequestInfo.deserialize (← field "request_info_list" fields)
  let region ← (← field "region" fields).asBorrowedStr
  let assertionFailureData ←
    fieldOr "assertion_failure_data" (Json.asOption Assertions.Assertion.deserialize) none fields
  some ⟨guid, subscriptionId, status, statusReason, traceId, spanId, scheduledCheckTime,
    scheduledCheckTimeUs, actualCheckTime, actualCheckTimeUs, duration, durationUs, requestInfo,
    requestInfoList, region, assertionFailureData⟩

end CheckResult

end UptimeChecker
