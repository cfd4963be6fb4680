import UptimeChecker.Assertions.Cache
import UptimeChecker.Checker
import UptimeChecker.CheckExecutor
import UptimeChecker.Lib.Base64

/-!
# The HTTP checker

One request for a check, and what becomes of the response: an assertion or the status decides the
check, and the body and the headers may be attached to its last request. The body is a stream that
is read once. It can be read in two places, for the assertion and for the capture, and
`Check.bodyBytes` tells the second whether the first has read it.

What awaiting the stream comes to is given, the time allowed included; so are the request itself,
its stats and the readings of the clock.
-/

namespace UptimeChecker

open Assertions.Compiled (Externals Cache EvalResult HeaderMap RuntimeError extractFailureData)

/-! ## Bodies -/

/-- How a body ends: the server is done, the connection fails, or the time allowed is over. -/
inductive BodyEnd where
  | endOfBody
  | connectionError
  | timedOut
deriving DecidableEq, Repr

/-- What waiting for the next chunk comes to. -/
inductive Arrival where
  | chunk (bytes : List UInt8)
  | ended (how : BodyEnd)
deriving DecidableEq, Repr

/-- The loop of `read_body_bounded`: the bytes, and what is left of the stream. -/
def readBodyBoundedFrom (maxBytes : Nat) (allBytes : List UInt8) :
    List Arrival → List UInt8 × List Arrival
  | [] => (allBytes, [])
  | .ended _ :: rest => (allBytes, rest)
  | .chunk bytes :: rest =>
    let allBytes := allBytes ++ bytes
    if maxBytes < allBytes.length then (allBytes, rest)
    else readBodyBoundedFrom maxBytes allBytes rest

/-- `read_body_bounded`. -/
def readBodyBounded (maxBytes : Nat) (body : List Arrival) : List UInt8 × List Arrival :=
  readBodyBoundedFrom maxBytes [] body

def maxBodyBytes : Nat := 10000

def maxRobotsBytes : Nat := 10000

/-- `reqwest::Response`: its body is what is still to arrive. -/
structure HttpResponse where
  status : UInt16
  headers : HeaderMap
  body : List Arrival

/-- `StatusCode::is_success`. -/
def HttpResponse.isSuccess (r : HttpResponse) : Bool := 200 ≤ r.status && r.status < 300

/-! ## Failed requests -/

/-- An error that a request error was caused by, as far as it is looked at. -/
inductive ErrorSource where
  | resolveError (display : String)
  | errorStack (reasons : List (Option String))
  | connectionRefused
  | connectionReset
  | hyper (isIncompleteMessage : Bool) (display : String)
  | hyperUtil (isConnect : Bool) (display : String)
  | other

/-- `reqwest::Error`, with the errors behind it, the nearest first. -/
structure ReqwestError where
  isTimeout : Bool
  isRedirect : Bool
  status : Option UInt16
  sources : List ErrorSource
  /-- `Debug` of the error, without its URL. -/
  debug : String

namespace ReqwestError

def dnsError (err : ReqwestError) : Option String :=
  err.sources.findSome? fun
    | .resolveError display => some display
    | _ => none

def tlsError (err : ReqwestError) : Option String :=
  err.sources.findSome? fun
    | .errorStack reasons =>
      some (String.intercalate ", " (reasons.map fun reason => reason.getD "unknown error"))
    | _ => none

def connectionError (err : ReqwestError) : Option String :=
  err.sources.findSome? fun
    | .connectionRefused => some "Connection refused"
    | .connectionReset => some "Connection reset"
    | _ => none

def hyperError (err : ReqwestError) : Option (CheckStatusReasonType × String) :=
  err.sources.findSome? fun
    | .hyper isIncompleteMessage display =>
      some (if isIncompleteMessage then .connectionError else .failure, display)
    | _ => none

def hyperUtilError (err : ReqwestError) : Option (CheckStatusReasonType × String) :=
  err.sources.findSome? fun
    | .hyperUtil isConnect display =>
      some (if isConnect then .connectionError else .failure, display)
    | _ => none

/-- `From<reqwest::Error> for CheckStatusReason`. -/
def toReason (err : ReqwestError) : CheckStatusReason :=
  if err.isTimeout then ⟨.timeout, "Request timed out", none⟩
  else if err.isRedirect then ⟨.redirectError, "Too many redirects", none⟩
  else
    match err.dnsError, err.tlsError, err.connectionError, err.hyperError, err.hyperUtilError with
    | some message, _, _, _, _ => ⟨.dnsError, message, none⟩
    | none, some message, _, _, _ => ⟨.tlsError, message, none⟩
    | none, none, some message, _, _ => ⟨.connectionError, message, none⟩
    | none, none, none, some (statusType, message), _ => ⟨statusType, message, none⟩
    | none, none, none, none, some (statusType, message) => ⟨statusType, message, none⟩
    | none, none, none, none, none => ⟨.failure, err.debug, none⟩

end ReqwestError

/-- `TimeDelta::from_std(duration).unwrap_or_default()`: zero where the milliseconds do not fit. -/
def timeDeltaFromStd (nanos : Nat) : Int :=
  if nanos ≤ 9223372036854775807 * 1000000 then nanos else 0

/-- `num_microseconds().unwrap_or(0) as u64`. -/
def microsOrZero (nanos : Int) : UInt64 :=
  let micros := nanos.tdiv 1000
  if -2 ^ 63 ≤ micros ∧ micros < 2 ^ 63 then UInt64.ofNat (micros % 2 ^ 64).toNat else 0

/-- `to_errored_request_infos`: one request, its whole duration put down to the part that failed. -/
def toErroredRequestInfos (actualCheckTime : DateTime) (elapsed : Nat) (err : ReqwestError)
    (config : CheckConfig) : List RequestInfo :=
  let micros := microsOrZero (timeDeltaFromStd elapsed)
  let startUs := (actualCheckTime.nanos / 1000 % 2 ^ 128).toNat
  let zeroTiming : Timing := ⟨startUs, 0⟩
  let fullDuration : Timing := ⟨startUs, micros⟩
  let zeroDurations : RequestDurations :=
    ⟨zeroTiming, zeroTiming, zeroTiming, zeroTiming, zeroTiming, zeroTiming⟩
  let durations : RequestDurations :=
    if err.dnsError.isSome then { zeroDurations with dnsLookup := fullDuration }
    else if err.connectionError.isSome then { zeroDurations with tcpConnection := fullDuration }
    else if err.tlsError.isSome then { zeroDurations with tlsHandshake := fullDuration }
    else { zeroDurations with sendRequest := fullDuration }
  [{ httpStatusCode := err.status
     requestType := config.requestMethod
     requestBodySizeBytes := UInt32.ofNat config.requestBody.utf8ByteSize
     url := config.url
     responseBodySizeBytes := 0
     requestDurationUs := micros
     durations := durations
     certificateInfo := none
     responseBody := none
     responseHeaders := none }]

/-! ## Checking a response -/

/-- What is fixed outside: the hash of ids, the stats of a pooled connection, and two texts. -/
structure CheckerExternals where
  newV5 : NewV5
  newPooled : Instant → Nat → ConnectionStats
  /-- `Display` of `DateTime<Utc>`. -/
  displayDateTime : DateTime → String
  /-- `Display` of `StatusCode`. -/
  displayStatus : UInt16 → String

/-- The `url` and `texting_robots` libraries. -/
structure RobotsExternals where
  /-- `url::Url`. -/
  Url : Type
  parseUrl : String → Option Url
  setPath : Url → String → Url
  asStr : Url → String
  /-- `texting_robots::Robot`. -/
  Robot : Type
  newRobot : String → List UInt8 → Option Robot
  allowed : Robot → String → Bool

structure ReqwestChecker (lib : Externals) where
  assertCache : Cache lib
  disableAssertions : Bool
  responseCaptureEnabled : Bool
  assertionComplexity : UInt32
  maxAssertionOps : UInt32

namespace ReqwestChecker

variable {lib : Externals}

/-- A check decided: what is left of the body, and the cache. -/
structure Decided (lib : Externals) where
  check : Check
  body : List Arrival
  assertCache : Cache lib

/-- The check that the outcome of an evaluation makes. -/
def checkOfEval : Except RuntimeError EvalResult → Check
  | .ok e => if e.result then .success else .assertFailure e.reasonPath
  | .error err => .assertEvaluationFailure err

/-- The check that the status makes. -/
def checkOfStatus (ext : CheckerExternals) (r : HttpResponse) : Check :=
  if r.isSuccess then .success else .codeFailure (ext.displayStatus r.status)

/-- `to_check_result`: the body is read if the assertion requires it, and only then kept in the
check. -/
def toCheckResult (ext : CheckerExternals) (checker : ReqwestChecker lib) (config : CheckConfig)
    (r : HttpResponse) : Decided lib :=
  if checker.disableAssertions then ⟨checkOfStatus ext r, r.body, checker.assertCache⟩
  else
    match config.assertion with
    | none => ⟨checkOfStatus ext r, r.body, checker.assertCache⟩
    | some assertion =>
      let (bodyBytes, rest) :=
        if assertion.requiresBody then readBodyBounded maxBodyBytes r.body else ([], r.body)
      match checker.assertCache.getOrCompile assertion checker.maxAssertionOps.toNat with
      | (.error err, cache) => ⟨.assertCompileFailure err, rest, cache⟩
      | (.ok compiled, cache) =>
        let check := checkOfEval
          (compiled.eval ⟨r.status, r.headers, bodyBytes⟩ checker.assertionComplexity.toNat)
        ⟨{ check with bodyBytes := if assertion.requiresBody then some bodyBytes else none }, rest,
          cache⟩

/-- The body and the headers, put into the last request. A header that is no text is replaced. -/
def attach (bodyBytes : List UInt8) (headers : HeaderMap) (info : RequestInfo) : RequestInfo :=
  { info with
    responseBody := if bodyBytes.isEmpty then info.responseBody else some (Base64.encode bodyBytes)
    responseHeaders := some (headers.map fun (name, value) =>
      (name, value.toStr.getD "<non-utf8>")) }

/-- `if let Some(last) = infos.last_mut()`. -/
def modifyLast (f : RequestInfo → RequestInfo) (infos : List RequestInfo) : List RequestInfo :=
  infos.dropLast ++ infos.getLast?.toList.map f

/-- What becomes of a response that was reached. -/
def checkResponse (ext : CheckerExternals) (checker : ReqwestChecker lib) (check : ScheduledCheck)
    (r : HttpResponse) (stats : List RedirectStats) : Check × Cache lib :=
  let config := check.config
  let shouldCapture := checker.responseCaptureEnabled && config.captureResponseOnFailure
  let ⟨result, body, cache⟩ := toCheckResult ext checker config r
  let willCapture := check.forceBodyCapture || (shouldCapture && result.result = .failure)
  let bodyBytes :=
    if willCapture && result.bodyBytes.isNone then some (readBodyBounded maxBodyBytes body).1
    else result.bodyBytes
  let requestInfos := toRequestInfoList ext.newPooled stats config.requestMethod
  let requestInfos :=
    match willCapture, bodyBytes with
    | true, some bytes => modifyLast (attach bytes r.headers) requestInfos
    | _, _ => requestInfos
  ({ result with bodyBytes, requestInfos }, cache)

/-- What a run of `check_url` meets with. The elapsed times are in nanoseconds. -/
structure UrlReadings where
  actualCheckTime : DateTime
  spanId : SpanId
  response : Except ReqwestError HttpResponse
  stats : List RedirectStats
  errorElapsed : Nat
  elapsed : Nat

/-- `check_url`: no answer where the `expect` on the assertion or the walk down its tree panics. -/
def checkUrl (ext : CheckerExternals) (checker : ReqwestChecker lib) (check : ScheduledCheck)
    (region : String) (readings : UrlReadings) : Option CheckResult × Cache lib :=
  let config := check.config
  let traceId := makeTraceId ext.newV5 ext.displayDateTime config check.tick check.retryCount
  let (checkResult, cache) :=
    match readings.response with
    | .ok response => checkResponse ext checker check response readings.stats
    | .error err =>
      (.otherFailure err.toReason
        (toErroredRequestInfos readings.actualCheckTime readings.errorElapsed err config),
        checker.assertCache)
  let duration := timeDeltaFromStd readings.elapsed
  let assertionFailureData : Option (Option Assertions.Assertion) :=
    match checkResult.assertPath with
    | none => some none
    | some path =>
      config.assertion.bind fun assertion =>
        (extractFailureData path assertion.root).map fun root => some ⟨root⟩
  (assertionFailureData.map fun assertionFailureData =>
    { guid := traceId
      subscriptionId := config.subscriptionId
      status := checkResult.result
      statusReason := checkResult.reason
      traceId := traceId
      spanId := readings.spanId
      scheduledCheckTime := check.tick.time
      scheduledCheckTimeUs := check.tick.time
      actualCheckTime := readings.actualCheckTime
      actualCheckTimeUs := readings.actualCheckTime
      duration := some duration
      durationUs := some duration
      requestInfo := checkResult.requestInfos.getLast?
      region := region
      requestInfoList := checkResult.requestInfos
      assertionFailureData := assertionFailureData }, cache)

/-- What a run of `check_robots` meets with; `get` is what requesting a URL comes to. -/
structure RobotsReadings (robots : RobotsExternals) where
  get : robots.Url → Except ReqwestError HttpResponse
  actualCheckTime : DateTime
  spanId : SpanId

/-- `check_robots`: a result only where the URL is disallowed. -/
def checkRobots (ext : CheckerExternals) (robots : RobotsExternals) (check : ScheduledCheck)
    (region : String) (readings : RobotsReadings robots) : Option CheckResult :=
  let config := check.config
  match robots.parseUrl config.url with
  | none => none
  | some url =>
    match readings.get (robots.setPath url "robots.txt") with
    | .error _ => none
    | .ok res =>
      let robotsTxt := (readBodyBounded maxRobotsBytes res.body).1
      match robots.newRobot "SentryUptimeBot" robotsTxt with
      | none => none
      | some r =>
        if robots.allowed r (robots.asStr url) then none
        else
          let traceId :=
            makeTraceId ext.newV5 ext.displayDateTime config check.tick check.retryCount
          some
            { guid := traceId
              subscriptionId := config.subscriptionId
              status := .disallowedByRobots
              statusReason := none
              traceId := traceId
              spanId := readings.spanId
              scheduledCheckTime := check.tick.time
              scheduledCheckTimeUs := check.tick.time
              actualCheckTime := readings.actualCheckTime
              actualCheckTimeUs := readings.actualCheckTime
              duration := none
              durationUs := none
              requestInfo := none
              region := region
              requestInfoList := []
              assertionFailureData := none }

end ReqwestChecker

end UptimeChecker
