import UptimeChecker.Checker.ReqwestChecker
import UptimeChecker.Types.Result.Json

/-!
# The request of a check

What `reqwest` is asked to send for a check: the headers of the config that are headers at all, in
order, and behind them one that tells the site of the trace. How the request gets to the site is
not said here.
-/

namespace UptimeChecker

open Assertions.Compiled (HeaderMap HeaderValue)

/-- The value of the `sentry-trace` header. A zero at its end asks not to sample the trace. -/
def makeTraceHeader (config : CheckConfig) (traceId : Uuid) (spanId : SpanId) : String :=
  if config.traceSampling then
    traceId.simple ++ "-" ++ spanId.display
  else traceId.simple ++ "-" ++ spanId.display ++ "-" ++ "0"

/-- What `http` takes for headers. -/
structure HttpExternals where
  /-- `HeaderName::try_from`. -/
  headerName : String → Option String
  /-- `HeaderValue::from_str`. -/
  headerValue : String → Option HeaderValue
  /-- Whether the URL of a request can be parsed. -/
  urlBuilds : String → Bool

/-- A request that has been built; its timeout is in nanoseconds. -/
structure Request where
  method : RequestMethod
  url : String
  timeout : Nat
  headers : HeaderMap
  body : String

/-- The headers of a config. One whose name or value is none is left out. -/
def HttpExternals.headers (http : HttpExternals) (config : CheckConfig) : HeaderMap :=
  config.requestHeaders.filterMap fun (key, value) => do
    let headerName ← http.headerName key
    let headerValue ← http.headerValue value
    some (headerName, headerValue)

/-- `do_request` up to `build`, which fails where the URL or the last header is none. A timeout
below zero is zero. -/
def HttpExternals.doRequest (http : HttpExternals) (config : CheckConfig) (sentryTrace : String) :
    Option Request :=
  if http.urlBuilds config.url then
    (http.headerValue sentryTrace).map fun traceValue =>
      { method := config.requestMethod
        url := config.url
        timeout := config.timeout.toNat
        headers := http.headers config ++ [("sentry-trace", traceValue)]
        body := config.requestBody }
  else none

/-- The request that `check_url` makes for a check. -/
def ReqwestChecker.request (http : HttpExternals) (ext : CheckerExternals) (check : ScheduledCheck)
    (spanId : SpanId) : Option Request :=
  let traceId := makeTraceId ext.newV5 ext.displayDateTime check.config check.tick check.retryCount
  http.doRequest check.config (makeTraceHeader check.config traceId spanId)

end UptimeChecker
