import UptimeChecker.Assertions.Json
import UptimeChecker.Checker

/-!
# Check configs as JSON

What a config is on the wire. Its id is written in hexadecimal, its interval as the seconds between
two checks, its timeout in whole milliseconds, and every field that was added later may be left out.
JSON is a tree here as it is for assertions; of the forms of a UUID only the one that is written is
read.
-/

namespace UptimeChecker

open TaggedUnion

open Assertions.Compiled (Json)

namespace Assertions.Compiled

/-- An `i64`: serde_json keeps the sign of a number apart. -/
def Json.ofSigned (n : Int64) : Json :=
  if 0 ≤ n.toInt then number (.posInt (UInt64.ofNat n.toInt.toNat)) else number (.negInt n)

def Json.asBool : Json → Option Bool
  | bool b => some b
  | _ => none

/-- An `Option`, in which `null` is nothing. -/
def Json.ofOption {α : Type} (serialize : α → Json) : Option α → Json
  | none => null
  | some a => serialize a

def Json.asOption {α : Type} (deserialize : Json → Option α) : Json → Option (Option α)
  | null => some none
  | json => (deserialize json).map some

/-- A `Vec`. -/
def Json.asVec {α : Type} (deserialize : Json → Option α) : Json → Option (List α)
  | array elements => elements.mapM deserialize
  | _ => none

/-- A pair of strings is a sequence of two. -/
def Json.ofStringPair (pair : String × String) : Json :=
  array [string pair.1, string pair.2]

def Json.asStringPair : Json → Option (String × String)
  | array [string a, string b] => some (a, b)
  | _ => none

end Assertions.Compiled

/-- The value of a hexadecimal digit, in either case. -/
def hexValue (c : Char) : Option Nat :=
  if '0' ≤ c ∧ c ≤ '9' then some (c.toNat - '0'.toNat)
  else if 'a' ≤ c ∧ c ≤ 'f' then some (c.toNat - 'a'.toNat + 10)
  else if 'A' ≤ c ∧ c ≤ 'F' then some (c.toNat - 'A'.toNat + 10)
  else none

/-- The number some hexadecimal digits stand for, after those that stood for `n`. -/
def ofHexDigits (n : Nat) : List Char → Option Nat
  | [] => some n
  | c :: cs => (hexValue c).bind fun d => ofHexDigits (16 * n + d) cs

/-- `uuid::serde::simple`: thirty-two digits. -/
def Uuid.simple (u : Uuid) : String := String.ofList (hexDigits 32 u.toNat)

def Uuid.parseSimple (text : String) : Option Uuid :=
  if text.toList.length = 32 then (ofHexDigits 0 text.toList).map .fromU128 else none

/-- The intervals, with the discriminants they are written as. -/
def CheckInterval.all : List CheckInterval :=
  [oneMinute, fiveMinutes, tenMinutes, twentyMinutes, thirtyMinutes, sixtyMinutes]

def CheckInterval.serialize (interval : CheckInterval) : Json :=
  .ofSigned (Int64.ofNat interval.secs)

def CheckInterval.deserialize (json : Json) : Option CheckInterval :=
  json.asI64.bind fun n => all.find? fun interval => Int64.ofNat interval.secs = n

/-- The name of a method, in upper case. -/
def RequestMethod.name : RequestMethod → String
  | get => "GET"
  | post => "POST"
  | head => "HEAD"
  | put => "PUT"
  | delete => "DELETE"
  | patch => "PATCH"
  | options => "OPTIONS"

def RequestMethod.deserialize (json : Json) : Option RequestMethod :=
  json.asStr.bind fun name =>
    [get, post, head, put, delete, patch, options].find? fun method => method.name = name

def RegionScheduleMode.name : RegionScheduleMode → String
  | roundRobin => "round_robin"

def RegionScheduleMode.deserialize (json : Json) : Option RegionScheduleMode :=
  json.asStr.bind fun name => [roundRobin].find? fun mode => mode.name = name

/-- A time is written as the nearest number of whole units, of two as near the one that is farther
from zero. -/
def roundTo (unit : Nat) (nanos : Int) : Int :=
  nanos.sign * ((nanos.natAbs + unit / 2) / unit : Nat)

/-- `DurationMilliSeconds<i64>` writes a `TimeDelta`. -/
def roundMillis (nanos : Int) : Int := roundTo 1000000 nanos

/-- `DurationMilliSeconds<i64>` reads a `TimeDelta`, the bounds of which are symmetric. -/
def timeDeltaOfMillis (n : Int64) : Option Int :=
  if n.toInt = -9223372036854775808 then none else some (n.toInt * 1000000)

namespace CheckConfig

/-- `Serialize` of a `CheckConfig`. -/
def serialize (config : CheckConfig) : Json :=
  .object [("subscription_id", .string config.subscriptionId.simple),
    ("interval_seconds", config.interval.serialize),
    ("timeout_ms", .ofSigned (Int64.ofInt (roundMillis config.timeout))),
    ("url", .string config.url),
    ("request_method", .string config.requestMethod.name),
    ("request_headers", .array (config.requestHeaders.map .ofStringPair)),
    ("request_body", .string config.requestBody),
    ("trace_sampling", .bool config.traceSampling),
    ("active_regions", .ofOption (fun regions => .array (regions.map .string))
      config.activeRegions),
    ("region_schedule_mode", .ofOption (fun mode => .string mode.name) config.regionScheduleMode),
    ("assertion", .ofOption Assertions.Assertion.serialize config.assertion),
    ("capture_response_on_failure", .bool config.captureResponseOnFailure)]

/-- `default_capture_response`. -/
def defaultCaptureResponse : Bool := true

/-- `Deserialize` of a `CheckConfig`. -/
def deserialize (json : Json) : Option CheckConfig := do
  let fields ← json.asObject
  let subscriptionId ← Uuid.parseSimple (← (← field "subscription_id" fields).asStr)
  let interval ← CheckInterval.deserialize (← field "interval_seconds" fields)
  let timeout ← timeDeltaOfMillis (← (← field "timeout_ms" fields).asI64)
  let url ← (← field "url" fields).asStr
  let requestMethod ← fieldOr "request_method" RequestMethod.deserialize .get fields
  let requestHeaders ← fieldOr "request_headers" (Json.asVec Json.asStringPair) [] fields
  let requestBody ← fieldOr "request_body" Json.asStr "" fields
  let traceSampling ← fieldOr "trace_sampling" Json.asBool false fields
  let activeRegions ←
    fieldOr "active_regions" (Json.asOption (Json.asVec Json.asStr)) none fields
  let regionScheduleMode ←
    fieldOr "region_schedule_mode" (Json.asOption RegionScheduleMode.deserialize) none fields
  let assertion ← fieldOr "assertion" (Json.asOption Assertions.Assertion.deserialize) none fields
  let captureResponseOnFailure ←
    fieldOr "capture_response_on_failure" Json.asBool defaultCaptureResponse fields
  some ⟨subscriptionId, interval, timeout, url, requestMethod, requestHeaders, requestBody,
    traceSampling, activeRegions, regionScheduleMode, assertion, captureResponseOnFailure⟩

end CheckConfig

end UptimeChecker
