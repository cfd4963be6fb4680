import Mathlib.Data.BitVec
import UptimeChecker.Time
import UptimeChecker.Assertions.Source

/-!
# Check configs and the ticks they run at

A `CheckConfig` is one subscription: what to request, how often, and from which regions. Two hashes
of the subscription id, each a version 5 UUID under its own namespace, decide *when* it runs:
`slots` spreads the config over the seconds of the hour, and `shouldRun` picks one region of the
list for each of its intervals.

`Uuid::new_v5` is a parameter: nothing here depends on SHA-1, only on its being one fixed function
of the namespace and the bytes.

A `Tick` is a second of wall-clock time together with its place in the hour of buckets.
-/

namespace UptimeChecker

/-- A UUID, as the 128-bit number `as_u128` reads. -/
abbrev Uuid := BitVec 128

/-- The sixteen bytes of a UUID, the most significant first. -/
def Uuid.asBytes (u : Uuid) : List UInt8 :=
  (List.range 16).map fun i => UInt8.ofNat (u.toNat >>> (8 * (15 - i)))

/-- `Uuid::from_u128`. -/
def Uuid.fromU128 (n : Nat) : Uuid := BitVec.ofNat 128 n

/-- The variant and version bits every version 5 UUID carries: `0b10` on top of the ninth octet
and `5` on top of the seventh. -/
def Uuid.IsV5 (u : Uuid) : Prop := u.toNat / 2 ^ 76 % 16 = 5 ∧ u.toNat / 2 ^ 62 % 4 = 2

/-- The type of `Uuid::new_v5`. -/
abbrev NewV5 := Uuid → List UInt8 → Uuid

/-- Valid intervals between the checks. -/
inductive CheckInterval where
  | oneMinute
  | fiveMinutes
  | tenMinutes
  | twentyMinutes
  | thirtyMinutes
  | sixtyMinutes
deriving DecidableEq, Repr

def oneMinute : Nat := 60

/-- The discriminant of the enumeration: the interval in seconds. -/
def CheckInterval.secs : CheckInterval → Nat
  | .oneMinute => UptimeChecker.oneMinute
  | .fiveMinutes => UptimeChecker.oneMinute * 5
  | .tenMinutes => UptimeChecker.oneMinute * 10
  | .twentyMinutes => UptimeChecker.oneMinute * 20
  | .thirtyMinutes => UptimeChecker.oneMinute * 30
  | .sixtyMinutes => UptimeChecker.oneMinute * 60

/-- The largest check interval. -/
def maxCheckIntervalSecs : Nat := CheckInterval.sixtyMinutes.secs

/-- The namespace that assigns subscriptions to slots. -/
def subscriptionSlotNamespace : Uuid := .fromU128 134104732365955935133175004175948885464

/-- The namespace that assigns subscriptions to regions. -/
def subscriptionShouldRunNamespace : Uuid := .fromU128 31415926535897932384626433832795

/-- Check the robots.txt file every day, per subscription. -/
def robotsTxtCheckIntervalMinutes : Nat := 60 * 24

inductive RequestMethod where
  | get
  | post
  | head
  | put
  | delete
  | patch
  | options
deriving DecidableEq, Repr

inductive RegionScheduleMode where
  | roundRobin
deriving DecidableEq, Repr

/-- The configuration of a single check. The timeout is a `TimeDelta`, in nanoseconds. -/
structure CheckConfig where
  subscriptionId : Uuid
  interval : CheckInterval
  timeout : Int
  url : String
  requestMethod : RequestMethod := .get
  requestHeaders : List (String × String) := []
  requestBody : String := ""
  traceSampling : Bool := false
  activeRegions : Option (List String) := none
  regionScheduleMode : Option RegionScheduleMode := none
  assertion : Option Assertions.Assertion := none
  captureResponseOnFailure : Bool := true
deriving DecidableEq

/-- Only the subscription id is hashed, while equality compares every field. -/
instance : Hashable CheckConfig := ⟨fun config => hash config.subscriptionId⟩

/-- A tick: its wall-clock time and its bucket. -/
structure Tick where
  index : Nat
  time : DateTime
deriving DecidableEq

/-- The tick of a given time. The cast of the seconds to `usize` wraps below the epoch. -/
def Tick.fromTime (time : DateTime) : Tick :=
  ⟨(time.timestamp % 2 ^ 64).toNat % maxCheckIntervalSecs, time⟩

namespace CheckConfig

variable (newV5 : NewV5) (config : CheckConfig)

/-- The first second of the hour the config runs at. The divisor is a discriminant of the interval
enumeration, so `checked_rem` never answers `None`. -/
def firstSlot : Nat :=
  (newV5 subscriptionSlotNamespace config.subscriptionId.asBytes).toNat % config.interval.secs

/-- The seconds of the hour the config belongs to: its first slot and every interval after it. -/
def slots : List Nat :=
  let patternCount := maxCheckIntervalSecs / config.interval.secs
  (List.range patternCount).map fun c => config.firstSlot newV5 + config.interval.secs * c

/-- Trigger a check of the robots.txt every 24 hours at some particular minute of the day, per
subscription. All its numbers are far below the bounds of `i32`. -/
def shouldCheckRobots (tick : Tick) : Bool :=
  let dailyMinuteToCheck : Int :=
    (config.subscriptionId.toNat % robotsTxtCheckIntervalMinutes : Nat)
  let currentMinute : Int := (tick.time.minute + tick.time.hour * 60 : Nat)
  let intervalInMinutes : Int := (config.interval.secs : Int).tdiv 60
  currentMinute - intervalInMinutes < dailyMinuteToCheck &&
    currentMinute ≥ dailyMinuteToCheck

/-- The 128-bit seed the config's turn among its regions starts from. -/
def subscriptionSeed : Nat :=
  (newV5 subscriptionShouldRunNamespace config.subscriptionId.asBytes).toNat

/-- The interval a tick lies in, counted from the epoch: an `i64` division cast to `u128`. -/
def intervalCount (tick : Tick) : Nat :=
  (tick.time.timestamp.tdiv config.interval.secs % 2 ^ 128).toNat

/-- Which of `count` regions runs the config at a tick. The addition is one of `u128`, which wraps
in a release build. -/
def runningRegionIdx (tick : Tick) (count : Nat) : Nat :=
  (config.intervalCount tick + config.subscriptionSeed newV5) % 2 ^ 128 % count

/-- Whether this check runs in the current region at this tick. Without a schedule mode, or without
regions, it always does. -/
def shouldRun (tick : Tick) (currentRegion : String) : Bool :=
  if config.regionScheduleMode.isNone then true
  else
    match config.activeRegions.filter (!·.isEmpty) with
    | none => true
    | some activeRegions =>
      activeRegions[config.runningRegionIdx newV5 tick activeRegions.length]? = some currentRegion

end CheckConfig

end UptimeChecker
