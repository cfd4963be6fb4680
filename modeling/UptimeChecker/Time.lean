import Mathlib.Data.Int.ModEq

/-!
# Wall-clock and monotonic time

The two clocks the checker reads. `DateTime` is chrono's `DateTime<Utc>`: a count of nanoseconds
from the Unix epoch that stays inside chrono's calendar, so an addition that would leave the
calendar has no value here, as it panics there. `Instant` is the monotonic clock, in nanoseconds
from an origin no program sees.

The bounds of the calendar are `NaiveDateTime::MIN` (-262143-01-01) and `NaiveDateTime::MAX`
(+262142-12-31). A timestamp in seconds therefore always fits an `i64`; a timestamp in nanoseconds
does so only for the years 1677 to 2262, which is why `timestampNanosOpt` is partial.
-/

namespace UptimeChecker

/-- Nanoseconds in one second. -/
def nanosPerSec : Int := 1000000000

/-- `DateTime<Utc>`: nanoseconds from the Unix epoch, within chrono's calendar. -/
structure DateTime where
  nanos : Int
  min_le : -8334601228800 * 1000000000 ≤ nanos
  lt_max : nanos < 8210266876800 * 1000000000
deriving DecidableEq

/-- The monotonic clock, in nanoseconds from its own origin. -/
abbrev Instant := Nat

namespace DateTime

@[ext] theorem ext {a b : DateTime} (h : a.nanos = b.nanos) : a = b := by
  cases a; cases b; cases h; rfl

/-- The calendar's answer for a count of nanoseconds, if it has one. -/
def ofNanos? (n : Int) : Option DateTime :=
  if h : -8334601228800 * 1000000000 ≤ n ∧ n < 8210266876800 * 1000000000 then
    some ⟨n, h.1, h.2⟩
  else none

/-- `DateTime::from_timestamp(s, 0)`, at a second the calendar has. -/
def ofSecs (s : Nat) (h : s < 8210266876800) : DateTime :=
  ⟨s * 1000000000, by omega, by omega⟩

/-- `timestamp`: whole seconds from the epoch, rounded down. -/
def timestamp (t : DateTime) : Int := t.nanos / nanosPerSec

/-- `num_seconds_from_midnight`. -/
def numSecondsFromMidnight (t : DateTime) : Nat := (t.timestamp % 86400).toNat

/-- `hour`: from 0 to 23. -/
def hour (t : DateTime) : Nat := t.numSecondsFromMidnight / 3600

/-- `minute`: from 0 to 59. -/
def minute (t : DateTime) : Nat := t.numSecondsFromMidnight / 60 % 60

/-- `timestamp_nanos_opt`: `None` where an `i64` cannot hold the count. -/
def timestampNanosOpt (t : DateTime) : Option Int64 :=
  if -2 ^ 63 ≤ t.nanos ∧ t.nanos < 2 ^ 63 then some (Int64.ofInt t.nanos) else none

/-- `Utc.timestamp_nanos`: every `i64` lies in the calendar. -/
def timestampNanos (n : Int64) : DateTime :=
  ⟨n.toInt, by have := Int64.le_toInt n; omega, by have := Int64.toInt_lt n; omega⟩

/-- `date + duration`, which panics outside the calendar. -/
def add? (t : DateTime) (nanos : Int) : Option DateTime := ofNanos? (t.nanos + nanos)

/-- `Ord::min`. -/
def min (a b : DateTime) : DateTime := if b.nanos < a.nanos then b else a

/-- `duration_trunc(TimeDelta::seconds(1))`: an error where the nanosecond count has no `i64`, and
otherwise the remainder (which takes the sign of the count) taken off downwards. -/
def durationTrunc (t : DateTime) : Option DateTime :=
  t.timestampNanosOpt.bind fun stamp =>
    let deltaDown := stamp.toInt.tmod nanosPerSec
    if deltaDown = 0 then some t
    else if 0 < deltaDown then t.add? (-deltaDown)
    else t.add? (-(nanosPerSec - deltaDown.natAbs))

/-- `Utc::now()` at a reading of the system clock; a clock before the epoch panics. -/
def now? (systemTime : Int) : Option DateTime :=
  if 0 ≤ systemTime then ofNanos? systemTime else none

/-- The time is a whole second. -/
def Aligned (t : DateTime) : Prop := nanosPerSec ∣ t.nanos

theorem nanos_of_ofNanos? {n : Int} {t : DateTime} (h : ofNanos? n = some t) : t.nanos = n := by
  unfold ofNanos? at h
  split at h
  · cases h; rfl
  · cases h

theorem nanos_of_add? {t u : DateTime} {n : Int} (h : t.add? n = some u) :
    u.nanos = t.nanos + n :=
  nanos_of_ofNanos? h

theorem nanos_of_now? {n : Int} {t : DateTime} (h : now? n = some t) : t.nanos = n ∧ 0 ≤ n := by
  unfold now? at h
  split at h
  · exact ⟨nanos_of_ofNanos? h, ‹_›⟩
  · cases h

/-- The whole seconds of a time of the calendar fit an `i64` with room to spare. -/
theorem timestamp_bounds (t : DateTime) : -2 ^ 43 < t.timestamp ∧ t.timestamp < 2 ^ 43 := by
  have h₁ := t.min_le
  have h₂ := t.lt_max
  unfold timestamp nanosPerSec
  omega

/-- Reading back the `i64` nanosecond count of a time. -/
theorem toInt_of_timestampNanosOpt {t : DateTime} {n : Int64}
    (h : t.timestampNanosOpt = some n) : n.toInt = t.nanos := by
  unfold timestampNanosOpt at h
  split at h
  · rename_i hr
    cases h
    rw [Int64.toInt_ofInt]
    have hsize : Int64.size = 18446744073709551616 := rfl
    rw [hsize, Int.bmod_eq_of_le] <;> omega
  · cases h

/-- Truncation to the second goes down to the second the time lies in. -/
theorem nanos_of_durationTrunc {t u : DateTime} (h : t.durationTrunc = some u) :
    u.nanos = t.timestamp * nanosPerSec := by
  obtain ⟨stamp, hstamp, h⟩ := Option.bind_eq_some_iff.mp h
  rw [toInt_of_timestampNanosOpt hstamp] at h
  -- the remainder of Rust differs from the Euclidean one by a whole second, below the epoch only
  have hmod := Int.tmod_eq_emod (a := t.nanos) (b := nanosPerSec)
  unfold timestamp nanosPerSec at *
  dsimp only at h
  split at h
  · cases h
    split at hmod <;> omega
  · split at h
    · rw [nanos_of_add? h]
      split at hmod <;> omega
    · rw [nanos_of_add? h]
      split at hmod <;> omega

theorem durationTrunc_aligned {t u : DateTime} (h : t.durationTrunc = some u) : u.Aligned :=
  ⟨t.timestamp, by rw [nanos_of_durationTrunc h, Int.mul_comm]⟩

theorem durationTrunc_le {t u : DateTime} (h : t.durationTrunc = some u) : u.nanos ≤ t.nanos := by
  rw [nanos_of_durationTrunc h]
  unfold timestamp nanosPerSec
  omega

end DateTime

end UptimeChecker
