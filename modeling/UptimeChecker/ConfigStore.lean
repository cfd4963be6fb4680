import Std.Data.HashMap.Lemmas
import Std.Data.HashSet.Lemmas
import UptimeChecker.Types.CheckConfig

/-!
# The config store

The configs of one partition, held twice: by subscription id in `configs`, and by second of the
hour in `tickBuckets`, where a scheduler finds everything that is due at a tick without looking at
the rest.

Both hash containers are the library's own. A bucket hashes a config by its subscription id alone
and compares whole configs, as the source's `Hash` and derived `Eq` do. Indexing a vector out of
range panics, and `none` stands for that panic: an operation that answers `some` ran to its end.
-/

namespace UptimeChecker

/-- A bucket of checks at a given tick. -/
abbrev TickBucket := Std.HashSet CheckConfig

/-- One bucket for each second of the longest interval. -/
abbrev TickBuckets := Array TickBucket

/-- `self.tick_buckets[slot]` with an update in place; `none` is the index panic. -/
def TickBuckets.update? (buckets : TickBuckets) (slot : Nat) (f : TickBucket → TickBucket) :
    Option TickBuckets :=
  if h : slot < buckets.size then some (buckets.set slot (f buckets[slot])) else none

structure ConfigStore where
  /-- Each bucket represents a single tick worth of configs. -/
  tickBuckets : TickBuckets
  /-- Mapping of each subscription id's config. -/
  configs : Std.HashMap Uuid CheckConfig
  /-- The last instant the store was updated. -/
  lastUpdate : Option Instant

namespace ConfigStore

def makeEmptyTickBuckets : TickBuckets := Array.replicate maxCheckIntervalSecs ∅

def new : ConfigStore := ⟨makeEmptyTickBuckets, ∅, none⟩

variable (newV5 : NewV5) (now : Instant)

/-- Remove a check configuration from the store. -/
def removeConfig (store : ConfigStore) (subscriptionId : Uuid) : Option ConfigStore :=
  match store.configs[subscriptionId]? with
  | none => some store
  | some config => do
    let tickBuckets ← (config.slots newV5).foldlM
      (fun buckets slot => TickBuckets.update? buckets slot (·.erase config)) store.tickBuckets
    some ⟨tickBuckets, store.configs.erase subscriptionId, some now⟩

/-- Insert a new check configuration into the store. -/
def addConfig (store : ConfigStore) (config : CheckConfig) : Option ConfigStore := do
  let store ←
    if store.configs.contains config.subscriptionId then
      store.removeConfig newV5 now config.subscriptionId
    else some store
  let tickBuckets ← (config.slots newV5).foldlM
    (fun buckets slot => TickBuckets.update? buckets slot (·.insert config)) store.tickBuckets
  some ⟨tickBuckets, store.configs.insert config.subscriptionId config, some now⟩

/-- All check configs that are scheduled for a given tick; `none` is the index panic. -/
def getConfigs (store : ConfigStore) (tick : Tick) : Option TickBucket :=
  store.tickBuckets[tick.index]?

/-- The last instant that the config store was updated. -/
def getLastUpdate (store : ConfigStore) : Option Instant := store.lastUpdate

end ConfigStore

end UptimeChecker
