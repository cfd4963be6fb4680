import Mathlib.Data.Finset.Dedup
import UptimeChecker.ConfigStore
import UptimeChecker.Lib.Transition

/-!
# The redis config provider

One partition, and the two parties that share it through redis. A writer puts a config into the
config hash, in whatever encoding the provider decodes, or takes it out, and then leaves a notice in
the update hash. The monitor task loads
the config hash once and polls the update hash from then on: it takes all notices out, removes what
was deleted, fetches what was upserted and adds it. Each step of the system is one redis command,
one call on the config store, or one command that fails.

A command that fails may still have been applied. A failure of the initial load panics; one of a
poll is logged, and the monitor task polls anew.

Which partitions a checker owns is read off its number once, before any of this.
-/

namespace UptimeChecker

/-- What the configuration says about the checkers and the partitions they share. -/
structure Config where
  checkerNumber : UInt16
  totalCheckers : UInt16
  configProviderRedisTotalPartitions : UInt16
deriving DecidableEq, Repr

/-- The action to perform when receiving a `ConfigUpdate`. -/
inductive ConfigUpdateAction where
  | upsert
  | delete
deriving DecidableEq, Repr

/-- The notification that a config was upserted or deleted. -/
structure ConfigUpdate where
  action : ConfigUpdateAction
  subscriptionId : Uuid
deriving DecidableEq, Repr

/-- What the provider relies on in `rmp_serde`: an encoded update decodes to the same value. Of a
config only the decoding is used: not every one survives being encoded. -/
structure Rmp (Payload : Type) where
  deserializeRmp : Payload → Option CheckConfig
  updateToVec : ConfigUpdate → Payload
  updateFromSlice : Payload → Option ConfigUpdate
  updateFromSlice_updateToVec : ∀ update, updateFromSlice (updateToVec update) = some update

/-- A redis hash. Its fields are subscription ids, each told from the others by its text. -/
abbrev RedisHash (Payload : Type) := Uuid → Option Payload

namespace RedisHash

variable {Payload : Type}

/-- `HSET`. -/
def hset (hash : RedisHash Payload) (id : Uuid) (payload : Payload) : RedisHash Payload :=
  fun key => if key = id then some payload else hash key

/-- `HDEL`. -/
def hdel (hash : RedisHash Payload) (id : Uuid) : RedisHash Payload :=
  fun key => if key = id then none else hash key

/-- `HVALS`: the values, in any order. -/
def Hvals (hash : RedisHash Payload) (payloads : List Payload) : Prop :=
  ∃ ids : List Uuid, ids.Nodup ∧ (∀ id, id ∈ ids ↔ (hash id).isSome) ∧
    ids.map hash = payloads.map some

/-- `HGET` of some fields: their values in order, and for a field that is missing whatever the
client answers there. -/
def hget (hash : RedisHash Payload) (missing : List Payload) (ids : List Uuid) : List Payload :=
  ids.flatMap fun id => (hash id).elim missing ([·])

end RedisHash

namespace RedisConfigProvider

/-- The decodable updates among some payloads, as upserts and deletes. -/
def splitUpdates {Payload : Type} (rmp : Rmp Payload) (payloads : List Payload) :
    List ConfigUpdate × List ConfigUpdate :=
  (payloads.filterMap rmp.updateFromSlice).foldl
    (fun (upserts, deletes) update =>
      match update.action with
      | .upsert => (upserts ++ [update], deletes)
      | .delete => (upserts, deletes ++ [update]))
    ([], [])

/-- Where the writer stands: done, or between its two writes. -/
inductive Writer where
  | idle
  | between (update : ConfigUpdate)
deriving DecidableEq, Repr

/-- Where the monitor task stands with the partition: before its initial load, adding the payloads
it has read, between polls, handling the updates it has consumed, or panicked. -/
inductive Reader (Payload : Type) where
  | booting
  | adding (payloads : List Payload)
  | waiting
  | handling (deletes upserts : List ConfigUpdate)
  | panicked

/-- The partition's two hashes, its config store and its two parties. -/
structure State (Payload : Type) where
  configs : RedisHash Payload
  updates : RedisHash Payload
  writer : Writer
  reader : Reader Payload
  configStore : ConfigStore

/-- The names of the steps. -/
inductive Action where
  | setConfig | delConfig | setUpdate
  | readConfigs | readConfigsError | addConfig | skipPayload | allAdded
  | consumeConfigUpdates | consumeConfigUpdatesError | consumeConfigUpdatesErrorApplied
  | removeConfig | noUpserts | getConfigKeyPayloads | getConfigKeyPayloadsError
deriving DecidableEq, Repr

variable {Payload : Type} (newV5 : NewV5) (rmp : Rmp Payload)

/-- One step of one party. -/
inductive Step (s : State Payload) : Action → State Payload → Prop where
  /-- The writer puts a config into the config hash: some payload that decodes to it. -/
  | setConfig {payload : Payload} {config : CheckConfig} (idle : s.writer = .idle)
      (decodes : rmp.deserializeRmp payload = some config) :
      Step s .setConfig
        { s with
          configs := s.configs.hset config.subscriptionId payload
          writer := .between ⟨.upsert, config.subscriptionId⟩ }
  /-- The writer takes a config out of the config hash. -/
  | delConfig (id : Uuid) (idle : s.writer = .idle) :
      Step s .delConfig
        { s with configs := s.configs.hdel id, writer := .between ⟨.delete, id⟩ }
  /-- The writer leaves its notice. -/
  | setUpdate {update : ConfigUpdate} (between : s.writer = .between update) :
      Step s .setUpdate
        { s with
          updates := s.updates.hset update.subscriptionId (rmp.updateToVec update)
          writer := .idle }
  /-- The initial load reads the config hash. -/
  | readConfigs {payloads : List Payload} (phase : s.reader = .booting)
      (h : s.configs.Hvals payloads) :
      Step s .readConfigs { s with reader := .adding payloads }
  /-- The initial load fails: an `expect` panics. -/
  | readConfigsError (phase : s.reader = .booting) :
      Step s .readConfigsError { s with reader := .panicked }
  /-- The next payload is a config, which is added. -/
  | addConfig {payload : Payload} {payloads : List Payload} {config : CheckConfig} {now : Instant}
      {store : ConfigStore} (phase : s.reader = .adding (payload :: payloads))
      (decodes : rmp.deserializeRmp payload = some config)
      (h : s.configStore.addConfig newV5 now config = some store) :
      Step s .addConfig { s with reader := .adding payloads, configStore := store }
  /-- The next payload is no config. -/
  | skipPayload {payload : Payload} {payloads : List Payload}
      (phase : s.reader = .adding (payload :: payloads))
      (undecodable : rmp.deserializeRmp payload = none) :
      Step s .skipPayload { s with reader := .adding payloads }
  /-- All payloads are added. -/
  | allAdded (phase : s.reader = .adding []) : Step s .allAdded { s with reader := .waiting }
  /-- A poll reads the update hash and deletes it, atomically. -/
  | consumeConfigUpdates {payloads : List Payload} (phase : s.reader = .waiting)
      (h : s.updates.Hvals payloads) :
      Step s .consumeConfigUpdates
        { s with
          updates := fun _ => none
          reader := .handling (splitUpdates rmp payloads).2 (splitUpdates rmp payloads).1 }
  /-- The command fails, and was not applied. -/
  | consumeConfigUpdatesError (phase : s.reader = .waiting) :
      Step s .consumeConfigUpdatesError s
  /-- The command fails, but was applied. -/
  | consumeConfigUpdatesErrorApplied (phase : s.reader = .waiting) :
      Step s .consumeConfigUpdatesErrorApplied { s with updates := fun _ => none }
  /-- The next deleted config is removed. -/
  | removeConfig {update : ConfigUpdate} {deletes upserts : List ConfigUpdate} {now : Instant}
      {store : ConfigStore} (phase : s.reader = .handling (update :: deletes) upserts)
      (h : s.configStore.removeConfig newV5 now update.subscriptionId = some store) :
      Step s .removeConfig { s with reader := .handling deletes upserts, configStore := store }
  /-- Nothing was upserted. -/
  | noUpserts (phase : s.reader = .handling [] []) :
      Step s .noUpserts { s with reader := .waiting }
  /-- The upserted configs are fetched. What is answered for a missing one does not decode. -/
  | getConfigKeyPayloads {upserts : List ConfigUpdate} {missing : List Payload}
      (phase : s.reader = .handling [] upserts) (upserted : upserts ≠ [])
      (undecodable : ∀ payload ∈ missing, rmp.deserializeRmp payload = none) :
      Step s .getConfigKeyPayloads
        { s with reader := .adding (s.configs.hget missing (upserts.map (·.subscriptionId))) }
  /-- The command fails: the poll ends, and the next one starts over. -/
  | getConfigKeyPayloadsError {upserts : List ConfigUpdate}
      (phase : s.reader = .handling [] upserts) (upserted : upserts ≠ []) :
      Step s .getConfigKeyPayloadsError { s with reader := .waiting }

/-- The hashes as the writer leaves them: each config is stored under its own id, and each notice
tells whether its id has a config. -/
structure Written (configHash updateHash : RedisHash Payload) : Prop where
  configs : ∀ id payload, configHash id = some payload →
    ∃ config, rmp.deserializeRmp payload = some config ∧ config.subscriptionId = id
  updates : ∀ id payload, updateHash id = some payload →
    ∃ action, payload = rmp.updateToVec ⟨action, id⟩ ∧ (action = .upsert ↔ (configHash id).isSome)

/-- The writer and the monitor task. The monitor task starts with an empty config store. -/
def system : Transition (State Payload) Action where
  init s := ∃ configs updates, Written rmp configs updates ∧
    s = ⟨configs, updates, .idle, .booting, .new⟩
  step := Step newV5 rmp

/-- What a stepped `u16` range yields. The step past the last value may wrap: nobody reads it. -/
def stepValues (step : UInt16) : Nat → UInt16 → List UInt16
  | 0, _ => []
  | remaining + 1, value => value :: stepValues step remaining (value + step)

/-- `(start..stop).step_by(step)`. It yields as often as the step goes into the range, rounded
up. -/
def stepBy (start stop step : UInt16) : List UInt16 :=
  stepValues step ((stop.toNat - start.toNat + step.toNat - 1) / step.toNat) start

/-- `determine_owned_partitions`; it panics for a checker number out of range. -/
def determineOwnedPartitions (config : Config) : Option (Finset UInt16) :=
  if config.checkerNumber ≥ config.totalCheckers then none
  else some (stepBy config.checkerNumber config.configProviderRedisTotalPartitions
    config.totalCheckers).toFinset

end RedisConfigProvider

end UptimeChecker
