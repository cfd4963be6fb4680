import UptimeChecker.Manager
import UptimeChecker.RedisConfigProvider

/-!
# Running the config provider

The two tasks of `run_config_provider`. The monitor task registers the partitions, loads them one
after another, and polls their updates until it sees the token; it takes what it reads from redis
to a partition call by call, and holds the service's `Arc` for the length of each call. The shutdown
branch wakes with the token: it reads which partitions are known and unregisters them one by one.
Neither waits for the other, and any await of the monitor task may last until after the shutdown
branch has finished.

Redis answers anything. What the calls do to the config stores is not part of it.
-/

namespace UptimeChecker.RunConfigProvider

/-- What the provider is given: the owned partitions in the order of their hash set. -/
structure Provider where
  partitions : List UInt16
  nodup : partitions.Nodup
  readonly : Bool

/-- The loop over the partitions the monitor task is in. -/
inductive Stage where
  | load
  | update
deriving DecidableEq, Repr

/-- Where the monitor task stands: before `update_partitions`, in it, waiting for a connection,
about to read the first of some partitions, handling the updates of one, adding the payloads of one,
between polls, or finished. -/
inductive Monitor (Payload : Type) where
  | starting
  | updating (removed added : List UInt16)
  | connecting
  | reading (stage : Stage) (partitions : List UInt16)
  | handling (partition : UInt16) (deletes upserts : List ConfigUpdate) (partitions : List UInt16)
  | adding (stage : Stage) (partition : UInt16) (payloads : List Payload)
      (partitions : List UInt16)
  | polling
  | finished

/-- Where the shutdown branch stands. It is skipped where the monitor task ends first. -/
inductive ShutdownBranch where
  | waiting
  | unregistering (known : List UInt16)
  | finished
  | skipped
deriving DecidableEq, Repr

/-- An `expect` that failed: of `get_service`, of `unregister_partition`, or of a redis command of
the initial load. -/
inductive Panic where
  | notRegistered
  | outstanding
  | redis
deriving DecidableEq, Repr

/-- The manager and the two tasks. `held` is the service whose `Arc` the monitor task holds. -/
structure State (Payload : Type) where
  manager : Manager
  monitor : Monitor Payload
  held : Option PartitionedService
  cancelled : Bool
  shutdown : ShutdownBranch
  panic : Option Panic

/-- The names of the steps, with what redis answers. -/
inductive Action (Payload : Type) where
  | updatePartitions | unregister | register | updated
  | connect | connectError
  | readConfigs (partition : UInt16) (payloads : List Payload) | readConfigsError | loaded
  | poll | exit
  | consumeConfigUpdates (partition : UInt16) (payloads : List Payload) | noUpserts
  | getConfigKeyPayloads (partition : UInt16) (payloads : List Payload) | redisError | polled
  | getService | call | skipPayload | partitionDone
  | cancel | shutdownRequested | shutdownUnregister (partition : UInt16) | shutdownDone
  | monitorEnded

/-- These are the partitions of a set, in any order. -/
def Lists (partitions : List UInt16) (set : UInt16 → Prop) : Prop :=
  partitions.Nodup ∧ ∀ partition, partition ∈ partitions ↔ set partition

variable {Payload : Type} (rmp : Rmp Payload)

/-- The partition of the call the monitor task makes next. -/
def Monitor.callee : Monitor Payload → Option UInt16
  | .handling partition (_ :: _) _ _ => some partition
  | .adding _ partition (payload :: _) _ =>
      if (rmp.deserializeRmp payload).isSome then some partition else none
  | _ => none

/-- Where the monitor task stands after that call. -/
def Monitor.called : Monitor Payload → Monitor Payload
  | .handling partition (_ :: deletes) upserts partitions =>
      .handling partition deletes upserts partitions
  | .adding stage partition (_ :: payloads) partitions =>
      .adding stage partition payloads partitions
  | monitor => monitor

variable (provider : Provider)

/-- One step of one task. -/
inductive Step (s : State Payload) : Action Payload → State Payload → Prop where
  /-- `update_partitions` reads the partitions known. -/
  | updatePartitions {removed added : List UInt16} (phase : s.monitor = .starting)
      (hremoved : Lists removed fun partition =>
        (s.manager.services partition).isSome ∧ partition ∉ provider.partitions)
      (hadded : Lists added fun partition =>
        partition ∈ provider.partitions ∧ s.manager.services partition = none) :
      Step s .updatePartitions { s with monitor := .updating removed added }
  | unregister {partition : UInt16} {removed added : List UInt16} {manager : Manager}
      (phase : s.monitor = .updating (partition :: removed) added)
      (h : s.manager.unregisterPartition s.held.toList partition = some manager) :
      Step s .unregister { s with monitor := .updating removed added, manager := manager }
  | unregisterPanic {partition : UInt16} {removed added : List UInt16}
      (phase : s.monitor = .updating (partition :: removed) added)
      (h : s.manager.unregisterPartition s.held.toList partition = none) :
      Step s .unregister { s with panic := some .outstanding }
  | register {partition : UInt16} {added : List UInt16}
      (phase : s.monitor = .updating [] (partition :: added)) :
      Step s .register
        { s with
          monitor := .updating [] added
          manager := s.manager.registerPartition partition }
  | updated (phase : s.monitor = .updating [] []) :
      Step s .updated { s with monitor := .connecting }
  /-- The initial load begins. -/
  | connect (phase : s.monitor = .connecting) :
      Step s .connect { s with monitor := .reading .load provider.partitions }
  | connectError (phase : s.monitor = .connecting) :
      Step s .connectError { s with panic := some .redis }
  /-- Redis answers with the configs of the next partition. -/
  | readConfigs {partition : UInt16} {partitions : List UInt16} (payloads : List Payload)
      (phase : s.monitor = .reading .load (partition :: partitions)) :
      Step s (.readConfigs partition payloads)
        { s with monitor := .adding .load partition payloads partitions }
  | readConfigsError {partition : UInt16} {partitions : List UInt16}
      (phase : s.monitor = .reading .load (partition :: partitions)) :
      Step s .readConfigsError { s with panic := some .redis }
  /-- All partitions are loaded. Without write access there is nothing to monitor. -/
  | loaded (phase : s.monitor = .reading .load []) :
      Step s .loaded { s with monitor := if provider.readonly then .finished else .polling }
  /-- The token is not set yet: a poll begins. -/
  | poll (phase : s.monitor = .polling) (go : s.cancelled = false) :
      Step s .poll { s with monitor := .reading .update provider.partitions }
  | exit (phase : s.monitor = .polling) (stop : s.cancelled = true) :
      Step s .exit { s with monitor := .finished }
  /-- Redis answers with the updates of the next partition. -/
  | consumeConfigUpdates {partition : UInt16} {partitions : List UInt16} (payloads : List Payload)
      (phase : s.monitor = .reading .update (partition :: partitions)) :
      Step s (.consumeConfigUpdates partition payloads)
        { s with
          monitor := .handling partition (RedisConfigProvider.splitUpdates rmp payloads).2
            (RedisConfigProvider.splitUpdates rmp payloads).1 partitions }
  | consumeConfigUpdatesError {partition : UInt16} {partitions : List UInt16}
      (phase : s.monitor = .reading .update (partition :: partitions)) :
      Step s .redisError { s with monitor := .polling }
  | noUpserts {partition : UInt16} {partitions : List UInt16}
      (phase : s.monitor = .handling partition [] [] partitions) :
      Step s .noUpserts { s with monitor := .reading .update partitions }
  /-- Redis answers with the configs that were upserted. -/
  | getConfigKeyPayloads {partition : UInt16} {upserts : List ConfigUpdate}
      {partitions : List UInt16} (payloads : List Payload)
      (phase : s.monitor = .handling partition [] upserts partitions) (upserted : upserts ≠ []) :
      Step s (.getConfigKeyPayloads partition payloads)
        { s with monitor := .adding .update partition payloads partitions }
  | getConfigKeyPayloadsError {partition : UInt16} {upserts : List ConfigUpdate}
      {partitions : List UInt16} (phase : s.monitor = .handling partition [] upserts partitions)
      (upserted : upserts ≠ []) : Step s .redisError { s with monitor := .polling }
  | polled (phase : s.monitor = .reading .update []) :
      Step s .polled { s with monitor := .polling }
  /-- A call begins with its service. -/
  | getService {partition : UInt16} {service : PartitionedService} (free : s.held = none)
      (callee : s.monitor.callee rmp = some partition)
      (h : s.manager.getService partition = some service) :
      Step s .getService { s with held := some service }
  | getServicePanic {partition : UInt16} (free : s.held = none)
      (callee : s.monitor.callee rmp = some partition)
      (h : s.manager.getService partition = none) :
      Step s .getService { s with panic := some .notRegistered }
  /-- The call is made, and the service let go. -/
  | call {service : PartitionedService} (holds : s.held = some service) :
      Step s .call { s with held := none, monitor := s.monitor.called }
  | skipPayload {stage : Stage} {partition : UInt16} {payload : Payload} {payloads : List Payload}
      {partitions : List UInt16}
      (phase : s.monitor = .adding stage partition (payload :: payloads) partitions)
      (undecodable : rmp.deserializeRmp payload = none) :
      Step s .skipPayload { s with monitor := .adding stage partition payloads partitions }
  | partitionDone {stage : Stage} {partition : UInt16} {partitions : List UInt16}
      (phase : s.monitor = .adding stage partition [] partitions) :
      Step s .partitionDone { s with monitor := .reading stage partitions }
  | cancel : Step s .cancel { s with cancelled := true }
  /-- The shutdown branch reads the partitions known. -/
  | shutdownRequested {known : List UInt16} (phase : s.shutdown = .waiting)
      (stop : s.cancelled = true)
      (hknown : Lists known fun partition => (s.manager.services partition).isSome) :
      Step s .shutdownRequested { s with shutdown := .unregistering known }
  | shutdownUnregister {partition : UInt16} {known : List UInt16} {manager : Manager}
      (phase : s.shutdown = .unregistering (partition :: known))
      (h : s.manager.unregisterPartition s.held.toList partition = some manager) :
      Step s (.shutdownUnregister partition)
        { s with shutdown := .unregistering known, manager := manager }
  | shutdownUnregisterPanic {partition : UInt16} {known : List UInt16}
      (phase : s.shutdown = .unregistering (partition :: known))
      (h : s.manager.unregisterPartition s.held.toList partition = none) :
      Step s (.shutdownUnregister partition) { s with panic := some .outstanding }
  | shutdownDone (phase : s.shutdown = .unregistering []) :
      Step s .shutdownDone { s with shutdown := .finished }
  /-- The monitor task ends before the token is seen. -/
  | monitorEnded (phase : s.shutdown = .waiting) (ended : s.monitor = .finished) :
      Step s .monitorEnded { s with shutdown := .skipped }

/-- The config provider's two tasks. Nothing moves after a panic. -/
def system : Transition (State Payload) (Action Payload) where
  init s := s = ⟨.new, .starting, none, false, .waiting, none⟩
  step s a s' := s.panic = none ∧ Step rmp provider s a s'

end UptimeChecker.RunConfigProvider
