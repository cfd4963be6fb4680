import UptimeChecker.Lib.Transition
import UptimeChecker.Types.CheckConfig

/-!
# The manager

The services of the partitions a checker owns. A partition is registered by starting its service,
and unregistered by taking the service out of the map and handing it to the shutdown stream. Each
operation holds the lock of the map, so it is one step.

A service is a partition and a serial number, which tells it from earlier services of the partition;
what runs inside it is not part of the manager. The lock is never poisoned and the shutdown stream
is open as long as the manager exists.
-/

namespace UptimeChecker

/-- The set of services that run for a partition. -/
structure PartitionedService where
  partition : UInt16
  serial : Nat
deriving DecidableEq, Repr

/-- The services registered, and those handed to the shutdown stream. `registered` only records
every service ever started. -/
structure Manager where
  services : UInt16 → Option PartitionedService
  shutdownSender : List PartitionedService
  registered : List PartitionedService

namespace Manager

def new : Manager := ⟨fun _ => none, [], []⟩

/-- `get_service`; the `expect` panics for a partition that is not registered. -/
def getService (manager : Manager) (partition : UInt16) : Option PartitionedService :=
  manager.services partition

def registerPartition (manager : Manager) (partition : UInt16) : Manager :=
  match manager.services partition with
  | some _ => manager
  | none =>
    let service : PartitionedService := ⟨partition, manager.registered.length⟩
    { manager with
      services := fun key => if key = partition then some service else manager.services key
      registered := manager.registered ++ [service] }

/-- `unregister_partition`, while some services are referenced from elsewhere; the `expect` panics
for a service that is. -/
def unregisterPartition (manager : Manager) (held : List PartitionedService)
    (partition : UInt16) : Option Manager :=
  match manager.services partition with
  | none => some manager
  | some service =>
    if service ∈ held then none
    else some
      { manager with
        services := fun key => if key = partition then none else manager.services key
        shutdownSender := manager.shutdownSender ++ [service] }

/-- The keys of the map, in any order. -/
def Keys (manager : Manager) (known : List UInt16) : Prop :=
  known.Nodup ∧ ∀ partition, partition ∈ known ↔ (manager.services partition).isSome

/-- `update_partitions`, for the keys it has read; both sets are lists in the order of their
iteration. -/
def updatePartitions (manager : Manager) (held : List PartitionedService)
    (known newPartitions : List UInt16) : Option Manager := do
  -- Drop partitions that we are no longer responsible for.
  let manager ← (known.filter (· ∉ newPartitions)).foldlM
    (fun manager partition => manager.unregisterPartition held partition) manager
  -- Add new partitions and start partition services.
  some ((newPartitions.filter (· ∉ known)).foldl registerPartition manager)

/-- A manager that is told its partitions time and again, while nothing else refers to a service. -/
def handover : Transition Manager (List UInt16) where
  init manager := manager = new
  step manager newPartitions manager' :=
    newPartitions.Nodup ∧ ∃ known, manager.Keys known ∧
      manager.updatePartitions [] known newPartitions = some manager'

end Manager

end UptimeChecker
