import Mathlib.Logic.Function.Basic
import UptimeChecker.Numeric
import UptimeChecker.RedisConfigProvider
import UptimeChecker.Types.CheckConfig.Json

/-!
# Redis

The one database that all checkers share with those who write their configs. A key is a text that
names a partition and what is kept of it: its watermark, as decimal text that expires, or one of
its two hashes, whose fields are subscription ids in simple form. Any number of clients send
commands, one at a time for the database; a command may fail, having been applied or not.

`Payload` is what the fields of a hash hold. The database is what redis documents of the commands
used here.
-/

namespace UptimeChecker

/-! ## Keys -/

/-- `build_progress_key`. -/
def buildProgressKey (partition : UInt16) : String :=
  "scheduler_process::" ++ partition.toNat.repr

structure RedisPartition where
  number : UInt16
  configKey : String
  updateKey : String
deriving DecidableEq, Repr

def RedisPartition.new (number : UInt16) : RedisPartition where
  number := number
  configKey := "uptime:configs:" ++ number.toNat.repr
  updateKey := "uptime:updates:" ++ number.toNat.repr

/-- `RedisKey for ConfigUpdate`. -/
def ConfigUpdate.redisKey (update : ConfigUpdate) : String := update.subscriptionId.simple

/-- `RedisKey for CheckConfig`. -/
def CheckConfig.redisKey (config : CheckConfig) : String := config.subscriptionId.simple

/-! ## Watermarks as text -/

/-- `i64::to_string`. -/
def i64ToString (n : Int64) : String := n.toInt.repr

/-! ## The database -/

/-- What a key holds. -/
inductive RedisValue (Payload : Type) where
  | text (s : String)
  | hash (fields : String → Option Payload)

structure RedisEntry (Payload : Type) where
  value : RedisValue Payload
  /-- The last millisecond of the entry. -/
  expiresAt : Option Nat

/-- The error of a command: it was sent for another kind of value, or the connection failed. -/
inductive RedisError where
  | wrongType
  | connection
deriving DecidableEq, Repr

/-- The keys, and the clock in milliseconds. -/
structure RedisDb (Payload : Type) where
  entries : String → Option (RedisEntry Payload)
  now : Nat

namespace RedisDb

variable {Payload : Type} (db : RedisDb Payload) (key : String)

def empty (now : Nat) : RedisDb Payload := ⟨fun _ => none, now⟩

/-- The value of a key that has not expired. -/
def lookup : Option (RedisEntry Payload) :=
  (db.entries key).filter fun entry => entry.expiresAt.all (db.now ≤ ·)

/-- `GET`. -/
def get : Except RedisError (Option String) :=
  match db.lookup key with
  | none => .ok none
  | some ⟨.text s, _⟩ => .ok (some s)
  | some ⟨.hash _, _⟩ => .error .wrongType

def set (entry : Option (RedisEntry Payload)) : RedisDb Payload :=
  { db with entries := Function.update db.entries key entry }

/-- `SETEX`. -/
def setEx (value : String) (secs : Nat) : RedisDb Payload :=
  db.set key (some ⟨.text value, some (db.now + secs * 1000)⟩)

/-- The fields of a hash; a key that is missing is a hash without fields. -/
def fields : Except RedisError (String → Option Payload) :=
  match db.lookup key with
  | none => .ok fun _ => none
  | some ⟨.text _, _⟩ => .error .wrongType
  | some ⟨.hash fields, _⟩ => .ok fields

/-- Set a field of a hash or take it away; a key keeps its expiry. A hash that loses its last field
is not told from one that is missing. -/
def setField (field : String) (payload : Option Payload) : Except RedisError (RedisDb Payload) :=
  match db.lookup key with
  | none => .ok (db.set key (some ⟨.hash (Function.update (fun _ => none) field payload), none⟩))
  | some ⟨.text _, _⟩ => .error .wrongType
  | some ⟨.hash fields, expiresAt⟩ =>
    .ok (db.set key (some ⟨.hash (Function.update fields field payload), expiresAt⟩))

/-- `DEL`. -/
def del : RedisDb Payload := db.set key none

/-- `HVALS`: the values of the fields, in any order. -/
def Hvals (fields : String → Option Payload) (payloads : List Payload) : Prop :=
  ∃ names : List String, names.Nodup ∧ (∀ name, name ∈ names ↔ (fields name).isSome) ∧
    names.map fields = payloads.map some

end RedisDb

/-! ## Clients -/

/-- `WATERMARK_EXPIRY` in seconds, one day. -/
def watermarkExpiry : Nat := 24 * 60 * 60

/-- A connection, which may be for reading only. -/
structure RedisOperations where
  readonly : Bool
deriving DecidableEq, Repr

/-- What is asked of redis: by the checkers, and by those who write their configs. -/
inductive RedisCall (Payload : Type) where
  | readWatermark (partition : UInt16)
  | writeWatermark (partition : UInt16) (progress : Int64)
  | readConfigs (partition : UInt16)
  | consumeConfigUpdates (partition : UInt16)
  | getConfigKeyPayloads (partition : UInt16) (upserts : List ConfigUpdate)
  | setConfig (partition : UInt16) (config : CheckConfig) (payload : Payload)
  | delConfig (partition : UInt16) (update : ConfigUpdate)
  | setUpdate (partition : UInt16) (update : ConfigUpdate)

/-- What is answered. `panicked` is an `expect` that failed. -/
inductive RedisReply (Payload : Type) where
  | watermark (progress : Option Int64)
  | payloads (payloads : List Payload)
  | updates (upserts deletes : List ConfigUpdate)
  | done
  | panicked

variable {Payload : Type} (rmp : Rmp Payload)

/-- A call on a connection, as it is applied to the database. What `HGET` answers for a field that
is missing is given. -/
inductive Applied (ops : RedisOperations) (db : RedisDb Payload) :
    RedisCall Payload → Except RedisError (RedisReply Payload) → RedisDb Payload → Prop where
  /-- `read_watermark`: a text that is no number counts for nothing. -/
  | readWatermark (partition : UInt16) :
      Applied ops db (.readWatermark partition)
        ((db.get (buildProgressKey partition)).map fun text =>
          .watermark (text.bind fun text => (parseI64 text).toOption)) db
  /-- `write_watermark`, which is allowed in read-only mode as well. -/
  | writeWatermark (partition : UInt16) (progress : Int64) :
      Applied ops db (.writeWatermark partition progress) (.ok .done)
        (db.setEx (buildProgressKey partition) (i64ToString progress) watermarkExpiry)
  /-- `read_configs`. -/
  | readConfigs {partition : UInt16} {fields : String → Option Payload} {payloads : List Payload}
      (hfields : db.fields (RedisPartition.new partition).configKey = .ok fields)
      (hvals : RedisDb.Hvals fields payloads) :
      Applied ops db (.readConfigs partition) (.ok (.payloads payloads)) db
  | readConfigsError {partition : UInt16} {error : RedisError}
      (hfields : db.fields (RedisPartition.new partition).configKey = .error error) :
      Applied ops db (.readConfigs partition) (.error error) db
  /-- `consume_config_updates`: the update hash is read and deleted atomically. -/
  | consumeConfigUpdates {partition : UInt16} {fields : String → Option Payload}
      {payloads : List Payload} (readwrite : ops.readonly = false)
      (hfields : db.fields (RedisPartition.new partition).updateKey = .ok fields)
      (hvals : RedisDb.Hvals fields payloads) :
      Applied ops db (.consumeConfigUpdates partition)
        (.ok (.updates (RedisConfigProvider.splitUpdates rmp payloads).1
          (RedisConfigProvider.splitUpdates rmp payloads).2))
        (db.del (RedisPartition.new partition).updateKey)
  /-- Within the transaction a failed `HVALS` does not keep `DEL` from being done. -/
  | consumeConfigUpdatesError {partition : UInt16} {error : RedisError}
      (readwrite : ops.readonly = false)
      (hfields : db.fields (RedisPartition.new partition).updateKey = .error error) :
      Applied ops db (.consumeConfigUpdates partition) (.error error)
        (db.del (RedisPartition.new partition).updateKey)
  /-- A read-only connection must not consume. -/
  | consumeConfigUpdatesReadonly (partition : UInt16) (readonly : ops.readonly = true) :
      Applied ops db (.consumeConfigUpdates partition) (.ok .panicked) db
  /-- `get_config_key_payloads`. -/
  | getConfigKeyPayloads {partition : UInt16} {fields : String → Option Payload}
      (missing : List Payload) (upserts : List ConfigUpdate)
      (hfields : db.fields (RedisPartition.new partition).configKey = .ok fields) :
      Applied ops db (.getConfigKeyPayloads partition upserts)
        (.ok (.payloads (upserts.flatMap fun update =>
          (fields update.redisKey).elim missing ([·])))) db
  | getConfigKeyPayloadsError {partition : UInt16} {error : RedisError}
      (upserts : List ConfigUpdate)
      (hfields : db.fields (RedisPartition.new partition).configKey = .error error) :
      Applied ops db (.getConfigKeyPayloads partition upserts) (.error error) db
  /-- A writer sets a field of one of the hashes, or takes it away. A config it may encode as it
  likes. -/
  | setConfig {partition : UInt16} {config : CheckConfig} {payload : Payload}
      {db' : RedisDb Payload}
      (h : db.setField (RedisPartition.new partition).configKey config.redisKey (some payload) =
        .ok db') :
      Applied ops db (.setConfig partition config payload) (.ok .done) db'
  | setConfigError {partition : UInt16} {config : CheckConfig} {payload : Payload}
      {error : RedisError}
      (h : db.setField (RedisPartition.new partition).configKey config.redisKey (some payload) =
        .error error) :
      Applied ops db (.setConfig partition config payload) (.error error) db
  | delConfig {partition : UInt16} {update : ConfigUpdate} {db' : RedisDb Payload}
      (h : db.setField (RedisPartition.new partition).configKey update.redisKey none = .ok db') :
      Applied ops db (.delConfig partition update) (.ok .done) db'
  | delConfigError {partition : UInt16} {update : ConfigUpdate} {error : RedisError}
      (h : db.setField (RedisPartition.new partition).configKey update.redisKey none =
        .error error) :
      Applied ops db (.delConfig partition update) (.error error) db
  | setUpdate {partition : UInt16} {update : ConfigUpdate} {db' : RedisDb Payload}
      (h : db.setField (RedisPartition.new partition).updateKey update.redisKey
        (some (rmp.updateToVec update)) = .ok db') :
      Applied ops db (.setUpdate partition update) (.ok .done) db'
  | setUpdateError {partition : UInt16} {update : ConfigUpdate} {error : RedisError}
      (h : db.setField (RedisPartition.new partition).updateKey update.redisKey
        (some (rmp.updateToVec update)) = .error error) :
      Applied ops db (.setUpdate partition update) (.error error) db

/-- What happens to the database: time passes, or a call is made on a connection and answered. -/
inductive RedisEvent (Payload : Type) where
  | elapse (millis : Nat)
  | call (ops : RedisOperations) (call : RedisCall Payload)
      (answer : Except RedisError (RedisReply Payload))

/-- One event. A connection that fails leaves open whether the call was applied. -/
inductive RedisStep (db : RedisDb Payload) : RedisEvent Payload → RedisDb Payload → Prop where
  | elapse (millis : Nat) : RedisStep db (.elapse millis) { db with now := db.now + millis }
  | answered {ops : RedisOperations} {call : RedisCall Payload}
      {answer : Except RedisError (RedisReply Payload)} {db' : RedisDb Payload}
      (h : Applied rmp ops db call answer db') : RedisStep db (.call ops call answer) db'
  | failed (ops : RedisOperations) (call : RedisCall Payload) :
      RedisStep db (.call ops call (.error .connection)) db
  | failedApplied {ops : RedisOperations} {call : RedisCall Payload}
      {answer : Except RedisError (RedisReply Payload)} {db' : RedisDb Payload}
      (h : Applied rmp ops db call answer db') :
      RedisStep db (.call ops call (.error .connection)) db'

/-- The database from its start, with any number of clients. -/
def redis : Transition (RedisDb Payload) (RedisEvent Payload) where
  init db := ∃ now, db = .empty now
  step := RedisStep rmp

end UptimeChecker
