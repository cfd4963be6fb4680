import UptimeChecker.Laws.CheckConfig.Json
import UptimeChecker.Laws.RedisConfigProvider
import UptimeChecker.Lib.Run
import UptimeChecker.Redis

/-!
# Redis keeps the partitions apart

What redis is for: for each partition a watermark, which is forgotten after a day, and two hashes
from subscription ids to payloads. `SharedStore` says no more than that. The database refines it
(`redis_refines_sharedStore`): whatever the clients do in whatever order, with commands that fail
on the way, each call is answered as the store answers it. So no two keys are ever the same text,
no key is used for another kind of value, and a watermark reads back as the number that was
written.
-/

namespace UptimeChecker

/-! ## Watermarks -/

/-- Reading on can only add to what has been read. -/
private theorem le_ofDigitChars : ∀ (digits : List Char) (acc : Nat),
    acc ≤ Nat.ofDigitChars 10 digits acc
  | [], acc => Nat.le_refl _
  | c :: digits, acc => by
    rw [Nat.ofDigitChars_cons]
    exact Nat.le_trans (by omega) (le_ofDigitChars digits _)

/-- A magnitude with its sign. -/
private def signed (negative : Bool) (n : Nat) : Int := if negative then -n else n

private def Fits (negative : Bool) (n : Nat) : Prop :=
  -2 ^ 63 ≤ signed negative n ∧ signed negative n < 2 ^ 63

private theorem Fits.mono {negative : Bool} {m n : Nat} (h : Fits negative n) (hle : m ≤ n) :
    Fits negative m := by
  cases negative <;> simp only [Fits, signed, Bool.false_eq_true, if_true, if_false] at h ⊢ <;>
    omega

/-- Digits are read as they are: if the number fits, so does all that is read on the way. -/
private theorem parseI64Digits_eq (negative : Bool) : ∀ (digits : List Char) (acc : Nat),
    (∀ c ∈ digits, c.isDigit = true) → Fits negative (Nat.ofDigitChars 10 digits acc) →
    parseI64Digits negative (signed negative acc) digits =
      .ok (signed negative (Nat.ofDigitChars 10 digits acc))
  | [], acc, _, _ => rfl
  | c :: digits, acc, hdigit, hfits => by
    have hc : decimalDigit? c = some (c.toNat - '0'.toNat) := if_pos (hdigit c List.mem_cons_self)
    rw [Nat.ofDigitChars_cons] at hfits ⊢
    have hnext := hfits.mono (le_ofDigitChars digits _)
    have hstep : (if negative then 10 * signed negative acc - ((c.toNat - '0'.toNat : Nat) : Int)
        else 10 * signed negative acc + ((c.toNat - '0'.toNat : Nat) : Int)) =
        signed negative (10 * acc + (c.toNat - '0'.toNat)) := by
      cases negative <;> simp only [signed, Bool.false_eq_true, if_true, if_false] <;> omega
    have hih := parseI64Digits_eq negative digits _
      (fun d hd => hdigit d (List.mem_cons_of_mem _ hd)) hfits
    rw [parseI64Digits, hc]
    dsimp only
    rw [hstep, if_neg (Int.not_lt.mpr hnext.1), if_neg (Int.not_le.mpr hnext.2)]
    exact hih

/-- A text of a sign and digits is read as its number. -/
private theorem parseI64_of_takeSign {text : String} {negative : Bool} {digits : List Char}
    (htext : takeSign text.toList = (negative, digits)) (hne : digits ≠ [])
    (hdigit : ∀ c ∈ digits, c.isDigit = true)
    (hfits : Fits negative (Nat.ofDigitChars 10 digits 0)) :
    parseI64 text = .ok (Int64.ofInt (signed negative (Nat.ofDigitChars 10 digits 0))) := by
  have hzero : signed negative 0 = 0 := by cases negative <;> rfl
  have hparse := parseI64Digits_eq negative digits 0 hdigit hfits
  rw [hzero] at hparse
  unfold parseI64
  split
  · rename_i heq
    rw [heq] at htext
    cases htext
    exact absurd rfl hne
  · rename_i heq
    rw [heq] at htext
    cases htext
    exact absurd rfl hne
  · rename_i heq
    rw [heq] at htext
    cases htext
    exact absurd rfl hne
  · simp only [htext, hparse]
    rfl

/-- The text of a number reads back as the number. -/
theorem parseI64_i64ToString (n : Int64) : parseI64 (i64ToString n) = .ok n := by
  have hdigit : ∀ c ∈ Nat.toDigits 10 n.toInt.natAbs, c.isDigit = true := fun c hc =>
    Nat.isDigit_of_mem_toDigits (by decide) (by decide) hc
  have hread : ∀ negative, takeSign (i64ToString n).toList =
      (negative, Nat.toDigits 10 n.toInt.natAbs) → signed negative n.toInt.natAbs = n.toInt →
      parseI64 (i64ToString n) = .ok n := by
    intro negative hsign hsigned
    have hvalue : signed negative (Nat.ofDigitChars 10 (Nat.toDigits 10 n.toInt.natAbs) 0) =
        n.toInt := by
      rw [Nat.ofDigitChars_toDigits (by decide) (by decide), hsigned]
    have hfits : Fits negative (Nat.ofDigitChars 10 (Nat.toDigits 10 n.toInt.natAbs) 0) := by
      rw [Fits, hvalue]
      exact ⟨n.le_toInt, n.toInt_lt⟩
    rw [parseI64_of_takeSign hsign Nat.toDigits_ne_nil hdigit hfits, hvalue, Int64.ofInt_toInt]
  by_cases hneg : n.toInt < 0
  · refine hread true ?_ (by simp only [signed, if_true]; omega)
    have habs : (-n.toInt).toNat = n.toInt.natAbs := by omega
    rw [i64ToString, Int.repr_eq_if, if_neg (Int.not_le.mpr hneg), String.toList_append,
      Nat.toList_repr, habs]
    rfl
  · refine hread false ?_ (by simp only [signed, Bool.false_eq_true, if_false]; omega)
    have habs : n.toInt.toNat = n.toInt.natAbs := by omega
    rw [i64ToString, Int.repr_eq_if, if_pos (Int.not_lt.mp hneg), Nat.toList_repr, habs]
    match hdigits : Nat.toDigits 10 n.toInt.natAbs with
    | [] => exact absurd hdigits Nat.toDigits_ne_nil
    | c :: rest =>
      have hc := hdigit c (hdigits ▸ List.mem_cons_self)
      unfold takeSign
      split
      · rename_i heq
        cases heq
        exact absurd hc (by decide)
      · rename_i heq
        cases heq
        exact absurd hc (by decide)
      · rfl

/-! ## Keys -/

/-- What is kept of a partition. -/
inductive StoreKey where
  | progress (partition : UInt16)
  | configs (partition : UInt16)
  | updates (partition : UInt16)
deriving DecidableEq

/-- The text of a key. -/
def StoreKey.text : StoreKey → String
  | progress partition => buildProgressKey partition
  | configs partition => (RedisPartition.new partition).configKey
  | updates partition => (RedisPartition.new partition).updateKey

/-- The kinds of keys differ at their eighth character. -/
private theorem StoreKey.mark (k : StoreKey) :
    k.text.toList[7]? = some (match k with
      | progress _ => 'e'
      | configs _ => 'c'
      | updates _ => 'u') := by
  have hleft : ∀ (a b : String) (h : 7 < a.toList.length), (a ++ b).toList[7]? = a.toList[7]? := by
    intro a b h
    rw [String.toList_append, List.getElem?_append_left h]
  cases k with
  | progress p => exact (hleft "scheduler_process::" _ (by decide)).trans rfl
  | configs p => exact (hleft "uptime:configs:" _ (by decide)).trans rfl
  | updates p => exact (hleft "uptime:updates:" _ (by decide)).trans rfl

private theorem append_repr_inj {front : String} {p q : UInt16}
    (h : front ++ p.toNat.repr = front ++ q.toNat.repr) : p = q := by
  have hlist := congrArg String.toList h
  rw [String.toList_append, String.toList_append] at hlist
  have hdigits := List.append_cancel_left hlist
  rw [Nat.toList_repr, Nat.toList_repr] at hdigits
  have hnumber := congrArg (Nat.ofDigitChars 10 · 0) hdigits
  simp only [Nat.ofDigitChars_toDigits (show 1 < 10 by decide) (Nat.le_refl 10)] at hnumber
  exact UInt16.toNat_inj.mp hnumber

/-- No two keys are the same text. -/
theorem StoreKey.text_inj {k k' : StoreKey} (h : k.text = k'.text) : k = k' := by
  have hmark : k.text.toList[7]? = k'.text.toList[7]? := by rw [h]
  rw [StoreKey.mark, StoreKey.mark] at hmark
  cases k <;> cases k'
  case progress.progress p q => exact congrArg _ (append_repr_inj h)
  case configs.configs p q => exact congrArg _ (append_repr_inj h)
  case updates.updates p q => exact congrArg _ (append_repr_inj h)
  all_goals simp at hmark

/-! ## What redis is for -/

/-- What is kept of a partition: its watermark with its last millisecond, and its two hashes. -/
structure PartitionStore (Payload : Type) where
  watermark : Option (Int64 × Nat)
  configs : RedisHash Payload
  updates : RedisHash Payload

structure SharedStore (Payload : Type) where
  partitions : UInt16 → PartitionStore Payload
  now : Nat

variable {Payload : Type}

namespace SharedStore

def empty (now : Nat) : SharedStore Payload := ⟨fun _ => ⟨none, fun _ => none, fun _ => none⟩, now⟩

/-- The watermark of a partition, if it has not been forgotten. -/
def current (store : SharedStore Payload) (partition : UInt16) : Option Int64 :=
  ((store.partitions partition).watermark.filter (store.now ≤ ·.2)).map Prod.fst

def set (store : SharedStore Payload) (partition : UInt16) (kept : PartitionStore Payload) :
    SharedStore Payload :=
  { store with partitions := Function.update store.partitions partition kept }

end SharedStore

variable (rmp : Rmp Payload)

/-- A call as the store serves it. -/
inductive Served (ops : RedisOperations) (store : SharedStore Payload) :
    RedisCall Payload → RedisReply Payload → SharedStore Payload → Prop where
  | readWatermark (partition : UInt16) :
      Served ops store (.readWatermark partition) (.watermark (store.current partition)) store
  | writeWatermark (partition : UInt16) (progress : Int64) :
      Served ops store (.writeWatermark partition progress) .done
        (store.set partition { store.partitions partition with
          watermark := some (progress, store.now + watermarkExpiry * 1000) })
  | readConfigs {partition : UInt16} {payloads : List Payload}
      (hvals : (store.partitions partition).configs.Hvals payloads) :
      Served ops store (.readConfigs partition) (.payloads payloads) store
  | consumeConfigUpdates {partition : UInt16} {payloads : List Payload}
      (readwrite : ops.readonly = false)
      (hvals : (store.partitions partition).updates.Hvals payloads) :
      Served ops store (.consumeConfigUpdates partition)
        (.updates (RedisConfigProvider.splitUpdates rmp payloads).1
          (RedisConfigProvider.splitUpdates rmp payloads).2)
        (store.set partition { store.partitions partition with updates := fun _ => none })
  | consumeConfigUpdatesReadonly (partition : UInt16) (readonly : ops.readonly = true) :
      Served ops store (.consumeConfigUpdates partition) .panicked store
  | getConfigKeyPayloads (partition : UInt16) (missing : List Payload)
      (upserts : List ConfigUpdate) :
      Served ops store (.getConfigKeyPayloads partition upserts)
        (.payloads ((store.partitions partition).configs.hget missing
          (upserts.map (·.subscriptionId)))) store
  | setConfig (partition : UInt16) (config : CheckConfig) (payload : Payload) :
      Served ops store (.setConfig partition config payload) .done
        (store.set partition { store.partitions partition with
          configs := (store.partitions partition).configs.hset config.subscriptionId payload })
  | delConfig (partition : UInt16) (update : ConfigUpdate) :
      Served ops store (.delConfig partition update) .done
        (store.set partition { store.partitions partition with
          configs := (store.partitions partition).configs.hdel update.subscriptionId })
  | setUpdate (partition : UInt16) (update : ConfigUpdate) :
      Served ops store (.setUpdate partition update) .done
        (store.set partition { store.partitions partition with
          updates := (store.partitions partition).updates.hset update.subscriptionId
            (rmp.updateToVec update) })

/-- One event. The only error is that of the connection. -/
inductive StoreStep (store : SharedStore Payload) :
    RedisEvent Payload → SharedStore Payload → Prop where
  | elapse (millis : Nat) :
      StoreStep store (.elapse millis) { store with now := store.now + millis }
  | answered {ops : RedisOperations} {call : RedisCall Payload} {reply : RedisReply Payload}
      {store' : SharedStore Payload} (h : Served rmp ops store call reply store') :
      StoreStep store (.call ops call (.ok reply)) store'
  | failed (ops : RedisOperations) (call : RedisCall Payload) :
      StoreStep store (.call ops call (.error .connection)) store
  | failedApplied {ops : RedisOperations} {call : RedisCall Payload} {reply : RedisReply Payload}
      {store' : SharedStore Payload} (h : Served rmp ops store call reply store') :
      StoreStep store (.call ops call (.error .connection)) store'

/-- The store from its start, with any number of clients. -/
def sharedStore : Transition (SharedStore Payload) (RedisEvent Payload) where
  init store := ∃ now, store = .empty now
  step := StoreStep rmp

/-! ## How redis holds it -/

variable {rmp} {db db' : RedisDb Payload} {store store' : SharedStore Payload}

/-- The fields of a hash are those of a hash of subscription ids, in simple form. -/
def Keyed (fields : String → Option Payload) (hash : RedisHash Payload) : Prop :=
  (∀ id, fields id.simple = hash id) ∧ ∀ field, (fields field).isSome → ∃ id, field = Uuid.simple id

/-- An entry that holds a hash, and never expires. -/
def HoldsHash (entry : Option (RedisEntry Payload)) (hash : RedisHash Payload) : Prop :=
  (entry = none ∧ hash = fun _ => none) ∨ ∃ fields, entry = some ⟨.hash fields, none⟩ ∧
    Keyed fields hash

/-- The entry of a key, in a store. -/
def SharedStore.Holds (store : SharedStore Payload) (entry : Option (RedisEntry Payload)) :
    StoreKey → Prop
  | .progress p => entry = (store.partitions p).watermark.map fun (progress, expiresAt) =>
      ⟨.text (i64ToString progress), some expiresAt⟩
  | .configs p => HoldsHash entry (store.partitions p).configs
  | .updates p => HoldsHash entry (store.partitions p).updates

/-- The database holds the store. -/
structure Represents (db : RedisDb Payload) (store : SharedStore Payload) : Prop where
  now : db.now = store.now
  holds : ∀ k : StoreKey, store.Holds (db.entries k.text) k

theorem represents_empty (now : Nat) :
    Represents (.empty now : RedisDb Payload) (.empty now) := by
  refine ⟨rfl, fun k => ?_⟩
  cases k with
  | progress p => rfl
  | configs p => exact .inl ⟨rfl, rfl⟩
  | updates p => exact .inl ⟨rfl, rfl⟩

@[simp] theorem RedisDb.entries_set_self (db : RedisDb Payload) (key : String)
    (entry : Option (RedisEntry Payload)) : (db.set key entry).entries key = entry :=
  Function.update_self ..

theorem RedisDb.entries_set_of_ne (db : RedisDb Payload) {key other : String} (h : other ≠ key)
    (entry : Option (RedisEntry Payload)) :
    (db.set key entry).entries other = db.entries other :=
  Function.update_of_ne h ..

/-- One key is written, and what the store keeps there. -/
private theorem Represents.set (h : Represents db store) {k : StoreKey}
    {entry : Option (RedisEntry Payload)} {partition : UInt16} {kept : PartitionStore Payload}
    (hk : (store.set partition kept).Holds entry k)
    (hwatermark : k = .progress partition ∨
      kept.watermark = (store.partitions partition).watermark)
    (hconfigs : k = .configs partition ∨ kept.configs = (store.partitions partition).configs)
    (hupdates : k = .updates partition ∨ kept.updates = (store.partitions partition).updates) :
    Represents (db.set k.text entry) (store.set partition kept) := by
  refine ⟨h.now, fun k' => ?_⟩
  by_cases hkey : k' = k
  · rw [hkey, RedisDb.entries_set_self]
    exact hk
  · rw [RedisDb.entries_set_of_ne _ fun heq => hkey (StoreKey.text_inj heq)]
    have hold := h.holds k'
    have hne : k ≠ k' := fun heq => hkey heq.symm
    cases k' with
    | progress q =>
      by_cases hq : q = partition
      · subst hq
        simpa [SharedStore.Holds, SharedStore.set, hwatermark.resolve_left hne] using hold
      · simpa [SharedStore.Holds, SharedStore.set, hq] using hold
    | configs q =>
      by_cases hq : q = partition
      · subst hq
        simpa [SharedStore.Holds, SharedStore.set, hconfigs.resolve_left hne] using hold
      · simpa [SharedStore.Holds, SharedStore.set, hq] using hold
    | updates q =>
      by_cases hq : q = partition
      · subst hq
        simpa [SharedStore.Holds, SharedStore.set, hupdates.resolve_left hne] using hold
      · simpa [SharedStore.Holds, SharedStore.set, hq] using hold

/-- A hash that is held can be read. -/
theorem fields_of_holds {key : String} {hash : RedisHash Payload}
    (h : HoldsHash (db.entries key) hash) : ∃ fields, db.fields key = .ok fields ∧
      Keyed fields hash := by
  unfold RedisDb.fields RedisDb.lookup
  rcases h with ⟨hnone, rfl⟩ | ⟨fields, hsome, hkeyed⟩
  · rw [hnone]
    exact ⟨_, rfl, fun _ => rfl, fun _ hfield => by cases hfield⟩
  · rw [hsome]
    exact ⟨fields, rfl, hkeyed⟩

theorem Uuid.simple_inj {u v : Uuid} (h : u.simple = v.simple) : u = v := by
  have hparse := congrArg Uuid.parseSimple h
  rw [Uuid.parseSimple_simple, Uuid.parseSimple_simple] at hparse
  exact Option.some.inj hparse

private theorem Keyed.update {fields : String → Option Payload} {hash : RedisHash Payload}
    (h : Keyed fields hash) (id : Uuid) (payload : Option Payload) :
    Keyed (Function.update fields id.simple payload) (Function.update hash id payload) := by
  refine ⟨fun other => ?_, fun field hfield => ?_⟩
  · by_cases hother : other = id
    · rw [hother, Function.update_self, Function.update_self]
    · rw [Function.update_of_ne hother,
        Function.update_of_ne fun heq => hother (Uuid.simple_inj heq)]
      exact h.1 other
  · by_cases heq : field = id.simple
    · exact ⟨id, heq⟩
    · rw [Function.update_of_ne heq] at hfield
      exact h.2 field hfield

/-- A field of a hash that is held can be set. -/
theorem setField_of_holds {key : String} {hash : RedisHash Payload}
    (h : HoldsHash (db.entries key) hash) (id : Uuid) (payload : Option Payload) :
    ∃ entry, db.setField key id.simple payload = .ok (db.set key entry) ∧
      HoldsHash entry (Function.update hash id payload) := by
  unfold RedisDb.setField RedisDb.lookup
  rcases h with ⟨hnone, rfl⟩ | ⟨fields, hsome, hkeyed⟩
  · rw [hnone]
    have hkeyed : Keyed (fun _ => none) (fun _ => none : RedisHash Payload) :=
      ⟨fun _ => rfl, fun _ hfield => by cases hfield⟩
    exact ⟨_, rfl, .inr ⟨_, rfl, hkeyed.update id payload⟩⟩
  · rw [hsome]
    exact ⟨_, rfl, .inr ⟨_, rfl, hkeyed.update id payload⟩⟩

/-- The values of a hash are those of its fields. -/
theorem Keyed.hvals {fields : String → Option Payload} {hash : RedisHash Payload}
    (h : Keyed fields hash) {payloads : List Payload} (hvals : RedisDb.Hvals fields payloads) :
    hash.Hvals payloads := by
  obtain ⟨names, hnodup, hnames, hmap⟩ := hvals
  have hname : ∀ name ∈ names, ∃ id, name = Uuid.simple id ∧ Uuid.parseSimple name = some id := by
    intro name hmem
    obtain ⟨id, rfl⟩ := h.2 name ((hnames name).mp hmem)
    exact ⟨id, rfl, Uuid.parseSimple_simple id⟩
  let idOf (name : String) : Uuid := (Uuid.parseSimple name).getD 0
  have hidOf : ∀ name ∈ names, (idOf name).simple = name := by
    intro name hmem
    obtain ⟨id, hsimple, hparse⟩ := hname name hmem
    simp only [idOf, hparse, Option.getD_some]
    exact hsimple.symm
  refine ⟨names.map idOf, hnodup.map_on ?_, fun id => ?_, ?_⟩
  · intro a ha b hb heq
    rw [← hidOf a ha, ← hidOf b hb, heq]
  · rw [List.mem_map, ← h.1 id, ← hnames]
    constructor
    · rintro ⟨name, hmem, rfl⟩
      rwa [hidOf name hmem]
    · intro hmem
      exact ⟨_, hmem, Uuid.simple_inj (hidOf _ hmem)⟩
  · rw [← hmap, List.map_map]
    apply List.map_congr_left
    intro name hmem
    rw [Function.comp_apply, ← h.1, hidOf name hmem]

/-- A watermark is read as the number that was written, until it is forgotten. -/
theorem get_of_holds (h : Represents db store) (partition : UInt16) :
    ∃ text, db.get (buildProgressKey partition) = .ok text ∧
      (text.bind fun text => (parseI64 text).toOption) = store.current partition := by
  have hentry : db.entries (buildProgressKey partition) = _ := h.holds (.progress partition)
  unfold RedisDb.get RedisDb.lookup SharedStore.current
  rw [hentry, h.now]
  cases (store.partitions partition).watermark with
  | none => exact ⟨none, rfl, rfl⟩
  | some watermark =>
    obtain ⟨progress, expiresAt⟩ := watermark
    by_cases hle : store.now ≤ expiresAt
    · refine ⟨some (i64ToString progress), by simp [Option.filter, hle], ?_⟩
      rw [Option.bind_some, parseI64_i64ToString]
      simp [Option.filter, hle, Except.toOption]
    · exact ⟨none, by simp [Option.filter, hle], by simp [Option.filter, hle]⟩

/-! ## Refinement -/

/-- The two ways of setting a field, or of taking it away. -/
private theorem hset_eq (hash : RedisHash Payload) (id : Uuid) (payload : Payload) :
    hash.hset id payload = Function.update hash id (some payload) := by
  funext key
  rw [RedisHash.hset, Function.update_apply]

private theorem hdel_eq (hash : RedisHash Payload) (id : Uuid) :
    hash.hdel id = Function.update hash id none := by
  funext key
  rw [RedisHash.hdel, Function.update_apply]

/-- A hash of a partition is written. -/
private theorem Represents.setConfigs (h : Represents db store) {partition : UInt16}
    {entry : Option (RedisEntry Payload)} {hash : RedisHash Payload}
    (hentry : HoldsHash entry hash) :
    Represents (db.set (RedisPartition.new partition).configKey entry)
      (store.set partition { store.partitions partition with configs := hash }) := by
  refine Represents.set (k := .configs partition) h ?_ (.inr rfl) (.inl rfl) (.inr rfl)
  simpa [SharedStore.Holds, SharedStore.set] using hentry

private theorem Represents.setUpdates (h : Represents db store) {partition : UInt16}
    {entry : Option (RedisEntry Payload)} {hash : RedisHash Payload}
    (hentry : HoldsHash entry hash) :
    Represents (db.set (RedisPartition.new partition).updateKey entry)
      (store.set partition { store.partitions partition with updates := hash }) := by
  refine Represents.set (k := .updates partition) h ?_ (.inr rfl) (.inr rfl) (.inl rfl)
  simpa [SharedStore.Holds, SharedStore.set] using hentry

/-- A call is served as it is applied, and without an error. -/
theorem Represents.applied (h : Represents db store) {ops : RedisOperations}
    {call : RedisCall Payload} {answer : Except RedisError (RedisReply Payload)}
    (ha : Applied rmp ops db call answer db') : ∃ reply store', answer = .ok reply ∧
      Served rmp ops store call reply store' ∧ Represents db' store' := by
  have hconfigs : ∀ p, HoldsHash (db.entries (RedisPartition.new p).configKey)
      (store.partitions p).configs := fun p => h.holds (.configs p)
  have hupdates : ∀ p, HoldsHash (db.entries (RedisPartition.new p).updateKey)
      (store.partitions p).updates := fun p => h.holds (.updates p)
  cases ha with
  | readWatermark p =>
    obtain ⟨text, htext, hread⟩ := get_of_holds h p
    refine ⟨_, store, ?_, .readWatermark p, h⟩
    rw [htext, ← hread]
    rfl
  | writeWatermark p progress =>
    refine ⟨_, _, rfl, .writeWatermark p progress, ?_⟩
    refine Represents.set (k := .progress p) h ?_ (.inl rfl) (.inr rfl) (.inr rfl)
    simp [SharedStore.Holds, SharedStore.set, h.now]
  | @readConfigs p fields payloads hfields hvals =>
    obtain ⟨fields', hfields', hkeyed⟩ := fields_of_holds (hconfigs p)
    cases hfields.symm.trans hfields'
    exact ⟨_, _, rfl, .readConfigs (hkeyed.hvals hvals), h⟩
  | @readConfigsError p error hfields =>
    obtain ⟨fields', hfields', -⟩ := fields_of_holds (hconfigs p)
    cases hfields.symm.trans hfields'
  | @consumeConfigUpdates p fields payloads readwrite hfields hvals =>
    obtain ⟨fields', hfields', hkeyed⟩ := fields_of_holds (hupdates p)
    cases hfields.symm.trans hfields'
    exact ⟨_, _, rfl, .consumeConfigUpdates readwrite (hkeyed.hvals hvals),
      h.setUpdates (.inl ⟨rfl, rfl⟩)⟩
  | @consumeConfigUpdatesError p error readwrite hfields =>
    obtain ⟨fields', hfields', -⟩ := fields_of_holds (hupdates p)
    cases hfields.symm.trans hfields'
  | consumeConfigUpdatesReadonly p readonly =>
    exact ⟨_, _, rfl, .consumeConfigUpdatesReadonly p readonly, h⟩
  | @getConfigKeyPayloads p fields missing upserts hfields =>
    obtain ⟨fields', hfields', hkeyed⟩ := fields_of_holds (hconfigs p)
    cases hfields.symm.trans hfields'
    refine ⟨_, _, ?_, .getConfigKeyPayloads p missing upserts, h⟩
    rw [RedisHash.hget, List.flatMap_map]
    simp only [← hkeyed.1]
    rfl
  | @getConfigKeyPayloadsError p error upserts hfields =>
    obtain ⟨fields', hfields', -⟩ := fields_of_holds (hconfigs p)
    cases hfields.symm.trans hfields'
  | @setConfig p config payload db' hset =>
    obtain ⟨entry, hset', hentry⟩ := setField_of_holds (hconfigs p) config.subscriptionId
      (some payload)
    cases hset.symm.trans hset'
    exact ⟨_, _, rfl, .setConfig p config payload, h.setConfigs (hset_eq _ _ _ ▸ hentry)⟩
  | @setConfigError p config payload error hset =>
    obtain ⟨entry, hset', -⟩ := setField_of_holds (hconfigs p) config.subscriptionId
      (some payload)
    cases hset.symm.trans hset'
  | @delConfig p update db' hset =>
    obtain ⟨entry, hset', hentry⟩ := setField_of_holds (hconfigs p) update.subscriptionId none
    cases hset.symm.trans hset'
    exact ⟨_, _, rfl, .delConfig p update, h.setConfigs (hdel_eq _ _ ▸ hentry)⟩
  | @delConfigError p update error hset =>
    obtain ⟨entry, hset', -⟩ := setField_of_holds (hconfigs p) update.subscriptionId none
    cases hset.symm.trans hset'
  | @setUpdate p update db' hset =>
    obtain ⟨entry, hset', hentry⟩ := setField_of_holds (hupdates p) update.subscriptionId
      (some (rmp.updateToVec update))
    cases hset.symm.trans hset'
    exact ⟨_, _, rfl, .setUpdate p update, h.setUpdates (hset_eq _ _ _ ▸ hentry)⟩
  | @setUpdateError p update error hset =>
    obtain ⟨entry, hset', -⟩ := setField_of_holds (hupdates p) update.subscriptionId
      (some (rmp.updateToVec update))
    cases hset.symm.trans hset'

/-- Every event of the database is one of the store. -/
theorem Represents.step (h : Represents db store) {event : RedisEvent Payload}
    (hstep : RedisStep rmp db event db') :
    ∃ store', StoreStep rmp store event store' ∧ Represents db' store' := by
  cases hstep with
  | elapse millis =>
    refine ⟨_, .elapse millis, by rw [h.now], fun k => ?_⟩
    have hold := h.holds k
    cases k <;> exact hold
  | answered ha =>
    obtain ⟨reply, store', rfl, hserved, h'⟩ := h.applied ha
    exact ⟨store', .answered hserved, h'⟩
  | failed ops call => exact ⟨store, .failed ops call, h⟩
  | failedApplied ha =>
    obtain ⟨reply, store', rfl, hserved, h'⟩ := h.applied ha
    exact ⟨store', .failedApplied hserved, h'⟩

/-- Redis refines the store of the partitions: what the clients are answered in any run of the
database they are answered in a run of the store. -/
theorem redis_refines_sharedStore {events : List (RedisEvent Payload)} (hinit : (redis rmp).init db)
    (hrun : (redis rmp).Run db events db') :
    ∃ store store', (sharedStore rmp).init store ∧ (sharedStore rmp).Run store events store' ∧
      Represents db' store' := by
  obtain ⟨now, rfl⟩ := hinit
  obtain ⟨store', hrun', h'⟩ : ∃ store', (sharedStore rmp).Run (.empty now) events store' ∧
      Represents db' store' :=
    hrun.simulates (R := Represents) (fun h (hstep : RedisStep rmp _ _ _) => h.step hstep)
      (represents_empty now)
  exact ⟨_, store', ⟨now, rfl⟩, hrun', h'⟩

/-- A database with one watermark, two seconds old. -/
private def watermarked : RedisDb (CheckConfig ⊕ ConfigUpdate) :=
  { (RedisDb.empty 0).setEx (buildProgressKey 3) (i64ToString (-5)) watermarkExpiry with
    now := 2000 }

/-- A watermark is written, and read back two seconds later by another client. -/
theorem redis_refines_sharedStore_watermark :
    ∃ store store' events, (sharedStore RedisConfigProvider.sumRmp).init store ∧
      (sharedStore RedisConfigProvider.sumRmp).Run store
        (events ++ [.call ⟨true⟩ (.readWatermark 3) (.ok (.watermark (some (-5))))]) store' ∧
      Represents watermarked store' := by
  have hinit : (redis RedisConfigProvider.sumRmp).init (.empty 0) := ⟨0, rfl⟩
  have hwrite : RedisStep RedisConfigProvider.sumRmp (.empty 0) _ _ :=
    .answered (.writeWatermark 3 (-5) : Applied _ ⟨false⟩ _ _ _ _)
  have hrun₁ := (Transition.Run.here (.init hinit)).snoc hwrite
  have hrun₂ : (redis RedisConfigProvider.sumRmp).Run (.empty 0) _ watermarked :=
    hrun₁.snoc (RedisStep.elapse 2000)
  have hread : Applied RedisConfigProvider.sumRmp ⟨true⟩ watermarked _ _ _ := .readWatermark 3
  have hvalue : watermarked.get (buildProgressKey 3) = .ok (some (i64ToString (-5))) := by
    simp [watermarked, RedisDb.get, RedisDb.lookup, RedisDb.setEx, RedisDb.set, RedisDb.empty,
      Option.filter, watermarkExpiry]
  simp only [hvalue, Except.map, Option.bind_some, parseI64_i64ToString, Except.toOption] at hread
  obtain ⟨store, store', hstart, hrun, h⟩ :=
    redis_refines_sharedStore hinit (hrun₂.snoc (RedisStep.answered hread))
  exact ⟨store, store', _, hstart, hrun, h⟩

/-! ## Notices -/

/-- How often an event leaves a notice for a subscription, or tries to: a write whose connection
fails may have been applied. -/
def notices (partition : UInt16) (id : Uuid) : RedisEvent Payload → Nat
  | .call _ (.setUpdate p update) _ => if p = partition ∧ update.subscriptionId = id then 1 else 0
  | _ => 0

/-- How often an event hands a notice for a subscription to a consumer. -/
def deliveries (partition : UInt16) (id : Uuid) : RedisEvent Payload → Nat
  | .call _ (.consumeConfigUpdates p) (.ok (.updates upserts deletes)) =>
    if p = partition then ((upserts ++ deletes).map (·.subscriptionId)).count id else 0
  | _ => 0

/-- Every notice in an update hash is of the subscription it is kept under. -/
def Noticed (rmp : Rmp Payload) (store : SharedStore Payload) : Prop :=
  ∀ p id payload, (store.partitions p).updates id = some payload →
    ∃ action, payload = rmp.updateToVec ⟨action, id⟩

/-- The notices that wait for a subscription, at most one. -/
def waiting (store : SharedStore Payload) (partition : UInt16) (id : Uuid) : Nat :=
  ((store.partitions partition).updates id).isSome.toNat

/-- The subscriptions of the notices that are read from a hash. -/
private theorem consumed_ids {hash : RedisHash Payload}
    (hhash : ∀ id payload, hash id = some payload →
      ∃ action, payload = rmp.updateToVec ⟨action, id⟩) :
    ∀ (ids : List Uuid) (payloads : List Payload), ids.map hash = payloads.map some →
      (payloads.filterMap rmp.updateFromSlice).map (·.subscriptionId) = ids
  | [], [], _ => rfl
  | [], _ :: _, h => by cases h
  | _ :: _, [], h => by cases h
  | id :: ids, payload :: payloads, h => by
    obtain ⟨hid, hrest⟩ := List.cons.inj h
    obtain ⟨action, rfl⟩ := hhash id payload hid
    rw [List.filterMap_cons_some (rmp.updateFromSlice_updateToVec _), List.map_cons,
      consumed_ids hhash ids payloads hrest]

/-- A consumer is handed each notice once. -/
private theorem count_consumed {hash : RedisHash Payload}
    (hhash : ∀ id payload, hash id = some payload →
      ∃ action, payload = rmp.updateToVec ⟨action, id⟩)
    {payloads : List Payload} (hvals : hash.Hvals payloads) (id : Uuid) :
    (((RedisConfigProvider.splitUpdates rmp payloads).1 ++
      (RedisConfigProvider.splitUpdates rmp payloads).2).map (·.subscriptionId)).count id =
        (hash id).isSome.toNat := by
  obtain ⟨ids, hnodup, hmem, hmap⟩ := hvals
  rw [RedisConfigProvider.splitUpdates_eq]
  have hdelete : ∀ update : ConfigUpdate,
      decide (update.action = .delete) = !decide (update.action = .upsert) := by
    rintro ⟨_ | _, _⟩ <;> rfl
  simp only [hdelete]
  rw [((List.filter_append_perm _ _).map _).count_eq, consumed_ids hhash ids payloads hmap,
    hnodup.count]
  by_cases hid : id ∈ ids
  · rw [if_pos hid, (hmem id).mp hid]
    rfl
  · rw [if_neg hid, Bool.eq_false_iff.mpr (fun h => hid ((hmem id).mpr h))]
    rfl

/-- A call that does not touch the notices. -/
private theorem updates_set (store : SharedStore Payload) {partition : UInt16}
    {kept : PartitionStore Payload} (h : kept.updates = (store.partitions partition).updates)
    (p : UInt16) : ((store.set partition kept).partitions p).updates =
      (store.partitions p).updates := by
  by_cases hp : p = partition
  · simp [SharedStore.set, hp, h]
  · simp [SharedStore.set, hp]

/-- What a call hands out and leaves waiting was waiting or is left by it. -/
private theorem deliveries_served (hn : Noticed rmp store) {ops : RedisOperations}
    {call : RedisCall Payload} {reply : RedisReply Payload}
    (hs : Served rmp ops store call reply store') (partition : UInt16) (id : Uuid) :
    Noticed rmp store' ∧
      deliveries partition id (.call ops call (.ok reply)) + waiting store' partition id ≤
        notices partition id (.call ops call (.ok reply)) + waiting store partition id := by
  have huntouched : ∀ {p kept}, kept.updates = (store.partitions p).updates →
      Noticed rmp (store.set p kept) ∧
        0 + waiting (store.set p kept) partition id ≤ 0 + waiting store partition id := by
    intro p kept h
    refine ⟨fun q id payload hq => ?_, ?_⟩
    · rw [updates_set store h] at hq
      exact hn q id payload hq
    · rw [waiting, updates_set store h]
      exact Nat.le_refl _
  cases hs with
  | writeWatermark | setConfig | delConfig => exact huntouched rfl
  | @consumeConfigUpdates p payloads readwrite hvals =>
    refine ⟨fun q id payload hq => ?_, ?_⟩
    · by_cases hp : q = p
      · simp [SharedStore.set, hp] at hq
      · simp only [SharedStore.set, Function.update_of_ne hp] at hq
        exact hn q id payload hq
    · by_cases hp : p = partition
      · subst hp
        simp only [deliveries, if_true, count_consumed (hn p) hvals, waiting, notices,
          SharedStore.set, Function.update_self, Option.isSome_none, Bool.toNat_false]
        omega
      · have hne : partition ≠ p := fun heq => hp heq.symm
        simp [deliveries, if_neg hp, waiting, notices, SharedStore.set, hne]
  | setUpdate p update =>
    refine ⟨fun q other payload hq => ?_, ?_⟩
    · by_cases hp : q = p
      · subst hp
        simp only [SharedStore.set, Function.update_self, RedisHash.hset] at hq
        split at hq
        · rename_i hother
          cases hq
          exact ⟨update.action, by rw [hother]⟩
        · exact hn q other payload hq
      · simp only [SharedStore.set, Function.update_of_ne hp] at hq
        exact hn q other payload hq
    · by_cases hp : p = partition
      · subst hp
        by_cases hid : update.subscriptionId = id
        · simp [deliveries, notices, waiting, SharedStore.set, RedisHash.hset, hid]
        · have hne : id ≠ update.subscriptionId := fun heq => hid heq.symm
          simp [deliveries, notices, waiting, SharedStore.set, RedisHash.hset, hid, hne]
      · have hne : partition ≠ p := fun heq => hp heq.symm
        simp [deliveries, notices, waiting, SharedStore.set, hp, hne]
  | readWatermark | readConfigs | consumeConfigUpdatesReadonly | getConfigKeyPayloads =>
    exact ⟨hn, Nat.le_refl _⟩

private theorem deliveries_step (hn : Noticed rmp store) {event : RedisEvent Payload}
    (hstep : StoreStep rmp store event store') (partition : UInt16) (id : Uuid) :
    Noticed rmp store' ∧ deliveries partition id event + waiting store' partition id ≤
      notices partition id event + waiting store partition id := by
  cases hstep with
  | elapse millis => exact ⟨hn, Nat.le_refl _⟩
  | answered hs => exact deliveries_served hn hs partition id
  | failed ops call => exact ⟨hn, by simp [deliveries]⟩
  | @failedApplied ops call reply _ hs =>
    -- Nothing reaches the client of a call that fails.
    obtain ⟨hn', hle⟩ := deliveries_served hn hs partition id
    have hnotices : notices partition id (.call ops call (.ok reply)) =
        notices partition id (.call ops call (.error .connection)) := by
      cases call <;> rfl
    rw [hnotices] at hle
    refine ⟨hn', Nat.le_trans (Nat.add_le_add_right ?_ _) hle⟩
    simp [deliveries]

/-- However many clients consume the notices of a partition, and whatever fails on the way, no
notice is handed out twice. -/
theorem delivered_at_most_once {events : List (RedisEvent Payload)} (hinit : (redis rmp).init db)
    (hrun : (redis rmp).Run db events db') (partition : UInt16) (id : Uuid) :
    (events.map (deliveries partition id)).sum ≤ (events.map (notices partition id)).sum := by
  obtain ⟨now, rfl⟩ := hinit
  obtain ⟨store', hrun', -⟩ : ∃ store', (sharedStore rmp).Run (.empty now) events store' ∧
      Represents db' store' :=
    hrun.simulates (R := Represents) (fun h (hstep : RedisStep rmp _ _ _) => h.step hstep)
      (represents_empty now)
  have hbound : Noticed rmp store' ∧ (events.map (deliveries partition id)).sum +
      waiting store' partition id ≤ (events.map (notices partition id)).sum := by
    clear hrun
    induction hrun' with
    | nil => exact ⟨nofun, Nat.le_refl 0⟩
    | snoc _ hlast ih =>
      obtain ⟨hn, hle⟩ := ih
      obtain ⟨hn', hstep⟩ := deliveries_step hn hlast partition id
      refine ⟨hn', ?_⟩
      simp only [List.map_append, List.map_cons, List.map_nil, List.sum_append, List.sum_cons,
        List.sum_nil]
      omega
  exact Nat.le_trans (Nat.le_add_right _ _) hbound.2

/-- `HVALS` of a hash of one field. -/
private theorem hvals_single (field : String) (payload : Payload) :
    RedisDb.Hvals (Function.update (fun _ => none) field (some payload)) [payload] := by
  refine ⟨[field], List.nodup_singleton _, fun name => ?_, by simp⟩
  by_cases hname : name = field
  · simp [hname]
  · simp [hname]

/-- One notice is left, and two clients poll: the first is handed the notice. -/
theorem delivered_at_most_once_two_clients :
    ∃ db events, (redis RedisConfigProvider.sumRmp).Run (.empty 0) events db ∧
      (events.map (deliveries 3 7)).sum = 1 ∧
      (events.map (deliveries 3 7)).sum ≤ (events.map (notices 3 7)).sum := by
  let key := (RedisPartition.new 3).updateKey
  let fields : String → Option (CheckConfig ⊕ ConfigUpdate) :=
    Function.update (fun _ => none) (Uuid.simple 7) (some (.inr ⟨.upsert, 7⟩))
  let db₁ : RedisDb (CheckConfig ⊕ ConfigUpdate) :=
    (RedisDb.empty 0).set key (some ⟨.hash fields, none⟩)
  have hset : (RedisDb.empty 0).setField key (Uuid.simple 7) (some (.inr ⟨.upsert, 7⟩)) =
      .ok db₁ := rfl
  have hfields : db₁.fields key = .ok fields := by
    simp [db₁, RedisDb.fields, RedisDb.lookup, Option.filter]
  have hempty : (db₁.del key).fields key = .ok fun _ => none := by
    simp [RedisDb.del, RedisDb.fields, RedisDb.lookup]
  have hvals : RedisDb.Hvals fields [.inr ⟨.upsert, 7⟩] := hvals_single _ _
  have hnone : RedisDb.Hvals (fun _ => none : String → Option (CheckConfig ⊕ ConfigUpdate)) [] :=
    ⟨[], List.nodup_nil, fun _ => by simp, rfl⟩
  have hinit : (redis RedisConfigProvider.sumRmp).init (.empty 0) := ⟨0, rfl⟩
  have hnotice : Applied RedisConfigProvider.sumRmp ⟨false⟩ (.empty 0)
      (.setUpdate 3 ⟨.upsert, 7⟩) _ _ := .setUpdate hset
  have hfirst : Applied RedisConfigProvider.sumRmp ⟨false⟩ db₁ (.consumeConfigUpdates 3) _ _ :=
    .consumeConfigUpdates rfl hfields hvals
  have hsecond : Applied RedisConfigProvider.sumRmp ⟨false⟩ (db₁.del key)
      (.consumeConfigUpdates 3) _ _ := .consumeConfigUpdates rfl hempty hnone
  have hrun₁ := (Transition.Run.here (.init hinit)).snoc (RedisStep.answered hnotice)
  have hrun₃ := (hrun₁.snoc (RedisStep.answered hfirst)).snoc (RedisStep.answered hsecond)
  exact ⟨_, _, hrun₃, by decide, delivered_at_most_once hinit hrun₃ 3 7⟩

end UptimeChecker
