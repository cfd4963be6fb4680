import Mathlib.Logic.Function.Basic
import UptimeChecker.ConfigStore
import UptimeChecker.Laws.CheckConfig

/-!
# The config store is a map

What the store is for fits in one line: it is a map from subscription ids to configs. `ConfigMap`
is that map, and `ConfigStore.Refines` says how the two representations hold it: `configs` has the
same entries, and the bucket of a slot has the configs of the map that run at that slot.

Each operation is proved once against `Refines` (`addConfig_refines`, `removeConfig_refines`): it
runs to its end, so no bucket index was out of range, and the map it leaves is the update of the
map it found. Replacing a config goes through `removeConfig`, which looks its slots up in the *old*
config; that is why the invariant has to know which config each bucket entry is, and not only which
id.

Over a history of operations the map holds, at every id, the config of the last operation on it if
that was an addition, and nothing otherwise (`configStore_refines_map`).
-/

namespace UptimeChecker

/-! ## Buckets -/

/-- Updating distinct buckets that exist: the fold runs to its end and touches those buckets
only. -/
theorem TickBuckets.foldlM_update? (f : TickBucket → TickBucket) :
    ∀ (slots : List Nat) (buckets : TickBuckets), slots.Nodup → (∀ i ∈ slots, i < buckets.size) →
      ∃ buckets' : TickBuckets,
        slots.foldlM (fun bs slot => TickBuckets.update? bs slot f) buckets = some buckets' ∧
        buckets'.size = buckets.size ∧
        ∀ i : Nat, buckets'[i]? = buckets[i]?.map fun b => if i ∈ slots then f b else b
  | [], buckets, _, _ => ⟨buckets, rfl, rfl, fun i => by simp⟩
  | slot :: slots, buckets, hnodup, hlt => by
    obtain ⟨hslot, hnodup⟩ := List.nodup_cons.mp hnodup
    have hin : slot < buckets.size := hlt slot List.mem_cons_self
    have hupdate : TickBuckets.update? buckets slot f =
        some (buckets.set slot (f buckets[slot])) := dif_pos hin
    obtain ⟨buckets', hrun, hsize, hget⟩ := TickBuckets.foldlM_update? f slots
      (buckets.set slot (f buckets[slot])) hnodup
      (fun i hi => by rw [Array.size_set]; exact hlt i (List.mem_cons_of_mem _ hi))
    refine ⟨buckets', ?_, by rw [hsize, Array.size_set], ?_⟩
    · rw [List.foldlM_cons, hupdate]
      exact hrun
    · intro i
      rw [hget i, Array.getElem?_set hin]
      by_cases h : slot = i
      · subst h
        simp [hslot, Array.getElem?_eq_getElem hin]
      · have hne : ¬ i = slot := fun e => h e.symm
        simp [h, hne]

/-! ## The map -/

/-- What a config store is for: the configs of a partition by subscription id. -/
abbrev ConfigMap := Uuid → Option CheckConfig

namespace ConfigStore

variable (newV5 : NewV5)

/-- The store holds a map, in both of its representations. -/
structure Refines (store : ConfigStore) (map : ConfigMap) : Prop where
  size : store.tickBuckets.size = maxCheckIntervalSecs
  configs : ∀ id, store.configs[id]? = map id
  keyed : ∀ id config, map id = some config → config.subscriptionId = id
  buckets : ∀ i bucket, store.tickBuckets[i]? = some bucket → ∀ config,
    config ∈ bucket ↔ map config.subscriptionId = some config ∧ i ∈ config.slots newV5

variable {newV5} {store : ConfigStore} {map : ConfigMap}

theorem new_refines : (new).Refines newV5 fun _ => none where
  size := Array.size_replicate
  configs id := Std.HashMap.getElem?_empty
  keyed id config h := by cases h
  buckets i bucket h config := by
    have hb : bucket = ∅ := by
      obtain ⟨hlt, hi⟩ := Array.getElem?_eq_some_iff.mp h
      rw [← hi]
      exact Array.getElem_replicate hlt
    rw [hb]
    simp

/-- The slots of any config are buckets of the store. -/
theorem Refines.slots_lt (h : store.Refines newV5 map) (config : CheckConfig) :
    ∀ i ∈ config.slots newV5, i < store.tickBuckets.size := fun i hi => by
  rw [h.size]
  exact ((config.mem_slots_iff newV5 i).mp hi).1

/-- Removal runs to its end and takes the id out of the map. -/
theorem removeConfig_refines (h : store.Refines newV5 map) (now : Instant) (id : Uuid) :
    ∃ store', store.removeConfig newV5 now id = some store' ∧
      store'.Refines newV5 (Function.update map id none) := by
  unfold removeConfig
  cases hold : store.configs[id]? with
  | none =>
    have hmap : map id = none := (h.configs id).symm.trans hold
    exact ⟨store, rfl, by rwa [← hmap, Function.update_eq_self]⟩
  | some old =>
    have hmap : map id = some old := (h.configs id).symm.trans hold
    have hid : old.subscriptionId = id := h.keyed id old hmap
    obtain ⟨buckets, hrun, hsize, hget⟩ := TickBuckets.foldlM_update? (·.erase old)
      (old.slots newV5) store.tickBuckets (old.slots_nodup newV5) (h.slots_lt old)
    refine ⟨⟨buckets, store.configs.erase id, some now⟩, by simp only [hrun]; rfl, ?_⟩
    refine ⟨hsize.trans h.size, ?_, ?_, ?_⟩
    · intro key
      show (store.configs.erase id)[key]? = _
      rw [Std.HashMap.getElem?_erase, h.configs key, Function.update_apply]
      simp only [beq_iff_eq, @eq_comm _ id key]
    · intro key config hkey
      rw [Function.update_apply] at hkey
      split at hkey
      · cases hkey
      · exact h.keyed key config hkey
    · intro i bucket hi config
      obtain ⟨before, hbefore, rfl⟩ := Option.map_eq_some_iff.mp ((hget i).symm.trans hi)
      have hbucket := h.buckets i before hbefore config
      rw [Function.update_apply]
      by_cases hconfig : config.subscriptionId = id
      · -- a config of the removed id is in a bucket only as the value that was stored
        rw [if_pos hconfig]
        have hstale : config ∈ before → config = old := fun hmem => by
          have := (hbucket.mp hmem).1
          rw [hconfig, hmap] at this
          exact (Option.some.inj this).symm
        have hgone : ¬ (config ∈ if i ∈ old.slots newV5 then before.erase old else before) := by
          intro hmem
          split at hmem
          · rw [Std.HashSet.mem_erase] at hmem
            exact absurd (hstale hmem.2).symm (by simpa using hmem.1)
          · rename_i hslot
            have hc := hstale hmem
            subst hc
            exact hslot (hbucket.mp hmem).2
        simp only [hgone, reduceCtorEq, false_and]
      · rw [if_neg hconfig, ← hbucket]
        have hne : old ≠ config := fun e => hconfig (e ▸ hid)
        split
        · rw [Std.HashSet.mem_erase]
          simp only [beq_eq_false_iff_ne, ne_eq, hne, not_false_eq_true, true_and]
        · rfl

/-- Addition to a map without the id runs to its end and puts the config in. -/
private theorem insert_refines (h : store.Refines newV5 map) (now : Instant)
    (config : CheckConfig) (habsent : map config.subscriptionId = none) :
    ∃ buckets : TickBuckets,
      (config.slots newV5).foldlM (fun bs slot => TickBuckets.update? bs slot (·.insert config))
        store.tickBuckets = some buckets ∧
      Refines newV5 ⟨buckets, store.configs.insert config.subscriptionId config, some now⟩
        (Function.update map config.subscriptionId (some config)) := by
  obtain ⟨buckets, hrun, hsize, hget⟩ := TickBuckets.foldlM_update? (·.insert config)
    (config.slots newV5) store.tickBuckets (config.slots_nodup newV5) (h.slots_lt config)
  refine ⟨buckets, hrun, hsize.trans h.size, ?_, ?_, ?_⟩
  · intro key
    show (store.configs.insert config.subscriptionId config)[key]? = _
    rw [Std.HashMap.getElem?_insert, h.configs key, Function.update_apply]
    simp only [beq_iff_eq, @eq_comm _ config.subscriptionId key]
  · intro key other hkey
    rw [Function.update_apply] at hkey
    split at hkey
    · rename_i heq
      cases hkey
      exact heq.symm
    · exact h.keyed key other hkey
  · intro i bucket hi other
    obtain ⟨before, hbefore, rfl⟩ := Option.map_eq_some_iff.mp ((hget i).symm.trans hi)
    have hbucket := h.buckets i before hbefore other
    rw [Function.update_apply]
    by_cases hother : other.subscriptionId = config.subscriptionId
    · rw [if_pos hother]
      have hnot : other ∉ before := fun hmem => by
        have := (hbucket.mp hmem).1
        rw [hother, habsent] at this
        cases this
      split
      · rename_i hslot
        simp only [Std.HashSet.mem_insert, beq_iff_eq, hnot, or_false, Option.some.injEq]
        exact ⟨fun e => ⟨e, e ▸ hslot⟩, And.left⟩
      · rename_i hslot
        simp only [hnot, Option.some.injEq, false_iff, not_and]
        exact fun e hin => hslot (e ▸ hin)
    · rw [if_neg hother, ← hbucket]
      have hne : config ≠ other := fun e => hother (by rw [e])
      split
      · simp only [Std.HashSet.mem_insert, beq_iff_eq, hne, false_or]
      · rfl

/-- Addition runs to its end and makes the config the entry of its id, whatever was there. -/
theorem addConfig_refines (h : store.Refines newV5 map) (now : Instant) (config : CheckConfig) :
    ∃ store', store.addConfig newV5 now config = some store' ∧
      store'.Refines newV5 (Function.update map config.subscriptionId (some config)) := by
  unfold addConfig
  by_cases hcontains : store.configs.contains config.subscriptionId = true
  · obtain ⟨cleared, hremove, hcleared⟩ := removeConfig_refines h now config.subscriptionId
    obtain ⟨buckets, hrun, hrefines⟩ := insert_refines hcleared now config
      (Function.update_self ..)
    rw [Function.update_idem] at hrefines
    refine ⟨_, ?_, hrefines⟩
    simp only [hcontains, if_true, hremove, Option.bind_eq_bind, Option.bind_some, hrun]
  · have habsent : map config.subscriptionId = none := by
      rw [← h.configs]
      exact Std.HashMap.getElem?_eq_none_of_contains_eq_false (by simpa using hcontains)
    obtain ⟨buckets, hrun, hrefines⟩ := insert_refines h now config habsent
    refine ⟨_, ?_, hrefines⟩
    simp only [hcontains, Bool.false_eq_true, if_false, Option.bind_eq_bind, Option.bind_some, hrun]

/-- An addition is an update. -/
theorem getLastUpdate_addConfig {store' : ConfigStore} {now : Instant} {config : CheckConfig}
    (h : store.addConfig newV5 now config = some store') : store'.getLastUpdate = some now := by
  unfold addConfig at h
  simp only [Option.bind_eq_bind] at h
  split at h
  all_goals
    obtain ⟨cleared, -, h⟩ := Option.bind_eq_some_iff.mp h
    obtain ⟨buckets, -, h⟩ := Option.bind_eq_some_iff.mp h
    cases h
    rfl

/-- A removal is an update, if there was anything to remove. -/
theorem eq_or_getLastUpdate_removeConfig {store' : ConfigStore} {now : Instant}
    {subscriptionId : Uuid} (h : store.removeConfig newV5 now subscriptionId = some store') :
    store' = store ∨ store'.getLastUpdate = some now := by
  unfold removeConfig at h
  split at h
  · exact .inl (Option.some.inj h).symm
  · obtain ⟨buckets, -, h⟩ := Option.bind_eq_some_iff.mp h
    cases h
    exact .inr rfl

/-- A tick's bucket holds the configs of the map that are due at it. -/
theorem getConfigs_refines (h : store.Refines newV5 map) (time : DateTime) :
    ∃ bucket, store.getConfigs (Tick.fromTime time) = some bucket ∧ ∀ config,
      config ∈ bucket ↔
        map config.subscriptionId = some config ∧ config.dueAt newV5 (Tick.fromTime time) := by
  have hlt : (Tick.fromTime time).index < store.tickBuckets.size := by
    rw [h.size]; exact Tick.fromTime_index_lt time
  exact ⟨_, Array.getElem?_eq_getElem hlt, h.buckets _ _ (Array.getElem?_eq_getElem hlt)⟩

/-! ## Histories -/

/-- A call on the store. -/
inductive StoreOp where
  | add (config : CheckConfig)
  | remove (subscriptionId : Uuid)

/-- The id a call is about. -/
def StoreOp.subscriptionId : StoreOp → Uuid
  | .add config => config.subscriptionId
  | .remove id => id

/-- The call on the store, at an instant. -/
def StoreOp.apply (newV5 : NewV5) (op : StoreOp) (now : Instant) (store : ConfigStore) :
    Option ConfigStore :=
  match op with
  | .add config => store.addConfig newV5 now config
  | .remove id => store.removeConfig newV5 now id

/-- The same call on the map. -/
def StoreOp.applyMap (op : StoreOp) (map : ConfigMap) : ConfigMap :=
  match op with
  | .add config => Function.update map config.subscriptionId (some config)
  | .remove id => Function.update map id none

/-- What the call leaves at its id. -/
def StoreOp.value : StoreOp → Option CheckConfig
  | .add config => some config
  | .remove _ => none

theorem StoreOp.applyMap_apply (op : StoreOp) (map : ConfigMap) (id : Uuid) :
    op.applyMap map id = if op.subscriptionId = id then op.value else map id := by
  cases op <;> simp only [applyMap, subscriptionId, value, Function.update_apply, eq_comm]

/-- A sequence of calls, each at its instant. -/
def run (newV5 : NewV5) (ops : List (StoreOp × Instant)) (store : ConfigStore) :
    Option ConfigStore :=
  ops.foldlM (fun s op => op.1.apply newV5 op.2 s) store

/-- The last call about an id. -/
def lastOp (ops : List StoreOp) (id : Uuid) : Option StoreOp :=
  ops.reverse.find? fun op => op.subscriptionId = id

theorem apply_refines (h : store.Refines newV5 map) (op : StoreOp) (now : Instant) :
    ∃ store', op.apply newV5 now store = some store' ∧ store'.Refines newV5 (op.applyMap map) := by
  cases op with
  | add config => exact addConfig_refines h now config
  | remove id => exact removeConfig_refines h now id

/-- A sequence of calls runs to its end, and the store follows the map through it. -/
theorem run_refines :
    ∀ (ops : List (StoreOp × Instant)) {store : ConfigStore} {map : ConfigMap},
      store.Refines newV5 map →
      ∃ store', run newV5 ops store = some store' ∧
        store'.Refines newV5 ((ops.map Prod.fst).foldl (fun m op => op.applyMap m) map)
  | [], store, _, h => ⟨store, rfl, h⟩
  | (op, now) :: ops, store, map, h => by
    obtain ⟨mid, hop, hmid⟩ := apply_refines h op now
    obtain ⟨store', hrun, hrefines⟩ := run_refines ops hmid
    refine ⟨store', ?_, hrefines⟩
    rw [run, List.foldlM_cons, hop]
    exact hrun

/-- Calls that leave the same at an id. -/
theorem foldl_applyMap_of_agree {ops : List StoreOp} {id : Uuid} {value : Option CheckConfig}
    (h : ∀ op ∈ ops, op.subscriptionId = id → op.value = value) (map : ConfigMap) :
    ops.foldl (fun m op => op.applyMap m) map id =
      if id ∈ ops.map StoreOp.subscriptionId then value else map id := by
  induction ops generalizing map with
  | nil => rfl
  | cons op ops ih =>
    have hop := h op List.mem_cons_self
    rw [List.foldl_cons, ih fun o ho => h o (List.mem_cons_of_mem _ ho), op.applyMap_apply]
    by_cases hid : op.subscriptionId = id
    · simp [hid, hop hid]
    · have hne : ¬ id = op.subscriptionId := fun e => hid e.symm
      simp [hid, hne]

/-- The map after a history holds a config at an id when the last call about the id added it. -/
theorem foldl_applyMap_eq_some (ops : List StoreOp) (id : Uuid) (config : CheckConfig) :
    ops.foldl (fun m op => op.applyMap m) (fun _ => none) id = some config ↔
      lastOp ops id = some (.add config) := by
  induction ops using List.reverseRecOn with
  | nil => simp [lastOp]
  | append_singleton ops op ih =>
    rw [List.foldl_append, List.foldl_cons, List.foldl_nil]
    unfold lastOp at ih ⊢
    rw [List.reverse_append, List.reverse_singleton, List.singleton_append, List.find?_cons]
    cases op with
    | add other =>
      by_cases hid : other.subscriptionId = id
      · subst hid
        simp [StoreOp.applyMap, StoreOp.subscriptionId]
      · have hne : ¬ id = other.subscriptionId := fun e => hid e.symm
        simp only [StoreOp.applyMap, StoreOp.subscriptionId, Function.update_apply, hne, hid,
          if_false, decide_false]
        exact ih
    | remove other =>
      by_cases hid : other = id
      · subst hid
        simp [StoreOp.applyMap, StoreOp.subscriptionId]
      · have hne : ¬ id = other := fun e => hid e.symm
        simp only [StoreOp.applyMap, StoreOp.subscriptionId, Function.update_apply, hne, hid,
          if_false, decide_false]
        exact ih

end ConfigStore

open ConfigStore in
/-- **The config store is a plain map.** Every history of additions and removals from an empty
store runs without a bucket index out of range; `configs` has exactly the ids whose last call was
an addition, each at the config of that call; and every bucket of the hour is the set of configs of
that map which run at its slot, so it never holds two configs of one id. -/
theorem configStore_refines_map (newV5 : NewV5) (ops : List (StoreOp × Instant)) :
    ∃ store, ConfigStore.run newV5 ops .new = some store ∧
      (∀ id config, store.configs[id]? = some config ↔
        lastOp (ops.map Prod.fst) id = some (.add config)) ∧
      ∀ i, i < maxCheckIntervalSecs → ∃ bucket, store.tickBuckets[i]? = some bucket ∧
        (∀ config, config ∈ bucket ↔
          store.configs[config.subscriptionId]? = some config ∧ i ∈ config.slots newV5) ∧
        ∀ a ∈ bucket, ∀ b ∈ bucket, a.subscriptionId = b.subscriptionId → a = b := by
  obtain ⟨store, hrun, h⟩ := run_refines ops (@new_refines newV5)
  refine ⟨store, hrun, ?_, ?_⟩
  · intro id config
    rw [h.configs, foldl_applyMap_eq_some]
  · intro i hi
    have hlt : i < store.tickBuckets.size := h.size ▸ hi
    have hbucket := h.buckets i _ (Array.getElem?_eq_getElem hlt)
    refine ⟨_, Array.getElem?_eq_getElem hlt, fun config => ?_, fun a ha b hb hab => ?_⟩
    · rw [hbucket, h.configs]
    · have hma := ((hbucket a).mp ha).1
      have hmb := ((hbucket b).mp hb).1
      rw [hab, hmb] at hma
      exact (Option.some.inj hma).symm

end UptimeChecker
