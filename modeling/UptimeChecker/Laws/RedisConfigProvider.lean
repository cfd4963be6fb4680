import UptimeChecker.Laws.ConfigStore
import UptimeChecker.RedisConfigProvider

/-!
# No lost config update

Between a poll's consuming a notice and its adding the config, the change is known to the monitor
task alone. `State.settled` is the map the config store will hold once the calls the task still has
to make are made. The invariant (`Follows`) says where every change is remembered: for each id the
settled map agrees with the config hash, or a notice is waiting, or the writer is about to leave
one.

Every step keeps it but one kind: a command that fails and takes notices with it. A fetch that fails
is never repeated, and a consuming command that fails may still have emptied the update hash. The
store follows the config hash in all runs in which no such failure loses the last notice of a
change not yet applied (`KeepsNotices`); where one does, nothing remembers the change any more
(`Loses.forgotten`).
-/

namespace UptimeChecker

namespace RedisHash

variable {Payload : Type} {hash : RedisHash Payload}

/-- `HVALS` reads exactly the values. -/
theorem Hvals.mem_iff {payloads : List Payload} (h : hash.Hvals payloads) (payload : Payload) :
    payload ∈ payloads ↔ ∃ id, hash id = some payload := by
  obtain ⟨ids, -, hids, hmap⟩ := h
  have hmem : payload ∈ payloads ↔ some payload ∈ ids.map hash := by
    rw [hmap]
    simp
  rw [hmem, List.mem_map]
  constructor
  · rintro ⟨id, -, h⟩
    exact ⟨id, h⟩
  · intro ⟨id, h⟩
    exact ⟨id, (hids id).mpr (by rw [h]; rfl), h⟩

end RedisHash

namespace RedisConfigProvider

open ConfigStore

variable {Payload : Type} {newV5 : NewV5} {rmp : Rmp Payload} {s s' : State Payload} {a : Action}

private theorem splitUpdates_foldl (updates upserts deletes : List ConfigUpdate) :
    updates.foldl
      (fun (acc : List ConfigUpdate × List ConfigUpdate) update =>
        match update.action with
        | .upsert => (acc.1 ++ [update], acc.2)
        | .delete => (acc.1, acc.2 ++ [update]))
      (upserts, deletes) =
    (upserts ++ updates.filter (·.action = .upsert),
      deletes ++ updates.filter (·.action = .delete)) := by
  induction updates generalizing upserts deletes with
  | nil => simp
  | cons update updates ih =>
    rw [List.foldl_cons]
    cases haction : update.action <;> simp [haction, ih]

/-- The upserts are the updates of that action, and so are the deletes. -/
theorem splitUpdates_eq (payloads : List Payload) :
    splitUpdates rmp payloads =
      ((payloads.filterMap rmp.updateFromSlice).filter (·.action = .upsert),
        (payloads.filterMap rmp.updateFromSlice).filter (·.action = .delete)) :=
  (splitUpdates_foldl _ [] []).trans (by rw [List.nil_append, List.nil_append])

/-! ## What the task still has to do -/

/-- The writer has changed a config and not yet left its notice. -/
def Writer.IsBetween (writer : Writer) (id : Uuid) : Prop :=
  ∃ action, writer = .between ⟨action, id⟩

/-- The configs the config hash holds. -/
def State.held (rmp : Rmp Payload) (s : State Payload) : ConfigMap :=
  fun id => (s.configs id).bind rmp.deserializeRmp

/-- The configs the config store holds. -/
def State.stored (s : State Payload) : ConfigMap := fun id => s.configStore.configs[id]?

/-- The calls on the config store that the task still has to make, as the config hash stands. -/
def State.pending (rmp : Rmp Payload) (s : State Payload) : List StoreOp :=
  match s.reader with
  | .adding payloads => (payloads.filterMap rmp.deserializeRmp).map .add
  | .handling deletes upserts =>
      deletes.map (fun update => .remove update.subscriptionId) ++
        (upserts.filterMap fun update => s.held rmp update.subscriptionId).map .add
  | _ => []

/-- What the config store will hold when these calls are made. -/
def State.settled (rmp : Rmp Payload) (s : State Payload) : ConfigMap :=
  (s.pending rmp).foldl (fun m op => op.applyMap m) s.stored

/-- The initial load has read the config hash. -/
def Reader.Loaded : Reader Payload → Prop
  | .booting => False
  | .panicked => False
  | _ => True

/-- A change to a config not yet settled is remembered in redis, or by the writer. -/
def State.Remembered (s : State Payload) (id : Uuid) : Prop :=
  (s.updates id).isSome ∨ s.writer.IsBetween id

/-- Where every change is remembered. -/
structure Follows (newV5 : NewV5) (rmp : Rmp Payload) (s : State Payload) : Prop where
  keyed : ∀ id config, s.held rmp id = some config → config.subscriptionId = id
  notices : ∀ id payload, s.updates id = some payload → ∃ action,
    payload = rmp.updateToVec ⟨action, id⟩ ∧
      (s.writer.IsBetween id ∨ (action = .upsert ↔ (s.held rmp id).isSome))
  writer : ∀ update, s.writer = .between update →
    (update.action = .upsert ↔ (s.held rmp update.subscriptionId).isSome)
  store : s.configStore.Refines newV5 s.stored
  booting : s.reader = .booting → s.stored = fun _ => none
  settled : s.reader.Loaded → ∀ id, s.settled rmp id = s.held rmp id ∨ s.Remembered id

/-! ## The settled map -/

theorem settled_of_pending_nil (h : s.pending rmp = []) : s.settled rmp = s.stored := by
  rw [State.settled, h, List.foldl_nil]

/-- Once the payloads of some configs are added, each of them is held, as long as no two differ
under one id. -/
theorem settled_adding {payloads : List Payload} {id : Uuid} {value : Option CheckConfig}
    (phase : s.reader = .adding payloads)
    (h : ∀ payload ∈ payloads, ∀ config, rmp.deserializeRmp payload = some config →
      config.subscriptionId = id → some config = value) :
    s.settled rmp id =
      if ∃ payload ∈ payloads, ∃ config, rmp.deserializeRmp payload = some config ∧
        config.subscriptionId = id then value else s.stored id := by
  have hpending : s.pending rmp = (payloads.filterMap rmp.deserializeRmp).map .add := by
    rw [State.pending, phase]
  have hids : id ∈ ((payloads.filterMap rmp.deserializeRmp).map StoreOp.add).map
        StoreOp.subscriptionId ↔
      ∃ payload ∈ payloads, ∃ config, rmp.deserializeRmp payload = some config ∧
        config.subscriptionId = id := by
    simp only [List.mem_map, List.mem_filterMap]
    constructor
    · rintro ⟨op, ⟨config, ⟨payload, hpayload, hdecode⟩, rfl⟩, hid⟩
      exact ⟨payload, hpayload, config, hdecode, hid⟩
    · intro ⟨payload, hpayload, config, hdecode, hid⟩
      exact ⟨.add config, ⟨config, ⟨payload, hpayload, hdecode⟩, rfl⟩, hid⟩
  rw [State.settled, hpending, @foldl_applyMap_of_agree _ id value]
  · simp only [hids]
  · intro op hop hid
    obtain ⟨config, hconfig, rfl⟩ := List.mem_map.mp hop
    obtain ⟨payload, hpayload, hdecode⟩ := List.mem_filterMap.mp hconfig
    exact h payload hpayload config hdecode hid

/-- Once the updates are handled, the configs upserted are held, those deleted gone. -/
theorem settled_handling
    (keyed : ∀ id config, s.held rmp id = some config → config.subscriptionId = id)
    {deletes upserts : List ConfigUpdate} (phase : s.reader = .handling deletes upserts)
    (id : Uuid) :
    s.settled rmp id =
      if id ∈ upserts.map (·.subscriptionId) ∧ (s.held rmp id).isSome then s.held rmp id
      else if id ∈ deletes.map (·.subscriptionId) then none else s.stored id := by
  have hpending : s.pending rmp =
      deletes.map (fun update => .remove update.subscriptionId) ++
        (upserts.filterMap fun update => s.held rmp update.subscriptionId).map .add := by
    rw [State.pending, phase]
  have hids : id ∈ ((upserts.filterMap fun update => s.held rmp update.subscriptionId).map
        StoreOp.add).map StoreOp.subscriptionId ↔
      id ∈ upserts.map (·.subscriptionId) ∧ (s.held rmp id).isSome := by
    simp only [List.mem_map, List.mem_filterMap]
    constructor
    · rintro ⟨op, ⟨config, ⟨update, hupdate, hheld⟩, rfl⟩, hid⟩
      have hkey : config.subscriptionId = update.subscriptionId := keyed _ _ hheld
      have hid : config.subscriptionId = id := hid
      refine ⟨⟨update, hupdate, hkey.symm.trans hid⟩, ?_⟩
      rw [← hid, hkey, hheld]
      rfl
    · rintro ⟨⟨update, hupdate, rfl⟩, hsome⟩
      obtain ⟨config, hheld⟩ := Option.isSome_iff_exists.mp hsome
      exact ⟨.add config, ⟨config, ⟨update, hupdate, hheld⟩, rfl⟩, keyed _ _ hheld⟩
  rw [State.settled, hpending, List.foldl_append,
    @foldl_applyMap_of_agree _ id (s.held rmp id), @foldl_applyMap_of_agree _ id none]
  · have hdeletes : (deletes.map fun update => StoreOp.remove update.subscriptionId).map
        StoreOp.subscriptionId = deletes.map (·.subscriptionId) := by
      rw [List.map_map]
      rfl
    simp only [hids, hdeletes]
  · intro op hop hid
    obtain ⟨update, -, rfl⟩ := List.mem_map.mp hop
    rfl
  · intro op hop hid
    obtain ⟨config, hconfig, rfl⟩ := List.mem_map.mp hop
    obtain ⟨update, -, hheld⟩ := List.mem_filterMap.mp hconfig
    have hkey : config.subscriptionId = update.subscriptionId := keyed _ _ hheld
    have hid : config.subscriptionId = id := hid
    rw [← hid, hkey, hheld]
    rfl

/-- The settled map at an id depends on the config hash at that id only. -/
theorem settled_congr
    (keyed : ∀ id config, s.held rmp id = some config → config.subscriptionId = id)
    (keyed' : ∀ id config, s'.held rmp id = some config → config.subscriptionId = id)
    (hreader : s'.reader = s.reader) (hstore : s'.configStore = s.configStore) {id : Uuid}
    (hheld : s'.held rmp id = s.held rmp id) : s'.settled rmp id = s.settled rmp id := by
  have hstored : s'.stored = s.stored := by unfold State.stored; rw [hstore]
  cases hphase : s.reader with
  | handling deletes upserts =>
    rw [settled_handling keyed hphase, settled_handling keyed' (hreader.trans hphase), hheld,
      hstored]
  | _ => simp only [State.settled, State.pending, hreader, hphase, hstored]

/-! ## One step -/

/-- An update consumed is a notice that was waiting. -/
theorem mem_consumed (h : Follows newV5 rmp s) {payloads : List Payload}
    (hvals : s.updates.Hvals payloads) (update : ConfigUpdate) :
    update ∈ payloads.filterMap rmp.updateFromSlice ↔
      s.updates update.subscriptionId = some (rmp.updateToVec update) := by
  rw [List.mem_filterMap]
  constructor
  · intro ⟨payload, hpayload, hdecode⟩
    obtain ⟨id, hid⟩ := (hvals.mem_iff payload).mp hpayload
    obtain ⟨action, rfl, -⟩ := h.notices id payload hid
    rw [rmp.updateFromSlice_updateToVec] at hdecode
    cases hdecode
    exact hid
  · intro hid
    exact ⟨_, (hvals.mem_iff _).mpr ⟨_, hid⟩, rmp.updateFromSlice_updateToVec update⟩

/-- The ids consumed with one action are those whose notice says that action. -/
theorem mem_consumed_action (h : Follows newV5 rmp s) {payloads : List Payload}
    (hvals : s.updates.Hvals payloads) (action : ConfigUpdateAction) (id : Uuid) :
    id ∈ ((payloads.filterMap rmp.updateFromSlice).filter (·.action = action)).map
        (·.subscriptionId) ↔
      s.updates id = some (rmp.updateToVec ⟨action, id⟩) := by
  rw [List.mem_map]
  constructor
  · rintro ⟨update, hmem, rfl⟩
    obtain ⟨hconsumed, haction⟩ := List.mem_filter.mp hmem
    have hsame : update.action = action := of_decide_eq_true haction
    subst hsame
    exact (mem_consumed h hvals update).mp hconsumed
  · intro hid
    have hmem := (mem_consumed h hvals ⟨action, id⟩).mpr hid
    exact ⟨⟨action, id⟩, List.mem_filter.mpr ⟨hmem, decide_eq_true rfl⟩, rfl⟩

theorem mem_upserts (h : Follows newV5 rmp s) {payloads : List Payload}
    (hvals : s.updates.Hvals payloads) (id : Uuid) :
    id ∈ (splitUpdates rmp payloads).1.map (·.subscriptionId) ↔
      s.updates id = some (rmp.updateToVec ⟨.upsert, id⟩) := by
  rw [splitUpdates_eq]
  exact mem_consumed_action h hvals .upsert id

theorem mem_deletes (h : Follows newV5 rmp s) {payloads : List Payload}
    (hvals : s.updates.Hvals payloads) (id : Uuid) :
    id ∈ (splitUpdates rmp payloads).2.map (·.subscriptionId) ↔
      s.updates id = some (rmp.updateToVec ⟨.delete, id⟩) := by
  rw [splitUpdates_eq]
  exact mem_consumed_action h hvals .delete id

/-- The last notice of a change the config store has not seen goes with a command that fails. -/
def Loses (rmp : Rmp Payload) (s : State Payload) (a : Action) (id : Uuid) : Prop :=
  s.stored id ≠ s.held rmp id ∧ ¬ s.writer.IsBetween id ∧
    match a, s.reader with
    | .getConfigKeyPayloadsError, .handling _ upserts =>
        id ∈ upserts.map (·.subscriptionId) ∧ s.updates id = none
    | .consumeConfigUpdatesErrorApplied, _ => (s.updates id).isSome
    | _, _ => False

/-- No such notice is lost. -/
def KeepsNotices (rmp : Rmp Payload) (s : State Payload) (a : Action) : Prop :=
  ∀ id, ¬ Loses rmp s a id

/-- The writer changes the config of one id. -/
theorem Follows.write (h : Follows newV5 rmp s) (idle : s.writer = .idle)
    {configs : RedisHash Payload} {update : ConfigUpdate}
    (hother : ∀ id, id ≠ update.subscriptionId → configs id = s.configs id)
    (hkeyed : ∀ config, (configs update.subscriptionId).bind rmp.deserializeRmp = some config →
      config.subscriptionId = update.subscriptionId)
    (haction : update.action = .upsert ↔
      ((configs update.subscriptionId).bind rmp.deserializeRmp).isSome) :
    Follows newV5 rmp { s with configs := configs, writer := .between update } := by
  have hheld : ∀ id, id ≠ update.subscriptionId →
      State.held rmp { s with configs := configs, writer := .between update } id = s.held rmp id :=
    fun id hid => by simp only [State.held, hother id hid]
  have hkeyed' : ∀ id config,
      State.held rmp { s with configs := configs, writer := .between update } id = some config →
      config.subscriptionId = id := by
    intro id config hid
    by_cases hsame : id = update.subscriptionId
    · subst hsame
      exact hkeyed config hid
    · exact h.keyed id config ((hheld id hsame).symm.trans hid)
  refine ⟨hkeyed', ?_, ?_, h.store, h.booting, ?_⟩
  · intro id payload hp
    obtain ⟨action, heq, hnotice⟩ := h.notices id payload hp
    refine ⟨action, heq, ?_⟩
    by_cases hsame : id = update.subscriptionId
    · subst hsame
      exact .inl ⟨update.action, rfl⟩
    · rcases hnotice with ⟨_, hbetween⟩ | hnotice
      · cases idle.symm.trans hbetween
      · rw [hheld id hsame]
        exact .inr hnotice
  · intro other hother
    cases hother
    exact haction
  · intro hloaded id
    by_cases hsame : id = update.subscriptionId
    · subst hsame
      exact .inr (.inr ⟨update.action, rfl⟩)
    · rcases h.settled hloaded id with heq | hupdate | ⟨_, hbetween⟩
      · left
        rw [settled_congr h.keyed hkeyed' rfl rfl (hheld id hsame), hheld id hsame, heq]
      · exact .inr (.inl hupdate)
      · cases idle.symm.trans hbetween

/-- The writer leaves its notice. -/
theorem Follows.notify (h : Follows newV5 rmp s) {update : ConfigUpdate}
    (between : s.writer = .between update) :
    Follows newV5 rmp
      { s with
        updates := s.updates.hset update.subscriptionId (rmp.updateToVec update)
        writer := .idle } := by
  have hid : ∀ id, s.writer.IsBetween id → id = update.subscriptionId := by
    intro id ⟨action, hbetween⟩
    cases between.symm.trans hbetween
    rfl
  refine ⟨h.keyed, ?_, nofun, h.store, h.booting, ?_⟩
  · intro id payload hp
    by_cases hsame : id = update.subscriptionId
    · subst hsame
      simp only [RedisHash.hset, if_true, Option.some.injEq] at hp
      exact ⟨update.action, hp.symm, .inr (h.writer update between)⟩
    · simp only [RedisHash.hset, if_neg hsame] at hp
      obtain ⟨action, heq, hbetween | hnotice⟩ := h.notices id payload hp
      · exact (hsame (hid id hbetween)).elim
      · exact ⟨action, heq, .inr hnotice⟩
  · intro hloaded id
    have hupdates : id = update.subscriptionId ∨ (s.updates id).isSome →
        (s.updates.hset update.subscriptionId (rmp.updateToVec update) id).isSome := by
      intro hor
      unfold RedisHash.hset
      split
      · rfl
      · rename_i hne
        exact hor.resolve_left hne
    rcases h.settled hloaded id with heq | hupdate | hbetween
    · exact .inl heq
    · exact .inr (.inl (hupdates (.inr hupdate)))
    · exact .inr (.inl (hupdates (.inl (hid id hbetween))))

/-- The monitor task moves: it takes no notice the invariant still needs. -/
theorem Follows.read (h : Follows newV5 rmp s) (hconfigs : s'.configs = s.configs)
    (hwriter : s'.writer = s.writer)
    (hupdates : ∀ id payload, s'.updates id = some payload → s.updates id = some payload)
    (hstore : s'.configStore.Refines newV5 s'.stored) (hbooting : s'.reader ≠ .booting)
    (hsettled : s'.reader.Loaded → ∀ id, s'.settled rmp id = s.held rmp id ∨ s'.Remembered id) :
    Follows newV5 rmp s' := by
  have hheld : s'.held rmp = s.held rmp := by unfold State.held; rw [hconfigs]
  refine ⟨?_, ?_, ?_, hstore, fun hb => (hbooting hb).elim, ?_⟩
  · rw [hheld]
    exact h.keyed
  · intro id payload hp
    rw [hheld, hwriter]
    exact h.notices id payload (hupdates id payload hp)
  · rw [hheld, hwriter]
    exact h.writer
  · rw [hheld]
    exact hsettled

/-- A call on the config store that the task was about to make leaves what is settled. -/
private theorem stored_apply (h : s.configStore.Refines newV5 s.stored) {op : StoreOp}
    {now : Instant} {store : ConfigStore}
    (hop : op.apply newV5 now s.configStore = some store) :
    store.Refines newV5 (fun id => store.configs[id]?) ∧
      (fun id => store.configs[id]?) = op.applyMap s.stored := by
  obtain ⟨store', hop', hrefines⟩ := apply_refines h op now
  cases hop'.symm.trans hop
  have hmap : (fun id => store.configs[id]?) = op.applyMap s.stored := funext hrefines.configs
  rw [hmap]
  exact ⟨hrefines, rfl⟩

/-- The payloads of the initial load settle to the config hash. -/
theorem settled_readConfigs (h : Follows newV5 rmp s) {payloads : List Payload}
    (phase : s.reader = .booting) (hvals : s.configs.Hvals payloads) (id : Uuid) :
    State.settled rmp { s with reader := .adding payloads } id = s.held rmp id := by
  have hpayload : ∀ payload ∈ payloads, ∀ config, rmp.deserializeRmp payload = some config →
      s.held rmp config.subscriptionId = some config := by
    intro payload hmem config hdecode
    obtain ⟨key, hkey⟩ := (hvals.mem_iff payload).mp hmem
    have hheld : s.held rmp key = some config := by rw [State.held, hkey]; exact hdecode
    rwa [h.keyed key config hheld]
  rw [@settled_adding _ _ { s with reader := .adding payloads } payloads id (s.held rmp id) rfl]
  · split
    · rfl
    · rename_i hnone
      show s.stored id = _
      rw [h.booting phase]
      by_contra hsome
      obtain ⟨config, hheld⟩ := Option.ne_none_iff_exists'.mp fun e => hsome e.symm
      obtain ⟨payload, hkey, hdecode⟩ := Option.bind_eq_some_iff.mp hheld
      exact hnone ⟨payload, (hvals.mem_iff payload).mpr ⟨id, hkey⟩, config, hdecode,
        h.keyed id config hheld⟩
  · rintro payload hmem config hdecode rfl
    exact (hpayload payload hmem config hdecode).symm

/-- The updates a poll consumes settle to the config hash, but for a config the writer is
changing. -/
theorem settled_consume (h : Follows newV5 rmp s) {payloads : List Payload}
    (phase : s.reader = .waiting) (hvals : s.updates.Hvals payloads)
    (hconfigs : s'.configs = s.configs) (hstore : s'.configStore = s.configStore)
    (phase' : s'.reader =
      .handling (splitUpdates rmp payloads).2 (splitUpdates rmp payloads).1) (id : Uuid) :
    s'.settled rmp id = s.held rmp id ∨ s.writer.IsBetween id := by
  have hheld : s'.held rmp = s.held rmp := by unfold State.held; rw [hconfigs]
  have hstored : s'.stored = s.stored := by unfold State.stored; rw [hstore]
  have hsettled := h.settled (by rw [phase]; trivial) id
  rw [settled_of_pending_nil (by rw [State.pending, phase])] at hsettled
  rw [settled_handling (hheld ▸ h.keyed) phase', hheld, hstored]
  cases hnotice : s.updates id with
  | none =>
    have hupserts : id ∉ (splitUpdates rmp payloads).1.map (·.subscriptionId) := by
      rw [mem_upserts h hvals, hnotice]
      nofun
    have hdeletes : id ∉ (splitUpdates rmp payloads).2.map (·.subscriptionId) := by
      rw [mem_deletes h hvals, hnotice]
      nofun
    rw [if_neg fun hand => hupserts hand.1, if_neg hdeletes]
    rw [State.Remembered, hnotice] at hsettled
    simpa using hsettled
  | some payload =>
    obtain ⟨action, rfl, hbetween | haction⟩ := h.notices id payload hnotice
    · exact .inr hbetween
    · left
      cases action with
      | upsert => rw [if_pos ⟨(mem_upserts h hvals id).mpr hnotice, haction.mp rfl⟩]
      | delete =>
        have hnone : ¬ (s.held rmp id).isSome := fun hsome => nomatch haction.mpr hsome
        rw [if_neg fun hand => hnone hand.2, if_pos ((mem_deletes h hvals id).mpr hnotice)]
        exact (Option.not_isSome_iff_eq_none.mp hnone).symm

/-- The fetch leaves what is settled. -/
theorem pending_getConfigKeyPayloads {upserts : List ConfigUpdate} {missing : List Payload}
    (undecodable : ∀ payload ∈ missing, rmp.deserializeRmp payload = none) :
    (s.configs.hget missing (upserts.map (·.subscriptionId))).filterMap rmp.deserializeRmp =
      upserts.filterMap fun update => s.held rmp update.subscriptionId := by
  have hmissing : missing.filterMap rmp.deserializeRmp = [] :=
    List.filterMap_eq_nil_iff.mpr undecodable
  induction upserts with
  | nil => rfl
  | cons update upserts ih =>
    unfold RedisHash.hget at ih ⊢
    rw [List.map_cons, List.flatMap_cons, List.filterMap_append, ih, List.filterMap_cons,
      State.held]
    cases s.configs update.subscriptionId with
    | none => simp [hmissing]
    | some payload => cases hdecode : rmp.deserializeRmp payload <;> simp [hdecode]

/-- The task makes the next call, or gets nearer to it. -/
theorem Follows.proceed (h : Follows newV5 rmp s) (hconfigs : s'.configs = s.configs)
    (hwriter : s'.writer = s.writer) (hupdates : s'.updates = s.updates)
    (hstore : s'.configStore.Refines newV5 s'.stored) (hbooting : s'.reader ≠ .booting)
    (hloaded : s.reader.Loaded) (hsettled : s'.settled rmp = s.settled rmp) :
    Follows newV5 rmp s' := by
  refine h.read hconfigs hwriter (fun id payload hp => by rwa [← hupdates]) hstore hbooting ?_
  intro _ id
  rw [hsettled, State.Remembered, hupdates, hwriter]
  exact h.settled hloaded id

theorem Follows.call (h : Follows newV5 rmp s) {reader : Reader Payload} {op : StoreOp}
    {now : Instant} {store : ConfigStore} (hop : op.apply newV5 now s.configStore = some store)
    (hbooting : reader ≠ .booting) (hloaded : s.reader.Loaded)
    (hpending : s.pending rmp =
      op :: State.pending rmp { s with reader := reader, configStore := store }) :
    Follows newV5 rmp { s with reader := reader, configStore := store } := by
  obtain ⟨hstore, hstored⟩ := stored_apply h.store hop
  refine h.proceed rfl rfl rfl hstore hbooting hloaded ?_
  rw [State.settled, State.settled, hpending, List.foldl_cons, ← hstored]
  rfl

/-- A step that loses no notice keeps the invariant. -/
theorem Follows.step (h : Follows newV5 rmp s) (hok : KeepsNotices rmp s a)
    (hstep : Step newV5 rmp s a s') : Follows newV5 rmp s' := by
  cases hstep with
  | @setConfig payload config idle decodes =>
    have hset : s.configs.hset config.subscriptionId payload config.subscriptionId =
        some payload := if_pos rfl
    refine h.write idle (fun id hid => if_neg hid) ?_ ?_
    · intro other hother
      rw [hset, Option.bind_some, decodes] at hother
      cases hother
      rfl
    · rw [hset, Option.bind_some, decodes]
      exact ⟨fun _ => rfl, fun _ => rfl⟩
  | delConfig id idle =>
    have hdel : s.configs.hdel id id = none := if_pos rfl
    refine h.write idle (fun key hkey => if_neg hkey) ?_ ?_
    · intro other hother
      rw [hdel] at hother
      cases hother
    · rw [hdel]
      exact ⟨nofun, nofun⟩
  | setUpdate between => exact h.notify between
  | readConfigs phase hvals =>
    exact h.read rfl rfl (fun _ _ hp => hp) h.store nofun
      fun _ id => .inl (settled_readConfigs h phase hvals id)
  | readConfigsError phase =>
    exact h.read rfl rfl (fun _ _ hp => hp) h.store nofun fun hloaded => hloaded.elim
  | @addConfig payload payloads config now store phase decodes hadd =>
    have hop : (StoreOp.add config).apply newV5 now s.configStore = some store := hadd
    refine h.call hop nofun (by rw [phase]; trivial) ?_
    simp only [State.pending, phase, List.filterMap_cons, decodes, List.map_cons]
  | skipPayload phase undecodable =>
    refine h.proceed rfl rfl rfl h.store nofun (by rw [phase]; trivial) ?_
    simp only [State.settled, State.pending, phase, List.filterMap_cons, undecodable]
    rfl
  | allAdded phase =>
    refine h.proceed rfl rfl rfl h.store nofun (by rw [phase]; trivial) ?_
    simp only [State.settled, State.pending, phase, List.filterMap_nil, List.map_nil]
    rfl
  | consumeConfigUpdates phase hvals =>
    refine h.read rfl rfl nofun h.store nofun ?_
    intro _ id
    refine Or.imp_right ?_ (settled_consume h phase hvals ?_ ?_ ?_ id)
    · intro hbetween
      exact .inr hbetween
    all_goals rfl
  | consumeConfigUpdatesError phase => exact h
  | consumeConfigUpdatesErrorApplied phase =>
    refine h.read rfl rfl nofun h.store (by rw [phase]; nofun) ?_
    intro _ id
    have hsettled := h.settled (by rw [phase]; trivial) id
    rw [settled_of_pending_nil (by rw [State.pending, phase])] at hsettled
    rw [settled_of_pending_nil (by rw [State.pending]; simp only [phase])]
    by_contra hlost
    obtain ⟨hne, hforgotten⟩ := not_or.mp hlost
    have hbetween : ¬ s.writer.IsBetween id := fun hbetween => hforgotten (.inr hbetween)
    refine hok id ⟨hne, hbetween, ?_⟩
    exact (hsettled.resolve_left hne).resolve_right hbetween
  | @removeConfig update deletes upserts now store phase hremove =>
    have hop : (StoreOp.remove update.subscriptionId).apply newV5 now s.configStore = some store :=
      hremove
    refine h.call hop nofun (by rw [phase]; trivial) ?_
    simp only [State.pending, phase, List.map_cons, List.cons_append]
    rfl
  | noUpserts phase =>
    refine h.proceed rfl rfl rfl h.store nofun (by rw [phase]; trivial) ?_
    simp only [State.settled, State.pending, phase, List.filterMap_nil, List.map_nil,
      List.append_nil]
    rfl
  | getConfigKeyPayloads phase upserted undecodable =>
    refine h.proceed rfl rfl rfl h.store nofun (by rw [phase]; trivial) ?_
    simp only [State.settled, State.pending, phase, pending_getConfigKeyPayloads undecodable,
      List.map_nil, List.nil_append]
    rfl
  | @getConfigKeyPayloadsError upserts phase upserted =>
    refine h.read rfl rfl (fun _ _ hp => hp) h.store nofun ?_
    intro _ id
    have hsettled := h.settled (by rw [phase]; trivial) id
    rw [settled_handling h.keyed phase] at hsettled
    rw [settled_of_pending_nil rfl]
    by_contra hlost
    obtain ⟨hne, hforgotten⟩ := not_or.mp hlost
    have hbetween : ¬ s.writer.IsBetween id := fun hbetween => hforgotten (.inr hbetween)
    have hupdates : s.updates id = none :=
      Option.not_isSome_iff_eq_none.mp fun hupdate => hforgotten (.inl hupdate)
    refine hok id ⟨hne, hbetween, ?_⟩
    rw [phase]
    refine ⟨?_, hupdates⟩
    by_contra hmem
    rw [if_neg fun hand => hmem hand.1, if_neg (by simp)] at hsettled
    rcases hsettled with heq | hremembered
    · exact hne heq
    · exact hforgotten hremembered

/-- A failure that loses a notice leaves a store that differs from the config hash, and neither
redis nor the writer nor the task remembers it. -/
theorem Loses.forgotten {id : Uuid} (h : Loses rmp s a id) (hstep : Step newV5 rmp s a s') :
    s'.reader = .waiting ∧ s'.stored id ≠ s'.held rmp id ∧ ¬ s'.Remembered id := by
  obtain ⟨hne, hbetween, hlost⟩ := h
  cases hstep with
  | consumeConfigUpdatesErrorApplied phase =>
    exact ⟨phase, hne, fun hremembered => hbetween (hremembered.resolve_left nofun)⟩
  | getConfigKeyPayloadsError phase upserted =>
    rw [phase] at hlost
    refine ⟨rfl, hne, ?_⟩
    intro hremembered
    rcases hremembered with hupdate | hwriter
    · cases hlost.2 ▸ hupdate
    · exact hbetween hwriter
  | _ => exact hlost.elim

/-! ## Whole runs -/

theorem follows_initial {configs updates : RedisHash Payload} (h : Written rmp configs updates) :
    Follows newV5 rmp ⟨configs, updates, .idle, .booting, .new⟩ := by
  have hstored : State.stored (⟨configs, updates, .idle, .booting, .new⟩ : State Payload) =
      fun _ => none := funext (@new_refines newV5).configs
  refine ⟨?_, ?_, nofun, ?_, fun _ => hstored,
    fun hloaded => hloaded.elim⟩
  · intro id config hheld
    obtain ⟨payload, hp, hdecode⟩ := Option.bind_eq_some_iff.mp hheld
    obtain ⟨other, hother, hid⟩ := h.configs id payload hp
    cases hother.symm.trans hdecode
    exact hid
  · intro id payload hp
    obtain ⟨action, heq, haction⟩ := h.updates id payload hp
    refine ⟨action, heq, .inr (haction.trans ?_)⟩
    show (configs id).isSome ↔ ((configs id).bind rmp.deserializeRmp).isSome
    cases hconfig : configs id with
    | none => rfl
    | some payload =>
      obtain ⟨config, hdecode, -⟩ := h.configs id payload hconfig
      rw [Option.bind_some, hdecode]
      rfl
  · rw [hstored]
    exact new_refines

/-- Nothing is under way: the update hash is empty, the writer is done, and the task is between two
polls. -/
structure State.Quiet (s : State Payload) : Prop where
  updates : ∀ id, s.updates id = none
  writer : s.writer = .idle
  reader : s.reader = .waiting

/-- **No config update is lost.** In every run in which no failing command loses the last notice of
a change the store has not seen, whenever nothing is under way the config store holds exactly the
configs of the config hash, under the same ids. -/
theorem no_config_update_lost (newV5 : NewV5) (rmp : Rmp Payload) (s : State Payload)
    (hs : ((system newV5 rmp).guarded (KeepsNotices rmp)).Reachable s) (hquiet : s.Quiet) :
    s.configStore.Refines newV5 (s.held rmp) := by
  have h : Follows newV5 rmp s := by
    refine hs.invariant ?_ ?_
    · rintro s ⟨configs, updates, hwritten, rfl⟩
      exact follows_initial hwritten
    · intro s a s' h hstep
      exact h.step hstep.1 hstep.2
  have hpending : s.pending rmp = [] := by rw [State.pending, hquiet.reader]
  have hstored : s.stored = s.held rmp := by
    funext id
    rcases h.settled (by rw [hquiet.reader]; trivial) id with heq | hupdate | ⟨action, hbetween⟩
    · rwa [settled_of_pending_nil hpending] at heq
    · rw [hquiet.updates id] at hupdate
      cases hupdate
    · cases hquiet.writer.symm.trans hbetween
  rw [← hstored]
  exact h.store

/-! ## A failed fetch -/

/-- An encoding that keeps the value. -/
def sumRmp : Rmp (CheckConfig ⊕ ConfigUpdate) where
  deserializeRmp := Sum.getLeft?
  updateToVec := .inr
  updateFromSlice := Sum.getRight?
  updateFromSlice_updateToVec _ := rfl

/-- The hash with nothing in it. -/
private theorem hvals_empty : RedisHash.Hvals (fun _ => none : RedisHash Payload) [] :=
  ⟨[], List.nodup_nil, fun _ => ⟨nofun, nofun⟩, rfl⟩

/-- The hash with one field. -/
private theorem hvals_single (id : Uuid) (payload : Payload) :
    RedisHash.Hvals (RedisHash.hset (fun _ => none) id payload) [payload] := by
  refine ⟨[id], List.nodup_singleton _, ?_, ?_⟩
  · intro key
    rw [List.mem_singleton, RedisHash.hset]
    split <;> simp [*]
  · simp [RedisHash.hset]

/-- The configs after the default one is written. -/
private def oneConfig : RedisHash (CheckConfig ⊕ ConfigUpdate) :=
  RedisHash.hset (fun _ => none) CheckConfig.default.subscriptionId (.inl .default)

/-- The notice of the default config. -/
private def noticeOne : ConfigUpdate := ⟨.upsert, CheckConfig.default.subscriptionId⟩

/-- The initial load finds nothing, the default config is written, and a poll consumes its
notice. -/
private theorem reachable_consumed (ok : State _ → Action → Prop)
    (hok : ∀ s a, a ≠ .getConfigKeyPayloadsError → a ≠ .consumeConfigUpdatesErrorApplied → ok s a)
    (newV5 : NewV5) : ((system newV5 sumRmp).guarded ok).Reachable
      ⟨oneConfig, fun _ => none, .idle, .handling [] [noticeOne], .new⟩ := by
  let sys := (system newV5 sumRmp).guarded ok
  have h0 : sys.Reachable ⟨fun _ => none, fun _ => none, .idle, .booting, .new⟩ :=
    .init ⟨_, _, ⟨fun _ _ h => (Option.some_ne_none _ h.symm).elim,
      fun _ _ h => (Option.some_ne_none _ h.symm).elim⟩, rfl⟩
  have h1 : sys.Reachable ⟨fun _ => none, fun _ => none, .idle, .adding [], .new⟩ :=
    h0.step (a := .readConfigs) ⟨hok _ _ nofun nofun, .readConfigs rfl hvals_empty⟩
  have h2 : sys.Reachable ⟨fun _ => none, fun _ => none, .idle, .waiting, .new⟩ :=
    h1.step (a := .allAdded) ⟨hok _ _ nofun nofun, .allAdded rfl⟩
  have h3 : sys.Reachable ⟨oneConfig, fun _ => none, .between noticeOne, .waiting, .new⟩ :=
    h2.step (a := .setConfig) ⟨hok _ _ nofun nofun, .setConfig rfl rfl⟩
  have h4 : sys.Reachable ⟨oneConfig,
      RedisHash.hset (fun _ => none) noticeOne.subscriptionId (.inr noticeOne), .idle, .waiting,
      .new⟩ :=
    h3.step (a := .setUpdate) ⟨hok _ _ nofun nofun, .setUpdate rfl⟩
  have hconsume : Step newV5 sumRmp
      ⟨oneConfig, RedisHash.hset (fun _ => none) noticeOne.subscriptionId (.inr noticeOne), .idle,
        .waiting, .new⟩ .consumeConfigUpdates
      ⟨oneConfig, fun _ => none, .idle, .handling [] [noticeOne], .new⟩ :=
    @Step.consumeConfigUpdates _ _ sumRmp _ [.inr noticeOne] rfl (hvals_single _ _)
  exact h4.step (a := .consumeConfigUpdates) ⟨hok _ _ nofun nofun, hconsume⟩

/-- A lost update: the fetch after the consumed notice fails, and the config is never added. -/
theorem config_update_lost : ¬ ∀ (Payload : Type) (newV5 : NewV5) (rmp : Rmp Payload)
    (s : State Payload), (system newV5 rmp).Reachable s → s.Quiet →
      s.configStore.Refines newV5 (s.held rmp) := by
  intro h
  have hconsumed := (reachable_consumed (fun _ _ => True) (fun _ _ _ _ => trivial)
    fun _ _ => 0).of_guarded
  have hlost : (system (fun _ _ => 0) sumRmp).Reachable
      ⟨oneConfig, fun _ => none, .idle, .waiting, .new⟩ :=
    hconsumed.step (a := .getConfigKeyPayloadsError) (.getConfigKeyPayloadsError rfl nofun)
  have hrefines := (h _ _ _ _ hlost ⟨fun _ => rfl, rfl, rfl⟩).configs
    CheckConfig.default.subscriptionId
  have hheld : (oneConfig CheckConfig.default.subscriptionId).bind sumRmp.deserializeRmp =
    some .default := rfl
  cases ((@new_refines fun _ _ => 0).configs _).symm.trans (hrefines.trans hheld)

/-- A config written after the initial load is added by the next poll. -/
theorem no_config_update_lost_one : ∃ s, ((system (fun _ _ => 0) sumRmp).guarded
      (KeepsNotices sumRmp)).Reachable s ∧ s.Quiet ∧
    s.held sumRmp CheckConfig.default.subscriptionId = some .default ∧
    s.configStore.Refines (fun _ _ => 0) (s.held sumRmp) := by
  have hok : ∀ (s : State (CheckConfig ⊕ ConfigUpdate)) (a : Action),
      a ≠ .getConfigKeyPayloadsError → a ≠ .consumeConfigUpdatesErrorApplied →
      KeepsNotices sumRmp s a := by
    intro s a hfetch hconsume id hloses
    have hlost := hloses.2.2
    split at hlost
    · exact hfetch rfl
    · exact hconsume rfl
    · exact hlost
  obtain ⟨store, hadd, -⟩ := addConfig_refines (@new_refines fun _ _ => 0) 0 .default
  let sys := (system (fun _ _ => 0) sumRmp).guarded (KeepsNotices sumRmp)
  have h5 := reachable_consumed (KeepsNotices sumRmp) hok fun _ _ => 0
  have h6 : sys.Reachable
      ⟨oneConfig, fun _ => none, .idle, .adding [.inl .default], .new⟩ := by
    refine h5.step (a := .getConfigKeyPayloads) ⟨hok _ _ nofun nofun, ?_⟩
    exact @Step.getConfigKeyPayloads _ _ sumRmp _ [noticeOne] [] rfl nofun
      fun _ hmem => (List.not_mem_nil hmem).elim
  have h7 : sys.Reachable ⟨oneConfig, fun _ => none, .idle, .adding [], store⟩ :=
    h6.step (a := .addConfig) ⟨hok _ _ nofun nofun, .addConfig rfl rfl hadd⟩
  have h8 : sys.Reachable ⟨oneConfig, fun _ => none, .idle, .waiting, store⟩ :=
    h7.step (a := .allAdded) ⟨hok _ _ nofun nofun, .allAdded rfl⟩
  have hquiet : State.Quiet (⟨oneConfig, fun _ => none, .idle, .waiting, store⟩ :
      State (CheckConfig ⊕ ConfigUpdate)) := ⟨fun _ => rfl, rfl, rfl⟩
  exact ⟨_, h8, hquiet, rfl, no_config_update_lost _ _ _ h8 hquiet⟩

end RedisConfigProvider

end UptimeChecker
