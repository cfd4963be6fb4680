import UptimeChecker.ConfigWaiter
import UptimeChecker.Laws.RedisConfigProvider

/-!
# The first tick comes after the load

A waiter guesses. It gives up on a partition 10 s after its start if nothing was added, and 500 ms
after the last addition otherwise; with the initial load of other partitions, or a slow redis,
between them, it gives up too early. It guesses right as long as time never reaches that deadline
for a partition with configs still to be added (`InTime`): then the scheduler's first tick finds the
whole load in the config store (`first_tick_after_load`). Where time does reach it, a poll at that
moment lets the scheduler begin (`first_tick_before_load`).
-/

namespace UptimeChecker.ConfigWaiter

open ConfigStore

variable {Payload : Type} {newV5 : NewV5} {rmp : Rmp Payload}
  {provider : RunConfigProvider.Provider} {answers : UInt16 → List Payload} {s s' : State Payload}
  {a : Action}

/-- The configs redis answers with for a partition. -/
def loads (rmp : Rmp Payload) (answers : UInt16 → List Payload) (partition : UInt16) :
    List CheckConfig :=
  (answers partition).filterMap rmp.deserializeRmp

/-- The map some additions make of another one. -/
def addAll (configs : List CheckConfig) (map : ConfigMap) : ConfigMap :=
  configs.foldl (fun m config => (StoreOp.add config).applyMap m) map

/-- The configs of a partition that the initial load will still add. -/
def Loader.unadded (rmp : Rmp Payload) (provider : RunConfigProvider.Provider)
    (answers : UInt16 → List Payload) (loader : Loader Payload) (partition : UInt16) :
    List CheckConfig :=
  match loader with
  | .registering _ => if partition ∈ provider.partitions then loads rmp answers partition else []
  | .reading partitions => if partition ∈ partitions then loads rmp answers partition else []
  | .adding current payloads partitions =>
      if partition = current then payloads.filterMap rmp.deserializeRmp
      else if partition ∈ partitions then loads rmp answers partition
      else []
  | .done => []

/-- The instant a waiter was started at. -/
def Waiter.start : Waiter → Option Instant
  | .spawned start => some start
  | .polling start _ => some start
  | _ => none

/-- The instant from which a waiter gives up. -/
def deadline (start : Instant) (store : ConfigStore) : Nat :=
  match store.getLastUpdate with
  | none => start + bootMaxIdle
  | some lastUpdate => lastUpdate + bootIdleTimeout

/-- Time does not reach the deadline of a partition with configs still to be added. -/
def InTime (rmp : Rmp Payload) (provider : RunConfigProvider.Provider)
    (answers : UInt16 → List Payload) (s : State Payload) : Action → Prop
  | .elapse nanos => ∀ partition start, (s.waiters partition).start = some start →
      s.cancelled partition = false → s.loader.unadded rmp provider answers partition ≠ [] →
      s.now + nanos < deadline start (s.stores partition)
  | _ => True

/-! ## The waiter's test -/

/-- The waiter's test succeeds from the deadline on. -/
theorem bootFinished_iff (start tick : Instant) (store : ConfigStore) :
    bootFinished start tick store.getLastUpdate = true ↔ deadline start store ≤ tick := by
  unfold bootFinished deadline
  cases store.getLastUpdate with
  | none =>
    simp only [Option.isNone_none, Bool.true_and, Option.any_none, Bool.or_false, decide_eq_true_eq]
    unfold bootMaxIdle
    omega
  | some lastUpdate =>
    simp only [Option.isNone_some, Bool.false_and, Option.any_some, Bool.false_or,
      decide_eq_true_eq]
    unfold bootIdleTimeout
    omega

/-! ## What is still to be added -/

/-- The partitions the initial load has not finished. -/
def Loader.rest (provider : RunConfigProvider.Provider) : Loader Payload → List UInt16
  | .registering _ => provider.partitions
  | .reading partitions => partitions
  | .adding current _ partitions => current :: partitions
  | .done => []

theorem unadded_readConfigs (partition current : UInt16) (partitions : List UInt16) :
    (Loader.adding current (answers current) partitions).unadded rmp provider answers partition =
      (Loader.reading (current :: partitions)).unadded rmp provider answers partition := by
  unfold Loader.unadded
  by_cases hsame : partition = current
  · simp [hsame, loads]
  · simp [hsame]

theorem unadded_skipPayload {current : UInt16} {payload : Payload} {payloads : List Payload}
    {partitions : List UInt16} (undecodable : rmp.deserializeRmp payload = none)
    (partition : UInt16) :
    (Loader.adding current payloads partitions).unadded rmp provider answers partition =
      (Loader.adding current (payload :: payloads) partitions).unadded rmp provider answers
        partition := by
  simp only [Loader.unadded, List.filterMap_cons, undecodable]

theorem unadded_addConfig {current : UInt16} {payload : Payload} {payloads : List Payload}
    {partitions : List UInt16} {config : CheckConfig}
    (decodes : rmp.deserializeRmp payload = some config) :
    (Loader.adding current (payload :: payloads) partitions).unadded rmp provider answers current =
      config ::
        (Loader.adding current payloads partitions).unadded rmp provider answers current := by
  simp only [Loader.unadded, List.filterMap_cons, decodes, if_true]

theorem unadded_partitionDone {current : UInt16} {partitions : List UInt16}
    (hnodup : (current :: partitions).Nodup) (partition : UInt16) :
    (Loader.reading partitions).unadded rmp provider answers partition =
      (Loader.adding current [] partitions).unadded rmp provider answers partition := by
  unfold Loader.unadded
  by_cases hsame : partition = current
  · subst hsame
    simp [(List.nodup_cons.mp hnodup).1]
  · simp [hsame]

/-! ## The invariant -/

/-- The configs a config store holds. -/
def contents (store : ConfigStore) : ConfigMap := fun id => store.configs[id]?

/-- No waiter of a partition with configs still to be added has given up, or can at this instant;
and once they are added, the store holds the whole load. -/
structure Booting (newV5 : NewV5) (rmp : Rmp Payload) (provider : RunConfigProvider.Provider)
    (answers : UInt16 → List Payload) (s : State Payload) : Prop where
  nodup : (s.loader.rest provider).Nodup
  store : ∀ partition, (s.stores partition).Refines newV5 (contents (s.stores partition))
  loaded : ∀ partition ∈ provider.partitions,
    addAll (s.loader.unadded rmp provider answers partition)
        (contents (s.stores partition)) =
      addAll (loads rmp answers partition) fun _ => none
  registering : ∀ partitions, s.loader = .registering partitions →
    (∀ partition ∈ partitions, partition ∈ provider.partitions) ∧
      ∀ partition, (s.stores partition).getLastUpdate = none
  owned : ∀ partition, s.waiters partition ≠ .absent → partition ∈ provider.partitions
  inTime : ∀ partition start, (s.waiters partition).start = some start →
    s.cancelled partition = false → s.loader.unadded rmp provider answers partition ≠ [] →
    s.now < deadline start (s.stores partition)
  finished : ∀ partition, s.waiters partition = .finished → s.cancelled partition = false →
    s.loader.unadded rmp provider answers partition = []
  ticked : ∀ partition, s.ticked partition = true → s.cancelled partition = false →
    s.loader.unadded rmp provider answers partition = []

theorem booting_initial {now : Instant} {added : List UInt16}
    (hadded : RunConfigProvider.Lists added fun partition => partition ∈ provider.partitions) :
    Booting newV5 rmp provider answers ⟨now, .registering added, fun _ => .absent, fun _ => .new,
      fun _ => false, fun _ => false, false⟩ := by
  have hcontents : contents .new = fun _ => none := funext (@new_refines newV5).configs
  refine ⟨provider.nodup, ?_, ?_, ?_,
    fun _ h => (h rfl).elim, nofun, nofun, nofun⟩
  · intro _
    rw [hcontents]
    exact new_refines
  · intro partition hpartition
    rw [hcontents, Loader.unadded, if_pos hpartition]
  · intro partitions h
    cases h
    exact ⟨fun partition => (hadded.2 partition).mp, fun _ => rfl⟩

/-- The initial load moves and adds nothing. -/
theorem Booting.load (h : Booting newV5 rmp provider answers s) {loader : Loader Payload}
    (hnodup : (loader.rest provider).Nodup)
    (hregistering : ∀ partitions, loader ≠ .registering partitions)
    (hunadded : ∀ partition, loader.unadded rmp provider answers partition =
      s.loader.unadded rmp provider answers partition) :
    Booting newV5 rmp provider answers { s with loader := loader } where
  nodup := hnodup
  store := h.store
  loaded partition hpartition := by
    rw [hunadded]
    exact h.loaded partition hpartition
  registering partitions hphase := (hregistering partitions hphase).elim
  owned := h.owned
  inTime partition start hstart hcancelled hne :=
    h.inTime partition start hstart hcancelled (hunadded partition ▸ hne)
  finished partition hfinished hcancelled :=
    (hunadded partition).trans (h.finished partition hfinished hcancelled)
  ticked partition hticked hcancelled :=
    (hunadded partition).trans (h.ticked partition hticked hcancelled)

/-- A config is added: the deadline moves. -/
theorem Booting.add (h : Booting newV5 rmp provider answers s) {current : UInt16}
    {payload : Payload} {payloads : List Payload} {partitions : List UInt16} {config : CheckConfig}
    {store : ConfigStore} (phase : s.loader = .adding current (payload :: payloads) partitions)
    (decodes : rmp.deserializeRmp payload = some config)
    (hadd : (s.stores current).addConfig newV5 s.now config = some store) :
    Booting newV5 rmp provider answers
      { s with
        loader := .adding current payloads partitions
        stores := Function.update s.stores current store } := by
  have hun : s.loader.unadded rmp provider answers current =
      config ::
        (Loader.adding current payloads partitions).unadded rmp provider answers current := by
    rw [phase]
    exact unadded_addConfig decodes
  have hother : ∀ partition, partition ≠ current →
      (Loader.adding current payloads partitions).unadded rmp provider answers partition =
        s.loader.unadded rmp provider answers partition := by
    intro partition hne
    rw [phase]
    simp only [Loader.unadded, if_neg hne]
  obtain ⟨store', hadd', hrefines⟩ := addConfig_refines (h.store current) s.now config
  cases hadd'.symm.trans hadd
  have hcontents : contents store =
      (StoreOp.add config).applyMap (contents (s.stores current)) := funext hrefines.configs
  have hdone : ∀ partition, s.loader.unadded rmp provider answers partition = [] →
      (Loader.adding current payloads partitions).unadded rmp provider answers partition = [] := by
    intro partition hnil
    by_cases hsame : partition = current
    · subst hsame
      cases hun.symm.trans hnil
    · rw [hother partition hsame, hnil]
  refine ⟨?_, ?_, ?_, nofun, h.owned, ?_,
    fun partition hfinished hcancelled => hdone _ (h.finished partition hfinished hcancelled),
    fun partition hticked hcancelled => hdone _ (h.ticked partition hticked hcancelled)⟩
  · have hnodup := h.nodup
    rw [phase] at hnodup
    exact hnodup
  · intro partition
    by_cases hsame : partition = current
    · subst hsame
      simp only [Function.update_self]
      rw [hcontents]
      exact hrefines
    · simp only [Function.update_of_ne hsame]
      exact h.store partition
  · intro partition hpartition
    have hloaded := h.loaded partition hpartition
    by_cases hsame : partition = current
    · subst hsame
      rw [hun] at hloaded
      simp only [Function.update_self]
      rw [hcontents, ← hloaded]
      rfl
    · simp only [Function.update_of_ne hsame]
      rw [hother partition hsame]
      exact hloaded
  · intro partition start hstart hcancelled hne
    by_cases hsame : partition = current
    · subst hsame
      simp only [Function.update_self, deadline, getLastUpdate_addConfig hadd]
      exact Nat.lt_add_of_pos_right (by decide)
    · simp only [Function.update_of_ne hsame]
      rw [hother partition hsame] at hne
      exact h.inTime partition start hstart hcancelled hne

/-- The waiter's fields of the invariant, for one partition whose waiter is `waiter`. -/
structure Waits (rmp : Rmp Payload) (provider : RunConfigProvider.Provider)
    (answers : UInt16 → List Payload) (s : State Payload) (partition : UInt16) (waiter : Waiter) :
    Prop where
  owned : waiter ≠ .absent → partition ∈ provider.partitions
  inTime : ∀ start, waiter.start = some start → s.cancelled partition = false →
    s.loader.unadded rmp provider answers partition ≠ [] →
    s.now < deadline start (s.stores partition)
  finished : waiter = .finished → s.cancelled partition = false →
    s.loader.unadded rmp provider answers partition = []

theorem Booting.waits (h : Booting newV5 rmp provider answers s) (partition : UInt16) :
    Waits rmp provider answers s partition (s.waiters partition) :=
  ⟨h.owned partition, h.inTime partition, h.finished partition⟩

/-- One waiter changes. -/
theorem Booting.update (h : Booting newV5 rmp provider answers s) {partition : UInt16}
    {waiter : Waiter} (hwaiter : Waits rmp provider answers s partition waiter) :
    Booting newV5 rmp provider answers
      { s with waiters := Function.update s.waiters partition waiter } := by
  have hall : ∀ key, Waits rmp provider answers s key
      (Function.update s.waiters partition waiter key) := by
    apply (Function.forall_update_iff s.waiters (Waits rmp provider answers s)).mpr
    exact ⟨hwaiter, fun key _ => h.waits key⟩
  exact { h with
    owned := fun key => (hall key).owned
    inTime := fun key => (hall key).inTime
    finished := fun key => (hall key).finished }

/-- A waiter moves: it keeps its start, and gives up rightly. -/
theorem Booting.wait (h : Booting newV5 rmp provider answers s) {partition : UInt16}
    {waiter : Waiter} (hpresent : s.waiters partition ≠ .absent)
    (hstart : ∀ start, waiter.start = some start → (s.waiters partition).start = some start)
    (hfinished : waiter = .finished → s.cancelled partition = false →
      s.loader.unadded rmp provider answers partition = []) :
    Booting newV5 rmp provider answers
      { s with waiters := Function.update s.waiters partition waiter } := by
  apply h.update
  exact ⟨fun _ => h.owned partition hpresent,
    fun start hs => h.inTime partition start (hstart start hs), hfinished⟩

/-- A partition is registered: its deadline is still to come. -/
theorem Booting.register (h : Booting newV5 rmp provider answers s) {partition : UInt16}
    {partitions : List UInt16} (phase : s.loader = .registering (partition :: partitions)) :
    Booting newV5 rmp provider answers
      { s with
        loader := .registering partitions
        waiters := Function.update s.waiters partition (.spawned s.now) } := by
  obtain ⟨howned, hfresh⟩ := h.registering _ phase
  have hwaiter : Waits rmp provider answers s partition (.spawned s.now) := by
    refine ⟨fun _ => howned partition List.mem_cons_self, ?_, nofun⟩
    intro start hs _ _
    cases hs
    simp only [deadline, hfresh partition]
    exact Nat.lt_add_of_pos_right (by decide)
  have hupdate := h.update hwaiter
  have hunadded : ∀ key, (Loader.registering partitions).unadded rmp provider answers key =
      s.loader.unadded rmp provider answers key := by
    intro key
    rw [phase]
    rfl
  refine ⟨provider.nodup, h.store, ?_, ?_, hupdate.owned, ?_, ?_, ?_⟩
  · intro key hkey
    rw [hunadded]
    exact h.loaded key hkey
  · intro rest hrest
    cases hrest
    exact ⟨fun key hkey => howned key (List.mem_cons_of_mem _ hkey), hfresh⟩
  · intro key start
    rw [hunadded]
    exact hupdate.inTime key start
  · intro key
    rw [hunadded]
    exact hupdate.finished key
  · intro key
    rw [hunadded]
    exact h.ticked key

/-- A poll that gives up finds no config still to be added. -/
theorem Booting.poll (h : Booting newV5 rmp provider answers s) {partition : UInt16}
    {start tick : Instant} (phase : s.waiters partition = .polling start tick)
    (due : tick ≤ s.now)
    (hboot : bootFinished start tick (s.stores partition).getLastUpdate = true)
    (hcancelled : s.cancelled partition = false) :
    s.loader.unadded rmp provider answers partition = [] := by
  by_contra hne
  have hlt := h.inTime partition start (by rw [phase]; rfl) hcancelled hne
  have hle := (bootFinished_iff start tick (s.stores partition)).mp hboot
  exact Nat.lt_irrefl _ (Nat.lt_of_lt_of_le hlt (Nat.le_trans hle due))

theorem Booting.step (h : Booting newV5 rmp provider answers s)
    (hok : InTime rmp provider answers s a) (hstep : Step newV5 rmp provider answers s a s') :
    Booting newV5 rmp provider answers s' := by
  cases hstep with
  | elapse nanos => exact { h with inTime := hok }
  | register phase => exact h.register phase
  | connect phase =>
    refine h.load provider.nodup nofun fun partition => ?_
    rw [phase]
    rfl
  | connectError phase => exact { h with }
  | readConfigs phase =>
    have hnodup := h.nodup
    rw [phase] at hnodup
    refine h.load hnodup nofun fun partition => ?_
    rw [phase, unadded_readConfigs]
  | readConfigsError phase => exact { h with }
  | addConfig phase decodes hadd => exact h.add phase decodes hadd
  | skipPayload phase undecodable =>
    have hnodup := h.nodup
    rw [phase] at hnodup
    refine h.load hnodup nofun fun partition => ?_
    rw [phase, unadded_skipPayload undecodable]
  | partitionDone phase =>
    have hnodup := h.nodup
    rw [phase] at hnodup
    refine h.load (List.nodup_cons.mp hnodup).2 nofun fun partition => ?_
    rw [phase, unadded_partitionDone hnodup]
  | loaded phase =>
    refine h.load List.nodup_nil nofun fun partition => ?_
    rw [phase]
    rfl
  | cancel partition =>
    have hcancelled : ∀ key, Function.update s.cancelled partition true key = false →
        s.cancelled key = false := by
      intro key hkey
      by_cases hsame : key = partition
      · rw [hsame, Function.update_self] at hkey
        cases hkey
      · rwa [Function.update_of_ne hsame] at hkey
    exact { h with
      inTime := fun key start hs hc => h.inTime key start hs (hcancelled key hc)
      finished := fun key hf hc => h.finished key hf (hcancelled key hc)
      ticked := fun key ht hc => h.ticked key ht (hcancelled key hc) }
  | startPolling phase =>
    refine h.wait (by rw [phase]; nofun) ?_ nofun
    intro begun hbegun
    rw [phase]
    exact hbegun
  | @poll partition start tick phase due =>
    refine h.wait (by rw [phase]; nofun) ?_ ?_
    · intro begun hbegun
      rw [phase]
      split at hbegun
      · cases hbegun
      · exact hbegun
    · intro hfinished hcancelled
      split at hfinished
      · exact h.poll phase due ‹_› hcancelled
      · cases hfinished
  | exit phase stop =>
    refine h.wait (by rw [phase]; nofun) nofun ?_
    intro _ hcancelled
    cases stop.symm.trans hcancelled
  | @firstTick partition phase =>
    refine { h with ticked := fun key ht hc => ?_ }
    by_cases hsame : key = partition
    · subst hsame
      exact h.finished key phase hc
    · simp only [Function.update_of_ne hsame] at ht
      exact h.ticked key ht hc

/-- **A partition is not scheduled before its configs are loaded**, in every run in which time does
not reach the deadline of a partition with configs still to be added: once the scheduler of a
partition has begun to tick, and shutdown was not requested, nothing is left to be added for it, and
its config store held the whole load. -/
theorem first_tick_after_load (newV5 : NewV5) (rmp : Rmp Payload)
    (provider : RunConfigProvider.Provider) (answers : UInt16 → List Payload) (s : State Payload)
    (hs : ((system newV5 rmp provider answers).guarded (InTime rmp provider answers)).Reachable s)
    (partition : UInt16) (howned : partition ∈ provider.partitions)
    (hticked : s.ticked partition = true) (hcancelled : s.cancelled partition = false) :
    s.loader.unadded rmp provider answers partition = [] ∧
      (s.stores partition).Refines newV5 (addAll (loads rmp answers partition) fun _ => none) := by
  have h : Booting newV5 rmp provider answers s := by
    refine hs.invariant ?_ ?_
    · rintro s ⟨now, added, hadded, rfl⟩
      exact booting_initial hadded
    · intro s a s' h hstep
      exact h.step hstep.1 hstep.2.2
  have hnil := h.ticked partition hticked hcancelled
  refine ⟨hnil, ?_⟩
  rw [← h.loaded partition howned, hnil]
  exact h.store partition

/-- Where time reaches the deadline of a partition whose configs are not all added, a waiter whose
task begins to run at that moment lets the scheduler begin. -/
theorem first_tick_before_load {partition : UInt16} {start : Instant}
    (hs : (system newV5 rmp provider answers).Reachable s) (hpanicked : s.panicked = false)
    (phase : s.waiters partition = .spawned start) (hcancelled : s.cancelled partition = false)
    (hne : s.loader.unadded rmp provider answers partition ≠ [])
    (hlate : deadline start (s.stores partition) ≤ s.now) :
    ∃ s', (system newV5 rmp provider answers).Reachable s' ∧ s'.ticked partition = true ∧
      s'.cancelled partition = false ∧ s'.loader.unadded rmp provider answers partition ≠ [] := by
  have hboot := (bootFinished_iff start s.now (s.stores partition)).mpr hlate
  have hpolling := hs.step ⟨hpanicked, .startPolling phase⟩
  have hpoll := hpolling.step
    ⟨hpanicked, .poll (Function.update_self _ _ _) (Nat.le_refl _)⟩
  have htick := hpoll.step (a := .firstTick)
    ⟨hpanicked, @Step.firstTick _ _ _ _ _ _ partition (by
      simp only [Function.update_self]
      exact if_pos hboot)⟩
  exact ⟨_, htick, Function.update_self _ _ _, hcancelled, hne⟩

/-! ## Two loads -/

open RedisConfigProvider (sumRmp)
open RunConfigProvider (Provider Lists)

/-- Redis answers with the default config for partition 1, and with nothing for the others. -/
private def answersOne : UInt16 → List (CheckConfig ⊕ ConfigUpdate) :=
  fun partition => if partition = 1 then [.inl .default] else []

/-- A provider that owns partitions 0 and 1. -/
private def ownsBoth : Provider := ⟨[0, 1], by decide, false⟩

/-- The waiters of both partitions, spawned at the start. -/
private def bothSpawned : UInt16 → Waiter :=
  Function.update (Function.update (fun _ => .absent) 0 (.spawned 0)) 1 (.spawned 0)

/-- Reading partition 0 takes its time; the waiter of partition 1 has polled `n` times, up to ten
seconds. -/
private theorem reachable_polls (newV5 : NewV5) : ∀ n : Nat, n ≤ 100 →
    (system newV5 sumRmp ownsBoth answersOne).Reachable
      ⟨n * pollPeriod, .reading [0, 1], Function.update bothSpawned 1 (.polling 0 (n * pollPeriod)),
        fun _ => .new, fun _ => false, fun _ => false, false⟩ := by
  let sys := system newV5 sumRmp ownsBoth answersOne
  intro n hn
  induction n with
  | zero =>
    have h0 : sys.Reachable ⟨0, .registering [0, 1], fun _ => .absent, fun _ => .new,
        fun _ => false, fun _ => false, false⟩ :=
      .init ⟨0, [0, 1], ⟨by decide, fun _ => Iff.rfl⟩, rfl⟩
    have h1 : sys.Reachable ⟨0, .registering [1],
        Function.update (fun _ => .absent) 0 (.spawned 0), fun _ => .new, fun _ => false,
        fun _ => false, false⟩ :=
      h0.step (a := .register) ⟨rfl, .register rfl⟩
    have h2 : sys.Reachable ⟨0, .registering [], bothSpawned, fun _ => .new, fun _ => false,
        fun _ => false, false⟩ :=
      h1.step (a := .register) ⟨rfl, .register rfl⟩
    have h3 : sys.Reachable ⟨0, .reading [0, 1], bothSpawned, fun _ => .new, fun _ => false,
        fun _ => false, false⟩ :=
      h2.step (a := .connect) ⟨rfl, .connect rfl⟩
    have hspawned : bothSpawned 1 = .spawned 0 := Function.update_self _ _ _
    rw [Nat.zero_mul]
    exact h3.step (a := .startPolling) ⟨rfl, .startPolling hspawned⟩
  | succ n ih =>
    have hpoll := (ih (Nat.le_of_succ_le hn)).step (a := .poll)
      ⟨rfl, .poll (Function.update_self _ _ _) (Nat.le_refl _)⟩
    have hearly : bootFinished 0 (n * pollPeriod) ConfigStore.new.getLastUpdate = false := by
      rw [Bool.eq_false_iff, Ne, bootFinished_iff]
      show ¬ (0 : Nat) + bootMaxIdle ≤ n * pollPeriod
      unfold bootMaxIdle pollPeriod
      omega
    rw [Function.update_idem, hearly, if_neg Bool.false_ne_true] at hpoll
    rw [Nat.succ_mul]
    exact hpoll.step (a := .elapse pollPeriod) ⟨rfl, .elapse pollPeriod⟩

/-- Reading partition 0 takes ten seconds, and the scheduler of partition 1 begins without its
config. -/
theorem first_tick_without_configs : ¬ ∀ (Payload : Type) (newV5 : NewV5) (rmp : Rmp Payload)
    (provider : Provider) (answers : UInt16 → List Payload) (s : State Payload),
    (system newV5 rmp provider answers).Reachable s → ∀ partition ∈ provider.partitions,
      s.ticked partition = true → s.cancelled partition = false →
      s.loader.unadded rmp provider answers partition = [] ∧
        (s.stores partition).Refines newV5
          (addAll (loads rmp answers partition) fun _ => none) := by
  intro h
  have hpoll := (reachable_polls (fun _ _ => 0) 100 (Nat.le_refl _)).step (a := .poll)
    ⟨rfl, .poll (Function.update_self _ _ _) (Nat.le_refl _)⟩
  have hlate : bootFinished 0 (100 * pollPeriod) ConfigStore.new.getLastUpdate = true := by
    decide
  rw [Function.update_idem, hlate, if_pos rfl] at hpoll
  have htick := hpoll.step (a := .firstTick)
    ⟨rfl, @Step.firstTick _ _ _ _ _ _ 1 (by simp only [Function.update_self])⟩
  have hnil := (h _ _ _ _ _ _ htick 1 (by decide) (by simp only [Function.update_self]) rfl).1
  cases hnil

/-- Partition 1 is loaded at once, and ticks half a second later. -/
theorem first_tick_after_load_one : ∃ s,
    ((system (fun _ _ => 0) sumRmp ⟨[1], by decide, false⟩ answersOne).guarded
      (InTime sumRmp ⟨[1], by decide, false⟩ answersOne)).Reachable s ∧
    s.ticked 1 = true ∧ loads sumRmp answersOne 1 = [.default] ∧
    s.loader.unadded sumRmp ⟨[1], by decide, false⟩ answersOne 1 = [] ∧
    (s.stores 1).Refines (fun _ _ => 0) (addAll (loads sumRmp answersOne 1) fun _ => none) := by
  obtain ⟨store, hadd, -⟩ := addConfig_refines (@new_refines fun _ _ => 0) 0 .default
  let provider : Provider := ⟨[1], by decide, false⟩
  let sys := (system (fun _ _ => 0) sumRmp provider answersOne).guarded
    (InTime sumRmp provider answersOne)
  let waiters : UInt16 → Waiter := Function.update (fun _ => .absent) 1 (.spawned 0)
  let stores : UInt16 → ConfigStore := Function.update (fun _ => .new) 1 store
  have h0 : sys.Reachable ⟨0, .registering [1], fun _ => .absent, fun _ => .new,
      fun _ => false, fun _ => false, false⟩ :=
    .init ⟨0, [1], ⟨by decide, fun _ => Iff.rfl⟩, rfl⟩
  have h1 : sys.Reachable ⟨0, .registering [], waiters, fun _ => .new, fun _ => false,
      fun _ => false, false⟩ :=
    h0.step (a := .register) ⟨trivial, rfl, .register rfl⟩
  have h2 : sys.Reachable ⟨0, .reading [1], waiters, fun _ => .new, fun _ => false,
      fun _ => false, false⟩ :=
    h1.step (a := .connect) ⟨trivial, rfl, .connect rfl⟩
  have h3 : sys.Reachable ⟨0, .adding 1 [.inl .default] [], waiters, fun _ => .new,
      fun _ => false, fun _ => false, false⟩ :=
    h2.step (a := .readConfigs) ⟨trivial, rfl, .readConfigs rfl⟩
  have h4 : sys.Reachable ⟨0, .adding 1 [] [], waiters, stores, fun _ => false,
      fun _ => false, false⟩ :=
    h3.step (a := .addConfig) ⟨trivial, rfl, .addConfig rfl rfl hadd⟩
  have h5 : sys.Reachable ⟨0, .reading [], waiters, stores, fun _ => false, fun _ => false,
      false⟩ :=
    h4.step (a := .partitionDone) ⟨trivial, rfl, .partitionDone rfl⟩
  have h6 : sys.Reachable ⟨0, .done, waiters, stores, fun _ => false, fun _ => false, false⟩ :=
    h5.step (a := .loaded) ⟨trivial, rfl, .loaded rfl⟩
  have h7 : sys.Reachable ⟨bootIdleTimeout, .done, waiters, stores, fun _ => false,
      fun _ => false, false⟩ := by
    refine h6.step (a := .elapse bootIdleTimeout) ⟨?_, rfl, ?_⟩
    · intro partition start _ _ hne
      exact (hne rfl).elim
    · have helapse := @Step.elapse _ (fun _ _ => 0) sumRmp provider answersOne
        ⟨0, .done, waiters, stores, fun _ => false, fun _ => false, false⟩ bootIdleTimeout
      rwa [Nat.zero_add] at helapse
  have hspawned : waiters 1 = .spawned 0 := Function.update_self _ _ _
  have h8 : sys.Reachable ⟨bootIdleTimeout, .done,
      Function.update waiters 1 (.polling 0 bootIdleTimeout), stores, fun _ => false,
      fun _ => false, false⟩ :=
    h7.step (a := .startPolling) ⟨trivial, rfl, .startPolling hspawned⟩
  have hlate : bootFinished 0 bootIdleTimeout (stores 1).getLastUpdate = true := by
    rw [show stores 1 = store from Function.update_self _ _ _, getLastUpdate_addConfig hadd]
    decide
  have h9 : sys.Reachable ⟨bootIdleTimeout, .done, Function.update waiters 1 .finished, stores,
      fun _ => false, fun _ => false, false⟩ := by
    have hpoll := h8.step (a := Action.poll)
      ⟨trivial, rfl, @Step.poll _ _ _ _ _ _ 1 0 bootIdleTimeout
        (by simp only [Function.update_self]) (Nat.le_refl _)⟩
    simp only [Function.update_idem, hlate, if_true] at hpoll
    exact hpoll
  have h10 : sys.Reachable ⟨bootIdleTimeout, .done, Function.update waiters 1 .finished, stores,
      fun _ => false, Function.update (fun _ => false) 1 true, false⟩ :=
    h9.step (a := .firstTick)
      ⟨trivial, rfl, @Step.firstTick _ _ _ _ _ _ 1 (by simp only [Function.update_self])⟩
  obtain ⟨hnil, hrefines⟩ :=
    first_tick_after_load _ _ _ _ _ h10 1 (by decide) (by simp only [Function.update_self]) rfl
  exact ⟨_, h10, by simp only [Function.update_self], rfl, hnil, hrefines⟩

end UptimeChecker.ConfigWaiter
