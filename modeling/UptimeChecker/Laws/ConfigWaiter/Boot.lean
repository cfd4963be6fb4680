import Mathlib.Algebra.Order.BigOperators.Group.List
import Mathlib.Algebra.Order.Group.Nat
import UptimeChecker.Laws.ConfigWaiter
import UptimeChecker.Lib.Run

/-!
# Booting comes to an end

Once the initial load is over only updates change the config stores. An update puts the deadline of
its partition off, and every poll brings the waiter nearer to it. So by any moment the waiters have
taken no more steps than there are periods up to the deadlines that stand then, however late their
tasks run; and as long as one of them has not finished, it can go on (`boot_comes_to_an_end`).
-/

namespace UptimeChecker.ConfigWaiter

variable {Payload : Type} {newV5 : NewV5} {rmp : Rmp Payload}
  {provider : RunConfigProvider.Provider} {answers : UInt16 → List Payload} {s s' : State Payload}

/-! ## Who is waiting -/

/-- The partitions that are still to be registered. -/
def Loader.unregistered : Loader Payload → List UInt16
  | .registering partitions => partitions
  | _ => []

/-- Each partition has a waiter from its registration on, and the load panics before it is over, if
it does. -/
structure Registered (provider : RunConfigProvider.Provider) (s : State Payload) : Prop where
  registered : ∀ partition, partition ∈ provider.partitions ↔
    partition ∈ s.loader.unregistered ∨ s.waiters partition ≠ .absent
  panicked : s.panicked = true → s.loader ≠ .done

/-- The initial load moves on behind the registration. -/
private theorem Registered.load (h : Registered provider s) {loader : Loader Payload}
    (hbefore : s.loader.unregistered = []) (hafter : loader.unregistered = [])
    (hpanicked : s.panicked = false) : Registered provider { s with loader := loader } where
  registered partition := by
    rw [hafter, ← hbefore]
    exact h.registered partition
  panicked hp := by cases hpanicked.symm.trans hp

/-- A waiter that is there moves on. -/
private theorem Registered.wait (h : Registered provider s) {partition : UInt16} {waiter : Waiter}
    (hpresent : s.waiters partition ≠ .absent) (hwaiter : waiter ≠ .absent) :
    Registered provider { s with waiters := Function.update s.waiters partition waiter } := by
  refine ⟨?_, h.panicked⟩
  intro key
  by_cases hsame : key = partition
  · subst hsame
    simp only [Function.update_self]
    exact (h.registered key).trans (or_congr Iff.rfl (iff_of_true hpresent hwaiter))
  · simp only [Function.update_of_ne hsame]
    exact h.registered key

private theorem Registered.step {a : Action} (h : Registered provider s)
    (hpanicked : s.panicked = false) (hstep : Step newV5 rmp provider answers s a s') :
    Registered provider s' := by
  cases hstep with
  | elapse | cancel | firstTick => exact { h with }
  | @register partition partitions phase =>
    refine ⟨?_, fun hp => by cases hpanicked.symm.trans hp⟩
    intro key
    have hregistered := h.registered key
    rw [phase] at hregistered
    by_cases hsame : key = partition
    · subst hsame
      simp only [Function.update_self]
      exact iff_of_true (hregistered.mpr (.inl List.mem_cons_self)) (.inr nofun)
    · simp only [Function.update_of_ne hsame]
      refine hregistered.trans (or_congr ?_ Iff.rfl)
      exact (List.mem_cons.trans (or_iff_right hsame))
  | connect phase | readConfigs phase | skipPayload phase | partitionDone phase | loaded phase =>
    exact h.load (by rw [phase]; rfl) rfl hpanicked
  | connectError phase | readConfigsError phase =>
    exact { h with panicked := fun _ => by rw [phase]; nofun }
  | @addConfig current payload payloads partitions config store phase =>
    have hload : Registered provider { s with loader := .adding current payloads partitions } :=
      h.load (by rw [phase]; rfl) rfl hpanicked
    exact { hload with }
  | startPolling phase => exact h.wait (by rw [phase]; nofun) nofun
  | poll phase due =>
    refine h.wait (by rw [phase]; nofun) ?_
    split <;> nofun
  | exit phase stop => exact h.wait (by rw [phase]; nofun) nofun

/-- An update is no business of the load or the waiters. -/
private theorem Registered.monitoredStep {a : MonitoredAction} (h : Registered provider s)
    (hstep : (monitored newV5 rmp provider answers).step s a s') : Registered provider s' := by
  obtain ⟨hpanicked, hstep⟩ := hstep
  cases hstep with
  | boot hboot => exact h.step hpanicked hboot
  | removeConfig | addConfig => exact { h with }

theorem registered_of_reachable (hs : (monitored newV5 rmp provider answers).Reachable s) :
    Registered provider s := by
  refine hs.invariant ?_ ?_
  · rintro s ⟨now, added, hadded, rfl⟩
    refine ⟨?_, nofun⟩
    intro partition
    exact (hadded.2 partition).symm.trans (or_iff_left fun h => h rfl).symm
  · intro s a s' h hstep
    exact h.monitoredStep hstep

/-! ## The steps that are left -/

/-- The steps of the waiters. -/
def MonitoredAction.isWaiters : MonitoredAction → Bool
  | .boot .startPolling | .boot .poll | .boot .exit => true
  | _ => false

/-- The periods from an instant up to another one, the last of them not whole. -/
def periods (start stop : Nat) : Nat := (stop - start + (pollPeriod - 1)) / pollPeriod

/-- The steps a waiter has left, if its store stays as it is: a poll for each period up to its
deadline, and one more. Before that its task has to begin to run. -/
def stepsLeft (now : Instant) (store : ConfigStore) : Waiter → Nat
  | .absent => 0
  | .spawned start => periods now (deadline start store) + 2
  | .polling start tick => periods tick (deadline start store) + 1
  | .finished => 0

/-- The steps that all waiters have left, if the stores stay as they are. -/
def bootLeft (provider : RunConfigProvider.Provider) (stores : UInt16 → ConfigStore)
    (s : State Payload) : Nat :=
  (provider.partitions.map fun partition =>
    stepsLeft s.now (stores partition) (s.waiters partition)).sum

/-- Updates may make these stores of the ones there are. -/
def Ahead (s : State Payload) (stores : UInt16 → ConfigStore) : Prop :=
  ∀ partition, stores partition = s.stores partition ∨
    ∃ lastUpdate, (stores partition).getLastUpdate = some lastUpdate ∧ s.now ≤ lastUpdate

variable {stores : UInt16 → ConfigStore}

/-- What lies ahead of an update lay ahead before it. -/
private theorem Ahead.of_update {partition : UInt16} {store : ConfigStore}
    (hstore : store = s.stores partition ∨ store.getLastUpdate = some s.now)
    (h : Ahead { s with stores := Function.update s.stores partition store } stores) :
    Ahead s stores := by
  intro key
  rcases h key with hkey | hkey
  · by_cases hsame : key = partition
    · subst hsame
      simp only [Function.update_self] at hkey
      rcases hstore with hstore | hstore
      · exact .inl (hkey.trans hstore)
      · exact .inr ⟨s.now, by rw [hkey, hstore], Nat.le_refl _⟩
    · simp only [Function.update_of_ne hsame] at hkey
      exact .inl hkey
  · exact .inr hkey

/-- Later there are fewer periods up to an instant. -/
private theorem periods_le_of_le {start start' stop : Nat} (h : start ≤ start') :
    periods start' stop ≤ periods start stop :=
  Nat.div_le_div_right (Nat.add_le_add_right (Nat.sub_le_sub_left h stop) _)

/-- One period later there is one less. -/
private theorem periods_add_pollPeriod {start stop : Nat} (h : start < stop) :
    periods (start + pollPeriod) stop < periods start stop := by
  unfold periods pollPeriod
  omega

/-- A poll brings the deadline one period nearer, the one ahead too, or is the last. -/
private theorem stepsLeft_poll {partition : UInt16} (hahead : Ahead s stores) {tick : Instant}
    (start : Instant) (hdue : tick ≤ s.now) :
    stepsLeft s.now (stores partition)
        (if bootFinished start tick (s.stores partition).getLastUpdate then .finished
          else .polling start (tick + pollPeriod)) <
      stepsLeft s.now (stores partition) (.polling start tick) := by
  split
  · exact Nat.succ_pos _
  · rename_i hboot
    rw [bootFinished_iff, Nat.not_le] at hboot
    refine Nat.succ_lt_succ (periods_add_pollPeriod ?_)
    rcases hahead partition with hsame | ⟨lastUpdate, hlast, hnow⟩
    · rw [hsame]
      exact hboot
    · have hdeadline : deadline start (stores partition) = lastUpdate + bootIdleTimeout := by
        rw [deadline, hlast]
      rw [hdeadline]
      exact Nat.lt_of_le_of_lt (Nat.le_trans hdue hnow) (Nat.lt_add_of_pos_right (by decide))

/-- The steps of one waiter are steps of all. -/
private theorem bootLeft_update {partition : UInt16} {waiter : Waiter}
    (howned : partition ∈ provider.partitions)
    (hless : stepsLeft s.now (stores partition) waiter <
      stepsLeft s.now (stores partition) (s.waiters partition)) :
    bootLeft provider stores { s with waiters := Function.update s.waiters partition waiter } <
      bootLeft provider stores s := by
  refine List.sum_lt_sum _ _ ?_ ⟨partition, howned, ?_⟩
  · intro key _
    by_cases hsame : key = partition
    · subst hsame
      simp only [Function.update_self]
      exact Nat.le_of_lt hless
    · simp only [Function.update_of_ne hsame]
      exact Nat.le_refl _
  · simp only [Function.update_self]
    exact hless

/-- Time brings the deadlines nearer. -/
private theorem bootLeft_elapse (nanos : Nat) :
    bootLeft provider stores { s with now := s.now + nanos } ≤ bootLeft provider stores s := by
  refine List.sum_le_sum ?_
  intro partition _
  dsimp only
  cases s.waiters partition with
  | spawned start => exact Nat.add_le_add_right (periods_le_of_le (Nat.le_add_right _ _)) 2
  | absent | polling | finished => exact Nat.le_refl _

/-- When the load is over, every step of a waiter leaves one less, whatever lies ahead. -/
private theorem bootLeft_step {a : Action} (h : Registered provider s) (hdone : s.loader = .done)
    (hstep : Step newV5 rmp provider answers s a s') (hahead : Ahead s' stores) :
    Ahead s stores ∧ bootLeft provider stores s' + (MonitoredAction.boot a).isWaiters.toNat ≤
      bootLeft provider stores s := by
  have howned : ∀ partition, s.waiters partition ≠ .absent → partition ∈ provider.partitions :=
    fun partition hpresent => (h.registered partition).mpr (.inr hpresent)
  cases hstep with
  | elapse nanos =>
    refine ⟨?_, bootLeft_elapse nanos⟩
    intro partition
    exact (hahead partition).imp_right fun ⟨lastUpdate, hlast, hnow⟩ =>
      ⟨lastUpdate, hlast, Nat.le_trans (Nat.le_add_right _ _) hnow⟩
  | cancel | firstTick => exact ⟨hahead, Nat.le_refl _⟩
  | register phase | connect phase | connectError phase | readConfigs phase
  | readConfigsError phase | addConfig phase | skipPayload phase | partitionDone phase
  | loaded phase => cases hdone.symm.trans phase
  | @startPolling partition start phase =>
    refine ⟨hahead, bootLeft_update (howned partition (by rw [phase]; nofun)) ?_⟩
    rw [phase]
    exact Nat.lt_succ_self _
  | @poll partition start tick phase due =>
    refine ⟨hahead, bootLeft_update (howned partition (by rw [phase]; nofun)) ?_⟩
    rw [phase]
    exact stepsLeft_poll hahead start due
  | @exit partition start tick phase stop =>
    refine ⟨hahead, bootLeft_update (howned partition (by rw [phase]; nofun)) ?_⟩
    rw [phase]
    exact Nat.succ_pos _

/-- An update takes no step of a waiter: what it makes of the store lay ahead. -/
private theorem bootLeft_monitoredStep {a : MonitoredAction} (h : Registered provider s)
    (hdone : s.loader = .done) (hstep : (monitored newV5 rmp provider answers).step s a s')
    (hahead : Ahead s' stores) :
    Ahead s stores ∧ bootLeft provider stores s' + a.isWaiters.toNat ≤
      bootLeft provider stores s := by
  obtain ⟨-, hstep⟩ := hstep
  cases hstep with
  | boot hboot => exact bootLeft_step h hdone hboot hahead
  | removeConfig phase readwrite owned hremove =>
    exact ⟨hahead.of_update (ConfigStore.eq_or_getLastUpdate_removeConfig hremove),
      Nat.le_refl _⟩
  | addConfig phase readwrite owned hadd =>
    exact ⟨hahead.of_update (.inr (ConfigStore.getLastUpdate_addConfig hadd)), Nat.le_refl _⟩

/-- The load stays over. -/
private theorem done_monitoredStep {a : MonitoredAction} (hdone : s.loader = .done)
    (hstep : (monitored newV5 rmp provider answers).step s a s') : s'.loader = .done := by
  obtain ⟨-, hstep⟩ := hstep
  cases hstep with
  | removeConfig | addConfig => exact hdone
  | boot hboot =>
    cases hboot with
    | register phase | connect phase | readConfigs phase | addConfig phase | skipPayload phase
    | partitionDone phase => cases hdone.symm.trans phase
    | loaded => rfl
    | _ => exact hdone

/-- A waiter that has not finished can move, once it is due. -/
private theorem exists_waiter_step (h : Registered provider s) (hdone : s.loader = .done)
    {partition : UInt16} (howned : partition ∈ provider.partitions)
    (hwaits : s.waiters partition ≠ .finished) :
    ∃ nanos a s'', (MonitoredAction.boot a).isWaiters = true ∧
      Step newV5 rmp provider answers { s with now := s.now + nanos } a s'' := by
  cases hphase : s.waiters partition with
  | absent =>
    rcases (h.registered partition).mp howned with hunregistered | hpresent
    · rw [hdone] at hunregistered
      cases hunregistered
    · exact absurd hphase hpresent
  | spawned start => exact ⟨0, .startPolling, _, rfl, .startPolling hphase⟩
  | polling start tick =>
    exact ⟨tick - s.now, .poll, _, rfl, .poll hphase (Nat.sub_le_iff_le_add'.mp (Nat.le_refl _))⟩
  | finished => exact absurd hphase hwaits

/-- Once the initial load is over, the waiters take in any run only so many steps as are left with
the stores the run ends with, however late their tasks run and whatever is updated meanwhile; and
until all of them have finished, one of them can take a step as soon as time has passed. -/
theorem boot_comes_to_an_end {labels : List MonitoredAction}
    (hs : (monitored newV5 rmp provider answers).Reachable s) (hdone : s.loader = .done)
    (hrun : (monitored newV5 rmp provider answers).Run s labels s') :
    labels.countP MonitoredAction.isWaiters + bootLeft provider s'.stores s' ≤
        bootLeft provider s'.stores s ∧
      ((∀ partition ∈ provider.partitions, s'.waiters partition = .finished) ∨
        ∃ nanos s₁ a s'',
          (monitored newV5 rmp provider answers).step s' (.boot (.elapse nanos)) s₁ ∧
          a.isWaiters = true ∧ (monitored newV5 rmp provider answers).step s₁ a s'') := by
  have hkeeps : ∀ {s a s'}, Registered provider s ∧ s.loader = .done →
      (monitored newV5 rmp provider answers).step s a s' →
      Registered provider s' ∧ s'.loader = .done := fun ⟨h, hdone⟩ hstep =>
    ⟨h.monitoredStep hstep, done_monitoredStep hdone hstep⟩
  have hstart : Registered provider s ∧ s.loader = .done := ⟨registered_of_reachable hs, hdone⟩
  have hcount := hrun.countP_add_rank_le_ahead (bootLeft provider) MonitoredAction.isWaiters Ahead
    hkeeps (fun ⟨h, hdone⟩ => bootLeft_monitoredStep h hdone) hstart (t := s'.stores)
    fun _ => .inl rfl
  obtain ⟨hregistered, hdone'⟩ := hrun.invariant hkeeps hstart
  refine ⟨hcount, ?_⟩
  have hpanicked : s'.panicked = false := by
    cases hp : s'.panicked with
    | false => rfl
    | true => exact absurd hdone' (hregistered.panicked hp)
  by_cases hall : ∀ partition ∈ provider.partitions, s'.waiters partition = .finished
  · exact .inl hall
  · push Not at hall
    obtain ⟨partition, howned, hwaits⟩ := hall
    obtain ⟨nanos, a, s'', hown, hstep⟩ := @exists_waiter_step _ newV5 rmp provider answers _
      hregistered hdone' _ howned hwaits
    exact .inr ⟨nanos, _, .boot a, s'', ⟨hpanicked, .boot (.elapse nanos)⟩, hown, hpanicked,
      .boot hstep⟩

/-- Nothing is loaded for the one partition, but a config is added while its waiter begins: with the
deadline 500 ms off there were seven steps, and after two of them there are five. -/
theorem boot_comes_to_an_end_one : ∃ s s' : State (CheckConfig ⊕ ConfigUpdate),
    (monitored (fun _ _ => 0) RedisConfigProvider.sumRmp ⟨[1], by decide, false⟩
      fun _ => []).Reachable s ∧
    s.loader = .done ∧
    (monitored (fun _ _ => 0) RedisConfigProvider.sumRmp ⟨[1], by decide, false⟩
      fun _ => []).Run s [.boot .startPolling, .update, .boot .poll] s' ∧
    bootLeft ⟨[1], by decide, false⟩ s'.stores s = 7 ∧
    2 + bootLeft ⟨[1], by decide, false⟩ s'.stores s' ≤ 7 ∧
    ∃ nanos s₁ a s'', (monitored (fun _ _ => 0) RedisConfigProvider.sumRmp
        ⟨[1], by decide, false⟩ fun _ => []).step s' (.boot (.elapse nanos)) s₁ ∧
      a.isWaiters = true ∧ (monitored (fun _ _ => 0) RedisConfigProvider.sumRmp
        ⟨[1], by decide, false⟩ fun _ => []).step s₁ a s'' := by
  let provider : RunConfigProvider.Provider := ⟨[1], by decide, false⟩
  let sys := monitored (fun _ _ => 0) RedisConfigProvider.sumRmp provider fun _ => []
  obtain ⟨store, hadd, -⟩ :=
    ConfigStore.addConfig_refines (@ConfigStore.new_refines fun _ _ => 0) 0 .default
  let spawned : UInt16 → Waiter := Function.update (fun _ => .absent) 1 (.spawned 0)
  let stores : UInt16 → ConfigStore := Function.update (fun _ => .new) 1 store
  have h0 : sys.Reachable ⟨0, .registering [1], fun _ => .absent, fun _ => .new,
      fun _ => false, fun _ => false, false⟩ :=
    .init ⟨0, [1], ⟨by decide, fun _ => Iff.rfl⟩, rfl⟩
  have h1 : sys.Reachable ⟨0, .registering [], spawned, fun _ => .new, fun _ => false,
      fun _ => false, false⟩ :=
    h0.step ⟨rfl, .boot (.register rfl)⟩
  have h2 : sys.Reachable ⟨0, .reading [1], spawned, fun _ => .new, fun _ => false,
      fun _ => false, false⟩ :=
    h1.step ⟨rfl, .boot (.connect rfl)⟩
  have h3 : sys.Reachable ⟨0, .adding 1 [] [], spawned, fun _ => .new, fun _ => false,
      fun _ => false, false⟩ :=
    h2.step ⟨rfl, .boot (.readConfigs rfl)⟩
  have h4 : sys.Reachable ⟨0, .reading [], spawned, fun _ => .new, fun _ => false,
      fun _ => false, false⟩ :=
    h3.step ⟨rfl, .boot (.partitionDone rfl)⟩
  let loaded : State (CheckConfig ⊕ ConfigUpdate) :=
    ⟨0, .done, spawned, fun _ => .new, fun _ => false, fun _ => false, false⟩
  have h5 : sys.Reachable loaded := h4.step ⟨rfl, .boot (.loaded rfl)⟩
  have hspawned : spawned 1 = .spawned 0 := Function.update_self _ _ _
  have hrun := (Transition.Run.here h5).snoc (a := .boot .startPolling)
    ⟨rfl, .boot (@Step.startPolling _ _ _ _ _ _ 1 0 hspawned)⟩
  have hrun' := hrun.snoc (a := .update) ⟨rfl, @MonitoredStep.addConfig _ _ _ _ _ _ 1 .default store
    rfl rfl (by decide) hadd⟩
  have hrun'' := hrun'.snoc (a := .boot .poll)
    ⟨rfl, .boot (.poll (Function.update_self _ _ _) (Nat.le_refl _))⟩
  obtain ⟨hcount, hmoves⟩ := boot_comes_to_an_end h5 rfl hrun''
  have hlast : (stores 1).getLastUpdate = some 0 := by
    rw [show stores 1 = store from Function.update_self _ _ _,
      ConfigStore.getLastUpdate_addConfig hadd]
  have hleft : bootLeft provider stores loaded = 7 := by
    simp [bootLeft, provider, loaded, hspawned, stepsLeft, deadline, hlast, periods, pollPeriod,
      bootIdleTimeout]
  refine ⟨_, _, h5, rfl, hrun'', hleft, hcount.trans_eq hleft, ?_⟩
  rcases hmoves with hall | hmoves
  · have hfinished := hall 1 List.mem_cons_self
    have hearly : bootFinished 0 0 (stores 1).getLastUpdate = false := by
      rw [hlast]
      decide
    simp only [Function.update_self] at hfinished
    change (if bootFinished 0 0 (stores 1).getLastUpdate = true then Waiter.finished
      else .polling 0 (0 + pollPeriod)) = .finished at hfinished
    rw [hearly] at hfinished
    cases hfinished
  · exact hmoves

end UptimeChecker.ConfigWaiter
