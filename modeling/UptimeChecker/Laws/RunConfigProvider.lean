import UptimeChecker.Laws.Manager
import UptimeChecker.Laws.RedisConfigProvider
import UptimeChecker.RunConfigProvider

/-!
# The shutdown of the config provider

The monitor task goes on while the shutdown branch takes the partitions away from it. Nothing goes
wrong as long as the branch comes at the right time (`Orderly`): it starts after the monitor task
has registered the partitions, it unregisters a partition for which the monitor task has nothing in
hand, and what redis answers for the partition afterwards asks for no call.

Then no `expect` fails, and every service ever started is handed to the shutdown stream, once
(`shutdown_stops_every_service`). Work in hand for a partition that is gone does panic, sooner or
later (`work_panics`).
-/

namespace UptimeChecker.RunConfigProvider

variable {Payload : Type} {rmp : Rmp Payload} {provider : Provider} {s s' : State Payload}
  {a : Action Payload}

/-- The monitor task has read something for a partition that it will call the service for. -/
def Monitor.HasWork (rmp : Rmp Payload) (monitor : Monitor Payload) (partition : UInt16) : Prop :=
  match monitor with
  | .handling other deletes _ _ => other = partition ∧ deletes ≠ []
  | .adding _ other payloads _ =>
      other = partition ∧ ∃ payload ∈ payloads, (rmp.deserializeRmp payload).isSome
  | _ => False

/-- `update_partitions` has returned. -/
def Monitor.Registered : Monitor Payload → Prop
  | .starting => False
  | .updating _ _ => False
  | _ => True

/-- The shutdown branch has read which partitions are known. -/
def ShutdownBranch.Begun : ShutdownBranch → Prop
  | .unregistering _ => True
  | .finished => True
  | _ => False

/-- The shutdown branch starts when all partitions are registered, unregisters a partition that the
monitor task has no work for, and nothing that redis answers for it from then on makes work. -/
def Orderly (rmp : Rmp Payload) (s : State Payload) : Action Payload → Prop
  | .shutdownRequested => s.monitor.Registered
  | .shutdownUnregister partition => ¬ s.monitor.HasWork rmp partition
  | .readConfigs partition payloads =>
      s.manager.services partition = none → ∀ payload ∈ payloads, rmp.deserializeRmp payload = none
  | .consumeConfigUpdates partition payloads =>
      s.manager.services partition = none → (RedisConfigProvider.splitUpdates rmp payloads).2 = []
  | .getConfigKeyPayloads partition payloads =>
      s.manager.services partition = none → ∀ payload ∈ payloads, rmp.deserializeRmp payload = none
  | _ => True

/-! ## Work and calls -/

/-- The next call is work. -/
theorem hasWork_of_callee {monitor : Monitor Payload} {partition : UInt16}
    (h : monitor.callee rmp = some partition) : monitor.HasWork rmp partition := by
  unfold Monitor.callee at h
  split at h
  · cases h
    exact ⟨rfl, nofun⟩
  · split at h
    · rename_i payload _ _ hdecodes
      cases h
      exact ⟨rfl, payload, List.mem_cons_self, hdecodes⟩
    · cases h
  · cases h

/-- A call made leaves the rest of the work. -/
theorem hasWork_of_called {monitor : Monitor Payload} {partition : UInt16}
    (h : monitor.called.HasWork rmp partition) : monitor.HasWork rmp partition := by
  cases monitor with
  | handling other deletes upserts partitions =>
    cases deletes with
    | nil => exact h
    | cons update deletes => exact ⟨h.1, nofun⟩
  | adding stage other payloads partitions =>
    cases payloads with
    | nil => exact h
    | cons payload payloads =>
      obtain ⟨hsame, other, hmem, hdecodes⟩ := h
      exact ⟨hsame, other, List.mem_cons_of_mem _ hmem, hdecodes⟩
  | _ => exact h

theorem registered_called {monitor : Monitor Payload} (h : monitor.Registered) :
    monitor.called.Registered := by
  cases monitor with
  | handling other deletes upserts partitions => cases deletes <;> trivial
  | adding stage other payloads partitions => cases payloads <;> trivial
  | _ => exact h

/-! ## The invariant -/

/-- Work and the `Arc` in hand are for registered partitions, and the shutdown branch misses
none. -/
structure Safe (rmp : Rmp Payload) (s : State Payload) : Prop where
  accounts : s.manager.Accounts
  work : ∀ partition, s.monitor.HasWork rmp partition →
    (s.manager.services partition).isSome
  held : ∀ service, s.held = some service → ∃ partition, s.monitor.callee rmp = some partition ∧
    s.manager.services partition = some service
  registered : s.shutdown.Begun → s.monitor.Registered
  unregistering : ∀ known, s.shutdown = .unregistering known →
    ∀ partition, (s.manager.services partition).isSome → partition ∈ known
  finished : s.shutdown = .finished → ∀ partition, s.manager.services partition = none
  panic : s.panic = none ∨ s.panic = some .redis

theorem safe_initial :
    Safe rmp (⟨.new, .starting, none, false, .waiting, none⟩ : State Payload) where
  accounts := Manager.accounts_new
  work _ h := h.elim
  held _ h := by cases h
  registered h := h.elim
  unregistering _ h := by cases h
  finished h := by cases h
  panic := .inl rfl

/-- Between two calls the monitor task holds no service. -/
theorem Safe.held_none (h : Safe rmp s) (hcallee : s.monitor.callee rmp = none) :
    s.held = none := by
  cases hheld : s.held with
  | none => rfl
  | some service =>
    obtain ⟨partition, hsome, -⟩ := h.held service hheld
    cases hcallee.symm.trans hsome

/-- The monitor task moves between two calls. -/
theorem Safe.move (h : Safe rmp s) {monitor : Monitor Payload}
    (hcallee : s.monitor.callee rmp = none)
    (hwork : ∀ partition, monitor.HasWork rmp partition →
      (s.manager.services partition).isSome)
    (hregistered : s.monitor.Registered → monitor.Registered) :
    Safe rmp { s with monitor := monitor } where
  accounts := h.accounts
  work := hwork
  held service hheld := by cases (h.held_none hcallee).symm.trans hheld
  registered hbegun := hregistered (h.registered hbegun)
  unregistering := h.unregistering
  finished := h.finished
  panic := h.panic

/-- The monitor task changes the map before the shutdown branch has begun. -/
theorem Safe.update (h : Safe rmp s) {monitor : Monitor Payload} {manager : Manager}
    (hcallee : s.monitor.callee rmp = none) (hunregistered : ¬ s.monitor.Registered)
    (haccounts : manager.Accounts) (hwork : ∀ partition, ¬ monitor.HasWork rmp partition) :
    Safe rmp { s with monitor := monitor, manager := manager } where
  accounts := haccounts
  work partition hw := (hwork partition hw).elim
  held service hheld := by cases (h.held_none hcallee).symm.trans hheld
  registered hbegun := (hunregistered (h.registered hbegun)).elim
  unregistering known hknown :=
    (hunregistered (h.registered (by rw [hknown]; trivial))).elim
  finished hfinished := (hunregistered (h.registered (by rw [hfinished]; trivial))).elim
  panic := h.panic

/-- A service held is no obstacle where the monitor task has no work. -/
theorem Safe.unregister_isSome (h : Safe rmp s) {partition : UInt16}
    (hwork : ¬ s.monitor.HasWork rmp partition) :
    s.manager.unregisterPartition s.held.toList partition ≠ none := by
  intro hnone
  obtain ⟨service, hmem, hservice⟩ := Manager.unregisterPartition_eq_none hnone
  obtain ⟨other, hcallee, hother⟩ := h.held service (Option.mem_toList.mp hmem)
  have hsame : other = partition :=
    (h.accounts.keyed other service hother).symm.trans (h.accounts.keyed partition service hservice)
  exact hwork (hsame ▸ hasWork_of_callee hcallee)

/-- The shutdown branch unregisters a partition. -/
theorem Safe.shutdownUnregister (h : Safe rmp s) {partition : UInt16} {known : List UInt16}
    {manager : Manager} (phase : s.shutdown = .unregistering (partition :: known))
    (hwork : ¬ s.monitor.HasWork rmp partition)
    (hun : s.manager.unregisterPartition s.held.toList partition = some manager) :
    Safe rmp { s with shutdown := .unregistering known, manager := manager } := by
  have hservices := Manager.services_unregisterPartition hun
  have hkept : ∀ key, s.monitor.HasWork rmp key →
      manager.services key = s.manager.services key := by
    intro key hkey
    rw [hservices, if_neg]
    rintro rfl
    exact hwork hkey
  refine ⟨h.accounts.unregisterPartition hun, ?_, ?_,
    fun _ => h.registered (by rw [phase]; trivial), ?_, nofun, h.panic⟩
  · intro key hkey
    rw [hkept key hkey]
    exact h.work key hkey
  · intro service hheld
    obtain ⟨key, hcallee, hkey⟩ := h.held service hheld
    exact ⟨key, hcallee, (hkept key (hasWork_of_callee hcallee)).trans hkey⟩
  · intro rest hrest key hkey
    cases hrest
    rw [hservices] at hkey
    split at hkey
    · cases hkey
    · rename_i hne
      exact (List.mem_cons.mp (h.unregistering _ phase key hkey)).resolve_left hne

/-- Payloads read for a partition are work only if it is registered. -/
private theorem isSome_of_payloads {services : Option PartitionedService} {payloads : List Payload}
    (hok : services = none → ∀ payload ∈ payloads, rmp.deserializeRmp payload = none)
    (hwork : ∃ payload ∈ payloads, (rmp.deserializeRmp payload).isSome) : services.isSome := by
  obtain ⟨payload, hmem, hdecodes⟩ := hwork
  cases services with
  | some service => rfl
  | none =>
    rw [hok rfl payload hmem] at hdecodes
    cases hdecodes

/-- An orderly step keeps the invariant. -/
theorem Safe.step (h : Safe rmp s) (hok : Orderly rmp s a)
    (hstep : Step rmp provider s a s') : Safe rmp s' := by
  cases hstep with
  | updatePartitions phase hremoved hadded =>
    refine h.move (by rw [phase]; rfl) (fun _ hw => hw.elim) ?_
    rw [phase]
    exact fun hregistered => hregistered.elim
  | unregister phase hun =>
    refine h.update (by rw [phase]; rfl) ?_ (h.accounts.unregisterPartition hun) fun _ hw => hw
    rw [phase]
    exact fun hregistered => hregistered
  | unregisterPanic phase hun =>
    refine (h.unregister_isSome ?_ hun).elim
    rw [phase]
    exact fun hw => hw
  | register phase =>
    refine h.update (by rw [phase]; rfl) ?_ (h.accounts.registerPartition _) fun _ hw => hw
    rw [phase]
    exact fun hregistered => hregistered
  | updated phase =>
    exact h.move (by rw [phase]; rfl) (fun _ hw => hw.elim) fun _ => trivial
  | connect phase =>
    exact h.move (by rw [phase]; rfl) (fun _ hw => hw.elim) fun _ => trivial
  | connectError phase => exact { h with panic := .inr rfl }
  | @readConfigs partition partitions payloads phase =>
    refine h.move (by rw [phase]; rfl) ?_ fun _ => trivial
    rintro key ⟨rfl, hwork⟩
    exact isSome_of_payloads hok hwork
  | readConfigsError phase => exact { h with panic := .inr rfl }
  | loaded phase =>
    refine h.move (by rw [phase]; rfl) ?_ ?_
    · intro key hw
      split at hw <;> exact hw.elim
    · intro _
      split <;> trivial
  | poll phase go => exact h.move (by rw [phase]; rfl) (fun _ hw => hw.elim) fun _ => trivial
  | exit phase stop => exact h.move (by rw [phase]; rfl) (fun _ hw => hw.elim) fun _ => trivial
  | @consumeConfigUpdates partition partitions payloads phase =>
    refine h.move (by rw [phase]; rfl) ?_ fun _ => trivial
    rintro key ⟨rfl, hdeletes⟩
    by_contra hnone
    exact hdeletes (hok (Option.not_isSome_iff_eq_none.mp hnone))
  | consumeConfigUpdatesError phase =>
    exact h.move (by rw [phase]; rfl) (fun _ hw => hw.elim) fun _ => trivial
  | noUpserts phase => exact h.move (by rw [phase]; rfl) (fun _ hw => hw.elim) fun _ => trivial
  | @getConfigKeyPayloads partition upserts partitions payloads phase upserted =>
    refine h.move (by rw [phase]; rfl) ?_ fun _ => trivial
    rintro key ⟨rfl, hwork⟩
    exact isSome_of_payloads hok hwork
  | getConfigKeyPayloadsError phase upserted =>
    exact h.move (by rw [phase]; rfl) (fun _ hw => hw.elim) fun _ => trivial
  | polled phase => exact h.move (by rw [phase]; rfl) (fun _ hw => hw.elim) fun _ => trivial
  | @getService partition service free callee hget =>
    refine { h with held := ?_ }
    intro other hother
    cases hother
    exact ⟨partition, callee, hget⟩
  | @getServicePanic partition free callee hget =>
    have hsome := h.work partition (hasWork_of_callee callee)
    rw [show s.manager.services partition = none from hget] at hsome
    cases hsome
  | call holds =>
    refine { h with
      work := fun partition hw => h.work partition (hasWork_of_called hw)
      held := fun _ hheld => by cases hheld
      registered := fun hbegun => registered_called (h.registered hbegun) }
  | @skipPayload stage partition payload payloads partitions phase undecodable =>
    have hcallee : s.monitor.callee rmp = none := by
      rw [phase, Monitor.callee, undecodable]
      rfl
    refine h.move hcallee ?_ fun _ => trivial
    rintro key ⟨rfl, other, hmem, hdecodes⟩
    apply h.work partition
    rw [phase]
    exact ⟨rfl, other, List.mem_cons_of_mem _ hmem, hdecodes⟩
  | partitionDone phase => exact h.move (by rw [phase]; rfl) (fun _ hw => hw.elim) fun _ => trivial
  | cancel => exact { h with }
  | shutdownRequested phase stop hknown =>
    refine { h with registered := fun _ => hok, unregistering := ?_, finished := nofun }
    intro known hsame partition hpartition
    cases hsame
    exact (hknown.2 partition).mpr hpartition
  | shutdownUnregister phase hun => exact h.shutdownUnregister phase hok hun
  | shutdownUnregisterPanic phase hun => exact (h.unregister_isSome hok hun).elim
  | shutdownDone phase =>
    refine { h with
      registered := fun _ => h.registered (by rw [phase]; trivial)
      unregistering := nofun
      finished := ?_ }
    intro _ partition
    by_contra hsome
    exact List.not_mem_nil
      (h.unregistering _ phase partition (Option.isSome_iff_ne_none.mpr hsome))
  | monitorEnded phase ended =>
    exact { h with registered := fun hb => hb.elim, unregistering := nofun, finished := nofun }

/-- **The shutdown of the config provider is safe**, in every run whose steps are orderly:
`get_service` finds every partition it is called for, no service is unregistered while its `Arc` is
held, and once the shutdown branch has finished the map is empty and every service ever started has
been handed to the shutdown stream, once. -/
theorem shutdown_stops_every_service (rmp : Rmp Payload) (provider : Provider) (s : State Payload)
    (hs : ((system rmp provider).guarded (Orderly rmp)).Reachable s) :
    s.panic ≠ some .notRegistered ∧ s.panic ≠ some .outstanding ∧
      (s.shutdown = .finished → (∀ partition, s.manager.services partition = none) ∧
        s.manager.registered.Nodup ∧ s.manager.shutdownSender.Perm s.manager.registered) := by
  have h : Safe rmp s := by
    refine hs.invariant ?_ ?_
    · rintro s rfl
      exact safe_initial
    · intro s a s' h hstep
      exact h.step hstep.1 hstep.2.2
  refine ⟨?_, ?_, ?_⟩
  · intro hpanic
    rcases h.panic with hnone | hredis
    · cases hnone.symm.trans hpanic
    · cases hredis.symm.trans hpanic
  · intro hpanic
    rcases h.panic with hnone | hredis
    · cases hnone.symm.trans hpanic
    · cases hredis.symm.trans hpanic
  · intro hfinished
    have hempty := h.finished hfinished
    exact ⟨hempty, h.accounts.nodup, h.accounts.stopped hempty⟩

/-! ## Work for a partition that is gone -/

/-- Work in hand for a partition that is not registered ends in a panic, if nothing else moves. -/
theorem work_panics {partition : UInt16} (hs : (system rmp provider).Reachable s)
    (hwork : s.monitor.HasWork rmp partition) (hgone : s.manager.services partition = none)
    (hfree : s.held = none) (hpanic : s.panic = none) :
    ∃ s', (system rmp provider).Reachable s' ∧ s'.panic = some .notRegistered := by
  cases hphase : s.monitor with
  | handling other deletes upserts partitions =>
    rw [hphase] at hwork
    obtain ⟨rfl, hdeletes⟩ := hwork
    obtain ⟨update, deletes, rfl⟩ := List.exists_cons_of_ne_nil hdeletes
    have hcallee : s.monitor.callee rmp = some other := by rw [hphase]; rfl
    exact ⟨_, hs.step ⟨hpanic, .getServicePanic hfree hcallee hgone⟩, rfl⟩
  | adding stage other payloads partitions =>
    rw [hphase] at hwork
    obtain ⟨rfl, hpayload⟩ := hwork
    -- the payloads before the first one that decodes are skipped
    induction payloads generalizing s with
    | nil =>
      obtain ⟨_, hmem, -⟩ := hpayload
      cases hmem
    | cons payload payloads ih =>
      cases hdecode : rmp.deserializeRmp payload with
      | some config =>
        have hcallee : s.monitor.callee rmp = some other := by
          rw [hphase, Monitor.callee, hdecode]
          rfl
        exact ⟨_, hs.step ⟨hpanic, .getServicePanic hfree hcallee hgone⟩, rfl⟩
      | none =>
        have hskip := hs.step ⟨hpanic, .skipPayload hphase hdecode⟩
        refine ih hskip hfree hpanic rfl ?_ hgone
        obtain ⟨found, hmem, hfound⟩ := hpayload
        rcases List.mem_cons.mp hmem with rfl | hmem
        · rw [hdecode] at hfound
          cases hfound
        · exact ⟨found, hmem, hfound⟩
  | _ =>
    rw [hphase] at hwork
    exact hwork.elim

/-! ## One partition, loaded and shut down -/

open RedisConfigProvider (sumRmp)

/-- A provider that owns partition 0. -/
def ownsZero : Provider := ⟨[0], List.nodup_singleton _, false⟩

/-- The manager with partition 0 registered, and after it was unregistered. -/
private def oneService : Manager := Manager.new.registerPartition 0

private def noService : Manager :=
  ⟨fun key => if key = 0 then none else oneService.services key, [⟨0, 0⟩], [⟨0, 0⟩]⟩

private theorem lists_zero : Lists [0] fun partition => (oneService.services partition).isSome := by
  refine ⟨List.nodup_singleton _, ?_⟩
  intro partition
  show partition ∈ [0] ↔ (oneService.services partition).isSome
  rw [oneService, Manager.services_registerPartition]
  simp [Manager.new]

/-- Partition 0 is registered, and about to be read. -/
private theorem reachable_connected : ((system sumRmp ownsZero).guarded (Orderly sumRmp)).Reachable
    ⟨oneService, .reading .load [0], none, false, .waiting, none⟩ := by
  let sys := (system sumRmp ownsZero).guarded (Orderly sumRmp)
  have h0 : sys.Reachable ⟨.new, .starting, none, false, .waiting, none⟩ := .init rfl
  have h1 : sys.Reachable ⟨.new, .updating [] [0], none, false, .waiting, none⟩ := by
    refine h0.step (a := .updatePartitions) ⟨trivial, rfl, .updatePartitions rfl ?_ ?_⟩
    · exact ⟨List.nodup_nil, fun partition => ⟨nofun, fun h => nomatch h.1⟩⟩
    · exact ⟨List.nodup_singleton _, fun partition => ⟨fun h => ⟨h, rfl⟩, fun h => h.1⟩⟩
  have h2 : sys.Reachable ⟨oneService, .updating [] [], none, false, .waiting, none⟩ :=
    h1.step (a := .register) ⟨trivial, rfl, .register rfl⟩
  have h3 : sys.Reachable ⟨oneService, .connecting, none, false, .waiting, none⟩ :=
    h2.step (a := .updated) ⟨trivial, rfl, .updated rfl⟩
  exact h3.step (a := .connect) ⟨trivial, rfl, .connect rfl⟩

/-- The shutdown branch unregisters partition 0 while the monitor task waits for its configs; the
config redis answers with is then added to a service that is gone. -/
theorem shutdown_panics_during_load : ¬ ∀ (Payload : Type) (rmp : Rmp Payload)
    (provider : Provider) (s : State Payload), (system rmp provider).Reachable s →
      s.panic ≠ some .notRegistered ∧ s.panic ≠ some .outstanding ∧
        (s.shutdown = .finished → (∀ partition, s.manager.services partition = none) ∧
          s.manager.registered.Nodup ∧
          s.manager.shutdownSender.Perm s.manager.registered) := by
  intro h
  let sys := system sumRmp ownsZero
  let payload : CheckConfig ⊕ ConfigUpdate := .inl .default
  have h4 : sys.Reachable ⟨oneService, .reading .load [0], none, true, .waiting, none⟩ :=
    reachable_connected.of_guarded.step (a := .cancel) ⟨rfl, .cancel⟩
  have h5 : sys.Reachable ⟨oneService, .reading .load [0], none, true, .unregistering [0], none⟩ :=
    h4.step (a := .shutdownRequested) ⟨rfl, .shutdownRequested rfl rfl lists_zero⟩
  have h6 : sys.Reachable ⟨noService, .reading .load [0], none, true, .unregistering [], none⟩ :=
    h5.step (a := .shutdownUnregister 0) ⟨rfl, .shutdownUnregister rfl rfl⟩
  have h7 : sys.Reachable
      ⟨noService, .adding .load 0 [payload] [], none, true, .unregistering [], none⟩ :=
    h6.step (a := .readConfigs 0 [payload]) ⟨rfl, .readConfigs _ rfl⟩
  have h8 : sys.Reachable ⟨noService, .adding .load 0 [payload] [], none, true, .unregistering [],
      some .notRegistered⟩ :=
    h7.step (a := .getService) ⟨rfl, .getServicePanic rfl rfl rfl⟩
  exact (h _ _ _ _ h8).1 rfl

/-- Partition 0 is loaded, and then shut down while the monitor task is between two polls. -/
theorem shutdown_stops_partition_zero : ∃ s,
    ((system sumRmp ownsZero).guarded (Orderly sumRmp)).Reachable s ∧ s.shutdown = .finished ∧
      s.manager.registered = [⟨0, 0⟩] ∧ s.panic ≠ some .notRegistered ∧
      s.panic ≠ some .outstanding ∧ (∀ partition, s.manager.services partition = none) ∧
      s.manager.registered.Nodup ∧ s.manager.shutdownSender.Perm s.manager.registered := by
  let sys := (system sumRmp ownsZero).guarded (Orderly sumRmp)
  let payload : CheckConfig ⊕ ConfigUpdate := .inl .default
  have h4 : sys.Reachable
      ⟨oneService, .adding .load 0 [payload] [], none, false, .waiting, none⟩ :=
    reachable_connected.step (a := .readConfigs 0 [payload]) ⟨nofun, rfl, .readConfigs _ rfl⟩
  have h5 : sys.Reachable
      ⟨oneService, .adding .load 0 [payload] [], some ⟨0, 0⟩, false, .waiting, none⟩ :=
    h4.step (a := .getService) ⟨trivial, rfl, .getService rfl rfl rfl⟩
  have h6 : sys.Reachable ⟨oneService, .adding .load 0 [] [], none, false, .waiting, none⟩ :=
    h5.step (a := .call) ⟨trivial, rfl, .call rfl⟩
  have h7 : sys.Reachable ⟨oneService, .reading .load [], none, false, .waiting, none⟩ :=
    h6.step (a := .partitionDone) ⟨trivial, rfl, .partitionDone rfl⟩
  have h8 : sys.Reachable ⟨oneService, .polling, none, false, .waiting, none⟩ :=
    h7.step (a := .loaded) ⟨trivial, rfl, .loaded rfl⟩
  have h9 : sys.Reachable ⟨oneService, .polling, none, true, .waiting, none⟩ :=
    h8.step (a := .cancel) ⟨trivial, rfl, .cancel⟩
  have h10 : sys.Reachable ⟨oneService, .polling, none, true, .unregistering [0], none⟩ :=
    h9.step (a := .shutdownRequested) ⟨trivial, rfl, .shutdownRequested rfl rfl lists_zero⟩
  have h11 : sys.Reachable ⟨noService, .polling, none, true, .unregistering [], none⟩ :=
    h10.step (a := .shutdownUnregister 0) ⟨fun h => h, rfl, .shutdownUnregister rfl rfl⟩
  have h12 : sys.Reachable ⟨noService, .polling, none, true, .finished, none⟩ :=
    h11.step (a := .shutdownDone) ⟨trivial, rfl, .shutdownDone rfl⟩
  obtain ⟨hregistered, houtstanding, hstopped⟩ := shutdown_stops_every_service _ _ _ h12
  exact ⟨_, h12, rfl, rfl, hregistered, houtstanding, hstopped rfl⟩

end UptimeChecker.RunConfigProvider
