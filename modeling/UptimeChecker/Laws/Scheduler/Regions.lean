import Mathlib.Algebra.BigOperators.Group.Finset.Piecewise
import Mathlib.Algebra.Order.BigOperators.Group.Finset
import UptimeChecker.Laws.CheckConfig
import UptimeChecker.Laws.Scheduler.Ledger

/-!
# One region checks each tick

The same partition is scheduled in several regions, by processes that know nothing of each other:
each has its own config store, its own executor and its own pace. What makes them take turns is that
they compute the same region from the config and the tick. So where their stores agree on a config
when they read a tick, a config with a schedule is reported for the tick by one region, and by no
other (`regions_report_once`).
-/

namespace UptimeChecker.Scheduler

open Assertions.Compiled (Externals)
open CheckExecutor (resultKey)

/-- The schedulers of a partition, one for each region, that hash alike. -/
structure Fleet where
  newV5 : NewV5
  ext : String → CheckerExternals
  sched : String → Scheduler
  region : ∀ name, (sched name).region = name
  hash : ∀ name, (sched name).newV5 = newV5

/-- Whenever the tick was read, the store held the config. -/
def Ledger.HeldAt (h : Ledger) (tick : Tick) (config : CheckConfig) : Prop :=
  ∀ r ∈ h.read, r.tick = tick → r.store.configs[config.subscriptionId]? = some config

section
variable {sched : Scheduler} {h : Ledger} {time : DateTime} {config : CheckConfig}

/-- A tick of the schedule is told by its time. -/
private theorem Schedule.eq_fromTime {ticks : List Tick} (hticks : Schedule sched ticks)
    {tick : Tick} (hmem : tick ∈ ticks) : tick = Tick.fromTime tick.time := by
  obtain ⟨k, hk⟩ := List.mem_iff_getElem?.mp hmem
  have hat := hticks k (by rw [hk]; rfl)
  rw [hk] at hat
  exact (tickAt_eq_some hat.symm).1

/-- A region that reports a config it held runs it. -/
private theorem Kept.shouldRun_of_produced (hk : Kept sched h) (hp : Pipeline sched h.state)
    (hheld : h.HeldAt (.fromTime time) config) {result : CheckResult}
    (hresult : result ∈ h.state.executor.produced)
    (hkey : resultKey result = (config.subscriptionId, time)) :
    config.shouldRun sched.newV5 (.fromTime time) sched.region = true := by
  obtain ⟨r, hr, other, hstored, -, hrun, hother⟩ := hk.exists_config hresult
  have hmem : r.tick ∈ h.state.scheduled := by
    rw [← hk.read]
    exact List.mem_map_of_mem hr
  rw [hkey] at hother
  obtain ⟨hid, htime⟩ := Prod.mk.inj hother
  have hsame : r.tick = .fromTime time := by
    rw [hp.schedule.eq_fromTime hmem, htime]
  have hconfig := hheld r hr hsame
  rw [← hid, hconfig] at hstored
  cases hstored
  exact hsame ▸ hrun

/-- A region reports a config it held at most once for a tick, and only if the config runs there. -/
private theorem Kept.count_le (hk : Kept sched h) (hp : Pipeline sched h.state)
    (hheld : h.HeldAt (.fromTime time) config) :
    (h.state.executor.produced.map resultKey).count (config.subscriptionId, time) ≤
      (config.shouldRun sched.newV5 (.fromTime time) sched.region).toNat := by
  by_cases hmem : (config.subscriptionId, time) ∈ h.state.executor.produced.map resultKey
  · obtain ⟨result, hresult, hkey⟩ := List.mem_map.mp hmem
    rw [hk.shouldRun_of_produced hp hheld hresult hkey,
      List.count_eq_one_of_mem (hk.nodup_produced hp) hmem]
    exact Nat.le_refl 1
  · rw [List.count_eq_zero_of_not_mem hmem]
    exact Nat.zero_le _

/-- A region that has accepted a tick has reported the config if it runs there. -/
private theorem Kept.count_eq (hk : Kept sched h) (hp : Pipeline sched h.state)
    (hheld : h.HeldAt (.fromTime time) config)
    (haccepted : Tick.fromTime time ∈ h.state.handled)
    (hdue : config.dueAt sched.newV5 (.fromTime time))
    (hrun : config.shouldRun sched.newV5 (.fromTime time) sched.region = true) :
    (h.state.executor.produced.map resultKey).count (config.subscriptionId, time) = 1 := by
  obtain ⟨r, hr, hsame, hreported⟩ := hk.exists_reading haccepted
  exact List.count_eq_one_of_mem (hk.nodup_produced hp)
    (hreported config (hheld r hr hsame) hdue hrun)

end

/-- The regions take turns. Of a config with a schedule that every region holds when it reads a tick
there is at most one result for the tick in all regions together, and exactly one once they have
accepted it, if the config is due and its regions are among them. -/
theorem regions_report_once (lib : Externals) (fleet : Fleet) (regions : Finset String)
    (h : String → Ledger)
    (hs : ∀ name ∈ regions,
      (ledger lib (fleet.ext name) (fleet.sched name)).Reachable (h name))
    (time : DateTime) (config : CheckConfig) (active : List String)
    (hmode : config.regionScheduleMode.isSome = true)
    (hactive : config.activeRegions = some active) (hne : active ≠ [])
    (hheld : ∀ name ∈ regions, (h name).HeldAt (.fromTime time) config) :
    ∑ name ∈ regions, ((h name).state.executor.produced.map resultKey).count
        (config.subscriptionId, time) ≤ 1 ∧
      (config.dueAt fleet.newV5 (.fromTime time) → (∀ name ∈ active, name ∈ regions) →
        (∀ name ∈ regions, Tick.fromTime time ∈ (h name).state.handled) →
          ∑ name ∈ regions, ((h name).state.executor.produced.map resultKey).count
            (config.subscriptionId, time) = 1) := by
  have hidx : config.runningRegionIdx fleet.newV5 (.fromTime time) active.length < active.length :=
    Nat.mod_lt _ (List.length_pos_iff.mpr hne)
  obtain ⟨chosen, hchosen⟩ : ∃ chosen,
      active[config.runningRegionIdx fleet.newV5 (.fromTime time) active.length]? = some chosen :=
    ⟨_, List.getElem?_eq_getElem hidx⟩
  have hpick : ∀ name, config.shouldRun fleet.newV5 (.fromTime time) name = true ↔
      name = chosen := by
    intro name
    rw [config.shouldRun_iff fleet.newV5 hmode hactive hne, hchosen, Option.some.injEq, eq_comm]
  have hle : ∀ name ∈ regions, ((h name).state.executor.produced.map resultKey).count
      (config.subscriptionId, time) ≤ if name = chosen then 1 else 0 := by
    intro name hname
    have hcount := (kept_of_reachable (hs name hname)).count_le
      (pipeline_of_reachable (reachable_of_ledger (hs name hname))) (hheld name hname)
    rw [fleet.region, fleet.hash] at hcount
    refine Nat.le_trans hcount ?_
    by_cases hname : name = chosen
    · rw [if_pos hname]
      exact Bool.toNat_le _
    · rw [if_neg hname, Bool.eq_false_iff.mpr fun hrun => hname ((hpick name).mp hrun)]
      exact Nat.le_refl 0
  refine ⟨?_, fun hdue hsubset haccepted => ?_⟩
  · refine Nat.le_trans (Finset.sum_le_sum hle) ?_
    rw [Finset.sum_ite_eq']
    split
    · exact Nat.le_refl 1
    · exact Nat.zero_le 1
  · have hmem : chosen ∈ regions := hsubset chosen (List.mem_of_getElem? hchosen)
    rw [Finset.sum_eq_single_of_mem chosen hmem]
    · have hreach := hs chosen hmem
      refine (kept_of_reachable hreach).count_eq
        (pipeline_of_reachable (reachable_of_ledger hreach)) (hheld chosen hmem)
        (haccepted chosen hmem) ?_ ?_
      · rwa [fleet.hash]
      · rw [fleet.region, fleet.hash]
        exact (hpick chosen).mpr rfl
    · intro name hname hother
      have hzero := hle name hname
      rw [if_neg hother] at hzero
      exact Nat.le_zero.mp hzero

/-- The other region reads tick 28 as well, has nothing to check, and accepts it. -/
private theorem exists_ledger_eu :
    ∃ h store, (ledger Assertions.Compiled.plainExternals ReqwestChecker.plainCheckerExternals
        (startingIn "eu" 28 (by decide))).Reachable h ∧
      h.read = [⟨tickOfSecs 28 (by decide), store, [turns]⟩] ∧
      tickOfSecs 28 (by decide) ∈ h.state.handled := by
  obtain ⟨store, hadd, hstore⟩ := exists_singleton_store constV5 turns
  have h2 := ledger_of_from (@reachable_reading "eu" store hadd hstore)
  have h3 := h2.step ⟨rfl, .plain (.skipCheck rfl (by decide)) rfl⟩
  have h4 := h3.step ⟨rfl, .plain (.sendBundle rfl (by simp)) rfl⟩
  have h5 := h4.step
    ⟨rfl, .plain (.recvMany rfl Nat.one_pos (by decide) (Nat.le_refl 1)) rfl⟩
  have h6 := h5.step ⟨rfl, .plain (step_accept_empty rfl) rfl⟩
  exact ⟨_, store, h6, rfl, List.mem_singleton.mpr rfl⟩

/-- A region that has read tick 28 once held the config then. -/
private theorem heldAt_of_read {region : String} {h : Ledger} {store : ConfigStore}
    (hs : (ledger Assertions.Compiled.plainExternals ReqwestChecker.plainCheckerExternals
      (startingIn region 28 (by decide))).Reachable h)
    (hread : h.read = [⟨tickOfSecs 28 (by decide), store, [turns]⟩]) :
    h.HeldAt (tickOfSecs 28 (by decide)) turns := by
  intro r hr _
  have hright := (kept_of_reachable hs).right r hr
  rw [hread] at hr
  cases List.mem_singleton.mp hr
  exact ((hright.mem_iff turns).mp List.mem_cons_self).1

/-- Of the two regions of the config, one reports it at tick 28. -/
theorem regions_report_once_tick28 : ∃ h : String → Ledger,
    ∑ name ∈ {"us", "eu"}, ((h name).state.executor.produced.map resultKey).count
      (turns.subscriptionId, .ofSecs 28 (by decide)) = 1 := by
  obtain ⟨us, store, hfrom, hreadUs, hprocessor, -⟩ := exists_ledger_us
  have hus := ledger_of_from hfrom
  have haccUs := mem_handled_of_accepted hprocessor
  obtain ⟨eu, store', heu, hreadEu, haccEu⟩ := exists_ledger_eu
  let fleet : Fleet := ⟨constV5, fun _ => ReqwestChecker.plainCheckerExternals,
    fun name => startingIn name 28 (by decide), fun _ => rfl, fun _ => rfl⟩
  let h : String → Ledger := fun name => if name = "us" then us else eu
  have hcases : ∀ name ∈ ({"us", "eu"} : Finset String), name = "us" ∧ h name = us ∨
      name = "eu" ∧ h name = eu := by
    intro name hname
    rcases Finset.mem_insert.mp hname with rfl | hname
    · exact .inl ⟨rfl, if_pos rfl⟩
    · rw [Finset.mem_singleton.mp hname]
      exact .inr ⟨rfl, if_neg (by decide)⟩
  refine ⟨h, (regions_report_once Assertions.Compiled.plainExternals fleet {"us", "eu"} h ?_
    (.ofSecs 28 (by decide)) turns ["us", "eu"] rfl rfl (by simp) ?_).2 (by decide) (by simp) ?_⟩
  · intro name hname
    rcases hcases name hname with ⟨rfl, hname⟩ | ⟨rfl, hname⟩
    · exact hname ▸ hus
    · exact hname ▸ heu
  · intro name hname
    rcases hcases name hname with ⟨rfl, hname⟩ | ⟨rfl, hname⟩
    · exact hname ▸ heldAt_of_read hus hreadUs
    · exact hname ▸ heldAt_of_read heu hreadEu
  · intro name hname
    rcases hcases name hname with ⟨-, hname⟩ | ⟨-, hname⟩
    · exact hname ▸ haccUs
    · exact hname ▸ haccEu

end UptimeChecker.Scheduler
