import UptimeChecker.Laws.CheckExecutor.Reports
import UptimeChecker.Laws.Checker.ReqwestChecker
import UptimeChecker.Laws.Scheduler.Watermark

/-!
# One result for each check that is due

The runs of the scheduler are recorded here with the configs read for each tick and the checks the
executor was asked for, and the checks are run by the reqwest checker. The provider may change the
configs at any time, the executor may be cancelled, checks may fail and be retried, and bundles and
watermark writes may be lost: the loop asks for exactly the checks that are due in its region, each
once and in the order of the ticks, so that no two results are of one subscription and time
(`reported_once`). A tick that the processor has accepted has a result for each of its checks
(`accepted_reported`).
-/

namespace UptimeChecker

open Assertions.Compiled (Externals)
open CheckExecutor (Booked Reports checkKey resultKey)

/-- A result carries the subscription and the time of the check it was made from. -/
theorem ReqwestChecker.resultKey_checkUrl {lib : Externals} {ext : CheckerExternals}
    {checker : ReqwestChecker lib} {check : ScheduledCheck} {region : String}
    {readings : UrlReadings} {result : CheckResult}
    (h : (checker.checkUrl ext check region readings).1 = some result) :
    resultKey result = checkKey (check.tick, check.config) := by
  unfold checkUrl at h
  obtain ⟨data, -, rfl⟩ := Option.map_eq_some_iff.mp h
  rfl

namespace Scheduler

/-- The bundles the loop has sent and the processor has not come to. -/
def State.sentBundles (s : State) : List ExecutionBundle := s.processor.batch ++ s.tickComplete

/-! ## The ledger -/

/-- What the loop reads when the interval ticks: the configs of the tick, out of the store as it
stands. -/
structure Reading where
  tick : Tick
  store : ConfigStore
  configs : List CheckConfig

/-- A state, what was read for each tick, and the checks asked for by their channel. -/
structure Ledger where
  state : State
  read : List Reading
  asked : List (Tick × CheckConfig)

/-- A run of `do_check` in which the reqwest checker answers, whatever it knows and meets with. -/
def Answers (lib : Externals) (ext : CheckerExternals) (region : String) (check : ScheduledCheck)
    (readings : CheckReadings) : Prop :=
  ∃ (checker : ReqwestChecker lib) (met : ReqwestChecker.UrlReadings),
    (checker.checkUrl ext check region met).1 = some readings.checkUrl

/-- One step, with the configs it reads and the check it asks for. -/
inductive LedgerStep (lib : Externals) (ext : CheckerExternals) (sched : Scheduler) (h : Ledger) :
    Action → Ledger → Prop where
  | tick {k : Nat} {tick : Tick} {configs : List CheckConfig} {s' : State}
      (hstep : Step sched h.state .tick s') (phase : s'.scheduler = .queueing k tick configs []) :
      LedgerStep lib ext sched h .tick
        ⟨s', h.read ++ [⟨tick, h.state.configStore, configs⟩], h.asked⟩
  | queueCheck {k : Nat} {tick : Tick} {config : CheckConfig} {configs : List CheckConfig}
      {results : List Nat} {s' : State}
      (phase : h.state.scheduler = .queueing k tick (config :: configs) results)
      (hstep : Step sched h.state .queueCheck s') :
      LedgerStep lib ext sched h .queueCheck ⟨s', h.read, h.asked ++ [(tick, config)]⟩
  | finishCheck {i : Nat} {check : ScheduledCheck} {readings : CheckReadings}
      {executor : CheckExecutor} (hi : h.state.executor.running[i]? = some check)
      (hanswers : Answers lib ext sched.conf.region check readings)
      (hf : h.state.executor.finish sched.conf i readings = some executor) :
      LedgerStep lib ext sched h .finishCheck
        ⟨{ h.state with executor := executor }, h.read, h.asked⟩
  | other {a : Action} {s' : State} (hstep : Step sched h.state a s') (htick : a ≠ .tick)
      (hqueue : a ≠ .queueCheck) (hfinish : a ≠ .finishCheck) :
      LedgerStep lib ext sched h a ⟨s', h.read, h.asked⟩

/-- The scheduler with its ledger, from any config store that holds a map. -/
def ledger (lib : Externals) (ext : CheckerExternals) (sched : Scheduler) :
    Transition Ledger Action where
  init h := ∃ configStore map watermark, ConfigStore.Refines sched.newV5 configStore map ∧
    h = ⟨initial configStore watermark, [], []⟩
  step h a h' := h.state.executor.panicked = false ∧ LedgerStep lib ext sched h a h'

variable {lib : Externals} {ext : CheckerExternals} {sched : Scheduler} {s s' : State} {a : Action}
  {h h' : Ledger} {lastProgress : Option Int64}

/-- A ledger records steps of the scheduler. -/
theorem LedgerStep.step (hstep : LedgerStep lib ext sched h a h') :
    Step sched h.state a h'.state := by
  cases hstep with
  | tick hstep phase => exact hstep
  | queueCheck phase hstep => exact hstep
  | finishCheck hi hanswers hf => exact .finishCheck hf
  | other hstep => exact hstep

theorem reachable_of_ledger (hs : (ledger lib ext sched).Reachable h) :
    sched.system.Reachable h.state := by
  induction hs with
  | init hinit =>
    obtain ⟨configStore, map, watermark, -, rfl⟩ := hinit
    exact .init ⟨_, _, rfl⟩
  | step _ hstep ih => exact ih.step ⟨hstep.1, hstep.2.step⟩

/-- The ledger of a run that found a watermark, or none, and whose processor accepts no bundle after
it has broken off a batch. -/
def ledgerFrom (lib : Externals) (ext : CheckerExternals) (sched : Scheduler)
    (lastProgress : Option Int64) : Transition Ledger Action :=
  { (ledger lib ext sched).guarded (fun h a => AcceptsUnbroken h.state a) with
    init := fun h => ∃ configStore map, ConfigStore.Refines sched.newV5 configStore map ∧
      h = ⟨initial configStore lastProgress, [], []⟩ }

theorem ledger_of_from (hs : (ledgerFrom lib ext sched lastProgress).Reachable h) :
    (ledger lib ext sched).Reachable h := by
  refine hs.mono ?_ ?_
  · rintro h ⟨configStore, map, hstore, rfl⟩
    exact ⟨configStore, map, lastProgress, hstore, rfl⟩
  · intro h a h' hstep
    exact hstep.2

/-! ## What is due -/

/-- The configs of a tick that run in the region. -/
def dueHere (sched : Scheduler) (tick : Tick) (configs : List CheckConfig) : List CheckConfig :=
  configs.filter fun config => config.shouldRun sched.newV5 tick sched.region

/-- All checks to ask for, in order. -/
def expected (sched : Scheduler) (read : List Reading) : List (Tick × CheckConfig) :=
  read.flatMap fun r => (dueHere sched r.tick r.configs).map (r.tick, ·)

/-- The configs of a reading are those that the store holds and that are due, of different
subscriptions. -/
structure Reading.Right (sched : Scheduler) (r : Reading) : Prop where
  distinct : (r.configs.map (·.subscriptionId)).Nodup
  mem_iff : ∀ config, config ∈ r.configs ↔
    r.store.configs[config.subscriptionId]? = some config ∧ config.dueAt sched.newV5 r.tick

/-- The checks of the current tick that are still to be asked for. -/
def stillToAsk (sched : Scheduler) : SchedulerPhase → List (Tick × CheckConfig)
  | .queueing _ tick configs _ => (dueHere sched tick configs).map (tick, ·)
  | _ => []

@[simp] theorem stillToAsk_ticking (k : Nat) : stillToAsk sched (.ticking k) = [] := rfl

@[simp] theorem stillToAsk_returned : stillToAsk sched .returned = [] := rfl

/-- What is read from a store that holds a map is right. -/
theorem right_of_enumerates {store : ConfigStore} {map : ConfigMap} {tick : Tick}
    {bucket : TickBucket} {configs : List CheckConfig} (hstore : store.Refines sched.newV5 map)
    (htick : tick = Tick.fromTime tick.time) (hbucket : store.getConfigs tick = some bucket)
    (hconfigs : Enumerates configs bucket) : Reading.Right sched ⟨tick, store, configs⟩ := by
  obtain ⟨bucket', hbucket', hmem⟩ := ConfigStore.getConfigs_refines hstore tick.time
  rw [← htick, hbucket] at hbucket'
  cases hbucket'
  have hiff : ∀ config, config ∈ configs ↔
      store.configs[config.subscriptionId]? = some config ∧ config.dueAt sched.newV5 tick := by
    intro config
    rw [hconfigs.2, hmem, ← htick, hstore.configs]
  refine ⟨hconfigs.1.map_on ?_, hiff⟩
  intro a ha b hb heq
  have ha' := ((hiff a).mp ha).1
  rw [heq, ((hiff b).mp hb).1] at ha'
  exact (Option.some.inj ha').symm

/-- No check is to be asked for twice. -/
theorem nodup_expected {read : List Reading}
    (hticks : (read.map (·.tick)).Pairwise fun a b => a.time.nanos < b.time.nanos)
    (hright : ∀ r ∈ read, r.Right sched) :
    ((expected sched read).map checkKey).Nodup := by
  rw [expected, List.map_flatMap, List.nodup_flatMap]
  refine ⟨fun r hr => ?_, ?_⟩
  · rw [List.map_map]
    have hids : ((dueHere sched r.tick r.configs).map (·.subscriptionId)).Nodup :=
      (hright r hr).distinct.sublist (List.filter_sublist.map _)
    refine List.Nodup.of_map Prod.fst ?_
    rw [List.map_map]
    exact hids
  · rw [List.pairwise_map] at hticks
    refine hticks.imp ?_
    intro r r' hlt key hr hr'
    obtain ⟨q, hq, rfl⟩ := List.mem_map.mp hr
    obtain ⟨q', hq', hkey⟩ := List.mem_map.mp hr'
    obtain ⟨_, -, rfl⟩ := List.mem_map.mp hq
    obtain ⟨_, -, rfl⟩ := List.mem_map.mp hq'
    have htime : r'.tick.time = r.tick.time := congrArg Prod.snd hkey
    rw [htime] at hlt
    exact Int.lt_irrefl _ hlt

/-! ## What a step does -/

/-- A step other than those that read configs or queue a check asks for nothing, and gives up what
was still to be asked for only to return. -/
theorem Step.asks (h : Step sched s a s') (htick : a ≠ .tick) (hqueue : a ≠ .queueCheck) :
    (s'.scheduler = .returned ∨
      s.scheduler ≠ .returned ∧ stillToAsk sched s'.scheduler = stillToAsk sched s.scheduler ∨
      s'.scheduler = s.scheduler) ∧
    ∀ k tick configs results, s'.scheduler = .queueing k tick configs results →
      ∃ configs', s.scheduler = .queueing k tick configs' results ∧
        dueHere sched tick configs' = dueHere sched tick configs := by
  cases h with
  | tick => exact absurd rfl htick
  | queueCheck => exact absurd rfl hqueue
  | @skipCheck k tick config configs results phase run =>
    have hsame : dueHere sched tick (config :: configs) = dueHere sched tick configs := by
      rw [dueHere, List.filter_cons_of_neg (by rw [run]; exact Bool.false_ne_true)]
      rfl
    refine ⟨.inr (.inl ⟨by simp [phase], ?_⟩), ?_⟩
    · rw [phase, stillToAsk, stillToAsk, hsame]
    · intro k' tick' configs' results' heq
      cases heq
      exact ⟨_, phase, hsame⟩
  | sendBundle phase | shutdown phase =>
    refine ⟨.inr (.inl ⟨by simp [phase], ?_⟩), ?_⟩
    · rw [phase]
      rfl
    · intro k tick configs results heq
      cases heq
  | queueCheckError | sendBundleError | joinProcessor =>
    refine ⟨.inl rfl, ?_⟩
    intro k tick configs results heq
    cases heq
  | _ =>
    refine ⟨.inr (.inr rfl), ?_⟩
    intro k tick configs results heq
    exact ⟨configs, heq, rfl⟩

/-- The bundles that are sent, and the ticks that are accepted. -/
theorem Step.moves (h : Step sched s a s') :
    (∀ b ∈ s'.sentBundles, b ∈ s.sentBundles ∨ ∃ k, s.scheduler = .queueing k b.tick [] b.checks) ∧
    ∀ tick ∈ s'.handled, tick ∈ s.handled ∨ ∃ b ∈ s.sentBundles, b.tick = tick ∧
      ∀ check ∈ b.checks, ∃ result, (s.executor.oneshots check).message = .sent result := by
  cases h with
  | @sendBundle k tick results phase =>
    refine ⟨fun b hb => ?_, fun _ h => .inl h⟩
    simp only [State.sentBundles, List.mem_append, List.mem_singleton] at hb ⊢
    rcases hb with hb | hb | rfl
    · exact .inl (.inl hb)
    · exact .inl (.inr hb)
    · exact .inr ⟨k, phase⟩
  | @accept bundle batch lastTick phase resolved =>
    refine ⟨fun b hb => .inl ?_, fun tick htick => ?_⟩
    · simp only [State.sentBundles, phase, ProcessorPhase.batch, List.mem_append,
        List.mem_cons] at hb ⊢
      tauto
    · simp only [State.handled, ProcessorPhase.accepted, Option.toList_some, List.mem_append,
        List.mem_singleton] at htick ⊢
      rcases htick with htick | rfl
      · exact .inl (.inl htick)
      · refine .inr ⟨bundle, ?_, rfl, resolved⟩
        simp [State.sentBundles, phase, ProcessorPhase.batch]
  | recvMany phase | recvNone phase | breakOff phase | executorDown phase | badTimestamp phase
  | writeWatermark _ phase | writeWatermarkFatal _ phase =>
    refine ⟨fun b hb => .inl ?_, fun tick htick => .inl ?_⟩
    · revert b
      simp +contextual [State.sentBundles, phase, ProcessorPhase.batch]
    · revert tick
      simp +contextual [State.handled, phase, ProcessorPhase.accepted]
  | _ => exact ⟨fun _ h => .inl h, fun _ h => .inl h⟩

/-- A step that neither queues a check nor ends one produces nothing, and keeps the book. -/
theorem Step.book (h : Step sched s a s') (hqueue : a ≠ .queueCheck) (hfinish : a ≠ .finishCheck)
    {asked : List (Tick × CheckConfig)} (hb : Booked asked s.executor) :
    s'.executor.produced = s.executor.produced ∧ Booked asked s'.executor := by
  cases h with
  | queueCheck => exact absurd rfl hqueue
  | finishCheck => exact absurd rfl hfinish
  | startCheck hs =>
    obtain ⟨check, rest, -, -, hexecutor⟩ := CheckExecutor.start_eq_some hs
    exact ⟨by rw [hexecutor], hb.start hs⟩
  | cancel => exact ⟨rfl, hb.cancel⟩
  | queueCheckError | sendBundleError | accept | breakOff | executorDown | writeWatermarkFatal =>
    exact ⟨rfl, hb.dropReceivers _⟩
  | _ => exact ⟨rfl, hb⟩

/-- A check that is queued is written in the book. -/
theorem Step.book_queueCheck (h : Step sched s .queueCheck s') {k : Nat} {tick : Tick}
    {config : CheckConfig} {configs : List CheckConfig} {results : List Nat}
    (hphase : s.scheduler = .queueing k tick (config :: configs) results)
    {asked : List (Tick × CheckConfig)} (hb : Booked asked s.executor) :
    config.shouldRun sched.newV5 tick sched.region = true ∧
      s'.executor.produced = s.executor.produced ∧
      Booked (asked ++ [(tick, config)]) s'.executor ∧
      s'.scheduler = .queueing k tick configs (results ++ [asked.length]) ∧
      s'.scheduled = s.scheduled := by
  cases h with
  | queueCheck phase run hq =>
    cases phase.symm.trans hphase
    obtain ⟨-, hcheck, hexecutor⟩ := CheckExecutor.queueCheck_eq_some hq
    exact ⟨run, by rw [hexecutor], hb.queueCheck hq, by rw [hcheck, hb.opened], rfl⟩

/-- The store holds a map after any step, if it did before. -/
theorem Step.store (h : Step sched s a s')
    (hs : ∃ map, ConfigStore.Refines sched.newV5 s.configStore map) :
    ∃ map, ConfigStore.Refines sched.newV5 s'.configStore map := by
  obtain ⟨map, hs⟩ := hs
  cases h with
  | @addConfig now config store hadd =>
    obtain ⟨store', hadd', hrefines⟩ := ConfigStore.addConfig_refines hs now config
    cases hadd.symm.trans hadd'
    exact ⟨_, hrefines⟩
  | @removeConfig now id store hremove =>
    obtain ⟨store', hremove', hrefines⟩ := ConfigStore.removeConfig_refines hs now id
    cases hremove.symm.trans hremove'
    exact ⟨_, hrefines⟩
  | _ => exact ⟨map, hs⟩

/-! ## The invariant -/

/-- A tick and the channels of its checks, as far as they have been queued, when these configs are
left of those that were read. -/
def Filled (sched : Scheduler) (h : Ledger) (tick : Tick) (results : List Nat)
    (configs : List CheckConfig) : Prop :=
  ∃ r ∈ h.read, r.tick = tick ∧
    results.map (h.asked[·]?) ++
        (dueHere sched tick configs).map (fun config => some (tick, config)) =
      (dueHere sched tick r.configs).map fun config => some (tick, config)

/-- A result was produced for each check of a tick. -/
def Reported (sched : Scheduler) (h : Ledger) (tick : Tick) : Prop :=
  ∃ r ∈ h.read, r.tick = tick ∧ ∀ config ∈ dueHere sched tick r.configs,
    ∃ result ∈ h.state.executor.produced, resultKey result = checkKey (tick, config)

/-- What every ledger keeps. -/
structure Kept (sched : Scheduler) (h : Ledger) : Prop where
  store : ∃ map, ConfigStore.Refines sched.newV5 h.state.configStore map
  booked : Booked h.asked h.state.executor
  read : h.read.map (·.tick) = h.state.scheduled
  right : ∀ r ∈ h.read, r.Right sched
  asked : ∃ lost, h.asked ++ stillToAsk sched h.state.scheduler ++ lost = expected sched h.read ∧
    (lost ≠ [] → h.state.scheduler = .returned)
  filling : ∀ k tick configs results, h.state.scheduler = .queueing k tick configs results →
    Filled sched h tick results configs
  sent : ∀ b ∈ h.state.sentBundles, Filled sched h b.tick b.checks []
  accepted : ∀ tick ∈ h.state.handled, Reported sched h tick

/-- The channels of a tick are known, and later checks do not change what they are for. -/
private theorem Filled.map_eq {tick : Tick} {results : List Nat} {configs : List CheckConfig}
    (hf : Filled sched h tick results configs) (more : List (Tick × CheckConfig)) :
    results.map ((h.asked ++ more)[·]?) = results.map (h.asked[·]?) := by
  obtain ⟨r, hr, -, hfilled⟩ := hf
  apply List.map_congr_left
  intro channel hc
  have hmem : h.asked[channel]? ∈
      (dueHere sched tick r.configs).map fun config => some (tick, config) := by
    rw [← hfilled]
    exact List.mem_append_left _ (List.mem_map_of_mem hc)
  obtain ⟨config, -, hconfig⟩ := List.mem_map.mp hmem
  rw [List.getElem?_append_left (List.getElem?_eq_some_iff.mp hconfig.symm).1]

theorem Filled.mono {tick : Tick} {results : List Nat} {configs : List CheckConfig}
    (hf : Filled sched h tick results configs) (hread : h.read ⊆ h'.read)
    (hasked : h.asked <+: h'.asked) : Filled sched h' tick results configs := by
  obtain ⟨more, hmore⟩ := hasked
  have hsame := hf.map_eq more
  obtain ⟨r, hr, htick, hfilled⟩ := hf
  exact ⟨r, hread hr, htick, by rw [← hmore, hsame, hfilled]⟩

/-- When all checks of a tick are resolved, each has a result. -/
theorem Filled.reported {tick : Tick} {results : List Nat} (hf : Filled sched h tick results [])
    (hb : Booked h.asked h.state.executor)
    (hresolved : ∀ check ∈ results, ∃ result,
      (h.state.executor.oneshots check).message = .sent result) : Reported sched h tick := by
  obtain ⟨r, hr, htick, hfilled⟩ := hf
  refine ⟨r, hr, htick, fun config hc => ?_⟩
  have hmem : some (tick, config) ∈ results.map (h.asked[·]?) := by
    have hdue : some (tick, config) ∈
        (dueHere sched tick r.configs).map fun config => some (tick, config) :=
      List.mem_map.mpr ⟨config, hc, rfl⟩
    rw [← hfilled] at hdue
    simpa [dueHere] using hdue
  obtain ⟨channel, hchannel, hasked⟩ := List.mem_map.mp hmem
  obtain ⟨result, hsent⟩ := hresolved channel hchannel
  obtain ⟨produced, hmem, -, hreports⟩ := hb.sent channel result hsent
  rw [Reports, hasked] at hreports
  exact ⟨produced, hmem, (Option.some.inj hreports).symm⟩

theorem Reported.mono {tick : Tick} (hr : Reported sched h tick) (hread : h.read ⊆ h'.read)
    (hproduced : h.state.executor.produced ⊆ h'.state.executor.produced) :
    Reported sched h' tick := by
  obtain ⟨r, hr, htick, hreported⟩ := hr
  refine ⟨r, hread hr, htick, fun config hc => ?_⟩
  obtain ⟨result, hmem, hkey⟩ := hreported config hc
  exact ⟨result, hproduced hmem, hkey⟩

/-- Bundles on their way stay filled, and ticks that are accepted are reported. -/
private theorem Kept.moves (hk : Kept sched h) (g : Ledger) (hstep : Step sched h.state a g.state)
    (hread : h.read ⊆ g.read) (hasked : h.asked <+: g.asked)
    (hproduced : h.state.executor.produced ⊆ g.state.executor.produced) :
    (∀ b ∈ g.state.sentBundles, Filled sched g b.tick b.checks []) ∧
      ∀ tick ∈ g.state.handled, Reported sched g tick := by
  obtain ⟨hsent, haccepted⟩ := hstep.moves
  refine ⟨fun b hb => ?_, fun tick htick => ?_⟩
  · rcases hsent b hb with hold | ⟨k, phase⟩
    · exact (hk.sent b hold).mono hread hasked
    · exact (hk.filling k b.tick [] b.checks phase).mono hread hasked
  · rcases haccepted tick htick with hold | ⟨b, hb, rfl, hresolved⟩
    · exact (hk.accepted tick hold).mono hread hproduced
    · exact ((hk.sent b hb).reported hk.booked hresolved).mono hread hproduced

/-- While the loop has not returned, what was not asked for is still to be asked for. -/
theorem Kept.asked_eq (hk : Kept sched h) (hphase : h.state.scheduler ≠ .returned) :
    h.asked ++ stillToAsk sched h.state.scheduler = expected sched h.read := by
  obtain ⟨lost, hall, hlost⟩ := hk.asked
  have hnone : lost = [] := by
    by_contra hne
    exact hphase (hlost hne)
  rw [hnone, List.append_nil] at hall
  exact hall

/-- The configs of a new tick are read. -/
private theorem Kept.tick (hk : Kept sched h) {k : Nat} {tick : Tick} {configs : List CheckConfig}
    (hstep : Step sched h.state .tick s') (hphase : s'.scheduler = .queueing k tick configs []) :
    Kept sched ⟨s', h.read ++ [⟨tick, h.state.configStore, configs⟩], h.asked⟩ := by
  obtain ⟨hproduced, hbooked⟩ := hstep.book nofun nofun hk.booked
  obtain ⟨hsent, haccepted⟩ := hk.moves
    ⟨s', h.read ++ [⟨tick, h.state.configStore, configs⟩], h.asked⟩ hstep
    (List.subset_append_left _ _) (List.prefix_refl _) (hproduced ▸ List.Subset.refl _)
  obtain ⟨map, hstore⟩ := hk.store
  cases hstep with
  | @tick _ _ bucket _ phase htick hbucket hconfigs =>
    cases hphase
    refine ⟨⟨map, hstore⟩, hbooked, ?_, ?_, ⟨[], ?_, fun hne => absurd rfl hne⟩, ?_, hsent,
      haccepted⟩
    · show List.map _ (h.read ++ [_]) = h.state.scheduled ++ [tick]
      rw [List.map_append, hk.read]
      rfl
    · intro r hr
      rcases List.mem_append.mp hr with hr | hr
      · exact hk.right r hr
      · cases List.mem_singleton.mp hr
        exact right_of_enumerates hstore (tickAt_eq_some htick).1 hbucket hconfigs
    · have hasked := hk.asked_eq (by rw [phase]; nofun)
      rw [phase, stillToAsk_ticking, List.append_nil] at hasked
      rw [expected, List.flatMap_append, ← expected, ← hasked, List.flatMap_singleton,
        List.append_nil]
      rfl
    · intro k' tick' configs' results' heq
      cases heq
      exact ⟨_, List.mem_append_right _ List.mem_cons_self, rfl, rfl⟩

/-- The next check of the tick is asked for. -/
private theorem Kept.queueCheck (hk : Kept sched h) {k : Nat} {tick : Tick} {config : CheckConfig}
    {configs : List CheckConfig} {results : List Nat}
    (phase : h.state.scheduler = .queueing k tick (config :: configs) results)
    (hstep : Step sched h.state .queueCheck s') :
    Kept sched ⟨s', h.read, h.asked ++ [(tick, config)]⟩ := by
  obtain ⟨hrun, hproduced, hbooked, hphase, hscheduled⟩ := hstep.book_queueCheck phase hk.booked
  have hprefix : h.asked <+: h.asked ++ [(tick, config)] := List.prefix_append _ _
  obtain ⟨hsent, haccepted⟩ := hk.moves ⟨s', h.read, h.asked ++ [(tick, config)]⟩ hstep
    (List.Subset.refl _) hprefix (hproduced ▸ List.Subset.refl _)
  have hdue : dueHere sched tick (config :: configs) = config :: dueHere sched tick configs :=
    List.filter_cons_of_pos hrun
  refine ⟨hstep.store hk.store, hbooked, hk.read.trans hscheduled.symm, hk.right,
    ⟨[], ?_, fun hne => absurd rfl hne⟩, ?_, hsent, haccepted⟩
  · have hasked := hk.asked_eq (by rw [phase]; nofun)
    rw [phase, stillToAsk, hdue, List.map_cons] at hasked
    rw [← hasked, List.append_nil, hphase, stillToAsk, List.append_assoc, List.singleton_append]
  · intro k' tick' configs' results' heq
    cases hphase.symm.trans heq
    have hfilling := hk.filling _ _ _ _ phase
    have hsame := hfilling.map_eq [(tick, config)]
    obtain ⟨r, hr, htick, hfilled⟩ := hfilling
    refine ⟨r, hr, htick, ?_⟩
    show (results ++ [h.asked.length]).map ((h.asked ++ [(tick, config)])[·]?) ++ _ = _
    rw [← hfilled, hdue, List.map_append, hsame, List.map_singleton, List.getElem?_concat_length,
      List.append_assoc]
    rfl

/-- A check ends, for which the checker has answered. -/
private theorem Kept.finishCheck (hk : Kept sched h) (hwf : h.state.executor.WellFormed) {i : Nat}
    {check : ScheduledCheck} {readings : CheckReadings} {executor : CheckExecutor}
    (hi : h.state.executor.running[i]? = some check)
    (hanswers : Answers lib ext sched.conf.region check readings)
    (hf : h.state.executor.finish sched.conf i readings = some executor) :
    Kept sched ⟨{ h.state with executor := executor }, h.read, h.asked⟩ := by
  obtain ⟨checker, met, hanswer⟩ := hanswers
  have hbooked := hk.booked.finish hwf hi (ReqwestChecker.resultKey_checkUrl hanswer) hf
  obtain ⟨results, -, hproduced⟩ := CheckExecutor.produced_finish hf
  obtain ⟨hsent, haccepted⟩ := hk.moves
    ⟨{ h.state with executor := executor }, h.read, h.asked⟩ (.finishCheck hf)
    (List.Subset.refl _) (List.prefix_refl _) (hproduced ▸ List.subset_append_left _ _)
  exact ⟨hk.store, hbooked, hk.read, hk.right, hk.asked, hk.filling, hsent, haccepted⟩

/-- Any other step. -/
private theorem Kept.other (hk : Kept sched h) (hstep : Step sched h.state a s') (htick : a ≠ .tick)
    (hqueue : a ≠ .queueCheck) (hfinish : a ≠ .finishCheck) : Kept sched ⟨s', h.read, h.asked⟩ := by
  obtain ⟨hproduced, hbooked⟩ := hstep.book hqueue hfinish hk.booked
  obtain ⟨hsent, haccepted⟩ := hk.moves ⟨s', h.read, h.asked⟩ hstep
    (List.Subset.refl _) (List.prefix_refl _) (hproduced ▸ List.Subset.refl _)
  obtain ⟨hasks, hfilling⟩ := hstep.asks htick hqueue
  refine ⟨hstep.store hk.store, hbooked, ?_, hk.right, ?_, ?_, hsent, haccepted⟩
  · rw [hk.read]
    cases hstep with
    | tick => exact absurd rfl htick
    | _ => rfl
  · obtain ⟨lost, hall, hlost⟩ := hk.asked
    rcases hasks with hreturned | ⟨hphase, hsame⟩ | hsame
    · refine ⟨stillToAsk sched h.state.scheduler ++ lost, ?_, fun _ => hreturned⟩
      show h.asked ++ stillToAsk sched s'.scheduler ++ _ = _
      rw [hreturned, stillToAsk_returned, List.append_nil, ← List.append_assoc]
      exact hall
    · refine ⟨lost, ?_, fun hne => absurd (hlost hne) hphase⟩
      show h.asked ++ stillToAsk sched s'.scheduler ++ _ = _
      rw [hsame]
      exact hall
    · exact ⟨lost, hsame ▸ hall, fun hne => hsame.trans (hlost hne)⟩
  · intro k tick configs results heq
    obtain ⟨configs', phase, hdue⟩ := hfilling k tick configs results heq
    obtain ⟨r, hr, htick, hfilled⟩ := hk.filling _ _ _ _ phase
    exact ⟨r, hr, htick, hdue ▸ hfilled⟩

theorem kept_of_reachable (hs : (ledger lib ext sched).Reachable h) : Kept sched h := by
  refine hs.invariant_of (Q := fun h => Pipeline sched h.state)
    (fun h hs => pipeline_of_reachable (reachable_of_ledger hs)) ?_ ?_
  · rintro h ⟨configStore, map, watermark, hstore, rfl⟩
    refine ⟨⟨map, hstore⟩, CheckExecutor.booked_new, rfl,
      fun r hr => (List.not_mem_nil hr).elim,
      ⟨[], rfl, fun hne => absurd rfl hne⟩, ?_, ?_, ?_⟩
    · intro k tick configs results heq
      cases heq
    · intro b hb
      cases hb
    · intro tick htick
      cases htick
  · intro h a h' hp hk ⟨_, hstep⟩
    cases hstep with
    | tick hstep phase => exact hk.tick hstep phase
    | queueCheck phase hstep => exact hk.queueCheck phase hstep
    | finishCheck hi hanswers hf => exact hk.finishCheck hp.executor hi hanswers hf
    | other hstep htick hqueue hfinish => exact hk.other hstep htick hqueue hfinish

/-- No check is asked for twice. -/
private theorem Kept.nodup_asked (hk : Kept sched h) (hp : Pipeline sched h.state) :
    (h.asked.map checkKey).Nodup := by
  obtain ⟨lost, hall, -⟩ := hk.asked
  have hexpected := nodup_expected (hk.read ▸ hp.schedule.pairwise) hk.right
  rw [← hall, List.append_assoc, List.map_append] at hexpected
  exact (List.nodup_append.mp hexpected).1

/-- A result is of a config that the store held when the tick was read, that was due at the tick and
that runs in this region. -/
theorem Kept.exists_config (hk : Kept sched h) {result : CheckResult}
    (hresult : result ∈ h.state.executor.produced) : ∃ r ∈ h.read, ∃ config : CheckConfig,
      r.store.configs[config.subscriptionId]? = some config ∧ config.dueAt sched.newV5 r.tick ∧
        config.shouldRun sched.newV5 r.tick sched.region = true ∧
        resultKey result = (config.subscriptionId, r.tick.time) := by
  obtain ⟨q, hq, hkey⟩ := hk.booked.accounted.exists_asked hresult
  obtain ⟨lost, hall, -⟩ := hk.asked
  have hmem : q ∈ expected sched h.read := by
    rw [← hall]
    exact List.mem_append_left _ (List.mem_append_left _ hq)
  obtain ⟨r, hr, hmem⟩ := List.mem_flatMap.mp hmem
  obtain ⟨config, hconfig, rfl⟩ := List.mem_map.mp hmem
  obtain ⟨hconfig, hrun⟩ := List.mem_filter.mp hconfig
  obtain ⟨hstored, hdue⟩ := ((hk.right r hr).mem_iff config).mp hconfig
  exact ⟨r, hr, config, hstored, hdue, hrun, hkey.symm⟩

/-- No two results are of one subscription and one time. -/
theorem Kept.nodup_produced (hk : Kept sched h) (hp : Pipeline sched h.state) :
    (h.state.executor.produced.map resultKey).Nodup :=
  hk.booked.accounted.nodup (hk.nodup_asked hp)

/-- A tick that is accepted was read, and each config of the reading that runs here is reported. -/
theorem Kept.exists_reading (hk : Kept sched h) {tick : Tick} (htick : tick ∈ h.state.handled) :
    ∃ r ∈ h.read, r.tick = tick ∧ ∀ config : CheckConfig,
      r.store.configs[config.subscriptionId]? = some config → config.dueAt sched.newV5 tick →
        config.shouldRun sched.newV5 tick sched.region = true →
          checkKey (tick, config) ∈ h.state.executor.produced.map resultKey := by
  obtain ⟨r, hr, rfl, hreported⟩ := hk.accepted tick htick
  refine ⟨r, hr, rfl, ?_⟩
  intro config hstored hdue hrun
  have hconfig := ((hk.right r hr).mem_iff config).mpr ⟨hstored, hdue⟩
  obtain ⟨result, hmem, hkey⟩ := hreported config (List.mem_filter.mpr ⟨hconfig, hrun⟩)
  exact List.mem_map.mpr ⟨result, hmem, hkey⟩

/-- No two results are of one subscription and one time, and each is of a config that the store held
when the tick was read, that was due at the tick and that runs in this region. -/
theorem reported_once (hs : (ledger lib ext sched).Reachable h) :
    (h.state.executor.produced.map resultKey).Nodup ∧
      ∀ result ∈ h.state.executor.produced, ∃ r ∈ h.read, ∃ config : CheckConfig,
        r.store.configs[config.subscriptionId]? = some config ∧
          config.dueAt sched.newV5 r.tick ∧
          config.shouldRun sched.newV5 r.tick sched.region = true ∧
          resultKey result = (config.subscriptionId, r.tick.time) := by
  have hk := kept_of_reachable hs
  have hp := pipeline_of_reachable (reachable_of_ledger hs)
  exact ⟨hk.nodup_produced hp, fun result hresult => hk.exists_config hresult⟩

/-- A tick that the processor has accepted has exactly one result for each config that the store
held when the tick was read, that was due at the tick and that runs in this region. -/
theorem accepted_reported (hs : (ledger lib ext sched).Reachable h) {tick : Tick}
    (htick : tick ∈ h.state.handled) :
    ∃ r ∈ h.read, r.tick = tick ∧ ∀ config : CheckConfig,
      r.store.configs[config.subscriptionId]? = some config → config.dueAt sched.newV5 tick →
        config.shouldRun sched.newV5 tick sched.region = true →
          (h.state.executor.produced.map resultKey).count
            (config.subscriptionId, tick.time) = 1 := by
  have hk := kept_of_reachable hs
  have hp := pipeline_of_reachable (reachable_of_ledger hs)
  obtain ⟨r, hr, hsame, hreported⟩ := hk.exists_reading htick
  refine ⟨r, hr, hsame, fun config hstored hdue hrun => ?_⟩
  exact List.count_eq_one_of_mem (hk.nodup_produced hp) (hreported config hstored hdue hrun)

/-! ## One check -/

/-- A config of two regions, the first of which runs it at second 28. -/
def turns : CheckConfig :=
  { CheckConfig.default with
    activeRegions := some ["us", "eu"]
    regionScheduleMode := some .roundRobin }

/-- A scheduler of a region that starts at a given second. -/
def startingIn (region : String) (start : Nat) (h : start < 8210266876800) : Scheduler :=
  { startingAt start h with region := region, conf := ⟨0, 1, region⟩ }

/-- The check of a tick. -/
private def checkOf (tick : Tick) : ScheduledCheck := .new .uptime tick turns false 0

/-- The server answers it. -/
private theorem exists_answer (tick : Tick) : ∃ result,
    (ReqwestChecker.plainChecker.checkUrl ReqwestChecker.plainCheckerExternals (checkOf tick) "us"
      ReqwestChecker.hiReadings).1 = some result ∧ result.status = .success := by
  obtain ⟨result, hresult⟩ := @ReqwestChecker.checkUrl_of_assertPath _
    ReqwestChecker.plainCheckerExternals ReqwestChecker.plainChecker (checkOf tick) "us"
    ReqwestChecker.hiReadings rfl
  exact ⟨result, hresult, (ReqwestChecker.checkUrl_eq_some hresult).1.trans rfl⟩

/-- A step that reads no configs, and neither queues a check nor ends one. -/
theorem LedgerStep.plain (hstep : Step sched h.state a s')
    (hplain : [Action.tick, .queueCheck, .finishCheck].contains a = false) :
    LedgerStep lib ext sched h a ⟨s', h.read, h.asked⟩ := by
  refine .other hstep ?_ ?_ ?_ <;>
  · rintro rfl
    cases hplain

/-- The tick of second 28 is read, in a region, from a store that holds the config. -/
theorem reachable_reading {region : String} {store : ConfigStore}
    (hadd : ConfigStore.new.addConfig constV5 0 turns = some store)
    (hstore : Holds store turns constV5) :
    (ledgerFrom Assertions.Compiled.plainExternals ReqwestChecker.plainCheckerExternals
        (startingIn region 28 (by decide)) none).Reachable
      ⟨⟨store, .queueing 0 (tickOfSecs 28 (by decide)) [turns] [], [], .receiving, .new, none,
        [tickOfSecs 28 (by decide)], [], [], false⟩,
        [⟨tickOfSecs 28 (by decide), store, [turns]⟩], []⟩ := by
  let sys := ledgerFrom Assertions.Compiled.plainExternals ReqwestChecker.plainCheckerExternals
    (startingIn region 28 (by decide)) none
  have h0 : sys.Reachable ⟨initial .new none, [], []⟩ :=
    .init ⟨_, _, ConfigStore.new_refines, rfl⟩
  have h1 : sys.Reachable ⟨initial store none, [], []⟩ :=
    h0.step ⟨fun _ => rfl, rfl, .plain (.addConfig hadd) rfl⟩
  obtain ⟨bucket, hbucket, henum⟩ := hstore (.ofSecs 28 (by decide))
  rw [if_pos (by decide)] at henum
  have htick : (startingIn region 28 (by decide)).tickAt 0 = some (tickOfSecs 28 (by decide)) :=
    tickAt_ofSecs (by decide : 28 < 8210266876800) rfl (by decide)
  exact h1.step ⟨fun _ => rfl, rfl, .tick (.tick rfl htick hbucket henum) rfl⟩

theorem mem_handled_of_accepted {batch : List ExecutionBundle} {tick : Tick}
    (phase : s.processor = .handling batch (some tick)) : tick ∈ s.handled := by
  rw [State.handled, phase]
  exact List.mem_append_right _ (List.mem_singleton_self _)

/-- Tick 28 has one check, which succeeds, and the processor accepts the tick. -/
theorem exists_ledger_us :
    ∃ h store, (ledgerFrom Assertions.Compiled.plainExternals ReqwestChecker.plainCheckerExternals
        (startingIn "us" 28 (by decide)) none).Reachable h ∧
      h.read = [⟨tickOfSecs 28 (by decide), store, [turns]⟩] ∧
      h.state.processor = .handling [] (some (tickOfSecs 28 (by decide))) ∧
      h.state.executor.panicked = false ∧ h.state.executor.produced.length = 1 := by
  obtain ⟨store, hadd, hstore⟩ := exists_singleton_store constV5 turns
  obtain ⟨result, hresult, hsuccess⟩ := exists_answer (tickOfSecs 28 (by decide))
  let t28 := tickOfSecs 28 (by decide)
  let e1 : CheckExecutor :=
    ⟨[checkOf t28], true, [], 1, fun i => if i = 0 then ⟨.pending, true⟩ else ⟨.dropped, false⟩,
      [], false⟩
  let e2 : CheckExecutor := { e1 with queue := [], running := [checkOf t28] }
  let readings : CheckReadings := ⟨t28.time, t28.time, 0, 0, result, none⟩
  let e3 : CheckExecutor :=
    { e2 with running := [], produced := [result] }.setMessage 0 (.sent (some result))
  have hfinish : e2.finish ⟨0, 1, "us"⟩ 0 readings = some e3 := by
    have hdo : CheckExecutor.doCheck ⟨0, 1, "us"⟩ { e2 with running := [] } (checkOf t28) readings =
        e3 := by
      have hretry : CheckExecutor.willRetry 1 (checkOf t28) result = false := by
        rw [CheckExecutor.willRetry, hsuccess]
        rfl
      have hcheck : CheckExecutor.checkResult "us" (checkOf t28) readings = some result := rfl
      simp only [CheckExecutor.doCheck, hcheck, hretry]
      rfl
    rw [← hdo]
    rfl
  let sys := ledgerFrom Assertions.Compiled.plainExternals ReqwestChecker.plainCheckerExternals
    (startingIn "us" 28 (by decide)) none
  have h2 := @reachable_reading "us" store hadd hstore
  have hrun : turns.shouldRun constV5 t28 "us" = true := by decide
  have h3 : sys.Reachable ⟨⟨store, .queueing 0 t28 [] [0], [], .receiving, e1, none, [t28],
      [(t28, 0)], [], false⟩, [⟨t28, store, [turns]⟩], [(t28, turns)]⟩ :=
    h2.step ⟨fun _ => rfl, rfl,
      .queueCheck rfl (@Step.queueCheck _ _ 0 t28 turns [] [] e1 0 rfl hrun rfl)⟩
  have h4 : sys.Reachable ⟨⟨store, .ticking 1, [⟨t28, [0]⟩], .receiving, e1, none, [t28],
      [(t28, 0)], [], false⟩, [⟨t28, store, [turns]⟩], [(t28, turns)]⟩ :=
    h3.step ⟨fun _ => rfl, rfl, .plain (.sendBundle rfl (by simp)) rfl⟩
  have h5 : sys.Reachable ⟨⟨store, .ticking 1, [⟨t28, [0]⟩], .receiving, e2, none, [t28],
      [(t28, 0)], [], false⟩, [⟨t28, store, [turns]⟩], [(t28, turns)]⟩ :=
    h4.step ⟨fun _ => rfl, rfl, .plain (.startCheck rfl) rfl⟩
  have h6 : sys.Reachable ⟨⟨store, .ticking 1, [⟨t28, [0]⟩], .receiving, e3, none, [t28],
      [(t28, 0)], [], false⟩, [⟨t28, store, [turns]⟩], [(t28, turns)]⟩ :=
    h5.step ⟨fun _ => rfl, rfl, .finishCheck (i := 0) rfl ⟨_, _, hresult⟩ hfinish⟩
  have h7 : sys.Reachable ⟨⟨store, .ticking 1, [], .handling [⟨t28, [0]⟩] none, e3, none, [t28],
      [(t28, 0)], [], false⟩, [⟨t28, store, [turns]⟩], [(t28, turns)]⟩ :=
    h6.step ⟨fun _ => rfl, rfl, .plain (.recvMany rfl Nat.one_pos (by decide) (Nat.le_refl 1)) rfl⟩
  have h8 : sys.Reachable ⟨⟨store, .ticking 1, [], .handling [] (some t28), e3.dropReceivers [0],
      none, [t28], [(t28, 0)], [], false⟩, [⟨t28, store, [turns]⟩], [(t28, turns)]⟩ := by
    refine h7.step ⟨fun _ => rfl, rfl, .plain (@Step.accept _ _ ⟨t28, [0]⟩ [] none rfl ?_) rfl⟩
    intro i hi
    rw [List.mem_singleton.mp hi]
    exact ⟨_, rfl⟩
  exact ⟨_, store, h8, rfl, rfl, rfl, rfl⟩

/-- The one result of tick 28 is of a config that was due. -/
theorem reported_once_tick28 :
    ∃ h : Ledger, h.state.executor.produced.length = 1 ∧
      ∀ result ∈ h.state.executor.produced, ∃ r ∈ h.read, ∃ config : CheckConfig,
        r.store.configs[config.subscriptionId]? = some config ∧
          config.dueAt constV5 r.tick ∧
          config.shouldRun constV5 r.tick "us" = true ∧
          resultKey result = (config.subscriptionId, r.tick.time) := by
  obtain ⟨h, -, hs, -, -, -, hone⟩ := exists_ledger_us
  exact ⟨h, hone, (reported_once (ledger_of_from hs)).2⟩

/-- Tick 28 has one result for each config that was due. -/
theorem accepted_reported_tick28 :
    ∃ h : Ledger, tickOfSecs 28 (by decide) ∈ h.state.handled ∧
      ∃ r ∈ h.read, r.tick = tickOfSecs 28 (by decide) ∧ ∀ config : CheckConfig,
        r.store.configs[config.subscriptionId]? = some config →
          config.dueAt constV5 (tickOfSecs 28 (by decide)) →
          config.shouldRun constV5 (tickOfSecs 28 (by decide)) "us" = true →
            (h.state.executor.produced.map resultKey).count
              (config.subscriptionId, (tickOfSecs 28 (by decide)).time) = 1 := by
  obtain ⟨h, -, hs, -, hprocessor, -⟩ := exists_ledger_us
  have htick := mem_handled_of_accepted hprocessor
  exact ⟨h, htick, accepted_reported (ledger_of_from hs) htick⟩

end Scheduler

end UptimeChecker
