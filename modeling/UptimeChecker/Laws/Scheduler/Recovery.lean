import UptimeChecker.Laws.Scheduler.Ledger
import UptimeChecker.Laws.Scheduler.Restart

/-!
# Nothing is lost over restarts

A watermark promises that everything up to it is done. In a run whose processor accepts no bundle
after it has broken off a batch it is: each check that was due at a tick at or before one written
has a result (`written_reported`). A run that finds a watermark begins no later than the second
after it. So from a run that found none on, as long as every later one finds one, each second up to
the watermark left has all its results from one run or another (`nothing_lost`), wherever the
process was stopped.
-/

namespace UptimeChecker.Scheduler

open Assertions.Compiled (Externals)
open CheckExecutor (Reports checkKey resultKey)

variable {lib : Externals} {ext : CheckerExternals} {sched : Scheduler} {s s' : State} {a : Action}
  {h h' : Ledger} {lastProgress : Option Int64}

/-! ## One run -/

/-- The scheduler in such a ledger. -/
theorem unbroken_of_from (hs : (ledgerFrom lib ext sched lastProgress).Reachable h) :
    ((sched.systemFrom lastProgress).guarded AcceptsUnbroken).Reachable h.state := by
  induction hs with
  | init hinit =>
    obtain ⟨configStore, map, -, rfl⟩ := hinit
    exact .init ⟨_, rfl⟩
  | step _ hstep ih => exact ih.step ⟨hstep.1, hstep.2.1, hstep.2.2.step⟩

/-- The ticks that the processor has been given. -/
def State.passed (s : State) : List Tick := s.handled ++ s.sentBundles.map (·.tick)

/-- The checks that were not asked for. -/
def Ledger.unasked (sched : Scheduler) (h : Ledger) : List (Tick × CheckConfig) :=
  (expected sched h.read).drop h.asked.length

theorem Kept.asked_append_unasked (hk : Kept sched h) :
    h.asked ++ h.unasked sched = expected sched h.read := by
  obtain ⟨lost, hall, -⟩ := hk.asked
  rw [Ledger.unasked, ← hall, List.append_assoc, List.drop_left]

theorem Kept.unasked_eq (hk : Kept sched h) (hphase : h.state.scheduler ≠ .returned) :
    h.unasked sched = stillToAsk sched h.state.scheduler := by
  rw [Ledger.unasked, ← hk.asked_eq hphase, List.drop_left]

/-- The tick whose checks are being queued is later than those that the processor was given. -/
theorem Pipeline.passed_lt (hp : Pipeline sched s) {k : Nat} {tick : Tick}
    {configs : List CheckConfig} {results : List Nat}
    (phase : s.scheduler = .queueing k tick configs results) :
    ∀ t ∈ s.passed, t.time.nanos < tick.time.nanos := by
  have hticks : s.ticks = s.passed ++ [tick] := by
    simp [State.ticks, State.bundles, State.passed, State.sentBundles, phase,
      SchedulerPhase.current]
  have hpairwise := hp.pairwise
  rw [hticks] at hpairwise
  intro t ht
  exact (List.pairwise_append.mp hpairwise).2.2 t ht tick (List.mem_singleton_self _)

/-- The processor is given a tick when all its checks have been queued. -/
theorem Step.passed (hstep : Step sched s a s') {tick : Tick} (htick : tick ∈ s'.passed) :
    tick ∈ s.passed ∨ ∃ k results, s.scheduler = .queueing k tick [] results := by
  obtain ⟨hsent, haccepted⟩ := hstep.moves
  rcases List.mem_append.mp htick with htick | htick
  · rcases haccepted tick htick with hold | ⟨b, hb, rfl, -⟩
    · exact .inl (List.mem_append_left _ hold)
    · exact .inl (List.mem_append_right _ (List.mem_map_of_mem hb))
  · obtain ⟨b, hb, rfl⟩ := List.mem_map.mp htick
    rcases hsent b hb with hold | ⟨k, phase⟩
    · exact .inl (List.mem_append_right _ (List.mem_map_of_mem hold))
    · exact .inr ⟨k, b.checks, phase⟩

/-- The loop asks in turn: each check has the channel of its place, and one that was not asked for
is later than every tick that the processor was given. -/
structure InTurn (sched : Scheduler) (h : Ledger) : Prop where
  queued : ∀ channel q, h.asked[channel]? = some q → (q.1, channel) ∈ h.state.queued
  unasked : ∀ q ∈ h.unasked sched, ∀ tick ∈ h.state.passed, tick.time.nanos < q.1.time.nanos

/-- What is still to be asked for is of the current tick. -/
private theorem Kept.unasked_lt (hk : Kept sched h) (hp : Pipeline sched h.state) {k : Nat}
    {tick : Tick} {configs : List CheckConfig} {results : List Nat}
    (phase : h.state.scheduler = .queueing k tick configs results) :
    ∀ q ∈ h.unasked sched, ∀ t ∈ h.state.passed, t.time.nanos < q.1.time.nanos := by
  intro q hq t ht
  rw [hk.unasked_eq (by rw [phase]; nofun), phase] at hq
  obtain ⟨config, -, rfl⟩ := List.mem_map.mp hq
  exact hp.passed_lt phase t ht

/-- A step that neither reads configs nor asks for a check. -/
private theorem InTurn.other (hi : InTurn sched h) (hk : Kept sched h)
    (hstep : Step sched h.state a s') : InTurn sched ⟨s', h.read, h.asked⟩ := by
  refine ⟨fun channel q hq => ?_, fun q hq tick htick => ?_⟩
  · have hold := hi.queued channel q hq
    rcases hstep.queued with hsame | ⟨_, _, _, _, _, _, _, hmore, _⟩
    · exact hsame ▸ hold
    · exact hmore ▸ List.mem_append_left _ hold
  · rcases hstep.passed htick with hold | ⟨k, results, phase⟩
    · exact hi.unasked q hq tick hold
    · have hnone : h.unasked sched = [] := by
        rw [hk.unasked_eq (by rw [phase]; nofun), phase]
        rfl
      have hmem : q ∈ h.unasked sched := hq
      rw [hnone] at hmem
      cases hmem

theorem InTurn.step (hi : InTurn sched h) (hk : Kept sched h) (hk' : Kept sched h')
    (hp' : Pipeline sched h'.state) (hstep : LedgerStep lib ext sched h a h') :
    InTurn sched h' := by
  cases hstep with
  | tick hstep phase =>
    refine ⟨fun channel q hq => ?_, hk'.unasked_lt hp' phase⟩
    have hold := hi.queued channel q hq
    cases hstep with
    | tick => exact hold
  | queueCheck phase hstep =>
    have hphase := (hstep.book_queueCheck phase hk.booked).2.2.2.1
    refine ⟨fun channel q hq => ?_, hk'.unasked_lt hp' hphase⟩
    cases hstep with
    | queueCheck phase' run hqueue =>
      cases phase'.symm.trans phase
      obtain ⟨-, rfl, -⟩ := CheckExecutor.queueCheck_eq_some hqueue
      rw [← hk.booked.opened]
      rcases Nat.lt_or_ge channel h.asked.length with hlt | hge
      · rw [List.getElem?_append_left hlt] at hq
        exact List.mem_append_left _ (hi.queued channel q hq)
      · have hlast := (List.getElem?_eq_some_iff.mp hq).1
        rw [List.length_append, List.length_singleton] at hlast
        obtain rfl : channel = h.asked.length := by omega
        rw [List.getElem?_concat_length] at hq
        cases hq
        exact List.mem_append_right _ (List.mem_singleton_self _)
  | finishCheck hrunning hanswers hf => exact hi.other hk (.finishCheck hf)
  | other hstep => exact hi.other hk hstep

theorem inTurn_of_reachable (hs : (ledger lib ext sched).Reachable h) : InTurn sched h := by
  induction hs with
  | init hinit =>
    obtain ⟨configStore, map, watermark, -, rfl⟩ := hinit
    refine ⟨fun channel q hq => ?_, fun q hq => absurd hq List.not_mem_nil⟩
    cases List.getElem?_nil.symm.trans hq
  | step hs hstep ih =>
    have hs' := hs.step hstep
    exact ih.step (kept_of_reachable hs) (kept_of_reachable hs')
      (pipeline_of_reachable (reachable_of_ledger hs')) hstep.2

/-- Each tick at or before one written has exactly one result for each config that the store held
when the tick was read, that was due at the tick and that runs in this region. -/
theorem written_reported (hs : (ledgerFrom lib ext sched lastProgress).Reachable h)
    {tick last : Tick} (htick : tick ∈ h.state.scheduled) (hlast : last ∈ h.state.written)
    (hle : tick.time.nanos ≤ last.time.nanos) :
    ∃ r ∈ h.read, r.tick = tick ∧ ∀ config : CheckConfig,
      r.store.configs[config.subscriptionId]? = some config → config.dueAt sched.newV5 tick →
        config.shouldRun sched.newV5 tick sched.region = true →
          (h.state.executor.produced.map resultKey).count
            (config.subscriptionId, tick.time) = 1 := by
  have hledger := ledger_of_from hs
  have hp := pipeline_of_reachable (reachable_of_ledger hledger)
  have hk := kept_of_reachable hledger
  have hi := inTurn_of_reachable hledger
  have hunbroken : (sched.system.guarded AcceptsUnbroken).Reachable h.state := by
    refine (unbroken_of_from hs).mono ?_ ?_
    · rintro s ⟨configStore, rfl⟩
      exact ⟨configStore, lastProgress, rfl⟩
    · intro s a s' hstep
      exact hstep
  have hsound := watermarkSound_of_unbroken sched h.state hunbroken
  rw [← hk.read] at htick
  obtain ⟨r, hr, rfl⟩ := List.mem_map.mp htick
  refine ⟨r, hr, rfl, fun config hstored hdue hrun => ?_⟩
  apply List.count_eq_one_of_mem (hk.nodup_produced hp)
  have hconfig := ((hk.right r hr).mem_iff config).mpr ⟨hstored, hdue⟩
  have hexpected : (r.tick, config) ∈ expected sched h.read :=
    List.mem_flatMap.mpr ⟨r, hr, List.mem_map.mpr
      ⟨config, List.mem_filter.mpr ⟨hconfig, hrun⟩, rfl⟩⟩
  rw [← hk.asked_append_unasked] at hexpected
  rcases List.mem_append.mp hexpected with hasked | hunasked
  · -- it was asked for, so its channel was resolved, by a result
    obtain ⟨channel, hchannel⟩ := List.mem_iff_getElem?.mp hasked
    obtain ⟨result, hsent⟩ := hsound last hlast _ (hi.queued channel _ hchannel) hle
    obtain ⟨produced, hmem, -, hreports⟩ := hk.booked.sent channel result hsent
    rw [Reports, hchannel] at hreports
    exact List.mem_map.mpr ⟨produced, hmem, (Option.some.inj hreports).symm⟩
  · -- it was not, so it is later than what was written
    have hpassed : last ∈ h.state.passed :=
      List.mem_append_left _ (List.mem_append_left _ hlast)
    exact absurd hle (Int.not_le.mpr (hi.unasked _ hunasked last hpassed))

/-! ## Chains of runs -/

theorem Run.progress (run : Run) : Progress run.lastProgress run.state := by
  refine run.reached.invariant ?_ fun s a s' hs hstep => hs.step hstep.2
  rintro s ⟨configStore, rfl⟩
  exact .inl rfl

/-- A run has scheduled a second, and written a tick that is not before it. -/
def Run.Settled (run : Run) (n : Int) : Prop :=
  ∃ tick ∈ run.state.scheduled, tick.time.nanos = n * nanosPerSec ∧
    ∃ last ∈ run.state.written, tick.time.nanos ≤ last.time.nanos

/-- A run has settled each second from its start to a tick it has written. -/
theorem Run.InOrder.settled {run : Run} (h : run.InOrder) {last : Tick}
    (hlast : last ∈ run.state.written) {n : Int} (hstart : run.sched.start.timestamp ≤ n)
    (hn : n * nanosPerSec ≤ last.time.nanos) : run.Settled n := by
  obtain ⟨k, hk⟩ := List.mem_iff_getElem?.mp (h.written last hlast)
  have hnanos : last.time.nanos = (run.sched.start.timestamp + k) * nanosPerSec := by
    rw [(h.ticks k last hk).1, h.starts.aligned.nanos_eq, Int.add_mul]
  have hmem : run.sched.start.timestamp + k ∈ seconds [run] :=
    ⟨run, List.mem_singleton_self _, last, h.written last hlast, hnanos⟩
  have hle : n ≤ run.sched.start.timestamp + k := by
    unfold nanosPerSec at hn hnanos
    omega
  obtain ⟨_, hrun, tick, htick, heq⟩ := h.gapFree _ hmem ⟨hstart, hle⟩
  cases List.mem_singleton.mp hrun
  exact ⟨tick, htick, heq, last, hlast, heq ▸ hn⟩

/-- From a run that found no watermark on, as long as every later run finds one, each second up to
the watermark left has been settled. -/
theorem Chain.exists_settled {later earlier : List Run} {first : Run}
    (h : Chain (later ++ first :: earlier)) (hfirst : first.lastProgress = none)
    (hlater : ∀ run ∈ later, run.lastProgress ≠ none) {progress : Int64}
    (hprogress : watermarkAfter (later ++ first :: earlier) = some progress) {n : Int}
    (hstart : first.sched.start.timestamp ≤ n) (hn : n * nanosPerSec ≤ progress.toInt) :
    ∃ run ∈ later ++ [first], run.Settled n := by
  have hruns := h.inOrder.1
  induction later generalizing progress with
  | nil =>
    rcases first.progress with hfound | ⟨last, hlast, progress', htime, hleft⟩
    · cases (hfirst.symm.trans hfound.symm).trans hprogress
    · cases hleft.symm.trans hprogress
      have hnanos := DateTime.toInt_of_timestampNanosOpt htime
      exact ⟨first, List.mem_singleton_self _,
        (hruns first List.mem_cons_self).settled hlast hstart (hnanos ▸ hn)⟩
  | cons run later ih =>
    cases h with
    | cons h found =>
    have hbefore : ∀ progress', run.lastProgress = some progress' →
        n * nanosPerSec ≤ progress'.toInt → ∃ run ∈ later ++ [first], run.Settled n := by
      intro progress' hfound hle
      exact ih h (fun r hr => hlater r (List.mem_cons_of_mem _ hr)) (found ▸ hfound) hle
        h.inOrder.1
    rcases run.progress with hsame | ⟨last, hlast, progress', htime, hleft⟩
    · obtain ⟨earlier, hmem, hsettled⟩ := hbefore progress (hsame ▸ hprogress) hn
      exact ⟨earlier, List.mem_cons_of_mem _ hmem, hsettled⟩
    · cases hleft.symm.trans hprogress
      have hnanos := DateTime.toInt_of_timestampNanosOpt htime
      obtain ⟨done, hdone⟩ := Option.ne_none_iff_exists'.mp (hlater run List.mem_cons_self)
      rcases Int.lt_or_le done.toInt (n * nanosPerSec) with hlt | hle
      · -- the second is past the watermark that the run has found
        obtain ⟨haligned, hnonneg⟩ := h.inOrder.2 done (found ▸ hdone)
        have hnext := (startTime_some (hdone ▸ run.start) haligned hnonneg).2
        have hfrom : run.sched.start.timestamp ≤ n := by
          unfold DateTime.timestamp nanosPerSec at *
          omega
        exact ⟨run, List.mem_cons_self,
          (hruns run List.mem_cons_self).settled hlast hfrom (hnanos ▸ hn)⟩
      · obtain ⟨earlier, hmem, hsettled⟩ := hbefore done hdone hle
        exact ⟨earlier, List.mem_cons_of_mem _ hmem, hsettled⟩

/-- A run with its ledger. -/
structure RecordedRun (lib : Externals) (ext : CheckerExternals) extends Run where
  ledger : Ledger
  ledger_state : ledger.state = state
  recorded : (ledgerFrom lib ext sched lastProgress).Reachable ledger

/-- Over any chain of crashes and restarts, from a run that found no watermark on and as long as
every later run finds one, each second up to the watermark left was read by a run that produced
exactly one result for each config that its store held then, that was due and that runs in its
region. -/
theorem nothing_lost {later : List (RecordedRun lib ext)} {first : RecordedRun lib ext}
    {earlier : List Run} (h : Chain (later.map (·.toRun) ++ first.toRun :: earlier))
    (hfirst : first.lastProgress = none) (hlater : ∀ run ∈ later, run.lastProgress ≠ none)
    {progress : Int64}
    (hprogress : watermarkAfter (later.map (·.toRun) ++ first.toRun :: earlier) = some progress)
    {n : Int} (hstart : first.sched.start.timestamp ≤ n)
    (hn : n * nanosPerSec ≤ progress.toInt) :
    ∃ run ∈ later ++ [first], ∃ r ∈ run.ledger.read, r.tick.time.nanos = n * nanosPerSec ∧
      ∀ config : CheckConfig, r.store.configs[config.subscriptionId]? = some config →
        config.dueAt run.sched.newV5 r.tick →
        config.shouldRun run.sched.newV5 r.tick run.sched.region = true →
          (run.ledger.state.executor.produced.map resultKey).count
            (config.subscriptionId, r.tick.time) = 1 := by
  have hlater' : ∀ run ∈ later.map (·.toRun), run.lastProgress ≠ none :=
    List.forall_mem_map.mpr hlater
  obtain ⟨run, hrun, tick, htick, hnanos, last, hlast, hle⟩ :=
    h.exists_settled hfirst hlater' hprogress hstart hn
  have hmem : run ∈ (later ++ [first]).map (·.toRun) := by
    rw [List.map_append]
    exact hrun
  obtain ⟨recorded, hrecorded, rfl⟩ := List.mem_map.mp hmem
  rw [← recorded.ledger_state] at htick hlast
  obtain ⟨r, hr, rfl, hreported⟩ := written_reported recorded.recorded htick hlast hle
  exact ⟨recorded, hrecorded, r, hr, hnanos, hreported⟩

/-! ## A restart after a check -/

/-- The first run reports the check of second 28, writes it and is stopped. The next one starts
twelve seconds later, with second 29. -/
theorem nothing_lost_over_restart :
    ∃ run0 run1 : RecordedRun Assertions.Compiled.plainExternals
        ReqwestChecker.plainCheckerExternals,
      run0.systemTime = 28 * nanosPerSec ∧ run1.systemTime = 40 * nanosPerSec ∧
      run0.ledger.state.executor.produced.length = 1 ∧ Chain [run1.toRun, run0.toRun] ∧
      ∃ run ∈ [run1, run0], ∃ r ∈ run.ledger.read, r.tick.time.nanos = 28 * nanosPerSec ∧
        ∀ config : CheckConfig, r.store.configs[config.subscriptionId]? = some config →
          config.dueAt run.sched.newV5 r.tick →
          config.shouldRun run.sched.newV5 r.tick run.sched.region = true →
            (run.ledger.state.executor.produced.map resultKey).count
              (config.subscriptionId, r.tick.time) = 1 := by
  obtain ⟨h, -, hs, -, hprocessor, hcalm, hone⟩ := exists_ledger_us
  let t28 := tickOfSecs 28 (by decide)
  let written : State :=
    { h.state with
      processor := .receiving
      watermark := some 28000000000
      written := h.state.written ++ [t28] }
  have htime : t28.time.timestampNanosOpt = some 28000000000 := by decide
  have hwritten := hs.step (a := .writeWatermark)
    ⟨nofun, hcalm, .plain (.writeWatermark .ok hprocessor htime rfl) rfl⟩
  have hrestarted : (ledgerFrom Assertions.Compiled.plainExternals
      ReqwestChecker.plainCheckerExternals (startingIn "us" 29 (by decide))
      (some 28000000000)).Reachable ⟨initial .new (some 28000000000), [], []⟩ :=
    .init ⟨_, _, ConfigStore.new_refines, rfl⟩
  let run0 : RecordedRun Assertions.Compiled.plainExternals ReqwestChecker.plainCheckerExternals :=
    { toRun := ⟨none, startingIn "us" 28 (by decide), 28000000000, 28000000000, 0, 0, written,
        by decide, by decide, (unbroken_of_from hwritten).of_guarded⟩
      ledger := ⟨written, h.read, h.asked⟩
      ledger_state := rfl
      recorded := hwritten }
  let run1 : RecordedRun Assertions.Compiled.plainExternals ReqwestChecker.plainCheckerExternals :=
    { toRun := ⟨some 28000000000, startingIn "us" 29 (by decide), 40000000000, 40000000000,
        11000000000, 0, _, by decide, by decide,
        (unbroken_of_from hrestarted).of_guarded⟩
      ledger := _
      ledger_state := rfl
      recorded := hrestarted }
  have hchain : Chain ([run1].map (·.toRun) ++ run0.toRun :: []) := (Chain.nil.cons rfl).cons rfl
  have hlater : ∀ run ∈ [run1], run.lastProgress ≠ none := by
    intro run hrun
    cases List.mem_singleton.mp hrun
    exact Option.some_ne_none _
  have hstart : (startingIn "us" 28 (by decide)).start.timestamp ≤ 28 := by decide
  exact ⟨run0, run1, rfl, rfl, hone, hchain,
    @nothing_lost _ _ [run1] run0 [] hchain rfl hlater 28000000000 rfl 28 hstart (by decide)⟩

end UptimeChecker.Scheduler
