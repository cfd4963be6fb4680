import UptimeChecker.Laws.Scheduler.Panic
import UptimeChecker.Lib.GapFree

/-!
# Restarts

A run starts a second after the watermark it finds, or at the current second, whichever is earlier,
and schedules every second from there on. A watermark is the time of a tick some earlier run has
scheduled, so a run that finds one leaves no second out between the earlier runs and itself. A run
that finds none starts over, and the seconds since the last run stopped are never scheduled.

`Run` is one run, from reading the watermark to wherever it is stopped; `Chain` is any number of
them, each finding the watermark the one before it left.
-/

namespace UptimeChecker

namespace DateTime

theorem nanos_min (a b : DateTime) : (a.min b).nanos = Min.min a.nanos b.nanos := by
  unfold DateTime.min
  split <;> omega

/-- The second of a whole second. -/
theorem Aligned.nanos_eq {t : DateTime} (h : t.Aligned) : t.nanos = t.timestamp * nanosPerSec :=
  (Int.ediv_mul_cancel h).symm

end DateTime

/-! ## Where a run starts -/

/-- What every start time is: a whole second that has come. -/
structure StartsAt (start : DateTime) (systemTime : Int) : Prop where
  aligned : start.Aligned
  nonneg : 0 ≤ start.nanos
  le_now : start.nanos ≤ systemTime

private theorem startsAt_now {systemTime : Int} {now start : DateTime}
    (hnow : DateTime.now? systemTime = some now) (h : now.durationTrunc = some start) :
    StartsAt start systemTime := by
  obtain ⟨hnanos, hnonneg⟩ := DateTime.nanos_of_now? hnow
  refine ⟨DateTime.durationTrunc_aligned h, ?_, hnanos ▸ DateTime.durationTrunc_le h⟩
  rw [DateTime.nanos_of_durationTrunc h]
  unfold DateTime.timestamp nanosPerSec
  omega

/-- Without a watermark. -/
theorem startTime_none {systemTime : Int} {start : DateTime}
    (h : startTime none systemTime = some start) : StartsAt start systemTime := by
  obtain ⟨now, hnow, htrunc⟩ := Option.bind_eq_some_iff.mp h
  exact startsAt_now hnow htrunc

/-- With the watermark of a whole second, the start is no later than the second after it. -/
theorem startTime_some {progress : Int64} {systemTime : Int} {start : DateTime}
    (h : startTime (some progress) systemTime = some start)
    (haligned : nanosPerSec ∣ progress.toInt) (hnonneg : 0 ≤ progress.toInt) :
    StartsAt start systemTime ∧ start.nanos ≤ progress.toInt + nanosPerSec := by
  obtain ⟨next, hnext, h⟩ := Option.bind_eq_some_iff.mp h
  obtain ⟨second, hsecond, h⟩ := Option.bind_eq_some_iff.mp h
  obtain ⟨now, hnow, htrunc⟩ := Option.bind_eq_some_iff.mp hsecond
  cases h
  have hstarts := startsAt_now hnow htrunc
  have hnextNanos : next.nanos = progress.toInt + nanosPerSec := DateTime.nanos_of_add? hnext
  have hle := hstarts.le_now
  have hsecondNonneg := hstarts.nonneg
  refine ⟨⟨?_, ?_, ?_⟩, ?_⟩
  · rw [DateTime.Aligned, DateTime.nanos_min]
    rcases min_choice next.nanos second.nanos with heq | heq
    · rw [heq, hnextNanos]
      exact Int.dvd_add haligned (Int.dvd_refl _)
    · rw [heq]
      exact hstarts.aligned
  all_goals
    rw [DateTime.nanos_min, hnextNanos]
    unfold nanosPerSec
    omega

/-- The subtraction from a later reading of the clock cannot fail. -/
theorem StartsAt.startInstant_isSome {start : DateTime} {systemTime systemTimeAgain : Int}
    (h : StartsAt start systemTime) (hforwards : systemTime ≤ systemTimeAgain)
    (hnow : (DateTime.now? systemTimeAgain).isSome) (instant instantAgain : Instant) :
    (startInstant start systemTimeAgain instant instantAgain).isSome := by
  obtain ⟨now, hnow⟩ := Option.isSome_iff_exists.mp hnow
  have hnanos := (DateTime.nanos_of_now? hnow).1
  have hle := h.le_now
  rw [startInstant, hnow, Option.bind_some, if_neg (by omega)]
  rfl

namespace Scheduler

variable {sched : Scheduler} {s s' : State} {a : Action}

/-! ## One run -/

/-- The system of a run that found a watermark, or none. -/
def systemFrom (sched : Scheduler) (lastProgress : Option Int64) : Transition State Action :=
  { sched.system with init := fun s => ∃ configStore, s = initial configStore lastProgress }

/-- One run of the scheduler, from reading the watermark to wherever it is stopped. -/
structure Run where
  lastProgress : Option Int64
  sched : Scheduler
  systemTime : Int
  systemTimeAgain : Int
  instant : Instant
  instantAgain : Instant
  state : State
  start : startTime lastProgress systemTime = some sched.start
  startAt : startInstant sched.start systemTimeAgain instant instantAgain = some sched.startAt
  reached : (sched.systemFrom lastProgress).Reachable state

theorem Run.pipeline (run : Run) : Pipeline run.sched run.state := by
  refine pipeline_of_reachable (run.reached.mono ?_ ?_)
  · rintro s ⟨configStore, rfl⟩
    exact ⟨configStore, _, rfl⟩
  · intro s a s' h
    exact h

/-- The watermark is the one found, or the time of a tick written. -/
def Progress (lastProgress : Option Int64) (s : State) : Prop :=
  s.watermark = lastProgress ∨ ∃ tick ∈ s.written, ∃ progress,
    tick.time.timestampNanosOpt = some progress ∧ s.watermark = some progress

/-- A write may be applied or not. -/
private theorem progress_write {lastProgress : Option Int64} {tick : Tick} {progress : Int64}
    (h : tick.time.timestampNanosOpt = some progress) (outcome : WriteOutcome)
    (hs : Progress lastProgress s)
    (hwritten : s'.written = s.written ++ [tick])
    (hwatermark : s'.watermark = if outcome.applied then some progress else s.watermark) :
    Progress lastProgress s' := by
  unfold Progress
  rw [hwritten, hwatermark]
  split
  · exact .inr ⟨tick, List.mem_append_right _ (List.mem_singleton_self _), progress, h, rfl⟩
  · rcases hs with hs | ⟨tick', htick', hs⟩
    · exact .inl hs
    · exact .inr ⟨tick', List.mem_append_left _ htick', hs⟩

theorem Progress.step {lastProgress : Option Int64} (hs : Progress lastProgress s)
    (h : Step sched s a s') : Progress lastProgress s' := by
  cases h with
  | writeWatermark outcome phase h survives => exact progress_write h outcome hs rfl rfl
  | writeWatermarkFatal outcome phase h fatal => exact progress_write h outcome hs rfl rfl
  | _ => exact hs

/-- The watermark a run leaves is the one it found or the time of a tick it scheduled. -/
theorem Run.watermark (run : Run) {progress : Int64} (h : run.state.watermark = some progress) :
    run.lastProgress = some progress ∨
      ∃ tick ∈ run.state.scheduled, tick.time.nanos = progress.toInt := by
  have hinv : Progress run.lastProgress run.state := by
    refine run.reached.invariant ?_ fun s a s' hs hstep => hs.step hstep.2
    rintro s ⟨configStore, rfl⟩
    exact .inl rfl
  rcases hinv with hfound | ⟨tick, htick, progress', hprogress, hwritten⟩
  · exact .inl (hfound ▸ h)
  · cases hwritten.symm.trans h
    refine .inr ⟨tick, run.pipeline.ticks.subset ?_,
      (DateTime.toInt_of_timestampNanosOpt hprogress).symm⟩
    exact List.mem_append_left _ (List.mem_append_left _ htick)

/-- What every run does, whatever it found: it starts at a whole second that has come, schedules
each second from there on once and in order, each in the bucket of its second, and writes the times
of some of these ticks in increasing order. -/
structure Run.InOrder (run : Run) : Prop where
  starts : StartsAt run.sched.start run.systemTime
  ticks : ∀ (k : Nat) (tick : Tick), run.state.scheduled[k]? = some tick →
    tick.time.nanos = run.sched.start.nanos + k * nanosPerSec ∧
      tick.index = (run.sched.start.secs + k) % maxCheckIntervalSecs
  increasing : run.state.written.Pairwise fun a b => a.time.nanos < b.time.nanos
  written : ∀ tick ∈ run.state.written, tick ∈ run.state.scheduled

theorem Run.inOrder (run : Run) (h : StartsAt run.sched.start run.systemTime) : run.InOrder where
  starts := h
  ticks k tick htick := by
    have hk := run.pipeline.schedule k (by rw [htick]; rfl)
    obtain ⟨hfrom, hnanos⟩ := tickAt_eq_some (hk.symm.trans htick)
    have hnonneg := h.nonneg
    refine ⟨hnanos, ?_⟩
    have hsecs : tick.time.secs = run.sched.start.secs + k := by
      unfold DateTime.secs DateTime.timestamp nanosPerSec at *
      omega
    rw [hfrom, Tick.fromTime_index (by unfold nanosPerSec at hnanos; omega), hsecs]
  increasing := by
    refine run.pipeline.pairwise.sublist ?_
    exact (List.sublist_append_left _ _).trans (List.sublist_append_left _ _)
  written tick htick := by
    apply run.pipeline.ticks.subset
    exact List.mem_append_left _ (List.mem_append_left _ htick)

/-! ## Chains of runs -/

/-- What redis holds after some runs, the latest first; at first it holds nothing. -/
def watermarkAfter : List Run → Option Int64
  | [] => none
  | run :: _ => run.state.watermark

/-- Any number of crashes and restarts, the latest run first: each run finds the watermark that the
one before it left. -/
inductive Chain : List Run → Prop where
  | nil : Chain []
  | cons {run : Run} {runs : List Run} (h : Chain runs)
      (found : run.lastProgress = watermarkAfter runs) : Chain (run :: runs)

/-- The whole seconds some runs have scheduled. -/
def seconds (runs : List Run) : Set Int :=
  {n | ∃ run ∈ runs, ∃ tick ∈ run.state.scheduled, tick.time.nanos = n * nanosPerSec}

/-- In a chain every run is in order, and what redis holds is a whole second. -/
theorem Chain.inOrder {runs : List Run} (h : Chain runs) :
    (∀ run ∈ runs, run.InOrder) ∧
      ∀ progress ∈ watermarkAfter runs, nanosPerSec ∣ progress.toInt ∧ 0 ≤ progress.toInt := by
  induction h with
  | nil => exact ⟨fun _ h => (List.not_mem_nil h).elim, nofun⟩
  | @cons run runs h found ih =>
    obtain ⟨hruns, hwatermark⟩ := ih
    have hstarts : StartsAt run.sched.start run.systemTime := by
      have hstart := run.start
      cases hlast : run.lastProgress with
      | none => exact startTime_none (hlast ▸ hstart)
      | some progress =>
        obtain ⟨haligned, hnonneg⟩ := hwatermark progress (found ▸ hlast)
        exact (startTime_some (hlast ▸ hstart) haligned hnonneg).1
    have hrun := run.inOrder hstarts
    refine ⟨List.forall_mem_cons.mpr ⟨hrun, hruns⟩, ?_⟩
    intro progress hprogress
    rcases run.watermark hprogress with hfound | ⟨tick, htick, hnanos⟩
    · exact hwatermark progress (found ▸ hfound)
    · obtain ⟨k, hk⟩ := List.mem_iff_getElem?.mp htick
      have htime := (hrun.ticks k tick hk).1
      have hnonneg := hstarts.nonneg
      rw [← hnanos, htime]
      refine ⟨Int.dvd_add hstarts.aligned (Int.dvd_mul_left _ _), ?_⟩
      unfold nanosPerSec
      omega

/-- A run leaves no second out of its own ticks. -/
theorem Run.InOrder.gapFree {run : Run} (h : run.InOrder) :
    GapFree run.sched.start.timestamp (seconds [run]) := by
  intro n ⟨_, hrun, tick, htick, hn⟩ u ⟨hstart, hu⟩
  cases List.mem_singleton.mp hrun
  obtain ⟨k, hk⟩ := List.mem_iff_getElem?.mp htick
  have hnanos := (h.ticks k tick hk).1
  have haligned := h.starts.aligned.nanos_eq
  have hlen := (List.getElem?_eq_some_iff.mp hk).1
  -- the second `u` is that of the tick number `u - start`
  obtain ⟨j, hj⟩ := Int.le.dest hstart
  have hjk : j ≤ k := by
    unfold nanosPerSec at *
    omega
  have hget := List.getElem?_eq_getElem (Nat.lt_of_le_of_lt hjk hlen)
  refine ⟨run, List.mem_singleton_self _, _, List.mem_of_getElem? hget, ?_⟩
  rw [(h.ticks j _ hget).1, haligned, ← hj, Int.add_mul]

theorem seconds_cons (run : Run) (runs : List Run) :
    seconds (run :: runs) = seconds [run] ∪ seconds runs := by
  ext n
  simp only [seconds, List.mem_cons, List.not_mem_nil, or_false, exists_eq_or_imp, exists_eq_left,
    Set.mem_ofPred_eq, Set.mem_union]

/-- A tick a run has scheduled at a watermark puts the watermark's second among the run's. -/
private theorem mem_seconds {run : Run} {tick : Tick} {progress : Int64}
    (htick : tick ∈ run.state.scheduled) (hnanos : tick.time.nanos = progress.toInt)
    (haligned : nanosPerSec ∣ progress.toInt) : progress.toInt / nanosPerSec ∈ seconds [run] :=
  ⟨run, List.mem_singleton_self _, tick, htick, hnanos.trans (Int.ediv_mul_cancel haligned).symm⟩

/-- From a run that found no watermark on, as long as every later run finds one, no second is left
out, and the watermark left is one of the seconds. -/
theorem Chain.gapFree_since {later earlier : List Run} {first : Run}
    (h : Chain (later ++ first :: earlier)) (hfirst : first.lastProgress = none)
    (hlater : ∀ run ∈ later, run.lastProgress ≠ none) :
    GapFree first.sched.start.timestamp (seconds (later ++ [first])) ∧
      ∀ progress ∈ watermarkAfter (later ++ first :: earlier),
        progress.toInt / nanosPerSec ∈ seconds (later ++ [first]) := by
  obtain ⟨hruns, hwatermark⟩ := h.inOrder
  induction later with
  | nil =>
    refine ⟨(hruns first List.mem_cons_self).gapFree, ?_⟩
    intro progress hprogress
    rcases first.watermark hprogress with hfound | ⟨tick, htick, hnanos⟩
    · cases hfirst.symm.trans hfound
    · exact mem_seconds htick hnanos (hwatermark progress hprogress).1
  | cons run later ih =>
    cases h with
    | cons h found =>
    obtain ⟨hearlier, hbefore⟩ := h.inOrder
    obtain ⟨hgapFree, hmem⟩ :=
      ih h (fun r hr => hlater r (List.mem_cons_of_mem _ hr)) hearlier hbefore
    obtain ⟨done, hdone⟩ := Option.ne_none_iff_exists'.mp (hlater run List.mem_cons_self)
    have hleft := hmem done (found ▸ hdone)
    obtain ⟨haligned, hnonneg⟩ := hbefore done (found ▸ hdone)
    have hstart := (startTime_some (hdone ▸ run.start) haligned hnonneg).2
    rw [List.cons_append, seconds_cons]
    refine ⟨hgapFree.resume (hruns run List.mem_cons_self).gapFree hleft ?_, ?_⟩
    · rw [Order.succ_eq_add_one]
      unfold DateTime.timestamp nanosPerSec at *
      omega
    · intro progress hprogress
      rcases run.watermark hprogress with hfound | ⟨tick, htick, hnanos⟩
      · exact .inr (hmem progress (found ▸ hfound))
      · exact .inl (mem_seconds htick hnanos (hwatermark progress hprogress).1)

/-- A restart that reads this watermark starts at a whole second that has come, no later than a
second after the watermark, and its subtraction from the current time cannot fail. -/
def RestartsSafely (progress : Int64) : Prop :=
  ∀ systemTime start, startTime (some progress) systemTime = some start →
    StartsAt start systemTime ∧ start.nanos ≤ progress.toInt + nanosPerSec ∧
    ∀ systemTimeAgain instant instantAgain, systemTime ≤ systemTimeAgain →
      (DateTime.now? systemTimeAgain).isSome →
      (startInstant start systemTimeAgain instant instantAgain).isSome

/-- Over any chain of crashes and restarts, every run schedules its seconds in order and writes
increasing watermarks, every restart at the watermark left starts safely, and from a run that found
no watermark on no second is left out, as long as every later run finds one. -/
theorem no_second_left_out {runs : List Run} (h : Chain runs) :
    (∀ run ∈ runs, run.InOrder) ∧
    (∀ progress ∈ watermarkAfter runs, RestartsSafely progress) ∧
    ∀ later first earlier, runs = later ++ first :: earlier → first.lastProgress = none →
      (∀ run ∈ later, run.lastProgress ≠ none) →
      GapFree first.sched.start.timestamp (seconds (later ++ [first])) := by
  obtain ⟨hruns, hwatermark⟩ := h.inOrder
  refine ⟨hruns, ?_, ?_⟩
  · intro progress hprogress systemTime start hstart
    obtain ⟨haligned, hnonneg⟩ := hwatermark progress hprogress
    obtain ⟨hstarts, hle⟩ := startTime_some hstart haligned hnonneg
    exact ⟨hstarts, hle, fun again i j hforwards hnow =>
      hstarts.startInstant_isSome hforwards hnow i j⟩
  · rintro later first earlier rfl hfirst hlater
    exact (h.gapFree_since hfirst hlater).1

/-! ## Two chains of two runs -/

/-- The first tick of a run whose config store is empty. -/
private theorem reachable_first_tick (start : Nat) (hstart : start < 8210266876800)
    (lastProgress : Option Int64) :
    ((startingAt start hstart).systemFrom lastProgress).Reachable
      ⟨.new, .queueing 0 (tickOfSecs start hstart) [] [], [], .receiving, .new, lastProgress,
        [tickOfSecs start hstart], [], [], false⟩ := by
  have hbucket : ConfigStore.new.getConfigs (tickOfSecs start hstart) = some ∅ := by
    show (Array.replicate maxCheckIntervalSecs ∅)[(tickOfSecs start hstart).index]? = _
    rw [Array.getElem?_replicate]
    exact if_pos (Tick.fromTime_index_lt _)
  have hstep : Step (startingAt start hstart) (initial .new lastProgress) .tick
      ⟨.new, .queueing 0 (tickOfSecs start hstart) [] [], [], .receiving, .new, lastProgress,
        [tickOfSecs start hstart], [], [], false⟩ :=
    .tick rfl (tickAt_ofSecs (k := 0) hstart rfl hstart) hbucket ⟨List.nodup_nil, by simp⟩
  exact .step (.init ⟨_, rfl⟩) ⟨rfl, hstep⟩

/-- The first run is stopped at once, at second 28, and leaves no watermark. The next one starts at
second 30: second 29 is never scheduled. -/
theorem second_left_out : ¬ ∀ later first, Chain (later ++ [first]) →
    GapFree first.sched.start.timestamp (seconds (later ++ [first])) := by
  intro h
  let run0 : Run := ⟨none, startingAt 28 (by decide), 28000000000, 28000000000, 0, 0,
    initial .new none, by decide, by decide, .init ⟨_, rfl⟩⟩
  let t30 := tickOfSecs 30 (by decide)
  let run1 : Run := ⟨none, startingAt 30 (by decide), 30000000000, 30000000000, 0, 0, _,
    by decide, by decide, reachable_first_tick 30 (by decide) none⟩
  have hchain : Chain ([run1] ++ [run0]) := (Chain.nil.cons rfl).cons rfl
  have h30 : (30 : Int) ∈ seconds ([run1] ++ [run0]) :=
    ⟨run1, List.mem_cons_self, t30, List.mem_singleton_self _, rfl⟩
  obtain ⟨run, hrun, tick, htick, hnanos⟩ :=
    h [run1] run0 hchain 30 h30 (⟨by decide, by decide⟩ : (29 : Int) ∈ Set.Icc _ _)
  simp only [List.singleton_append, List.mem_cons, List.not_mem_nil, or_false] at hrun
  rcases hrun with rfl | rfl
  · cases List.mem_singleton.mp htick
    cases hnanos
  · cases htick

/-- The first run writes second 28 and is stopped. The next one starts twelve seconds later, with
second 29. -/
theorem no_second_left_out_over_restart : ∃ run0 run1 : Run,
    run0.systemTime = 28 * nanosPerSec ∧ run1.systemTime = 40 * nanosPerSec ∧
    29 ∈ seconds [run1, run0] ∧ Chain [run1, run0] ∧ run0.InOrder ∧ run1.InOrder ∧
    GapFree run0.sched.start.timestamp (seconds [run1, run0]) := by
  let t28 := tickOfSecs 28 (by decide)
  let t29 := tickOfSecs 29 (by decide)
  let e0 := CheckExecutor.new.dropReceivers []
  let sys := (startingAt 28 (by decide)).systemFrom none
  have h1 : sys.Reachable
      ⟨.new, .queueing 0 t28 [] [], [], .receiving, .new, none, [t28], [], [], false⟩ :=
    reachable_first_tick 28 (by decide) none
  have h2 : sys.Reachable
      ⟨.new, .ticking 1, [⟨t28, []⟩], .receiving, .new, none, [t28], [], [], false⟩ :=
    h1.step ⟨rfl, .sendBundle rfl nofun⟩
  have h3 : sys.Reachable
      ⟨.new, .ticking 1, [], .handling [⟨t28, []⟩] none, .new, none, [t28], [], [], false⟩ :=
    h2.step ⟨rfl, @Step.recvMany _ _ 1 rfl (by decide) (by decide) (by decide)⟩
  have h4 : sys.Reachable
      ⟨.new, .ticking 1, [], .handling [] (some t28), e0, none, [t28], [], [], false⟩ :=
    h3.step ⟨rfl, step_accept_empty rfl⟩
  have h5 : sys.Reachable
      ⟨.new, .ticking 1, [], .receiving, e0, some 28000000000, [t28], [], [t28], false⟩ :=
    h4.step ⟨rfl, .writeWatermark .ok rfl (by decide) rfl⟩
  let run0 : Run := ⟨none, startingAt 28 (by decide), 28000000000, 28000000000, 0, 0, _,
    by decide, by decide, h5⟩
  let run1 : Run := ⟨some 28000000000, startingAt 29 (by decide), 40000000000, 40000000000,
    11000000000, 0, _, by decide, by decide, reachable_first_tick 29 (by decide) _⟩
  have hchain : Chain ([run1] ++ [run0]) := (Chain.nil.cons rfl).cons rfl
  obtain ⟨hruns, -, hgapFree⟩ := no_second_left_out hchain
  refine ⟨run0, run1, rfl, rfl, ⟨run1, List.mem_cons_self, t29, List.mem_singleton_self _, rfl⟩,
    hchain, hruns run0 (List.mem_cons_of_mem _ List.mem_cons_self), hruns run1 List.mem_cons_self,
    hgapFree [run1] run0 [] rfl rfl ?_⟩
  intro run hrun
  cases List.mem_singleton.mp hrun
  nofun

end Scheduler

end UptimeChecker
