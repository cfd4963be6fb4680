import UptimeChecker.Lib.Transition
import UptimeChecker.Laws.CheckConfig
import UptimeChecker.Laws.CheckExecutor

/-!
# One outcome for each check

A check goes around between the queue and the checks being run until a run of `do_check` ends it.
The runs of an executor are recorded here with what each run of `do_check` did, as it is seen from
outside: what it handed to the producer, what it queued, what it left in the check's channel.

`Story` is the invariant, for one channel: nothing yet, or a live check with as many runs behind it
as it counts retries, each of which only queued it again, or such runs and a last one that was
final. That there is one outcome (`one_outcome`), and that none is lost while someone waits for it
(`resolved_or_unheard`), is read off it.
-/

namespace UptimeChecker.CheckExecutor

/-- A run of `do_check`, by what it did. -/
structure Completion where
  check : ScheduledCheck
  handed : List CheckResult
  requeued : List ScheduledCheck
  message : Message

/-- The run that took the executor from one state to another. -/
def completion (e : CheckExecutor) (check : ScheduledCheck) (e' : CheckExecutor) : Completion where
  check := check
  handed := e'.produced.drop e.produced.length
  requeued := e'.queue.drop e.queue.length
  message := (e'.oneshots check.resolveTx).message

/-- The check's receiver was sent something. -/
def Completion.isResolved (d : Completion) : Bool :=
  match d.message with
  | .sent _ => true
  | _ => false

/-- An executor, and the runs of `do_check` that have come to an end, in order. -/
structure History where
  exec : CheckExecutor
  done : List Completion

/-- The runs for the check of one channel. -/
def History.runs (h : History) (channel : Nat) : List Completion :=
  h.done.filter (·.check.resolveTx = channel)

/-- The names of the steps. -/
inductive Event where
  | queueCheck | start | finish | dropReceivers
deriving DecidableEq, Repr

/-- One step of the executor, or of whoever queues checks and waits for them. -/
inductive Step (conf : ExecutorConfig) (h : History) : Event → History → Prop where
  | queueCheck {tick : Tick} {config : CheckConfig} {kind : CheckKind} {e : CheckExecutor}
      {channel : Nat} (hq : h.exec.queueCheck tick config kind = some (e, channel)) :
      Step conf h .queueCheck ⟨e, h.done⟩
  | start {e : CheckExecutor} (hst : h.exec.start conf = some e) : Step conf h .start ⟨e, h.done⟩
  | finish {i : Nat} {check : ScheduledCheck} {readings : CheckReadings} {e : CheckExecutor}
      (hi : h.exec.running[i]? = some check) (hf : h.exec.finish conf i readings = some e) :
      Step conf h .finish ⟨e, h.done ++ [completion h.exec check e]⟩
  | dropReceivers (channels : List Nat) :
      Step conf h .dropReceivers ⟨h.exec.dropReceivers channels, h.done⟩

/-- The executor without cancellation. -/
def uncancelled (conf : ExecutorConfig) : Transition History Event where
  init h := h = ⟨new, []⟩
  step := Step conf

/-! ## What a run of `do_check` does -/

/-- The run put its check back into the queue. -/
structure Completion.Retried (conf : ExecutorConfig) (d : Completion) : Prop where
  left : d.check.retryCount < conf.failureRetries
  handed : d.handed = []
  requeued : d.requeued = [{ d.check with retryCount := d.check.retryCount + 1 }]
  message : d.message = .pending

/-- The run ended its check. -/
inductive Completion.Final (conf : ExecutorConfig) (d : Completion) : Prop where
  /-- There was a result, and the receiver has it. -/
  | resolved (result : CheckResult) (handed : d.handed = [result]) (requeued : d.requeued = [])
    (message : d.message = .sent (some result))
    (failed : result.status = .failure → conf.failureRetries ≤ d.check.retryCount)
  /-- A robots check that passed. -/
  | passed (kind : d.check.kind = .robots) (handed : d.handed = []) (requeued : d.requeued = [])
    (message : d.message = .sent none)
  /-- The receiver was gone. -/
  | unheard (requeued : d.requeued = []) (message : d.message = .pending)

/-- A final run queues nothing. -/
theorem Completion.Final.requeued_nil {conf : ExecutorConfig} {d : Completion}
    (h : d.Final conf) : d.requeued = [] := by
  cases h with
  | resolved result handed requeued => exact requeued
  | passed kind handed requeued => exact requeued
  | unheard requeued => exact requeued

/-- What a run of `do_check` changes, and what it leaves. -/
structure Completes (conf : ExecutorConfig) (e : CheckExecutor) (check : ScheduledCheck)
    (e' : CheckExecutor) : Prop where
  produced : e'.produced = e.produced ++ (completion e check e').handed
  queue : e'.queue = e.queue ++ (completion e check e').requeued
  running : e'.running = e.running
  queueOpen : e'.queueOpen = e.queueOpen
  opened : e'.opened = e.opened
  oneshots : ∀ i, i ≠ check.resolveTx → e'.oneshots i = e.oneshots i
  receiver : ∀ i, (e'.oneshots i).receiver = (e.oneshots i).receiver
  outcome : (completion e check e').Retried conf ∨
    (completion e check e').Final conf ∧
      ((completion e check e').isResolved = true ∨
        (e'.oneshots check.resolveTx).receiver = false)

section
variable {conf : ExecutorConfig} {e : CheckExecutor} {check : ScheduledCheck}

/-- Only a robots check has no result. -/
theorem kind_of_checkResult_eq_none {region : String} {readings : CheckReadings}
    (h : checkResult region check readings = none) : check.kind = .robots := by
  unfold checkResult at h
  split at h
  · cases h
  · split at h
    · cases h
    · assumption

/-- Whatever was handed to the producer, and then the channel was sent something. -/
private theorem completes_of_sent (handed : List CheckResult) (outcome : Option CheckResult)
    (hfinal : ∀ d : Completion, d.check = check → d.handed = handed → d.requeued = [] →
      d.message = .sent outcome → d.Final conf) :
    Completes conf e check
      ({ e with produced := e.produced ++ handed }.setMessage check.resolveTx (.sent outcome)) := by
  refine ⟨?_, ?_, rfl, rfl, rfl, ?_, ?_, .inr ⟨hfinal _ rfl ?_ ?_ ?_, .inl ?_⟩⟩
  · simp [completion, setMessage]
  · simp [completion, setMessage]
  · intro i hi
    simp [setMessage, hi]
  · intro i
    simp only [setMessage]
    split <;> rfl
  · simp [completion, setMessage]
  · simp [completion, setMessage]
  · simp [completion, setMessage]
  · simp [Completion.isResolved, completion, setMessage]

/-- Whatever was handed to the producer, and then nobody was there to hear of it. -/
private theorem completes_of_unheard (handed : List CheckResult) (panicked : Bool)
    (hpending : (e.oneshots check.resolveTx).message = .pending)
    (hr : (e.oneshots check.resolveTx).receiver = false) :
    Completes conf e check { e with produced := e.produced ++ handed, panicked := panicked } := by
  refine ⟨?_, ?_, rfl, rfl, rfl, fun _ _ => rfl, fun _ => rfl,
    .inr ⟨.unheard ?_ hpending, .inr hr⟩⟩
  · simp [completion]
  · simp [completion]
  · simp [completion]

/-- A robots check that passed hands nothing to the producer. -/
private theorem completes_of_none (hpending : (e.oneshots check.resolveTx).message = .pending)
    (hkind : check.kind = .robots) :
    Completes conf e check ((e.recordResult check none).getD e) := by
  have hnothing : { e with produced := e.produced ++ [] } = e := by simp
  unfold recordResult
  by_cases hr : (e.oneshots check.resolveTx).receiver = true
  · rw [if_pos hr, Option.getD_some]
    have hsent : Completes conf e check
        ({ e with produced := e.produced ++ [] }.setMessage check.resolveTx (.sent none)) := by
      apply completes_of_sent
      intro d hcheck handed requeued message
      exact .passed (hcheck ▸ hkind) handed requeued message
    rwa [hnothing] at hsent
  · rw [if_neg hr, Option.getD_none]
    have hunheard := @completes_of_unheard conf e check [] e.panicked hpending
      (Bool.eq_false_iff.mpr hr)
    rwa [hnothing] at hunheard

/-- The check goes to the end of an open queue. -/
private theorem completes_of_retry (hopen : e.queueOpen = true)
    (hpending : (e.oneshots check.resolveTx).message = .pending)
    (hleft : check.retryCount < conf.failureRetries) :
    Completes conf e check (e.expect (e.queueCheckForRetry check)) := by
  rw [queueCheckForRetry, if_pos hopen]
  refine ⟨?_, ?_, rfl, rfl, rfl, fun _ _ => rfl, fun _ => rfl, .inl ⟨hleft, ?_, ?_, hpending⟩⟩
  · simp [completion, expect]
  · simp [completion, expect]
  · simp [completion, expect]
  · simp [completion, expect]

/-- The result is produced, and then sent if there is a receiver. -/
private theorem completes_of_result (hpending : (e.oneshots check.resolveTx).message = .pending)
    {result : CheckResult} (hretry : willRetry conf.failureRetries check result = false) :
    Completes conf e check
      (expect { e with produced := e.produced ++ [result] }
        (recordResult { e with produced := e.produced ++ [result] } check (some result))) := by
  unfold recordResult
  by_cases hr : (e.oneshots check.resolveTx).receiver = true
  · rw [if_pos hr, expect, Option.getD_some]
    apply completes_of_sent
    intro d hcheck handed requeued message
    refine .resolved result handed requeued message ?_
    intro hfailed
    rw [hcheck]
    simpa [willRetry, hfailed] using hretry
  · rw [if_neg hr, expect, Option.getD_none]
    exact completes_of_unheard [result] true hpending (Bool.eq_false_iff.mpr hr)

/-- A run of `do_check`, in an executor with an open queue, for a check that owns its channel. -/
theorem completes_doCheck (readings : CheckReadings) (hopen : e.queueOpen = true)
    (hpending : (e.oneshots check.resolveTx).message = .pending) :
    Completes conf e check (doCheck conf e check readings) := by
  unfold doCheck
  cases hresult : checkResult conf.region check readings with
  | none => exact completes_of_none hpending (kind_of_checkResult_eq_none hresult)
  | some result =>
    cases hretry : willRetry conf.failureRetries check result with
    | true =>
      have hleft := hretry
      simp only [willRetry, Bool.and_eq_true, decide_eq_true_eq] at hleft
      simp only [hretry, if_true]
      exact completes_of_retry hopen hpending hleft.2
    | false =>
      simp only [hretry, Bool.false_eq_true, if_false]
      exact completes_of_result hpending hretry

end

/-! ## The story of a channel -/

/-- How a channel has come to be where it is. -/
inductive Story (conf : ExecutorConfig) (h : History) (channel : Nat) : Prop where
  | unopened (opened : h.exec.opened ≤ channel) (runs : h.runs channel = [])
  /-- Its check is live, and every run of it was for a retry. -/
  | live (check : ScheduledCheck) (mem : check ∈ h.exec.live) (owns : check.resolveTx = channel)
    (le : check.retryCount ≤ conf.failureRetries)
    (count : (h.runs channel).length = check.retryCount.toNat)
    (retried : ∀ d ∈ h.runs channel, d.Retried conf)
  /-- Its check is gone: after the runs for retries there was a final one. -/
  | ended (retries : List Completion) (last : Completion) (opened : channel < h.exec.opened)
    (gone : channel ∉ h.exec.channels) (runs : h.runs channel = retries ++ [last])
    (le : last.check.retryCount ≤ conf.failureRetries)
    (count : retries.length = last.check.retryCount.toNat)
    (retried : ∀ d ∈ retries, d.Retried conf) (final : last.Final conf)
    (message : (h.exec.oneshots channel).message = last.message)
    (heard : last.isResolved = true ∨ (h.exec.oneshots channel).receiver = false)

/-- The invariant of runs without cancellation. -/
structure Told (conf : ExecutorConfig) (h : History) : Prop where
  wellFormed : h.exec.WellFormed
  queueOpen : h.exec.queueOpen = true
  produced : h.exec.produced = h.done.flatMap (·.handed)
  story : ∀ channel, Story conf h channel

section
variable {conf : ExecutorConfig} {h : History}

theorem told_new : Told conf ⟨new, []⟩ :=
  ⟨wellFormed_new, rfl, rfl, fun channel => .unopened (Nat.zero_le channel) rfl⟩

/-- Live checks with one channel are one check. -/
theorem WellFormed.eq_of_resolveTx {e : CheckExecutor} (hwf : e.WellFormed)
    {check check' : ScheduledCheck} (hmem : check ∈ e.live) (hmem' : check' ∈ e.live)
    (heq : check.resolveTx = check'.resolveTx) : check = check' :=
  List.inj_on_of_nodup_map hwf.nodup hmem hmem' heq

/-- A story goes on where the channel, its check and the runs are as they were. -/
theorem Story.of_eq {channel : Nat} (hs : Story conf h channel) {h' : History}
    (hopened : h.exec.opened ≤ channel → h'.exec.opened ≤ channel)
    (hopened' : h.exec.opened ≤ h'.exec.opened)
    (hlive : ∀ check, check.resolveTx = channel →
      (check ∈ h'.exec.live ↔ check ∈ h.exec.live))
    (hruns : h'.runs channel = h.runs channel)
    (hmessage : channel < h.exec.opened →
      (h'.exec.oneshots channel).message = (h.exec.oneshots channel).message)
    (hreceiver : channel < h.exec.opened → (h.exec.oneshots channel).receiver = false →
      (h'.exec.oneshots channel).receiver = false) : Story conf h' channel := by
  cases hs with
  | unopened opened runs => exact .unopened (hopened opened) (hruns.trans runs)
  | live check mem owns le count retried =>
    exact .live check ((hlive check owns).mpr mem) owns le (hruns ▸ count) (hruns ▸ retried)
  | ended retries last opened gone runs le count retried final message heard =>
    refine .ended retries last (Nat.lt_of_lt_of_le opened hopened') ?_ (hruns.trans runs) le count
      retried final ((hmessage opened).trans message) ?_
    · intro hmem
      obtain ⟨check, hcheck, hch⟩ := List.mem_map.mp hmem
      exact gone (hch ▸ List.mem_map_of_mem ((hlive check hch).mp hcheck))
    · exact heard.imp_right (hreceiver opened)

/-- Queueing a check begins the story of a new channel. -/
theorem Told.queueCheck (ht : Told conf h) {tick : Tick} {config : CheckConfig} {kind : CheckKind}
    {e : CheckExecutor} {channel : Nat}
    (hq : h.exec.queueCheck tick config kind = some (e, channel)) : Told conf ⟨e, h.done⟩ := by
  refine ⟨ht.wellFormed.queueCheck hq, ?_, ?_, ?_⟩
  all_goals obtain ⟨-, -, rfl⟩ := queueCheck_eq_some hq
  · exact ht.queueOpen
  · exact ht.produced
  intro channel
  by_cases hnew : channel = h.exec.opened
  · have hruns : h.runs channel = [] := by
      cases ht.story channel with
      | unopened opened runs => exact runs
      | live check mem owns =>
        have hlt := ht.wellFormed.lt_opened (List.mem_map_of_mem mem)
        omega
      | ended retries last opened => omega
    refine .live (.new kind tick config false h.exec.opened) ?_ hnew.symm ?_ ?_ ?_
    · simp [CheckExecutor.live]
    · exact UInt16.le_iff_toNat_le.mpr (Nat.zero_le _)
    · exact congrArg List.length hruns
    · intro d hd
      exact (List.not_mem_nil (hruns ▸ hd)).elim
  · refine (ht.story channel).of_eq ?_ ?_ ?_ rfl ?_ ?_
    · intro hle
      show h.exec.opened + 1 ≤ channel
      omega
    · exact Nat.le_succ _
    · intro check hcheck
      have hne : check ≠ .new kind tick config false h.exec.opened := by
        intro heq
        exact hnew (hcheck.symm.trans (congrArg ScheduledCheck.resolveTx heq))
      simp [CheckExecutor.live, hne]
    · intro _
      simp [hnew]
    · intro _ hreceiver
      simpa [hnew] using hreceiver

/-- Starting a check leaves it live. -/
theorem Told.start (ht : Told conf h) {e : CheckExecutor} (hst : h.exec.start conf = some e) :
    Told conf ⟨e, h.done⟩ := by
  refine ⟨ht.wellFormed.start hst, ?_, ?_, ?_⟩
  all_goals obtain ⟨check, rest, hqueue, -, rfl⟩ := start_eq_some hst
  · exact ht.queueOpen
  · exact ht.produced
  intro channel
  refine (ht.story channel).of_eq id (Nat.le_refl _) ?_ rfl (fun _ => rfl) (fun _ => id)
  intro check' _
  simp only [CheckExecutor.live, hqueue, List.mem_append, List.mem_cons, List.not_mem_nil, or_false]
  tauto

/-- Receivers may be dropped at any time. -/
theorem Told.dropReceivers (ht : Told conf h) (channels : List Nat) :
    Told conf ⟨h.exec.dropReceivers channels, h.done⟩ := by
  refine ⟨ht.wellFormed.dropReceivers channels, ht.queueOpen, ht.produced, ?_⟩
  intro channel
  refine (ht.story channel).of_eq id (Nat.le_refl _) (fun _ _ => Iff.rfl) rfl
    (fun _ => message_dropReceivers h.exec channels channel) ?_
  intro _ hreceiver
  simp only [CheckExecutor.dropReceivers]
  split
  · rfl
  · exact hreceiver

/-- The runs after one more. -/
private theorem runs_completion {e e' : CheckExecutor} (check : ScheduledCheck) (channel : Nat) :
    History.runs ⟨e', h.done ++ [completion e check e']⟩ channel =
      h.runs channel ++
        if check.resolveTx = channel then [completion e check e'] else [] := by
  simp [History.runs, List.filter_append, List.filter_cons, completion]

private theorem toNat_succ {n m : UInt16} (h : n < m) : (n + 1).toNat = n.toNat + 1 := by
  have hlt := UInt16.lt_iff_toNat_lt.mp h
  have hm := m.toNat_lt
  rw [UInt16.toNat_add]
  show (n.toNat + 1) % 2 ^ 16 = _
  omega

section
variable {i : Nat} {check : ScheduledCheck} {e : CheckExecutor}

/-- What a run queues, if anything, is its own check. -/
private theorem Completes.resolveTx_of_requeued
    (hc : Completes conf { h.exec with running := h.exec.running.eraseIdx i } check e)
    {check' : ScheduledCheck} (hmem : check' ∈ (completion h.exec check e).requeued) :
    check'.resolveTx = check.resolveTx := by
  rcases hc.outcome with hretried | ⟨hfinal, -⟩
  · rw [show (completion h.exec check e).requeued = _ from hretried.requeued] at hmem
    cases List.mem_singleton.mp hmem
    rfl
  · rw [show (completion h.exec check e).requeued = [] from hfinal.requeued_nil] at hmem
    exact (List.not_mem_nil hmem).elim

/-- A run tells nothing of other channels. -/
private theorem Story.finish_other {channel : Nat} (hs : Story conf h channel)
    (hi : h.exec.running[i]? = some check) (hne : channel ≠ check.resolveTx)
    (hc : Completes conf { h.exec with running := h.exec.running.eraseIdx i } check e) :
    Story conf ⟨e, h.done ++ [completion h.exec check e]⟩ channel := by
  have honeshots := hc.oneshots channel hne
  refine hs.of_eq (fun hle => hc.opened.trans_le hle) hc.opened.ge ?_ ?_ ?_ ?_
  · intro check' hcheck
    obtain ⟨hlt, rfl⟩ := List.getElem?_eq_some_iff.mp hi
    have hne' : check' ≠ h.exec.running[i] := fun heq => hne (heq ▸ hcheck.symm)
    have hrequeued : check' ∉ (completion h.exec h.exec.running[i] e).requeued := fun hmem =>
      hne (hcheck.symm.trans (hc.resolveTx_of_requeued hmem))
    have hrunning : check' ∈ h.exec.running.eraseIdx i ↔ check' ∈ h.exec.running := by
      rw [← (List.getElem_cons_eraseIdx_perm hlt).mem_iff, List.mem_cons]
      simp [hne']
    simp only [CheckExecutor.live, hc.queue, hc.running, List.mem_append, hrunning]
    exact or_congr (or_iff_left hrequeued) Iff.rfl
  · rw [runs_completion, if_neg (Ne.symm hne), List.append_nil]
  · intro _
    exact congrArg Oneshot.message honeshots
  · intro _ hreceiver
    rw [honeshots]
    exact hreceiver

/-- A run for a retry leaves its check live, and any other ends it. -/
private theorem Story.finish_own (hwf : h.exec.WellFormed) (hs : Story conf h check.resolveTx)
    (hi : h.exec.running[i]? = some check)
    (hc : Completes conf { h.exec with running := h.exec.running.eraseIdx i } check e) :
    Story conf ⟨e, h.done ++ [completion h.exec check e]⟩ check.resolveTx := by
  have hmem : check ∈ h.exec.live := List.mem_append_right _ (List.mem_of_getElem? hi)
  have hchannel := List.mem_map_of_mem (f := (·.resolveTx)) hmem
  have hopened := hwf.lt_opened hchannel
  have hruns : History.runs ⟨e, h.done ++ [completion h.exec check e]⟩ check.resolveTx =
      h.runs check.resolveTx ++ [completion h.exec check e] := by
    rw [runs_completion, if_pos rfl]
  cases hs with
  | unopened opened => omega
  | ended retries last opened gone => exact absurd hchannel gone
  | live check' mem owns le count retried =>
    cases hwf.eq_of_resolveTx mem hmem owns
    rcases hc.outcome with hretried | ⟨hfinal, hheard⟩
    · have hleft : check.retryCount < conf.failureRetries := hretried.left
      have hsucc := toNat_succ hleft
      refine .live { check with retryCount := check.retryCount + 1 } ?_ rfl ?_ ?_ ?_
      · refine List.mem_append_left _ ?_
        rw [hc.queue, hretried.requeued]
        exact List.mem_append_right _ (List.mem_singleton.mpr rfl)
      · rw [UInt16.le_iff_toNat_le, hsucc]
        exact UInt16.lt_iff_toNat_lt.mp hleft
      · rw [hruns, List.length_append, count, hsucc]
        rfl
      · intro d hd
        rcases List.mem_append.mp (hruns ▸ hd) with hd | hd
        · exact retried d hd
        · cases List.mem_singleton.mp hd
          exact hretried
    · refine .ended (h.runs check.resolveTx) (completion h.exec check e)
        (hopened.trans_eq hc.opened.symm) ?_ hruns le count retried hfinal rfl hheard
      have hchannels : e.channels =
          channels { h.exec with running := h.exec.running.eraseIdx i } := by
        simp only [channels, CheckExecutor.live]
        rw [hc.queue, hc.running, hfinal.requeued_nil, List.append_nil]
      show check.resolveTx ∉ e.channels
      rw [hchannels]
      exact (List.nodup_cons.mp ((channels_eraseIdx hi).nodup_iff.mp hwf.nodup)).1

end

/-- The end of a run goes on with the story of its check. -/
theorem Told.finish (ht : Told conf h) {i : Nat} {check : ScheduledCheck}
    {readings : CheckReadings} {e : CheckExecutor} (hi : h.exec.running[i]? = some check)
    (hf : h.exec.finish conf i readings = some e) :
    Told conf ⟨e, h.done ++ [completion h.exec check e]⟩ := by
  have hwf := ht.wellFormed.finish hf
  have hmem : check ∈ h.exec.live := List.mem_append_right _ (List.mem_of_getElem? hi)
  have hpending := ht.wellFormed.pending _ (List.mem_map_of_mem hmem)
  have hc : Completes conf { h.exec with running := h.exec.running.eraseIdx i } check e := by
    simp only [CheckExecutor.finish, hi, Option.map_some, Option.some.injEq] at hf
    subst hf
    exact completes_doCheck readings ht.queueOpen hpending
  refine ⟨hwf, hc.queueOpen.trans ht.queueOpen, ?_, ?_⟩
  · rw [hc.produced, List.flatMap_append, ← ht.produced, List.flatMap_singleton]
    rfl
  intro channel
  by_cases hne : channel = check.resolveTx
  · subst hne
    exact (ht.story _).finish_own ht.wellFormed hi hc
  · exact (ht.story channel).finish_other hi hne hc

/-! ## Runs of the executor -/

/-- Every step of a run without cancellation keeps the invariant. -/
theorem Told.step (ht : Told conf h) {a : Event} {h' : History} (hstep : Step conf h a h') :
    Told conf h' := by
  cases hstep with
  | queueCheck hq => exact ht.queueCheck hq
  | start hst => exact ht.start hst
  | finish hi hf => exact ht.finish hi hf
  | dropReceivers channels => exact ht.dropReceivers channels

theorem told_reachable (hs : (uncancelled conf).Reachable h) : Told conf h := by
  refine hs.invariant ?_ ?_
  · intro h hinit
    cases hinit
    exact told_new
  · intro h a h' ht hstep
    exact ht.step hstep

/-- No check is lost while someone waits: it is live, or resolved, or its receiver is gone. -/
theorem resolved_or_unheard (hs : (uncancelled conf).Reachable h) {channel : Nat}
    (hopened : channel < h.exec.opened) :
    channel ∈ h.exec.channels ∨ (∃ d ∈ h.runs channel, d.isResolved = true) ∨
      (h.exec.oneshots channel).receiver = false := by
  cases (told_reachable hs).story channel with
  | unopened opened => omega
  | live check mem owns => exact .inl (owns ▸ List.mem_map_of_mem mem)
  | ended retries last opened gone runs le count retried final message heard =>
    refine .inr (heard.imp_left fun hres => ⟨last, ?_, hres⟩)
    rw [runs]
    exact List.mem_append_right _ (List.mem_singleton.mpr rfl)

/-- A run for a retry resolves nothing. -/
theorem Completion.Retried.isResolved_eq_false {d : Completion} (hd : d.Retried conf) :
    d.isResolved = false := by
  rw [Completion.isResolved, hd.message]

private theorem isResolved_of_sent {d : Completion} {outcome : Option CheckResult}
    (hd : d.message = .sent outcome) : d.isResolved = true := by
  rw [Completion.isResolved, hd]

/-- A run that resolved its check was the last one for it. -/
private theorem Story.of_resolved {channel : Nat} (hs : Story conf h channel) {d : Completion}
    (hd : d ∈ h.runs channel) (hres : d.isResolved = true) :
    ∃ retries, h.runs channel = retries ++ [d] ∧ (∀ d' ∈ retries, d'.Retried conf) ∧
      d.check.retryCount ≤ conf.failureRetries ∧ d.Final conf ∧ channel ∉ h.exec.channels := by
  cases hs with
  | unopened opened runs => exact (List.not_mem_nil (runs ▸ hd)).elim
  | live check mem owns le count retried =>
    rw [(retried d hd).isResolved_eq_false] at hres
    cases hres
  | ended retries last opened gone runs le count retried final =>
    rcases List.mem_append.mp (runs ▸ hd) with hd | hd
    · rw [(retried d hd).isResolved_eq_false] at hres
      cases hres
    · cases List.mem_singleton.mp hd
      exact ⟨retries, runs, retried, le, final, gone⟩

/-- There is one run for the check and one for each of its retries, at most, with the one that may
still come. -/
private theorem Told.runs_le (ht : Told conf h) (channel : Nat) :
    (h.runs channel).length + h.exec.channels.count channel ≤ conf.failureRetries.toNat + 1 := by
  cases ht.story channel with
  | unopened opened runs =>
    have hcount : h.exec.channels.count channel = 0 :=
      List.count_eq_zero.mpr fun hmem => Nat.not_lt.mpr opened (ht.wellFormed.lt_opened hmem)
    rw [runs, hcount]
    exact Nat.zero_le _
  | live check mem owns le count =>
    have hone := List.nodup_iff_count_le_one.mp ht.wellFormed.nodup channel
    have hle := UInt16.le_iff_toNat_le.mp le
    omega
  | ended retries last opened gone runs le count =>
    have hle := UInt16.le_iff_toNat_le.mp le
    rw [runs, List.count_eq_zero.mpr gone, List.length_append, count, List.length_singleton]
    omega

/-- What a receiver is sent is what some run of its check resolved it with. -/
private theorem Told.message_iff (ht : Told conf h) (channel : Nat)
    (outcome : Option CheckResult) :
    (h.exec.oneshots channel).message = .sent outcome ↔
      ∃ d ∈ h.runs channel, d.message = .sent outcome := by
  cases ht.story channel with
  | unopened opened runs => simp [runs, ht.wellFormed.fresh channel opened]
  | live check mem owns le count retried =>
    have hpending := ht.wellFormed.pending channel (owns ▸ List.mem_map_of_mem mem)
    constructor
    · intro hsent
      rw [hpending] at hsent
      cases hsent
    · intro ⟨d, hd, hsent⟩
      rw [(retried d hd).message] at hsent
      cases hsent
  | ended retries last opened gone runs le count retried final message =>
    constructor
    · intro hsent
      refine ⟨last, ?_, message.symm.trans hsent⟩
      rw [runs]
      exact List.mem_append_right _ (List.mem_singleton.mpr rfl)
    · intro ⟨d, hd, hsent⟩
      rcases List.mem_append.mp (runs ▸ hd) with hd | hd
      · rw [(retried d hd).message] at hsent
        cases hsent
      · cases List.mem_singleton.mp hd
        exact message.trans hsent

/-- However checks are queued, run and retried, there is one outcome for each: at most one of its
runs resolves it, and that one is the last and queues nothing; there are at most as many runs as
retries and one more; an uptime check is resolved with the one result that was handed to the
producer for it, and with a failure only once there are no retries left. -/
theorem one_outcome (hs : (uncancelled conf).Reachable h) (channel : Nat) :
    (h.runs channel).countP (·.isResolved) ≤ 1 ∧
      (∀ d ∈ h.runs channel, d.isResolved = true →
        d.requeued = [] ∧ (h.runs channel).getLast? = some d ∧ channel ∉ h.exec.channels) ∧
      (h.runs channel).length + h.exec.channels.count channel ≤ conf.failureRetries.toNat + 1 ∧
      (∀ d ∈ h.runs channel, ∀ outcome, d.message = .sent outcome → d.check.kind = .uptime →
        ∃ result, outcome = some result ∧ d.handed = [result] ∧
          (h.runs channel).flatMap (·.handed) = [result] ∧
          (result.status = .failure → d.check.retryCount = conf.failureRetries)) ∧
      (∀ outcome, (h.exec.oneshots channel).message = .sent outcome ↔
        ∃ d ∈ h.runs channel, d.message = .sent outcome) ∧
      h.exec.produced = h.done.flatMap (·.handed) := by
  have ht := told_reachable hs
  refine ⟨?_, ?_, ht.runs_le channel, ?_, ht.message_iff channel, ht.produced⟩
  · by_cases hany : ∃ d ∈ h.runs channel, d.isResolved = true
    · obtain ⟨d, hd, hres⟩ := hany
      obtain ⟨retries, hruns, hretried, -⟩ := (ht.story channel).of_resolved hd hres
      have hzero : retries.countP (·.isResolved) = 0 := by
        rw [List.countP_eq_zero]
        intro d' hd'
        simp [(hretried d' hd').isResolved_eq_false]
      rw [hruns, List.countP_append, hzero]
      simp [hres]
    · have hzero : (h.runs channel).countP (·.isResolved) = 0 :=
        List.countP_eq_zero.mpr fun d hd hres => hany ⟨d, hd, hres⟩
      omega
  · intro d hd hres
    obtain ⟨retries, hruns, -, -, hfinal, hgone⟩ := (ht.story channel).of_resolved hd hres
    refine ⟨hfinal.requeued_nil, ?_, hgone⟩
    rw [hruns, List.getLast?_concat]
  · intro d hd outcome hsent hkind
    obtain ⟨retries, hruns, hretried, hle, hfinal, -⟩ :=
      (ht.story channel).of_resolved hd (isResolved_of_sent hsent)
    have hhanded : retries.flatMap (·.handed) = [] :=
      List.flatMap_eq_nil_iff.mpr fun d' hd' => (hretried d' hd').handed
    cases hfinal with
    | resolved result handed requeued message failed =>
      rw [message] at hsent
      cases hsent
      refine ⟨result, rfl, handed, ?_, fun hstatus => UInt16.le_antisymm hle (failed hstatus)⟩
      rw [hruns, List.flatMap_append, hhanded, List.flatMap_singleton, handed, List.nil_append]
    | passed kind =>
      rw [hkind] at kind
      cases kind
    | unheard requeued message =>
      rw [message] at hsent
      cases hsent

end

/-! ## A check that fails twice -/

def retryOnce : ExecutorConfig := ⟨1, 1, "default"⟩

/-- The clock at the epoch, and a checker that fails. -/
def failing : CheckReadings :=
  let epoch : DateTime := .timestampNanos (.ofNat 0)
  let result : CheckResult :=
    ⟨.fromU128 0, .fromU128 0, .failure, none, .fromU128 0, 0#64, epoch, epoch, epoch, epoch, none,
      none, none, [], "default", none⟩
  ⟨epoch, epoch, .fromU128 0, 0, result, none⟩

/-- Queued, and then run and failed, twice. -/
theorem one_outcome_retryOnce :
    ∃ h : History, (uncancelled retryOnce).Reachable h ∧ (h.runs 0).length = 2 ∧
      (h.runs 0).countP (·.isResolved) ≤ 1 ∧
      ∃ d ∈ h.runs 0, d.message = .sent (some failing.checkUrl) := by
  have h₀ : (uncancelled retryOnce).Reachable ⟨new, []⟩ := .init rfl
  have h₁ := h₀.step (.queueCheck
    (show new.queueCheck (Tick.fromTime failing.now) .default .uptime = some (_, _) from rfl))
  have h₂ := h₁.step (.start rfl)
  have h₃ := h₂.step (.finish rfl (show finish retryOnce _ 0 failing = some _ from rfl))
  have h₄ := h₃.step (.start rfl)
  have h₅ := h₄.step (.finish rfl (show finish retryOnce _ 0 failing = some _ from rfl))
  have houtcome := one_outcome h₅ 0
  exact ⟨_, h₅, rfl, houtcome.1, (houtcome.2.2.2.2.1 _).mp rfl⟩

end UptimeChecker.CheckExecutor
