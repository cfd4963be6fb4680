import Mathlib.Algebra.BigOperators.Group.List.Basic
import UptimeChecker.Laws.Outcomes
import UptimeChecker.Lib.Run

/-!
# First come, first served

The runs of an executor are recorded here with the checks that were put into its queue and those
that were taken out of it, both in order. A check is started by the start whose number is its place
in the queue, whatever is queued, retried and finished meanwhile (`started_in_order`).

The executor also comes to an end with what it has: every check it starts or finishes lowers
`workLeft`, which only a check that is queued from outside raises (`work_runs_out`).
-/

namespace UptimeChecker.CheckExecutor

/-- An executor, the checks its queue was sent, and those that were started. -/
structure Order where
  exec : CheckExecutor
  sent : List ScheduledCheck
  started : List ScheduledCheck

/-- What a step put at the end of the queue. -/
def sentBy (e e' : CheckExecutor) : List ScheduledCheck := e'.queue.drop e.queue.length

/-- One step, with the checks it sends or starts. -/
inductive OrderStep (conf : ExecutorConfig) (s : Order) : Event → Order → Prop where
  | queueCheck {tick : Tick} {config : CheckConfig} {kind : CheckKind} {e : CheckExecutor}
      {channel : Nat} (hq : s.exec.queueCheck tick config kind = some (e, channel)) :
      OrderStep conf s .queueCheck ⟨e, s.sent ++ sentBy s.exec e, s.started⟩
  | start {check : ScheduledCheck} {e : CheckExecutor} (hhead : s.exec.queue.head? = some check)
      (hst : s.exec.start conf = some e) :
      OrderStep conf s .start ⟨e, s.sent, s.started ++ [check]⟩
  | finish {i : Nat} {readings : CheckReadings} {e : CheckExecutor}
      (hf : s.exec.finish conf i readings = some e) :
      OrderStep conf s .finish ⟨e, s.sent ++ sentBy s.exec e, s.started⟩
  | dropReceivers (channels : List Nat) :
      OrderStep conf s .dropReceivers ⟨s.exec.dropReceivers channels, s.sent, s.started⟩

/-- The executor without cancellation, from its start. -/
def ordered (conf : ExecutorConfig) : Transition Order Event where
  init s := s = ⟨new, [], []⟩
  step := OrderStep conf

section
variable {conf : ExecutorConfig} {e e' : CheckExecutor} {s s' : Order} {labels : List Event}

/-- The end of a check puts at most the check itself back, at the end. -/
theorem queue_finish {i : Nat} {readings : CheckReadings}
    (h : e.finish conf i readings = some e') : e'.queue = e.queue ++ sentBy e e' := by
  have happend : ∀ checks, e'.queue = e.queue ++ checks → e'.queue = e.queue ++ sentBy e e' := by
    intro checks hqueue
    rw [sentBy, hqueue, List.drop_left]
  obtain ⟨check, -, hdo⟩ := finish_eq_some h
  cases hdo with
  | retried => exact happend _ rfl
  | resolved => exact happend [] (List.append_nil _).symm
  | passed => exact happend [] (List.append_nil _).symm
  | unheard => exact happend [] (List.append_nil _).symm
  | queueClosed => exact happend [] (List.append_nil _).symm
  | receiverGone => exact happend [] (List.append_nil _).symm

theorem queue_queueCheck {tick : Tick} {config : CheckConfig} {kind : CheckKind} {channel : Nat}
    (h : e.queueCheck tick config kind = some (e', channel)) :
    e'.queue = e.queue ++ sentBy e e' := by
  obtain ⟨-, -, rfl⟩ := queueCheck_eq_some h
  rw [sentBy]
  exact congrArg _ List.drop_left.symm

/-- What was sent has been started or is waiting, in the order it was sent. -/
theorem started_append_queue (hs : (ordered conf).Reachable s) :
    s.started ++ s.exec.queue = s.sent := by
  refine hs.invariant (P := fun s => s.started ++ s.exec.queue = s.sent) ?_ ?_
  · rintro s rfl
    rfl
  · intro s a s' h hstep
    cases hstep with
    | queueCheck hq =>
      show s.started ++ _ = _
      rw [queue_queueCheck hq, ← List.append_assoc, h]
    | @start check e hhead hst =>
      obtain ⟨head, rest, hqueue, -, rfl⟩ := start_eq_some hst
      rw [hqueue] at hhead h
      cases hhead
      rw [List.append_assoc]
      exact h
    | finish hf =>
      show s.started ++ _ = _
      rw [queue_finish hf, ← List.append_assoc, h]
    | dropReceivers channels => exact h

/-- Nothing that was sent is forgotten. -/
private theorem sent_isPrefix (hs : (ordered conf).Reachable s)
    (h : (ordered conf).Run s labels s') : s.sent <+: s'.sent := by
  refine h.keeps (R := fun s s' => s.sent <+: s'.sent) hs (List.prefix_refl _) ?_
  intro s' a s'' _ hsent hstep
  cases hstep with
  | queueCheck hq => exact hsent.trans (List.prefix_append _ _)
  | start hhead hst => exact hsent
  | finish hf => exact hsent.trans (List.prefix_append _ _)
  | dropReceivers channels => exact hsent

/-- What a run starts, it starts in steps of that name. -/
private theorem length_started (h : (ordered conf).Run s labels s') :
    s'.started.length = s.started.length + labels.count .start := by
  induction h with
  | nil => rfl
  | @snoc labels a s' s'' hrun hlast ih =>
    rw [List.count_append]
    cases hlast with
    | queueCheck hq => exact ih
    | start hhead hst =>
      rw [List.length_append, ih]
      rfl
    | finish hf => exact ih
    | dropReceivers channels => exact ih

/-- First come, first served: a check that waits behind `p` others is the one that the start after
`p` more starts takes, however the run goes on. A run without cancellation, that is: after one no
check is started. -/
theorem started_in_order (hs : (ordered conf).Reachable s)
    (h : (ordered conf).Run s labels s') {p : Nat} {check : ScheduledCheck}
    (hp : s.exec.queue[p]? = some check) (hlt : p < labels.count .start) :
    s'.started[s.started.length + p]? = some check := by
  have hlength := length_started h
  have hsent : s.sent[s.started.length + p]? = some check := by
    rw [← started_append_queue hs, List.getElem?_append_right (Nat.le_add_right _ _),
      Nat.add_sub_cancel_left]
    exact hp
  obtain ⟨later, hlater⟩ := sent_isPrefix hs h
  have hbound : s.started.length + p < s.sent.length :=
    (List.getElem?_eq_some_iff.mp hsent).1
  calc s'.started[s.started.length + p]?
      = s'.sent[s.started.length + p]? := by
        rw [← started_append_queue (h.reachable hs), List.getElem?_append_left (by omega)]
    _ = s.sent[s.started.length + p]? := by
        rw [← hlater, List.getElem?_append_left hbound]
    _ = some check := hsent

/-- Two checks are queued, one after the other; the second is started after the first has failed and
been queued again. -/
theorem started_in_order_retryOnce :
    ∃ s s' : Order, (ordered retryOnce).Reachable s ∧
      (ordered retryOnce).Run s [.start, .finish, .start] s' ∧
      s'.started[1]? = s.exec.queue[1]? := by
  have h₀ : (ordered retryOnce).Reachable ⟨new, [], []⟩ := .init rfl
  have h₁ := h₀.step (.queueCheck
    (show new.queueCheck (Tick.fromTime failing.now) .default .uptime = some (_, _) from rfl))
  have h₂ := h₁.step (.queueCheck
    (show queueCheck _ (Tick.fromTime failing.now) .default .robots = some (_, _) from rfl))
  have hrun₁ := (Transition.Run.here h₂).snoc (OrderStep.start rfl rfl)
  have hrun₂ := hrun₁.snoc
    (OrderStep.finish (show finish retryOnce _ 0 failing = some _ from rfl))
  have hrun := hrun₂.snoc (OrderStep.start rfl rfl)
  exact ⟨_, _, h₂, hrun, started_in_order h₂ hrun (p := 1) rfl (by decide)⟩

end

/-! ## Work runs out -/

section
variable {conf : ExecutorConfig} {e e' : CheckExecutor}

/-- The steps a check may still take: two for each run, less the one that being started is. -/
def ScheduledCheck.workLeft (conf : ExecutorConfig) (check : ScheduledCheck) : Nat :=
  2 * (conf.failureRetries.toNat - check.retryCount.toNat)

def workLeft (conf : ExecutorConfig) (e : CheckExecutor) : Nat :=
  (e.queue.map fun check => ScheduledCheck.workLeft conf check + 2).sum +
    (e.running.map fun check => ScheduledCheck.workLeft conf check + 1).sum

/-- The executor with some of its checks only, told by their channels. -/
def only (own : Nat → Bool) (e : CheckExecutor) : CheckExecutor :=
  { e with
    queue := e.queue.filter fun check => own check.resolveTx
    running := e.running.filter fun check => own check.resolveTx }

theorem only_all (e : CheckExecutor) : e.only (fun _ => true) = e := by
  simp [only]

/-- The start of a check is a step less for it. -/
theorem workLeft_only_start (own : Nat → Bool) {check : ScheduledCheck}
    (hhead : e.queue.head? = some check) (h : e.start conf = some e') :
    workLeft conf (e'.only own) + (own check.resolveTx).toNat = workLeft conf (e.only own) := by
  obtain ⟨head, rest, hqueue, -, rfl⟩ := start_eq_some h
  rw [hqueue] at hhead
  cases hhead
  cases hown : own check.resolveTx with
  | true =>
    simp only [workLeft, only, hqueue, List.filter_cons_of_pos, List.filter_append,
      List.filter_nil, hown, List.map_append, List.map_cons, List.map_nil, List.sum_append,
      List.sum_cons, List.sum_nil, Bool.toNat_true]
    omega
  | false =>
    simp [workLeft, only, hqueue, hown]

/-- The end of a check, which may be queued again, but with a retry less. -/
theorem workLeft_only_finish (own : Nat → Bool) {check : ScheduledCheck} {i : Nat}
    {readings : CheckReadings} (hi : e.running[i]? = some check)
    (h : e.finish conf i readings = some e') :
    workLeft conf (e'.only own) + (own check.resolveTx).toNat ≤ workLeft conf (e.only own) := by
  obtain ⟨check', hi', hdo⟩ := finish_eq_some h
  cases hi.symm.trans hi'
  obtain ⟨hlt, rfl⟩ := List.getElem?_eq_some_iff.mp hi
  have hperm := (List.getElem_cons_eraseIdx_perm hlt).filter fun check => own check.resolveTx
  have hsum := (hperm.map fun check => ScheduledCheck.workLeft conf check + 1).sum_eq
  have hgone : workLeft conf (only own { e with running := e.running.eraseIdx i }) +
      (own e.running[i].resolveTx).toNat ≤ workLeft conf (e.only own) := by
    cases hown : own e.running[i].resolveTx with
    | true =>
      simp only [List.filter_cons_of_pos, hown, List.map_cons, List.sum_cons] at hsum
      simp only [workLeft, only, Bool.toNat_true]
      omega
    | false =>
      rw [List.filter_cons_of_neg (by simp [hown])] at hsum
      simp only [workLeft, only, Bool.toNat_false]
      omega
  cases hdo with
  | retried left hopen =>
    have hcount : (e.running[i].retryCount + 1).toNat = e.running[i].retryCount.toNat + 1 := by
      rw [UInt16.lt_iff_toNat_lt] at left
      have hbound := conf.failureRetries.toNat_lt
      rw [UInt16.toNat_add]
      simp only [UInt16.reduceToNat]
      omega
    rw [UInt16.lt_iff_toNat_lt] at left
    cases hown : own e.running[i].resolveTx with
    | true =>
      simp only [List.filter_cons_of_pos, hown, List.map_cons, List.sum_cons] at hsum
      simp only [workLeft, only, List.filter_append, List.filter_cons_of_pos, List.filter_nil, hown,
        List.map_append, List.map_cons, List.map_nil, List.sum_append, List.sum_cons, List.sum_nil,
        ScheduledCheck.workLeft, hcount, Bool.toNat_true] at hsum ⊢
      omega
    | false =>
      rw [hown] at hgone
      simpa [workLeft, only, hown] using hgone
  | resolved => exact hgone
  | passed => exact hgone
  | unheard => exact hgone
  | queueClosed => exact hgone
  | receiverGone => exact hgone

theorem workLeft_start (h : e.start conf = some e') :
    workLeft conf e' + 1 = workLeft conf e := by
  obtain ⟨check, rest, hqueue, -, -⟩ := start_eq_some h
  have hwork := workLeft_only_start (fun _ => true) (by rw [hqueue]; rfl) h
  rwa [only_all, only_all] at hwork

theorem workLeft_finish {i : Nat} {readings : CheckReadings}
    (h : e.finish conf i readings = some e') : workLeft conf e' + 1 ≤ workLeft conf e := by
  obtain ⟨check, hi, -⟩ := finish_eq_some h
  have hwork := workLeft_only_finish (fun _ => true) hi h
  rwa [only_all, only_all] at hwork

/-- The start of a check leaves the queue open. -/
theorem queueOpen_start (h : e.start conf = some e') : e'.queueOpen = e.queueOpen := by
  obtain ⟨check, rest, -, -, rfl⟩ := start_eq_some h
  rfl

/-- The end of a check leaves the queue open, or closed. -/
theorem queueOpen_finish {i : Nat} {readings : CheckReadings}
    (h : e.finish conf i readings = some e') : e'.queueOpen = e.queueOpen := by
  obtain ⟨check, -, hdo⟩ := finish_eq_some h
  cases hdo <;> rfl

/-- While there is a check in an open executor, one can be started or finished. -/
theorem exists_start_or_finish (hopen : e.queueOpen = true) (hlive : e.live ≠ [])
    (readings : CheckReadings) :
    (∃ e', e.start conf = some e') ∨ ∃ i e', e.finish conf i readings = some e' := by
  cases hrunning : e.running with
  | cons check rest =>
    refine .inr ⟨0, doCheck conf { e with running := e.running.eraseIdx 0 } check readings, ?_⟩
    rw [finish, hrunning]
    rfl
  | nil =>
    cases hqueue : e.queue with
    | nil => exact absurd (by rw [live, hqueue, hrunning]; rfl) hlive
    | cons check rest =>
      refine .inl ⟨{ e with queue := rest, running := e.running ++ [check] }, ?_⟩
      have hroom : conf.concurrency = 0 ∨ 0 < conf.concurrency := Nat.eq_zero_or_pos _
      simp [start, hqueue, hopen, hrunning, hroom]

end

section
variable {conf : ExecutorConfig} {h h' : History} {labels : List Event}

/-- The steps the executor takes by itself. -/
def Event.isOwn (event : Event) : Bool := event = .start || event = .finish

/-- An executor that is not cancelled keeps its queue open. -/
private theorem queueOpen_of_reachable (hs : (uncancelled conf).Reachable h) :
    h.exec.queueOpen = true :=
  (told_reachable hs).queueOpen

/-- Its own steps lower the work left, and nothing but a new check raises it. -/
private theorem workLeft_step {a : Event} (ha : a ≠ .queueCheck)
    (hstep : (uncancelled conf).step h a h') :
    workLeft conf h'.exec + a.isOwn.toNat ≤ workLeft conf h.exec := by
  cases hstep with
  | queueCheck hq => exact absurd rfl ha
  | start hst => exact Nat.le_of_eq (workLeft_start hst)
  | finish hi hf => exact workLeft_finish hf
  | dropReceivers channels => exact Nat.le_refl _

/-- Work runs out: in a run in which nothing more is queued from outside, the executor takes at most
as many steps as it has work left; it can take one as long as a check is queued or being run; and
when there is none, every check has been resolved or nobody waits for it. -/
theorem work_runs_out (hs : (uncancelled conf).Reachable h)
    (hrun : (uncancelled conf).Run h labels h') (hlabels : ∀ a ∈ labels, a ≠ .queueCheck) :
    labels.countP Event.isOwn + workLeft conf h'.exec ≤ workLeft conf h.exec ∧
      (h'.exec.live ≠ [] →
        ∀ _ : CheckReadings, ∃ a h'', a.isOwn = true ∧ Step conf h' a h'') ∧
      (h'.exec.live = [] → ∀ channel < h'.exec.opened,
        (∃ d ∈ h'.runs channel, d.isResolved = true) ∨
          (h'.exec.oneshots channel).receiver = false) := by
  have hs' := hrun.reachable hs
  refine ⟨?_, ?_, ?_⟩
  · exact (hrun.countP_add_rank_le (P := (uncancelled conf).Reachable)
      (fun h => workLeft conf h.exec) Event.isOwn (· ≠ .queueCheck)
      (fun hs ha hstep => ⟨hs.step hstep, workLeft_step ha hstep⟩) hs hlabels).2
  · intro hlive readings
    obtain ⟨e, hst⟩ | ⟨i, e, hf⟩ :=
      @exists_start_or_finish conf _ (queueOpen_of_reachable hs') hlive readings
    · exact ⟨.start, _, rfl, .start hst⟩
    · obtain ⟨check, hi, -⟩ := finish_eq_some hf
      exact ⟨.finish, _, rfl, .finish hi hf⟩
  · intro hlive channel hopened
    obtain hmem | hdone := resolved_or_unheard hs' hopened
    · rw [channels, hlive] at hmem
      cases hmem
    · exact hdone

/-- A check that fails twice: four steps, and nothing is left. -/
theorem work_runs_out_retryOnce :
    ∃ h h' : History, (uncancelled retryOnce).Reachable h ∧ workLeft retryOnce h.exec = 4 ∧
      (uncancelled retryOnce).Run h [.start, .finish, .start, .finish] h' ∧
      ∀ channel < h'.exec.opened, (∃ d ∈ h'.runs channel, d.isResolved = true) ∨
        (h'.exec.oneshots channel).receiver = false := by
  have h₀ : (uncancelled retryOnce).Reachable ⟨new, []⟩ := .init rfl
  have h₁ := h₀.step (.queueCheck
    (show new.queueCheck (Tick.fromTime failing.now) .default .uptime = some (_, _) from rfl))
  have hrun₁ := (Transition.Run.here h₁).snoc (Step.start rfl)
  have hrun₂ := hrun₁.snoc
    (Step.finish rfl (show finish retryOnce _ 0 failing = some _ from rfl))
  have hrun₃ := hrun₂.snoc (Step.start rfl)
  have hrun₄ := hrun₃.snoc
    (Step.finish rfl (show finish retryOnce _ 0 failing = some _ from rfl))
  exact ⟨_, _, h₁, rfl, hrun₄, (work_runs_out h₁ hrun₄ (by decide)).2.2 rfl⟩

end

end UptimeChecker.CheckExecutor
