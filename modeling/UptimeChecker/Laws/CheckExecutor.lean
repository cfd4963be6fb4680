import Mathlib.Data.List.Perm.Basic
import UptimeChecker.CheckExecutor

/-!
# Laws of the check executor

A check that is queued or being run owns the sending half of its oneshot channel: the channel is
still pending, and no other check has it. `WellFormed` says so. Every operation of the executor
keeps it, and leaves a channel that has been resolved or dropped as it is.

`DoCheck` lists the ways a run of `do_check` can end, with what each of them needs and does.
-/

namespace UptimeChecker.CheckExecutor

/-- The checks that are queued or being run. -/
def live (e : CheckExecutor) : List ScheduledCheck := e.queue ++ e.running

/-- The channels those checks are to resolve. -/
def channels (e : CheckExecutor) : List Nat := e.live.map (·.resolveTx)

/-- Every live check owns a pending channel of its own; channels not yet opened hold nothing. -/
structure WellFormed (e : CheckExecutor) : Prop where
  nodup : e.channels.Nodup
  pending : ∀ i ∈ e.channels, (e.oneshots i).message = .pending
  fresh : ∀ i, e.opened ≤ i → (e.oneshots i).message = .dropped

/-- Channels that are not pending keep their message, and no channel is reopened. -/
structure Evolves (e e' : CheckExecutor) : Prop where
  message : ∀ i, i < e.opened → (e.oneshots i).message ≠ .pending →
    (e'.oneshots i).message = (e.oneshots i).message
  opened : e.opened ≤ e'.opened

theorem Evolves.refl (e : CheckExecutor) : Evolves e e := ⟨fun _ _ _ => rfl, Nat.le_refl _⟩

theorem WellFormed.lt_opened {e : CheckExecutor} (h : e.WellFormed) {i : Nat}
    (hi : i ∈ e.channels) : i < e.opened := by
  by_contra hge
  have hdropped := h.fresh i (Nat.le_of_not_lt hge)
  rw [h.pending i hi] at hdropped
  cases hdropped

/-- A channel with a sent result is not pending, and so keeps a result. -/
theorem Evolves.sent {e e' : CheckExecutor} (h : Evolves e e') {i : Nat} (hi : i < e.opened)
    {result : Option CheckResult} (hsent : (e.oneshots i).message = .sent result) :
    (e'.oneshots i).message = .sent result := by
  rw [h.message i hi (by rw [hsent]; intro h; cases h), hsent]

theorem wellFormed_new : new.WellFormed :=
  ⟨List.nodup_nil, fun _ hi => (List.not_mem_nil hi).elim, fun _ _ => rfl⟩

/-- Fewer live checks, with the same messages. -/
private theorem WellFormed.of_subperm {e e' : CheckExecutor} (h : e.WellFormed)
    (hsub : e'.channels.Subperm e.channels)
    (hmessage : ∀ i, i ∈ e'.channels ∨ e'.opened ≤ i →
      (e'.oneshots i).message = (e.oneshots i).message)
    (hopened : e'.opened = e.opened) : e'.WellFormed := by
  refine ⟨?_, ?_, ?_⟩
  · obtain ⟨l, hperm, hl⟩ := hsub
    exact hperm.nodup_iff.mp (h.nodup.sublist hl)
  · intro i hi
    rw [hmessage i (.inl hi)]
    exact h.pending i (hsub.subset hi)
  · intro i hi
    rw [hmessage i (.inr hi)]
    exact h.fresh i (hopened ▸ hi)

/-! ## Receivers -/

@[simp] theorem message_dropReceivers (e : CheckExecutor) (cs : List Nat) (i : Nat) :
    ((e.dropReceivers cs).oneshots i).message = (e.oneshots i).message := by
  simp only [dropReceivers]
  split <;> rfl

theorem receiver_dropReceivers (e : CheckExecutor) (cs : List Nat) {i : Nat} (hi : i ∉ cs) :
    ((e.dropReceivers cs).oneshots i).receiver = (e.oneshots i).receiver := by
  simp only [dropReceivers, if_neg hi]

theorem WellFormed.dropReceivers {e : CheckExecutor} (h : e.WellFormed) (cs : List Nat) :
    (e.dropReceivers cs).WellFormed :=
  h.of_subperm (List.Subperm.refl _) (fun i _ => message_dropReceivers e cs i) rfl

theorem evolves_dropReceivers (e : CheckExecutor) (cs : List Nat) :
    Evolves e (e.dropReceivers cs) :=
  ⟨fun i _ _ => message_dropReceivers e cs i, Nat.le_refl _⟩

/-! ## Queueing -/

/-- What a successful `queue_check` does. -/
theorem queueCheck_eq_some {e e' : CheckExecutor} {tick : Tick} {config : CheckConfig}
    {kind : CheckKind} {channel : Nat}
    (h : e.queueCheck tick config kind = some (e', channel)) :
    e.queueOpen = true ∧ channel = e.opened ∧
      e' = { e with
        queue := e.queue ++ [.new kind tick config false e.opened]
        opened := e.opened + 1
        oneshots := fun i => if i = e.opened then ⟨.pending, true⟩ else e.oneshots i } := by
  unfold queueCheck at h
  split at h
  · rename_i hopen
    cases h
    exact ⟨hopen, rfl, rfl⟩
  · cases h

section
variable {e e' : CheckExecutor} {tick : Tick} {config : CheckConfig} {kind : CheckKind}
  {channel : Nat}

theorem WellFormed.queueCheck (hwf : e.WellFormed)
    (h : e.queueCheck tick config kind = some (e', channel)) : e'.WellFormed := by
  obtain ⟨-, -, rfl⟩ := queueCheck_eq_some h
  have hperm : (channels { e with queue := e.queue ++ [.new kind tick config false e.opened] }).Perm
      (e.opened :: e.channels) := by
    simp only [channels, live, List.map_append, List.map_cons, List.map_nil, List.append_assoc]
    exact List.perm_middle
  have hnew : e.opened ∉ e.channels := fun hi => Nat.lt_irrefl _ (hwf.lt_opened hi)
  refine ⟨hperm.nodup_iff.mpr (List.nodup_cons.mpr ⟨hnew, hwf.nodup⟩), ?_, ?_⟩
  · intro i hi
    rcases List.mem_cons.mp (hperm.mem_iff.mp hi) with rfl | hi
    · simp
    · have hne : i ≠ e.opened := fun heq => hnew (heq ▸ hi)
      simp only [if_neg hne]
      exact hwf.pending i hi
  · intro i hi
    have hlt : e.opened < i := hi
    have hne : i ≠ e.opened := Nat.ne_of_gt hlt
    simp only [if_neg hne]
    exact hwf.fresh i (Nat.le_of_lt hlt)

theorem evolves_queueCheck (h : e.queueCheck tick config kind = some (e', channel)) :
    Evolves e e' := by
  obtain ⟨-, -, rfl⟩ := queueCheck_eq_some h
  refine ⟨?_, Nat.le_succ _⟩
  intro i hi _
  have hne : i ≠ e.opened := Nat.ne_of_lt hi
  simp only [if_neg hne]

end

/-! ## Running -/

/-- What starting a check does: it moves from the queue to the checks being run. -/
theorem start_eq_some {conf : ExecutorConfig} {e e' : CheckExecutor}
    (h : e.start conf = some e') :
    ∃ check rest, e.queue = check :: rest ∧ e.queueOpen = true ∧
      e' = { e with queue := rest, running := e.running ++ [check] } := by
  unfold start at h
  split at h
  · cases h
  · rename_i check rest hqueue
    split at h
    · rename_i hroom
      cases h
      rw [Bool.and_eq_true] at hroom
      exact ⟨check, rest, hqueue, hroom.1, rfl⟩
    · cases h

private theorem channels_start {e : CheckExecutor} {check : ScheduledCheck}
    {rest : List ScheduledCheck} (hqueue : e.queue = check :: rest) :
    (channels { e with queue := rest, running := e.running ++ [check] }).Perm e.channels := by
  simp only [channels, live, hqueue]
  apply List.Perm.map _
  rw [← List.append_assoc]
  exact List.perm_append_singleton _ _

theorem WellFormed.start {conf : ExecutorConfig} {e e' : CheckExecutor} (hwf : e.WellFormed)
    (h : e.start conf = some e') : e'.WellFormed := by
  obtain ⟨check, rest, hqueue, -, rfl⟩ := start_eq_some h
  exact hwf.of_subperm (channels_start hqueue).subperm (fun _ _ => rfl) rfl

theorem evolves_start {conf : ExecutorConfig} {e e' : CheckExecutor}
    (h : e.start conf = some e') : Evolves e e' := by
  obtain ⟨check, rest, -, -, rfl⟩ := start_eq_some h
  exact ⟨fun _ _ _ => rfl, Nat.le_refl _⟩

/-- The ways `do_check` ends, for a check that has left the checks being run. -/
inductive DoCheck (conf : ExecutorConfig) (e : CheckExecutor) (check : ScheduledCheck) :
    CheckExecutor → Prop where
  /-- Queued again, with one more retry counted. -/
  | retried (left : check.retryCount < conf.failureRetries) (h : e.queueOpen = true) :
    DoCheck conf e check
      { e with queue := e.queue ++ [{ check with retryCount := check.retryCount + 1 }] }
  /-- Resolved, with the result handed to the producer before. -/
  | resolved (result : CheckResult) (h : (e.oneshots check.resolveTx).receiver = true) :
    DoCheck conf e check
      ({ e with produced := e.produced ++ [result] }.setMessage check.resolveTx
        (.sent (some result)))
  /-- A robots check that passed. -/
  | passed (h : (e.oneshots check.resolveTx).receiver = true) :
    DoCheck conf e check (e.setMessage check.resolveTx (.sent none))
  /-- A robots check that passed, and nobody waits for it. -/
  | unheard (h : (e.oneshots check.resolveTx).receiver = false) : DoCheck conf e check e
  /-- The queue is closed, and the `expect` on it fails. -/
  | queueClosed (left : check.retryCount < conf.failureRetries) (h : e.queueOpen = false) :
    DoCheck conf e check { e with panicked := true }
  /-- The receiver is gone, and the `expect` on it fails. -/
  | receiverGone (result : CheckResult) (h : (e.oneshots check.resolveTx).receiver = false) :
    DoCheck conf e check { e with produced := e.produced ++ [result], panicked := true }

/-- Every run of `do_check` ends in one of these ways. -/
theorem doCheck_cases (conf : ExecutorConfig) (e : CheckExecutor) (check : ScheduledCheck)
    (readings : CheckReadings) : DoCheck conf e check (doCheck conf e check readings) := by
  unfold doCheck
  cases checkResult conf.region check readings with
  | none =>
    unfold recordResult
    cases hr : (e.oneshots check.resolveTx).receiver with
    | true => exact .passed hr
    | false => exact .unheard hr
  | some result =>
    simp only
    split
    · rename_i hretry
      simp only [willRetry, Bool.and_eq_true, decide_eq_true_eq] at hretry
      unfold queueCheckForRetry
      by_cases ho : e.queueOpen = true
      · rw [if_pos ho]
        exact .retried hretry.2 ho
      · rw [if_neg ho]
        exact .queueClosed hretry.2 (Bool.eq_false_iff.mpr ho)
    · unfold recordResult
      cases hr : (e.oneshots check.resolveTx).receiver with
      | true => exact .resolved result hr
      | false => exact .receiverGone result hr

/-- What the end of a check does: it leaves the checks being run, and goes its way. -/
theorem finish_eq_some {conf : ExecutorConfig} {e e' : CheckExecutor} {i : Nat}
    {readings : CheckReadings} (h : e.finish conf i readings = some e') :
    ∃ check, e.running[i]? = some check ∧
      DoCheck conf { e with running := e.running.eraseIdx i } check e' := by
  obtain ⟨check, hi, rfl⟩ := Option.map_eq_some_iff.mp h
  exact ⟨check, hi, doCheck_cases conf _ check readings⟩

/-- Taking a check out of those being run. -/
theorem channels_eraseIdx {e : CheckExecutor} {i : Nat} {check : ScheduledCheck}
    (hi : e.running[i]? = some check) :
    e.channels.Perm
      (check.resolveTx :: channels { e with running := e.running.eraseIdx i }) := by
  obtain ⟨hlt, rfl⟩ := List.getElem?_eq_some_iff.mp hi
  have hperm := List.getElem_cons_eraseIdx_perm hlt
  simp only [channels, live]
  rw [← List.map_cons]
  apply List.Perm.map _
  exact (List.Perm.append_left _ hperm.symm).trans List.perm_middle

section
variable {conf : ExecutorConfig} {e e' : CheckExecutor} {check : ScheduledCheck}

/-- A well-formed executor, less one check that still owns its channel. -/
private structure Holding (e : CheckExecutor) (check : ScheduledCheck) : Prop where
  wellFormed : e.WellFormed
  notMem : check.resolveTx ∉ e.channels
  pending : (e.oneshots check.resolveTx).message = .pending

private theorem Holding.lt_opened (h : Holding e check) : check.resolveTx < e.opened := by
  by_contra hge
  have hdropped := h.wellFormed.fresh _ (Nat.le_of_not_lt hge)
  rw [h.pending] at hdropped
  cases hdropped

private theorem WellFormed.holding (hwf : e.WellFormed) {i : Nat}
    (hi : e.running[i]? = some check) :
    Holding { e with running := e.running.eraseIdx i } check := by
  have hperm := channels_eraseIdx hi
  have hnodup := hperm.nodup_iff.mp hwf.nodup
  refine ⟨hwf.of_subperm ⟨_, List.Perm.refl _, ?_⟩ (fun _ _ => rfl) rfl,
    (List.nodup_cons.mp hnodup).1, hwf.pending _ (hperm.mem_iff.mpr List.mem_cons_self)⟩
  exact List.Sublist.map _ (List.Sublist.append_left (List.eraseIdx_sublist _ _) _)

/-- Resolving the channel of a check that is no longer live. -/
private theorem Holding.setMessage (h : Holding e check) (message : Message) :
    (e.setMessage check.resolveTx message).WellFormed := by
  refine h.wellFormed.of_subperm (List.Subperm.refl _) ?_ rfl
  intro i hi
  have hne : i ≠ check.resolveTx := by
    rintro rfl
    rcases hi with hi | hi
    · exact h.notMem hi
    · exact Nat.not_lt.mpr hi h.lt_opened
  show (if i = check.resolveTx then _ else _ : Oneshot).message = _
  rw [if_neg hne]

private theorem Holding.doCheck (h : Holding e check) (hdo : DoCheck conf e check e') :
    e'.WellFormed := by
  cases hdo with
  | retried left ho =>
    have hperm : (channels { e with
        queue := e.queue ++ [{ check with retryCount := check.retryCount + 1 }] }).Perm
        (check.resolveTx :: e.channels) := by
      simp only [channels, live, List.map_append, List.map_cons, List.map_nil, List.append_assoc]
      exact List.perm_middle
    refine ⟨hperm.nodup_iff.mpr (List.nodup_cons.mpr ⟨h.notMem, h.wellFormed.nodup⟩), ?_,
      h.wellFormed.fresh⟩
    intro i hi
    rcases List.mem_cons.mp (hperm.mem_iff.mp hi) with rfl | hi
    · exact h.pending
    · exact h.wellFormed.pending i hi
  | resolved result hr =>
    have h' : Holding { e with produced := e.produced ++ [result] } check :=
      ⟨⟨h.wellFormed.nodup, h.wellFormed.pending, h.wellFormed.fresh⟩, h.notMem, h.pending⟩
    exact h'.setMessage _
  | passed hr => exact h.setMessage _
  | unheard hr => exact h.wellFormed
  | queueClosed left ho => exact ⟨h.wellFormed.nodup, h.wellFormed.pending, h.wellFormed.fresh⟩
  | receiverGone result hr =>
    exact ⟨h.wellFormed.nodup, h.wellFormed.pending, h.wellFormed.fresh⟩

private theorem Holding.evolves (h : Holding e check) (hdo : DoCheck conf e check e') :
    Evolves e e' := by
  have hset : ∀ (e₁ : CheckExecutor) (message : Message), e₁.oneshots = e.oneshots →
      e₁.opened = e.opened → Evolves e (e₁.setMessage check.resolveTx message) := by
    intro e₁ message ho hopened
    refine ⟨?_, Nat.le_of_eq hopened.symm⟩
    intro i _ hi
    have hne : i ≠ check.resolveTx := fun heq => hi (heq ▸ h.pending)
    show (if i = check.resolveTx then _ else _ : Oneshot).message = _
    rw [if_neg hne, ho]
  cases hdo with
  | retried left ho => exact ⟨fun _ _ _ => rfl, Nat.le_refl _⟩
  | resolved result hr => exact hset _ _ rfl rfl
  | passed hr => exact hset _ _ rfl rfl
  | unheard hr => exact Evolves.refl e
  | queueClosed left ho => exact ⟨fun _ _ _ => rfl, Nat.le_refl _⟩
  | receiverGone result hr => exact ⟨fun _ _ _ => rfl, Nat.le_refl _⟩

end

theorem WellFormed.finish {conf : ExecutorConfig} {e e' : CheckExecutor} (hwf : e.WellFormed)
    {i : Nat} {readings : CheckReadings} (h : e.finish conf i readings = some e') :
    e'.WellFormed := by
  obtain ⟨check, hi, hdo⟩ := finish_eq_some h
  exact (hwf.holding hi).doCheck hdo

theorem WellFormed.evolves_finish {conf : ExecutorConfig} {e e' : CheckExecutor}
    (hwf : e.WellFormed) {i : Nat} {readings : CheckReadings}
    (h : e.finish conf i readings = some e') : Evolves e e' := by
  obtain ⟨check, hi, hdo⟩ := finish_eq_some h
  have hev := (hwf.holding hi).evolves hdo
  exact ⟨hev.message, hev.opened⟩

/-! ## Cancellation -/

private theorem message_cancel {e : CheckExecutor} {i : Nat}
    (hi : i ∉ e.queue.map (·.resolveTx)) :
    (e.cancel.oneshots i).message = (e.oneshots i).message := by
  simp only [cancel, if_neg hi]

theorem WellFormed.cancel {e : CheckExecutor} (hwf : e.WellFormed) : e.cancel.WellFormed := by
  have hsplit : e.channels = e.queue.map (·.resolveTx) ++ e.cancel.channels :=
    List.map_append
  have hdisjoint := List.disjoint_of_nodup_append (hsplit ▸ hwf.nodup)
  refine hwf.of_subperm (hsplit ▸ (List.sublist_append_right _ _).subperm) ?_ rfl
  intro i hi
  apply message_cancel
  intro hq
  rcases hi with hi | hi
  · exact hdisjoint hq hi
  · have hmem : i ∈ e.channels := hsplit ▸ List.mem_append_left _ hq
    exact Nat.not_lt.mpr hi (hwf.lt_opened hmem)

theorem WellFormed.evolves_cancel {e : CheckExecutor} (hwf : e.WellFormed) :
    Evolves e e.cancel := by
  refine ⟨fun i _ hi => message_cancel fun hq => hi (hwf.pending i ?_), Nat.le_refl _⟩
  have hsplit : e.channels = e.queue.map (·.resolveTx) ++ e.running.map (·.resolveTx) :=
    List.map_append
  exact hsplit ▸ List.mem_append_left _ hq

end UptimeChecker.CheckExecutor
