import UptimeChecker.Laws.Producer.VectorProducer
import UptimeChecker.Lib.Tally

/-!
# The counter of pending items

Beside the `usize` counter runs one that has no bounds, to which each step adds what it adds to the
`usize`. The two agree modulo `2 ^ 64`, and the unbounded one is the payloads in the channel and in
the hands of the worker before its subtraction, less the producers that have yet to add. So at rest
it is right; but a payload is visible to the worker before it is counted, and a worker that is quick
enough takes the counter below zero.
-/

namespace UptimeChecker.VectorProducer

variable {ext : Externals} {conf : VectorRequestWorkerConfig} {s s' : State}

/-- The batch that was taken off the channel but not yet off the counter. -/
def Worker.uncounted : Worker → List Payload
  | .received batch => batch
  | _ => []

/-- What a step adds to the counter. -/
def Action.added (s : State) : Action → Int
  | .fetchAdd => 1
  | .fetchSub => -s.worker.uncounted.length
  | _ => 0

/-- The system with the unbounded counter. -/
def counting (ext : Externals) (conf : VectorRequestWorkerConfig) :
    Transition (State × Int) Action where
  init s := s = (initial, 0)
  step s a s' := (system ext conf).step s.1 a s'.1 ∧ s'.2 = s.2 + a.added s.1

/-- When the worker subtracts, no more producers have yet to add than there are payloads left in the
channel. -/
def CountedFirst (s : State × Int) (a : Action) : Prop :=
  a = .fetchSub → s.1.adding ≤ s.1.queue.length

/-- What the two counters are. -/
structure Balance (s : State) (count : Int) : Prop where
  balanced : count = s.queue.length + s.worker.uncounted.length - s.adding
  pendingItems : (s.pendingItems.toNat : Int) = count % 2 ^ 64

/-- A step of the system takes the unbounded counter along. -/
theorem counting_step {count : Int} {a : Action} (hstep : Step ext conf s a s') :
    (counting ext conf).step (s, count) a (s', count + a.added s) :=
  ⟨hstep, rfl⟩

/-- The unbounded counter is a tally of the system. -/
theorem tallied_of_counting {s : State × Int} (hs : (counting ext conf).Reachable s) :
    ((system ext conf).tallied fun s a => a.added s).Reachable s := by
  refine hs.mono ?_ ?_
  · intro s hinit
    rw [hinit]
    exact ⟨rfl, rfl⟩
  · intro s a s' hstep
    exact hstep

/-- A step changes the payloads in the channel and in the hands of the worker, less the producers
that have yet to add, by what it adds to the counter. -/
theorem step_balanced {a : Action} (hstep : Step ext conf s a s') :
    (s'.queue.length + s'.worker.uncounted.length - s'.adding : Int) =
      s.queue.length + s.worker.uncounted.length - s.adding + a.added s := by
  cases hstep with
  | produce alive hproduce =>
    obtain ⟨json, -, -, -, rfl⟩ := produceCheckerResult_eq_ok hproduce
    simp only [Action.added, List.length_append, List.length_singleton]
    omega
  | @fetchAdd n hadding =>
    simp only [Action.added]
    omega
  | dropSender idle => exact (Int.add_zero _).symm
  | @receive n phase pos le come =>
    simp only [Worker.uncounted, phase, Action.added, List.length_take, List.length_drop,
      List.length_nil]
    omega
  | @fetchSub batch phase =>
    split
    all_goals
      simp only [Action.added, State.returned, phase, Worker.uncounted, List.length_nil]
      omega
  | answer answer phase hbuilds =>
    split
    · simp [Action.added, State.returned, phase, Worker.uncounted]
    · split
      · simp [Action.added, phase, Worker.uncounted]
      · simp [Action.added, State.returned, phase, Worker.uncounted]
  | buildError phase hbuilds => simp [Action.added, State.returned, phase, Worker.uncounted]
  | wake phase => simp [Action.added, phase, Worker.uncounted]
  | shutdown phase gone empty => simp [Action.added, phase, Worker.uncounted]

theorem step_pendingItems {a : Action} (hstep : Step ext conf s a s') :
    (s'.pendingItems.toNat : Int) = (s.pendingItems.toNat + a.added s) % 2 ^ 64 := by
  cases hstep with
  | produce alive hproduce =>
    obtain ⟨json, -, -, -, rfl⟩ := produceCheckerResult_eq_ok hproduce
    exact UInt64.intCast_toNat_add_zero _
  | fetchAdd hadding => exact UInt64.intCast_toNat_add _ 1
  | @fetchSub batch phase =>
    simp only [Action.added, phase, Worker.uncounted]
    rw [UInt64.intCast_toNat_sub, UInt64.toNat_ofNat']
    omega
  | answer answer phase hbuilds =>
    split
    · exact UInt64.intCast_toNat_add_zero _
    · split
      · exact UInt64.intCast_toNat_add_zero _
      · exact UInt64.intCast_toNat_add_zero _
  | _ => exact UInt64.intCast_toNat_add_zero _

theorem balance_of_reachable {s : State × Int} (hs : (counting ext conf).Reachable s) :
    Balance s.1 s.2 := by
  have htallied := tallied_of_counting hs
  refine ⟨?_, ?_⟩
  · refine htallied.tally_eq (P := fun _ => True)
      (fun s => s.queue.length + s.worker.uncounted.length - s.adding) ?_ ?_ trivial
    · intro s hinit
      rw [hinit]
      rfl
    · intro s a s' hstep _
      exact ⟨trivial, step_balanced hstep⟩
  · refine htallied.word_eq (fun s => (s.pendingItems.toNat : Int)) ?_ ?_
    · intro s hinit
      rw [hinit]
      rfl
    · intro s a s' hstep
      exact step_pendingItems hstep

/-- The counter as it is meant: while the worker subtracts only what was added before, it never goes
below zero. -/
theorem count_nonneg {s : State × Int}
    (hs : ((counting ext conf).guarded CountedFirst).Reachable s) : 0 ≤ s.2 := by
  refine hs.invariant_of (P := fun s => 0 ≤ s.2)
    (fun s hs => balance_of_reachable hs.of_guarded) ?_ ?_
  · intro s hinit
    rw [hinit]
  · intro s a s' hbalance hnonneg ⟨hguard, hstep, hcount⟩
    have hbalanced := hbalance.balanced
    rw [hcount]
    cases a with
    | fetchSub =>
      have hle := hguard rfl
      simp only [Action.added]
      omega
    | fetchAdd =>
      simp only [Action.added]
      omega
    | _ => simpa only [Action.added, Int.add_zero] using hnonneg

/-- In a run whose worker subtracts only what was added before, the counter stays at or above zero,
the `usize` is the counter, and whenever nobody is about to add or to subtract it is the number of
payloads in the channel. A subtraction that comes too early takes it below zero. -/
theorem pendingItems_of_countedFirst :
    (∀ s : State × Int, ((counting ext conf).guarded CountedFirst).Reachable s →
      0 ≤ s.2 ∧ (s.1.pendingItems.toNat : Int) = s.2 % 2 ^ 64 ∧
      (s.1.adding = 0 → s.1.worker.uncounted = [] → s.2 = s.1.queue.length)) ∧
    ∀ s s' : State × Int, (counting ext conf).Reachable s →
      (counting ext conf).step s .fetchSub s' → (0 ≤ s'.2 ↔ CountedFirst s .fetchSub) := by
  constructor
  · intro s hs
    have hbalance := balance_of_reachable hs.of_guarded
    refine ⟨count_nonneg hs, hbalance.pendingItems, ?_⟩
    intro hadding huncounted
    rw [hbalance.balanced, hadding, huncounted]
    simp
  · intro s s' hs hstep
    have hbalanced := (balance_of_reachable hs).balanced
    rw [hstep.2]
    simp only [Action.added, CountedFirst, true_implies]
    omega

private theorem produce_missedAtEpoch :
    produceCheckerResult missedExternals initial missedAtEpoch =
      .ok { initial with
        queue := [missedAtEpochJson], adding := 1, accepted := [missedAtEpochJson] } := rfl

/-- One payload is produced and counted before the worker takes it. -/
theorem pendingItems_of_countedFirst_one :
    ∃ s, ((counting missedExternals retryingConfig).guarded CountedFirst).Reachable s ∧
      s.1.worker = .received [missedAtEpochJson] ∧ 0 ≤ s.2 := by
  have h₀ : ((counting missedExternals retryingConfig).guarded CountedFirst).Reachable
      (initial, 0) := .init rfl
  have h₁ := h₀.step (a := .produce) ⟨nofun, counting_step (.produce rfl produce_missedAtEpoch)⟩
  have h₂ := h₁.step (a := .fetchAdd) ⟨nofun, counting_step (.fetchAdd rfl)⟩
  have h₃ := h₂.step (a := .receive)
    ⟨nofun, counting_step (.receive rfl (by decide) (by decide : 1 ≤ 10) (by decide))⟩
  exact ⟨_, h₃, rfl, (pendingItems_of_countedFirst.1 _ h₃).1⟩

/-- A producer sends, and the worker receives and subtracts before the producer adds. -/
theorem pendingItems_below_zero :
    ∃ s, (counting missedExternals retryingConfig).Reachable s ∧ s.2 = -1 ∧
      s.1.pendingItems = 18446744073709551615 := by
  have h₀ : (counting missedExternals retryingConfig).Reachable (initial, 0) := .init rfl
  have h₁ := h₀.step (counting_step (.produce rfl produce_missedAtEpoch))
  have h₂ := h₁.step (counting_step (.receive rfl (by decide) (by decide : 1 ≤ 10) (by decide)))
  have h₃ := h₂.step (counting_step (.fetchSub rfl))
  exact ⟨_, h₃, by simp [Action.added, Worker.uncounted], rfl⟩

end UptimeChecker.VectorProducer
