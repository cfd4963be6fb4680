import Mathlib.Init

/-!
# Metered computations

A computation that draws on a budget: from the amount left it answers an error, or a value and the
amount left afterwards. The ones a meter is meant for have a FIXED price: there is a cost below
which they answer the out-of-budget error and from which on they answer one and the same outcome,
handing back the rest of the budget. `Costs` says so, and it is closed under everything such
computations are built from, so a whole program is priced by pricing its primitives.

The outcome at the full price may itself be an error, the out-of-budget one included; an error
hands nothing back.
-/

namespace Metered

/-- A computation that draws on a budget. -/
abbrev Meter (ε α : Type) := StateT Nat (Except ε) α

variable {ε α β : Type}

/-- Draw an amount, or fail. -/
def consume (out : ε) (amount : Nat) : Meter ε Unit := fun budget =>
  if budget < amount then .error out else .ok ((), budget - amount)

/-- Fail at no price. -/
def fail (e : ε) : Meter ε α := fun _ => .error e

/-- Answer a result computed without the meter. -/
def answer (r : Except ε α) : Meter ε α := fun budget => r.map fun a => (a, budget)

/-- The outcome handed back with what is left of the budget. -/
def pay (r : Except ε α) (rest : Nat) : Except ε (α × Nat) := r.map fun a => (a, rest)

/-- The computation has a price: out of budget below it, one outcome from it on. -/
def Costs (out : ε) (m : Meter ε α) (cost : Nat) (r : Except ε α) : Prop :=
  ∀ budget, m budget = if budget < cost then .error out else pay r (budget - cost)

/-- The computation has some price and outcome. -/
def Priced (out : ε) (m : Meter ε α) : Prop := ∃ cost r, Costs out m cost r

variable {out : ε}

theorem bind_apply (m : Meter ε α) (f : α → Meter ε β) (budget : Nat) :
    (m >>= f) budget = (m budget).bind fun p => f p.1 p.2 := rfl

/-- A bind that succeeds did so in two halves. -/
theorem bind_eq_ok {m : Meter ε α} {f : α → Meter ε β} {budget rest : Nat} {b : β}
    (h : (m >>= f) budget = .ok (b, rest)) :
    ∃ a mid, m budget = .ok (a, mid) ∧ f a mid = .ok (b, rest) := by
  rw [bind_apply] at h
  cases hm : m budget with
  | error e => rw [hm] at h; cases h
  | ok p =>
    rw [hm] at h
    exact ⟨p.1, p.2, rfl, h⟩

/-- A bind that fails did so in one of its halves. -/
theorem bind_eq_error_iff {m : Meter ε α} {f : α → Meter ε β} {budget : Nat} {e : ε} :
    (m >>= f) budget = .error e ↔
      m budget = .error e ∨ ∃ a mid, m budget = .ok (a, mid) ∧ f a mid = .error e := by
  rw [bind_apply]
  cases hm : m budget with
  | error e' =>
    constructor
    · intro h
      cases h
      exact .inl rfl
    · rintro (h | ⟨a, mid, h, -⟩)
      · cases h
        rfl
      · cases h
  | ok p =>
    constructor
    · intro h
      exact .inr ⟨p.1, p.2, rfl, h⟩
    · rintro (h | ⟨a, mid, h, hf⟩)
      · cases h
      · cases h
        exact hf

/-- A bind whose first half succeeds goes on with the second. -/
theorem bind_ok {m : Meter ε α} {f : α → Meter ε β} {budget mid : Nat} {a : α}
    {r : Except ε (β × Nat)} (h : m budget = .ok (a, mid)) (hf : f a mid = r) :
    (m >>= f) budget = r := by
  rw [bind_apply, h]
  exact hf

theorem costs_pure (a : α) : Costs out (pure a : Meter ε α) 0 (.ok a) := fun _ => rfl

theorem costs_fail (e : ε) : Costs out (fail e : Meter ε α) 0 (.error e) := fun _ => rfl

theorem costs_answer (r : Except ε α) : Costs out (answer r) 0 r := fun _ => rfl

theorem costs_consume (amount : Nat) : Costs out (consume out amount) amount (.ok ()) :=
  fun _ => rfl

/-- Prices add up along a bind whose first half succeeds. -/
theorem Costs.bind {m : Meter ε α} {f : α → Meter ε β} {cost cost' : Nat} {a : α}
    {r : Except ε β} (hm : Costs out m cost (.ok a)) (hf : Costs out (f a) cost' r) :
    Costs out (m >>= f) (cost + cost') r := by
  intro budget
  rw [bind_apply, hm budget]
  by_cases h : budget < cost
  · rw [if_pos h, if_pos (by omega)]
    rfl
  · rw [if_neg h]
    show f a (budget - cost) = _
    rw [hf (budget - cost)]
    by_cases h' : budget < cost + cost'
    · rw [if_pos h', if_pos (by omega)]
    · rw [if_neg h', if_neg (by omega), Nat.sub_sub]

/-- A bind whose first half fails costs that half. -/
theorem Costs.bind_error {m : Meter ε α} (f : α → Meter ε β) {cost : Nat} {e : ε}
    (hm : Costs out m cost (.error e)) : Costs out (m >>= f) cost (.error e) := by
  intro budget
  rw [bind_apply, hm budget]
  by_cases h : budget < cost
  · rw [if_pos h, if_pos h]
    rfl
  · rw [if_neg h, if_neg h]
    rfl

theorem priced_pure (a : α) : Priced out (pure a : Meter ε α) := ⟨0, _, costs_pure a⟩

theorem priced_answer (r : Except ε α) : Priced out (answer r) := ⟨0, _, costs_answer r⟩

theorem priced_consume (amount : Nat) : Priced out (consume out amount) :=
  ⟨amount, _, costs_consume amount⟩

theorem Priced.bind {m : Meter ε α} {f : α → Meter ε β} (hm : Priced out m)
    (hf : ∀ a, Priced out (f a)) : Priced out (m >>= f) := by
  obtain ⟨cost, r, hm⟩ := hm
  cases r with
  | error e => exact ⟨cost, _, hm.bind_error f⟩
  | ok a =>
    obtain ⟨cost', r', hf⟩ := hf a
    exact ⟨cost + cost', r', hm.bind hf⟩

/-- A test at no price keeps a price. -/
theorem Priced.ite {m m' : Meter ε α} (c : Prop) [Decidable c] (hm : Priced out m)
    (hm' : Priced out m') : Priced out (if c then m else m') := by
  split
  · exact hm
  · exact hm'

/-- A run that succeeds paid the price and got the outcome. -/
theorem Costs.of_ok {m : Meter ε α} {cost : Nat} {r : Except ε α} (hm : Costs out m cost r)
    {budget rest : Nat} {a : α} (h : m budget = .ok (a, rest)) :
    cost ≤ budget ∧ rest = budget - cost ∧ r = .ok a := by
  rw [hm budget] at h
  split at h
  · cases h
  · cases r with
    | error e => cases h
    | ok b =>
      cases h
      exact ⟨by omega, rfl, rfl⟩

/-- At a budget that covers the price the outcome is answered. -/
theorem Costs.eq_ok {m : Meter ε α} {cost : Nat} {a : α} (hm : Costs out m cost (.ok a))
    {budget : Nat} (h : cost ≤ budget) : m budget = .ok (a, budget - cost) := by
  rw [hm budget, if_neg (by omega)]
  rfl

/-- A computation has one outcome at most. -/
theorem Costs.outcome_unique {m : Meter ε α} {cost cost' : Nat} {r r' : Except ε α}
    (h : Costs out m cost r) (h' : Costs out m cost' r') : r = r' := by
  have heq := (h (cost + cost')).symm.trans (h' (cost + cost'))
  rw [if_neg (by omega), if_neg (by omega)] at heq
  cases r with
  | error e =>
    cases r' with
    | error e' =>
      cases heq
      rfl
    | ok a' => cases heq
  | ok a =>
    cases r' with
    | error e' => cases heq
    | ok a' => rw [(Prod.mk.inj (Except.ok.inj heq)).1]

/-- Renaming the errors keeps the price, when it renames the out-of-budget error to its own. -/
theorem Costs.mapError {ε' : Type} {m : Meter ε α} {cost : Nat} {r : Except ε α}
    (hm : Costs out m cost r) (f : ε → ε') :
    Costs (f out) (fun budget => (m budget).mapError f) cost (r.mapError f) := by
  intro budget
  show (m budget).mapError f = _
  rw [hm budget]
  split
  · rfl
  · cases r <;> rfl

/-! ## Settling

A computation may answer some errors only when it is out of budget: at its price the outcome is
none of them. -/

/-- The computation has some price, and an outcome that is no error excluded. -/
def Settles (out : ε) (bad : ε → Prop) (m : Meter ε α) : Prop :=
  ∃ cost r, Costs out m cost r ∧ ∀ e, r = .error e → ¬ bad e

variable {bad : ε → Prop}

theorem Settles.priced {m : Meter ε α} (hm : Settles out bad m) : Priced out m := by
  obtain ⟨cost, r, hcost, -⟩ := hm
  exact ⟨cost, r, hcost⟩

theorem settles_pure (a : α) : Settles out bad (pure a : Meter ε α) := ⟨0, _, costs_pure a, nofun⟩

theorem settles_consume (amount : Nat) : Settles out bad (consume out amount) :=
  ⟨amount, _, costs_consume amount, nofun⟩

theorem settles_fail {e : ε} (h : ¬ bad e) : Settles out bad (fail e : Meter ε α) := by
  refine ⟨0, _, costs_fail e, ?_⟩
  intro e' he
  cases he
  exact h

theorem settles_answer {r : Except ε α} (h : ∀ e, r = .error e → ¬ bad e) :
    Settles out bad (answer r) :=
  ⟨0, r, costs_answer r, h⟩

/-- The second half of a bind matters for the values the first one answers. -/
theorem Settles.bind {m : Meter ε α} {f : α → Meter ε β} (hm : Settles out bad m)
    (hf : ∀ a, (∃ budget rest, m budget = .ok (a, rest)) → Settles out bad (f a)) :
    Settles out bad (m >>= f) := by
  obtain ⟨cost, r, hcost, hbad⟩ := hm
  cases r with
  | error e =>
    refine ⟨cost, _, hcost.bind_error f, ?_⟩
    intro e' he
    cases he
    exact hbad e rfl
  | ok a =>
    obtain ⟨cost', r', hcost', hbad'⟩ := hf a ⟨cost, _, hcost.eq_ok (Nat.le_refl _)⟩
    exact ⟨cost + cost', r', hcost.bind hcost', hbad'⟩

theorem Settles.ite {m m' : Meter ε α} (c : Prop) [Decidable c] (hm : c → Settles out bad m)
    (hm' : ¬ c → Settles out bad m') : Settles out bad (if c then m else m') := by
  split
  · exact hm ‹_›
  · exact hm' ‹_›

end Metered
