import Mathlib.Init

/-!
# Transition systems

A system is a set of initial states and a labelled step relation. What holds of all its reachable
states is proved once, by `Reachable.invariant`: initially, and across each step. A system can be
GUARDED by a condition on the state before a step and its label; a run of the guarded system is a
run all of whose steps meet the condition.
-/

/-- A labelled transition system. -/
structure Transition (σ α : Type) where
  init : σ → Prop
  step : σ → α → σ → Prop

namespace Transition

variable {σ α : Type} {sys : Transition σ α}

/-- The states a system can come to. -/
inductive Reachable (sys : Transition σ α) : σ → Prop where
  | init {s : σ} (h : sys.init s) : Reachable sys s
  | step {s s' : σ} {a : α} (hs : Reachable sys s) (h : sys.step s a s') : Reachable sys s'

/-- What holds initially and is kept by every step holds of every reachable state. -/
theorem Reachable.invariant {P : σ → Prop} (hinit : ∀ s, sys.init s → P s)
    (hstep : ∀ s a s', P s → sys.step s a s' → P s') {s : σ} (hs : sys.Reachable s) : P s := by
  induction hs with
  | init h => exact hinit _ h
  | step _ h ih => exact hstep _ _ _ ih h

/-- An invariant may lean on one already known. -/
theorem Reachable.invariant_of {P Q : σ → Prop} (hQ : ∀ s, sys.Reachable s → Q s)
    (hinit : ∀ s, sys.init s → P s)
    (hstep : ∀ s a s', Q s → P s → sys.step s a s' → P s') {s : σ} (hs : sys.Reachable s) :
    P s := by
  induction hs with
  | init h => exact hinit _ h
  | step hr h ih => exact hstep _ _ _ (hQ _ hr) ih h

/-- A system that does less comes to fewer states. -/
theorem Reachable.mono {sys' : Transition σ α} (hinit : ∀ s, sys.init s → sys'.init s)
    (hstep : ∀ s a s', sys.step s a s' → sys'.step s a s') {s : σ} (hs : sys.Reachable s) :
    sys'.Reachable s := by
  induction hs with
  | init h => exact .init (hinit _ h)
  | step _ h ih => exact .step ih (hstep _ _ _ h)

/-- The same system, confined to steps that meet a condition. -/
def guarded (sys : Transition σ α) (ok : σ → α → Prop) : Transition σ α where
  init := sys.init
  step s a s' := ok s a ∧ sys.step s a s'

/-- A run whose steps meet a condition is a run. -/
theorem Reachable.of_guarded {ok : σ → α → Prop} {s : σ} (hs : (sys.guarded ok).Reachable s) :
    sys.Reachable s := by
  refine hs.mono ?_ ?_
  · intro s h
    exact h
  · intro s a s' h
    exact h.2

/-- A condition that always holds confines nothing. -/
theorem Reachable.guarded {ok : σ → α → Prop} (hok : ∀ s a s', sys.step s a s' → ok s a) {s : σ}
    (hs : sys.Reachable s) : (sys.guarded ok).Reachable s := by
  refine hs.mono ?_ ?_
  · intro s h
    exact h
  · intro s a s' h
    exact ⟨hok s a s' h, h⟩

end Transition
