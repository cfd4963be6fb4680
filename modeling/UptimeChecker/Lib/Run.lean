import Mathlib.Data.List.Basic
import UptimeChecker.Lib.Transition

/-!
# Runs

A run of a transition system, with the labels of its steps. What every step passes on from one state
to the next is passed on along the run. A RANK that some steps lower and no other step raises bounds
how many of those steps a run has, so that a run of such steps comes to an end; it may look AHEAD,
at what the run comes to. A run of one system is one of another that it refines.
-/

namespace Transition

variable {σ α : Type} {sys : Transition σ α}

/-- The runs that start in a state. -/
inductive Run (sys : Transition σ α) (s : σ) : List α → σ → Prop where
  | nil : Run sys s [] s
  | snoc {labels : List α} {a : α} {s' s'' : σ} (h : Run sys s labels s')
    (hstep : sys.step s' a s'') : Run sys s (labels ++ [a]) s''

namespace Run

variable {s s' : σ} {labels : List α}

/-- The run that stays where it is. -/
theorem here (_ : sys.Reachable s) : sys.Run s [] s := .nil

/-- A run from a reachable state ends in one. -/
theorem reachable (h : sys.Run s labels s') (hs : sys.Reachable s) : sys.Reachable s' := by
  induction h with
  | nil => exact hs
  | snoc _ hstep ih => exact .step ih hstep

/-- A relation that every step passes on holds between the ends of a run. -/
theorem keeps {R : σ → σ → Prop} (h : sys.Run s labels s') (hs : sys.Reachable s) (hrefl : R s s)
    (hstep : ∀ {s' a s''}, sys.Reachable s' → R s s' → sys.step s' a s'' → R s s'') : R s s' := by
  induction h with
  | nil => exact hrefl
  | snoc hrun hlast ih => exact hstep (hrun.reachable hs) ih hlast

/-- What each step of one system is matched by in another, a run is: by a run with its labels. -/
theorem simulates {τ : Type} {sys' : Transition τ α} {R : σ → τ → Prop}
    (hstep : ∀ {s a s' t}, R s t → sys.step s a s' → ∃ t', sys'.step t a t' ∧ R s' t')
    (h : sys.Run s labels s') {t : τ} (hR : R s t) : ∃ t', sys'.Run t labels t' ∧ R s' t' := by
  induction h with
  | nil => exact ⟨t, .nil, hR⟩
  | snoc _ hlast ih =>
    obtain ⟨t', hrun, hR'⟩ := ih
    obtain ⟨t'', hlast', hR''⟩ := hstep hR' hlast
    exact ⟨t'', hrun.snoc hlast', hR''⟩

/-- What every step keeps, a run keeps. -/
theorem invariant {P : σ → Prop} (hkeeps : ∀ {s a s'}, P s → sys.step s a s' → P s')
    (h : sys.Run s labels s') (hs : P s) : P s' := by
  induction h with
  | nil => exact hs
  | snoc _ hlast ih => exact hkeeps ih hlast

private theorem countP_snoc (lowers : α → Bool) (labels : List α) (a : α) :
    (labels ++ [a]).countP lowers = labels.countP lowers + (lowers a).toNat := by
  rw [List.countP_append, List.countP_singleton]
  cases lowers a <;> rfl

/-- As long as a run has only steps that do not raise the rank, it has at most so many of those that
lower it. The step lemma may lean on an invariant that it keeps. -/
theorem countP_add_rank_le (rank : σ → Nat) (lowers : α → Bool) (ok : α → Prop) {P : σ → Prop}
    (hrank : ∀ {s a s'}, P s → ok a → sys.step s a s' →
      P s' ∧ rank s' + (lowers a).toNat ≤ rank s)
    (h : sys.Run s labels s') (hs : P s) (hok : ∀ a ∈ labels, ok a) :
    P s' ∧ labels.countP lowers + rank s' ≤ rank s := by
  induction h with
  | nil => exact ⟨hs, by simp⟩
  | @snoc labels a s' s'' hrun hlast ih =>
    obtain ⟨hP, hbefore⟩ := ih fun b hb => hok b (List.mem_append_left _ hb)
    obtain ⟨hP', hlowers⟩ := hrank hP (hok a (by simp)) hlast
    have hcount := countP_snoc lowers labels a
    exact ⟨hP', by omega⟩

/-- A rank may look AHEAD, at what a run comes to in its end, if no step looks further ahead than
the one before it. It bounds the steps that lower it just as well. -/
theorem countP_add_rank_le_ahead {τ : Type} (rank : τ → σ → Nat) (lowers : α → Bool)
    (ahead : σ → τ → Prop) {P : σ → Prop} (hkeeps : ∀ {s a s'}, P s → sys.step s a s' → P s')
    (hrank : ∀ {s a s' t}, P s → sys.step s a s' → ahead s' t →
      ahead s t ∧ rank t s' + (lowers a).toNat ≤ rank t s)
    (h : sys.Run s labels s') (hs : P s) {t : τ} (ht : ahead s' t) :
    labels.countP lowers + rank t s' ≤ rank t s := by
  induction h with
  | nil => simp
  | @snoc labels a s' s'' hrun hlast ih =>
    obtain ⟨hbefore, hlowers⟩ := hrank (hrun.invariant hkeeps hs) hlast ht
    have hbound := ih hbefore
    have hcount := countP_snoc lowers labels a
    omega

end Run

end Transition
