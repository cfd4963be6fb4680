import Mathlib.Algebra.Group.Int.Defs
import UptimeChecker.Lib.Transition

/-!
# Tallies

A TALLY is an integer next to a transition system, to which each step adds an amount of its own. It
is the ghost of a counter the system keeps in a machine word: the word is the tally modulo its
range, whatever happens. What the tally comes to is shown by a step lemma for the quantity it
counts, for as long as the system stays where that lemma applies.
-/

namespace Transition

variable {σ α : Type} {sys : Transition σ α} {added : σ → α → Int}

/-- A system with a tally next to it. -/
def tallied (sys : Transition σ α) (added : σ → α → Int) : Transition (σ × Int) α where
  init s := sys.init s.1 ∧ s.2 = 0
  step s a s' := sys.step s.1 a s'.1 ∧ s'.2 = s.2 + added s.1 a

/-- A tally does not change what the system can do. -/
theorem Reachable.of_tallied {s : σ × Int} (hs : (sys.tallied added).Reachable s) :
    sys.Reachable s.1 := by
  induction hs with
  | init h => exact .init h.1
  | step _ h ih => exact ih.step h.1

/-- Every run can be tallied. -/
theorem Reachable.tallied {s : σ} (hs : sys.Reachable s) :
    ∃ n, (sys.tallied added).Reachable (s, n) := by
  induction hs with
  | init h => exact ⟨0, .init ⟨h, rfl⟩⟩
  | @step s s' a _ h ih =>
    obtain ⟨n, hn⟩ := ih
    exact ⟨n + added s a, hn.step ⟨h, rfl⟩⟩

/-- A tally is the quantity each step changes by the amount it adds. The step lemma may be confined
to steps into states where `P` holds, if there is no other way into them than from such states. -/
theorem Reachable.tally_eq {P : σ → Prop} (quantity : σ → Int)
    (hinit : ∀ s, sys.init s → quantity s = 0)
    (hstep : ∀ s a s', sys.step s a s' → P s' → P s ∧ quantity s' = quantity s + added s a)
    {s : σ × Int} (hs : (sys.tallied added).Reachable s) (hP : P s.1) : s.2 = quantity s.1 := by
  induction hs with
  | init h => rw [h.2, hinit _ h.1]
  | step _ h ih =>
    obtain ⟨hP, hquantity⟩ := hstep _ _ _ h.1 hP
    rw [h.2, ih hP, hquantity]

/-- A word to which each step adds the same amount is the tally modulo its range. -/
theorem Reachable.word_eq (word : σ → Int) {range : Int} (hinit : ∀ s, sys.init s → word s = 0)
    (hstep : ∀ s a s', sys.step s a s' → word s' = (word s + added s a) % range)
    {s : σ × Int} (hs : (sys.tallied added).Reachable s) : word s.1 = s.2 % range := by
  induction hs with
  | init h => rw [h.2, hinit _ h.1, Int.zero_emod]
  | step _ h ih => rw [hstep _ _ _ h.1, ih, h.2, Int.emod_add_emod]

end Transition

/-! ## Words of 64 bits -/

/-- What an addition makes of a word, modulo its range. -/
theorem UInt64.intCast_toNat_add (word amount : UInt64) :
    ((word + amount).toNat : Int) = (word.toNat + amount.toNat) % 2 ^ 64 := by
  rw [UInt64.toNat_add]
  omega

theorem UInt64.intCast_toNat_sub (word amount : UInt64) :
    ((word - amount).toNat : Int) = (word.toNat + -amount.toNat) % 2 ^ 64 := by
  have hword := word.toNat_lt
  have hamount := amount.toNat_lt
  rw [UInt64.toNat_sub]
  omega

/-- A word that nothing is added to. -/
theorem UInt64.intCast_toNat_add_zero (word : UInt64) :
    (word.toNat : Int) = (word.toNat + 0) % 2 ^ 64 := by
  have hword := word.toNat_lt
  omega
