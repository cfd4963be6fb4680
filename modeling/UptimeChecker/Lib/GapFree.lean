import Mathlib.Data.Int.SuccPred
import Mathlib.Order.Interval.Set.Defs

/-!
# Sets without gaps

A set has no gap from a point on when it has everything between that point and each of its members.
Work that is taken up again no later than right after something already done leaves no gap
(`GapFree.resume`).
-/

variable {α : Type} [LinearOrder α]

/-- Everything from `first` up to a member is a member. -/
def GapFree (first : α) (s : Set α) : Prop := ∀ n ∈ s, Set.Icc first n ⊆ s

/-- A second set without gaps that starts no later than right after a member of the first one closes
up with it. -/
theorem GapFree.resume [SuccOrder α] {first start done : α} {s t : Set α} (hs : GapFree first s)
    (ht : GapFree start t) (hdone : done ∈ s) (hstart : start ≤ Order.succ done) :
    GapFree first (t ∪ s) := by
  rintro n (hn | hn) u ⟨hfirst, hu⟩
  · rcases le_or_gt start u with hle | hlt
    · exact .inl (ht n hn ⟨hle, hu⟩)
    · exact .inr (hs done hdone ⟨hfirst, Order.le_of_lt_succ (lt_of_lt_of_le hlt hstart)⟩)
  · exact .inr (hs n hn ⟨hfirst, hu⟩)
